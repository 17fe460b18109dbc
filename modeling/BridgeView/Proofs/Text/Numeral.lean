import BridgeView.Text.Blank
import BridgeView.Text.Numeral
import Mathlib.Data.List.TakeWhile

/-!
# Numerals that are read back

Numbers are written as digits without leading zeros, in any base up to sixteen. Reading takes digits
one by one from the front, so what is written for a number is split at its last digit, and reading
the digits before it gives the quotient (`digitsValue?_toDigits`).

Decimal numerals are also described by what they look like, with a sign and between blank characters
(`numeral?_eq_some_iff`, `numeral?_trimBlank_eq_some_iff`).
-/

namespace BridgeView.Text

variable {base : Nat}

theorem digitValue?_eq_filter (fits : base ≤ 16) (character : Char) :
    digitValue? base character = (digitValue? 16 character).filter (· < base) := by
  rw [digitValue?, digitValue?, Option.filter_filter]
  congr 1
  funext value
  rw [← Bool.decide_and, decide_eq_decide]
  omega

theorem digitValue?_digitChar_of_lt (fits : base ≤ 16) {value : Nat} (isDigit : value < base) :
    digitValue? base (Nat.digitChar value) = some value := by
  rw [digitValue?_eq_filter fits, digitValue?_digitChar value (by omega)]
  simp [isDigit]

/-- Digits are read in two stretches as in one. -/
theorem digitsValue?_append (start : Nat) (front back : List Char) :
    digitsValue? base start (front ++ back) =
      (digitsValue? base start front).bind fun value => digitsValue? base value back := by
  induction front generalizing start with
  | nil => rfl
  | cons digit front ih =>
      rw [List.cons_append, digitsValue?, digitsValue?]
      cases digitValue? base digit with
      | none => rfl
      | some next => exact ih _

/-- Reading gives the number that was written. -/
theorem digitsValue?_toDigits (large : 1 < base) (fits : base ≤ 16) (number : Nat) :
    digitsValue? base 0 (Nat.toDigits base number) = some number := by
  induction number using Nat.strongRecOn with
  | ind number ih =>
      rcases Nat.lt_or_ge number base with oneDigit | more
      · rw [Nat.toDigits_of_lt_base oneDigit]
        simp [digitsValue?, digitValue?_digitChar_of_lt fits oneDigit]
      · have smaller : number / base < number := Nat.div_lt_self (by omega) large
        have last : number % base < base := Nat.mod_lt _ (by omega)
        rw [Nat.toDigits_of_base_le large more, digitsValue?_append, ih _ smaller]
        simp only [Option.bind_some, digitsValue?, digitValue?_digitChar_of_lt fits last]
        rw [Nat.mul_comm, Nat.div_add_mod]

/-- What is read as a number consists of digits. -/
theorem isSome_digitValue?_of_mem {start value : Nat} {digits : List Char}
    (read : digitsValue? base start digits = some value) :
    ∀ digit ∈ digits, (digitValue? base digit).isSome = true := by
  induction digits generalizing start with
  | nil => simp
  | cons first later ih =>
      rw [digitsValue?] at read
      cases isDigit : digitValue? base first with
      | none =>
          rw [isDigit] at read
          cases read
      | some next =>
          rw [isDigit] at read
          rw [List.forall_mem_cons]
          exact ⟨by rw [isDigit]; rfl, ih read⟩

/-- No digit stands at the front of the text. -/
def StartsNoDigit (base : Nat) (text : List Char) : Prop :=
  ∀ character ∈ text.head?, digitValue? base character = none

theorem startsNoDigit_nil : StartsNoDigit base [] := by
  simp [StartsNoDigit]

theorem startsNoDigit_cons {character : Char} (noDigit : digitValue? base character = none)
    (text : List Char) : StartsNoDigit base (character :: text) := by
  simpa [StartsNoDigit] using noDigit

/-- The digits at the front of a text end where no digit follows. -/
theorem takeWhile_digits_append {start value : Nat} {digits rest : List Char}
    (read : digitsValue? base start digits = some value) (ends : StartsNoDigit base rest) :
    (digits ++ rest).takeWhile (fun character => (digitValue? base character).isSome)
      = digits := by
  rw [List.takeWhile_append_of_pos (isSome_digitValue?_of_mem read)]
  cases rest with
  | nil => simp
  | cons next rest =>
      have noDigit : digitValue? base next = none := ends next rfl
      simp [noDigit]

theorem takeWhile_digits_eq_nil {text : List Char} (noDigit : StartsNoDigit base text) :
    text.takeWhile (fun character => (digitValue? base character).isSome) = [] :=
  takeWhile_digits_append (rfl : digitsValue? base 0 [] = some 0) noDigit

/-- Only the number zero is written with a zero at the front. -/
theorem head?_toDigits_ne_zero (large : 1 < base) (fits : base ≤ 16) {number : Nat}
    (positive : 0 < number) : (Nat.toDigits base number).head? ≠ some '0' := by
  induction number using Nat.strongRecOn with
  | ind number ih =>
      rcases Nat.lt_or_ge number base with oneDigit | more
      · have value := digitValue?_digitChar_of_lt fits oneDigit
        have zero : digitValue? base '0' = some 0 :=
          digitValue?_digitChar_of_lt fits (by omega : 0 < base)
        rw [Nat.toDigits_of_lt_base oneDigit]
        intro isZero
        rw [List.head?_cons, Option.some.injEq] at isZero
        rw [isZero, zero, Option.some.injEq] at value
        omega
      · have smaller : number / base < number := Nat.div_lt_self (by omega) large
        rw [Nat.toDigits_of_base_le large more, List.head?_append,
          Option.or_of_isSome (by simp [Nat.toDigits_ne_nil])]
        exact ih _ smaller (Nat.div_pos more (by omega))

theorem unsigned_of_digit {first : Char} (isDigit : (digitValue? base first).isSome = true)
    (later : List Char) : unsigned (first :: later) = first :: later := by
  rw [unsigned]
  rintro rest isPlus
  rw [List.cons.injEq] at isPlus
  have notDigit : digitValue? base '+' = none := rfl
  rw [isPlus.1, notDigit] at isDigit
  cases isDigit

theorem numeral?_of_digits {limit value : Nat} {digits : List Char}
    (read : digitsValue? base 0 digits = some value) (notEmpty : digits ≠ [])
    (small : value ≤ limit) : numeral? base limit digits = some value := by
  have isDigit := isSome_digitValue?_of_mem read
  match digits, notEmpty with
  | first :: later, _ =>
      rw [numeral?, unsigned_of_digit (isDigit first List.mem_cons_self)]
      simp [read, small]

/-! ## Decimal numerals -/

/-- The text is a decimal numeral: at least one digit, perhaps behind a plus sign. -/
inductive IsDecimal : List Char → Nat → Prop
  | unsigned {digits : List Char} (notEmpty : digits ≠ []) (areDigits : digits.all Char.isDigit) :
      IsDecimal digits (Nat.ofDigitChars 10 digits 0)
  | signed {digits : List Char} (notEmpty : digits ≠ []) (areDigits : digits.all Char.isDigit) :
      IsDecimal ('+' :: digits) (Nat.ofDigitChars 10 digits 0)

/-- The digits of a number are a decimal of it. -/
theorem isDecimal_toDigits (number : Nat) : IsDecimal (Nat.toDigits 10 number) number := by
  have areDigits : (Nat.toDigits 10 number).all Char.isDigit = true := by
    rw [List.all_eq_true]
    intro digit isThere
    exact Nat.isDigit_of_mem_toDigits (by omega) (by omega) isThere
  have written := IsDecimal.unsigned Nat.toDigits_ne_nil areDigits
  rwa [Nat.ofDigitChars_toDigits (by omega) (by omega)] at written

theorem isDigit_iff {character : Char} :
    character.isDigit = true ↔ 0x30 ≤ character.toNat ∧ character.toNat ≤ 0x39 :=
  Char.isDigit_iff_toNat

theorem digitValue?_ten (character : Char) :
    digitValue? 10 character =
      if character.isDigit then some (character.toNat - '0'.toNat) else none := by
  have zero : '0'.toNat = 0x30 := rfl
  simp only [digitValue?, isDigit_iff, zero]
  split
  · rw [Option.filter_some, if_pos (by simpa using by omega)]
  · -- Letters have values from ten on.
    split
    · simp
    · split <;> simp

theorem digitsValue?_ten (start : Nat) (digits : List Char) :
    digitsValue? 10 start digits =
      if digits.all Char.isDigit then some (Nat.ofDigitChars 10 digits start) else none := by
  induction digits generalizing start with
  | nil => rfl
  | cons digit later ih =>
      rw [digitsValue?, digitValue?_ten]
      by_cases isDigit : digit.isDigit
      · simp only [isDigit, if_true, List.all_cons, Bool.true_and, ih, Nat.ofDigitChars_cons]
        rw [Nat.mul_comm]
      · simp [isDigit]

theorem unsigned_cases (text : List Char) : unsigned text = text ∨ text = '+' :: unsigned text := by
  unfold unsigned
  split
  · exact Or.inr rfl
  · exact Or.inl rfl

/-- A decimal is what is read as digits after a sign. -/
theorem isDecimal_iff {text : List Char} {number : Nat} :
    IsDecimal text number ↔
      unsigned text ≠ [] ∧ digitsValue? 10 0 (unsigned text) = some number := by
  rw [digitsValue?_ten, Option.ite_none_right_eq_some, Option.some.injEq]
  constructor
  · intro isDecimal
    cases isDecimal with
    | signed notEmpty areDigits => exact ⟨notEmpty, areDigits, rfl⟩
    | unsigned notEmpty areDigits =>
        have same : unsigned text = text := by
          rcases unsigned_cases text with same | isSigned
          · exact same
          · rw [isSigned] at areDigits
            cases areDigits
        rw [same]
        exact ⟨notEmpty, areDigits, rfl⟩
  · rintro ⟨notEmpty, areDigits, rfl⟩
    rcases unsigned_cases text with same | isSigned
    · rw [same] at notEmpty areDigits ⊢
      exact IsDecimal.unsigned notEmpty areDigits
    · have written := IsDecimal.signed notEmpty areDigits
      rwa [← isSigned] at written

/-- A numeral is read if and only if it is a decimal within the limit. -/
theorem numeral?_eq_some_iff {limit number : Nat} {text : List Char} :
    numeral? 10 limit text = some number ↔ IsDecimal text number ∧ number ≤ limit := by
  rw [isDecimal_iff, numeral?]
  split
  · rename_i isEmpty
    simp [isEmpty]
  · rename_i notEmpty
    have wanted : unsigned text ≠ [] := notEmpty
    simp [Option.filter_eq_some_iff, wanted]

theorem IsDecimal.ne_nil {text : List Char} {number : Nat} (isDecimal : IsDecimal text number) :
    text ≠ [] := by
  cases isDecimal with
  | unsigned notEmpty areDigits => exact notEmpty
  | signed notEmpty areDigits => exact List.cons_ne_nil _ _

/-- Numerals are made of characters that are neither blank nor dashes. -/
theorem IsDecimal.of_mem {text : List Char} {number : Nat} (isDecimal : IsDecimal text number)
    {character : Char} (isThere : character ∈ text) :
    isBlank character = false ∧ character ≠ '-' := by
  have ofDigit (isDigit : character.isDigit = true) :
      isBlank character = false ∧ character ≠ '-' := by
    rw [isDigit_iff] at isDigit
    constructor
    · simp only [isBlank, Bool.or_eq_false_iff, Bool.and_eq_false_iff, decide_eq_false_iff_not,
        beq_eq_false_iff_ne]
      omega
    · rintro rfl
      exact absurd isDigit (by decide)
  cases isDecimal with
  | unsigned notEmpty areDigits => exact ofDigit (List.all_eq_true.mp areDigits _ isThere)
  | signed notEmpty areDigits =>
      rcases List.mem_cons.mp isThere with rfl | isDigit
      · decide
      · exact ofDigit (List.all_eq_true.mp areDigits _ isDigit)

/-- Behind a minus sign stands nothing but zero. -/
theorem signedDecimal?_eq_some_iff {limit number : Nat} {text : String} (positive : 0 < number) :
    signedDecimal? limit text = some number ↔ IsDecimal text.toList number ∧ number ≤ limit := by
  rw [← numeral?_eq_some_iff, signedDecimal?]
  have noDash (digits : List Char) : numeral? 10 limit ('-' :: digits) ≠ some number := by
    intro read
    exact ((numeral?_eq_some_iff.mp read).1.of_mem List.mem_cons_self).2 rfl
  generalize text.toList = characters
  split
  · simpa using noDash []
  · simp only [noDash, iff_false]
    intro read
    have isZero := (Option.filter_eq_some_iff.mp read).2
    rw [decide_eq_true_eq] at isZero
    omega
  · rfl

theorem le_of_signedDecimal? {limit number : Nat} {text : String}
    (read : signedDecimal? limit text = some number) : number ≤ limit := by
  rcases Nat.eq_zero_or_pos number with rfl | positive
  · exact Nat.zero_le _
  · exact ((signedDecimal?_eq_some_iff positive).mp read).2

/-! ## Numerals between blank characters -/

/-- The text is a decimal numeral that may stand between blank characters. -/
inductive Denotes : List Char → Nat → Prop
  | between {before numeral after : List Char} {number : Nat} (blankBefore : before.all isBlank)
      (isDecimal : IsDecimal numeral number) (blankAfter : after.all isBlank) :
      Denotes (before ++ numeral ++ after) number

/-- A decimal denotes its number without any white space around it. -/
theorem IsDecimal.denotes {text : List Char} {number : Nat} (isDecimal : IsDecimal text number) :
    Denotes text number := by
  have noBlank : ([] : List Char).all isBlank = true := rfl
  have alone := Denotes.between noBlank isDecimal noBlank
  rwa [List.nil_append, List.append_nil] at alone

theorem dropWhile_blank_append {blank rest : List Char} (areBlank : blank.all isBlank)
    (starts : ∃ first ∈ rest.head?, isBlank first = false) :
    (blank ++ rest).dropWhile isBlank = rest := by
  rw [List.dropWhile_append_of_pos (List.all_eq_true.mp areBlank)]
  rcases rest with _ | ⟨first, later⟩
  · simp at starts
  · rw [List.dropWhile_cons_of_neg (by simpa using starts)]

/-- Trimming takes away the white space around a numeral. -/
theorem trimBlank_append {before numeral after : List Char} (blankBefore : before.all isBlank)
    (blankAfter : after.all isBlank) (notEmpty : numeral ≠ [])
    (notBlank : ∀ character ∈ numeral, isBlank character = false) :
    trimBlank (before ++ numeral ++ after) = numeral := by
  have front : (before ++ (numeral ++ after)).dropWhile isBlank = numeral ++ after := by
    apply dropWhile_blank_append blankBefore
    refine ⟨numeral.head notEmpty, ?_, notBlank _ (List.head_mem notEmpty)⟩
    rw [List.head?_append, List.head?_eq_some_head notEmpty]
    rfl
  have back : (after.reverse ++ numeral.reverse).dropWhile isBlank = numeral.reverse := by
    apply dropWhile_blank_append (by rwa [List.all_reverse])
    refine ⟨numeral.getLast notEmpty, ?_, notBlank _ (List.getLast_mem notEmpty)⟩
    rw [List.head?_reverse, List.getLast?_eq_some_getLast notEmpty]
    rfl
  rw [trimBlank, List.append_assoc, front, List.reverse_append, back, List.reverse_reverse]

theorem exists_trimBlank (text : List Char) :
    ∃ before after, text = before ++ trimBlank text ++ after ∧ before.all isBlank ∧
      after.all isBlank := by
  refine ⟨text.takeWhile isBlank, ((text.dropWhile isBlank).reverse.takeWhile isBlank).reverse,
    ?_, List.all_takeWhile, by rw [List.all_reverse]; exact List.all_takeWhile⟩
  rw [trimBlank, List.append_assoc, ← List.reverse_append, List.takeWhile_append_dropWhile,
    List.reverse_reverse, List.takeWhile_append_dropWhile]

/-- A trimmed text is read if and only if the text denotes a number within the limit. -/
theorem numeral?_trimBlank_eq_some_iff {limit number : Nat} {text : List Char} :
    numeral? 10 limit (trimBlank text) = some number ↔ Denotes text number ∧ number ≤ limit := by
  rw [numeral?_eq_some_iff]
  constructor
  · rintro ⟨isDecimal, small⟩
    rcases exists_trimBlank text with ⟨before, after, split, blankBefore, blankAfter⟩
    rw [split]
    exact ⟨Denotes.between blankBefore isDecimal blankAfter, small⟩
  · rintro ⟨⟨blankBefore, isDecimal, blankAfter⟩, small⟩
    rw [trimBlank_append blankBefore blankAfter isDecimal.ne_nil
      fun _ isThere => (isDecimal.of_mem isThere).1]
    exact ⟨isDecimal, small⟩

theorem Denotes.number_unique {first second : Nat} {text : List Char} (one : Denotes text first)
    (other : Denotes text second) : first = second := by
  have readFirst := numeral?_trimBlank_eq_some_iff.mpr ⟨one, Nat.le_max_left first second⟩
  have readSecond := numeral?_trimBlank_eq_some_iff.mpr ⟨other, Nat.le_max_right first second⟩
  exact Option.some.inj (readFirst.symm.trans readSecond)

theorem Denotes.no_dash {text : List Char} {number : Nat} (denotes : Denotes text number) :
    '-' ∉ text := by
  have notBlank : isBlank '-' = false := by decide
  have notAmong {blank : List Char} (areBlank : blank.all isBlank) : '-' ∉ blank := by
    intro isThere
    rw [List.all_eq_true.mp areBlank _ isThere] at notBlank
    cases notBlank
  cases denotes with
  | between blankBefore isDecimal blankAfter =>
      rw [List.mem_append, List.mem_append, not_or, not_or]
      exact ⟨⟨notAmong blankBefore, fun isThere => (isDecimal.of_mem isThere).2 rfl⟩,
        notAmong blankAfter⟩

end BridgeView.Text
