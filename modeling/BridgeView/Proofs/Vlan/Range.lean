import BridgeView.Command.Vlan
import BridgeView.Proofs.Readers
import BridgeView.Proofs.Text.Numeral
import BridgeView.Proofs.Vlan.Request

/-!
# The VLANs a text names

A text names VLANs by one decimal number or by two with a dash between them, each of which may have
a plus sign, leading zeros and blank characters around it (`Names`). It is accepted if and only if
the numbers go upwards and lie between 1 and 4094, and whatever is not accepted is refused as
invalid input (`yields_ofCharacters`, `exists_ofCharacters_eq_ok`).

The VLANs so named are asked for by one record, or by two that are marked as the ends of a range
(`Records`).
-/

namespace BridgeView

open Text VlanFlags

namespace VlanRange

/-- The text names the VLANs from the first to the last one. -/
inductive Names : List Char → Nat → Nat → Prop
  | single {text : List Char} {number : Nat} (denotes : Denotes text number) :
      Names text number number
  | range {start finish : List Char} {first last : Nat} (starts : Denotes start first)
      (finishes : Denotes finish last) : Names (start ++ '-' :: finish) first last

/-- A text without a dash names one VLAN. -/
theorem names_iff_of_no_dash {text : List Char} {first last : Nat} (noDash : '-' ∉ text) :
    Names text first last ↔ Denotes text first ∧ last = first := by
  constructor
  · intro names
    cases names with
    | single denotes => exact ⟨denotes, rfl⟩
    | range starts finishes => simp at noDash
  · rintro ⟨denotes, rfl⟩
    exact Names.single denotes

/-- The VLANs from the first to the last one exist. -/
structure Usable (first last : UInt16) : Prop where
  positive : 1 ≤ first
  ordered : first ≤ last
  small : last ≤ 4094

/-- The last VLAN of the range, whether or not it is written. -/
def last (range : VlanRange) : UInt16 :=
  range.last?.getD range.first

/-- An error blames the input. -/
def IsInvalid (error : Error) : Prop :=
  ∃ fault, error = .invalidInput fault

variable {text : List Char}

/-- Reading a number gives one within the bounds that the text denotes, or blames the input. -/
theorem yields_readNumber (text : List Char) :
    Yields IsInvalid (fun number => Denotes text number.toNat ∧ 1 ≤ number ∧ number ≤ 4094)
      (readNumber text) := by
  rw [readNumber]
  split
  · exact .error ⟨_, rfl⟩
  · rename_i value read
    split
    · exact .error ⟨_, rfl⟩
    · rename_i inRange
      have fits : value < UInt16.size := Nat.lt_of_le_of_lt (by omega) (by decide : 4094 < _)
      have same : (UInt16.ofNat value).toNat = value := UInt16.toNat_ofNat_of_lt' fits
      refine .value ⟨?_, ?_, ?_⟩
      · rw [same]
        exact (numeral?_trimBlank_eq_some_iff.mp read).1
      · rw [UInt16.le_iff_toNat_le, same]
        change 1 ≤ value
        omega
      · rw [UInt16.le_iff_toNat_le, same]
        change value ≤ 4094
        omega

theorem readNumber_eq_ok {number : UInt16} (denotes : Denotes text number.toNat)
    (positive : 1 ≤ number) (small : number ≤ 4094) : readNumber text = .ok number := by
  have isPositive : 1 ≤ number.toNat := UInt16.le_iff_toNat_le.mp positive
  have isSmall : number.toNat ≤ 4094 := UInt16.le_iff_toNat_le.mp small
  have read : numeral? 10 65535 (trimBlank text) = some number.toNat :=
    numeral?_trimBlank_eq_some_iff.mpr ⟨denotes, by omega⟩
  rw [readNumber, read]
  dsimp only
  rw [if_neg (by omega), UInt16.ofNat_toNat]

theorem takeWhile_append_dash {start : List Char} (noDash : '-' ∉ start) (rest : List Char) :
    (start ++ rest).takeWhile (· != '-') = start ++ rest.takeWhile (· != '-') := by
  apply List.takeWhile_append_of_pos
  intro character isThere
  rw [bne_iff_ne]
  rintro rfl
  exact noDash isThere

theorem ofCharacters_of_no_dash (noDash : '-' ∉ text) :
    ofCharacters text = (readNumber text).map fun first => { first } := by
  have start := takeWhile_append_dash noDash []
  rw [List.append_nil, List.takeWhile_nil, List.append_nil] at start
  simp only [ofCharacters, start, List.drop_length]
  rfl

/-- A text with a dash is read number by number, and the range must not be reversed. -/
theorem ofCharacters_append {start : List Char} (noDash : '-' ∉ start) (finish : List Char) :
    ofCharacters (start ++ '-' :: finish) =
      (readNumber start).bind fun first => (readNumber finish).bind fun last =>
        if first ≤ last then .ok { first, last? := some last }
        else .error (.invalidInput .vlanRangeReversed) := by
  have isStart := takeWhile_append_dash noDash ('-' :: finish)
  rw [List.takeWhile_cons_of_neg (by decide), List.append_nil] at isStart
  simp only [ofCharacters, isStart, List.drop_left]
  rfl

/-- What is accepted names VLANs that exist, and all else is invalid. -/
theorem yields_ofCharacters (text : List Char) :
    Yields IsInvalid
      (fun range => Names text range.first.toNat range.last.toNat ∧ Usable range.first range.last)
      (ofCharacters text) := by
  by_cases dash : '-' ∈ text
  · rcases List.eq_append_cons_of_mem dash with ⟨start, finish, rfl, noDash⟩
    rw [ofCharacters_append noDash]
    apply (yields_readNumber start).bind
    rintro first ⟨starts, positive, _⟩
    apply (yields_readNumber finish).bind
    rintro last ⟨finishes, _, small⟩
    split
    · rename_i ordered
      exact .value ⟨Names.range starts finishes, positive, ordered, small⟩
    · exact .error ⟨_, rfl⟩
  · rw [ofCharacters_of_no_dash dash]
    apply (yields_readNumber text).map
    rintro number ⟨denotes, positive, small⟩
    exact ⟨Names.single denotes, positive, UInt16.le_refl _, small⟩

/-- What names VLANs that exist is accepted. -/
theorem exists_ofCharacters_eq_ok {first last : UInt16}
    (names : Names text first.toNat last.toNat) (usable : Usable first last) :
    ∃ range, ofCharacters text = .ok range := by
  rcases usable with ⟨positive, ordered, small⟩
  generalize isFirst : first.toNat = firstNumber, isLast : last.toNat = lastNumber at names
  cases names with
  | single denotes =>
      rw [← isLast] at denotes
      have above := UInt16.le_trans positive ordered
      rw [ofCharacters_of_no_dash denotes.no_dash, readNumber_eq_ok denotes above small]
      exact ⟨_, rfl⟩
  | range starts finishes =>
      rw [← isFirst] at starts
      rw [← isLast] at finishes
      have below := UInt16.le_trans ordered small
      have above := UInt16.le_trans positive ordered
      rw [ofCharacters_append starts.no_dash, readNumber_eq_ok starts positive below,
        readNumber_eq_ok finishes above small]
      simp only [Except.bind, if_pos ordered]
      exact ⟨_, rfl⟩

example : ofText " +7 - 009" = .ok { first := 7, last? := some 9 } := by decide

end VlanRange

namespace VlanEntry

/-- The entry that stands for the VLANs from the first to the last one. -/
def spanning (flags first last : UInt16) : VlanEntry :=
  { vlan := first, flags, last := if first < last then last else 0 }

/-- The records ask for the VLANs from the first to the last one with the flags. -/
inductive Records (flags first last : UInt16) : List VlanInfo → Prop
  | single (alone : first = last) : Records flags first last [{ flags, vlan := first }]
  | range (several : first < last) :
      Records flags first last
        [{ flags := flags ||| rangeBegin, vlan := first },
          { flags := flags ||| rangeEnd, vlan := last }]

/-- A record without marks of its own has those of its place. -/
theorem Marks.eq_of_unmarked {entry : VlanEntry} {mark vlan : UInt16} {info : VlanInfo}
    (marks : entry.Marks mark vlan info) (unmarked : entry.flags &&& rangeMarks = 0) :
    info = { flags := entry.flags ||| mark, vlan } := by
  have partition (flags : UInt16) :
      (flags &&& ~~~rangeMarks) ||| (flags &&& rangeMarks) = flags := by
    apply UInt16.toBitVec_inj.mp
    ext bit
    simp [← Bool.and_or_distrib_left]
  have own : entry.flags &&& ~~~rangeMarks = entry.flags := by
    have whole := partition entry.flags
    rwa [unmarked, UInt16.or_zero] at whole
  have isFlags : info.flags = entry.flags ||| mark := by
    rw [← partition info.flags, marks.flags_eq, marks.marked, own]
  rw [← isFlags, ← marks.vlan_eq]

/-- What asks for a span is one record, or two that mark its ends. -/
theorem records_of_asks {flags first last : UInt16} {infos : List VlanInfo} (ordered : first ≤ last)
    (unmarked : flags &&& rangeMarks = 0) (asks : Asks (spanning flags first last) infos) :
    Records flags first last infos := by
  cases asks with
  | range spans begins ends =>
      have several : first < last := by
        by_contra single
        simp [spanning, single] at spans
      have isLast : (spanning flags first last).last = last := if_pos several
      rw [begins.eq_of_unmarked unmarked, ends.eq_of_unmarked unmarked, isLast]
      exact Records.range several
  | single alone names =>
      have isSingle : first = last := by
        apply UInt16.le_antisymm ordered
        rw [← UInt16.not_lt]
        intro several
        simp [spanning, several] at alone
      rw [names.eq_of_unmarked unmarked, UInt16.or_zero]
      exact Records.single isSingle

end VlanEntry

theorem VlanRange.changes_eq (range : VlanRange) (flags : UInt16) :
    range.changes flags = { entries := [.spanning flags range.first range.last] } := by
  rcases range with ⟨first, _ | last⟩
  · simp [changes, VlanRange.last, VlanEntry.spanning]
  · by_cases several : first < last
    · simp [changes, VlanRange.last, VlanEntry.spanning, several, Option.filter_some]
    · simp [changes, VlanRange.last, VlanEntry.spanning, several, Option.filter_some]

end BridgeView
