/-!
# Numerals

Reading and writing of natural numbers in bases up to sixteen.  A numeral that
is read may carry one plus sign, has at least one digit, may have any number of
leading zeros and must not exceed the stated limit; letters count as digits in
either case.  Numerals are written without leading zeros and in lower case.
-/

namespace BridgeView.Text

/-- The value of a digit in a base, in either case of letters. -/
def digitValue? (base : Nat) (character : Char) : Option Nat :=
  let code := character.toNat
  let value? : Option Nat :=
    if 0x30 ≤ code ∧ code ≤ 0x39 then some (code - 0x30)
    else if 0x61 ≤ code ∧ code ≤ 0x66 then some (code - 0x61 + 10)
    else if 0x41 ≤ code ∧ code ≤ 0x46 then some (code - 0x41 + 10)
    else none
  value?.filter (· < base)

/-- The number written by digits alone, continuing from the value read so far. -/
def digitsValue? (base : Nat) : Nat → List Char → Option Nat
  | value, [] => some value
  | value, digit :: rest =>
    match digitValue? base digit with
    | none => none
    | some next => digitsValue? base (value * base + next) rest

/-- The text without the plus sign it may start with. -/
def unsigned : List Char → List Char
  | '+' :: rest => rest
  | text => text

/-- The number a text stands for, if it is a numeral up to the limit. -/
def numeral? (base limit : Nat) (text : List Char) : Option Nat :=
  match unsigned text with
  | [] => none
  | digits => (digitsValue? base 0 digits).filter (· ≤ limit)

/-- The number that a decimal numeral up to the limit stands for. -/
def decimal? (limit : Nat) (text : String) : Option Nat :=
  numeral? 10 limit text.toList

/-- The number that a decimal numeral of either sign stands for, if it lies between zero and
the limit: behind a minus sign only zero does. -/
def signedDecimal? (limit : Nat) (text : String) : Option Nat :=
  match text.toList with
  | ['-'] => none
  | '-' :: digits => (digitsValue? 10 0 digits).filter (· = 0)
  | numeral => numeral? 10 limit numeral

/-- The hexadecimal digits of a number. -/
def hexDigits (value : Nat) : List Char :=
  Nat.toDigits 16 value

/-- The two hexadecimal digits of an octet. -/
def hexOctet (octet : UInt8) : List Char :=
  [Nat.digitChar (octet.toNat / 16), Nat.digitChar (octet.toNat % 16)]

/-- The decimal numeral of a number below one hundred, in two places. -/
def twoPlaces (value : Nat) : String :=
  String.ofList [Nat.digitChar (value / 10), Nat.digitChar (value % 10)]

theorem digitValue?_digitChar :
    ∀ value, value < 16 → digitValue? 16 (Nat.digitChar value) = some value := by
  decide

theorem digitsValue?_hexOctet (octet : UInt8) :
    digitsValue? 16 0 (hexOctet octet) = some octet.toNat := by
  have bound := octet.toNat_lt
  have high := digitValue?_digitChar (octet.toNat / 16) (by omega)
  have low := digitValue?_digitChar (octet.toNat % 16) (by omega)
  simp only [hexOctet, digitsValue?, high, low, Option.some.injEq]
  omega

end BridgeView.Text
