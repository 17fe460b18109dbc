import BridgeView.Octets
import BridgeView.Text.Numeral

/-!
# IPv4 addresses

An address of four octets, written as four decimal numerals between points.  A
numeral that is read has at most three digits and no leading zero.
-/

namespace BridgeView

/-- An address of four octets. -/
structure Ipv4Address where
  first : UInt8
  second : UInt8
  third : UInt8
  fourth : UInt8
deriving DecidableEq, Repr, Inhabited

namespace Ipv4Address

/-- The octets in the order in which they are written. -/
def toOctets (address : Ipv4Address) : Octets :=
  [address.first, address.second, address.third, address.fourth]

/-- The decimal numeral of an octet. -/
def octetText (octet : UInt8) : List Char :=
  Nat.toDigits 10 octet.toNat

/-- The written form of the address. -/
def toText (address : Ipv4Address) : List Char :=
  octetText address.first ++ '.' :: octetText address.second ++ '.' ::
    octetText address.third ++ '.' :: octetText address.fourth

/-- The decimal numeral at the front of a text and what follows its digits. -/
def readOctet (text : List Char) : Option (UInt8 × List Char) :=
  let digits := text.takeWhile fun character => (Text.digitValue? 10 character).isSome
  if digits.length = 0 ∨ 3 < digits.length ∨ (digits.head? = some '0' ∧ 1 < digits.length) then
    none
  else
    match Text.digitsValue? 10 0 digits with
    | none => none
    | some value =>
      if value ≤ 255 then some (UInt8.ofNat value, text.drop digits.length) else none

/-- What follows a character at the front of a text. -/
def skip (character : Char) : List Char → Option (List Char)
  | head :: rest => if head = character then some rest else none
  | [] => none

/-- The address at the front of a text and what follows it. -/
def read (text : List Char) : Option (Ipv4Address × List Char) := do
  let (first, rest) ← readOctet text
  let (second, rest) ← readOctet (← skip '.' rest)
  let (third, rest) ← readOctet (← skip '.' rest)
  let (fourth, rest) ← readOctet (← skip '.' rest)
  return (⟨first, second, third, fourth⟩, rest)

end Ipv4Address

end BridgeView
