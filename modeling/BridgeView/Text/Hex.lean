import BridgeView.Octets
import BridgeView.Text.Numeral

/-!
# Octets in hexadecimal

Octets are written as two digits each, in lower case and with nothing between them.  Digits
are read in either case; reading what was written gives the same octets.
-/

namespace BridgeView.Text

/-- The text of octets, two digits each. -/
def hex (octets : Octets) : String :=
  String.ofList (octets.flatMap hexOctet)

/-- The octets that digits stand for, two digits each. -/
def octetsOfDigits? : List Char → Option Octets
  | [] => some []
  | high :: low :: rest =>
    match digitsValue? 16 0 [high, low] with
    | none => none
    | some value => (octetsOfDigits? rest).map (UInt8.ofNat value :: ·)
  | _ => none

/-- The octets that a text of digits stands for. -/
def ofHex? (text : String) : Option Octets :=
  octetsOfDigits? text.toList

theorem octetsOfDigits?_hexOctet_append (octet : UInt8) (digits : List Char) :
    octetsOfDigits? (hexOctet octet ++ digits)
      = (octetsOfDigits? digits).map (octet :: ·) := by
  have value := digitsValue?_hexOctet octet
  simp only [hexOctet] at value
  simp only [hexOctet, List.cons_append, List.nil_append, octetsOfDigits?, value,
    UInt8.ofNat_toNat]

theorem octetsOfDigits?_hexOctets (octets : Octets) :
    octetsOfDigits? (octets.flatMap hexOctet) = some octets := by
  induction octets with
  | nil => rfl
  | cons octet rest ih =>
    rw [List.flatMap_cons, octetsOfDigits?_hexOctet_append, ih, Option.map_some]

@[simp]
theorem ofHex?_hex (octets : Octets) : ofHex? (hex octets) = some octets := by
  simp [ofHex?, hex, octetsOfDigits?_hexOctets]

end BridgeView.Text
