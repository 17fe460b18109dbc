import BridgeView.Octets
import BridgeView.Text.Numeral

/-!
# Link layer addresses

An address of six octets, written as pairs of hexadecimal digits between colons.
What is read is more liberal: each part is any hexadecimal numeral of an octet.
-/

namespace BridgeView

/-- An address of six octets. -/
structure MacAddress where
  octets : Octets
  /-- There are six octets. -/
  length_octets : octets.length = 6
deriving DecidableEq, Repr

namespace MacAddress

/-- The address whose octets are all zero. -/
instance : Inhabited MacAddress := ⟨⟨List.replicate 6 0, rfl⟩⟩

/-- Parts with colons between them. -/
def joinParts : List (List Char) → List Char
  | [] => []
  | [part] => part
  | part :: rest => part ++ ':' :: joinParts rest

/-- The parts between the colons of a text. -/
def parts : List Char → List (List Char)
  | [] => [[]]
  | character :: rest =>
    if character = ':' then [] :: parts rest
    else
      match parts rest with
      | [] => [[character]]
      | part :: more => (character :: part) :: more

/-- The written form of the address. -/
def toText (address : MacAddress) : List Char :=
  joinParts (address.octets.map Text.hexOctet)

/-- The address that six hexadecimal octets between colons spell. -/
def ofText? (text : List Char) : Option MacAddress :=
  match (parts text).mapM (Text.numeral? 16 255) with
  | none => none
  | some values =>
    if size : values.length = 6 then some ⟨values.map UInt8.ofNat, by simpa using size⟩
    else none

end MacAddress

end BridgeView
