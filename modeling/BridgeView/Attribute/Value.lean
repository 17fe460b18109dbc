import BridgeView.Attribute

/-!
# Attribute values

The values that payloads hold: one octet, words in either order, and text that a
zero octet may end.  A word is read from the front of the payload; octets after
it are ignored.
-/

namespace BridgeView.Attribute

/-- The first octet of a payload, whatever follows it. -/
def octet : Octets → Except Error UInt8
  | octet :: _ => .ok octet
  | [] => .error (.invalidAttribute .emptyOctet)

/-- The word of sixteen bits at the front, least significant octet first. -/
def word16 : Octets → Except Error UInt16
  | low :: high :: _ => .ok (Octets.word16 low high)
  | _ => .error (.invalidAttribute (.truncatedWord 16))

/-- The word of thirty-two bits at the front, least significant octet first. -/
def word32 : Octets → Except Error UInt32
  | first :: second :: third :: fourth :: _ =>
    .ok (Octets.word32 first second third fourth)
  | _ => .error (.invalidAttribute (.truncatedWord 32))

@[simp]
theorem word16_ofWord16 (word : UInt16) : word16 (Octets.ofWord16 word) = .ok word := by
  simp [word16, Octets.ofWord16]

@[simp]
theorem word32_ofWord32 (word : UInt32) : word32 (Octets.ofWord32 word) = .ok word := by
  simp [word32, Octets.ofWord32]

/-- The word of sixty-four bits at the front, least significant octet first. -/
def word64 (payload : Octets) : Except Error UInt64 :=
  match Octets.split? 8 payload with
  | some (octets, _) => .ok (Octets.word64 octets)
  | none => .error (.invalidAttribute (.truncatedWord 64))

/-- The word of sixteen bits at the front, most significant octet first. -/
def word16BigEndian : Octets → Except Error UInt16
  | high :: low :: _ => .ok (Octets.word16 low high)
  | _ => .error (.invalidAttribute (.truncatedWord 16))

/-- The word of thirty-two bits at the front, most significant octet first. -/
def word32BigEndian : Octets → Except Error UInt32
  | fourth :: third :: second :: first :: _ =>
    .ok (Octets.word32 first second third fourth)
  | _ => .error (.invalidAttribute (.truncatedWord 32))

/-- The text before the first zero octet. -/
def text (payload : Octets) : Except Error String :=
  match Text.ofUtf8 (payload.takeWhile (· != 0)) with
  | .ok text => .ok text
  | .error fault => .error (.invalidAttribute (.invalidText fault))

end BridgeView.Attribute
