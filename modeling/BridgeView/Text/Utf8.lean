import BridgeView.Octets

/-!
# Octets as text

Text is stored in UTF-8.  Decoding takes the longest valid start of the octets;
where it stops, the fault says at which octet the offending character begins and
how many of its octets could still have belonged to a character, or that the
octets end in the middle of one.
-/

namespace BridgeView.Text

/-- Why octets are not text. -/
inductive Utf8Fault where
  /-- The given number of octets at the position start no character. -/
  | invalid (count position : Nat)
  /-- The octets end within the character that starts at the position. -/
  | incomplete (position : Nat)
deriving DecidableEq, Repr, Inhabited

namespace Utf8Fault

/-- The text of a fault. -/
def message : Utf8Fault → String
  | invalid count position =>
    s!"invalid utf-8 sequence of {count} bytes from index {position}"
  | incomplete position => s!"incomplete utf-8 byte sequence from index {position}"

end Utf8Fault

/-- Whether an octet continues a character. -/
def isContinuation (octet : UInt8) : Bool :=
  0x80 ≤ octet && octet ≤ 0xbf

/-- The range of the second octet of a character of three or four octets. -/
def secondOctetRange (first : UInt8) : UInt8 × UInt8 :=
  if first = 0xe0 then (0xa0, 0xbf)
  else if first = 0xed then (0x80, 0x9f)
  else if first = 0xf0 then (0x90, 0xbf)
  else if first = 0xf4 then (0x80, 0x8f)
  else (0x80, 0xbf)

/-- Whether an octet may follow the first octet of a character of three or four octets. -/
def isSecondOctet (first second : UInt8) : Bool :=
  (secondOctetRange first).1 ≤ second && second ≤ (secondOctetRange first).2

/-- The bits that an octet behind the first one adds. -/
def sixBits (octet : UInt8) : Nat :=
  octet.toNat % 64

/-- The characters of the octets, the first of which stands at the given position. -/
def decodeUtf8 (position : Nat) : Octets → Except Utf8Fault (List Char)
  | [] => .ok []
  | first :: rest =>
    if first < 0x80 then
      (decodeUtf8 (position + 1) rest).map (Char.ofNat first.toNat :: ·)
    else if 0xc2 ≤ first && first ≤ 0xdf then
      match rest with
      | [] => .error (.incomplete position)
      | second :: rest =>
        if !isContinuation second then .error (.invalid 1 position)
        else
          (decodeUtf8 (position + 2) rest).map
            (Char.ofNat (first.toNat % 32 * 64 + sixBits second) :: ·)
    else if 0xe0 ≤ first && first ≤ 0xef then
      match rest with
      | [] => .error (.incomplete position)
      | second :: rest =>
        if !isSecondOctet first second then .error (.invalid 1 position)
        else
          match rest with
          | [] => .error (.incomplete position)
          | third :: rest =>
            if !isContinuation third then .error (.invalid 2 position)
            else
              (decodeUtf8 (position + 3) rest).map
                (Char.ofNat (first.toNat % 16 * 4096 + sixBits second * 64
                  + sixBits third) :: ·)
    else if 0xf0 ≤ first && first ≤ 0xf4 then
      match rest with
      | [] => .error (.incomplete position)
      | second :: rest =>
        if !isSecondOctet first second then .error (.invalid 1 position)
        else
          match rest with
          | [] => .error (.incomplete position)
          | third :: rest =>
            if !isContinuation third then .error (.invalid 2 position)
            else
              match rest with
              | [] => .error (.incomplete position)
              | fourth :: rest =>
                if !isContinuation fourth then .error (.invalid 3 position)
                else
                  (decodeUtf8 (position + 4) rest).map
                    (Char.ofNat (first.toNat % 8 * 262144 + sixBits second * 4096
                      + sixBits third * 64 + sixBits fourth) :: ·)
    else .error (.invalid 1 position)

/-- The text that octets encode, or where they stop doing so. -/
def ofUtf8 (octets : Octets) : Except Utf8Fault String :=
  (decodeUtf8 0 octets).map String.ofList

end BridgeView.Text
