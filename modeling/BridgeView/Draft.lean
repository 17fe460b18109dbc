import BridgeView.Message

/-!
# Drafts of messages

A message is composed as a draft: a header, and a body that grows at its end.  The
body stays a multiple of four octets long, because everything appended is padded.
A container is opened by writing a header whose length is not known yet and closed
by writing the length, which wraps at sixteen bits; a mark remembers where the
container starts.  Only finishing a draft states the length of the whole message.

A draft whose size is known beforehand reserves its memory, which may not be there.
How much can be reserved is up to the system and not decided here.
-/

namespace BridgeView

/-- The memory at hand, by the numbers of octets that can be reserved in it. -/
class Memory where
  /-- Whether that many octets can be reserved. -/
  grants : Nat → Bool

/-- Memory that is limited by the addresses alone, of which a process has 2⁴⁷. -/
instance (priority := low) Memory.addressSpace : Memory where
  grants capacity := capacity < 0x800000000000

/-- A message that is being composed. -/
structure Draft where
  header : MessageHeader
  /-- The octets after the header. -/
  body : Octets := []
deriving DecidableEq, Repr, Inhabited

namespace Draft

/-- Where a container starts, counted from the start of the body. -/
structure Mark where
  /-- The octets of the body before the container. -/
  position : Nat
deriving DecidableEq, Repr, Inhabited

/-- The empty draft of a message of the given type. -/
def ofType (type flags : UInt16) : Draft :=
  { header := .ofType type flags }

/-- The empty draft, with memory for the given number of octets and for a header at least, if it can
be reserved. -/
@[irreducible]
def reserve [Memory] (type flags : UInt16) (capacity : Nat) : Except Error Draft :=
  if Memory.grants (max capacity messageHeaderSize) then .ok (.ofType type flags)
  else .error .outOfMemory

/-- Where the memory can be reserved, there is an empty draft. -/
theorem reserve_of_granted [Memory] (type flags : UInt16) {capacity : Nat}
    (enough : messageHeaderSize ≤ capacity) (granted : Memory.grants capacity = true) :
    reserve type flags capacity = .ok (.ofType type flags) := by
  rw [reserve, Nat.max_eq_left enough, granted, if_pos rfl]

/-- Where the memory cannot be reserved, there is no draft. -/
theorem reserve_of_not_granted [Memory] (type flags : UInt16) {capacity : Nat}
    (enough : messageHeaderSize ≤ capacity) (missing : Memory.grants capacity = false) :
    reserve type flags capacity = .error .outOfMemory := by
  rw [reserve, Nat.max_eq_left enough, missing, if_neg Bool.false_ne_true]

/-- The octets of the message so far. -/
def size (draft : Draft) : Nat :=
  messageHeaderSize + draft.body.length

/-- Whether there is nothing but the header. -/
def isEmpty (draft : Draft) : Bool :=
  draft.body.isEmpty

/-- Appends octets to the body and pads it. -/
def append (draft : Draft) (octets : Octets) : Draft :=
  let body := draft.body ++ octets
  { draft with body := body ++ Octets.padding body.length }

/-- Appends an attribute and pads it. -/
def appendAttribute (draft : Draft) (type : UInt16) (payload : Octets) : Draft :=
  draft.append ((AttributeHeader.ofSize type payload.length).toOctets ++ payload)

/-- Appends attributes of one type, one behind the other. -/
def appendAttributes (draft : Draft) (type : UInt16) (payloads : List Octets) : Draft :=
  { draft with body := draft.body ++ payloads.flatMap (Attribute.encode type) }

/-- Opens a container: writes a header without length, and marks where it starts. -/
def openNest (draft : Draft) (type : UInt16) : Draft × Mark :=
  ({ draft with
      body := draft.body ++ (AttributeHeader.ofSize (type ||| nestedMark) 0).toOctets },
    ⟨draft.body.length⟩)

/-- Closes a container: writes its length at the mark and pads the body. -/
def closeNest (draft : Draft) (mark : Mark) : Draft :=
  let length := UInt16.ofNat (draft.body.length - mark.position)
  let body := draft.body.take mark.position ++ Octets.ofWord16 length
    ++ draft.body.drop (mark.position + 2)
  { draft with body := body ++ Octets.padding body.length }

/-- States the type in the header. -/
def setType (draft : Draft) (type : UInt16) : Draft :=
  { draft with header := { draft.header with type } }

/-- States the sequence number in the header. -/
def setSequence (draft : Draft) (sequence : UInt32) : Draft :=
  { draft with header := { draft.header with sequence } }

/-- States the port in the header. -/
def setPort (draft : Draft) (port : UInt32) : Draft :=
  { draft with header := { draft.header with port } }

/-- The octets as they stand, whatever length the header states. -/
def toOctets (draft : Draft) : Octets :=
  draft.header.toOctets ++ draft.body

/-- The octets of the message, with its length stated. -/
def finish (draft : Draft) : Octets :=
  { draft.header with length := UInt32.ofNat draft.size }.toOctets ++ draft.body

end Draft

end BridgeView
