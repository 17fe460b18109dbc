import BridgeView.Attribute

/-!
# Messages

A datagram is a sequence of messages, each a header of sixteen octets that states
the length of header and payload, the payload, and padding to the next multiple of
four.  Reading a datagram ends at the first header whose length cannot be right,
which is reported once, or silently where no further header fits.

A header is read where it stands, at a multiple of four.  Datagrams are received
into buffers that start at one, and so does every message in them.

A reply of the error type carries a code and the header of the request it answers;
the code zero acknowledges.
-/

namespace BridgeView

/-- The octets of the header of a message. -/
def messageHeaderSize : Nat := 16

namespace MessageType

/-- Nothing; the message is to be skipped. -/
def noop : UInt16 := 1

/-- A refusal, or an acknowledgement if the code is zero. -/
def error : UInt16 := 2

/-- The end of a dump. -/
def done : UInt16 := 3

/-- Messages were lost. -/
def overrun : UInt16 := 4

/-- A link appears or changes. -/
def newLink : UInt16 := 16

/-- A link goes away. -/
def deleteLink : UInt16 := 17

/-- Asks for links. -/
def getLink : UInt16 := 18

/-- Changes a link. -/
def setLink : UInt16 := 19

/-- Multicast groups appear or change. -/
def newGroups : UInt16 := 84

/-- Multicast groups go away. -/
def deleteGroups : UInt16 := 85

/-- Asks for multicast groups. -/
def getGroups : UInt16 := 86

/-- VLANs appear or change. -/
def newVlan : UInt16 := 112

/-- VLANs go away. -/
def deleteVlan : UInt16 := 113

/-- Asks for VLANs. -/
def getVlan : UInt16 := 114

/-- The names of the known types. -/
def names : List (UInt16 × String) := [
  (noop, "NOOP"), (error, "ERROR"), (done, "DONE"), (overrun, "OVERRUN"),
  (newLink, "RTM_NEWLINK"), (deleteLink, "RTM_DELLINK"), (getLink, "RTM_GETLINK"),
  (setLink, "RTM_SETLINK"), (newGroups, "RTM_NEWMDB"), (deleteGroups, "RTM_DELMDB"),
  (getGroups, "RTM_GETMDB"), (newVlan, "RTM_NEWVLAN"), (deleteVlan, "RTM_DELVLAN"),
  (getVlan, "RTM_GETVLAN")
]

/-- The name of a message type. -/
def name (type : UInt16) : String :=
  (names.lookup type).getD "UNKNOWN"

end MessageType

namespace MessageFlags

/-- The message is a request. -/
def request : UInt16 := 0x01

/-- The message is part of a longer answer. -/
def multipart : UInt16 := 0x02

/-- The request is to be acknowledged. -/
def acknowledge : UInt16 := 0x04

/-- The kernel changed while it was dumped. -/
def interrupted : UInt16 := 0x10

/-- The request asks for everything there is. -/
def dump : UInt16 := 0x300

end MessageFlags

/-- The header of a message. -/
structure MessageHeader where
  /-- The octets of header and payload. -/
  length : UInt32
  /-- What the message is about. -/
  type : UInt16
  flags : UInt16
  /-- The number that ties a reply to its request. -/
  sequence : UInt32
  port : UInt32
deriving DecidableEq, Repr, Inhabited

namespace MessageHeader

/-- The header of a message without payload, not yet numbered. -/
def ofType (type flags : UInt16) : MessageHeader :=
  { length := 16, type, flags, sequence := 0, port := 0 }

/-- The octets of the payload, none if the length does not even cover the header. -/
def payloadSize (header : MessageHeader) : Nat :=
  header.length.toNat - messageHeaderSize

/-- Whether the message refuses or acknowledges. -/
def isError (header : MessageHeader) : Bool :=
  header.type == MessageType.error

/-- Whether the message ends a dump. -/
def isDone (header : MessageHeader) : Bool :=
  header.type == MessageType.done

/-- Whether the message is part of a longer answer. -/
def isMultipart (header : MessageHeader) : Bool :=
  header.flags &&& MessageFlags.multipart != 0

/-- Whether the kernel changed while it was dumped. -/
def isInterrupted (header : MessageHeader) : Bool :=
  header.flags &&& MessageFlags.interrupted != 0

/-- The octets of the header as they are sent. -/
def toOctets (header : MessageHeader) : Octets :=
  Octets.ofWord32 header.length ++ Octets.ofWord16 header.type
    ++ Octets.ofWord16 header.flags ++ Octets.ofWord32 header.sequence
    ++ Octets.ofWord32 header.port

/-- Takes the header from the front of the octets. -/
def take? : Octets → Option (MessageHeader × Octets)
  | l0 :: l1 :: l2 :: l3 :: t0 :: t1 :: f0 :: f1 :: s0 :: s1 :: s2 :: s3 :: p0 :: p1 :: p2
      :: p3 :: rest =>
    some ({ length := Octets.word32 l0 l1 l2 l3
            type := Octets.word16 t0 t1
            flags := Octets.word16 f0 f1
            sequence := Octets.word32 s0 s1 s2 s3
            port := Octets.word32 p0 p1 p2 p3 }, rest)
  | _ => none

/-- Reads the header at the front of the octets. -/
def ofOctets (octets : Octets) : Except Error MessageHeader :=
  match take? octets with
  | some (header, _) => .ok header
  | none => .error (.truncated messageHeaderSize octets.length)

/-- Reads the header at the front of a buffer, where it has to be aligned. -/
def ofBuffer (buffer : Buffer) : Except Error MessageHeader :=
  if buffer.IsAligned then ofOctets buffer.octets
  else .error (.truncated messageHeaderSize buffer.octets.length)

theorem length_of_take? {octets rest : Octets} {header : MessageHeader}
    (taken : take? octets = some (header, rest)) : octets.length = rest.length + 16 := by
  unfold take? at taken
  split at taken
  · simp only [Option.some.injEq, Prod.mk.injEq] at taken
    rcases taken with ⟨_, rfl⟩
    rfl
  · simp at taken

@[simp]
theorem length_toOctets (header : MessageHeader) : header.toOctets.length = 16 := rfl

theorem take?_toOctets_append (header : MessageHeader) (rest : Octets) :
    take? (header.toOctets ++ rest) = some (header, rest) := by
  simp [toOctets, take?, Octets.ofWord32, Octets.ofWord16]

theorem exists_take? {octets : Octets} (enough : messageHeaderSize ≤ octets.length) :
    ∃ header rest, take? octets = some (header, rest) := by
  match octets, enough with
  | _ :: _ :: _ :: _ :: _ :: _ :: _ :: _ :: _ :: _ :: _ :: _ :: _ :: _ :: _ :: _ :: rest, _ =>
    exact ⟨_, rest, rfl⟩

/-- In an aligned buffer of enough octets the header can be read. -/
theorem exists_ofBuffer {buffer : Buffer} (aligned : buffer.IsAligned)
    (enough : messageHeaderSize ≤ buffer.octets.length) :
    ∃ header, ofBuffer buffer = .ok header := by
  rcases exists_take? enough with ⟨header, rest, taken⟩
  exact ⟨header, by rw [ofBuffer, if_pos aligned, ofOctets, taken]⟩

theorem toOctets_append_of_take? {octets rest : Octets} {header : MessageHeader}
    (taken : take? octets = some (header, rest)) : octets = header.toOctets ++ rest := by
  unfold take? at taken
  split at taken
  · simp only [Option.some.injEq, Prod.mk.injEq] at taken
    rcases taken with ⟨rfl, rfl⟩
    simp [toOctets, Octets.ofWord32_word32, Octets.ofWord16_word16]
  · simp at taken

end MessageHeader

/-- A message that was read. -/
structure Message where
  header : MessageHeader
  /-- The octets between header and padding. -/
  payload : Octets
deriving DecidableEq, Repr, Inhabited

namespace Message

/-- Whether the message steers the exchange and describes nothing: it skips, refuses,
ends a dump or reports a loss. -/
def isControl (message : Message) : Bool :=
  message.header.type == MessageType.noop || message.header.type == MessageType.error
    || message.header.type == MessageType.done || message.header.type == MessageType.overrun

/-- The next item of a buffer and the buffer that is left to read. A header that cannot be read
where it stands is reported and left there. -/
def next? (buffer : Buffer) : Option (Except Error Message × Buffer) :=
  if buffer.octets.length < messageHeaderSize then none
  else
    match MessageHeader.ofBuffer buffer with
    | .error error => some (.error error, buffer)
    | .ok header =>
      let length := header.length.toNat
      if impossible : length < messageHeaderSize ∨ buffer.octets.length < length then
        some (.error (.invalidInput (.messageLength length)), .empty)
      else
        let payload := buffer.octets.slice messageHeaderSize length (by omega)
        let aligned := Octets.alignUp length
        let rest :=
          if behind : buffer.octets.length ≤ aligned then .empty
          else buffer.sliceFrom aligned (by omega)
        some (.ok ⟨header, payload⟩, rest)

/-- Each item of an aligned buffer leaves a shorter one, which is aligned again. -/
theorem next?_aligned {buffer rest : Buffer} {item : Except Error Message}
    (aligned : buffer.IsAligned) (taken : next? buffer = some (item, rest)) :
    rest.octets.length < buffer.octets.length ∧ rest.IsAligned := by
  simp only [next?] at taken
  split at taken
  · cases taken
  · rename_i enough
    split at taken
    · rename_i unread
      rcases MessageHeader.exists_ofBuffer aligned (Nat.le_of_not_lt enough) with ⟨header, read⟩
      rw [read] at unread
      cases unread
    · rename_i header _
      have above := Octets.le_alignUp header.length.toNat
      simp only [messageHeaderSize] at enough
      split at taken
      · cases taken
        refine ⟨?_, Buffer.isAligned_empty⟩
        simp only [Buffer.empty, List.length_nil]
        omega
      · rename_i possible
        simp only [Option.some.injEq, Prod.mk.injEq] at taken
        rcases taken with ⟨_, rfl⟩
        simp only [messageHeaderSize] at possible
        split
        · refine ⟨?_, Buffer.isAligned_empty⟩
          simp only [Buffer.empty, List.length_nil]
          omega
        · have next := Octets.alignUp_mod_four header.length.toNat
          simp only [Buffer.IsAligned] at aligned
          constructor
          · simp only [Buffer.sliceFrom, Octets.sliceFrom, List.length_drop]
            omega
          · simp only [Buffer.sliceFrom, Buffer.IsAligned]
            omega

/-- The items of an aligned buffer, up to its end. -/
def items (buffer : Buffer) (aligned : buffer.IsAligned) : List (Except Error Message) :=
  match _ : next? buffer with
  | none => []
  | some (item, rest) => item :: items rest (next?_aligned aligned (by assumption)).2
termination_by buffer.octets.length
decreasing_by exact (next?_aligned aligned (by assumption)).1

/-- The items of a datagram, which is received into an aligned buffer. -/
def ofDatagram (datagram : Octets) : List (Except Error Message) :=
  items ⟨0, datagram⟩ rfl

end Message

/-- The payload of a reply of the error type. -/
structure ErrorReply where
  /-- Zero, or a negated error number. -/
  code : Int32
  request : MessageHeader
deriving DecidableEq, Repr, Inhabited

namespace ErrorReply

/-- The octets of code and request header. -/
def size : Nat := 20

/-- Reads the payload of a reply. -/
def ofOctets (octets : Octets) : Except Error ErrorReply :=
  match octets with
  | c0 :: c1 :: c2 :: c3 :: rest =>
    match MessageHeader.take? rest with
    | some (request, _) => .ok ⟨(Octets.word32 c0 c1 c2 c3).toInt32, request⟩
    | none => .error (.truncated size octets.length)
  | _ => .error (.truncated size octets.length)

/-- Whether the reply acknowledges. -/
def isAcknowledgement (reply : ErrorReply) : Bool :=
  reply.code == 0

/-- The outcome that the reply reports. -/
def outcome (reply : ErrorReply) : Except Error Unit :=
  if reply.code = 0 then .ok () else .error (.ofReplyCode reply.code)

/-- The attributes after code and request header. -/
def attributes (payload : Octets) : List Attribute :=
  Attribute.walk (payload.drop size)

end ErrorReply

end BridgeView
