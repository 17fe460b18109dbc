import BridgeView.Error

/-!
# Attributes

An attribute is a header of four octets, which states the length of header and
payload and the type, followed by the payload and by padding to the next multiple
of four.  The two highest bits of the type are marks; the rest is the kind.  A
stream is a sequence of attributes.

The lenient walk takes one attribute after the other and stops silently where no
further one fits; the strict walk reports what is wrong there.  Both end because
each step leaves a shorter stream.

Headers are read where they stand, which takes an even address.  The streams here
are parts of buffers that start at multiples of four, so octets alone tell what is
read; an odd address is not considered.
-/

namespace BridgeView

/-- The octets of the header of an attribute. -/
def attributeHeaderSize : Nat := 4

/-- The mark of an attribute whose payload is itself a stream. -/
def nestedMark : UInt16 := 0x8000

/-- The mark of an attribute whose payload is in network order. -/
def networkOrderMark : UInt16 := 0x4000

/-- The bits of a type that name the kind. -/
def kindMask : UInt16 := 0x3fff

/-- The header of an attribute. -/
structure AttributeHeader where
  /-- The octets of header and payload. -/
  length : UInt16
  /-- The kind together with the marks. -/
  type : UInt16
deriving DecidableEq, Repr, Inhabited

namespace AttributeHeader

/-- The header of an attribute of the given type and payload size; the length wraps. -/
def ofSize (type : UInt16) (size : Nat) : AttributeHeader :=
  ⟨UInt16.ofNat (attributeHeaderSize + size), type⟩

/-- The kind, which is the type without its marks. -/
def kind (header : AttributeHeader) : UInt16 :=
  header.type &&& kindMask

/-- Whether the sender marked the payload as a stream. -/
def isNested (header : AttributeHeader) : Bool :=
  header.type &&& nestedMark != 0

/-- The octets of the payload, none if the length does not even cover the header. -/
def payloadSize (header : AttributeHeader) : Nat :=
  header.length.toNat - attributeHeaderSize

/-- The octets of the header as they stand in a stream. -/
def toOctets (header : AttributeHeader) : Octets :=
  Octets.ofWord16 header.length ++ Octets.ofWord16 header.type

/-- Reads the header at the front of the octets. -/
def ofOctets : Octets → Except Error AttributeHeader
  | length0 :: length1 :: type0 :: type1 :: _ =>
    .ok ⟨Octets.word16 length0 length1, Octets.word16 type0 type1⟩
  | octets => .error (.truncated attributeHeaderSize octets.length)

end AttributeHeader

/-- An attribute that was read: its kind and its payload. -/
structure Attribute where
  /-- The type without its marks. -/
  kind : UInt16
  /-- The octets between header and padding. -/
  payload : Octets
deriving DecidableEq, Repr, Inhabited

namespace Attribute

/-- The octets of an attribute of the given type: header, payload and padding. -/
def encode (type : UInt16) (payload : Octets) : Octets :=
  (AttributeHeader.ofSize type payload.length).toOctets ++ payload
    ++ Octets.padding payload.length

/-- The attribute at the front of a stream and the stream after it, as the lenient walk
takes it. -/
def next? (stream : Octets) : Option (Attribute × Octets) :=
  match AttributeHeader.ofOctets stream with
  | .error _ => none
  | .ok header =>
    let length := header.length.toNat
    if impossible : length < attributeHeaderSize ∨ stream.length < length then none
    else
      let payload := stream.slice attributeHeaderSize length (by omega)
      let aligned := Octets.alignUp length
      let rest :=
        if behind : stream.length ≤ aligned then [] else stream.sliceFrom aligned (by omega)
      some (⟨header.kind, payload⟩, rest)

/-- Each attribute that is taken leaves a shorter stream. -/
theorem length_lt_of_next? {stream rest : Octets} {head : Attribute}
    (taken : next? stream = some (head, rest)) : rest.length < stream.length := by
  simp only [next?] at taken
  split at taken
  · cases taken
  · rename_i header _
    split at taken
    · cases taken
    · rename_i possible
      have above := Octets.le_alignUp header.length.toNat
      simp only [Option.some.injEq, Prod.mk.injEq] at taken
      rcases taken with ⟨_, rfl⟩
      simp only [attributeHeaderSize] at possible
      split
      · simp only [List.length_nil]
        omega
      · simp only [Octets.sliceFrom, List.length_drop]
        omega

/-- The attributes the lenient walk finds. -/
def walk (stream : Octets) : List Attribute :=
  match _ : next? stream with
  | some (head, rest) => head :: walk rest
  | none => []
termination_by stream.length
decreasing_by exact length_lt_of_next? (by assumption)

/-- The octets at which the lenient walk stops. -/
def leftover (stream : Octets) : Octets :=
  match _ : next? stream with
  | some (_, rest) => leftover rest
  | none => stream
termination_by stream.length
decreasing_by exact length_lt_of_next? (by assumption)

/-- Whether too few octets are left for a further header. -/
def isExhausted (stream : Octets) : Bool :=
  stream.length < attributeHeaderSize

/-- The offset of the next attribute lies behind the header of this one, or at the end. -/
theorem length_sliceFrom_lt {stream : Octets} {length : Nat}
    (enough : attributeHeaderSize ≤ stream.length) (covers : ¬length < attributeHeaderSize) :
    (stream.sliceFrom (stream.clamp (Octets.alignUp length)) (stream.clamp_le _)).length
      < stream.length := by
  have above := Octets.le_alignUp length
  simp only [Octets.sliceFrom, Octets.clamp_eq, List.length_drop, attributeHeaderSize] at *
  omega

/-- The strict walk: every header has to be complete and within bounds. -/
def checkStream (stream : Octets) : Except Error Unit :=
  if _ : attributeHeaderSize ≤ stream.length then
    match AttributeHeader.ofOctets stream with
    | .error error => .error error
    | .ok header =>
      let length := header.length.toNat
      if _ : length < attributeHeaderSize then
        .error (.malformedAttribute header.kind (.shorterThanHeader length))
      else if stream.length < length then
        .error (.malformedAttribute header.kind (.exceedsRemaining length stream.length))
      else
        checkStream
          (stream.sliceFrom (stream.clamp (Octets.alignUp length)) (stream.clamp_le _))
  else .ok ()
termination_by stream.length
decreasing_by exact length_sliceFrom_lt (by assumption) (by assumption)

end Attribute

end BridgeView
