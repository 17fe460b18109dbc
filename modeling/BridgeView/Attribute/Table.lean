import BridgeView.Attribute.Value

/-!
# Attribute tables

A table has one rule per attribute kind: what the payload holds and how long it
may be.  Decoding a stream walks it strictly, checks every attribute that the
table knows, skips the others, and keeps for each known kind the first payload
found; every occurrence stays reachable through the stream itself.
-/

namespace BridgeView

/-- What the payload of an attribute holds. -/
inductive PayloadKind where
  /-- Anything. -/
  | unspecified
  /-- A word of eight bits. -/
  | word8
  /-- A word of sixteen bits. -/
  | word16
  /-- A word of thirty-two bits. -/
  | word32
  /-- A word of sixty-four bits. -/
  | word64
  /-- Octets without further structure. -/
  | binary
  /-- A stream of attributes. -/
  | nested
  /-- Nothing: the attribute marks presence. -/
  | flag
  /-- Text. -/
  | text
deriving DecidableEq, Repr, Inhabited

namespace PayloadKind

/-- The octets a word of that kind takes; other payloads take none of their own. -/
def width : PayloadKind → Nat
  | word8 => 1
  | word16 => 2
  | word32 => 4
  | word64 => 8
  | _ => 0

end PayloadKind

/-- The rule for one attribute kind. -/
structure Rule where
  /-- What the payload holds. -/
  kind : PayloadKind
  /-- The least size of the payload, zero for none. -/
  least : Nat := 0
  /-- The greatest size of the payload, zero for none. -/
  most : Nat := 0
deriving DecidableEq, Repr, Inhabited

namespace Rule

/-- The rule that allows everything. -/
def unspecified : Rule := { kind := .unspecified }

/-- The rule that allows payloads of one size only. -/
def exact (kind : PayloadKind) (size : Nat) : Rule :=
  { kind, least := size, most := size }

/-- Checks a payload; the kind of the attribute is named in the error. -/
def check (rule : Rule) (kind : UInt16) (payload : Octets) : Except Error Unit :=
  let size := payload.length
  if size < rule.kind.width then
    .error (.malformedAttribute kind (.tooShort rule.kind.width size))
  else if 0 < rule.least ∧ size < rule.least then
    .error (.malformedAttribute kind (.tooShort rule.least size))
  else if 0 < rule.most ∧ rule.most < size then
    .error (.malformedAttribute kind (.tooLong rule.most size))
  else
    match rule.kind with
    | .flag =>
      if size = 0 then .ok () else .error (.malformedAttribute kind (.flagPayload size))
    | .nested => Attribute.checkStream payload
    | _ => .ok ()

end Rule

/-- What decoding a stream against a table gives. -/
structure DecodedStream where
  /-- For each kind of the table the first payload found. -/
  slots : List (Option Octets)
  stream : Octets
deriving DecidableEq, Repr, Inhabited

namespace DecodedStream

/-- The first payload of a kind. -/
def get? (decoded : DecodedStream) (kind : UInt16) : Option Octets :=
  decoded.slots[kind.toNat]?.join

/-- Whether a kind of the table occurs. -/
def has (decoded : DecodedStream) (kind : UInt16) : Bool :=
  (decoded.get? kind).isSome

/-- The octet the first payload of a kind holds. -/
def octet? (decoded : DecodedStream) (kind : UInt16) : Option UInt8 :=
  (decoded.get? kind).bind fun payload => (Attribute.octet payload).toOption

/-- The word of sixteen bits the first payload of a kind holds. -/
def word16? (decoded : DecodedStream) (kind : UInt16) : Option UInt16 :=
  (decoded.get? kind).bind fun payload => (Attribute.word16 payload).toOption

/-- The word of thirty-two bits the first payload of a kind holds. -/
def word32? (decoded : DecodedStream) (kind : UInt16) : Option UInt32 :=
  (decoded.get? kind).bind fun payload => (Attribute.word32 payload).toOption

/-- The word of sixty-four bits the first payload of a kind holds. -/
def word64? (decoded : DecodedStream) (kind : UInt16) : Option UInt64 :=
  (decoded.get? kind).bind fun payload => (Attribute.word64 payload).toOption

/-- Every payload of a kind, in the order of the stream. -/
def all (decoded : DecodedStream) (kind : UInt16) : List Octets :=
  ((Attribute.walk decoded.stream).filter (·.kind == kind)).map (·.payload)

end DecodedStream

/-- The rules for the attribute kinds from zero on. -/
structure AttributeTable where
  name : String
  /-- The rules, in the order of the kinds. -/
  rules : List Rule
deriving DecidableEq, Repr, Inhabited

namespace AttributeTable

/-- The highest kind the table knows, zero for an empty table. -/
def highestKind (table : AttributeTable) : Nat :=
  table.rules.length - 1

/-- Walks a stream strictly and puts the first payload of each known kind into its slot. -/
def fill (table : AttributeTable) (stream : Octets) (slots : List (Option Octets)) :
    Except Error (List (Option Octets)) :=
  if _ : attributeHeaderSize ≤ stream.length then
    match AttributeHeader.ofOctets stream with
    | .error error => .error error
    | .ok header =>
      let length := header.length.toNat
      let kind := header.kind
      if _ : length < attributeHeaderSize then
        .error (.malformedAttribute kind (.shorterThanHeader length))
      else if _ : stream.length < length then
        .error (.malformedAttribute kind (.exceedsRemaining length stream.length))
      else
        let payload := stream.slice attributeHeaderSize length (by omega)
        let later :=
          stream.sliceFrom (stream.clamp (Octets.alignUp length)) (stream.clamp_le _)
        match table.rules[kind.toNat]? with
        | none => table.fill later slots
        | some rule =>
          match rule.check kind payload with
          | .error error => .error error
          | .ok () => table.fill later (slots.modify kind.toNat (·.or (some payload)))
  else .ok slots
termination_by stream.length
decreasing_by all_goals exact Attribute.length_sliceFrom_lt (by assumption) (by assumption)

/-- Decodes a stream against the table. -/
def decode (table : AttributeTable) (stream : Octets) : Except Error DecodedStream :=
  (table.fill stream (List.replicate table.rules.length none)).map (⟨·, stream⟩)

/-- Decodes the stream that follows a header of the given size, which is padded. -/
def decodeAfter (table : AttributeTable) (headerSize : Nat) (payload : Octets) :
    Except Error DecodedStream :=
  if payload.length < headerSize then
    .error (.truncated headerSize payload.length)
  else table.decode (payload.drop (Octets.alignUp headerSize))

end AttributeTable

/-- Decodes the first payload of a kind as a stream of its own, if there is one. -/
def DecodedStream.nested (decoded : DecodedStream) (kind : UInt16) (table : AttributeTable) :
    Except Error (Option DecodedStream) :=
  match decoded.get? kind with
  | none => .ok none
  | some payload => (table.decode payload).map some

end BridgeView
