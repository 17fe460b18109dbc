import BridgeView.Proofs.Attribute.Writing
import BridgeView.Proofs.Framing
import BridgeView.Vlan.Request
import Mathlib.Data.List.Forall2

/-!
# What a VLAN request asks for

A request names a port and holds a container with a record for each single VLAN and with two
records for each range, in the order in which they were asked for. `AskedFor` says so of the octets
of a finished request, in terms of what is read from them.

The length of a container is stated in sixteen bits, so that no octets whatever can hold more than
8191 records. Whoever asks for more gets a request all the same, with a length that has wrapped.
Up to this bound a request asks exactly for what was wanted, and it is refused only where a port,
VLANs or memory are missing (`isFaithful_iff`).
-/

namespace BridgeView

open Attribute

namespace VlanFlags

/-- The two flags that mark the ends of a range. -/
def rangeMarks : UInt16 := rangeBegin ||| rangeEnd

theorem or_and (first second mask : UInt16) :
    (first ||| second) &&& mask = (first &&& mask) ||| (second &&& mask) := by
  apply UInt16.toBitVec_inj.mp
  ext bit
  simp [Bool.and_or_distrib_right]

end VlanFlags

open VlanFlags

namespace VlanEntry

/-- The record names the VLAN with the given range mark and otherwise the flags of the entry. -/
structure Marks (entry : VlanEntry) (mark vlan : UInt16) (info : VlanInfo) : Prop where
  vlan_eq : info.vlan = vlan
  marked : info.flags &&& rangeMarks = mark
  flags_eq : info.flags &&& ~~~rangeMarks = entry.flags &&& ~~~rangeMarks

/-- The records ask for the entry: for a range by its two ends, else by its VLAN alone. -/
inductive Asks : VlanEntry → List VlanInfo → Prop
  | range {entry : VlanEntry} {first last : VlanInfo} (spans : entry.vlan < entry.last)
      (begins : entry.Marks rangeBegin entry.vlan first)
      (ends : entry.Marks rangeEnd entry.last last) : Asks entry [first, last]
  | single {entry : VlanEntry} {info : VlanInfo} (alone : ¬entry.vlan < entry.last)
      (names : entry.Marks 0 entry.vlan info) : Asks entry [info]

theorem marks_ownFlags_or (entry : VlanEntry) (mark vlan : UInt16)
    (isMark : mark &&& rangeMarks = mark) :
    entry.Marks mark vlan ⟨entry.ownFlags ||| mark, vlan⟩ := by
  have own : entry.ownFlags = entry.flags &&& ~~~rangeMarks := rfl
  refine ⟨rfl, ?_, ?_⟩
  · rw [own, or_and, isMark, UInt16.and_assoc]
    simp
  · rw [own, or_and, ← isMark, UInt16.and_assoc, UInt16.and_assoc mark]
    simp

/-- The records of an entry ask for it. -/
theorem asks_infos (entry : VlanEntry) : Asks entry entry.infos := by
  rw [infos, isRange]
  by_cases spans : entry.vlan < entry.last
  · rw [if_pos (decide_eq_true spans)]
    apply Asks.range spans
    · exact entry.marks_ownFlags_or rangeBegin entry.vlan (by decide)
    · exact entry.marks_ownFlags_or rangeEnd entry.last (by decide)
  · rw [if_neg (by simpa using spans)]
    apply Asks.single spans
    have names := entry.marks_ownFlags_or 0 entry.vlan (by decide)
    simpa using names

theorem Asks.length_eq {entry : VlanEntry} {infos : List VlanInfo} (asks : Asks entry infos) :
    infos.length = if entry.isRange then 2 else 1 := by
  cases asks with
  | range spans begins ends => simp [isRange, spans]
  | single alone names => simp [isRange, alone]

/-- A range takes two records, any other entry one. -/
theorem length_flatten_of_asks {entries : List VlanEntry} {infos : List (List VlanInfo)}
    (asks : List.Forall₂ Asks entries infos) :
    infos.flatten.length = entries.length + entries.countP isRange := by
  induction asks with
  | nil => rfl
  | cons first later ih =>
      rw [List.flatten_cons, List.length_append, ih, first.length_eq, List.length_cons,
        List.countP_cons]
      split <;> omega

theorem asks_map_infos (entries : List VlanEntry) :
    List.Forall₂ Asks entries (entries.map infos) := by
  rw [List.forall₂_map_right_iff, List.forall₂_same]
  intro entry _
  exact entry.asks_infos

end VlanEntry

namespace PortVlans

/-- What reading a finished request gives if it is about the entries of a port, all of them in their
order, and about nothing else. -/
structure AskedFor (port : PortVlans) (entries : List VlanEntry) (octets : Octets) where
  message : Message
  header : LinkHeader
  /-- The octets of the container. -/
  container : Octets
  /-- The records that ask for each of the entries. -/
  infos : List (List VlanInfo)
  onlyMessage : Message.ofDatagram octets = [.ok message]
  header_eq : LinkHeader.ofOctets message.payload = .ok header
  interface_eq : port.interface? = some header.interface.toUInt32
  family_eq : header.family = port.family?.getD bridgeAddressFamily
  onlyContainer : Spells (message.payload.drop LinkHeader.size) [⟨bridgeContainerKind, container⟩]
  onlyInfos : Spells container
    (infos.flatten.map fun info => ⟨vlanInfoKind, info.toOctets⟩)
  asks : List.Forall₂ VlanEntry.Asks entries infos

/-- A request about the port is refused exactly if the port, the VLANs or the memory is missing,
and else it asks for what the changes do. -/
structure IsFaithful [Memory] (port changes : PortVlans) (request : Except Error ChangeRequest) :
    Prop where
  refused_iff : (∃ error, request = .error error) ↔
    port.interface? = none ∨ changes.requested = [] ∨
      Memory.grants (requestCapacity changes.requested.length) = false
  asksFor : ∀ made, request = .ok made →
    Nonempty (AskedFor port changes.requested made.draft.finish)

/-- The most records that sixteen bits of length have room for, behind the header of their
container. -/
def infoLimit : Nat := 8191

/-- The records that ask for the VLANs of the changes: one for each entry, and one more for each
range. -/
def infoCount (changes : PortVlans) : Nat :=
  changes.requested.length + changes.requested.countP VlanEntry.isRange

variable {port changes : PortVlans} {type flags : UInt16} {interface : UInt32}

/-- No octets ask for more than fits into a container. -/
theorem infoCount_le_of_askedFor {octets : Octets}
    (asked : AskedFor port changes.requested octets) : changes.infoCount ≤ infoLimit := by
  have found : (⟨bridgeContainerKind, asked.container⟩ : Attribute) ∈
      walk (asked.message.payload.drop LinkHeader.size) := by
    rw [asked.onlyContainer.walk_eq]
    exact List.mem_singleton_self _
  have bounded : attributeHeaderSize + asked.container.length < 65536 :=
    length_payload_of_mem_walk found
  have counted := VlanEntry.length_flatten_of_asks asked.asks
  have least : ∀ head ∈ walk asked.container, 4 ≤ head.payload.length := by
    rw [asked.onlyInfos.walk_eq, List.forall_mem_map]
    intro info _
    exact Nat.le_refl _
  have within := length_walk_le least
  rw [asked.onlyInfos.walk_eq, List.length_map, counted, attributeHeaderSize] at within
  rw [attributeHeaderSize] at bounded
  rw [infoCount, infoLimit]
  omega

/-! ## What is written -/

/-- The header of a request about a port. -/
def linkHeader (port : PortVlans) (interface : UInt32) : LinkHeader :=
  { family := port.family?.getD bridgeAddressFamily, interface := interface.toInt32 }

/-- The octets of the records that ask for the VLANs of the changes. -/
def infoStream (changes : PortVlans) : Octets :=
  ((changes.requested.flatMap VlanEntry.infos).map VlanInfo.toOctets).flatMap (encode vlanInfoKind)

/-- The body of a request: the header and one container of records. -/
def linkPayload (port changes : PortVlans) (interface : UInt32) : Octets :=
  (port.linkHeader interface).toOctets ++
    encode (bridgeContainerKind ||| nestedMark) changes.infoStream

theorem length_infoStream (changes : PortVlans) :
    changes.infoStream.length = 8 * changes.infoCount := by
  have counted := VlanEntry.length_flatten_of_asks (VlanEntry.asks_map_infos changes.requested)
  rw [infoCount, infoStream, ← counted, ← List.flatMap_def]
  generalize changes.requested.flatMap VlanEntry.infos = infos
  induction infos with
  | nil => rfl
  | cons info later ih =>
      have infoSize : info.toOctets.length = 4 := rfl
      rw [List.map_cons, List.flatMap_cons, List.length_append, ih, length_encode, infoSize,
        List.length_cons, Nat.mul_succ, Nat.add_comm]
      rfl

theorem infoStream_aligned (changes : PortVlans) : changes.infoStream.length % 4 = 0 := by
  have size := length_infoStream changes
  omega

theorem length_linkPayload (port changes : PortVlans) (interface : UInt32) :
    (port.linkPayload changes interface).length = 20 + 8 * changes.infoCount := by
  have linkSize : (port.linkHeader interface).toOctets.length = LinkHeader.size := rfl
  rw [linkPayload, List.length_append, linkSize, length_encode,
    Octets.alignUp_of_mod_four changes.infoStream_aligned, length_infoStream, LinkHeader.size,
    attributeHeaderSize]
  omega

/-- Behind the header there is the container alone. -/
theorem drop_linkPayload (port changes : PortVlans) (interface : UInt32) :
    (port.linkPayload changes interface).drop LinkHeader.size
      = encode (bridgeContainerKind ||| nestedMark) changes.infoStream := by
  have linkSize : (port.linkHeader interface).toOctets.length = LinkHeader.size := rfl
  rw [linkPayload, List.drop_left' linkSize]

/-- As long as the length of the message can be stated, there is one message in the octets, whatever
becomes of the container. -/
theorem ofDatagram_finish_linkPayload (header : MessageHeader)
    (fits : 36 + 8 * changes.infoCount < UInt32.size) :
    let draft : Draft := { header, body := port.linkPayload changes interface }
    Message.ofDatagram draft.finish = [.ok draft.message] := by
  apply Draft.ofDatagram_finish
  · simp only [length_linkPayload]
    omega
  · simp only [Draft.size, length_linkPayload, messageHeaderSize]
    omega

/-- Where the length of the container wraps, it is read as empty. -/
theorem walk_linkPayload_of_wrapped (wraps : changes.infoCount = 8192) :
    walk ((port.linkPayload changes interface).drop LinkHeader.size)
      = ⟨bridgeContainerKind, []⟩ :: walk changes.infoStream := by
  have size : changes.infoStream.length = 65536 := by
    rw [length_infoStream, wraps]
  let stated := AttributeHeader.ofSize (bridgeContainerKind ||| nestedMark) 65536
  have isEmpty : stated.length.toNat = attributeHeaderSize + ([] : Octets).length := by decide
  have kind : stated.kind = bridgeContainerKind := by decide
  have read : front (stated.toOctets ++ changes.infoStream)
      = .item ⟨stated.kind, []⟩ changes.infoStream := front_toOctets_append isEmpty
  rw [kind] at read
  rw [drop_linkPayload, encode_of_aligned changes.infoStream_aligned, size]
  exact walk_of_item read

theorem messageHeaderSize_le_requestCapacity (count : Nat) :
    messageHeaderSize ≤ requestCapacity count := by
  rw [requestCapacity]
  omega

/-- Where the memory is granted, the request is made of header and container. -/
theorem exists_linkDraft [Memory] (type flags : UInt16)
    (named : port.interface? = some interface) (wanted : changes.requested ≠ [])
    (granted : Memory.grants (requestCapacity changes.requested.length) = true) :
    ∃ header, linkDraft type port changes flags =
      .ok { header, body := port.linkPayload changes interface } := by
  have notEmpty : changes.requested.isEmpty = false := by simpa using wanted
  have linkSize : (port.linkHeader interface).toOctets.length = LinkHeader.size := rfl
  have headerAligned : (port.linkHeader interface).toOctets.length % 4 = 0 := by
    rw [linkSize, LinkHeader.size]
  have writes : Draft.Appends
      (fun draft => (draft.append (port.linkHeader interface).toOctets).nest bridgeContainerKind
        (·.appendAttributes vlanInfoKind
          ((changes.requested.flatMap VlanEntry.infos).map VlanInfo.toOctets)))
      (port.linkPayload changes interface) :=
    (Draft.Appends.append_of_aligned headerAligned).comp
      ((Draft.Appends.appendAttributes vlanInfoKind _).nest bridgeContainerKind)
  let header : MessageHeader :=
    .ofType type (MessageFlags.request ||| MessageFlags.acknowledge ||| flags)
  have written := writes.write_eq { header } rfl
  refine ⟨header, ?_⟩
  simp only [linkDraft, named, notEmpty, Bool.false_eq_true, if_false,
    Draft.reserve_of_granted type _ (messageHeaderSize_le_requestCapacity _) granted]
  exact congrArg Except.ok written

/-- Where the memory is not granted, nothing is made. -/
theorem linkDraft_of_no_memory [Memory] (type flags : UInt16)
    (named : port.interface? = some interface) (wanted : changes.requested ≠ [])
    (missing : Memory.grants (requestCapacity changes.requested.length) = false) :
    linkDraft type port changes flags = .error .outOfMemory := by
  have notEmpty : changes.requested.isEmpty = false := by simpa using wanted
  simp only [linkDraft, named, notEmpty, Bool.false_eq_true, if_false,
    Draft.reserve_of_not_granted type _ (messageHeaderSize_le_requestCapacity _) missing]
  rfl

/-- What fits into a container is read back. -/
theorem askedFor_finish (named : port.interface? = some interface) (header : MessageHeader)
    (fits : changes.infoCount ≤ infoLimit) :
    Nonempty (AskedFor port changes.requested
      ({ header, body := port.linkPayload changes interface } : Draft).finish) := by
  rw [infoLimit] at fits
  have onlyContainer : Spells ((port.linkPayload changes interface).drop LinkHeader.size)
      [⟨bridgeContainerKind, changes.infoStream⟩] := by
    rw [drop_linkPayload, ← List.append_nil (encode _ _)]
    apply Spells.encode_append _ Spells.nil
    rw [attributeHeaderSize, length_infoStream]
    omega
  have onlyInfos : Spells changes.infoStream
      ((changes.requested.map VlanEntry.infos).flatten.map
        fun info => ⟨vlanInfoKind, info.toOctets⟩) := by
    rw [← List.flatMap_def, infoStream, List.flatMap_map]
    apply spells_flatMap
    · intro info _
      rfl
    · intro info _
      change attributeHeaderSize + 4 < 65536
      decide
  let draft : Draft := { header, body := port.linkPayload changes interface }
  have onlyMessage : Message.ofDatagram draft.finish = [.ok draft.message] :=
    ofDatagram_finish_linkPayload header (by rw [UInt32.size]; omega)
  refine ⟨{
    message := draft.message
    header := port.linkHeader interface
    container := changes.infoStream
    infos := changes.requested.map VlanEntry.infos
    onlyMessage
    header_eq := ?_
    interface_eq := ?_
    family_eq := rfl
    onlyContainer
    onlyInfos
    asks := VlanEntry.asks_map_infos _ }⟩
  · simp only [LinkHeader.ofOctets, Scanner.runHeader, StateT.run, Draft.message, draft,
      linkPayload, LinkHeader.scan_toOctets_append]
  · simpa [linkHeader] using named

/-! ## What a request asks for -/

theorem changeRequest_eq_map [Memory] (port changes : PortVlans) (flags : UInt16) :
    port.changeRequest changes flags =
      (linkDraft MessageType.newLink port changes flags).map
        fun draft => { draft, fallback? := some MessageType.setLink } := by
  rw [changeRequest]
  cases linkDraft MessageType.newLink port changes flags <;> rfl

theorem deleteRequest_eq_map [Memory] (port changes : PortVlans) :
    port.deleteRequest changes =
      (linkDraft MessageType.deleteLink port changes 0).map
        fun draft => { draft, fallback? := none } := by
  rw [deleteRequest]
  cases linkDraft MessageType.deleteLink port changes 0 <;> rfl

/-- A request is refused for want of a port, of VLANs or of memory, and for no other reason. -/
theorem linkDraft_refused_iff [Memory] (port changes : PortVlans) (type flags : UInt16) :
    (∃ error, linkDraft type port changes flags = .error error) ↔
      port.interface? = none ∨ changes.requested = [] ∨
        Memory.grants (requestCapacity changes.requested.length) = false := by
  cases named : port.interface? with
  | none => simp [linkDraft, named]
  | some interface =>
      by_cases wanted : changes.requested = []
      · simp [linkDraft, named, wanted]
      · rcases granted : Memory.grants (requestCapacity changes.requested.length) with _ | _
        · simp [linkDraft_of_no_memory type flags named wanted granted]
        · rcases exists_linkDraft type flags named wanted granted with ⟨header, made⟩
          simp [made, wanted]

/-- A request is faithful unless its records exceed the container. -/
theorem isFaithful_linkDraft_iff [Memory] (fallback? : Option UInt16) :
    IsFaithful port changes
        ((linkDraft type port changes flags).map fun draft => { draft, fallback? }) ↔
      port.interface? = none ∨
        Memory.grants (requestCapacity changes.requested.length) = false ∨
          changes.infoCount ≤ infoLimit := by
  have refused_iff := linkDraft_refused_iff port changes type flags
  rcases drafted : linkDraft type port changes flags with error | draft
  · have missing := refused_iff.mp ⟨error, drafted⟩
    have faithful : IsFaithful port changes (.error error) := by
      refine ⟨?_, ?_⟩
      · simpa using missing
      · intro made isMade
        cases isMade
    simp only [Except.map, faithful, true_iff]
    rcases missing with unnamed | nothing | ungranted
    · exact Or.inl unnamed
    · exact Or.inr (Or.inr (by simp [infoCount, nothing]))
    · exact Or.inr (Or.inl ungranted)
  · have complete : ¬∃ error, linkDraft type port changes flags = .error error := by
      simp [drafted]
    rw [refused_iff] at complete
    have notRefused : ∀ error, (Except.ok { draft, fallback? } : Except Error ChangeRequest) ≠
      .error error := by simp
    simp only [not_or, Bool.not_eq_false] at complete
    rcases complete with ⟨named, wanted, granted⟩
    rcases Option.ne_none_iff_exists'.mp named with ⟨interface, isNamed⟩
    rcases exists_linkDraft type flags isNamed wanted granted with ⟨header, written⟩
    rw [drafted, Except.ok.injEq] at written
    simp only [named, granted, Bool.true_eq_false, false_or]
    constructor
    · intro faithful
      rcases faithful.asksFor _ rfl with ⟨asked⟩
      exact infoCount_le_of_askedFor asked
    · intro fits
      refine ⟨?_, ?_⟩
      · simp [Except.map, named, wanted, granted]
      · rintro made isMade
        simp only [Except.map, Except.ok.injEq] at isMade
        rw [← isMade, written]
        exact askedFor_finish isNamed header fits

/-- Requests are refused exactly where something is missing, and the others ask for what the changes
do, exactly as long as that takes no more records than a container can hold. -/
theorem isFaithful_iff [Memory] (port changes : PortVlans) (flags : UInt16) :
    (IsFaithful port changes (port.changeRequest changes flags) ↔
      port.interface? = none ∨
        Memory.grants (requestCapacity changes.requested.length) = false ∨
          changes.infoCount ≤ infoLimit) ∧
      (IsFaithful port changes (port.deleteRequest changes) ↔
        port.interface? = none ∨
          Memory.grants (requestCapacity changes.requested.length) = false ∨
            changes.infoCount ≤ infoLimit) := by
  rw [changeRequest_eq_map, deleteRequest_eq_map]
  exact ⟨isFaithful_linkDraft_iff _, isFaithful_linkDraft_iff _⟩

/-- Ranges of two VLANs, one more record than a container can hold. -/
def manyRanges : PortVlans :=
  { entries := List.replicate 4096 { vlan := 10, last := 11 } }

/-- A request for more than a container can hold is made nevertheless: the container is read back
empty, and nobody who reads the request learns what was wanted. -/
theorem not_isFaithful_manyRanges :
    let port : PortVlans := { interface? := some 4 }
    (∃ made message, port.changeRequest manyRanges 0 = .ok made ∧
      Message.ofDatagram made.draft.finish = [.ok message] ∧
        (walk (message.payload.drop LinkHeader.size)).head? = some ⟨bridgeContainerKind, []⟩ ∧
          IsEmpty (AskedFor port manyRanges.requested made.draft.finish)) ∧
      ¬IsFaithful port manyRanges (port.changeRequest manyRanges 0) := by
  intro port
  have requested : manyRanges.requested = List.replicate 4096 { vlan := 10, last := 11 } := rfl
  have size : manyRanges.requested.length = 4096 := by rw [requested, List.length_replicate]
  have counted : manyRanges.infoCount = 8192 := by
    rw [infoCount, size, requested, List.countP_replicate]
    rfl
  have wanted : manyRanges.requested ≠ [] := List.ne_nil_of_length_pos (by omega)
  have granted : Memory.grants (requestCapacity manyRanges.requested.length) = true := by
    rw [size]
    decide
  have named : port.interface? = some 4 := rfl
  have unasked (octets : Octets) : IsEmpty (AskedFor port manyRanges.requested octets) := by
    refine ⟨fun asked => ?_⟩
    have bounded := infoCount_le_of_askedFor asked
    rw [infoLimit] at bounded
    omega
  rcases exists_linkDraft MessageType.newLink 0 named wanted granted with ⟨header, drafted⟩
  have made := changeRequest_eq_map port manyRanges 0
  rw [drafted] at made
  have fits : 36 + 8 * manyRanges.infoCount < UInt32.size := by
    rw [counted]
    decide
  let draft : Draft := { header, body := port.linkPayload manyRanges 4 }
  have onlyMessage : Message.ofDatagram draft.finish = [.ok draft.message] :=
    ofDatagram_finish_linkPayload header fits
  refine ⟨⟨_, _, made, onlyMessage, ?_, unasked _⟩, ?_⟩
  · exact congrArg List.head? (walk_linkPayload_of_wrapped counted)
  · intro faithful
    rcases faithful.asksFor _ made with ⟨asked⟩
    exact (unasked _).false asked

end PortVlans

end BridgeView
