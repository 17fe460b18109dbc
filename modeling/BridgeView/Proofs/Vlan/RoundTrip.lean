import BridgeView.Proofs.Attribute.Decoding
import BridgeView.Proofs.Attribute.Writing
import BridgeView.Vlan.Port

/-!
# Reports of VLANs

The kernel reports the VLANs of a port as one container for each VLAN or range, with the record that
names it, and with the last VLAN and the spanning tree state if there are any. A report that is
written in this way is read back: the entries are the reported VLANs in their order, whatever the
order of the attributes in each container, and the port takes its own attributes from the first.
-/

namespace BridgeView

open Attribute

/-- A VLAN or a range of VLANs, with what a report may leave out. -/
structure ReportedVlan where
  vlan : UInt16
  flags : UInt16
  state? : Option UInt8 := none
  last? : Option UInt16 := none

namespace ReportedVlan

/-- The entry of the VLAN, where a last VLAN that is not reported is zero. -/
def entry (reported : ReportedVlan) : VlanEntry :=
  { vlan := reported.vlan, flags := reported.flags, state? := reported.state?
    last := reported.last?.getD 0 }

/-- The record of a VLAN. -/
def info (reported : ReportedVlan) : VlanInfo :=
  ⟨reported.flags, reported.vlan⟩

/-- The attributes about a VLAN. -/
def attributes (reported : ReportedVlan) : List Attribute :=
  ⟨VlanEntry.infoKind, reported.info.toOctets⟩ ::
    ((reported.last?.map fun last => ⟨VlanEntry.lastKind, Octets.ofWord16 last⟩).toList ++
      (reported.state?.map fun state => ⟨VlanEntry.stateKind, [state]⟩).toList)

theorem payloads_attributes (reported : ReportedVlan) :
    AttributeTable.payloads VlanEntry.infoKind reported.attributes
        = (some reported.info.toOctets).toList ∧
      AttributeTable.payloads VlanEntry.lastKind reported.attributes
        = (reported.last?.map Octets.ofWord16).toList ∧
      AttributeTable.payloads VlanEntry.stateKind reported.attributes
        = (reported.state?.map ([·])).toList := by
  rcases reported with ⟨vlan, flags, _ | state, _ | last⟩ <;> exact ⟨rfl, rfl, rfl⟩

end ReportedVlan

/-- A reported VLAN, and the order in which its attributes are written. -/
structure WrittenVlan extends ReportedVlan where
  order : List Attribute
  order_perm : order.Perm toReportedVlan.attributes

namespace WrittenVlan

variable (written : WrittenVlan)

/-- The attributes of the VLAN, one after the other. -/
def inside : Octets :=
  written.order.flatMap fun head => encode head.kind head.payload

/-- Writes a VLAN into a draft, with its attributes in the order that was chosen. -/
def write (draft : Draft) : Draft :=
  draft.nest PortVlans.entryKind fun opened =>
    written.order.foldl (fun opened head => opened.appendAttribute head.kind head.payload) opened

theorem appends_write :
    Draft.Appends written.write (encode (PortVlans.entryKind ||| nestedMark) written.inside) := by
  have fills := Draft.Appends.foldl
    (fun head : Attribute => .appendAttribute head.kind head.payload) written.order
  exact fills.nest PortVlans.entryKind

theorem forall_mem_order {motive : Attribute → Prop}
    (info : motive ⟨VlanEntry.infoKind, written.info.toOctets⟩)
    (last : ∀ last, motive ⟨VlanEntry.lastKind, Octets.ofWord16 last⟩)
    (state : ∀ state, motive ⟨VlanEntry.stateKind, [state]⟩) :
    ∀ head ∈ written.order, motive head := by
  intro head isWritten
  have isAttribute := written.order_perm.mem_iff.mp isWritten
  simp only [ReportedVlan.attributes, List.mem_cons, List.mem_append, Option.mem_toList,
    Option.map_eq_some_iff] at isAttribute
  rcases isAttribute with rfl | ⟨_, _, rfl⟩ | ⟨_, _, rfl⟩
  · exact info
  · exact last _
  · exact state _

/-- The table of VLANs allows every attribute that is written. -/
theorem allows_of_mem_order : ∀ head ∈ written.order, VlanEntry.table.Allows head := by
  apply forall_mem_order
  · apply AttributeTable.allows_of_known rfl
    exact Rule.allows_exact (by decide) (Nat.zero_le 4) rfl
  · intro last
    apply AttributeTable.allows_of_known rfl
    exact Rule.allows_of_le (by decide) (Nat.le_refl 2) (Nat.zero_le 2)
  · intro state
    apply AttributeTable.allows_of_known rfl
    exact Rule.allows_of_le (by decide) (Nat.le_refl 1) (Nat.zero_le 1)

/-- The container spells the attributes in the order that was chosen. -/
theorem spells_inside : Spells written.inside written.order := by
  apply spells_attributes
  · apply forall_mem_order
    · show VlanEntry.infoKind &&& kindMask = VlanEntry.infoKind
      decide
    · intro last
      show VlanEntry.lastKind &&& kindMask = VlanEntry.lastKind
      decide
    · intro state
      show VlanEntry.stateKind &&& kindMask = VlanEntry.stateKind
      decide
  · apply forall_mem_order
    · simp [attributeHeaderSize, VlanInfo.toOctets]
    · intro last
      simp [attributeHeaderSize]
    · intro state
      simp [attributeHeaderSize]

theorem length_inside_le : written.inside.length ≤ 24 := by
  have sameLength := (written.order_perm.flatMap_right
    fun head => encode head.kind head.payload).length_eq
  rw [inside, sameLength, ReportedVlan.attributes]
  rcases written.last? with _ | last <;> rcases written.state? with _ | state <;>
    simp [VlanInfo.toOctets, Octets.alignUp, attributeHeaderSize]

/-- A kind of which there is at most one attribute is found in every order. -/
theorem payloads_order {kind : UInt16} {payload? : Option Octets}
    (once : AttributeTable.payloads kind written.attributes = payload?.toList) :
    AttributeTable.payloads kind written.order = payload?.toList := by
  have perm : (AttributeTable.payloads kind written.order).Perm payload?.toList := by
    rw [← once]
    exact (written.order_perm.filter _).map _
  cases payload? with
  | none => exact perm.eq_nil
  | some payload => exact List.perm_singleton.mp perm

/-- A VLAN is read back, whatever the order of its attributes. -/
theorem ofStream_inside : VlanEntry.ofStream written.inside = .ok written.entry := by
  rcases AttributeTable.decode_of_spells written.spells_inside written.allows_of_mem_order with
    ⟨decoded, isOk, all_eq⟩
  rcases written.payloads_attributes with ⟨onceInfo, onceLast, onceState⟩
  have get?_eq {kind : UInt16} {payload? : Option Octets}
      (isKnown : kind.toNat < VlanEntry.table.rules.length)
      (once : AttributeTable.payloads kind written.attributes = payload?.toList) :
      decoded.get? kind = payload? := by
    rw [AttributeTable.get?_eq_head? isOk isKnown, all_eq, written.payloads_order once,
      Option.head?_toList]
  have info : decoded.get? VlanEntry.infoKind = some written.info.toOctets :=
    get?_eq (by decide) onceInfo
  have last : decoded.word16? VlanEntry.lastKind = written.last? := by
    rw [DecodedStream.word16?, get?_eq (by decide) onceLast]
    rcases written.last? with _ | last
    · rfl
    · simp [Except.toOption]
  have state : decoded.octet? VlanEntry.stateKind = written.state? := by
    rw [DecodedStream.octet?, get?_eq (by decide) onceState]
    rcases written.state? with _ | state <;> rfl
  have record : VlanInfo.scan.runRecord written.info.toOctets = .ok (written.info, []) := by
    have scanned := VlanInfo.scan_toOctets_append written.info []
    rw [List.append_nil] at scanned
    simp only [Scanner.runRecord, StateT.run, scanned]
  simp only [VlanEntry.ofStream, isOk, bind, Except.bind, info, record, last, state]
  rfl

end WrittenVlan

namespace PortVlans

/-- The family header of a report. -/
def reportHeader (interface : UInt32) : VlanHeader :=
  { family := bridgeAddressFamily, interface }

/-- Writes a report of the VLANs of a port. -/
def writeReport (interface : UInt32) (vlans : List WrittenVlan) (draft : Draft) : Draft :=
  vlans.foldl (fun draft written => written.write draft)
    (draft.append (reportHeader interface).toOctets)

/-- What stands behind the header of a report. -/
def reportStream (vlans : List WrittenVlan) : Octets :=
  vlans.flatMap fun written => encode (entryKind ||| nestedMark) written.inside

theorem appends_writeReport (interface : UInt32) (vlans : List WrittenVlan) :
    Draft.Appends (writeReport interface vlans)
      ((reportHeader interface).toOctets ++ reportStream vlans) := by
  have header : Draft.Appends (·.append (reportHeader interface).toOctets)
      (reportHeader interface).toOctets :=
    .append_of_aligned (by rw [VlanHeader.length_toOctets]; rfl)
  exact header.comp (.foldl WrittenVlan.appends_write vlans)

/-- A report decodes into the octets of its VLANs. -/
theorem decode_reportStream (vlans : List WrittenVlan) :
    ∃ decoded, table.decode (reportStream vlans) = .ok decoded ∧
      decoded.all entryKind = vlans.map fun written => written.inside := by
  apply AttributeTable.decode_flatMap rfl (fun _ _ => by decide)
  · intro written _
    have small := written.length_inside_le
    rw [attributeHeaderSize]
    omega
  · intro written _
    exact Rule.allows_nested written.spells_inside.accepted

/-- A report of at least one VLAN is read back. -/
theorem ofPayload_writeReport (header : MessageHeader) (interface : UInt32) (first : WrittenVlan)
    (later : List WrittenVlan) :
    ofPayload ((writeReport interface (first :: later) { header }).finish.drop messageHeaderSize) =
      .ok (some {
        interface? := some interface
        family? := some bridgeAddressFamily
        vlan? := some first.vlan
        state? := first.state?
        last? := some (first.last?.getD 0)
        flags? := some first.flags
        entries := (first :: later).map fun written => written.entry }) := by
  let report := (reportHeader interface).toOctets ++ reportStream (first :: later)
  have octets : (writeReport interface (first :: later) { header }).finish.drop messageHeaderSize
      = report :=
    (appends_writeReport interface (first :: later)).drop_finish header
  have headerRead : VlanHeader.ofOctets report = .ok (reportHeader interface) :=
    VlanHeader.ofOctets_toOctets_append _ _
  rcases decode_reportStream (first :: later) with ⟨decoded, isOk, all_eq⟩
  have behind : table.decodeAfter VlanHeader.size report = .ok decoded := by
    rw [AttributeTable.decodeAfter_append (VlanHeader.length_toOctets _) rfl, isOk]
  have entries : (decoded.all entryKind).mapM VlanEntry.ofStream
      = .ok ((first :: later).map fun written => written.entry) := by
    rw [all_eq]
    apply mapM_map_eq_ok
    intro written _
    exact written.ofStream_inside
  rw [octets]
  simp only [ofPayload, headerRead, behind, entries, bind, Except.bind]
  rfl

/-- A VLAN that forwards, with its attributes from the state back to the record. -/
def reversedVlan : WrittenVlan where
  vlan := 10
  flags := 0
  state? := some 1
  order := [⟨VlanEntry.stateKind, [1]⟩, ⟨VlanEntry.infoKind, [0, 0, 10, 0]⟩]
  order_perm := .swap _ _ _

example :
    (writeReport 4 [reversedVlan] { header := .ofType MessageType.newVlan 0 }).finish.drop
        messageHeaderSize =
      [7, 0, 0, 0, 4, 0, 0, 0, 20, 0, 1, 0x80,
        5, 0, 3, 0, 1, 0, 0, 0, 8, 0, 1, 0, 0, 0, 10, 0] := by
  decide

end PortVlans

end BridgeView
