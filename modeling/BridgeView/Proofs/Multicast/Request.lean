import BridgeView.Multicast.Request
import BridgeView.Proofs.Framing
import BridgeView.Proofs.Multicast.RoundTrip
import BridgeView.Proofs.Readers
import Mathlib.Data.List.Basic

/-!
# Memberships that are sent back

What the kernel reports of a membership can be asked for again. Reading the report forgets the
octets behind the address, the padding and all attributes but the timer, so that the record which a
request carries has other octets than the one that was read. It is read as the same membership all
the same, without the timer (`sentBack`), because reading has chosen the kind of the address by the
protocol. No request is made only where memory is missing (`IsAskedBy`).
-/

namespace BridgeView

open Attribute

/-- An address that is read from a record goes with its protocol. -/
theorem GroupAddress.goesWith_ofWire (protocol : UInt16) (octets : FixedOctets 16) :
    (ofWire protocol octets).GoesWith protocol := by
  unfold ofWire
  split
  · rename_i isIpv4
    split
    · exact isIpv4
    · exact isIpv4
  · rename_i notIpv4
    split
    · rename_i isIpv6
      exact isIpv6
    · rename_i notIpv6
      exact ⟨notIpv4, notIpv6⟩

namespace GroupEntry

theorem goesWith_of_ofInfo {payload : Octets} {entry : GroupEntry}
    (isRead : ofInfo payload = .ok entry) : entry.address.GoesWith entry.protocol := by
  rcases exists_of_bind_eq_ok isRead with ⟨⟨record, rest⟩, _, isRead⟩
  rcases exists_of_bind_eq_ok isRead with ⟨extra, _, isEntry⟩
  cases isEntry
  exact GroupAddress.goesWith_ofWire _ _

/-- The record of a membership is read as the membership without its timer. -/
theorem ofInfo_toRecord {entry : GroupEntry} (goesWith : entry.address.GoesWith entry.protocol) :
    ofInfo entry.toRecord.toOctets = .ok { entry with timer? := none } := by
  have readBack : ofInfo ({ entry with timer? := none } : GroupEntry).infoOctets
      = .ok { entry with timer? := none } := ofInfo_infoOctets goesWith
  have noTimer : ({ entry with timer? := none } : GroupEntry).infoOctets
      = entry.toRecord.toOctets := List.append_nil _
  rwa [noTimer] at readBack

/-- What reading a finished message gives if it is about a membership of a bridge, and about nothing
else. -/
structure AskedFor (type : UInt16) (bridge : UInt32) (entry : GroupEntry) (octets : Octets) where
  message : Message
  header : PortHeader
  record : Octets
  /-- The membership that the record is read as. -/
  named : GroupEntry
  onlyMessage : Message.ofDatagram octets = [.ok message]
  type_eq : message.header.type = type
  header_eq : PortHeader.ofOctets message.payload = .ok header
  family_eq : header.family = bridgeAddressFamily
  bridge_eq : header.interface = bridge
  onlyAttribute : Spells (message.payload.drop PortHeader.size)
    [⟨GroupTable.requestEntryKind, record⟩]
  named_eq : ofInfo record = .ok named
  sameGroup : named.sameGroup entry = true
  protocol_eq : named.protocol = entry.protocol
  state_eq : named.state = entry.state
  flags_eq : named.flags = entry.flags

/-- The body of a request about a membership of the bridge. -/
def requestBody (bridge : UInt32) (entry : GroupEntry) : Octets :=
  ({ family := bridgeAddressFamily, interface := bridge } : PortHeader).toOctets ++
    encode GroupTable.requestEntryKind entry.toRecord.toOctets

theorem length_requestBody (bridge : UInt32) (entry : GroupEntry) :
    (entry.requestBody bridge).length = 40 := by
  simp [requestBody, PortHeader.length_toOctets, GroupRecord.length_toOctets, PortHeader.size,
    GroupRecord.size, attributeHeaderSize, Octets.alignUp]

/-- Where the memory is granted, the request is made of header and record. -/
theorem request_eq [Memory] (type : UInt16) (bridge : UInt32) (entry : GroupEntry) (flags : UInt16)
    (granted : Memory.grants GroupTable.requestCapacity = true) :
    GroupTable.request type bridge entry flags =
      .ok { draft := {
        header := .ofType type (MessageFlags.request ||| MessageFlags.acknowledge ||| flags)
        body := entry.requestBody bridge } } := by
  let portHeader : PortHeader := { family := bridgeAddressFamily, interface := bridge }
  let header : MessageHeader :=
    .ofType type (MessageFlags.request ||| MessageFlags.acknowledge ||| flags)
  have writesHeader : Draft.Appends (·.append portHeader.toOctets) portHeader.toOctets := by
    apply Draft.Appends.append_of_aligned
    simp [portHeader.length_toOctets, PortHeader.size]
  have writes := writesHeader.comp
    (.appendAttribute GroupTable.requestEntryKind entry.toRecord.toOctets)
  have written := writes.write_eq { header } rfl
  rw [GroupTable.request, Draft.reserve_of_granted type _ (by decide) granted]
  exact congrArg (fun draft : Draft => Except.ok ({ draft } : ChangeRequest)) written

/-- A request that is made asks for the membership, and it is made unless memory is missing. -/
def IsAskedBy [Memory] (type : UInt16) (bridge : UInt32) (entry : GroupEntry) :
    Except Error ChangeRequest → Prop
  | .ok made => Nonempty (AskedFor type bridge entry made.draft.finish)
  | .error error => error = .outOfMemory ∧ Memory.grants GroupTable.requestCapacity = false

/-- A membership that goes with its protocol is asked for by every request that is made about it. -/
theorem isAskedBy_request [Memory] (type : UInt16) (bridge : UInt32) {entry : GroupEntry}
    (flags : UInt16) (goesWith : entry.address.GoesWith entry.protocol) :
    entry.IsAskedBy type bridge (GroupTable.request type bridge entry flags) := by
  rcases granted : Memory.grants GroupTable.requestCapacity with _ | _
  · have refused : GroupTable.request type bridge entry flags = .error .outOfMemory := by
      rw [GroupTable.request, Draft.reserve_of_not_granted type _ (by decide) granted]
      rfl
    rw [refused]
    exact ⟨rfl, granted⟩
  rw [request_eq type bridge entry flags granted]
  have size := length_requestBody bridge entry
  have headerSize :=
    PortHeader.length_toOctets { family := bridgeAddressFamily, interface := bridge }
  have recordSize := entry.toRecord.length_toOctets
  refine ⟨{
    message := _
    header := { family := bridgeAddressFamily, interface := bridge }
    record := entry.toRecord.toOctets
    named := { entry with timer? := none }
    onlyMessage := Draft.ofDatagram_finish ?_ ?_
    type_eq := rfl
    header_eq := PortHeader.ofOctets_toOctets_append _ _
    family_eq := rfl
    bridge_eq := rfl
    onlyAttribute := ?_
    named_eq := ofInfo_toRecord goesWith
    sameGroup := ?_
    protocol_eq := rfl
    state_eq := rfl
    flags_eq := rfl }⟩
  · simp [size]
  · simp [Draft.size, size, messageHeaderSize, UInt32.size]
  · have behind : (entry.requestBody bridge).drop PortHeader.size
        = encode GroupTable.requestEntryKind entry.toRecord.toOctets ++ [] := by
      simp [requestBody, List.drop_left' headerSize]
    have fits : attributeHeaderSize + entry.toRecord.toOctets.length < 65536 := by
      simp [recordSize, attributeHeaderSize, GroupRecord.size]
    simp only [Draft.message, behind]
    exact Spells.nil.encode_append fits
  · simp [sameGroup]

/-- A membership that was read, sent back as a record, is read as the same one without its timer,
and so it is by whoever gets a request to add or to remove it, which can be had unless memory is
missing. A record is taken from in front of anything with its padding cleared, and from whatever is
long enough. -/
theorem sentBack [Memory] :
    (∀ payload entry, ofInfo payload = .ok entry →
      ofInfo entry.toRecord.toOctets = .ok { entry with timer? := none } ∧
        ∀ bridge flags,
          entry.IsAskedBy MessageType.newGroups bridge
              (GroupTable.addRequest bridge entry flags) ∧
            entry.IsAskedBy MessageType.deleteGroups bridge
              (GroupTable.deleteRequest bridge entry)) ∧
      (∀ (record : GroupRecord) (rest : Octets),
        GroupRecord.scanUnpadded.runRecord (record.toOctets ++ rest)
          = .ok ({ record with pad := ⟨[0, 0], rfl⟩ }, rest)) ∧
      ∀ octets : Octets, (∃ error, GroupRecord.scanUnpadded.runRecord octets = .error error) ↔
        octets.length < GroupRecord.size := by
  refine ⟨?_, GroupRecord.runRecord_toOctets_append, ?_⟩
  · intro payload entry isRead
    have goesWith := goesWith_of_ofInfo isRead
    refine ⟨ofInfo_toRecord goesWith, ?_⟩
    intro bridge flags
    constructor
    · exact isAskedBy_request MessageType.newGroups bridge flags goesWith
    · exact isAskedBy_request MessageType.deleteGroups bridge 0 goesWith
  · intro octets
    exact GroupRecord.takes_scanUnpadded.runRecord_fails_iff

/-- A report with octets behind the address and in the padding, with a timer, and with an attribute
of an unknown kind. -/
def untidyReport : Octets :=
  [5, 0, 0, 0, 1, 2, 10, 0, 239, 1, 1, 1, 170, 170, 170, 170, 170, 170, 170, 170, 170, 170, 170,
    170, 8, 0, 255, 255, 8, 0, 1, 0, 44, 101, 0, 0, 5, 0, 77, 0, 1]

/-- What is read from a report with other octets in its padding and with a timer. -/
def untidyEntry : GroupEntry where
  port := 5
  vlan := 10
  state := 1
  flags := 2
  protocol := 0x0800
  address := .ipv4 ⟨239, 1, 1, 1⟩
  timer? := some 25900

/-- What is read from an untidy report is sent back in a tidy request. -/
theorem sentBack_untidyReport :
    ofInfo untidyReport = .ok untidyEntry ∧
      ofInfo untidyEntry.toRecord.toOctets = .ok { untidyEntry with timer? := none } ∧
      ∃ request, GroupTable.deleteRequest 4 untidyEntry = .ok request ∧
        Nonempty (AskedFor MessageType.deleteGroups 4 untidyEntry request.draft.finish) := by
  have isRead : ofInfo untidyReport = .ok untidyEntry := by decide +kernel
  rcases sentBack.1 untidyReport untidyEntry isRead with ⟨readBack, askedFor⟩
  have isMade : (GroupTable.deleteRequest 4 untidyEntry).isOk = true := by decide +kernel
  have asked := (askedFor 4 0).2
  refine ⟨isRead, readBack, ?_⟩
  generalize GroupTable.deleteRequest 4 untidyEntry = request at isMade asked
  rcases request with error | made
  · cases isMade
  · exact ⟨made, rfl, asked⟩

end GroupEntry

end BridgeView
