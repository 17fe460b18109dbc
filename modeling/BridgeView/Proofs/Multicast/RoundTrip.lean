import BridgeView.Multicast.Table
import BridgeView.Proofs.Attribute.Decoding
import BridgeView.Proofs.Attribute.Writing

/-!
# Reports of the multicast database

The kernel reports the database of a bridge as containers of memberships, all in one container, and
the router ports in another. A membership is a record of fixed size, with the attributes that are
not part of the record behind it in the same payload. A report that is written in this way is read
back, however the memberships are divided among the containers.

The record holds an address in sixteen octets, and the protocol next to it says what kind of address
they are. So a membership is read back only if its protocol is the one of its address
(`GroupAddress.GoesWith`).
-/

namespace BridgeView

open Attribute

/-! ## Addresses -/

namespace GroupAddress

variable {protocol : UInt16} {address : GroupAddress}

/-- The protocol is the one of the address, and that of neither internet protocol if the address is
of the link layer. -/
def GoesWith (protocol : UInt16) : GroupAddress → Prop
  | ipv4 _ => protocol = ipv4Protocol
  | ipv6 _ => protocol = ipv6Protocol
  | mac _ => protocol ≠ ipv4Protocol ∧ protocol ≠ ipv6Protocol

/-- Numbers decide whether an address goes with a protocol. -/
instance : Decidable (address.GoesWith protocol) :=
  match address with
  | ipv4 _ => inferInstanceAs (Decidable (_ = _))
  | ipv6 _ => inferInstanceAs (Decidable (_ = _))
  | mac _ => inferInstanceAs (Decidable (_ ∧ _))

/-- An address is read back from its octets under the protocol that it goes with. -/
theorem ofWire_toWire (goesWith : address.GoesWith protocol) :
    ofWire protocol address.toWire = address := by
  cases address with
  | ipv4 address =>
      rw [goesWith]
      rfl
  | ipv6 address =>
      have octets : (toWire (ipv6 address)).val = address.toOctets :=
        FixedOctets.val_ofOctets address.length_toOctets
      have groups : Ipv6Address.groupsOf address.toOctets = address.groups :=
        Ipv6Address.groupsOf_flatMap address.groups
      simp [ofWire, show protocol = ipv6Protocol from goesWith, ipv4Protocol, ipv6Protocol,
        Ipv6Address.ofOctets, octets, groups]
  | mac address =>
      have octets : (toWire (mac address)).val.take 6 = address.octets := by
        have size := address.length_octets
        simp [toWire, FixedOctets.ofOctets, size, List.take_of_length_le]
      simp only [ofWire, if_neg goesWith.1, if_neg goesWith.2, octets]

end GroupAddress

/-! ## Memberships -/

namespace GroupEntry

/-- The attribute of the timer, if there is one. -/
def timerOctets (entry : GroupEntry) : Octets :=
  entry.timer?.toList.flatMap fun timer => encode timerKind (Octets.ofWord32 timer)

/-- The record of a membership and the timer behind it. -/
def infoOctets (entry : GroupEntry) : Octets :=
  entry.toRecord.toOctets ++ entry.timerOctets

theorem decode_timerOctets (entry : GroupEntry) :
    ∃ extra, extraTable.decode entry.timerOctets = .ok extra ∧
      extra.all timerKind = entry.timer?.toList.map Octets.ofWord32 := by
  apply AttributeTable.decode_flatMap rfl (fun _ _ => by decide)
  · intro timer _
    simp [attributeHeaderSize]
  · intro timer _
    exact Rule.allows_of_le (by decide) (Nat.le_refl 4) (Nat.zero_le 4)

/-- A membership is read back from its record and timer. -/
theorem ofInfo_infoOctets {entry : GroupEntry} (goesWith : entry.address.GoesWith entry.protocol) :
    ofInfo entry.infoOctets = .ok entry := by
  rcases entry.decode_timerOctets with ⟨extra, isOk, all_eq⟩
  have timer : extra.word32? timerKind = entry.timer? := by
    rw [DecodedStream.word32?, AttributeTable.get?_eq_head? isOk (by decide), all_eq]
    rcases entry.timer? with _ | timer
    · rfl
    · simp [Except.toOption]
  have record : GroupRecord.scanUnpadded.runRecord entry.infoOctets
      = .ok (entry.toRecord, entry.timerOctets) :=
    GroupRecord.runRecord_toOctets_append _ _
  have protocol : protocolOf entry.toRecord.protocol = entry.protocol :=
    Octets.word16_ofWord16 _
  have address : GroupAddress.ofWire entry.protocol entry.toRecord.address = entry.address :=
    GroupAddress.ofWire_toWire goesWith
  simp only [ofInfo, record, isOk, protocol, address, timer, bind, Except.bind]
  rfl

theorem size_le_length_infoOctets (entry : GroupEntry) :
    GroupRecord.size ≤ entry.infoOctets.length := by
  rw [infoOctets, List.length_append, GroupRecord.length_toOctets]
  exact Nat.le_add_right _ _

theorem length_infoOctets_le (entry : GroupEntry) : entry.infoOctets.length ≤ 36 := by
  rw [infoOctets, List.length_append, GroupRecord.length_toOctets, timerOctets]
  rcases entry.timer? with _ | timer <;>
    simp [GroupRecord.size, Octets.alignUp, attributeHeaderSize]

end GroupEntry

/-- A membership, and whether the kernel marks its record as a container. -/
structure WrittenGroup extends GroupEntry where
  marked : Bool

namespace WrittenGroup

variable (written : WrittenGroup)

/-- The type under which a membership is written, with or without the mark of a container. -/
def type : UInt16 :=
  if written.marked then GroupTable.infoKind ||| nestedMark else GroupTable.infoKind

/-- Writes a membership, record and timer one after the other or at once. -/
def write (draft : Draft) : Draft :=
  if written.marked then
    draft.nest GroupTable.infoKind fun opened =>
      written.timer?.toList.foldl
        (fun opened timer => opened.appendAttribute GroupEntry.timerKind (Octets.ofWord32 timer))
        (opened.append written.toRecord.toOctets)
  else draft.appendAttribute GroupTable.infoKind written.infoOctets

/-- Writing a membership appends one attribute. -/
theorem appends_write : Draft.Appends written.write (encode written.type written.infoOctets) := by
  unfold write type
  split
  · have record : Draft.Appends (·.append written.toRecord.toOctets) written.toRecord.toOctets :=
      .append_of_aligned (by rw [GroupRecord.length_toOctets]; rfl)
    have timer := Draft.Appends.foldl (fun timer : UInt32 =>
      .appendAttribute GroupEntry.timerKind (Octets.ofWord32 timer)) written.timer?.toList
    exact (record.comp timer).nest GroupTable.infoKind
  · exact .appendAttribute GroupTable.infoKind written.infoOctets

end WrittenGroup

/-! ## The database of a bridge -/

/-- A report of the database of a bridge. The memberships are divided among containers, and the
router ports stand behind them or in front of them. -/
structure WrittenDatabase where
  bridge : UInt32
  containers : List (List WrittenGroup)
  routerPorts : List UInt32
  routersFirst : Bool := false

namespace WrittenDatabase

open GroupTable

variable (written : WrittenDatabase)

/-- The memberships that are written, in order. -/
def entries : List GroupEntry :=
  written.containers.flatten.map fun group => group.toGroupEntry

/-- The octets of one container of memberships. -/
def containerOctets (groups : List WrittenGroup) : Octets :=
  groups.flatMap fun group => encode group.type group.infoOctets

/-- The octets of the memberships, container by container. -/
def databaseOctets : Octets :=
  written.containers.flatMap fun groups =>
    encode (entryKind ||| nestedMark) (containerOctets groups)

/-- The octets of the router ports. -/
def routerOctets : Octets :=
  written.routerPorts.flatMap fun port => encode routerPortKind (Octets.ofWord32 port)

/-- Writes the memberships. -/
def writeDatabase (draft : Draft) : Draft :=
  draft.nest databaseKind fun database =>
    written.containers.foldl (fun database groups => database.nest entryKind fun container =>
      groups.foldl (fun container group => group.write container) container) database

/-- Writes the router ports. -/
def writeRouters (draft : Draft) : Draft :=
  draft.nest routerKind fun routers =>
    written.routerPorts.foldl
      (fun routers port => routers.appendAttribute routerPortKind (Octets.ofWord32 port)) routers

/-- The family header of the report. -/
def header : PortHeader :=
  { family := bridgeAddressFamily, interface := written.bridge }

/-- Writes a message about a bridge into a draft, in either order. -/
def write (draft : Draft) : Draft :=
  let opened := draft.append written.header.toOctets
  if written.routersFirst then written.writeDatabase (written.writeRouters opened)
  else written.writeRouters (written.writeDatabase opened)

/-- The two containers, in the order of the report. -/
def parts : List Attribute :=
  if written.routersFirst then
    [⟨routerKind, written.routerOctets⟩, ⟨databaseKind, written.databaseOctets⟩]
  else [⟨databaseKind, written.databaseOctets⟩, ⟨routerKind, written.routerOctets⟩]

/-- What stands behind the header. -/
def stream : Octets :=
  written.parts.flatMap fun part => encode (part.kind ||| nestedMark) part.payload

/-- Writing a message appends its header and what stands behind it. -/
theorem appends_write :
    Draft.Appends written.write (written.header.toOctets ++ written.stream) := by
  have header : Draft.Appends (·.append written.header.toOctets) written.header.toOctets :=
    .append_of_aligned (by rw [PortHeader.length_toOctets]; rfl)
  have database : Draft.Appends written.writeDatabase
      (encode (databaseKind ||| nestedMark) written.databaseOctets) := by
    apply Draft.Appends.nest
    apply Draft.Appends.foldl
    intro groups
    apply Draft.Appends.nest
    exact .foldl WrittenGroup.appends_write groups
  have routers : Draft.Appends written.writeRouters
      (encode (routerKind ||| nestedMark) written.routerOctets) := by
    apply Draft.Appends.nest
    apply Draft.Appends.foldl
    intro port
    exact .appendAttribute routerPortKind (Octets.ofWord32 port)
  unfold write stream parts
  split
  · simpa using header.comp (routers.comp database)
  · simpa using header.comp (database.comp routers)

theorem forall_mem_parts {motive : Attribute → Prop}
    (database : motive ⟨databaseKind, written.databaseOctets⟩)
    (routers : motive ⟨routerKind, written.routerOctets⟩) :
    ∀ part ∈ written.parts, motive part := by
  unfold parts
  split
  · simpa using ⟨routers, database⟩
  · simpa using ⟨database, routers⟩

/-! ### Reading -/

/-- A container of memberships decodes into their octets. -/
theorem decode_containerOctets (groups : List WrittenGroup) :
    ∃ container, entryTable.decode (containerOctets groups) = .ok container ∧
      container.all infoKind = groups.map fun group => group.infoOctets := by
  apply AttributeTable.decode_flatMap rfl
  · intro group _
    unfold WrittenGroup.type
    split <;> rfl
  · intro group _
    have small := group.length_infoOctets_le
    rw [attributeHeaderSize]
    omega
  · intro group _
    exact Rule.allows_of_le (by decide) (Nat.zero_le _) group.size_le_length_infoOctets

/-- The memberships of a bridge decode into their containers. -/
theorem decode_databaseOctets
    (fits : attributeHeaderSize + written.databaseOctets.length ≤ 65535) :
    ∃ database, databaseTable.decode written.databaseOctets = .ok database ∧
      database.all entryKind = written.containers.map containerOctets := by
  apply AttributeTable.decode_flatMap rfl (fun _ _ => by decide)
  · intro groups isContainer
    have part : attributeHeaderSize + (containerOctets groups).length
        ≤ written.databaseOctets.length := length_le_length_flatMap isContainer
    omega
  · intro groups _
    rcases decode_containerOctets groups with ⟨_, isOk, _⟩
    exact Rule.allows_nested (AttributeTable.checkStream_of_decode isOk)

theorem decode_routerOctets :
    ∃ routers, routerTable.decode written.routerOctets = .ok routers ∧
      routers.all routerPortKind = written.routerPorts.map Octets.ofWord32 := by
  apply AttributeTable.decode_flatMap rfl (fun _ _ => by decide)
  · intro port _
    simp [attributeHeaderSize]
  · intro port _
    exact Rule.allows_of_le (by decide) (Nat.zero_le 4) (Nat.le_refl 4)

/-- A written message decodes into its two parts, in whichever order they stand. -/
theorem decode_stream (databaseFits : attributeHeaderSize + written.databaseOctets.length ≤ 65535)
    (routersFit : attributeHeaderSize + written.routerOctets.length ≤ 65535) :
    ∃ decoded, messageTable.decode written.stream = .ok decoded ∧
      decoded.get? databaseKind = some written.databaseOctets ∧
        decoded.get? routerKind = some written.routerOctets := by
  have spells : Spells written.stream written.parts := by
    apply spells_attributes
    · apply forall_mem_parts
      · show (databaseKind ||| nestedMark) &&& kindMask = databaseKind
        decide
      · show (routerKind ||| nestedMark) &&& kindMask = routerKind
        decide
    · apply forall_mem_parts
      · exact Nat.lt_succ_of_le databaseFits
      · exact Nat.lt_succ_of_le routersFit
  have allowed : ∀ part ∈ written.parts, messageTable.Allows part := by
    rcases written.decode_databaseOctets databaseFits with ⟨_, databaseOk, _⟩
    rcases written.decode_routerOctets with ⟨_, routersOk, _⟩
    apply forall_mem_parts
    · apply AttributeTable.allows_of_known rfl
      exact Rule.allows_nested (AttributeTable.checkStream_of_decode databaseOk)
    · apply AttributeTable.allows_of_known rfl
      exact Rule.allows_nested (AttributeTable.checkStream_of_decode routersOk)
  rcases AttributeTable.decode_of_spells spells allowed with ⟨decoded, isOk, all_eq⟩
  refine ⟨decoded, isOk, ?_, ?_⟩
  · rw [AttributeTable.get?_eq_head? isOk (by decide), all_eq, parts]
    split <;> rfl
  · rw [AttributeTable.get?_eq_head? isOk (by decide), all_eq, parts]
    split <;> rfl

/-- A container of memberships is read back. -/
theorem entriesOfStream_containerOctets {groups : List WrittenGroup}
    (goesWith : ∀ group ∈ groups, group.address.GoesWith group.protocol) :
    entriesOfStream (containerOctets groups)
      = .ok (groups.map fun group => group.toGroupEntry) := by
  rcases decode_containerOctets groups with ⟨container, isOk, all_eq⟩
  have read : (container.all infoKind).mapM GroupEntry.ofInfo
      = .ok (groups.map fun group => group.toGroupEntry) := by
    rw [all_eq]
    apply mapM_map_eq_ok
    intro group isGroup
    exact GroupEntry.ofInfo_infoOctets (goesWith group isGroup)
  simp only [entriesOfStream, isOk, bind, Except.bind, read]

/-- The memberships of a written message are read back, container by container. -/
theorem readEntries_eq {decoded : DecodedStream}
    (found : decoded.get? databaseKind = some written.databaseOctets)
    (fits : attributeHeaderSize + written.databaseOctets.length ≤ 65535)
    (goesWith : ∀ entry ∈ written.entries, entry.address.GoesWith entry.protocol) :
    readEntries decoded = .ok written.entries := by
  rcases written.decode_databaseOctets fits with ⟨database, isOk, all_eq⟩
  have read : (database.all entryKind).mapM entriesOfStream
      = .ok (written.containers.map fun groups => groups.map fun group => group.toGroupEntry) := by
    rw [all_eq]
    apply mapM_map_eq_ok
    intro groups isContainer
    apply entriesOfStream_containerOctets
    intro group isGroup
    apply goesWith group.toGroupEntry
    exact List.mem_map_of_mem (List.mem_flatten_of_mem isContainer isGroup)
  simp only [readEntries, DecodedStream.nested, found, isOk, Except.map, bind, Except.bind, read,
    entries, List.map_flatten]
  rfl

theorem readRouterPorts_eq {decoded : DecodedStream}
    (found : decoded.get? routerKind = some written.routerOctets) :
    readRouterPorts decoded = .ok written.routerPorts := by
  rcases written.decode_routerOctets with ⟨routers, isOk, all_eq⟩
  have read : (routers.all routerPortKind).mapM Attribute.word32
      = .ok (written.routerPorts.map id) := by
    rw [all_eq]
    apply mapM_map_eq_ok
    intro port _
    exact word32_ofWord32 port
  rw [List.map_id] at read
  simp only [readRouterPorts, DecodedStream.nested, found, isOk, Except.map, bind, Except.bind,
    read]

end WrittenDatabase

/-- A report of the database is read back, if its memberships have the protocols of their addresses
and its containers have lengths of sixteen bits. -/
theorem GroupTable.ofPayload_writeDatabase (header : MessageHeader) (written : WrittenDatabase)
    (goesWith : ∀ entry ∈ written.entries, entry.address.GoesWith entry.protocol)
    (databaseFits : attributeHeaderSize + written.databaseOctets.length ≤ 65535)
    (routersFit : attributeHeaderSize + written.routerOctets.length ≤ 65535) :
    ofPayload ((written.write { header }).finish.drop messageHeaderSize) =
      .ok (some {
        bridge? := some written.bridge
        family? := some bridgeAddressFamily
        entries := written.entries
        routerPorts := written.routerPorts }) := by
  have headerRead : PortHeader.ofOctets (written.header.toOctets ++ written.stream)
      = .ok written.header :=
    PortHeader.ofOctets_toOctets_append _ _
  rcases written.decode_stream databaseFits routersFit with ⟨decoded, isOk, database, routers⟩
  have behind : messageTable.decodeAfter PortHeader.size (written.header.toOctets ++ written.stream)
      = .ok decoded := by
    rw [AttributeTable.decodeAfter_append written.header.length_toOctets rfl, isOk]
  have entries := written.readEntries_eq database databaseFits goesWith
  have routerPorts := written.readRouterPorts_eq routers
  rw [written.appends_write.drop_finish header]
  simp only [ofPayload, headerRead, behind, entries, routerPorts, bind, Except.bind]
  rfl

/-- Memberships of all three kinds of addresses in three containers, one of which is empty, behind
the router ports. -/
def mixedDatabase : WrittenDatabase where
  bridge := 3
  containers :=
    [[⟨{ port := 5, protocol := 0x0800, address := .ipv4 ⟨239, 1, 1, 1⟩
         timer? := some 25900 }, true⟩,
        ⟨{ port := 6, vlan := 10, state := 1, protocol := 0x86dd
           address := .ipv6 ⟨[0xff02, 0, 0, 0, 0, 0, 0, 0x6a], rfl⟩ }, false⟩],
      [],
      [⟨{ port := 5, protocol := 0, address := .mac ⟨[1, 0, 0x5e, 1, 2, 3], rfl⟩ }, true⟩]]
  routerPorts := [7, 5]
  routersFirst := true

/-- Memberships of all kinds of addresses are read back from a message. -/
theorem GroupTable.ofPayload_mixedDatabase :
    (∀ entry ∈ mixedDatabase.entries, entry.address.GoesWith entry.protocol) ∧
      attributeHeaderSize + mixedDatabase.databaseOctets.length ≤ 65535 ∧
      attributeHeaderSize + mixedDatabase.routerOctets.length ≤ 65535 ∧
      ofPayload ((mixedDatabase.write { header := .ofType MessageType.newGroups 0 }).finish.drop
          messageHeaderSize) =
        .ok (some {
          bridge? := some 3
          family? := some bridgeAddressFamily
          entries := mixedDatabase.entries
          routerPorts := [7, 5] }) := by
  have goesWith : ∀ entry ∈ mixedDatabase.entries, entry.address.GoesWith entry.protocol := by
    decide
  have databaseFits : attributeHeaderSize + mixedDatabase.databaseOctets.length ≤ 65535 := by
    decide +kernel
  have routersFit : attributeHeaderSize + mixedDatabase.routerOctets.length ≤ 65535 := by
    decide +kernel
  have readBack := ofPayload_writeDatabase (.ofType MessageType.newGroups 0) mixedDatabase goesWith
    databaseFits routersFit
  exact ⟨goesWith, databaseFits, routersFit, readBack⟩

end BridgeView
