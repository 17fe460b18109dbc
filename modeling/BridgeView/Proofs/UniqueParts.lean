import BridgeView.Proofs.Vlan.Coverage

/-!
# Parts that occur once

A port should have one entry for every VLAN that entries start with, and a table one
membership for every port, VLAN and group, and every router port once. Merges and
deletions keep this, but the report that puts an object into the cache is taken as it
came: a key that it repeats stays repeated through all merges, until a deletion names
it. The parts of a cached object are therefore unique if and only if that has happened to
every key that the first report repeats.

The argument is the same for all three lists of parts, so it is made once for
`KeyedParts`.
-/

namespace BridgeView

open KeyedList

/-- A list of parts of an object that merges match by a key and deletions filter by it. -/
structure KeyedParts (α ε κ : Type) [CacheObject α] [DecidableEq κ] where
  parts : α → List ε
  /-- What identifies a part. -/
  key : ε → κ
  /-- The deletion of an object takes away the parts with the key. -/
  Names : α → κ → Prop
  parts_updated : ∀ cached newer : α,
    parts (CacheObject.updated cached newer) = putAll key (parts newer) (parts cached)
  parts_subtract : ∀ cached gone : α, (CacheObject.subtract cached gone).stays = true →
    ∃ keeps : ε → Bool,
      parts (CacheObject.subtract cached gone).object = (parts cached).filter keeps ∧
        ∀ part, keeps part = true ↔ ¬Names gone (key part)

namespace KeyedParts

variable {α ε κ : Type} [CacheObject α] [DecidableEq κ] (keyed : KeyedParts α ε κ)

/-- The message takes away the parts with the key. -/
def Removes (event : Event α) (wanted : κ) : Prop :=
  event.action = .delete ∧ keyed.Names event.object wanted

/-- A message leaves a key repeated that was repeated, unless it removes it. -/
theorem repeats_succeed_iff {wanted : κ} {cached left : α} {event : Event α}
    (succeeded : Cache.succeed cached event = some left) :
    Repeats keyed.key wanted (keyed.parts left) ↔
      Repeats keyed.key wanted (keyed.parts cached) ∧ ¬keyed.Removes event wanted := by
  rcases Cache.succeed_cases succeeded with ⟨merges, rfl⟩ | ⟨deletes, stays, rfl⟩ | ⟨asks, rfl⟩
  · rw [keyed.parts_updated, repeats_putAll_iff]
    simp [Removes, Cache.ne_delete_of_merges merges]
  · rcases keyed.parts_subtract cached event.object stays with ⟨keeps, subtracted, byKey⟩
    rw [subtracted, repeats_filter_iff byKey, Removes, and_iff_right deletes]
  · simp [Removes, asks]

/-- Every key that the first report repeats was removed since. -/
def Cleared [IndexedObject α] {events : List (Event α)} {object : α}
    (lineage : Cache.Lineage events object) : Prop :=
  ∀ wanted, Repeats keyed.key wanted (keyed.parts lineage.first.object) →
    ∃ event ∈ lineage.since, keyed.Removes event wanted

/-- No key occurs twice in an object if and only if its lineage clears every key that repeats. -/
theorem nodup_iff_cleared [IndexedObject α] {events : List (Event α)} {object : α}
    (lineage : Cache.Lineage events object) :
    ((keyed.parts object).map keyed.key).Nodup ↔ keyed.Cleared lineage := by
  rw [nodup_map_iff]
  apply forall_congr'
  intro wanted
  rw [Cache.holds_iff_of_foldlM keyed.repeats_succeed_iff lineage.develops]
  simp

end KeyedParts

/-- The entries of a port by the VLAN they start with. -/
def PortVlans.keyedEntries : KeyedParts PortVlans VlanEntry UInt16 where
  parts := entries
  key := VlanEntry.vlan
  Names gone vlan := gone.covers vlan = true
  parts_updated := entries_merge
  parts_subtract cached gone stays :=
    ⟨_, (subtract_of_named (entries_ne_nil_of_stays stays)).1, by simp⟩

namespace GroupTable

theorem subtract_of_stays {cached gone : GroupTable}
    (stays : (cached.subtract gone).stays = true) :
    (cached.subtract gone).object.entries =
        cached.entries.filter (fun entry => !gone.entries.any entry.sameGroup) ∧
      (cached.subtract gone).object.routerPorts =
        cached.routerPorts.filter (fun port => !gone.routerPorts.contains port) := by
  rw [subtract] at stays ⊢
  split at stays
  · cases stays
  · rename_i named
    rw [if_neg named]
    exact ⟨rfl, rfl⟩

theorem any_sameGroup_iff (entry : GroupEntry) (entries : List GroupEntry) :
    entries.any entry.sameGroup = true ↔ entry.member ∈ entries.map GroupEntry.member := by
  rw [List.any_eq_true, List.mem_map]
  apply exists_congr
  intro other
  rw [sameGroup_iff, @eq_comm _ other.member]

/-- The memberships of a table by port, VLAN and group. -/
def keyedMembers : KeyedParts GroupTable GroupEntry (UInt32 × UInt16 × GroupAddress) where
  parts := entries
  key := GroupEntry.member
  Names gone member := member ∈ gone.entries.map GroupEntry.member
  parts_updated := entries_merge
  parts_subtract cached gone stays := by
    refine ⟨_, (subtract_of_stays stays).1, ?_⟩
    intro entry
    rw [Bool.not_eq_true', ← Bool.not_eq_true, any_sameGroup_iff]

/-- The router ports of a table, each under itself. -/
def keyedRouterPorts : KeyedParts GroupTable UInt32 UInt32 where
  parts := routerPorts
  key := id
  Names gone port := port ∈ gone.routerPorts
  parts_updated := routerPorts_merge
  parts_subtract cached gone stays := ⟨_, (subtract_of_stays stays).2, by simp⟩

end GroupTable

namespace Cache

/-- The parts of a cached object are unique if and only if every key that its first report
repeats was removed since. -/
theorem uniqueParts_iff (portSteps : List (Step PortVlans))
    (tableSteps : List (Step GroupTable)) :
    (∀ port ∈ (run portSteps).objects, ∃ lineage : Lineage (history portSteps) port,
      (port.entries.map VlanEntry.vlan).Nodup ↔ PortVlans.keyedEntries.Cleared lineage) ∧
      ∀ table ∈ (run tableSteps).objects, ∃ lineage : Lineage (history tableSteps) table,
        ((table.entries.map GroupEntry.member).Nodup ↔
            GroupTable.keyedMembers.Cleared lineage) ∧
          (table.routerPorts.Nodup ↔ GroupTable.keyedRouterPorts.Cleared lineage) := by
  constructor
  · intro port isCached
    rcases exists_lineage portSteps isCached with ⟨lineage⟩
    exact ⟨lineage, PortVlans.keyedEntries.nodup_iff_cleared lineage⟩
  · intro table isCached
    rcases exists_lineage tableSteps isCached with ⟨lineage⟩
    have uniquePorts := GroupTable.keyedRouterPorts.nodup_iff_cleared lineage
    refine ⟨lineage, GroupTable.keyedMembers.nodup_iff_cleared lineage, ?_⟩
    rw [← uniquePorts]
    exact iff_of_eq (congrArg List.Nodup (List.map_id table.routerPorts).symm)

end Cache

/-- A port whose report names VLAN 10 twice. -/
def PortVlans.repeatedVlan : PortVlans where
  interface? := some 4
  family? := some 7
  vlan? := some 10
  last? := some 0
  flags? := some 0
  entries := [{ vlan := 10 }, { vlan := 10 }, { vlan := 20 }]

theorem PortVlans.parsed_repeatedVlan : Cache.Parsed repeatedVlan :=
  ⟨default, [7, 0, 0, 0, 4, 0, 0, 0, 12, 0, 1, 128, 8, 0, 1, 0, 0, 0, 10, 0,
    12, 0, 1, 128, 8, 0, 1, 0, 0, 0, 10, 0, 12, 0, 1, 128, 8, 0, 1, 0, 0, 0, 20, 0],
    by decide +kernel⟩

/-- A bridge whose report names a membership and a router port twice. -/
def GroupTable.repeatedParts : GroupTable where
  bridge? := some 3
  family? := some 7
  entries := [
    { port := 5, protocol := 0x0800, address := .ipv4 ⟨239, 1, 1, 1⟩ },
    { port := 5, state := 1, protocol := 0x0800, address := .ipv4 ⟨239, 1, 1, 1⟩ }]
  routerPorts := [5, 5]

theorem GroupTable.parsed_repeatedParts : Cache.Parsed repeatedParts :=
  ⟨default, [7, 0, 0, 0, 3, 0, 0, 0, 72, 0, 1, 128, 68, 0, 1, 128,
    32, 0, 1, 0, 5, 0, 0, 0, 0, 0, 0, 0, 239, 1, 1, 1, 0, 0, 0, 0, 0, 0, 0, 0, 0, 0, 0, 0,
    8, 0, 0, 0,
    32, 0, 1, 0, 5, 0, 0, 0, 1, 0, 0, 0, 239, 1, 1, 1, 0, 0, 0, 0, 0, 0, 0, 0, 0, 0, 0, 0,
    8, 0, 0, 0,
    20, 0, 2, 128, 8, 0, 1, 0, 5, 0, 0, 0, 8, 0, 1, 0, 5, 0, 0, 0], by decide +kernel⟩

namespace Cache

/-- Once VLAN 10 is deleted, the port has one entry for each VLAN. -/
theorem uniqueParts_iff_repeatedVlan :
    (∃ port ∈ (run [.message ⟨PortVlans.repeatedVlan, .new⟩,
        .message ⟨PortVlans.firstOfPair, .delete⟩]).objects,
      ∃ lineage : Lineage (history [.message ⟨PortVlans.repeatedVlan, .new⟩,
          .message ⟨PortVlans.firstOfPair, .delete⟩]) port,
        (port.entries.map VlanEntry.vlan).Nodup ∧ PortVlans.keyedEntries.Cleared lineage) ∧
      GroupTable.repeatedParts ∈ (run [.message ⟨GroupTable.repeatedParts, .new⟩]).objects ∧
        ∃ lineage : Lineage (history [.message ⟨GroupTable.repeatedParts, .new⟩])
            GroupTable.repeatedParts,
          ¬GroupTable.keyedMembers.Cleared lineage ∧
            ¬GroupTable.keyedRouterPorts.Cleared lineage := by
  have portCached : (PortVlans.repeatedVlan.subtract PortVlans.firstOfPair).object ∈
      (run [.message ⟨PortVlans.repeatedVlan, .new⟩,
        .message ⟨PortVlans.firstOfPair, .delete⟩]).objects := by decide
  have tableCached : GroupTable.repeatedParts ∈
      (run [.message ⟨GroupTable.repeatedParts, .new⟩]).objects := by decide
  rcases uniqueParts_iff _ _ with ⟨ofPorts, ofTables⟩
  rcases ofPorts _ portCached with ⟨portLineage, uniqueEntries⟩
  rcases ofTables _ tableCached with ⟨tableLineage, uniqueMembers, uniquePorts⟩
  have once : ((PortVlans.repeatedVlan.subtract PortVlans.firstOfPair).object.entries.map
      VlanEntry.vlan).Nodup := by decide
  refine ⟨⟨_, portCached, portLineage, once, uniqueEntries.mp once⟩, tableCached, tableLineage,
    ?_, ?_⟩
  · rw [← uniqueMembers]
    decide
  · rw [← uniquePorts]
    decide

/-- The first report is cached with what it repeats. -/
theorem not_unique_first_report :
    (Parsed PortVlans.repeatedVlan ∧
      PortVlans.repeatedVlan ∈ (run [.message ⟨PortVlans.repeatedVlan, .new⟩]).objects ∧
        ¬(PortVlans.repeatedVlan.entries.map VlanEntry.vlan).Nodup) ∧
      Parsed GroupTable.repeatedParts ∧
        GroupTable.repeatedParts ∈ (run [.message ⟨GroupTable.repeatedParts, .new⟩]).objects ∧
          ¬(GroupTable.repeatedParts.entries.map GroupEntry.member).Nodup ∧
            ¬GroupTable.repeatedParts.routerPorts.Nodup := by
  refine ⟨⟨PortVlans.parsed_repeatedVlan, by decide, by decide⟩,
    GroupTable.parsed_repeatedParts, by decide, by decide, by decide⟩

end Cache

end BridgeView
