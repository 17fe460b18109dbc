import BridgeView.Proofs.Multicast.Database
import Mathlib.Data.Set.Basic

/-!
# The multicast databases as a map

What is known of the multicast databases of all bridges is a map from the bridge, port, VLAN and
group of a membership to the membership, and a set of router ports with their bridges. A new
message overwrites and adds what it carries, a deletion removes what it carries, and one that
carries nothing removes everything of its bridge (`GroupMap.tell`).

A cache keeps the same in a list of tables with lists of parts, which messages search, replace
in place, extend and filter. As long as no message carries a membership twice, it is an
implementation of the map, and it has a table of a bridge until a deletion leaves nothing of the
bridge (`groupMap_replay`).
-/

namespace BridgeView

open Cache KeyedList

/-- The router ports of a table, with its bridge. -/
def GroupTable.routers (table : GroupTable) : Set (Option UInt32 × UInt32) :=
  {router | table.bridge? = router.1 ∧ router.2 ∈ table.routerPorts}

/-- What is known of every bridge: its memberships and its router ports. -/
@[ext]
structure GroupMap where
  /-- The membership of a bridge under a port, VLAN and group. -/
  membership? : Option UInt32 → UInt32 × UInt16 × GroupAddress → Option GroupEntry
  routers : Set (Option UInt32 × UInt32)

namespace GroupMap

/-- Nothing is known yet. -/
def empty : GroupMap where
  membership? _ _ := none
  routers := ∅

/-- Nothing of a bridge is there. -/
def Lacks (map : GroupMap) (bridge : Option UInt32) : Prop :=
  (∀ member, map.membership? bridge member = none) ∧ ∀ port, (bridge, port) ∉ map.routers

/-- What a message carries takes the place of what was known, key by key. -/
def overwrite (map : GroupMap) (carried : GroupTable) : GroupMap where
  membership? bridge member :=
    if carried.bridge? = bridge then
      (carried.entries.find? (·.member = member)).or (map.membership? bridge member)
    else map.membership? bridge member
  routers := map.routers ∪ carried.routers

/-- What a message names is forgotten. -/
def remove (map : GroupMap) (gone : GroupTable) : GroupMap where
  membership? bridge member :=
    if gone.bridge? = bridge ∧ member ∈ gone.entries.map GroupEntry.member then none
    else map.membership? bridge member
  routers := map.routers \ gone.routers

/-- A bridge is forgotten as a whole. -/
def removeBridge (map : GroupMap) (gone : Option UInt32) : GroupMap where
  membership? bridge member := if gone = bridge then none else map.membership? bridge member
  routers := {router ∈ map.routers | gone ≠ router.1}

/-- What a message makes of the map. -/
def tell (map : GroupMap) (event : Event GroupTable) : GroupMap :=
  match event.action with
  | .new | .change => map.overwrite event.object
  | .delete =>
      if event.object.Bare then map.removeBridge event.object.bridge? else map.remove event.object
  | .get => map

/-- What is known after a list of events. -/
def after (events : List (Event GroupTable)) : GroupMap :=
  events.foldl tell empty

end GroupMap

namespace Cache

/-- What a cache knows: the first membership that it holds under a key, and all router ports. -/
def groupMap (cache : Cache GroupTable) : GroupMap where
  membership? bridge member :=
    ((cache.objects.filter (·.bridge? = bridge)).flatMap (·.entries)).find? (·.member = member)
  routers := {router | ∃ table ∈ cache.objects, router ∈ table.routers}

/-- The keys of all memberships that a cache holds. -/
def memberships (cache : Cache GroupTable) :
    List (Option UInt32 × UInt32 × UInt16 × GroupAddress) :=
  cache.objects.flatMap fun table => table.entries.map fun entry => (table.bridge?, entry.member)

/-- Some cached table is that of the bridge. -/
def HasTable (cache : Cache GroupTable) (bridge : Option UInt32) : Prop :=
  ∃ table ∈ cache.objects, table.bridge? = bridge

variable {cache : Cache GroupTable} {bridge : Option UInt32}

/-! ## Memberships -/

theorem find?_eq_latest? {entries : List GroupEntry}
    (once : (entries.map GroupEntry.member).Nodup) (member : UInt32 × UInt16 × GroupAddress) :
    entries.find? (·.member = member) = latest? GroupEntry.member member entries := by
  have found : entries.find? (·.member = member) =
      (withKey GroupEntry.member member entries).head? := by
    simp [withKey]
  rw [found, withKey_eq_toList once, Option.head?_toList]

/-- A message leaves in the map what it says about each key. -/
theorem membership?_tell (map : GroupMap) {event : Event GroupTable}
    (once : (event.object.entries.map GroupEntry.member).Nodup) :
    (map.tell event).membership? = TableParts.members.record map.membership? event := by
  funext bridge member
  rcases event with ⟨carried, action⟩
  have carries : carried.entries.find? (·.member = member) =
      latest? TableParts.members.key member (TableParts.members.parts carried) :=
    find?_eq_latest? once member
  have names : member ∈ (TableParts.members.parts carried).map TableParts.members.key ↔
      member ∈ carried.entries.map GroupEntry.member := Iff.rfl
  rw [TableParts.record, TableParts.said?]
  by_cases ofBridge : carried.bridge? = bridge
  · cases action with
    | new | change =>
        simp [GroupMap.tell, GroupMap.overwrite, carries, ofBridge, TableParts.getD_map_some]
    | delete =>
        by_cases bare : carried.Bare
        · simp [GroupMap.tell, GroupMap.removeBridge, bare, ofBridge]
        · by_cases named : member ∈ carried.entries.map GroupEntry.member
          · simp only [GroupMap.tell, GroupMap.remove, bare, names, named, ofBridge, if_true,
              if_false, and_self, or_true, Option.getD_some]
          · simp only [GroupMap.tell, GroupMap.remove, bare, names, named, ofBridge, if_true,
              if_false, and_false, or_self, Option.getD_none]
    | get => simp [GroupMap.tell]
  · cases action with
    | new | change => simp [GroupMap.tell, GroupMap.overwrite, ofBridge]
    | delete =>
        by_cases bare : carried.Bare
        · simp [GroupMap.tell, GroupMap.removeBridge, bare, ofBridge]
        · simp [GroupMap.tell, GroupMap.remove, bare, ofBridge]
    | get => simp [GroupMap.tell]

/-- The memberships after events are those of their store. -/
theorem membership?_after {events : List (Event GroupTable)}
    (once : ∀ event ∈ events, (event.object.entries.map GroupEntry.member).Nodup) :
    (GroupMap.after events).membership? = TableParts.members.after events := by
  induction events using List.reverseRecOn with
  | nil => rfl
  | append_singleton events event ih =>
      rw [List.forall_mem_append, List.forall_mem_singleton] at once
      rw [GroupMap.after, List.foldl_append, TableParts.after, List.foldl_append]
      change ((GroupMap.after events).tell event).membership? = _
      rw [membership?_tell _ once.2, ih once.1]
      rfl

theorem membership?_of_presents {store : Store GroupEntry (UInt32 × UInt16 × GroupAddress)}
    (presents : TableParts.members.Presents cache.objects store) :
    cache.groupMap.membership? = store := by
  funext bridge member
  have held := congrArg List.head? (presents bridge member)
  rw [Option.head?_toList] at held
  rw [← held]
  simp [groupMap, withKey]
  rfl

/-! ## Router ports -/

/-- A merge keeps a router port once, whichever side has it. -/
theorem mem_putAll_id {port : UInt32} {newer ports : List UInt32} :
    port ∈ putAll id newer ports ↔ port ∈ newer ∨ port ∈ ports := by
  rw [mem_putAll_iff, survivors]
  cases latest : latest? id (id port) newer with
  | none =>
      have notNewer : port ∉ newer := by
        intro portMem
        exact latest?_eq_none_iff.mp latest port portMem rfl
      simp [mem_withKey, notNewer]
  | some found =>
      rcases mem_of_latest? latest with ⟨foundMem, same⟩
      have isPort : found = port := same
      subst isPort
      simp [foundMem]

/-- A router port stays if the message names others only. -/
theorem exists_port_subtract_iff {cached gone : GroupTable} {port : UInt32} :
    ((cached.subtract gone).stays = true ∧ port ∈ (cached.subtract gone).object.routerPorts) ↔
      ¬gone.Bare ∧ port ∉ gone.routerPorts ∧ port ∈ cached.routerPorts := by
  constructor
  · rintro ⟨stays, portMem⟩
    rw [(GroupTable.subtract_of_stays stays).2] at portMem
    simp only [List.mem_filter, Bool.not_eq_true', List.contains_eq_mem,
      decide_eq_false_iff_not] at portMem
    exact ⟨GroupTable.not_bare_of_stays stays, portMem.2, portMem.1⟩
  · rintro ⟨named, spared, portMem⟩
    cases stays : (cached.subtract gone).stays with
    | true =>
        rw [(GroupTable.subtract_of_stays stays).2]
        simp [spared, portMem]
    | false => exact absurd ((GroupTable.nothing_left stays named).2 port portMem) spared

/-- A message about the bridge of a table leaves its router ports as the map has them. -/
theorem exists_port_evolve_iff {cached? : Option GroupTable} (map : GroupMap)
    (event : Event GroupTable) {port : UInt32}
    (held : (∃ table ∈ cached?, port ∈ table.routerPorts) ↔
      (event.object.bridge?, port) ∈ map.routers) :
    (∃ table ∈ evolve cached? event, port ∈ table.routerPorts) ↔
      (event.object.bridge?, port) ∈ (map.tell event).routers := by
  rcases event with ⟨carried, action⟩
  cases action with
  | new | change =>
      simp only [GroupMap.tell, GroupMap.overwrite, Set.mem_union, ← held, GroupTable.routers,
        Set.mem_ofPred_eq, true_and]
      cases cached? with
      | none => simp [evolve]
      | some cached =>
          have merged : (CacheObject.updated cached carried).routerPorts =
              putAll id carried.routerPorts cached.routerPorts :=
            GroupTable.routerPorts_merge cached carried
          simp [evolve, succeed, merged, mem_putAll_id, or_comm]
  | delete =>
      have left : (carried.bridge?, port) ∈ (map.tell ⟨carried, .delete⟩).routers ↔
          ¬carried.Bare ∧ port ∉ carried.routerPorts ∧
            (carried.bridge?, port) ∈ map.routers := by
        by_cases bare : carried.Bare
        · simp [GroupMap.tell, GroupMap.removeBridge, bare]
        · simp [GroupMap.tell, GroupMap.remove, bare, GroupTable.routers, and_comm]
      rw [left, ← held]
      cases cached? with
      | none => simp [evolve]
      | some cached =>
          simp only [Option.mem_some_iff, exists_eq_left', ← exists_port_subtract_iff]
          simp only [evolve, succeed]
          split
          · rename_i stays
            have stays' : (cached.subtract carried).stays = true := stays
            simp [stays']
            rfl
          · rename_i removed
            have removed' : ¬(cached.subtract carried).stays = true := removed
            simp [removed']
  | get =>
      rw [evolve_get]
      exact held

theorem exists_table_iff (distinct : cache.Distinct) {holds : GroupTable → Prop} :
    (∃ table ∈ cache.objects, table.bridge? = bridge ∧ holds table) ↔
      ∃ table ∈ cache.at? bridge, holds table := by
  constructor
  · rintro ⟨table, isCached, rfl, holds⟩
    exact ⟨table, (mem_objects_iff distinct).mp isCached, holds⟩
  · rintro ⟨table, isCached, holds⟩
    have found := List.find?_some isCached
    exact ⟨table, mem_of_at? isCached, of_decide_eq_true found, holds⟩

theorem mem_routers_iff (distinct : cache.Distinct) (router : Option UInt32 × UInt32) :
    router ∈ cache.groupMap.routers ↔
      ∃ table ∈ cache.at? router.1, router.2 ∈ table.routerPorts :=
  exists_table_iff distinct

/-- What is told of another bridge does not matter to a router port. -/
theorem mem_routers_tell_of_other {map : GroupMap} {event : Event GroupTable}
    {router : Option UInt32 × UInt32} (other : ¬event.object.bridge? = router.1) :
    router ∈ (map.tell event).routers ↔ router ∈ map.routers := by
  rcases event with ⟨carried, action⟩
  cases action with
  | new | change => simp [GroupMap.tell, GroupMap.overwrite, GroupTable.routers, other]
  | delete =>
      by_cases bare : carried.Bare
      · simp [GroupMap.tell, GroupMap.removeBridge, bare, other]
      · simp [GroupMap.tell, GroupMap.remove, bare, GroupTable.routers, other]
  | get => rfl

/-- The router ports of a replay are those after its events. -/
theorem routers_replay (events : List (Event GroupTable)) :
    (replay events).groupMap.routers = (GroupMap.after events).routers := by
  induction events using List.reverseRecOn with
  | nil => simp [replay, groupMap, GroupMap.after, GroupMap.empty]
  | append_singleton events event ih =>
      have distinct := distinct_replay events
      have told : GroupMap.after (events ++ [event]) = (GroupMap.after events).tell event := by
        simp [GroupMap.after]
      ext ⟨bridge, port⟩
      have before : (∃ table ∈ (replay events).at? bridge, port ∈ table.routerPorts) ↔
          (bridge, port) ∈ (GroupMap.after events).routers := by
        rw [← ih, mem_routers_iff distinct]
      rw [mem_routers_iff (distinct_replay _), replay_append_singleton, told, at?_apply distinct]
      split
      · rename_i sameBridge
        subst sameBridge
        exact exists_port_evolve_iff _ event before
      · rename_i otherIndex
        rw [mem_routers_tell_of_other otherIndex]
        exact before

/-! ## The cache and the map -/

/-- A cache that holds what a store says holds nothing twice. -/
theorem nodup_memberships (distinct : cache.Distinct)
    {store : Store GroupEntry (UInt32 × UInt16 × GroupAddress)}
    (presents : TableParts.members.Presents cache.objects store) : cache.memberships.Nodup := by
  rw [memberships, List.nodup_flatMap]
  refine ⟨?_, ?_⟩
  · intro table tableMem
    have once : (table.entries.map GroupEntry.member).Nodup :=
      TableParts.once_of_presents presents table tableMem
    have keyed : (table.entries.map fun entry => (table.bridge?, entry.member)) =
        (table.entries.map GroupEntry.member).map fun member => (table.bridge?, member) := by
      simp
    rw [keyed]
    apply once.map
    intro first second same
    exact congrArg Prod.snd same
  · apply List.Pairwise.imp _ (List.pairwise_map.mp distinct)
    intro first second otherBridge key ofFirst ofSecond
    simp only [List.mem_map] at ofFirst ofSecond
    rcases ofFirst with ⟨_, _, rfl⟩
    rcases ofSecond with ⟨_, _, same⟩
    exact otherBridge (congrArg Prod.fst same).symm

/-- Nothing of a bridge is left in the map if and only if its table is bare. -/
theorem lacks_groupMap_iff (distinct : cache.Distinct) :
    cache.groupMap.Lacks bridge ↔ ∀ table ∈ cache.at? bridge, table.Bare := by
  have ofBridge : cache.objects.filter (·.bridge? = bridge) = (cache.at? bridge).toList :=
    filter_objects_eq distinct bridge
  simp only [GroupMap.Lacks, mem_routers_iff distinct]
  simp only [groupMap, ofBridge]
  cases cache.at? bridge with
  | none => simp
  | some table =>
      simp only [GroupTable.Bare, List.eq_nil_iff_forall_not_mem]
      simp

theorem not_bare_subtract {cached gone : GroupTable}
    (stays : (cached.subtract gone).stays = true) : ¬(cached.subtract gone).object.Bare := by
  intro bare
  rw [← GroupTable.bare_iff, GroupTable.subtract] at bare
  rw [GroupTable.subtract] at stays
  split at stays
  · cases stays
  · rename_i named
    rw [if_neg named, Bool.and_eq_true] at bare
    simp only [bare.1, bare.2] at stays
    cases stays

/-- A deletion takes a table away if and only if it leaves nothing of it. -/
theorem evolve_delete_eq_none_iff {cached gone : GroupTable} :
    evolve (some cached) ⟨gone, .delete⟩ = none ↔
      ∀ table ∈ evolve (some cached) ⟨gone, .delete⟩, table.Bare := by
  simp only [evolve, succeed]
  split
  · rename_i stays
    have left : ¬(CacheObject.subtract cached gone).object.Bare := not_bare_subtract stays
    simpa using left
  · simp

theorem hasTable_iff (distinct : cache.Distinct) :
    cache.HasTable bridge ↔ ∃ table, cache.at? bridge = some table := by
  have anyTable : (∃ table ∈ cache.objects, table.bridge? = bridge ∧ True) ↔
      ∃ table ∈ cache.at? bridge, True := exists_table_iff distinct
  simpa [HasTable] using anyTable

/-- A deletion takes away the table of a bridge if and only if nothing of the bridge is left. -/
theorem not_hasTable_delete_iff (distinct : cache.Distinct) (held : cache.HasTable bridge)
    (gone : GroupTable) :
    ¬(cache.apply gone .delete).2.HasTable bridge ↔
      gone.bridge? = bridge ∧ (cache.apply gone .delete).2.groupMap.Lacks bridge := by
  rcases (hasTable_iff distinct).mp held with ⟨table, cachedAt⟩
  have next := distinct_apply distinct gone .delete
  rw [hasTable_iff next, lacks_groupMap_iff next, at?_apply distinct, cachedAt]
  change (¬∃ left, (if gone.bridge? = bridge then _ else _) = some left) ↔
    gone.bridge? = bridge ∧ ∀ left ∈ (if gone.bridge? = bridge then _ else _), _
  by_cases sameBridge : gone.bridge? = bridge
  · rw [if_pos sameBridge, ← evolve_delete_eq_none_iff, Option.eq_none_iff_forall_ne_some]
    simp [sameBridge]
  · simp [sameBridge]

/-- Under memberships that no message repeats, a cache is the map that the messages make: it knows
the same after every message and holds nothing twice. A deletion takes a table away exactly if
it leaves nothing of its bridge. -/
theorem groupMap_replay {events : List (Event GroupTable)}
    (once : ∀ event ∈ events, (event.object.entries.map GroupEntry.member).Nodup) :
    (∀ told, told <+: events →
      (replay told).groupMap = GroupMap.after told ∧
        ((replay told).objects.map GroupTable.bridge?).Nodup ∧ (replay told).memberships.Nodup) ∧
      ∀ told gone, told ++ [⟨gone, .delete⟩] <+: events →
        ∀ bridge, (replay told).HasTable bridge →
          (¬(replay (told ++ [⟨gone, .delete⟩])).HasTable bridge ↔
            gone.bridge? = bridge ∧ (GroupMap.after (told ++ [⟨gone, .delete⟩])).Lacks bridge) := by
  have known : ∀ told, told <+: events → (replay told).groupMap = GroupMap.after told ∧
      (replay told).memberships.Nodup := by
    intro told isTold
    have onceTold : ∀ event ∈ told, (event.object.entries.map GroupEntry.member).Nodup := by
      intro event eventMem
      exact once event (isTold.subset eventMem)
    have presents : TableParts.members.Presents (replay told).objects
        (TableParts.members.after told) := TableParts.presents_replay onceTold
    refine ⟨?_, nodup_memberships (distinct_replay told) presents⟩
    apply GroupMap.ext
    · rw [membership?_of_presents presents, membership?_after onceTold]
    · exact routers_replay told
  refine ⟨?_, ?_⟩
  · intro told isTold
    exact ⟨(known told isTold).1, distinct_replay told, (known told isTold).2⟩
  · intro told gone isTold bridge held
    rw [← (known _ isTold).1, replay_append_singleton]
    exact not_hasTable_delete_iff (distinct_replay told) held gone

/-- A membership of port 5 is renewed, bridge 4 goes away as a whole and bridge 3 in two parts. -/
def twoBridges : List (Event GroupTable) :=
  let member (port : UInt32) (state : UInt8) : GroupEntry :=
    { port, state, protocol := 0x0800, address := .ipv4 ⟨239, 1, 1, 1⟩ }
  [⟨{ bridge? := some 3, entries := [member 5 0, member 6 0], routerPorts := [5, 5] }, .new⟩,
    ⟨{ bridge? := some 4, entries := [member 5 0] }, .new⟩,
    ⟨{ bridge? := some 3, entries := [member 5 1] }, .change⟩,
    ⟨{ bridge? := some 4 }, .delete⟩,
    ⟨{ bridge? := some 3, entries := [member 6 0] }, .delete⟩]

/-- A message that names all that is left of bridge 3. -/
def lastOfBridge : GroupTable :=
  { bridge? := some 3, routerPorts := [5]
    entries := [{ port := 5, protocol := 0x0800, address := .ipv4 ⟨239, 1, 1, 1⟩ }] }

/-- Two bridges are replayed, one of which goes with the last of what it has. -/
theorem groupMap_replay_twoBridges :
    (replay twoBridges).groupMap = GroupMap.after twoBridges ∧
      (replay twoBridges).HasTable (some 3) ∧
        ¬(replay (twoBridges ++ [⟨lastOfBridge, .delete⟩])).HasTable (some 3) ∧
          (GroupMap.after (twoBridges ++ [⟨lastOfBridge, .delete⟩])).Lacks (some 3) := by
  have once : ∀ event ∈ twoBridges ++ [⟨lastOfBridge, .delete⟩],
      (event.object.entries.map GroupEntry.member).Nodup := by decide
  have held : (replay twoBridges).HasTable (some 3) := ⟨_, List.mem_singleton_self _, rfl⟩
  have dropped : ¬(replay (twoBridges ++ [⟨lastOfBridge, .delete⟩])).HasTable (some 3) := by
    rintro ⟨table, isCached, _⟩
    cases isCached
  rcases groupMap_replay once with ⟨known, takenAway⟩
  have left := takenAway twoBridges lastOfBridge List.prefix_rfl (some 3) held
  exact ⟨(known twoBridges (List.prefix_append _ _)).1, held, dropped, (left.mp dropped).2⟩

end Cache

end BridgeView
