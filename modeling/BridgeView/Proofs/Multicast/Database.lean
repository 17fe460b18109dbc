import BridgeView.Proofs.UniqueParts
import Mathlib.Data.List.Flatten

/-!
# The multicast database after a history

The kernel tells about the database in messages: a new one carries memberships and router
ports that are there from then on, a deletion carries those that are gone, or nothing if all
of a bridge are. What a history leaves under a key is what its last word about the key says
(`foldl_record`). So it makes no difference if a part of it is told twice in a row
(`record_overlap`).

A cache takes messages in by merging and subtracting lists. As long as no message carries
a key twice, it holds what the messages leave under each key, and nothing twice
(`presents_follow`). A dump therefore may overlap with the messages that are applied after it.
-/

namespace BridgeView

open Cache KeyedList

/-! ## What a history leaves -/

namespace GroupTable

/-- A table says nothing of its bridge but the index. -/
def Bare (table : GroupTable) : Prop :=
  table.entries = [] ∧ table.routerPorts = []

/-- Two empty lists decide whether a table is bare. -/
instance (table : GroupTable) : Decidable table.Bare :=
  inferInstanceAs (Decidable (_ ∧ _))

/-- A table has no membership and no router port twice. -/
def Once (table : GroupTable) : Prop :=
  (table.entries.map GroupEntry.member).Nodup ∧ table.routerPorts.Nodup

/-- Two lists without repetition decide it. -/
instance (table : GroupTable) : Decidable table.Once :=
  inferInstanceAs (Decidable (_ ∧ _))

theorem bare_iff (table : GroupTable) :
    (table.entries.isEmpty && table.routerPorts.isEmpty) = true ↔ table.Bare := by
  simp [Bare]

theorem not_bare_of_stays {cached gone : GroupTable} (stays : (cached.subtract gone).stays = true) :
    ¬gone.Bare := by
  intro bare
  rw [subtract, if_pos ((bare_iff gone).mpr bare)] at stays
  cases stays

/-- A deletion that carries something takes away a table only with all its parts. -/
theorem nothing_left {cached gone : GroupTable} (removed : (cached.subtract gone).stays = false)
    (named : ¬gone.Bare) :
    (∀ entry ∈ cached.entries, entry.member ∈ gone.entries.map GroupEntry.member) ∧
      ∀ port ∈ cached.routerPorts, port ∈ gone.routerPorts := by
  rw [← bare_iff] at named
  rw [subtract, if_neg named] at removed
  simp only [Bool.or_eq_false_iff, Bool.not_eq_false', List.isEmpty_iff, List.filter_eq_nil_iff,
    Bool.not_eq_true', Bool.not_eq_false] at removed
  refine ⟨?_, ?_⟩
  · intro entry entryMem
    exact (any_sameGroup_iff entry gone.entries).mp (removed.1 entry entryMem)
  · intro port portMem
    exact List.contains_iff_mem.mp (removed.2 port portMem)

end GroupTable

/-- Parts by the bridge that they belong to and by their key. -/
abbrev Store (ε κ : Type) := Option UInt32 → κ → Option ε

/-- Parts of which a deletion takes away those that it carries, or all of them if it carries nothing
of any kind. -/
structure TableParts (ε κ : Type) [DecidableEq κ] extends KeyedParts GroupTable ε κ where
  names_iff : ∀ (gone : GroupTable) (wanted : κ), Names gone wanted ↔ wanted ∈ (parts gone).map key
  names_of_removed : ∀ {cached gone : GroupTable}, (cached.subtract gone).stays = false →
    ¬gone.Bare → ∀ part ∈ parts cached, Names gone (key part)

/-- The memberships of a table, under port, VLAN and group. -/
def TableParts.members : TableParts GroupEntry (UInt32 × UInt16 × GroupAddress) where
  toKeyedParts := GroupTable.keyedMembers
  names_iff _ _ := Iff.rfl
  names_of_removed removed named := (GroupTable.nothing_left removed named).1

/-- The router ports of a table, each under itself. -/
def TableParts.routers : TableParts UInt32 UInt32 where
  toKeyedParts := GroupTable.keyedRouterPorts
  names_iff gone port := by
    change port ∈ gone.routerPorts ↔ port ∈ gone.routerPorts.map id
    rw [List.map_id]
  names_of_removed removed named := (GroupTable.nothing_left removed named).2

namespace TableParts

variable {ε κ : Type} [DecidableEq κ] (listed : TableParts ε κ)

/-- What a message says about a key of a bridge: nothing, or the part that is there from then on,
if there is one. -/
def said? (event : Event GroupTable) (bridge : Option UInt32) (wanted : κ) : Option (Option ε) :=
  if event.object.bridge? = bridge then
    match event.action with
    | .new | .change => (latest? listed.key wanted (listed.parts event.object)).map some
    | .delete =>
        if event.object.Bare ∨ wanted ∈ (listed.parts event.object).map listed.key then some none
        else none
    | .get => none
  else none

/-- The store after an event. -/
def record (store : Store ε κ) (event : Event GroupTable) : Store ε κ :=
  fun bridge wanted => (listed.said? event bridge wanted).getD (store bridge wanted)

/-- The store after a history of events, from the empty store on. -/
def after (history : List (Event GroupTable)) : Store ε κ :=
  history.foldl listed.record fun _ _ => none

/-- Tables hold what is in a store: under every key the part that is there, once, and nothing
else. -/
def Presents (tables : List GroupTable) (store : Store ε κ) : Prop :=
  ∀ bridge wanted,
    withKey listed.key wanted ((tables.filter (·.bridge? = bridge)).flatMap listed.parts) =
      (store bridge wanted).toList

variable {listed}

/-- The last word about a key decides. -/
theorem foldl_record (events : List (Event GroupTable)) (store : Store ε κ)
    (bridge : Option UInt32) (wanted : κ) :
    events.foldl listed.record store bridge wanted =
      (events.reverse.findSome? (listed.said? · bridge wanted)).getD (store bridge wanted) := by
  induction events generalizing store with
  | nil => rfl
  | cons event events ih =>
      rw [List.foldl_cons, ih, List.reverse_cons, List.findSome?_append, record]
      cases events.reverse.findSome? (listed.said? · bridge wanted) with
      | none => simp
      | some said => rfl

/-- Events that are recorded again change nothing. -/
theorem foldl_record_twice (events : List (Event GroupTable)) (store : Store ε κ) :
    events.foldl listed.record (events.foldl listed.record store) =
      events.foldl listed.record store := by
  funext bridge wanted
  rw [foldl_record, foldl_record]
  cases events.reverse.findSome? (listed.said? · bridge wanted) <;> rfl

/-- Messages that are told again, on top of what they have left already, leave the same. -/
theorem record_overlap (history : List (Event GroupTable)) {j k : Nat} (within : j ≤ k) :
    (history.drop j).foldl listed.record (listed.after (history.take k)) =
      listed.after history := by
  -- Only the messages between the two positions are told twice.
  let again := (history.drop j).take (k - j)
  let rest := (history.drop j).drop (k - j)
  have behind : history.drop j = again ++ rest := (List.take_append_drop _ _).symm
  have dumped : history.take k = history.take j ++ again := by
    rw [← List.take_add, Nat.add_sub_cancel' within]
  have whole : history = history.take j ++ again ++ rest := by
    rw [List.append_assoc, ← behind, List.take_append_drop]
  calc (history.drop j).foldl listed.record (listed.after (history.take k))
      = rest.foldl listed.record (again.foldl listed.record
          (again.foldl listed.record (listed.after (history.take j)))) := by
        rw [behind, dumped, after, List.foldl_append, List.foldl_append, after]
    _ = rest.foldl listed.record (again.foldl listed.record (listed.after (history.take j))) := by
        rw [foldl_record_twice]
    _ = listed.after history := by
        conv_rhs => rw [whole, after, List.foldl_append, List.foldl_append]
        rfl

/-! ## What a cache holds -/

omit [DecidableEq κ] in
theorem getD_map_some (said? stored? : Option ε) :
    (said?.map some).getD stored? = said?.or stored? := by
  cases said? <;> rfl

variable {cached object : GroupTable} {stored? : Option ε} {wanted : κ}

/-- After an update, a key has the newer part if there is one, and else the one that was there. -/
theorem withKey_updated
    (held : withKey listed.key wanted (listed.parts cached) = stored?.toList) :
    withKey listed.key wanted (listed.parts (CacheObject.updated cached object)) =
      ((latest? listed.key wanted (listed.parts object)).or stored?).toList := by
  rw [listed.parts_updated, withKey_putAll, survivors, held]
  cases latest? listed.key wanted (listed.parts object) with
  | none => rfl
  | some part => cases stored? <;> rfl

/-- After a subtraction, a key that was named has no part, and any other the one that was there. -/
theorem withKey_subtract (stays : (CacheObject.subtract cached object).stays = true)
    (held : withKey listed.key wanted (listed.parts cached) = stored?.toList) :
    withKey listed.key wanted (listed.parts (CacheObject.subtract cached object).object) =
      (if wanted ∈ (listed.parts object).map listed.key then none else stored?).toList := by
  rcases listed.parts_subtract cached object stays with ⟨keeps, subtracted, byKey⟩
  rw [subtracted]
  split
  · rename_i named
    exact withKey_filter_of_removed byKey _ ((listed.names_iff object wanted).mpr named)
  · rename_i spared
    rw [withKey_filter_of_kept byKey _ ((listed.names_iff object wanted).not.mpr spared), held]

/-- A deletion that takes away a table says so of every key under which there was something. -/
theorem removed_of_not_stays (removed : (CacheObject.subtract cached object).stays = false)
    (held : withKey listed.key wanted (listed.parts cached) = stored?.toList) :
    (object.Bare ∨ wanted ∈ (listed.parts object).map listed.key) ∨ stored? = none := by
  by_cases bare : object.Bare
  · exact Or.inl (Or.inl bare)
  · cases stored? with
    | none => exact Or.inr rfl
    | some part =>
        have isHeld : part ∈ withKey listed.key wanted (listed.parts cached) := by
          rw [held]
          exact List.mem_singleton_self part
        rcases mem_withKey.mp isHeld with ⟨partMem, rfl⟩
        have named := listed.names_of_removed removed bare part partMem
        exact Or.inl (Or.inr ((listed.names_iff object _).mp named))

/-- A message leaves under each key what it says, or what was there. -/
theorem withKey_evolve {cached? : Option GroupTable} {event : Event GroupTable}
    (held : withKey listed.key wanted (cached?.toList.flatMap listed.parts) = stored?.toList)
    (once : ((listed.parts event.object).map listed.key).Nodup) :
    withKey listed.key wanted ((evolve cached? event).toList.flatMap listed.parts) =
      ((listed.said? event event.object.bridge? wanted).getD stored?).toList := by
  rcases event with ⟨object, action⟩
  rw [said?, if_pos rfl]
  -- A table that is cached merges or subtracts; without one only a new table can come.
  cases cached? with
  | none =>
      have nothing : stored? = none := by
        cases stored? with
        | none => rfl
        | some part => cases held
      have carried := withKey_eq_toList once wanted
      cases action with
      | new => simpa [evolve, getD_map_some, nothing] using carried
      | change => simpa [evolve, getD_map_some, nothing] using carried
      | delete =>
          simp only [evolve, nothing]
          split <;> rfl
      | get => exact held
  | some cached =>
      have heldHere : withKey listed.key wanted (listed.parts cached) = stored?.toList := by
        simpa using held
      cases action with
      | new => simpa [evolve, succeed, getD_map_some] using withKey_updated heldHere
      | change => simpa [evolve, succeed, getD_map_some] using withKey_updated heldHere
      | delete =>
          simp only [evolve, succeed]
          split
          · rename_i stays
            have left := withKey_subtract stays heldHere
            simp only [GroupTable.not_bare_of_stays stays, false_or]
            by_cases named : wanted ∈ (listed.parts object).map listed.key
            · rw [if_pos named] at left ⊢
              simpa using left
            · rw [if_neg named] at left ⊢
              simpa using left
          · rename_i removed
            rcases removed_of_not_stays (Bool.eq_false_iff.mpr removed) heldHere with said | nothing
            · rw [if_pos said]
              rfl
            · rw [nothing]
              split <;> rfl
      | get => exact held

/-- Tables present a store if under every index and key there is the part of the store. -/
theorem presents_iff {cache : Cache GroupTable} (distinct : cache.Distinct)
    {store : Store ε κ} :
    listed.Presents cache.objects store ↔
      ∀ bridge wanted, withKey listed.key wanted ((cache.at? bridge).toList.flatMap listed.parts) =
        (store bridge wanted).toList := by
  apply forall₂_congr
  intro bridge wanted
  rw [← filter_objects_eq distinct]
  rfl

/-- The replay of events presents the store after them. -/
theorem presents_replay {events : List (Event GroupTable)}
    (once : ∀ event ∈ events, ((listed.parts event.object).map listed.key).Nodup) :
    listed.Presents (replay events).objects (listed.after events) := by
  induction events using List.reverseRecOn with
  | nil =>
      intro bridge wanted
      rfl
  | append_singleton events event ih =>
      rw [List.forall_mem_append, List.forall_mem_singleton] at once
      have distinct := distinct_replay events
      have before := (presents_iff distinct).mp (ih once.1)
      rw [presents_iff (distinct_replay _), replay_append_singleton, after, List.foldl_append]
      intro bridge wanted
      rw [at?_apply distinct]
      change _ =
        ((listed.said? event bridge wanted).getD (listed.after events bridge wanted)).toList
      split
      · rename_i sameBridge
        subst sameBridge
        exact withKey_evolve (before _ wanted) once.2
      · rename_i otherIndex
        have otherBridge : ¬event.object.bridge? = bridge := otherIndex
        rw [said?, if_neg otherBridge]
        exact before bridge wanted

/-- The store after a dump holds the latest part of every key. -/
theorem after_dump (tables : List GroupTable) (bridge : Option UInt32) (wanted : κ) :
    listed.after (tables.map (⟨·, .new⟩)) bridge wanted =
      latest? listed.key wanted ((tables.filter (·.bridge? = bridge)).flatMap listed.parts) := by
  induction tables using List.reverseRecOn with
  | nil => rfl
  | append_singleton tables table ih =>
      rw [List.map_append, List.map_singleton, after, List.foldl_append, List.filter_append,
        List.flatMap_append, latest?_append, ← ih]
      change (listed.said? ⟨table, .new⟩ bridge wanted).getD (listed.after _ bridge wanted) = _
      rw [said?]
      by_cases sameBridge : table.bridge? = bridge
      · simp [sameBridge, getD_map_some]
      · simp [sameBridge, latest?, withKey]

/-- A dump that carries no key twice holds what its messages leave. -/
theorem presents_dump {tables : List GroupTable}
    (once : ((tables.flatMap listed.parts).map listed.key).Nodup) :
    listed.Presents tables (listed.after (tables.map (⟨·, .new⟩))) := by
  intro bridge wanted
  have ofBridge : ((tables.filter (·.bridge? = bridge)).flatMap listed.parts).Sublist
      (tables.flatMap listed.parts) := List.filter_sublist.flatMap listed.parts
  rw [after_dump]
  exact withKey_eq_toList (once.sublist (ofBridge.map listed.key)) wanted

/-- What is presented has every key once. -/
theorem once_of_presents {tables : List GroupTable} {store : Store ε κ}
    (presents : listed.Presents tables store) :
    ∀ table ∈ tables, ((listed.parts table).map listed.key).Nodup := by
  intro table tableMem
  rw [nodup_map_iff]
  intro wanted
  rw [Repeats, Nat.not_lt]
  have ofBridge : table ∈ tables.filter (·.bridge? = table.bridge?) :=
    List.mem_filter.mpr ⟨tableMem, decide_eq_true rfl⟩
  have within : (listed.parts table).Sublist
      ((tables.filter (·.bridge? = table.bridge?)).flatMap listed.parts) :=
    List.sublist_flatten_of_mem (List.mem_map_of_mem ofBridge)
  apply Nat.le_trans (within.filter _).length_le
  apply Nat.le_trans (Nat.le_of_eq (congrArg List.length (presents table.bridge? wanted)))
  exact Option.length_toList_le

/-- A dump may overlap with the messages that are applied after it. -/
theorem presents_overlap {tables : List GroupTable} {history : List (Event GroupTable)} {j k : Nat}
    (within : j ≤ k) (dumped : listed.Presents tables (listed.after (history.take k)))
    (once : ∀ event ∈ history, ((listed.parts event.object).map listed.key).Nodup) :
    listed.Presents (replay (tables.map (⟨·, .new⟩) ++ history.drop j)).objects
      (listed.after history) := by
  -- The dump as new messages leaves what the first part of the history does.
  have isDumped : listed.after (tables.map (⟨·, .new⟩)) = listed.after (history.take k) := by
    funext bridge wanted
    rw [after_dump, latest?, dumped bridge wanted]
    cases listed.after (history.take k) bridge wanted <;> rfl
  have final : listed.after (tables.map (⟨·, .new⟩) ++ history.drop j) = listed.after history := by
    rw [after, List.foldl_append]
    change (history.drop j).foldl listed.record (listed.after _) = _
    rw [isDumped, record_overlap history within]
  rw [← final]
  apply presents_replay
  rw [List.forall_mem_append, List.forall_mem_map]
  refine ⟨once_of_presents dumped, ?_⟩
  intro event eventMem
  exact once event (List.mem_of_mem_drop eventMem)

end TableParts

namespace GroupTable

/-- Tables hold exactly what is there after a history: the membership under every port, VLAN and
group, and the router ports of every bridge. -/
def Reflect (tables : List GroupTable) (history : List (Event GroupTable)) : Prop :=
  TableParts.members.Presents tables (TableParts.members.after history) ∧
    TableParts.routers.Presents tables (TableParts.routers.after history)

theorem nodup_routers {table : GroupTable} (once : table.Once) :
    ((TableParts.routers.parts table).map TableParts.routers.key).Nodup := by
  change (table.routerPorts.map id).Nodup
  rw [List.map_id]
  exact once.2

/-- A dump that overlaps with the events after it reflects their history all the same. -/
theorem reflect_overlap {tables : List GroupTable} {history : List (Event GroupTable)} {j k : Nat}
    (within : j ≤ k) (dumped : Reflect tables (history.take k))
    (once : ∀ event ∈ history, event.object.Once) :
    Reflect (replay (tables.map (⟨·, .new⟩) ++ history.drop j)).objects history := by
  refine ⟨?_, ?_⟩
  · apply TableParts.presents_overlap within dumped.1
    intro event eventMem
    exact (once event eventMem).1
  · apply TableParts.presents_overlap within dumped.2
    intro event eventMem
    exact nodup_routers (once event eventMem)

end GroupTable

end BridgeView
