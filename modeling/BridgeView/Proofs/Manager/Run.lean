import BridgeView.BridgeObjects
import BridgeView.Proofs.Cache.Run
import BridgeView.Proofs.Manager.Turn

/-!
# Runs of a manager

A manager is created without caches. Afterwards caches are added, datagrams are processed
one at a time or as they wait, and the transports go on in their own way between the calls;
any call may fail. Whatever happens, a step only takes turns or appends a new
cache (`perform_cases`), and this is what later proofs use: the types of the managed caches
stay distinct, and so do the indexes within each of them (`wellKept_run`).
-/

namespace BridgeView

open IndexedObject

/-- Bridge objects of both types are told apart by an index. -/
instance (key : bridgeObjects.Key) : IndexedObject (bridgeObjects.Object key) :=
  match key with
  | .vlans => inferInstanceAs (IndexedObject PortVlans)
  | .groups => inferInstanceAs (IndexedObject GroupTable)

namespace Notice

variable {F : CacheFamily} {key : F.Key}

/-- The cache and the report of a notice, if it is about the type of a key. -/
def about? (key : F.Key) (notice : Notice F) :
    Option (Cache (F.Object key) × Report (F.Object key)) :=
  if same : notice.key = key then some (same ▸ (notice.cache, notice.report)) else none

/-- What the owner of the cache of a type hears. -/
def heard (key : F.Key) (notices : List (Notice F)) :
    List (Cache (F.Object key) × Report (F.Object key)) :=
  notices.filterMap (about? key)

theorem heard_append (key : F.Key) (earlier later : List (Notice F)) :
    heard key (earlier ++ later) = heard key earlier ++ heard key later :=
  List.filterMap_append

theorem heard_singleton (cache : Cache (F.Object key)) (report : Report (F.Object key)) :
    heard key [⟨key, cache, report⟩] = [(cache, report)] :=
  List.filterMap_cons_some (dif_pos rfl)

theorem heard_other {notice : Notice F} (otherKey : notice.key ≠ key) : heard key [notice] = [] :=
  List.filterMap_cons_none (dif_neg otherKey)

end Notice

theorem Cache.distinct_fill {α σ : Type} [CacheObject α] [IndexedObject α] [Transport σ]
    (cache : Cache α) (state : σ) : (cache.fill state).2.1.Distinct := by
  rw [(staged_fill cache state).1]
  exact distinct_replay _

namespace Manager

variable {F : CacheFamily} {σ : Type}

/-- What can happen to a manager. -/
inductive Step (F : CacheFamily) (σ : Type) where
  /-- Something happens to the transports. -/
  | transports (events dumps : σ)
  /-- A cache of a type is added. -/
  | add (key : F.Key)
  /-- A cache of the type registered under a name is added. -/
  | addNamed (registry : Registry F) (name : String)
  /-- One datagram is processed. -/
  | datagram (octets : Octets)
  /-- What waits is processed. -/
  | waiting

variable [Transport σ]

/-- The manager after a step, and what the owners of caches are told. -/
def perform (manager : Manager F σ) : Step F σ → Manager F σ × List (Notice F)
  | .transports events dumps => ({ manager with events, dumps }, [])
  | .add key => ((manager.add key).2, [])
  | .addNamed registry name => ((manager.addNamed registry name).2, [])
  | .datagram octets =>
      ((manager.applyDatagram octets).manager, (manager.applyDatagram octets).notices)
  | .waiting => (manager.applyWaiting.manager, manager.applyWaiting.notices)

/-- The manager after a sequence of steps, and what the owners of caches are told. -/
def run (manager : Manager F σ) : List (Step F σ) → Manager F σ × List (Notice F)
  | [] => (manager, [])
  | step :: steps =>
      let later := (manager.perform step).1.run steps
      (later.1, (manager.perform step).2 ++ later.2)

/-! ## What a step can do -/

/-- What is applied takes turns of the caches. -/
theorem exists_takes_applyWaiting (manager : Manager F σ) :
    ∃ turns, Takes manager.caches turns manager.applyWaiting.notices
      manager.applyWaiting.manager.caches := by
  induction manager using Manager.applyWaiting.induct with
  | case1 manager error events received =>
      rw [applyWaiting_of_error received]
      exact ⟨[], .nil _⟩
  | case2 manager events received =>
      rw [applyWaiting_of_none received]
      exact ⟨[], .nil _⟩
  | case3 manager datagram events received first error failed =>
      rw [applyWaiting_of_failed received failed]
      exact (follows_applyDatagram { manager with events } datagram).exists_takes
  | case4 manager datagram events received first count succeeded ih =>
      rw [applyWaiting_of_applied received succeeded]
      rcases (follows_applyDatagram { manager with events } datagram).exists_takes with
        ⟨earlier, taken⟩
      rcases ih with ⟨later, rest⟩
      exact ⟨earlier ++ later, taken.append rest⟩

theorem takes_of_eq {caches next : List (ManagedCache F)} (same : next = caches) :
    ∃ turns, Takes caches turns [] next :=
  ⟨[], same ▸ .nil caches⟩

/-- A cache that is to be managed is new, or what a dump makes of a new one. -/
theorem fillNew_eq_ok {manager : Manager F σ} {key : F.Key} {filled : ManagedCache F} {dumps : σ}
    (isFilled : manager.fillNew { key } = (.ok filled, dumps)) :
    ∃ cache : Cache (F.Object key), filled = { key, cache } ∧
      (cache = {} ∨ cache = (({} : Cache (F.Object key)).fill manager.dumps).2.1) := by
  unfold fillNew at isFilled
  split at isFilled
  · split at isFilled
    · rename_i filled' next isDumped
      simp only [Prod.mk.injEq, Except.ok.injEq] at isFilled
      rcases isFilled with ⟨rfl, rfl⟩
      exact ⟨_, (Prod.mk.inj (Prod.mk.inj isDumped).2).1.symm, .inr rfl⟩
    · simp at isFilled
  · simp only [Prod.mk.injEq, Except.ok.injEq] at isFilled
    exact ⟨{}, isFilled.1.symm, .inl rfl⟩

variable [∀ key : F.Key, IndexedObject (F.Object key)]

/-- A cache of a new type comes last, and nothing else changes. -/
def Appends (caches next : List (ManagedCache F)) : Prop :=
  ∃ (key : F.Key) (cache : Cache (F.Object key)), cache.Distinct ∧
    CacheFamily.name key ∉ caches.map (·.name) ∧ next = caches ++ [⟨key, .live, cache⟩]

/-- Adding a type leaves the caches or appends one. -/
theorem caches_add_cases (manager : Manager F σ) (key : F.Key) :
    (manager.add key).2.caches = manager.caches ∨
      Appends manager.caches (manager.add key).2.caches := by
  unfold add
  dsimp only
  split
  · exact Or.inl rfl
  · rename_i fresh
    split
    · exact Or.inl rfl
    · split
      · exact Or.inl rfl
      · rename_i isFilled
        rcases fillNew_eq_ok isFilled with ⟨cache, rfl, isNew⟩
        have distinct : cache.Distinct := by
          rcases isNew with rfl | rfl
          · exact List.nodup_nil
          · exact Cache.distinct_fill _ _
        refine Or.inr ⟨key, cache, distinct, ?_, rfl⟩
        simpa using fresh

/-- What a step can do to the caches. -/
theorem perform_cases (manager : Manager F σ) (step : Step F σ) :
    (∃ turns, Takes manager.caches turns (manager.perform step).2
      (manager.perform step).1.caches) ∨
      (manager.perform step).2 = [] ∧
        Appends manager.caches (manager.perform step).1.caches := by
  cases step with
  | transports events dumps => exact Or.inl ⟨[], .nil _⟩
  | add key => exact (manager.caches_add_cases key).imp takes_of_eq fun appends => ⟨rfl, appends⟩
  | addNamed registry name =>
      rw [perform, addNamed]
      split
      · exact Or.inl ⟨[], .nil _⟩
      · exact (manager.caches_add_cases _).imp takes_of_eq fun appends => ⟨rfl, appends⟩
  | datagram octets => exact Or.inl (manager.follows_applyDatagram octets).exists_takes
  | waiting => exact Or.inl manager.exists_takes_applyWaiting

end Manager

/-! ## What always holds of managed caches -/

variable {F : CacheFamily}

/-- The names of managed caches are distinct, and the caches are live. -/
structure Orderly (caches : List (ManagedCache F)) : Prop where
  names_nodup : (caches.map (·.name)).Nodup
  live : ∀ managed ∈ caches, managed.phase = .live

namespace Orderly

variable {caches next : List (ManagedCache F)}

theorem nil : Orderly ([] : List (ManagedCache F)) :=
  ⟨List.nodup_nil, by simp⟩

/-- Turns keep caches orderly. -/
theorem takes {turns : List Turn} {notices : List (Notice F)} (orderly : Orderly caches)
    (taken : Takes caches turns notices next) : Orderly next := by
  have sameNames := taken.map_eq (·.name) fun _ _ => rfl
  have samePhases := taken.map_eq (·.phase) fun _ _ => rfl
  refine ⟨sameNames ▸ orderly.names_nodup, ?_⟩
  intro managed managedMem
  have phaseMem : managed.phase ∈ next.map (·.phase) := List.mem_map_of_mem managedMem
  rw [samePhases, List.mem_map] at phaseMem
  rcases phaseMem with ⟨before, beforeMem, samePhase⟩
  rw [← samePhase]
  exact orderly.live before beforeMem

/-- A type with a fresh name keeps caches orderly. -/
theorem append (orderly : Orderly caches) {key : F.Key}
    (fresh : CacheFamily.name key ∉ caches.map (·.name)) (cache : Cache (F.Object key)) :
    Orderly (caches ++ [⟨key, .live, cache⟩]) := by
  refine ⟨?_, ?_⟩
  · rw [List.map_append, List.map_singleton]
    exact List.concat_eq_append ▸ orderly.names_nodup.concat fresh
  · rw [List.forall_mem_append, List.forall_mem_singleton]
    exact ⟨orderly.live, rfl⟩

end Orderly

variable [∀ key : F.Key, IndexedObject (F.Object key)]

/-- The types of managed caches are distinct, the caches are live, and the indexes within each of
them are distinct. -/
structure WellKept (caches : List (ManagedCache F)) : Prop extends Orderly caches where
  distinct : ∀ managed ∈ caches, managed.cache.Distinct

namespace WellKept

variable {caches next : List (ManagedCache F)}

/-- A turn keeps caches well kept. -/
theorem take {turn : Turn} {notice? : Option (Notice F)} (wellKept : WellKept caches)
    (taken : turn.take caches = .ok (next, notice?)) : WellKept next := by
  rcases Turn.take_cases taken with
    ⟨rfl, _⟩ | ⟨position, before, report, event, atPosition, _, _, rfl, _⟩
  · exact wellKept
  · have beforeMem := List.mem_of_getElem? atPosition
    refine ⟨wellKept.toOrderly.takes (.cons taken (.nil _)), ?_⟩
    intro managed managedMem
    rcases List.mem_or_eq_of_mem_set managedMem with old | rfl
    · exact wellKept.distinct managed old
    · exact Cache.distinct_apply (wellKept.distinct before beforeMem) event.object event.action

/-- Turns keep caches well kept. -/
theorem takes {turns : List Turn} {notices : List (Notice F)} (wellKept : WellKept caches)
    (taken : Takes caches turns notices next) : WellKept next := by
  induction taken with
  | nil => exact wellKept
  | cons taken _ ih => exact ih (wellKept.take taken)

/-- A cache that is appended keeps caches well kept. -/
theorem appends (wellKept : WellKept caches) (appended : Manager.Appends caches next) :
    WellKept next := by
  rcases appended with ⟨key, cache, distinct, fresh, rfl⟩
  refine ⟨wellKept.toOrderly.append fresh cache, ?_⟩
  rw [List.forall_mem_append, List.forall_mem_singleton]
  exact ⟨wellKept.distinct, distinct⟩

theorem name_ne {before after : List (ManagedCache F)} {managed : ManagedCache F}
    (wellKept : WellKept (before ++ managed :: after)) :
    ∀ other ∈ before ++ after, other.name ≠ managed.name := by
  have apart := wellKept.names_nodup
  rw [List.map_append, List.map_cons, List.nodup_middle, List.nodup_cons,
    ← List.map_append] at apart
  intro other otherMem sameName
  exact apart.1 (sameName ▸ List.mem_map_of_mem otherMem)

/-- There is one cache of each type. -/
theorem eq_of_key_eq (wellKept : WellKept caches) {managed other : ManagedCache F}
    (managedMem : managed ∈ caches) (otherMem : other ∈ caches)
    (sameKey : managed.key = other.key) : managed = other :=
  List.inj_on_of_nodup_map wellKept.names_nodup managedMem otherMem
    (congrArg CacheFamily.name sameKey)

end WellKept

namespace Manager

variable {σ : Type}

omit [∀ key, IndexedObject (F.Object key)] in
/-- A cache is found under its type if none before it has the name. -/
theorem cacheOf_eq_of_split {manager : Manager F σ} {key : F.Key} {cache : Cache (F.Object key)}
    {before after : List (ManagedCache F)}
    (split : manager.caches = before ++ ⟨key, .live, cache⟩ :: after)
    (others : ∀ other ∈ before, other.name ≠ CacheFamily.name key) :
    manager.cacheOf key = .ok cache := by
  have notBefore : ∀ other ∈ before, ¬(other.name == CacheFamily.name key) = true := by
    intro other otherMem sameName
    exact others other otherMem (beq_iff_eq.mp sameName)
  have found : manager.caches.find? (·.name == CacheFamily.name key) =
      some ⟨key, .live, cache⟩ := by
    rw [split, List.find?_append, List.find?_eq_none.mpr notBefore, Option.none_or]
    exact List.find?_cons_of_pos (beq_iff_eq.mpr rfl)
  unfold cacheOf managed?
  dsimp only
  rw [found]
  exact dif_pos rfl

/-- The cache of a type is the one managed under its key. -/
theorem cacheOf_eq_ok_iff {manager : Manager F σ} (wellKept : WellKept manager.caches)
    {key : F.Key} {cache : Cache (F.Object key)} :
    manager.cacheOf key = .ok cache ↔ ⟨key, .live, cache⟩ ∈ manager.caches := by
  constructor
  · intro isCache
    unfold cacheOf managed? at isCache
    dsimp only at isCache
    split at isCache
    · cases isCache
    · rename_i managed found
      split at isCache
      · rename_i same
        rcases managed with ⟨key', phase, cache'⟩
        subst same
        rw [Except.ok.injEq] at isCache
        subst isCache
        have managedMem := List.mem_of_find?_eq_some found
        cases wellKept.live _ managedMem
        exact managedMem
      · cases isCache
  · intro managedMem
    rcases List.append_of_mem managedMem with ⟨before, after, split⟩
    apply cacheOf_eq_of_split split
    intro other otherMem
    exact (split ▸ wellKept).name_ne other (List.mem_append_left _ otherMem)

variable [Transport σ]

theorem wellKept_perform {manager : Manager F σ} (wellKept : WellKept manager.caches)
    (step : Step F σ) : WellKept (manager.perform step).1.caches := by
  rcases manager.perform_cases step with ⟨turns, taken⟩ | ⟨_, appended⟩
  · exact wellKept.takes taken
  · exact wellKept.appends appended

theorem wellKept_run {manager : Manager F σ} (wellKept : WellKept manager.caches)
    (steps : List (Step F σ)) : WellKept (manager.run steps).1.caches := by
  induction steps generalizing manager with
  | nil => exact wellKept
  | cons step steps ih => exact ih (wellKept_perform wellKept step)

/-- The manager was created without caches, and everything else happened since. -/
def Reachable (manager : Manager F σ) : Prop :=
  ∃ (start : Manager F σ) (steps : List (Step F σ)),
    start.caches = [] ∧ (start.run steps).1 = manager

/-- Whatever was done with a manager, its caches are well kept. -/
theorem Reachable.wellKept {manager : Manager F σ} (reachable : manager.Reachable) :
    WellKept manager.caches := by
  rcases reachable with ⟨start, steps, noCaches, rfl⟩
  apply wellKept_run
  rw [noCaches]
  exact ⟨Orderly.nil, by simp⟩

end Manager

end BridgeView
