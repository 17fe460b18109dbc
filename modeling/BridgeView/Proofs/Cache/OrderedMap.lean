import BridgeView.Cache.Index
import BridgeView.Proofs.Cache.Run
import Mathlib.Data.List.Nodup
import Mathlib.Logic.Function.Basic

/-!
# A cache is an ordered map

An `OrderedMap` has its keys in the order of their insertion and gives the value of each
key. Whatever is done to a cache, it holds what an ordered map holds to which the same
was done, with the indexes of its objects as keys, and it answers as the map does.

Every operation on a single object comes down to `settle`, which puts what is left of
the object with an index in its place. The cache and the map are
compared there, once for all of them.
-/

namespace BridgeView

/-- A map whose keys are in the order of their insertion. -/
structure OrderedMap (κ α : Type) where
  /-- The keys, the oldest first. -/
  keys : List κ
  value? : κ → Option α
  nodup_keys : keys.Nodup
  mem_keys_iff : ∀ key, key ∈ keys ↔ (value? key).isSome = true

namespace OrderedMap

variable {κ α : Type} [DecidableEq κ]

/-- The map without keys. -/
def empty : OrderedMap κ α where
  keys := []
  value? _ := none
  nodup_keys := List.nodup_nil
  mem_keys_iff := by simp

/-- Gives a key a value; a new key comes last, and a key that is there stays where it is. -/
def insert (map : OrderedMap κ α) (key : κ) (value : α) : OrderedMap κ α where
  keys := if (map.value? key).isSome then map.keys else map.keys ++ [key]
  value? := Function.update map.value? key (some value)
  nodup_keys := by
    split
    · exact map.nodup_keys
    · rename_i fresh
      rw [← map.mem_keys_iff] at fresh
      exact List.concat_eq_append ▸ map.nodup_keys.concat fresh
  mem_keys_iff other := by
    by_cases same : other = key
    · subst same
      split <;> simp_all [map.mem_keys_iff]
    · rw [Function.update_of_ne same]
      split <;> simp [same, map.mem_keys_iff]

/-- The map without a key. -/
def erase (map : OrderedMap κ α) (key : κ) : OrderedMap κ α where
  keys := map.keys.filter (· ≠ key)
  value? := Function.update map.value? key none
  nodup_keys := map.nodup_keys.filter _
  mem_keys_iff other := by
    by_cases same : other = key
    · simp [same]
    · rw [Function.update_of_ne same, ← map.mem_keys_iff]
      simp [same]

/-- Gives a key a value, or takes it out. -/
def settle (map : OrderedMap κ α) (key : κ) : Option α → OrderedMap κ α
  | some value => map.insert key value
  | none => map.erase key

/-- Those keys that are still there are in their old order, before any new one. -/
def KeepsOrder (before after : List κ) : Prop :=
  ∃ fresh, after = before.filter (· ∈ after) ++ fresh

/-- Settling a key does not change the order of the other ones. -/
theorem keepsOrder_settle (map : OrderedMap κ α) (key : κ) (left? : Option α) :
    KeepsOrder map.keys (map.settle key left?).keys := by
  cases left? with
  | some value =>
      have allStay : map.keys.filter (· ∈ (map.insert key value).keys) = map.keys := by
        rw [List.filter_eq_self]
        intro other otherMem
        rw [insert, decide_eq_true_eq]
        split <;> simp [otherMem]
      rw [KeepsOrder, settle, allStay, insert]
      split
      · exact ⟨[], (List.append_nil _).symm⟩
      · exact ⟨[key], rfl⟩
  | none =>
      refine ⟨[], ?_⟩
      rw [settle, erase, List.append_nil]
      apply List.filter_congr
      intro other otherMem
      simp [otherMem]

theorem value?_settle (map : OrderedMap κ α) (key other : κ) (left? : Option α) :
    (map.settle key left?).value? other = if other = key then left? else map.value? other := by
  cases left? <;> simp [settle, insert, erase, Function.update_apply]

omit [DecidableEq κ] in
theorem eq_of_value? {before after : OrderedMap κ α} (sameKeys : before.keys = after.keys)
    (sameValues : ∀ key, before.value? key = after.value? key) : before = after := by
  cases before
  cases after
  cases sameKeys
  cases funext sameValues
  rfl

end OrderedMap

namespace Cache

open CacheObject IndexedObject

/-- What is done to a cache. -/
inductive Operation (α : Type) : Type 1 where
  | add (object : α)
  | remove (needle : α)
  | message (event : Event α)
  | clear
  | fill {σ : Type} [Transport σ] (state : σ)

/-- What an operation answers. -/
inductive Answer (α : Type) where
  | object (found? : Option α)
  | report (report? : Option (Report α))
  | nothing

/-- The operation is about a single object and not about all of them. -/
def Operation.IsSingle {α : Type} : Operation α → Prop
  | .add _ | .remove _ | .message _ => True
  | _ => False

variable {α : Type} [CacheObject α]

/-- What a call on the cache answers, and the cache after it. -/
def operate (cache : Cache α) : Operation α → Answer α × Cache α
  | .add object => (.object (cache.add object).1, (cache.add object).2)
  | .remove needle => (.object (cache.remove needle).1, (cache.remove needle).2)
  | .message event =>
      (.report (cache.apply event.object event.action).1,
        (cache.apply event.object event.action).2)
  | .clear => (.nothing, cache.clear)
  | @Operation.fill _ _ _ state => (.nothing, (cache.fill state).2.1)

/-- The cache after a list of calls, from the empty cache on. -/
def after (operations : List (Operation α)) : Cache α :=
  operations.foldl (fun cache operation => (cache.operate operation).2) {}

variable [IndexedObject α]

/-- The indexes of the cached objects, in order. -/
def indexes (cache : Cache α) : List (Option UInt32) :=
  cache.objects.map index?

end Cache

namespace OrderedMap

open CacheObject IndexedObject

variable {α : Type} [CacheObject α] [IndexedObject α]

/-- Takes a message into the map: its index gets what the message leaves there. -/
def take (map : OrderedMap (Option UInt32) α) (event : Event α) :
    OrderedMap (Option UInt32) α :=
  map.settle (index? event.object) (Cache.evolve (map.value? (index? event.object)) event)

/-- Carries out an operation on a map from indexes to objects. -/
def operate (map : OrderedMap (Option UInt32) α) :
    Cache.Operation α → Cache.Answer α × OrderedMap (Option UInt32) α
  | .add object =>
      (.object (map.value? (index? object)), map.insert (index? object) object)
  | .remove needle => (.object (map.value? (index? needle)), map.erase (index? needle))
  | .message event =>
      (.report (Cache.reported (map.value? (index? event.object)) event), map.take event)
  | .clear => (.nothing, empty)
  | @Cache.Operation.fill _ _ _ state =>
      (.nothing, ((Cache.dumped α state).map (⟨·, .new⟩)).foldl take empty)

/-- The map after a list of calls, from the empty map on. -/
def after (operations : List (Cache.Operation α)) : OrderedMap (Option UInt32) α :=
  operations.foldl (fun map operation => (map.operate operation).2) empty

end OrderedMap

namespace Cache

open CacheObject IndexedObject

variable {α : Type} [CacheObject α] [IndexedObject α]

/-- The objects with what is left of the object with an index in its place, or at the end if
there is none. -/
def settle (index : Option UInt32) (left? : Option α) : List α → List α
  | [] => left?.toList
  | cached :: rest =>
      if index? cached = index then left?.toList ++ rest else cached :: settle index left? rest

/-! ## Every operation on one object settles its index -/

/-- To settle a fresh index is to add at the end what is left, if anything. -/
theorem settle_of_absent {index : Option UInt32} {objects : List α} (left? : Option α)
    (absent : ∀ cached ∈ objects, index? cached ≠ index) :
    settle index left? objects = objects ++ left?.toList := by
  induction objects with
  | nil => rfl
  | cons cached rest ih =>
      rw [List.forall_mem_cons] at absent
      rw [settle, if_neg absent.1, ih absent.2, List.cons_append]

/-- To settle a known index is to put what is left, if anything, in the place of its object. -/
theorem settle_of_present {index : Option UInt32} {before : List α} {cached : α}
    (after : List α) (left? : Option α) (absent : ∀ other ∈ before, index? other ≠ index)
    (present : index? cached = index) :
    settle index left? (before ++ cached :: after) = before ++ (left?.toList ++ after) := by
  induction before with
  | nil => rw [List.nil_append, settle, if_pos present, List.nil_append]
  | cons other rest ih =>
      rw [List.forall_mem_cons] at absent
      rw [List.cons_append, settle, if_neg absent.1, ih absent.2, List.cons_append]

/-- Adding an object settles its index. -/
theorem add_eq_settle (cache : Cache α) (object : α) :
    cache.add object =
      (cache.at? (index? object), ⟨settle (index? object) (some object) cache.objects⟩) := by
  rcases cache with ⟨objects⟩
  suffices placed : place object objects =
      (objects.find? (index? · = index? object), settle (index? object) (some object) objects) by
    simp only [add, placed]
    rfl
  induction objects with
  | nil => rfl
  | cons cached rest ih =>
      rw [place, settle, List.find?_cons]
      by_cases sameIndex : index? cached = index? object
      · rw [if_pos ((identical_iff cached object).mpr sameIndex), if_pos sameIndex,
          decide_eq_true sameIndex]
        rfl
      · rw [identical_eq_false sameIndex, if_neg Bool.false_ne_true, if_neg sameIndex,
          decide_eq_false sameIndex, ih]

/-- Removing an object settles its index. -/
theorem remove_eq_settle (cache : Cache α) (needle : α) :
    cache.remove needle =
      (cache.at? (index? needle), ⟨settle (index? needle) none cache.objects⟩) := by
  rcases cache with ⟨objects⟩
  suffices taken : takeOut needle objects =
      (objects.find? (index? · = index? needle), settle (index? needle) none objects) by
    simp only [remove, taken]
    rfl
  induction objects with
  | nil => rfl
  | cons cached rest ih =>
      rw [takeOut, settle, List.find?_cons]
      by_cases sameIndex : index? cached = index? needle
      · rw [if_pos ((identical_iff cached needle).mpr sameIndex), if_pos sameIndex,
          decide_eq_true sameIndex]
        rfl
      · rw [identical_eq_false sameIndex, if_neg Bool.false_ne_true, if_neg sameIndex,
          decide_eq_false sameIndex, ih]

/-- Applying an event settles the index of its object. -/
theorem apply_eq_settle (cache : Cache α) (event : Event α) :
    cache.apply event.object event.action =
      (reported (cache.at? (index? event.object)) event,
        ⟨settle (index? event.object) (evolve (cache.at? (index? event.object)) event)
          cache.objects⟩) := by
  rcases cache with ⟨objects⟩
  rcases absent_or_present (index? event.object) objects with
    absent | ⟨before, cached, after, rfl, absent, present⟩
  · rw [apply_of_absent event.action absent, settle_of_absent _ absent, at?, find?,
      find?_of_absent absent]
  · have isCached : at? ⟨before ++ cached :: after⟩ (index? event.object) = some cached :=
      present ▸ at?_of_split cached after (present ▸ absent)
    rw [apply_of_present after event.action absent present,
      settle_of_present after _ absent present, isCached]
    rfl

/-! ## The cache and the map settle alike -/

theorem filter_indexes_of_absent {index : Option UInt32} {objects : List α}
    (absent : ∀ cached ∈ objects, index? cached ≠ index) :
    (objects.map index?).filter (· ≠ index) = objects.map index? := by
  rw [List.filter_eq_self]
  intro other otherMem
  rcases List.mem_map.mp otherMem with ⟨cached, cachedMem, rfl⟩
  simpa using absent cached cachedMem

/-- Settling an index removes it, adds it at the end, or leaves the indexes as they are. -/
theorem indexes_settle {objects : List α} {index : Option UInt32} {left? : Option α}
    (distinct : Distinct ⟨objects⟩) (sameIndex : ∀ left, left? = some left → index? left = index) :
    (settle index left? objects).map index? =
      left?.elim ((objects.map index?).filter (· ≠ index)) fun _ =>
        if (at? ⟨objects⟩ index).isSome then objects.map index?
        else objects.map index? ++ [index] := by
  rcases absent_or_present index objects with
    absent | ⟨before, cached, after, rfl, absent, present⟩
  · rw [settle_of_absent left? absent, at?, find?, find?_of_absent absent]
    cases left? with
    | none =>
        -- There is nothing with the index to leave out.
        rw [Option.toList_none, List.append_nil]
        exact (filter_indexes_of_absent absent).symm
    | some left => simp [sameIndex left rfl]
  · have isCached : at? ⟨before ++ cached :: after⟩ index = some cached :=
      present ▸ at?_of_split cached after (present ▸ absent)
    rw [settle_of_present after left? absent present, isCached]
    cases left? with
    | none =>
        have notAfter : ∀ other ∈ after, index? other ≠ index :=
          present ▸ (absent_of_distinct distinct).2
        rw [Option.toList_none, List.nil_append, Option.elim_none, List.map_append,
          List.map_append, List.map_cons, List.filter_append,
          List.filter_cons_of_neg (by simp [present]), filter_indexes_of_absent absent,
          filter_indexes_of_absent notAfter]
    | some left => simp [sameIndex left rfl, present]

/-- Settling an index decides what is found there and nothing else. -/
theorem at?_settle {objects : List α} {index : Option UInt32} {left? : Option α}
    (distinct : Distinct ⟨objects⟩) (sameIndex : ∀ left, left? = some left → index? left = index)
    (other : Option UInt32) :
    at? ⟨settle index left? objects⟩ other =
      if other = index then left? else at? ⟨objects⟩ other := by
  simp only [at?, find?]
  rcases absent_or_present index objects with
    absent | ⟨before, cached, after, rfl, absent, present⟩
  · rw [settle_of_absent left? absent, List.find?_append]
    by_cases same : other = index
    · rw [if_pos same, same, find?_of_absent absent, Option.none_or]
      cases left? with
      | none => rfl
      | some left => simp [sameIndex left rfl]
    · rw [if_neg same]
      cases left? with
      | none => simp
      | some left => simp [sameIndex left rfl, Ne.symm same]
  · have notAfter := (absent_of_distinct distinct).2
    rw [settle_of_present after left? absent present, List.find?_append, List.find?_append]
    by_cases same : other = index
    · rw [if_pos same, same, find?_of_absent absent, Option.none_or]
      cases left? with
      | none => simpa [present] using notAfter
      | some left => simp [sameIndex left rfl]
    · rw [if_neg same, List.find?_append, List.find?_cons]
      cases left? with
      | none => simp [present, Ne.symm same]
      | some left => simp [sameIndex left rfl, present, Ne.symm same]

/-- The cache holds what the map holds, in the same order. -/
structure Represents (cache : Cache α) (map : OrderedMap (Option UInt32) α) : Prop where
  indexes_eq : cache.indexes = map.keys
  at?_eq : ∀ index, cache.at? index = map.value? index

theorem Represents.distinct {cache : Cache α} {map : OrderedMap (Option UInt32) α}
    (represents : cache.Represents map) : cache.Distinct := by
  have keys := represents.indexes_eq
  rw [indexes] at keys
  rw [Distinct, keys]
  exact map.nodup_keys

theorem represents_empty : Represents ({} : Cache α) OrderedMap.empty :=
  ⟨rfl, fun _ => rfl⟩

/-- A cache and a map that settle the same go on representing each other. -/
theorem Represents.settle {cache : Cache α} {map : OrderedMap (Option UInt32) α}
    (represents : cache.Represents map) {index : Option UInt32} {left? : Option α}
    (sameIndex : ∀ left, left? = some left → index? left = index) :
    Represents ⟨Cache.settle index left? cache.objects⟩ (map.settle index left?) where
  indexes_eq := by
    have keys := represents.indexes_eq
    rw [indexes] at keys
    rw [indexes, indexes_settle represents.distinct sameIndex, keys, represents.at?_eq]
    cases left? <;> rfl
  at?_eq other := by
    rw [at?_settle represents.distinct sameIndex, OrderedMap.value?_settle,
      ← represents.at?_eq other]

/-- What a message leaves at its index has that index. -/
theorem index?_evolve {cached? : Option α} {event : Event α}
    (isThere : ∀ cached, cached? = some cached → index? cached = index? event.object) :
    ∀ left, evolve cached? event = some left → index? left = index? event.object := by
  intro left evolved
  cases cached? with
  | none => rw [eq_of_evolve_none evolved]
  | some cached => rw [index?_succeed evolved, isThere cached rfl]

theorem index?_of_at? {cache : Cache α} {index : Option UInt32} {object : α}
    (isCached : cache.at? index = some object) : index? object = index := by
  simpa using List.find?_some isCached

/-- Event by event, a cache and its map stay together. -/
theorem Represents.take {cache : Cache α} {map : OrderedMap (Option UInt32) α}
    (represents : cache.Represents map) (event : Event α) :
    Represents (cache.apply event.object event.action).2 (map.take event) := by
  rw [apply_eq_settle, OrderedMap.take, ← represents.at?_eq]
  exact represents.settle (index?_evolve fun _ => index?_of_at?)

/-- The replay of events represents their map. -/
theorem represents_replay (events : List (Event α)) :
    Represents (replay events) (events.foldl OrderedMap.take OrderedMap.empty) := by
  induction events using List.reverseRecOn with
  | nil => exact represents_empty
  | append_singleton events event ih =>
      rw [replay_append_singleton, List.foldl_append]
      exact ih.take event

/-- A cache that holds what a map holds answers as the map does, and so it does afterwards. -/
theorem Represents.operate {cache : Cache α} {map : OrderedMap (Option UInt32) α}
    (represents : cache.Represents map) (operation : Operation α) :
    (cache.operate operation).1 = (map.operate operation).1 ∧
      Represents (cache.operate operation).2 (map.operate operation).2 := by
  cases operation with
  | add object =>
      rw [Cache.operate, OrderedMap.operate, add_eq_settle, represents.at?_eq]
      exact ⟨rfl, represents.settle fun _ isLeft => Option.some.inj isLeft ▸ rfl⟩
  | remove needle =>
      rw [Cache.operate, OrderedMap.operate, remove_eq_settle, represents.at?_eq]
      exact ⟨rfl, represents.settle fun _ isLeft => nomatch isLeft⟩
  | message event =>
      refine ⟨?_, represents.take event⟩
      rw [Cache.operate, OrderedMap.operate, apply_eq_settle, represents.at?_eq]
  | clear => exact ⟨rfl, represents_empty⟩
  | fill state =>
      refine ⟨rfl, ?_⟩
      simp only [Cache.operate, OrderedMap.operate, (staged_fill cache state).1]
      exact represents_replay _

/-- After any list of calls, the cache represents the map of these calls. -/
theorem represents_after (operations : List (Operation α)) :
    Represents (after operations) (OrderedMap.after operations) := by
  induction operations using List.reverseRecOn with
  | nil => exact represents_empty
  | append_singleton operations operation ih =>
      simp only [after, OrderedMap.after, List.foldl_append]
      exact (ih.operate operation).2

theorem Represents.objects_eq {cache : Cache α} {map : OrderedMap (Option UInt32) α}
    (represents : cache.Represents map) :
    cache.objects.map some = map.keys.map map.value? := by
  rw [← represents.indexes_eq, indexes, List.map_map]
  apply List.map_congr_left
  intro object objectMem
  rw [Function.comp_apply, ← represents.at?_eq]
  exact ((mem_objects_iff represents.distinct).mp objectMem).symm

/-- Caches that hold what the same map holds are the same. -/
theorem Represents.eq {cache other : Cache α} {map : OrderedMap (Option UInt32) α}
    (represents : cache.Represents map) (alike : other.Represents map) : cache = other := by
  have sameObjects := represents.objects_eq.trans alike.objects_eq.symm
  rcases cache with ⟨objects⟩
  rcases other with ⟨others⟩
  exact congrArg Cache.mk (List.map_injective_iff.mpr (fun _ _ => Option.some.inj) sameObjects)

/-! ## The properties of the map are those of the cache -/

/-- After a sequence of operations a cache is a map that is ordered by insertion; the function
looks objects up by index. -/
structure ActsAsMap (get? : Cache α → UInt32 → Option α) (operations : List (Operation α)) :
    Prop where
  /-- No two objects are identical. -/
  apart : (after operations).objects.Pairwise fun left right => identical left right = false
  /-- The objects are the values of the map, in the order of its keys. -/
  objects_eq : (after operations).objects.map some =
    (OrderedMap.after operations).keys.map (OrderedMap.after operations).value?
  /-- Whatever is done next, the answer is that of the map. -/
  answer_eq : ∀ operation, ((after operations).operate operation).1 =
    ((OrderedMap.after operations).operate operation).1
  /-- Looking an object up gives the value of its index. -/
  lookup_eq : ∀ needle,
    (after operations).lookup needle = (OrderedMap.after operations).value? (index? needle)
  /-- An object that is identical to the needle is the one that is found. -/
  lookup_eq_some_iff : ∀ needle found, (after operations).lookup needle = some found ↔
    found ∈ (after operations).objects ∧ identical found needle = true
  /-- Looking up by index finds what looking up a needle with the index finds. -/
  get?_eq : ∀ index needle, index? needle = some index →
    get? (after operations) index = (after operations).lookup needle
  /-- After an operation on a single object, the objects that are still there are in their
  old order, before any new one. -/
  keepsOrder : ∀ operation : Operation α, operation.IsSingle →
    OrderedMap.KeepsOrder (after operations).indexes (after (operations ++ [operation])).indexes

/-- Where the indexes are distinct, a lookup finds the identical object and no other. -/
theorem lookup_eq_some_iff {cache : Cache α} (distinct : cache.Distinct) {needle found : α} :
    cache.lookup needle = some found ↔
      found ∈ cache.objects ∧ identical found needle = true := by
  rw [lookup_eq_at?, identical_iff]
  constructor
  · intro isCached
    exact ⟨mem_of_at? isCached, index?_of_at? isCached⟩
  · rintro ⟨foundMem, sameIndex⟩
    rw [← sameIndex]
    exact (mem_objects_iff distinct).mp foundMem

theorem apart_of_distinct {cache : Cache α} (distinct : cache.Distinct) :
    cache.objects.Pairwise fun left right => identical left right = false := by
  rw [Distinct, List.nodup_iff_pairwise_ne, List.pairwise_map] at distinct
  exact distinct.imp identical_eq_false

/-- A cache acts as an ordered map, whatever its objects are and however they are looked up. -/
theorem actsAsMap (get? : Cache α → UInt32 → Option α)
    (getsAt : ∀ cache index, get? cache index = cache.at? (some index))
    (operations : List (Operation α)) : ActsAsMap get? operations := by
  have represents := represents_after operations
  refine
    { apart := apart_of_distinct represents.distinct
      objects_eq := represents.objects_eq
      answer_eq := fun operation => (represents.operate operation).1
      lookup_eq := fun needle => by rw [lookup_eq_at?, represents.at?_eq]
      lookup_eq_some_iff := fun needle found => lookup_eq_some_iff represents.distinct
      get?_eq := fun index needle sameIndex => by rw [getsAt, lookup_eq_at?, sameIndex]
      keepsOrder := ?_ }
  intro operation isSingle
  rw [(represents_after (operations ++ [operation])).indexes_eq, represents.indexes_eq]
  simp only [OrderedMap.after, List.foldl_append]
  cases operation with
  | add object => exact OrderedMap.keepsOrder_settle _ (index? object) (some object)
  | remove needle => exact OrderedMap.keepsOrder_settle _ (index? needle) none
  | message event => exact OrderedMap.keepsOrder_settle _ (index? event.object) _
  | clear => exact isSingle.elim
  | fill state => exact isSingle.elim

end Cache

/-- The caches of ports and of bridges are maps that are ordered by insertion. -/
theorem Cache.actsAsMap_bridgeObjects :
    (∀ operations : List (Operation PortVlans), ActsAsMap PortVlans.get? operations) ∧
      ∀ operations : List (Operation GroupTable), ActsAsMap GroupTable.get? operations := by
  constructor
  · apply actsAsMap
    intro cache interface
    exact congrArg cache.find? (funext fun port => beq_eq_decide port.interface? (some interface))
  · apply actsAsMap
    intro cache bridge
    exact congrArg cache.find? (funext fun table => beq_eq_decide table.bridge? (some bridge))

end BridgeView
