import BridgeView.Cache
import BridgeView.Proofs.Cache.Identity
import Mathlib.Data.List.Nodup

/-!
# What a message does to a cache

A cache of indexed objects is a map from indexes to objects as long as its
indexes are distinct, which every message preserves. A message about one index
replaces what the cache has there by `evolve`, a function of that object and of
the message alone, and leaves all other indexes as they are (`at?_apply`). The
report says what happened in the same terms (`report_apply`).

`upsert` and `withdraw` search the list for the object they are about. We follow the
search once, by splitting the list at the first object with the index
(`absent_or_present`); everything else is stated about the two shapes.
-/

namespace BridgeView

/-- A message that was read: the object it carries and what is to happen. -/
structure Event (α : Type) where
  object : α
  /-- What is to happen. -/
  action : Action
deriving DecidableEq, Repr

namespace Cache

open CacheObject IndexedObject

variable {α : Type} [CacheObject α] [IndexedObject α]

/-- What a message leaves of a cached object. -/
def succeed (cached : α) (event : Event α) : Option α :=
  match event.action with
  | .new | .change => some (updated cached event.object)
  | .delete =>
      if (subtract cached event.object).stays then some (subtract cached event.object).object
      else none
  | .get => some cached

/-- What a message leaves at its index, where there may be an object or none. -/
def evolve (cached? : Option α) (event : Event α) : Option α :=
  match cached? with
  | some cached => succeed cached event
  | none =>
      match event.action with
      | .new | .change => some event.object
      | .delete | .get => none

/-- What is reported about a message, given the object at its index. -/
def reported (cached? : Option α) (event : Event α) : Option (Report α) :=
  match event.action, cached? with
  | .get, _ => none
  | .new, none | .change, none => some ⟨event.object, .new⟩
  | .new, some cached | .change, some cached =>
      some ⟨updated cached event.object, .change⟩
  | .delete, none => some ⟨event.object, .delete⟩
  | .delete, some cached =>
      if (subtract cached event.object).stays then
        some ⟨(subtract cached event.object).object, .change⟩
      else some ⟨cached, .delete⟩

/-- The object at an index. -/
def at? (cache : Cache α) (index : Option UInt32) : Option α :=
  cache.find? (index? · = index)

/-- No index occurs twice. -/
def Distinct (cache : Cache α) : Prop :=
  (cache.objects.map index?).Nodup

theorem lookup_eq_at? (cache : Cache α) (needle : α) :
    cache.lookup needle = cache.at? (index? needle) := by
  simp only [lookup, at?, find?]
  congr 1
  funext object
  rw [Bool.eq_iff_iff, identical_iff, decide_eq_true_iff]

/-! ## Splitting a list at an index -/

/-- Either no object has the index, or one is the first to have it. -/
theorem absent_or_present (index : Option UInt32) (objects : List α) :
    (∀ object ∈ objects, index? object ≠ index) ∨
      ∃ before cached after, objects = before ++ cached :: after ∧
        (∀ object ∈ before, index? object ≠ index) ∧ index? cached = index := by
  cases found : objects.find? (index? · = index) with
  | none =>
      left
      simpa using found
  | some cached =>
      right
      rcases List.find?_eq_some_iff_append.mp found with
        ⟨present, before, after, split, absent⟩
      exact ⟨before, cached, after, split, by simpa using absent, by simpa using present⟩

theorem find?_of_absent {index : Option UInt32} {objects : List α}
    (absent : ∀ object ∈ objects, index? object ≠ index) :
    objects.find? (index? · = index) = none := by
  simpa using absent

theorem find?_split {index : Option UInt32} {before : List α} (cached : α) (after : List α)
    (absent : ∀ object ∈ before, index? object ≠ index) :
    (before ++ cached :: after).find? (index? · = index) =
      if index? cached = index then some cached
      else after.find? (index? · = index) := by
  rw [List.find?_append, find?_of_absent absent, List.find?_cons, Option.none_or]
  by_cases sameIndex : index? cached = index <;> simp [sameIndex]

theorem identical_eq_false {object other : α} (otherIndex : index? other ≠ index? object) :
    identical other object = false :=
  Bool.eq_false_iff.mpr fun same => otherIndex ((identical_iff other object).mp same)

theorem upsert_of_absent {object : α} {objects : List α}
    (absent : ∀ cached ∈ objects, index? cached ≠ index? object) :
    upsert object objects = (⟨object, .new⟩, objects ++ [object]) := by
  induction objects with
  | nil => rfl
  | cons first rest ih =>
      rw [List.forall_mem_cons] at absent
      rw [upsert, identical_eq_false absent.1, if_neg Bool.false_ne_true, ih absent.2]
      rfl

/-- An object with a known index is merged into the one that has it. -/
theorem upsert_of_present {object cached : α} {before : List α} (after : List α)
    (absent : ∀ other ∈ before, index? other ≠ index? object)
    (present : index? cached = index? object) :
    upsert object (before ++ cached :: after) =
      (⟨updated cached object, .change⟩, before ++ updated cached object :: after) := by
  induction before with
  | nil =>
      rw [List.nil_append, upsert, if_pos ((identical_iff cached object).mpr present)]
      rfl
  | cons first rest ih =>
      rw [List.forall_mem_cons] at absent
      rw [List.cons_append, upsert, identical_eq_false absent.1, if_neg Bool.false_ne_true,
        ih absent.2]
      rfl

theorem withdraw_of_absent {gone : α} {objects : List α}
    (absent : ∀ cached ∈ objects, index? cached ≠ index? gone) :
    withdraw gone objects = (⟨gone, .delete⟩, objects) := by
  induction objects with
  | nil => rfl
  | cons first rest ih =>
      rw [List.forall_mem_cons] at absent
      rw [withdraw, identical_eq_false absent.1, if_neg Bool.false_ne_true, ih absent.2]

/-- Withdrawing an object takes away from the one with its index what it names, and the whole of it
if nothing stays. -/
theorem withdraw_of_present {gone cached : α} {before : List α} (after : List α)
    (absent : ∀ other ∈ before, index? other ≠ index? gone)
    (present : index? cached = index? gone) :
    withdraw gone (before ++ cached :: after) =
      if (subtract cached gone).stays then
        (⟨(subtract cached gone).object, .change⟩,
          before ++ (subtract cached gone).object :: after)
      else (⟨cached, .delete⟩, before ++ after) := by
  induction before with
  | nil =>
      rw [List.nil_append, withdraw, if_pos ((identical_iff cached gone).mpr present)]
      rfl
  | cons first rest ih =>
      rw [List.forall_mem_cons] at absent
      rw [List.cons_append, withdraw, identical_eq_false absent.1, if_neg Bool.false_ne_true,
        ih absent.2]
      cases (subtract cached gone).stays <;> rfl

/-- A message about an index that the cache does not have leaves the objects and appends
what comes of it. -/
theorem apply_of_absent {object : α} {objects : List α} (action : Action)
    (absent : ∀ cached ∈ objects, index? cached ≠ index? object) :
    apply ⟨objects⟩ object action =
      (reported none ⟨object, action⟩,
        ⟨objects ++ (evolve none ⟨object, action⟩).toList⟩) := by
  cases action with
  | new => rw [apply, upsert_of_absent absent]; rfl
  | change => rw [apply, upsert_of_absent absent]; rfl
  | delete => rw [apply, withdraw_of_absent absent]; simp [reported, evolve]
  | get => simp [apply, reported, evolve]

/-- A message about an index that the cache has puts what is left of the object in its
place. -/
theorem apply_of_present {object cached : α} {before : List α} (after : List α)
    (action : Action) (absent : ∀ other ∈ before, index? other ≠ index? object)
    (present : index? cached = index? object) :
    apply ⟨before ++ cached :: after⟩ object action =
      (reported (some cached) ⟨object, action⟩,
        ⟨before ++ ((succeed cached ⟨object, action⟩).toList ++ after)⟩) := by
  cases action with
  | new => rw [apply, upsert_of_present after absent present]; rfl
  | change => rw [apply, upsert_of_present after absent present]; rfl
  | delete =>
      rw [apply, withdraw_of_present after absent present]
      simp only [reported, succeed]
      cases (subtract cached object).stays <;> rfl
  | get => rfl

theorem ne_delete_of_merges {action : Action} (merges : action = .new ∨ action = .change) :
    action ≠ .delete := by
  rcases merges with rfl | rfl
  · simp
  · simp

omit [IndexedObject α] in
/-- What a message can leave of a cached object. -/
theorem succeed_cases {cached left : α} {event : Event α}
    (succeeded : succeed cached event = some left) :
    ((event.action = .new ∨ event.action = .change) ∧ left = updated cached event.object) ∨
      (event.action = .delete ∧ (subtract cached event.object).stays = true ∧
        left = (subtract cached event.object).object) ∨
      (event.action = .get ∧ left = cached) := by
  rcases event with ⟨object, action⟩
  cases action with
  | new => exact Or.inl ⟨Or.inl rfl, (Option.some.inj succeeded).symm⟩
  | change => exact Or.inl ⟨Or.inr rfl, (Option.some.inj succeeded).symm⟩
  | delete =>
      simp only [succeed] at succeeded
      split at succeeded
      · rename_i stays
        exact Or.inr (Or.inl ⟨rfl, stays, (Option.some.inj succeeded).symm⟩)
      · cases succeeded
  | get => exact Or.inr (Or.inr ⟨rfl, (Option.some.inj succeeded).symm⟩)

theorem index?_succeed {cached left : α} {event : Event α}
    (succeeded : succeed cached event = some left) : index? left = index? cached := by
  rcases succeed_cases succeeded with ⟨_, rfl⟩ | ⟨_, _, rfl⟩ | ⟨_, rfl⟩
  · exact index?_updated cached event.object
  · exact index?_subtract cached event.object
  · rfl

omit [IndexedObject α] in
/-- Where nothing was cached, the object of the event is all that can be there. -/
theorem eq_of_evolve_none {event : Event α} {left : α}
    (evolved : evolve none event = some left) : left = event.object := by
  rcases event with ⟨object, action⟩
  cases action with
  | new => exact (Option.some.inj evolved).symm
  | change => exact (Option.some.inj evolved).symm
  | delete => cases evolved
  | get => cases evolved

/-! ## The cache as a map -/

theorem mem_of_at? {cache : Cache α} {index : Option UInt32} {object : α}
    (cached : cache.at? index = some object) : object ∈ cache.objects :=
  List.mem_of_find?_eq_some cached

theorem at?_of_split {before : List α} (cached : α) (after : List α)
    (absent : ∀ other ∈ before, index? other ≠ index? cached) :
    at? ⟨before ++ cached :: after⟩ (index? cached) = some cached := by
  rw [at?, find?, find?_split cached after absent, if_pos rfl]

/-- Distinct indexes set an object apart from those on both sides. -/
theorem absent_of_distinct {before after : List α} {cached : α}
    (distinct : Distinct ⟨before ++ cached :: after⟩) :
    (∀ other ∈ before, index? other ≠ index? cached) ∧
      ∀ other ∈ after, index? other ≠ index? cached := by
  rw [Distinct, List.map_append, List.map_cons, List.nodup_append] at distinct
  rcases distinct with ⟨_, rest, apart⟩
  constructor
  · intro other otherMem
    exact apart _ (List.mem_map_of_mem otherMem) _ List.mem_cons_self
  · intro other otherMem sameIndex
    rw [List.nodup_cons, ← sameIndex] at rest
    exact rest.1 (List.mem_map_of_mem otherMem)

/-- With distinct indexes, the objects of a cache are those found at their index. -/
theorem mem_objects_iff {cache : Cache α} (distinct : cache.Distinct) {object : α} :
    object ∈ cache.objects ↔ cache.at? (index? object) = some object := by
  constructor
  · intro objectMem
    rcases cache with ⟨objects⟩
    rcases List.append_of_mem objectMem with ⟨before, after, rfl⟩
    exact at?_of_split object after (absent_of_distinct distinct).1
  · exact mem_of_at?

/-- With distinct indexes, at most one object has an index. -/
theorem filter_objects_eq {cache : Cache α} (distinct : cache.Distinct) (index : Option UInt32) :
    cache.objects.filter (index? · = index) = (cache.at? index).toList := by
  rcases cache with ⟨objects⟩
  rcases absent_or_present index objects with
    absent | ⟨before, cached, after, rfl, absent, rfl⟩
  · rw [at?, find?, find?_of_absent absent, List.filter_eq_nil_iff.mpr]
    · rfl
    · simpa using absent
  · have later := (absent_of_distinct distinct).2
    rw [at?_of_split cached after absent, List.filter_append, List.filter_eq_nil_iff.mpr,
      List.filter_cons_of_pos, List.filter_eq_nil_iff.mpr]
    · rfl
    · simpa using later
    · exact decide_eq_true rfl
    · simpa using absent

/-- No event gives two objects the same index. -/
theorem distinct_apply {cache : Cache α} (distinct : cache.Distinct) (object : α)
    (action : Action) : (cache.apply object action).2.Distinct := by
  rcases cache with ⟨objects⟩
  rcases absent_or_present (index? object) objects with
    absent | ⟨before, cached, after, rfl, absent, present⟩
  · rw [apply_of_absent action absent]
    cases evolved : evolve none ⟨object, action⟩ with
    | none => simpa using distinct
    | some left =>
        have fresh : index? object ∉ objects.map index? := by
          rw [List.mem_map]
          rintro ⟨cached, cachedMem, sameIndex⟩
          exact absent cached cachedMem sameIndex
        rw [eq_of_evolve_none evolved]
        simpa [Distinct] using List.Nodup.concat fresh distinct
  · rw [apply_of_present after action absent present]
    cases succeeded : succeed cached ⟨object, action⟩ with
    | none =>
        apply List.Nodup.sublist _ distinct
        simp
    | some left => simpa [Distinct, index?_succeed succeeded] using distinct

/-- A message changes the cache at its own index, as `evolve` says, and nowhere else. -/
theorem at?_apply {cache : Cache α} (distinct : cache.Distinct) (object : α) (action : Action)
    (index : Option UInt32) :
    (cache.apply object action).2.at? index =
      if index? object = index then evolve (cache.at? index) ⟨object, action⟩
      else cache.at? index := by
  rcases cache with ⟨objects⟩
  rcases absent_or_present (index? object) objects with
    absent | ⟨before, cached, after, rfl, absent, present⟩
  · rw [apply_of_absent action absent]
    simp only [at?, find?, List.find?_append]
    split
    · rename_i sameIndex
      rw [← sameIndex, find?_of_absent absent, Option.none_or]
      cases evolved : evolve none ⟨object, action⟩ with
      | none => rfl
      | some left => simp [eq_of_evolve_none evolved]
    · rename_i otherIndex
      cases evolved : evolve none ⟨object, action⟩ with
      | none => simp
      | some left => simp [eq_of_evolve_none evolved, otherIndex]
  · have later := (absent_of_distinct distinct).2
    rw [apply_of_present after action absent present]
    split
    · rename_i sameIndex
      rw [← sameIndex, ← present, at?_of_split cached after (present ▸ absent)]
      cases succeeded : succeed cached ⟨object, action⟩ with
      | none =>
          simp only [at?, find?, Option.toList_none, List.nil_append, List.find?_append]
          rw [find?_of_absent (present ▸ absent), find?_of_absent later, evolve, succeeded]
          rfl
      | some left =>
          have sameLeft := index?_succeed succeeded
          rw [evolve, succeeded, ← sameLeft]
          exact at?_of_split left after (by rw [sameLeft, present]; exact absent)
    · rename_i otherIndex
      simp only [at?, find?, List.find?_append, List.find?_cons]
      cases succeeded : succeed cached ⟨object, action⟩ with
      | none => simp [present, otherIndex]
      | some left => simp [index?_succeed succeeded, present, otherIndex]

/-- What is reported depends on the message and on the object at its index alone. -/
theorem report_apply (cache : Cache α) (object : α) (action : Action) :
    (cache.apply object action).1 =
      reported (cache.at? (index? object)) ⟨object, action⟩ := by
  rcases cache with ⟨objects⟩
  rcases absent_or_present (index? object) objects with
    absent | ⟨before, cached, after, rfl, absent, present⟩
  · rw [apply_of_absent action absent, at?, find?, find?_of_absent absent]
  · rw [apply_of_present after action absent present, ← present,
      at?_of_split cached after (present ▸ absent)]

end Cache

end BridgeView
