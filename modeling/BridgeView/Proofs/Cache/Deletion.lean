import BridgeView.Proofs.Cache.OrderedMap
import BridgeView.Proofs.KeyedList
import Mathlib.Order.BooleanAlgebra.Basic

/-!
# Deletions in any order

The parts that two deletions name are gone after both of them, whichever came first, and a
deletion that arrives again finds nothing more to take away. This holds although the last part
takes the whole object with it, and although a port takes its own attributes from whichever entry
comes first.

Deletions never add to a cache, and so the objects that are left have to be in their old order
(`OrderedMap.Shrinks`). It is enough to compare what is left of each of them. For both types a
deletion leaves those parts that a condition keeps, and of two deletions both conditions are
required.

A merge can be repeated as well. The parts of each key survive it, and they survive it only once.
-/

namespace BridgeView

namespace CacheObject

variable {α : Type} [CacheObject α]

/-- What a deletion leaves of an object. -/
def without? (cached gone : α) : Option α :=
  Cache.succeed cached ⟨gone, .delete⟩

variable (α) in
/-- Of two deletions it does not matter which one comes first, or whether one is repeated. -/
structure DeletesFreely : Prop where
  comm : ∀ cached first second : α,
    (without? cached first).bind (without? · second)
      = (without? cached second).bind (without? · first)
  twice : ∀ cached gone : α,
    (without? cached gone).bind (without? · gone) = without? cached gone

/-- Deletions that leave what a condition keeps, or nothing when they name no condition. -/
theorem DeletesFreely.of_restrict {π : Type} [SemilatticeInf π] {restrict? : π → α → Option α}
    {condition? : α → Option π}
    (restrict?_bind : ∀ first second object,
      (restrict? first object).bind (restrict? second) = restrict? (first ⊓ second) object)
    (without?_eq : ∀ cached gone,
      without? cached gone = (condition? gone).bind (restrict? · cached)) :
    DeletesFreely α where
  comm cached first second := by
    simp only [without?_eq]
    cases condition? first <;> cases condition? second <;>
      simp [restrict?_bind, inf_comm]
  twice cached gone := by
    simp only [without?_eq]
    cases condition? gone <;> simp [restrict?_bind]

end CacheObject

open CacheObject

theorem filter_filter_inf {ε : Type} (first second : ε → Bool) (parts : List ε) :
    (parts.filter first).filter second = parts.filter (first ⊓ second) := by
  rw [List.filter_filter, inf_comm]
  rfl

namespace PortVlans

/-- The port with those entries that a condition keeps, if it keeps any. -/
def restrict? (keeps : VlanEntry → Bool) (port : PortVlans) : Option PortVlans :=
  { port with entries := port.entries.filter keeps }.adoptFirst?

/-- Which entries a deletion keeps; one without entries keeps nothing. -/
def kept? (gone : PortVlans) : Option (VlanEntry → Bool) :=
  if gone.entries.isEmpty then none else some fun entry => !gone.covers entry.vlan

/-- VLANs can be restricted twice or at once by both tests. -/
theorem restrict?_bind (first second : VlanEntry → Bool) (port : PortVlans) :
    (port.restrict? first).bind (restrict? second) = port.restrict? (first ⊓ second) := by
  unfold restrict?
  rw [← filter_filter_inf]
  rcases port.entries.filter first with _ | ⟨entry, later⟩
  · rfl
  · -- The attributes that were taken from the first entry are taken again.
    simp only [adoptFirst?, List.head?_cons, Option.map_some, Option.bind_some]

/-- Taking VLANs away restricts those that are cached. -/
theorem without?_eq (cached gone : PortVlans) :
    without? cached gone = gone.kept?.bind (restrict? · cached) := by
  change (if (cached.subtract gone).stays then some (cached.subtract gone).object else none) = _
  unfold subtract kept?
  split
  · rfl
  · rcases isLeft : cached.restrict? fun entry => !gone.covers entry.vlan with _ | left
    · rw [restrict?] at isLeft
      simp [restrict?, isLeft]
    · rw [restrict?] at isLeft
      simp [restrict?, isLeft]

/-- VLANs can be taken away in any order and more than once. -/
theorem deletesFreely : DeletesFreely PortVlans :=
  .of_restrict restrict?_bind without?_eq

end PortVlans

namespace GroupTable

/-- The table with those memberships and router ports that two conditions keep, if they keep
any. -/
def restrict? (keeps : (GroupEntry → Bool) × (UInt32 → Bool)) (table : GroupTable) :
    Option GroupTable :=
  let entries := table.entries.filter keeps.1
  let routerPorts := table.routerPorts.filter keeps.2
  if !entries.isEmpty || !routerPorts.isEmpty then some { table with entries, routerPorts }
  else none

/-- Which memberships and router ports a deletion keeps; one that names none keeps nothing. -/
def kept? (gone : GroupTable) : Option ((GroupEntry → Bool) × (UInt32 → Bool)) :=
  if gone.entries.isEmpty && gone.routerPorts.isEmpty then none
  else some (fun entry => !gone.entries.any entry.sameGroup,
    fun port => !gone.routerPorts.contains port)

/-- Memberships and router ports can be restricted twice or at once by both tests. -/
theorem restrict?_bind (first second : (GroupEntry → Bool) × (UInt32 → Bool))
    (table : GroupTable) :
    (table.restrict? first).bind (restrict? second) = table.restrict? (first ⊓ second) := by
  simp only [restrict?, Prod.fst_inf, Prod.snd_inf, ← filter_filter_inf]
  split
  · rfl
  · rename_i nothing
    simp only [Bool.or_eq_true, Bool.not_eq_true', not_or, Bool.not_eq_false,
      List.isEmpty_iff] at nothing
    rw [nothing.1, nothing.2]
    rfl

theorem without?_eq (cached gone : GroupTable) :
    without? cached gone = gone.kept?.bind (restrict? · cached) := by
  change (if (cached.subtract gone).stays then some (cached.subtract gone).object else none) = _
  unfold subtract kept?
  split
  · rfl
  · rfl

/-- Memberships can be taken away in any order and more than once. -/
theorem deletesFreely : DeletesFreely GroupTable :=
  .of_restrict restrict?_bind without?_eq

end GroupTable

namespace OrderedMap

variable {κ α : Type} {before middle after other : OrderedMap κ α}

/-- What is left of a map is in the old order. -/
def Shrinks (before after : OrderedMap κ α) : Prop :=
  after.keys = before.keys.filter fun key => (after.value? key).isSome

theorem Shrinks.isSome (shrinks : before.Shrinks after) {key : κ}
    (isThere : (after.value? key).isSome) : (before.value? key).isSome := by
  have keyMem := (after.mem_keys_iff key).mpr isThere
  rw [shrinks, List.mem_filter] at keyMem
  exact (before.mem_keys_iff key).mp keyMem.1

/-- A map that shrinks twice shrinks. -/
theorem Shrinks.trans (first : before.Shrinks middle) (second : middle.Shrinks after) :
    before.Shrinks after := by
  rw [Shrinks, second, first, List.filter_filter]
  apply List.filter_congr
  intro key _
  simpa using second.isSome

/-- What is left of a map is determined by the values. -/
theorem Shrinks.eq (shrinks : before.Shrinks after) (alike : before.Shrinks other)
    (sameValues : ∀ key, after.value? key = other.value? key) : after = other := by
  apply eq_of_value? _ sameValues
  rw [shrinks, alike]
  simp only [sameValues]

/-- Settling a key shrinks a map unless it makes the key known. -/
theorem shrinks_settle [DecidableEq κ] {map : OrderedMap κ α} {key : κ} {left? : Option α}
    (known : left?.isSome → (map.value? key).isSome) : map.Shrinks (map.settle key left?) := by
  cases left? with
  | none =>
      apply List.filter_congr
      intro other otherMem
      by_cases same : other = key
      · simp [value?_settle, same]
      · simpa [value?_settle, same] using (map.mem_keys_iff other).mp otherMem
  | some value =>
      have keys : (map.insert key value).keys = map.keys := if_pos (known rfl)
      rw [Shrinks, settle, keys, eq_comm, List.filter_eq_self]
      intro other otherMem
      rw [← settle, value?_settle]
      by_cases same : other = key
      · simp [same]
      · simpa [same] using (map.mem_keys_iff other).mp otherMem

end OrderedMap

namespace Cache

open IndexedObject

variable {α : Type} [CacheObject α] [IndexedObject α]

omit [IndexedObject α] in
/-- A deletion leaves of what is cached all that it does not name. -/
theorem evolve_delete (cached? : Option α) (gone : α) :
    evolve cached? ⟨gone, .delete⟩ = cached?.bind (without? · gone) := by
  cases cached? <;> rfl

theorem shrinks_take (map : OrderedMap (Option UInt32) α) (gone : α) :
    map.Shrinks (map.take ⟨gone, .delete⟩) := by
  apply OrderedMap.shrinks_settle
  rw [evolve_delete]
  cases map.value? (index? gone) <;> simp

/-- A deletion changes what stands under its own index only. -/
theorem value?_take (map : OrderedMap (Option UInt32) α) (gone : α) (index : Option UInt32) :
    (map.take ⟨gone, .delete⟩).value? index =
      if index = index? gone then (map.value? index).bind (without? · gone)
      else map.value? index := by
  rw [OrderedMap.take, OrderedMap.value?_settle, evolve_delete]
  split
  · rename_i same
    rw [same]
  · rfl

/-- The order of two deletions does not matter. -/
theorem take_comm (free : DeletesFreely α) (map : OrderedMap (Option UInt32) α)
    (first second : α) :
    (map.take ⟨first, .delete⟩).take ⟨second, .delete⟩ =
      (map.take ⟨second, .delete⟩).take ⟨first, .delete⟩ := by
  have forth := (shrinks_take map first).trans (shrinks_take _ second)
  have back := (shrinks_take map second).trans (shrinks_take _ first)
  apply forth.eq back
  intro index
  simp only [value?_take]
  split
  · split
    · cases map.value? index with
      | none => rfl
      | some cached => exact free.comm cached first second
    · rfl
  · rfl

/-- A deletion that is repeated has no further effect. -/
theorem take_twice (free : DeletesFreely α) (map : OrderedMap (Option UInt32) α) (gone : α) :
    (map.take ⟨gone, .delete⟩).take ⟨gone, .delete⟩ = map.take ⟨gone, .delete⟩ := by
  have again := (shrinks_take map gone).trans (shrinks_take _ gone)
  apply again.eq (shrinks_take map gone)
  intro index
  simp only [value?_take]
  split
  · cases map.value? index with
    | none => rfl
    | some cached => exact free.twice cached gone
  · rfl

variable (α) in
/-- In every cache, deletions come to the same in either order, and one that is repeated changes
nothing more. A merge that is repeated changes nothing more either. -/
structure ToleratesDisorder : Prop where
  delete_comm : ∀ (operations : List (Operation α)) (first second : α),
    (((after operations).apply first .delete).2.apply second .delete).2
      = (((after operations).apply second .delete).2.apply first .delete).2
  delete_twice : ∀ (operations : List (Operation α)) (gone : α),
    (((after operations).apply gone .delete).2.apply gone .delete).2
      = ((after operations).apply gone .delete).2
  merge_twice : ∀ cached newer : α,
    ∃ merged, merge? cached newer = some merged ∧ merge? merged newer = some merged

/-- What a type of objects has to bring along so that disorder is tolerated. -/
theorem toleratesDisorder (free : DeletesFreely α)
    (merge_twice : ∀ cached newer : α,
      ∃ merged, merge? cached newer = some merged ∧ merge? merged newer = some merged) :
    ToleratesDisorder α where
  delete_comm operations first second := by
    have represents := represents_after operations
    have forth := (represents.take ⟨first, .delete⟩).take ⟨second, .delete⟩
    have back := (represents.take ⟨second, .delete⟩).take ⟨first, .delete⟩
    rw [take_comm free] at forth
    exact forth.eq back
  delete_twice operations gone := by
    have once := (represents_after operations).take ⟨gone, .delete⟩
    have again := once.take ⟨gone, .delete⟩
    rw [take_twice free] at again
    exact again.eq once
  merge_twice := merge_twice

end Cache

open KeyedList

/-- Merging the same report again changes nothing, for ports. -/
theorem PortVlans.merge_twice (cached newer : PortVlans) :
    (cached.merge newer).merge newer = cached.merge newer := by
  have entries : ((cached.merge newer).merge newer).entries = (cached.merge newer).entries := by
    simp only [entries_merge, putAll_putAll]
  have flagMask : ((cached.merge newer).merge newer).flagMask = (cached.merge newer).flagMask := by
    simp only [merge]
    split <;> rfl
  simp only [merge, PortVlans.mk.injEq, ← Option.or_assoc, Option.or_self, true_and]
  exact ⟨flagMask, entries⟩

/-- Merging the same report again changes nothing, for tables. -/
theorem GroupTable.merge_twice (cached newer : GroupTable) :
    (cached.merge newer).merge newer = cached.merge newer := by
  have entries : ((cached.merge newer).merge newer).entries = (cached.merge newer).entries := by
    simp only [entries_merge, putAll_putAll]
  have routerPorts : ((cached.merge newer).merge newer).routerPorts
      = (cached.merge newer).routerPorts := by
    simp only [routerPorts_merge, putAll_putAll]
  simp only [merge, GroupTable.mk.injEq, true_and]
  exact ⟨entries, routerPorts⟩

/-- Disorder is tolerated for both types of bridge objects. -/
theorem Cache.toleratesDisorder_bridgeObjects :
    ToleratesDisorder PortVlans ∧ ToleratesDisorder GroupTable := by
  constructor
  · apply toleratesDisorder PortVlans.deletesFreely
    intro cached newer
    exact ⟨_, rfl, congrArg some (cached.merge_twice newer)⟩
  · apply toleratesDisorder GroupTable.deletesFreely
    intro cached newer
    exact ⟨_, rfl, congrArg some (cached.merge_twice newer)⟩

end BridgeView
