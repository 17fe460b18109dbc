import BridgeView.Multicast.Table
import BridgeView.Vlan.Port
import Mathlib.Data.List.Basic
import Mathlib.Data.List.Nodup

/-!
# Parts matched by a key

The parts of an object are lists in which a newer part takes the place of the
first one with the same key: VLAN entries go by the VLAN they start with, memberships
by port, VLAN and group, router ports by themselves. The three merges are one
function, `KeyedList.putAll`, and `withKey_putAll` says for each key what it makes
of the parts with that key. Everything else about merges follows from that equation.

A merge never removes a repeated key and never makes one, since it only
touches the first part of each key. Repetitions therefore come from
elsewhere, and only a deletion ends them.
-/

namespace BridgeView

namespace KeyedList

variable {ε κ : Type} [DecidableEq κ] (key : ε → κ)

/-- Puts a part in the place of the first one with its key, or at the end. -/
def put (part : ε) : List ε → List ε
  | [] => [part]
  | first :: rest =>
      if key first = key part then part :: rest else first :: put part rest

/-- Puts several newer parts into a list, one after the other. -/
def putAll (newer parts : List ε) : List ε :=
  newer.foldl (fun parts part => put key part parts) parts

/-- The parts with a key. -/
def withKey (wanted : κ) (parts : List ε) : List ε :=
  parts.filter fun part => key part = wanted

/-- The last part with a key. -/
def latest? (wanted : κ) (parts : List ε) : Option ε :=
  (withKey key wanted parts).getLast?

/-- The parts with a key once newer ones are put in: the latest newer one in the place of the
first, or the older ones if there is no newer one. -/
def survivors (wanted : κ) (newer parts : List ε) : List ε :=
  match latest? key wanted newer with
  | none => withKey key wanted parts
  | some part => part :: (withKey key wanted parts).tail

/-- More than one part has the key. -/
def Repeats (wanted : κ) (parts : List ε) : Prop :=
  1 < (withKey key wanted parts).length

variable {key}

theorem mem_withKey {wanted : κ} {part : ε} {parts : List ε} :
    part ∈ withKey key wanted parts ↔ part ∈ parts ∧ key part = wanted := by
  simp [withKey]

theorem mem_of_latest? {wanted : κ} {part : ε} {parts : List ε}
    (latest : latest? key wanted parts = some part) : part ∈ parts ∧ key part = wanted :=
  mem_withKey.mp (List.mem_of_getLast? latest)

theorem latest?_eq_none_iff {wanted : κ} {parts : List ε} :
    latest? key wanted parts = none ↔ ∀ part ∈ parts, key part ≠ wanted := by
  simp [latest?, withKey]

theorem withKey_cons_self {wanted : κ} {first : ε} (parts : List ε)
    (sameKey : key first = wanted) :
    withKey key wanted (first :: parts) = first :: withKey key wanted parts := by
  simp [withKey, sameKey]

theorem withKey_cons_other {wanted : κ} {first : ε} (parts : List ε)
    (otherKey : key first ≠ wanted) :
    withKey key wanted (first :: parts) = withKey key wanted parts := by
  simp [withKey, otherKey]

theorem withKey_append (wanted : κ) (first second : List ε) :
    withKey key wanted (first ++ second) = withKey key wanted first ++ withKey key wanted second :=
  List.filter_append _ _

/-- The latest part of two lists is the one of the second, if it has any. -/
theorem latest?_append (wanted : κ) (first second : List ε) :
    latest? key wanted (first ++ second) =
      (latest? key wanted second).or (latest? key wanted first) := by
  rw [latest?, withKey_append, List.getLast?_append, latest?, latest?]

theorem latest?_cons (wanted : κ) (first : ε) (parts : List ε) :
    latest? key wanted (first :: parts) =
      (latest? key wanted parts).or (if key first = wanted then some first else none) := by
  by_cases sameKey : key first = wanted
  · rw [if_pos sameKey, latest?, withKey_cons_self parts sameKey, List.getLast?_cons, latest?]
    cases (withKey key wanted parts).getLast? <;> rfl
  · rw [if_neg sameKey, latest?, withKey_cons_other parts sameKey, latest?, Option.or_none]

/-! ## What a merge makes of the parts with one key -/

/-- Putting a part replaces the first one of its key, or adds it. -/
theorem withKey_put_self (part : ε) (parts : List ε) :
    withKey key (key part) (put key part parts) =
      part :: (withKey key (key part) parts).tail := by
  induction parts with
  | nil => simp [put, withKey]
  | cons first rest ih =>
      by_cases sameKey : key first = key part
      · rw [put, if_pos sameKey, withKey_cons_self rest rfl, withKey_cons_self rest sameKey,
          List.tail_cons]
      · rw [put, if_neg sameKey, withKey_cons_other _ sameKey, withKey_cons_other _ sameKey, ih]

/-- Putting a part does not touch those of other keys. -/
theorem withKey_put_other {wanted : κ} {part : ε} (parts : List ε)
    (otherKey : key part ≠ wanted) :
    withKey key wanted (put key part parts) = withKey key wanted parts := by
  induction parts with
  | nil => simp [put, withKey, otherKey]
  | cons first rest ih =>
      rw [put]
      split
      · rename_i sameKey
        rw [withKey_cons_other rest otherKey,
          withKey_cons_other rest (by rw [sameKey]; exact otherKey)]
      · by_cases firstWanted : key first = wanted
        · rw [withKey_cons_self _ firstWanted, withKey_cons_self _ firstWanted, ih]
        · rw [withKey_cons_other _ firstWanted, withKey_cons_other _ firstWanted, ih]

/-- A merge leaves the survivors of each key. -/
theorem withKey_putAll (wanted : κ) (newer parts : List ε) :
    withKey key wanted (putAll key newer parts) = survivors key wanted newer parts := by
  induction newer generalizing parts with
  | nil => rfl
  | cons part newer ih =>
      have unfolded : putAll key (part :: newer) parts = putAll key newer (put key part parts) :=
        rfl
      rw [unfolded, ih, survivors, survivors, latest?_cons]
      by_cases sameKey : key part = wanted
      · subst sameKey
        rw [withKey_put_self, if_pos rfl]
        cases latest? key (key part) newer <;> rfl
      · rw [withKey_put_other parts sameKey, if_neg sameKey, Option.or_none]

theorem mem_putAll_iff {part : ε} {newer parts : List ε} :
    part ∈ putAll key newer parts ↔ part ∈ survivors key (key part) newer parts := by
  rw [← withKey_putAll, mem_withKey]
  simp

/-- Survivors come from either list. -/
theorem mem_of_mem_survivors {wanted : κ} {part : ε} {newer parts : List ε}
    (survives : part ∈ survivors key wanted newer parts) : part ∈ newer ∨ part ∈ parts := by
  rw [survivors] at survives
  split at survives
  · exact Or.inr (mem_withKey.mp survives).1
  · rename_i latest isLatest
    rcases List.mem_cons.mp survives with rfl | older
    · exact Or.inl (mem_of_latest? isLatest).1
    · exact Or.inr (mem_withKey.mp (List.mem_of_mem_tail older)).1

theorem mem_survivors_of_latest? {wanted : κ} {part : ε} {newer : List ε}
    (parts : List ε) (isLatest : latest? key wanted newer = some part) :
    part ∈ survivors key wanted newer parts := by
  rw [survivors, isLatest]
  exact List.mem_cons_self

variable (key) in
/-- The first place of a list keeps its part or takes the new one of its key. -/
theorem put_cons (part first : ε) (rest : List ε) :
    ∃ others, put key part (first :: rest) =
      (if key first = key part then part else first) :: others := by
  rw [put]
  split
  · exact ⟨rest, rfl⟩
  · exact ⟨put key part rest, rfl⟩

/-- The first part keeps its place and its key in a merge. -/
theorem head?_putAll (newer : List ε) (first : ε) (rest : List ε) :
    (putAll key newer (first :: rest)).head? =
      some ((latest? key (key first) newer).getD first) := by
  induction newer generalizing first rest with
  | nil => rfl
  | cons part newer ih =>
      have unfolded : putAll key (part :: newer) (first :: rest) =
          putAll key newer (put key part (first :: rest)) := rfl
      rcases put_cons key part first rest with ⟨others, placed⟩
      rw [unfolded, placed, ih, latest?_cons]
      by_cases sameKey : key first = key part
      · rw [if_pos sameKey, if_pos sameKey.symm, ← sameKey]
        cases latest? key (key first) newer <;> rfl
      · rw [if_neg sameKey, if_neg (fun same => sameKey same.symm), Option.or_none]

theorem putAll_cons_ne_nil (newer : List ε) (first : ε) (rest : List ε) :
    putAll key newer (first :: rest) ≠ [] := by
  intro empty
  have front : (putAll key newer (first :: rest)).head? = some _ := head?_putAll newer first rest
  simp [empty] at front

theorem isEmpty_putAll (newer parts : List ε) :
    (putAll key newer parts).isEmpty = (newer.isEmpty && parts.isEmpty) := by
  rcases parts with _ | ⟨first, rest⟩
  · rcases newer with _ | ⟨part, newer⟩
    · rfl
    · have notEmpty : putAll key (part :: newer) [] ≠ [] := putAll_cons_ne_nil newer part []
      simp [notEmpty]
  · simp [putAll_cons_ne_nil]

/-! ## Repeated keys -/

/-- Keys are distinct if and only if none of them repeats. -/
theorem nodup_map_iff {parts : List ε} :
    (parts.map key).Nodup ↔ ∀ wanted, ¬Repeats key wanted parts := by
  rw [List.nodup_iff_count_le_one]
  apply forall_congr'
  intro wanted
  have counted : (parts.map key).count wanted = (withKey key wanted parts).length := by
    rw [List.count_eq_countP, List.countP_map, List.countP_eq_length_filter]
    rfl
  rw [Repeats, counted, Nat.not_lt]

/-- Where keys are distinct, the parts of a key are the latest one. -/
theorem withKey_eq_toList {parts : List ε} (once : (parts.map key).Nodup) (wanted : κ) :
    withKey key wanted parts = (latest? key wanted parts).toList := by
  have notRepeated := nodup_map_iff.mp once wanted
  rw [Repeats, Nat.not_lt] at notRepeated
  rw [latest?]
  generalize withKey key wanted parts = found at notRepeated ⊢
  rcases found with _ | ⟨part, _ | ⟨other, rest⟩⟩
  · rfl
  · rfl
  · simp at notRepeated

/-- A merge neither makes a repeated key nor removes one. -/
theorem repeats_putAll_iff {wanted : κ} {newer parts : List ε} :
    Repeats key wanted (putAll key newer parts) ↔ Repeats key wanted parts := by
  rw [Repeats, Repeats, withKey_putAll, survivors]
  cases latest? key wanted newer with
  | none => rfl
  | some part =>
      rw [List.length_cons, List.length_tail]
      omega

theorem withKey_filter_of_removed {wanted : κ} {keeps : ε → Bool} {removed : κ → Prop}
    (byKey : ∀ part, keeps part = true ↔ ¬removed (key part)) (parts : List ε)
    (isRemoved : removed wanted) : withKey key wanted (parts.filter keeps) = [] := by
  rw [withKey, List.filter_eq_nil_iff]
  intro part partMem sameKey
  have kept := (byKey part).mp (List.mem_filter.mp partMem).2
  rw [of_decide_eq_true sameKey] at kept
  exact kept isRemoved

/-- A filter by key leaves the parts of a key that is kept. -/
theorem withKey_filter_of_kept {wanted : κ} {keeps : ε → Bool} {removed : κ → Prop}
    (byKey : ∀ part, keeps part = true ↔ ¬removed (key part)) (parts : List ε)
    (isKept : ¬removed wanted) :
    withKey key wanted (parts.filter keeps) = withKey key wanted parts := by
  rw [withKey, List.filter_filter]
  apply List.filter_congr
  intro part _
  by_cases sameKey : key part = wanted
  · simp [sameKey, (byKey part).mpr (sameKey ▸ isKept)]
  · simp [sameKey]

/-- A deletion by key leaves a key repeated that was repeated, unless it removes it. -/
theorem repeats_filter_iff {wanted : κ} {keeps : ε → Bool} {removed : κ → Prop}
    (byKey : ∀ part, keeps part = true ↔ ¬removed (key part)) {parts : List ε} :
    Repeats key wanted (parts.filter keeps) ↔ Repeats key wanted parts ∧ ¬removed wanted := by
  rw [Repeats, Repeats]
  by_cases wantedRemoved : removed wanted
  · simp [withKey_filter_of_removed byKey parts wantedRemoved, wantedRemoved]
  · rw [withKey_filter_of_kept byKey parts wantedRemoved, and_iff_left wantedRemoved]

/-! ## Repeated merges -/

/-- Lists with the same keys at the same places, and with the same parts for each key, are the
same. -/
theorem eq_of_withKey {parts others : List ε} (sameKeys : parts.map key = others.map key)
    (sameParts : ∀ wanted, withKey key wanted parts = withKey key wanted others) :
    parts = others := by
  induction parts generalizing others with
  | nil => simpa [eq_comm] using sameKeys
  | cons part rest ih =>
      rcases others with _ | ⟨other, later⟩
      · simp at sameKeys
      · rw [List.map_cons, List.map_cons, List.cons.injEq] at sameKeys
        have front := sameParts (key part)
        rw [withKey_cons_self rest rfl, withKey_cons_self later sameKeys.1.symm,
          List.cons.injEq] at front
        rw [front.1, ih sameKeys.2]
        intro wanted
        by_cases sameKey : key part = wanted
        · exact sameKey ▸ front.2
        · have otherKey : key other ≠ wanted := sameKeys.1 ▸ sameKey
          have behind := sameParts wanted
          rwa [withKey_cons_other rest sameKey, withKey_cons_other later otherKey] at behind

/-- Putting a part of a known key leaves the keys as they are. -/
theorem map_key_put {part : ε} {parts : List ε} (present : key part ∈ parts.map key) :
    (put key part parts).map key = parts.map key := by
  induction parts with
  | nil => simp at present
  | cons first rest ih =>
      rw [put]
      split
      · rename_i sameKey
        rw [List.map_cons, List.map_cons, sameKey]
      · rename_i otherKey
        rw [List.map_cons, List.mem_cons] at present
        rcases present with sameKey | later
        · exact absurd sameKey.symm otherKey
        · rw [List.map_cons, List.map_cons, ih later]

/-- A merge of parts whose keys are all there leaves every key where it is. -/
theorem map_key_putAll {newer parts : List ε}
    (present : ∀ part ∈ newer, key part ∈ parts.map key) :
    (putAll key newer parts).map key = parts.map key := by
  induction newer generalizing parts with
  | nil => rfl
  | cons part newer ih =>
      rw [List.forall_mem_cons] at present
      have placed := map_key_put present.1
      rw [putAll, List.foldl_cons, ← putAll, ih, placed]
      rw [placed]
      exact present.2

theorem key_mem_putAll {part : ε} {newer : List ε} (parts : List ε) (partMem : part ∈ newer) :
    key part ∈ (putAll key newer parts).map key := by
  rcases isLatest : latest? key (key part) newer with _ | latest
  · exact absurd rfl (latest?_eq_none_iff.mp isLatest part partMem)
  · have sameKey := (mem_of_latest? isLatest).2
    have survives := mem_survivors_of_latest? parts isLatest
    rw [← sameKey] at survives ⊢
    exact List.mem_map_of_mem (mem_putAll_iff.mpr survives)

/-- Parts that were put in can be put in again. -/
theorem putAll_putAll (newer parts : List ε) :
    putAll key newer (putAll key newer parts) = putAll key newer parts := by
  have sameKeys : (putAll key newer (putAll key newer parts)).map key
      = (putAll key newer parts).map key := by
    apply map_key_putAll
    intro part partMem
    exact key_mem_putAll parts partMem
  apply eq_of_withKey sameKeys
  intro wanted
  rw [withKey_putAll, survivors, withKey_putAll, survivors]
  cases latest? key wanted newer <;> rfl

/-! ## Merges of new keys -/

theorem put_of_fresh {part : ε} {parts : List ε} (fresh : key part ∉ parts.map key) :
    put key part parts = parts ++ [part] := by
  induction parts with
  | nil => rfl
  | cons first rest ih =>
      rw [List.map_cons, List.mem_cons, not_or] at fresh
      rw [put, if_neg (Ne.symm fresh.1), ih fresh.2, List.cons_append]

/-- A merge of parts with new keys appends them. -/
theorem putAll_of_nodup {newer parts : List ε} (distinct : ((parts ++ newer).map key).Nodup) :
    putAll key newer parts = parts ++ newer := by
  induction newer generalizing parts with
  | nil => simp [putAll]
  | cons part newer ih =>
      have fresh : key part ∉ parts.map key := by
        rw [List.map_append, List.map_cons, List.nodup_append] at distinct
        intro present
        exact distinct.2.2 _ present _ List.mem_cons_self rfl
      rw [putAll, List.foldl_cons, ← putAll, put_of_fresh fresh, ih, List.append_assoc]
      · rfl
      · rwa [List.append_assoc]

end KeyedList

open KeyedList

/-! ## The merges of the two types -/

namespace PortVlans

/-- Merging a VLAN into others puts it there, under its number. -/
theorem mergeEntry_eq_put (newer : VlanEntry) (entries : List VlanEntry) :
    mergeEntry newer entries = put VlanEntry.vlan newer entries := by
  induction entries with
  | nil => rfl
  | cons entry rest ih => rw [mergeEntry, put, ih]

/-- Merging ports puts the newer VLANs among the cached ones. -/
theorem entries_merge (cached newer : PortVlans) :
    (cached.merge newer).entries = putAll VlanEntry.vlan newer.entries cached.entries := by
  simp only [merge, putAll, mergeEntry_eq_put]

end PortVlans

/-- What identifies a membership within its table. -/
def GroupEntry.member (entry : GroupEntry) : UInt32 × UInt16 × GroupAddress :=
  (entry.port, entry.vlan, entry.address)

namespace GroupTable

theorem sameGroup_iff (left right : GroupEntry) :
    left.sameGroup right = true ↔ left.member = right.member := by
  simp [GroupEntry.sameGroup, GroupEntry.member, and_assoc]

/-- Merging a membership into others puts it there, under port, VLAN and group. -/
theorem mergeEntry_eq_put (newer : GroupEntry) (entries : List GroupEntry) :
    mergeEntry newer entries = put GroupEntry.member newer entries := by
  induction entries with
  | nil => rfl
  | cons entry rest ih => simp only [mergeEntry, put, ih, sameGroup_iff]

/-- Merging a router port into others puts it there. -/
theorem mergePort_eq_put (ports : List UInt32) (port : UInt32) :
    mergePort ports port = put id port ports := by
  induction ports with
  | nil => rfl
  | cons first rest ih =>
      rw [put, ← ih]
      by_cases same : first = port
      · simp [mergePort, same]
      · have other : ¬port = first := fun equal => same equal.symm
        by_cases present : port ∈ rest <;> simp [mergePort, same, other, present]

theorem entries_merge (cached newer : GroupTable) :
    (cached.merge newer).entries = putAll GroupEntry.member newer.entries cached.entries := by
  simp only [merge, putAll, mergeEntry_eq_put]

theorem routerPorts_merge (cached newer : GroupTable) :
    (cached.merge newer).routerPorts = putAll id newer.routerPorts cached.routerPorts := by
  have samePut : mergePort = fun ports port => put id port ports := by
    funext ports port
    exact mergePort_eq_put ports port
  simp only [merge, putAll, samePut]

end GroupTable

end BridgeView
