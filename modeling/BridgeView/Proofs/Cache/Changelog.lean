import BridgeView.Proofs.Cache.Contents

/-!
# Reports are a changelog

Whoever has a copy of a cache and hears every report can keep the copy up to date without
knowing what the messages were: a new object is appended, a changed one takes the place
of the identical one, and a deleted one is dropped. `record` is this rule. A report
says enough for it (`truthful_apply`), although what is reported is not always what the
message asked for.
-/

namespace BridgeView.Cache

open CacheObject IndexedObject

variable {α : Type} [CacheObject α]

/-- The copy after a report: a new object goes to the end, a changed one takes the place of the one
it is identical to, and a deleted one goes. -/
def record (copy : Cache α) (report : Report α) : Cache α :=
  match report.action with
  | .new => ⟨copy.objects ++ [report.object]⟩
  | .change =>
      ⟨copy.objects.map fun cached =>
        if identical cached report.object then report.object else cached⟩
  | .delete => ⟨copy.objects.filter fun cached => !identical cached report.object⟩
  | .get => copy

/-- A report says what happened between two states of a cache. -/
structure Truthful (before : Cache α) (report : Report α) (after : Cache α) : Prop where
  /-- The copy of those who hear the report is right. -/
  after_eq : after = before.record report
  /-- Something happened. -/
  action_ne_get : report.action ≠ .get
  /-- What is new was not there. -/
  absent_of_new : report.action = .new →
    ∀ cached ∈ before.objects, identical cached report.object = false
  /-- What has changed was there. -/
  present_of_change : report.action = .change →
    ∃ cached ∈ before.objects, identical cached report.object = true
  /-- What is new or has changed is there. -/
  mem_of_ne_delete : report.action ≠ .delete → report.object ∈ after.objects
  /-- What is deleted is gone. -/
  absent_of_delete : report.action = .delete →
    ∀ cached ∈ after.objects, identical cached report.object = false

/-- Records reports, each with the cache that was shown with it. -/
def recordAll (copy : Cache α) (log : List (Cache α × Report α)) : Cache α :=
  log.foldl (fun copy entry => copy.record entry.2) copy

/-- Reports, each with the cache that was shown with it, tell how a cache came from one state to
another. -/
structure IsChangelog (start : Cache α) (log : List (Cache α × Report α)) (final : Cache α) :
    Prop where
  /-- The copy of those who hear all reports is right. -/
  final_eq : final = start.recordAll log
  /-- Each report is truthful, and the cache that was shown with it is as it was then. -/
  truthful : ∀ earlier after report later, log = earlier ++ (after, report) :: later →
    Truthful (start.recordAll earlier) report after

theorem recordAll_append (copy : Cache α) (earlier later : List (Cache α × Report α)) :
    copy.recordAll (earlier ++ later) = (copy.recordAll earlier).recordAll later :=
  List.foldl_append

namespace IsChangelog

variable {start middle final : Cache α} {earlier later : List (Cache α × Report α)}

theorem nil (cache : Cache α) : IsChangelog cache [] cache :=
  ⟨rfl, fun earlier after report later split => by simp at split⟩

/-- A truthful report is a changelog by itself. -/
theorem singleton {report : Report α} (truthful : Truthful start report final) :
    IsChangelog start [(final, report)] final := by
  refine ⟨truthful.after_eq, ?_⟩
  intro earlier after report' later split
  cases earlier with
  | nil =>
      rcases List.cons.inj split with ⟨sameEntry, _⟩
      cases sameEntry
      exact truthful
  | cons entry earlier => simp at split

/-- Changelogs of two stretches make up one of both. -/
theorem append (first : IsChangelog start earlier middle)
    (second : IsChangelog middle later final) : IsChangelog start (earlier ++ later) final := by
  refine ⟨?_, ?_⟩
  · rw [recordAll_append, ← first.final_eq]
    exact second.final_eq
  · intro before after report behind split
    rcases List.append_eq_append_iff.mp split with
      ⟨between, rfl, inLater⟩ | ⟨between, inEarlier, rest⟩
    · rw [recordAll_append, ← first.final_eq]
      exact second.truthful between after report behind inLater
    · cases between with
      | nil =>
          rw [List.append_nil] at inEarlier
          rw [← inEarlier, ← first.final_eq]
          exact second.truthful [] after report behind rest.symm
      | cons entry between =>
          rcases List.cons.inj rest with ⟨rfl, _⟩
          exact first.truthful before after report between inEarlier

end IsChangelog

/-! ## Every message reports what it did -/

variable [IndexedObject α] {objects before after : List α} {object cached : α}

theorem truthful_new (absent : ∀ cached ∈ objects, index? cached ≠ index? object) :
    Truthful ⟨objects⟩ ⟨object, .new⟩ ⟨objects ++ [object]⟩ where
  after_eq := rfl
  action_ne_get := by simp
  absent_of_new _ cached cachedMem := identical_eq_false (absent cached cachedMem)
  present_of_change changed := by cases changed
  mem_of_ne_delete _ := by simp
  absent_of_delete deleted := by cases deleted

/-- A report of a change is truthful if the index stays. -/
theorem truthful_change {left : α} (distinct : Distinct ⟨before ++ cached :: after⟩)
    (sameIndex : index? left = index? cached) :
    Truthful ⟨before ++ cached :: after⟩ ⟨left, .change⟩ ⟨before ++ left :: after⟩ where
  after_eq := by
    have keeps : ∀ objects : List α, (∀ other ∈ objects, index? other ≠ index? cached) →
        objects.map (fun other => if identical other left then left else other) = objects := by
      intro objects others
      refine Eq.trans (List.map_congr_left ?_) (List.map_id objects)
      intro other otherMem
      rw [identical_eq_false (sameIndex ▸ others other otherMem), if_neg Bool.false_ne_true, id]
    rcases absent_of_distinct distinct with ⟨notBefore, notAfter⟩
    simp only [record, List.map_append, List.map_cons, keeps before notBefore, keeps after notAfter]
    rw [if_pos ((identical_iff cached left).mpr sameIndex.symm)]
  action_ne_get := by simp
  absent_of_new isNew := by cases isNew
  present_of_change _ := ⟨cached, by simp, (identical_iff cached left).mpr sameIndex.symm⟩
  mem_of_ne_delete _ := by simp
  absent_of_delete deleted := by cases deleted

/-- Where no object has the index, nothing is deleted. -/
theorem truthful_delete_absent (absent : ∀ cached ∈ objects, index? cached ≠ index? object) :
    Truthful ⟨objects⟩ ⟨object, .delete⟩ ⟨objects⟩ where
  after_eq := by
    have keeps : objects.filter (fun cached => !identical cached object) = objects := by
      rw [List.filter_eq_self]
      intro cached cachedMem
      rw [identical_eq_false (absent cached cachedMem), Bool.not_false]
    rw [record, keeps]
  action_ne_get := by simp
  absent_of_new isNew := by cases isNew
  present_of_change changed := by cases changed
  mem_of_ne_delete kept := absurd rfl kept
  absent_of_delete _ cached cachedMem := identical_eq_false (absent cached cachedMem)

/-- A report of a deletion is truthful if the indexes are distinct. -/
theorem truthful_delete_present (distinct : Distinct ⟨before ++ cached :: after⟩) :
    Truthful ⟨before ++ cached :: after⟩ ⟨cached, .delete⟩ ⟨before ++ after⟩ := by
  have others : ∀ other ∈ before ++ after, index? other ≠ index? cached := by
    rcases absent_of_distinct distinct with ⟨notBefore, notAfter⟩
    intro other otherMem
    exact (List.mem_append.mp otherMem).elim (notBefore other) (notAfter other)
  have gone := truthful_delete_absent others
  refine { gone with after_eq := ?_, absent_of_new := nofun, present_of_change := nofun }
  have itself : identical cached cached = true := (identical_iff cached cached).mpr rfl
  rw [gone.after_eq]
  simp only [record, List.filter_append, List.filter_cons, itself, Bool.not_true,
    if_neg Bool.false_ne_true]

/-- Every report about a cache with distinct indexes is truthful. -/
theorem truthful_apply {cache : Cache α} (distinct : cache.Distinct) {event : Event α}
    {report : Report α}
    (isReported : (cache.apply event.object event.action).1 = some report) :
    Truthful cache report (cache.apply event.object event.action).2 := by
  rcases cache with ⟨objects⟩
  rcases event with ⟨object, action⟩
  rcases absent_or_present (index? object) objects with
    absent | ⟨before, cached, after, rfl, absent, present⟩
  · rw [apply_of_absent action absent] at isReported ⊢
    cases action with
    | new => exact Option.some.inj isReported ▸ truthful_new absent
    | change => exact Option.some.inj isReported ▸ truthful_new absent
    | delete =>
        rw [← Option.some.inj isReported, evolve, Option.toList_none, List.append_nil]
        exact truthful_delete_absent absent
    | get => cases isReported
  · rw [apply_of_present after action absent present] at isReported ⊢
    cases action with
    | new =>
        exact Option.some.inj isReported ▸ truthful_change distinct (index?_updated cached object)
    | change =>
        exact Option.some.inj isReported ▸ truthful_change distinct (index?_updated cached object)
    | delete =>
        simp only [reported, succeed] at isReported ⊢
        split at isReported
        · rename_i stays
          rw [if_pos stays]
          exact Option.some.inj isReported ▸
            truthful_change distinct (index?_subtract cached object)
        · rename_i goes
          rw [if_neg goes]
          exact Option.some.inj isReported ▸ truthful_delete_present distinct
    | get => cases isReported

end BridgeView.Cache
