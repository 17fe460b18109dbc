import BridgeView.Proofs.Cache.Run
import BridgeView.Proofs.KeyedList

/-!
# VLANs covered by a cached port

A port covers the VLANs that its entries span. A deletion should take exactly the
VLANs it names from a cached port, and a newer report should add exactly those it
names. Neither holds for every way in which the spans of cached and reported
entries overlap, because both go by the VLAN an entry starts with.

A deletion drops an entry whole if it names the first VLAN of the entry, and keeps it
whole otherwise. It is exact if and only if it respects the entries: one that starts
with a deleted VLAN holds nothing that has to stay, and any other one holds nothing
that is deleted (`deletesExactly_iff`).

A newer report overwrites the entry that starts with the same VLAN. What it can lose
are the VLANs past the end of the newest entry with that start; it never invents
one. It is exact if and only if entries that survive the merge span all of
those (`mergesExactly_iff`).
-/

namespace BridgeView

open KeyedList

namespace VlanEntry

/-- The last VLAN that the entry spans. -/
def final (entry : VlanEntry) : UInt16 :=
  max entry.last entry.vlan

/-- A range covers the VLANs from its first to its last one. -/
theorem covers_iff_final {entry : VlanEntry} {vlan : UInt16} :
    entry.covers vlan = true ↔ entry.vlan ≤ vlan ∧ vlan ≤ entry.final :=
  covers_iff

theorem vlan_le_final (entry : VlanEntry) : entry.vlan ≤ entry.final :=
  (covers_iff_final.mp entry.covers_vlan).2

end VlanEntry

namespace PortVlans

/-! ## Deletions -/

/-- The deletion takes exactly its VLANs from the cached port, which is reported as
changed, or removed and reported as deleted once no VLAN is left. -/
structure DeletesExactly (cache : Cache PortVlans) (cached gone : PortVlans) : Prop where
  leaves : (∃ vlan, cached.covers vlan = true ∧ gone.covers vlan = false) →
    ∃ left, (cache.apply gone .delete).1 = some ⟨left, .change⟩ ∧
      (cache.apply gone .delete).2.lookup gone = some left ∧
        ∀ vlan, left.covers vlan = true ↔ cached.covers vlan = true ∧ gone.covers vlan = false
  removes : (∀ vlan, cached.covers vlan = true → gone.covers vlan = true) →
    (cache.apply gone .delete).1 = some ⟨cached, .delete⟩ ∧
      (cache.apply gone .delete).2.lookup gone = none

/-- The deletion divides no entry of the cached port. -/
structure RespectsEntries (cached gone : PortVlans) : Prop where
  dropped : ∀ entry ∈ cached.entries, gone.covers entry.vlan = true →
    ∀ vlan, entry.covers vlan = true → gone.covers vlan = true ∨
      ∃ other ∈ cached.entries, gone.covers other.vlan = false ∧ other.covers vlan = true
  kept : ∀ entry ∈ cached.entries, gone.covers entry.vlan = false →
    ∀ vlan, entry.covers vlan = true → gone.covers vlan = false

/-- Where a message names VLANs, what stays are the ranges whose first VLAN it does not cover. -/
theorem subtract_of_named {cached gone : PortVlans} (named : gone.entries ≠ []) :
    (cached.subtract gone).object.entries =
        cached.entries.filter (fun entry => !gone.covers entry.vlan) ∧
      ((cached.subtract gone).stays = true ↔
        cached.entries.filter (fun entry => !gone.covers entry.vlan) ≠ []) := by
  have someEntry : gone.entries.isEmpty = false := by
    simpa using named
  simp only [subtract, someEntry, Bool.false_eq_true, if_false, adoptFirst?]
  cases cached.entries.filter fun entry => !gone.covers entry.vlan with
  | nil => simp
  | cons first rest => simp

theorem entries_ne_nil_of_stays {cached gone : PortVlans}
    (stays : (cached.subtract gone).stays = true) : gone.entries ≠ [] := by
  intro noEntries
  rw [subtract, noEntries] at stays
  cases stays

theorem mem_entries_subtract {cached gone : PortVlans} (named : gone.entries ≠ [])
    {entry : VlanEntry} :
    entry ∈ (cached.subtract gone).object.entries ↔
      entry ∈ cached.entries ∧ gone.covers entry.vlan = false := by
  rw [(subtract_of_named named).1, List.mem_filter]
  simp

theorem stays_subtract_iff {cached gone : PortVlans} (named : gone.entries ≠ []) :
    (cached.subtract gone).stays = true ↔
      ∃ entry ∈ cached.entries, gone.covers entry.vlan = false := by
  rw [(subtract_of_named named).2, ← (subtract_of_named named).1]
  constructor
  · intro nonempty
    rcases List.exists_mem_of_ne_nil _ nonempty with ⟨entry, entryMem⟩
    exact ⟨entry, (mem_entries_subtract named).mp entryMem⟩
  · rintro ⟨entry, entryMem⟩
    exact List.ne_nil_of_mem ((mem_entries_subtract named).mpr entryMem)

/-- What a deletion leaves are the VLANs of the entries that start outside of it. -/
theorem covers_subtract_iff {cached gone : PortVlans} (named : gone.entries ≠ [])
    {vlan : UInt16} :
    (cached.subtract gone).object.covers vlan = true ↔
      ∃ entry ∈ cached.entries, gone.covers entry.vlan = false ∧ entry.covers vlan = true := by
  rw [covers_iff]
  apply exists_congr
  intro entry
  rw [mem_entries_subtract named, and_assoc]

/-- The coverage is right exactly when no entry is divided. -/
theorem covers_subtract_exact_iff {cached gone : PortVlans} (named : gone.entries ≠ []) :
    (∀ vlan, (cached.subtract gone).object.covers vlan = true ↔
        cached.covers vlan = true ∧ gone.covers vlan = false) ↔
      RespectsEntries cached gone := by
  constructor
  · intro exact
    constructor
    · intro entry entryMem _ vlan covered
      cases deleted : gone.covers vlan with
      | true => exact Or.inl rfl
      | false =>
          right
          have portCovers : cached.covers vlan = true := covers_iff.mpr ⟨entry, entryMem, covered⟩
          exact (covers_subtract_iff named).mp ((exact vlan).mpr ⟨portCovers, deleted⟩)
    · intro entry entryMem starts vlan covered
      have left := (covers_subtract_iff named).mpr ⟨entry, entryMem, starts, covered⟩
      exact ((exact vlan).mp left).2
  · intro respects vlan
    rw [covers_subtract_iff named, covers_iff]
    constructor
    · rintro ⟨entry, entryMem, starts, covered⟩
      exact ⟨⟨entry, entryMem, covered⟩, respects.kept entry entryMem starts vlan covered⟩
    · rintro ⟨⟨entry, entryMem, covered⟩, stays⟩
      cases starts : gone.covers entry.vlan with
      | false => exact ⟨entry, entryMem, starts, covered⟩
      | true =>
          rcases respects.dropped entry entryMem starts vlan covered with deleted | other
          · rw [stays] at deleted
            cases deleted
          · exact other

variable {cached gone newer : PortVlans} (steps : List (Cache.Step PortVlans))

/-- A deletion that leaves something is reported as a change, and what is left is cached. -/
theorem apply_delete_of_stays (isCached : (Cache.run steps).lookup gone = some cached)
    (stays : (cached.subtract gone).stays = true) :
    ((Cache.run steps).apply gone .delete).1 =
        some ⟨(cached.subtract gone).object, .change⟩ ∧
      ((Cache.run steps).apply gone .delete).2.lookup gone =
        some (cached.subtract gone).object := by
  rcases Cache.lookup_apply_run steps isCached .delete with ⟨report, left⟩
  rw [report, left]
  exact ⟨if_pos stays, if_pos stays⟩

/-- A deletion that leaves nothing is reported as such, and nothing is cached. -/
theorem apply_delete_of_goes (isCached : (Cache.run steps).lookup gone = some cached)
    (goes : (cached.subtract gone).stays = false) :
    ((Cache.run steps).apply gone .delete).1 = some ⟨cached, .delete⟩ ∧
      ((Cache.run steps).apply gone .delete).2.lookup gone = none := by
  have notStays : ¬(cached.subtract gone).stays = true := Bool.eq_false_iff.mp goes
  rcases Cache.lookup_apply_run steps isCached .delete with ⟨report, left⟩
  rw [report, left]
  exact ⟨if_neg notStays, if_neg notStays⟩

/-- A deletion takes exactly its VLANs from a cached port if and only if it divides none
of the port's entries. -/
theorem deletesExactly_iff (isCached : (Cache.run steps).lookup gone = some cached)
    (named : gone.entries ≠ []) :
    DeletesExactly (Cache.run steps) cached gone ↔ RespectsEntries cached gone := by
  rw [← covers_subtract_exact_iff named]
  constructor
  · -- The port that is reported is the remainder, so what is promised of one holds of the other.
    intro exact vlan
    cases stays : (cached.subtract gone).stays with
    | true =>
        rcases (stays_subtract_iff named).mp stays with ⟨entry, entryMem, starts⟩
        have remains : cached.covers entry.vlan = true :=
          covers_iff.mpr ⟨entry, entryMem, entry.covers_vlan⟩
        rcases exact.leaves ⟨entry.vlan, remains, starts⟩ with ⟨left, report, _, coverage⟩
        rw [(apply_delete_of_stays steps isCached stays).1, Option.some.injEq,
          Report.mk.injEq] at report
        rw [report.1]
        exact coverage vlan
    | false =>
        constructor
        · intro covered
          rcases (covers_subtract_iff named).mp covered with ⟨entry, entryMem, starts, _⟩
          rw [(stays_subtract_iff named).mpr ⟨entry, entryMem, starts⟩] at stays
          cases stays
        · intro remains
          rcases exact.leaves ⟨vlan, remains⟩ with ⟨left, report, _⟩
          rw [(apply_delete_of_goes steps isCached stays).1] at report
          cases report
  · intro exact
    constructor
    · rintro ⟨vlan, remains⟩
      rcases (covers_subtract_iff named).mp ((exact vlan).mpr remains) with
        ⟨entry, entryMem, starts, _⟩
      have stays := (stays_subtract_iff named).mpr ⟨entry, entryMem, starts⟩
      rcases apply_delete_of_stays steps isCached stays with ⟨report, left⟩
      exact ⟨_, report, left, exact⟩
    · intro allGone
      apply apply_delete_of_goes steps isCached
      rw [Bool.eq_false_iff]
      intro stays
      rcases (stays_subtract_iff named).mp stays with ⟨entry, entryMem, starts⟩
      have portCovers : cached.covers entry.vlan = true :=
        covers_iff.mpr ⟨entry, entryMem, entry.covers_vlan⟩
      rw [allGone entry.vlan portCovers] at starts
      cases starts

/-- A deletion of all the port has divides nothing. -/
theorem respectsEntries_self (port : PortVlans) : RespectsEntries port port := by
  constructor
  · intro entry entryMem _ vlan covered
    exact Or.inl (covers_iff.mpr ⟨entry, entryMem, covered⟩)
  · intro entry entryMem starts
    rw [covers_iff.mpr ⟨entry, entryMem, entry.covers_vlan⟩] at starts
    cases starts

/-- A port with the VLANs 10 and 11 as one range. -/
def pairOfVlans : PortVlans where
  interface? := some 4
  family? := some 7
  vlan? := some 10
  last? := some 11
  flags? := some 0
  entries := [{ vlan := 10, last := 11 }]

/-- The same port with the first of the two VLANs. -/
def firstOfPair : PortVlans where
  interface? := some 4
  family? := some 7
  vlan? := some 10
  last? := some 0
  flags? := some 0
  entries := [{ vlan := 10 }]

theorem parsed_pairOfVlans : Cache.Parsed pairOfVlans :=
  ⟨default, [7, 0, 0, 0, 4, 0, 0, 0, 20, 0, 1, 128, 8, 0, 1, 0, 0, 0, 10, 0,
    6, 0, 2, 0, 11, 0, 0, 0], by decide +kernel⟩

theorem parsed_firstOfPair : Cache.Parsed firstOfPair :=
  ⟨default, [7, 0, 0, 0, 4, 0, 0, 0, 12, 0, 1, 128, 8, 0, 1, 0, 0, 0, 10, 0], by decide +kernel⟩

/-- The pair of VLANs is deleted exactly. -/
theorem deletesExactly_pairOfVlans :
    (Cache.run [.message ⟨pairOfVlans, .new⟩]).lookup pairOfVlans = some pairOfVlans ∧
      pairOfVlans.entries ≠ [] ∧
        DeletesExactly (Cache.run [.message ⟨pairOfVlans, .new⟩]) pairOfVlans pairOfVlans := by
  refine ⟨by decide, by decide, ?_⟩
  exact (deletesExactly_iff _ (by decide) (by decide)).mpr (respectsEntries_self pairOfVlans)

/-- Deleting the first VLAN of the range takes the second one as well. -/
theorem not_deletesExactly_firstOfPair :
    Cache.Parsed pairOfVlans ∧ Cache.Parsed firstOfPair ∧ firstOfPair.entries ≠ [] ∧
      (Cache.run [.message ⟨pairOfVlans, .new⟩]).lookup firstOfPair = some pairOfVlans ∧
        ¬DeletesExactly (Cache.run [.message ⟨pairOfVlans, .new⟩]) pairOfVlans firstOfPair := by
  refine ⟨parsed_pairOfVlans, parsed_firstOfPair, by decide, by decide, ?_⟩
  intro exact
  have remains : pairOfVlans.covers 11 = true ∧ firstOfPair.covers 11 = false := by decide
  rcases exact.leaves ⟨11, remains⟩ with ⟨left, report, _⟩
  have removed : ((Cache.run [.message ⟨pairOfVlans, .new⟩]).apply firstOfPair .delete).1 =
      some ⟨pairOfVlans, .delete⟩ := by decide
  rw [removed] at report
  cases report

/-! ## Merges -/

/-- The newer report adds exactly its VLANs to the cached port, which is reported as
changed. -/
def MergesExactly (cache : Cache PortVlans) (cached newer : PortVlans) (action : Action) : Prop :=
  ∃ merged, (cache.apply newer action).1 = some ⟨merged, .change⟩ ∧
    (cache.apply newer action).2.lookup newer = some merged ∧
      ∀ vlan, merged.covers vlan = true ↔ cached.covers vlan = true ∨ newer.covers vlan = true

/-- Where an entry goes on past the end of the latest newer entry with the same start, the
VLANs past that end are spanned by survivors. -/
def KeepsTails (cached newer : PortVlans) : Prop :=
  ∀ entry, entry ∈ cached.entries ∨ entry ∈ newer.entries →
    ∀ latest, latest? VlanEntry.vlan entry.vlan newer.entries = some latest →
      ∀ vlan, latest.final < vlan → vlan ≤ entry.final →
        ∃ other, other ∈ survivors VlanEntry.vlan other.vlan newer.entries cached.entries ∧
          other.covers vlan = true

/-- A merge covers what the surviving ranges cover. -/
theorem covers_merge_iff {vlan : UInt16} :
    (cached.merge newer).covers vlan = true ↔
      ∃ entry, entry ∈ survivors VlanEntry.vlan entry.vlan newer.entries cached.entries ∧
        entry.covers vlan = true := by
  rw [covers_iff, entries_merge]
  apply exists_congr
  intro entry
  rw [mem_putAll_iff]

/-- A merge never invents a VLAN. -/
theorem covers_of_covers_merge {vlan : UInt16}
    (covered : (cached.merge newer).covers vlan = true) :
    cached.covers vlan = true ∨ newer.covers vlan = true := by
  rcases covers_merge_iff.mp covered with ⟨entry, survives, spans⟩
  rcases mem_of_mem_survivors survives with fresh | old
  · exact Or.inr (covers_iff.mpr ⟨entry, fresh, spans⟩)
  · exact Or.inl (covers_iff.mpr ⟨entry, old, spans⟩)

/-- The coverage is right exactly when no tail is lost. -/
theorem covers_merge_exact_iff :
    (∀ vlan, (cached.merge newer).covers vlan = true ↔
        cached.covers vlan = true ∨ newer.covers vlan = true) ↔
      KeepsTails cached newer := by
  have eitherCovers {entry : VlanEntry} {vlan : UInt16}
      (entryMem : entry ∈ cached.entries ∨ entry ∈ newer.entries)
      (spans : entry.covers vlan = true) :
      cached.covers vlan = true ∨ newer.covers vlan = true :=
    entryMem.imp (fun old => covers_iff.mpr ⟨entry, old, spans⟩)
      (fun fresh => covers_iff.mpr ⟨entry, fresh, spans⟩)
  constructor
  · intro exact entry entryMem latest isLatest vlan pastEnd upToEnd
    have sameStart := (mem_of_latest? isLatest).2
    have fromStart : entry.vlan ≤ vlan := by
      rw [← sameStart]
      exact UInt16.le_trans latest.vlan_le_final (UInt16.le_of_lt pastEnd)
    have spans : entry.covers vlan = true :=
      VlanEntry.covers_iff_final.mpr ⟨fromStart, upToEnd⟩
    exact covers_merge_iff.mp ((exact vlan).mpr (eitherCovers entryMem spans))
  · intro keeps vlan
    refine ⟨covers_of_covers_merge, ?_⟩
    intro covered
    have someEntry : ∃ entry, (entry ∈ cached.entries ∨ entry ∈ newer.entries) ∧
        entry.covers vlan = true := by
      rcases covered with old | fresh
      · rcases covers_iff.mp old with ⟨entry, entryMem, spans⟩
        exact ⟨entry, Or.inl entryMem, spans⟩
      · rcases covers_iff.mp fresh with ⟨entry, entryMem, spans⟩
        exact ⟨entry, Or.inr entryMem, spans⟩
    rcases someEntry with ⟨entry, entryMem, spans⟩
    rcases VlanEntry.covers_iff_final.mp spans with ⟨fromStart, upToEnd⟩
    apply covers_merge_iff.mpr
    cases isLatest : latest? VlanEntry.vlan entry.vlan newer.entries with
    | none =>
        -- Nothing in the report starts like the entry, so it is a cached one and stays.
        have old : entry ∈ cached.entries :=
          entryMem.resolve_right fun fresh => latest?_eq_none_iff.mp isLatest entry fresh rfl
        refine ⟨entry, ?_, spans⟩
        rw [survivors, isLatest]
        exact mem_withKey.mpr ⟨old, rfl⟩
    | some latest =>
        by_cases pastEnd : latest.final < vlan
        · exact keeps entry entryMem latest isLatest vlan pastEnd upToEnd
        · have sameStart := (mem_of_latest? isLatest).2
          refine ⟨latest, ?_, ?_⟩
          · exact mem_survivors_of_latest? cached.entries (sameStart ▸ isLatest)
          · apply VlanEntry.covers_iff_final.mpr
            exact ⟨by rw [sameStart]; exact fromStart, UInt16.not_lt.mp pastEnd⟩

/-- A newer report adds exactly its VLANs to a cached port if and only if no VLAN past the
end of an overwriting entry is lost. -/
theorem mergesExactly_iff {action : Action}
    (isCached : (Cache.run steps).lookup newer = some cached)
    (merges : action = .new ∨ action = .change) :
    MergesExactly (Cache.run steps) cached newer action ↔ KeepsTails cached newer := by
  have applied : ((Cache.run steps).apply newer action).1 =
        some ⟨cached.merge newer, .change⟩ ∧
      ((Cache.run steps).apply newer action).2.lookup newer = some (cached.merge newer) := by
    rcases merges with rfl | rfl
    · exact Cache.lookup_apply_run steps isCached .new
    · exact Cache.lookup_apply_run steps isCached .change
  rw [← covers_merge_exact_iff]
  constructor
  · rintro ⟨merged, report, _, coverage⟩
    rw [applied.1, Option.some.injEq, Report.mk.injEq] at report
    rw [report.1]
    exact coverage
  · intro exact
    exact ⟨cached.merge newer, applied.1, applied.2, exact⟩

/-- A report loses nothing if its entries reach at least as far as those they overwrite. -/
theorem keepsTails_of_final_le
    (reaches : ∀ entry, entry ∈ cached.entries ∨ entry ∈ newer.entries →
      ∀ latest, latest? VlanEntry.vlan entry.vlan newer.entries = some latest →
        entry.final ≤ latest.final) : KeepsTails cached newer := by
  intro entry entryMem latest isLatest vlan pastEnd upToEnd
  have farEnough := UInt16.le_trans upToEnd (reaches entry entryMem latest isLatest)
  exact absurd pastEnd (UInt16.not_lt.mpr farEnough)

/-- The pair of VLANs is merged exactly into its first one. -/
theorem mergesExactly_pairOfVlans :
    (Cache.run [.message ⟨firstOfPair, .new⟩]).lookup pairOfVlans = some firstOfPair ∧
      (Action.change = .new ∨ Action.change = .change) ∧
        MergesExactly (Cache.run [.message ⟨firstOfPair, .new⟩]) firstOfPair pairOfVlans
          .change := by
  refine ⟨by decide, by decide, ?_⟩
  apply (mergesExactly_iff _ (by decide) (by decide)).mpr
  apply keepsTails_of_final_le
  rintro entry (old | fresh) latest isLatest
  · rw [List.mem_singleton.mp old] at isLatest ⊢
    cases isLatest
    decide
  · rw [List.mem_singleton.mp fresh] at isLatest ⊢
    cases isLatest
    decide

/-- A report of the first VLAN of the range loses the second one. -/
theorem not_mergesExactly_firstOfPair :
    Cache.Parsed pairOfVlans ∧ Cache.Parsed firstOfPair ∧
      (Cache.run [.message ⟨pairOfVlans, .new⟩]).lookup firstOfPair = some pairOfVlans ∧
        ¬MergesExactly (Cache.run [.message ⟨pairOfVlans, .new⟩]) pairOfVlans firstOfPair
          .new := by
  refine ⟨parsed_pairOfVlans, parsed_firstOfPair, by decide, ?_⟩
  rintro ⟨merged, report, _, coverage⟩
  have replaced : ((Cache.run [.message ⟨pairOfVlans, .new⟩]).apply firstOfPair .new).1 =
      some ⟨firstOfPair, .change⟩ := by decide
  have lost : pairOfVlans.covers 11 = true ∧ firstOfPair.covers 11 = false := by decide
  rw [replaced, Option.some.injEq, Report.mk.injEq] at report
  rw [← report.1] at coverage
  rw [(coverage 11).mpr (Or.inl lost.1)] at lost
  cases lost.2

end PortVlans

end BridgeView
