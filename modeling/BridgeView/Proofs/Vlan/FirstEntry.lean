import BridgeView.Proofs.Vlan.Coverage

/-!
# Attributes of the first entry

A port repeats the attributes of its first entry. Reading a message copies them from
the entry, and so does a deletion that leaves something. A merge does not: it
treats the entries and the repeated attributes as separate values, so the repeated
attributes are those of the first entry of the report, whatever entry comes first in
the cached port.

Whether a cached port is in order therefore depends on the last message about it
alone. If that was a merge, report and cached port have to agree on the first
entry (`Agrees`); in all other cases the port is in order (`mirrorsFirst_iff`).
-/

namespace BridgeView

open KeyedList

namespace PortVlans

/-- The repeated attributes are those of an entry. -/
structure Mirrors (port : PortVlans) (entry : VlanEntry) : Prop where
  vlan : port.vlan? = some entry.vlan
  flags : port.flags = entry.flags
  state : port.state? = entry.state?
  last : port.last = entry.last

/-- The repeated attributes are those of the first entry. -/
def MirrorsFirst (port : PortVlans) : Prop :=
  ∃ entry, port.entries.head? = some entry ∧ port.Mirrors entry

/-- A cached port and a newer report agree on the first entry: the report begins with the
VLAN that the port begins with, and the entry that it leaves for this VLAN has the
attributes with which it begins. A state that the report does not give stays the cached
one. -/
def Agrees (cached newer : PortVlans) : Prop :=
  ∃ lead latest, newer.entries.head? = some lead ∧
    cached.entries.head?.map VlanEntry.vlan = some lead.vlan ∧
      latest? VlanEntry.vlan lead.vlan newer.entries = some latest ∧
        latest.flags = lead.flags ∧ latest.last = lead.last ∧
          latest.state? = lead.state?.or cached.state?

/-! ## Copies of the first entry -/

/-- What is adopted are the attributes of the first VLAN. -/
theorem attributes_of_adoptFirst? {port adopted : PortVlans}
    (adopts : port.adoptFirst? = some adopted) :
    ∃ first, adopted.entries.head? = some first ∧ adopted.vlan? = some first.vlan ∧
      adopted.flags? = some first.flags ∧ adopted.state? = first.state? ∧
        adopted.last? = some first.last := by
  rw [adoptFirst?, Option.map_eq_some_iff] at adopts
  rcases adopts with ⟨first, isFirst, rfl⟩
  exact ⟨first, isFirst, rfl, rfl, rfl, rfl⟩

theorem mirrorsFirst_of_adoptFirst? {port adopted : PortVlans}
    (adopts : port.adoptFirst? = some adopted) : adopted.MirrorsFirst := by
  rcases attributes_of_adoptFirst? adopts with ⟨first, isFirst, vlan, flags, state, last⟩
  refine ⟨first, isFirst, vlan, ?_, state, ?_⟩
  · rw [PortVlans.flags, flags, Option.getD_some]
  · rw [PortVlans.last, last, Option.getD_some]

/-- What was read of a port: its entries, of which it has adopted the first. -/
theorem ofPayload_eq_some_iff {payload : Octets} {port : PortVlans} :
    ofPayload payload = .ok (some port) ↔
      ∃ header decoded entries, VlanHeader.ofOctets payload = .ok header ∧
        header.family = bridgeAddressFamily ∧
          table.decodeAfter VlanHeader.size payload = .ok decoded ∧
            (decoded.all entryKind).mapM VlanEntry.ofStream = .ok entries ∧
              adoptFirst? { interface? := some header.interface, family? := some header.family
                            entries := entries } = some port := by
  simp only [ofPayload, bind, Except.bind, pure, Except.pure]
  rcases VlanHeader.ofOctets payload with error | header
  · simp
  · by_cases bridge : header.family = bridgeAddressFamily
    · rcases table.decodeAfter VlanHeader.size payload with error | decoded
      · simp [bridge]
      · rcases entriesRead : (decoded.all entryKind).mapM VlanEntry.ofStream with error | entries
        · simp [bridge, entriesRead]
        · cases adopts : adoptFirst? { interface? := some header.interface
                                       family? := some header.family, entries := entries } with
          | none => simp [← bridge, entriesRead, adopts]
          | some adopted => simp [← bridge, entriesRead, adopts]
    · simp [bridge]

theorem adopts_of_parsed {adopted : PortVlans} (parsed : Cache.Parsed adopted) :
    ∃ port : PortVlans, port.adoptFirst? = some adopted := by
  rcases parsed with ⟨_, payload, isRead⟩
  rcases ofPayload_eq_some_iff.mp isRead with ⟨_, _, _, _, _, _, _, adopts⟩
  exact ⟨_, adopts⟩

theorem mirrorsFirst_of_parsed {port : PortVlans} (parsed : Cache.Parsed port) :
    port.MirrorsFirst := by
  rcases adopts_of_parsed parsed with ⟨_, adopts⟩
  exact mirrorsFirst_of_adoptFirst? adopts

/-- What stays of a port mirrors its first VLAN. -/
theorem mirrorsFirst_subtract {cached gone : PortVlans}
    (stays : (cached.subtract gone).stays = true) :
    (cached.subtract gone).object.MirrorsFirst := by
  cases named : gone.entries.isEmpty with
  | true =>
      rw [subtract, if_pos named] at stays
      cases stays
  | false =>
      have notEmpty : ¬gone.entries.isEmpty = true := by simp [named]
      simp only [subtract, if_neg notEmpty] at stays ⊢
      split at stays
      · rename_i adopted adopts
        exact mirrorsFirst_of_adoptFirst? adopts
      · cases stays

theorem MirrorsFirst.entries_ne_nil {port : PortVlans} (mirrors : port.MirrorsFirst) :
    port.entries ≠ [] := by
  rcases mirrors with ⟨first, isFirst, _⟩
  intro noEntries
  rw [noEntries] at isFirst
  cases isFirst

/-! ## Merges -/

variable {cached newer : PortVlans} {first lead : VlanEntry}

/-- After a merge, the first VLAN is the newer report about it, if there is one. -/
theorem head?_entries_merge (isFirst : cached.entries.head? = some first) :
    (cached.merge newer).entries.head? =
      some ((latest? VlanEntry.vlan first.vlan newer.entries).getD first) := by
  rcases List.head?_eq_some_iff.mp isFirst with ⟨rest, split⟩
  rw [entries_merge, split, head?_putAll]

theorem entries_merge_ne_nil (someEntry : cached.entries ≠ []) :
    (cached.merge newer).entries ≠ [] := by
  rcases List.exists_cons_of_ne_nil someEntry with ⟨first, rest, split⟩
  have isHead : (cached.merge newer).entries.head? = _ :=
    head?_entries_merge (by rw [split]; rfl : cached.entries.head? = some first)
  intro noEntries
  rw [noEntries] at isHead
  cases isHead

/-- After a merge with a port that has adopted its first entry, the repeated attributes are
the ones adopted, where a state that was not given stays the cached one. -/
theorem mirrors_merge_iff {port : PortVlans} (adopts : port.adoptFirst? = some newer)
    (isLead : newer.entries.head? = some lead) {entry : VlanEntry} :
    (cached.merge newer).Mirrors entry ↔
      entry.vlan = lead.vlan ∧ entry.flags = lead.flags ∧ entry.last = lead.last ∧
        entry.state? = lead.state?.or cached.state? := by
  rcases attributes_of_adoptFirst? adopts with ⟨first, isFirst, vlan, flags, state, last⟩
  rw [isLead, Option.some.injEq] at isFirst
  subst isFirst
  have mergedVlan : (cached.merge newer).vlan? = some lead.vlan := by simp [merge, vlan]
  have mergedFlags : (cached.merge newer).flags = lead.flags := by
    simp [merge, PortVlans.flags, flags]
  have mergedLast : (cached.merge newer).last = lead.last := by
    simp [merge, PortVlans.last, last]
  have mergedState : (cached.merge newer).state? = lead.state?.or cached.state? := by
    simp [merge, state]
  constructor
  · rintro ⟨sameVlan, sameFlags, sameState, sameLast⟩
    rw [mergedVlan, Option.some.injEq] at sameVlan
    exact ⟨sameVlan.symm, mergedFlags ▸ sameFlags.symm, mergedLast ▸ sameLast.symm,
      mergedState ▸ sameState.symm⟩
  · rintro ⟨sameVlan, sameFlags, sameLast, sameState⟩
    exact ⟨by rw [mergedVlan, sameVlan], by rw [mergedFlags, sameFlags],
      by rw [mergedState, sameState], by rw [mergedLast, sameLast]⟩

/-- A merge with a report that was read leaves the port in order if and only if the two
agree on the first entry. -/
theorem mirrorsFirst_merge_iff (someEntry : cached.entries ≠ []) (parsed : Cache.Parsed newer) :
    (cached.merge newer).MirrorsFirst ↔ Agrees cached newer := by
  rcases List.exists_cons_of_ne_nil someEntry with ⟨first, rest, split⟩
  have isFirst : cached.entries.head? = some first := by rw [split]; rfl
  rcases adopts_of_parsed parsed with ⟨port, adopts⟩
  constructor
  · rintro ⟨entry, isHead, mirrors⟩
    rcases attributes_of_adoptFirst? adopts with ⟨lead, isLead, _⟩
    rcases (mirrors_merge_iff adopts isLead).mp mirrors with ⟨vlan, flags, last, state⟩
    rw [head?_entries_merge isFirst, Option.some.injEq] at isHead
    cases isLatest : latest? VlanEntry.vlan first.vlan newer.entries with
    | none =>
        -- The report would have to begin with a VLAN that it does not name.
        rw [isLatest] at isHead
        have leadMem := List.mem_of_mem_head? isLead
        have otherVlan := latest?_eq_none_iff.mp isLatest lead leadMem
        rw [← isHead] at vlan
        exact absurd vlan.symm otherVlan
    | some latest =>
        rw [isLatest] at isHead
        have sameVlan : first.vlan = lead.vlan := by
          rw [← (mem_of_latest? isLatest).2, ← vlan, ← isHead]
          rfl
        rw [sameVlan] at isLatest
        refine ⟨lead, entry, isLead, by rw [isFirst, ← sameVlan]; rfl, isHead ▸ isLatest, flags,
          last, state⟩
  · rintro ⟨lead, latest, isLead, begins, isLatest, flags, last, state⟩
    rw [isFirst, Option.map_some, Option.some.injEq] at begins
    refine ⟨latest, ?_, (mirrors_merge_iff adopts isLead).mpr ⟨?_, flags, last, state⟩⟩
    · rw [head?_entries_merge isFirst, begins, isLatest, Option.getD_some]
    · exact (mem_of_latest? isLatest).2

/-! ## Runs -/

variable {left : PortVlans} {event : Event PortVlans}

theorem entries_ne_nil_of_succeed (someEntry : cached.entries ≠ [])
    (succeeded : Cache.succeed cached event = some left) : left.entries ≠ [] := by
  rcases Cache.succeed_cases succeeded with ⟨_, rfl⟩ | ⟨_, stays, rfl⟩ | ⟨_, rfl⟩
  · exact entries_merge_ne_nil someEntry
  · exact (mirrorsFirst_subtract stays).entries_ne_nil
  · exact someEntry

/-- After a message that changes it, a port is in order unless a report was merged that does
not agree with it. -/
theorem mirrorsFirst_succeed_iff (someEntry : cached.entries ≠ [])
    (parsed : Cache.Parsed event.object) (notGet : event.action ≠ .get)
    (succeeded : Cache.succeed cached event = some left) :
    left.MirrorsFirst ↔ (event.action ≠ .delete → Agrees cached event.object) := by
  rcases Cache.succeed_cases succeeded with
    ⟨merges, rfl⟩ | ⟨deletes, stays, rfl⟩ | ⟨asks, _⟩
  · have notDelete := Cache.ne_delete_of_merges merges
    have merged := mirrorsFirst_merge_iff someEntry parsed
    exact merged.trans ⟨fun agrees _ => agrees, fun agrees => agrees notDelete⟩
  · exact iff_of_true (mirrorsFirst_subtract stays) fun notDelete => absurd deletes notDelete
  · exact absurd asks notGet

/-- A cached port is in order if and only if the last message about it was not a merge with
a report that did not agree with what was cached before. -/
theorem mirrorsFirst_iff {steps : List (Cache.Step PortVlans)}
    (parsed : ∀ event : Event PortVlans, .message event ∈ steps → Cache.Parsed event.object)
    {port : PortVlans} (isCached : port ∈ (Cache.run steps).objects) :
    ∃ lineage : Cache.Lineage (Cache.history steps) port, port.MirrorsFirst ↔
      ∀ before last cached, lineage.since = before ++ [last] →
        before.foldlM Cache.succeed lineage.first.object = some cached →
          last.action ≠ .delete → Agrees cached last.object := by
  rcases Cache.exists_lineage steps isCached with ⟨lineage⟩
  refine ⟨lineage, ?_⟩
  have allParsed := Cache.parsed_of_mem_history parsed
  have firstMirrors := mirrorsFirst_of_parsed (allParsed lineage.first lineage.first_mem)
  have develops := lineage.develops
  -- The last message decides; without one the port is as it was read.
  rcases List.eq_nil_or_concat lineage.since with noneSince | ⟨before, last, split⟩
  · rw [noneSince] at develops
    have unchanged : lineage.first.object = port := Option.some.inj develops
    constructor
    · intro _ before last _ split
      rw [noneSince] at split
      simp at split
    · intro _
      exact unchanged ▸ firstMirrors
  · rw [List.concat_eq_append] at split
    rw [split] at develops
    rcases Cache.foldlM_succeed_concat.mp develops with ⟨cached, reached, succeeded⟩
    have someEntry : cached.entries ≠ [] :=
      Cache.holds_of_foldlM entries_ne_nil_of_succeed firstMirrors.entries_ne_nil reached
    rcases lineage.since_mem (split ▸ List.mem_append_right before List.mem_cons_self) with
      ⟨lastMem, notGet⟩
    rw [mirrorsFirst_succeed_iff someEntry (allParsed last lastMem) notGet succeeded]
    constructor
    · intro agrees before' last' cached' split' reached'
      rw [split] at split'
      rcases List.append_inj' split' rfl with ⟨sameBefore, sameLast⟩
      rw [List.singleton_inj] at sameLast
      rw [← sameBefore, reached, Option.some.injEq] at reached'
      rw [← sameLast, ← reached']
      exact agrees
    · intro agrees
      exact agrees before last cached split reached

/-- The port gets the range after its first VLAN alone, which agrees with what was cached. -/
theorem mirrorsFirst_iff_pairOfVlans :
    (∀ event : Event PortVlans, .message event ∈ [Cache.Step.message ⟨firstOfPair, .new⟩,
        .message ⟨pairOfVlans, .change⟩] → Cache.Parsed event.object) ∧
      pairOfVlans ∈ (Cache.run [.message ⟨firstOfPair, .new⟩,
        .message ⟨pairOfVlans, .change⟩]).objects ∧
      ∃ lineage : Cache.Lineage (Cache.history [.message ⟨firstOfPair, .new⟩,
          .message ⟨pairOfVlans, .change⟩]) pairOfVlans,
        pairOfVlans.MirrorsFirst ↔ ∀ before last cached, lineage.since = before ++ [last] →
          before.foldlM Cache.succeed lineage.first.object = some cached →
            last.action ≠ .delete → Agrees cached last.object := by
  have parsed : ∀ event : Event PortVlans, .message event ∈
      [Cache.Step.message ⟨firstOfPair, .new⟩, .message ⟨pairOfVlans, .change⟩] →
        Cache.Parsed event.object := by
    intro event eventMem
    simp only [List.mem_cons, Cache.Step.message.injEq, List.not_mem_nil, or_false] at eventMem
    rcases eventMem with rfl | rfl
    · exact parsed_firstOfPair
    · exact parsed_pairOfVlans
  have isCached : pairOfVlans ∈ (Cache.run [.message ⟨firstOfPair, .new⟩,
      .message ⟨pairOfVlans, .change⟩]).objects := by decide
  exact ⟨parsed, isCached, mirrorsFirst_iff parsed isCached⟩

/-- What the message about a forwarding VLAN describes. -/
def forwardingVlan : PortVlans where
  interface? := some 4
  family? := some 7
  vlan? := some 10
  state? := some 3
  last? := some 0
  flags? := some 0
  entries := [{ vlan := 10, state? := some 3 }]

/-- The same port with another VLAN, whose state is not given. -/
def otherVlan : PortVlans where
  interface? := some 4
  family? := some 7
  vlan? := some 20
  last? := some 0
  flags? := some 0
  entries := [{ vlan := 20 }]

theorem parsed_forwardingVlan : Cache.Parsed forwardingVlan :=
  ⟨default, [7, 0, 0, 0, 4, 0, 0, 0, 20, 0, 1, 128, 8, 0, 1, 0, 0, 0, 10, 0,
    5, 0, 3, 0, 3, 0, 0, 0], by decide +kernel⟩

theorem parsed_otherVlan : Cache.Parsed otherVlan :=
  ⟨default, [7, 0, 0, 0, 4, 0, 0, 0, 12, 0, 1, 128, 8, 0, 1, 0, 0, 0, 20, 0], by decide +kernel⟩

/-- Two reports leave a port that repeats the number of its second VLAN and the state of its
first. -/
theorem not_mirrorsFirst_otherVlan :
    Cache.Parsed forwardingVlan ∧ Cache.Parsed otherVlan ∧
      ∃ port ∈ (Cache.run [.message ⟨forwardingVlan, .new⟩, .message ⟨otherVlan, .new⟩]).objects,
        port.entries = forwardingVlan.entries ++ otherVlan.entries ∧
          port.vlan? = otherVlan.vlan? ∧ port.state? = forwardingVlan.state? ∧
            ¬port.MirrorsFirst := by
  have cached : (Cache.run [.message ⟨forwardingVlan, .new⟩, .message ⟨otherVlan, .new⟩]).objects =
      [forwardingVlan.merge otherVlan] := by decide
  refine ⟨parsed_forwardingVlan, parsed_otherVlan, _, cached ▸ List.mem_cons_self, by decide,
    by decide, by decide, ?_⟩
  rintro ⟨entry, isFirst, mirrors⟩
  have sameVlan := mirrors.vlan
  cases isFirst
  exact absurd sameVlan (by decide)

end PortVlans

end BridgeView
