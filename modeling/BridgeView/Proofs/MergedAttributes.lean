import BridgeView.Proofs.Cache.Run
import BridgeView.Proofs.KeyedList
import BridgeView.Proofs.Readers

/-!
# Attributes of a merged object

A merge of two identical objects should take over whatever the newer one has. The attributes that
are present should be those of either object, and a scalar the newer one wherever it is set. For
ports this is so. A table, however, keeps its own address family even if it has none, and takes
over what the newer table has if and only if that has no family or the same one
(`takesOver_bridgeObjects`).

Every table that was read from a message has the family of bridges. The difference shows in tables
that were put together without a family.
-/

namespace BridgeView

open CacheObject KeyedList

theorem AttributeSet.when_or (first second : Bool) (bit : AttributeSet) :
    when (first || second) bit = when first bit ||| when second bit := by
  cases first <;> cases second <;> simp [when]

namespace PortVlans

/-- The attributes of the merged port are those of either one, the newer ones first. -/
structure TakesOver (cached newer : PortVlans) : Prop where
  present : (updated cached newer).present = cached.present ||| newer.present
  interface : (updated cached newer).interface? = newer.interface?.or cached.interface?
  family : (updated cached newer).family? = newer.family?.or cached.family?
  vlan : (updated cached newer).vlan? = newer.vlan?.or cached.vlan?
  state : (updated cached newer).state? = newer.state?.or cached.state?
  last : (updated cached newer).last? = newer.last?.or cached.last?
  flags : (updated cached newer).flags? = newer.flags?.or cached.flags?

theorem takesOver {cached newer : PortVlans}
    (sameInterface : cached.interface? = newer.interface?) :
    cached.TakesOver newer := by
  have interface : (cached.merge newer).interface? = newer.interface?.or cached.interface? := by
    simp [merge, sameInterface]
  refine ⟨?_, interface, rfl, rfl, rfl, rfl, rfl⟩
  change (cached.merge newer).present = cached.present ||| newer.present
  rw [PortVlans.present, interface, entries_merge, isEmpty_putAll]
  simp only [merge, Option.isSome_or, Bool.not_and, AttributeSet.when_or, PortVlans.present]
  ac_rfl

end PortVlans

namespace GroupTable

/-- The attributes of the merged table are those of either one, the newer ones first. -/
structure TakesOver (cached newer : GroupTable) : Prop where
  present : (updated cached newer).present = cached.present ||| newer.present
  bridge : (updated cached newer).bridge? = newer.bridge?.or cached.bridge?
  family : (updated cached newer).family? = newer.family?.or cached.family?

theorem takesOver {cached newer : GroupTable} (sameBridge : cached.bridge? = newer.bridge?)
    (family : cached.family? = newer.family?.or cached.family?) : cached.TakesOver newer := by
  have bridge : (cached.merge newer).bridge? = newer.bridge?.or cached.bridge? := by
    simp [merge, sameBridge]
  refine ⟨?_, bridge, family⟩
  have isSome : cached.family?.isSome = (newer.family?.isSome || cached.family?.isSome) := by
    rw [← Option.isSome_or, ← family]
  change (cached.merge newer).present = cached.present ||| newer.present
  rw [GroupTable.present, bridge, entries_merge, routerPorts_merge, isEmpty_putAll, isEmpty_putAll]
  change _ ||| AttributeSet.when cached.family?.isSome _ ||| _ ||| _ = _
  rw [isSome]
  simp only [Option.isSome_or, Bool.not_and, AttributeSet.when_or, GroupTable.present]
  ac_rfl

theorem takesOver_iff {cached newer : GroupTable} (sameBridge : cached.bridge? = newer.bridge?) :
    cached.TakesOver newer ↔ newer.family? = none ∨ newer.family? = cached.family? := by
  constructor
  · intro takesOver
    have family : cached.family? = newer.family?.or cached.family? := takesOver.family
    rcases isNewest : newer.family? with _ | newest
    · exact .inl rfl
    · rw [isNewest] at family
      exact .inr family.symm
  · rintro (unset | same)
    · exact takesOver sameBridge (by rw [unset, Option.none_or])
    · exact takesOver sameBridge (by rw [same, Option.or_self])

end GroupTable

/-- A port takes over what an identical newer one has. A table does if and only if the newer one
has no address family, or the same. -/
theorem takesOver_bridgeObjects (port newerPort : PortVlans) (table newerTable : GroupTable) :
    (identical port newerPort = true → port.TakesOver newerPort) ∧
      (identical table newerTable = true →
        (table.TakesOver newerTable
          ↔ newerTable.family? = none ∨ newerTable.family? = table.family?)) := by
  constructor
  · intro isIdentical
    exact PortVlans.takesOver ((PortVlans.identical_iff port newerPort).mp isIdentical)
  · intro isIdentical
    exact GroupTable.takesOver_iff ((GroupTable.identical_iff table newerTable).mp isIdentical)

namespace GroupTable

/-- A table of bridge 4 that was put together. -/
def unread : GroupTable where
  bridge? := some 4

/-- A table of bridge 4 that was read. -/
def reported : GroupTable where
  bridge? := some 4
  family? := some 7

theorem parsed_reported : Cache.Parsed reported :=
  ⟨default, [7, 0, 0, 0, 4, 0, 0, 0], by decide +kernel⟩

end GroupTable

open GroupTable

/-- A port that was put together takes over what was read of it, and a table that was read keeps
what it has when it is merged with one that was put together. -/
theorem takesOver_unread :
    let port : PortVlans := { interface? := some 4, vlan? := some 10, state? := some 3 }
    let newer : PortVlans := { interface? := some 4, family? := some 7, vlan? := some 20 }
    (identical port newer = true ∧ port.TakesOver newer) ∧
      identical reported unread = true ∧ reported.TakesOver unread := by
  intro port newer
  have samePort : identical port newer = true := by decide
  have sameBridge : identical reported unread = true := by decide
  rcases takesOver_bridgeObjects port newer reported unread with ⟨ofPorts, ofTables⟩
  exact ⟨⟨samePort, ofPorts samePort⟩, sameBridge, (ofTables sameBridge).mpr (.inl rfl)⟩

/-- What was put together has no family, and has none after the merge with what was read. -/
theorem not_takesOver_reported :
    identical unread reported = true ∧ Cache.Parsed reported ∧ ¬unread.TakesOver reported := by
  refine ⟨by decide, parsed_reported, ?_⟩
  intro takesOver
  exact absurd takesOver.family (by decide)

end BridgeView
