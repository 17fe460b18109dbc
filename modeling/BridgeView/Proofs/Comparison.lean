import BridgeView.Proofs.Cache.Identity

/-!
# Comparison of cached objects

A comparison of two objects reports exactly the requested attributes in which they differ, and the
laws of comparisons follow from that (`ReportsDifferences`). Identity is the comparison by one of
them, the index, so that it is an equivalence which nothing but another index changes
(`IdentityLasts`).
-/

namespace BridgeView

open AttributeSet CacheObject

/-! ## Differences -/

/-- What a comparison reports, when two objects agree in all that it regards exactly if `Agree`
holds of them. -/
structure ReportsDifferences (α : Type) [CacheObject α] [FacetedObject α]
    (Agree : α → α → Prop) : Prop where
  holds_exact_iff : ∀ (left right : α) (requested : AttributeSet) (position : Nat),
    (CacheObject.compare left right requested .exact).holds position = true ↔
      requested.holds position = true ∧
        ∃ facet ∈ FacetedObject.facets, facet.position.val = position ∧ facet.Differs left right
  symmetric : ∀ (left right : α) (requested : AttributeSet),
    CacheObject.compare left right requested .exact
      = CacheObject.compare right left requested .exact
  nothing_iff : ∀ left right : α,
    CacheObject.compare left right all .exact = 0 ↔ Agree left right
  triangle : ∀ (first second third : α) (requested : AttributeSet),
    (CacheObject.compare first third requested .exact).Within
      (CacheObject.compare first second requested .exact
        ||| CacheObject.compare second third requested .exact)
  or_requested : ∀ (left right : α) (requested more : AttributeSet) (mode : Comparison),
    CacheObject.compare left right (requested ||| more) mode
      = CacheObject.compare left right requested mode ||| CacheObject.compare left right more mode
  loose_within : ∀ (left right : α) (requested : AttributeSet),
    (CacheObject.compare left right requested .loose).Within
      (CacheObject.compare left right requested .exact)
  identity_eq : ∀ (left right : α) (requested : AttributeSet),
    CacheObject.compare left right requested .identity
      = CacheObject.compare left right requested .exact &&& identity left

namespace FacetedObject

variable {α : Type} [CacheObject α] [FacetedObject α]

/-- A bit of a comparison is set if it is requested and its facet tells the objects apart. -/
theorem holds_exact_iff {left right : α} {requested : AttributeSet} {position : Nat} :
    (CacheObject.compare left right requested .exact).holds position = true ↔
      requested.holds position = true ∧
        ∃ facet ∈ facets, facet.position.val = position ∧ facet.Differs left right := by
  simp only [CacheObject.compare, holds_differing_iff, Facet.tellsApart_false_iff]

/-- An exact comparison of everything is zero if and only if every facet has the same value. -/
theorem exact_eq_zero_iff {left right : α} :
    CacheObject.compare left right all .exact = 0 ↔
      ∀ facet ∈ facets, facet.value? left = facet.value? right := by
  constructor
  · intro nothing facet isFacet
    by_contra values
    have reported : (CacheObject.compare left right all .exact).holds facet.position = true :=
      holds_exact_iff.mpr ⟨holds_all facet.position.isLt, facet, isFacet, rfl,
        Facet.differs_iff.mpr values⟩
    simp [nothing] at reported
  · intro agree
    apply eq_of_holds_iff
    intro position
    simp only [holds_exact_iff, Facet.differs_iff, holds_zero, Bool.false_eq_true, iff_false]
    rintro ⟨_, facet, isFacet, _, values⟩
    exact values (agree facet isFacet)

/-- Comparing reports the differences of the facets, for objects of any type that has them. -/
theorem reportsDifferences {Agree : α → α → Prop}
    (agree_iff : ∀ left right : α,
      (∀ facet ∈ facets, facet.value? left = facet.value? right) ↔ Agree left right) :
    ReportsDifferences α Agree where
  holds_exact_iff _ _ _ _ := holds_exact_iff
  symmetric left right requested := by
    apply eq_of_holds_iff
    intro position
    simp only [holds_exact_iff, Facet.differs_iff, ne_comm]
  nothing_iff left right := exact_eq_zero_iff.trans (agree_iff left right)
  triangle first second third requested := by
    intro position reported
    simp only [holds_exact_iff, Facet.differs_iff, holds_or, Bool.or_eq_true] at reported ⊢
    rcases reported with ⟨wanted, facet, isFacet, here, values⟩
    -- The second object cannot agree with both of the others.
    by_cases same : facet.value? first = facet.value? second
    · right
      rw [same] at values
      exact ⟨wanted, facet, isFacet, here, values⟩
    · left
      exact ⟨wanted, facet, isFacet, here, same⟩
  or_requested left right requested more mode := by
    apply eq_of_holds_iff
    intro position
    cases mode with
    | exact =>
        simp only [CacheObject.compare, holds_differing_iff, holds_or, Bool.or_eq_true,
          or_and_right]
    | identity =>
        simp only [CacheObject.compare, holds_differing_iff, holds_or, holds_and, Bool.or_eq_true,
          Bool.and_eq_true, or_and_right]
    | loose =>
        simp only [CacheObject.compare, holds_differing_iff, holds_or, Bool.or_eq_true,
          or_and_right]
  loose_within left right requested := by
    intro position reported
    simp only [CacheObject.compare, holds_differing_iff] at reported
    rcases reported with ⟨wanted, facet, isFacet, here, apart⟩
    exact holds_exact_iff.mpr ⟨wanted, facet, isFacet, here, apart.differs⟩
  identity_eq left right requested := by
    apply eq_of_holds_iff
    intro position
    simp only [CacheObject.compare, holds_differing_iff, holds_and, Bool.and_eq_true,
      and_right_comm]

end FacetedObject

/-- Ports agree in every facet if they are equal but for the mask of their flags. -/
theorem PortVlans.agree_iff (left right : PortVlans) :
    (∀ facet ∈ FacetedObject.facets, facet.value? left = facet.value? right) ↔
      { left with flagMask := right.flagMask } = right := by
  cases left
  cases right
  simp only [FacetedObject.facets, List.forall_mem_cons, Facet.value?_ofList_eq_iff]
  simp [Facet.plain, flagsFacet]

/-- Tables agree in every facet if they are equal. -/
theorem GroupTable.agree_iff (left right : GroupTable) :
    (∀ facet ∈ FacetedObject.facets, facet.value? left = facet.value? right) ↔ left = right := by
  cases left
  cases right
  simp only [FacetedObject.facets, List.forall_mem_cons, Facet.value?_ofList_eq_iff]
  simp [Facet.plain]

/-! ## Identity -/

/-- Identity is an equivalence, and what happens to an object leaves it what it was. -/
structure IdentityLasts (α : Type) [CacheObject α] (Sets : α → α → Prop) : Prop where
  equivalence : Equivalence fun left right : α => identical left right = true
  updated : ∀ cached newer other : α,
    identical (updated cached newer) other = identical cached other
  subtract : ∀ cached gone other : α,
    identical (subtract cached gone).object other = identical cached other
  sets : ∀ {before after : α}, Sets before after →
    ∀ other, identical after other = identical before other

/-- Where a setter leaves the index alone, an object stays identical to itself. -/
theorem IndexedObject.identityLasts {α : Type} [CacheObject α] [IndexedObject α]
    {Sets : α → α → Prop}
    (index?_sets : ∀ {before after : α}, Sets before after → index? after = index? before) :
    IdentityLasts α Sets := by
  have identical_congr : ∀ {before after : α}, index? after = index? before →
      ∀ other, identical after other = identical before other := by
    intro before after same other
    apply Bool.eq_iff_iff.mpr
    simp only [identical_iff, same]
  constructor
  · simp only [identical_iff]
    exact ⟨fun _ => rfl, Eq.symm, Eq.trans⟩
  · intro cached newer
    exact identical_congr (index?_updated cached newer)
  · intro cached gone
    exact identical_congr (index?_subtract cached gone)
  · intro before after set
    exact identical_congr (index?_sets set)

/-- An attribute of a port other than its index is set. -/
inductive PortVlans.Sets (port : PortVlans) : PortVlans → Prop
  | family (family : UInt8) : port.Sets { port with family? := some family }
  | vlan (vlan : UInt16) : port.Sets { port with vlan? := some vlan }
  | state (state : UInt8) : port.Sets { port with state? := some state }
  | last (last : UInt16) : port.Sets { port with last? := some last }
  | setFlags (flags : UInt16) : port.Sets (port.setFlags flags)
  | clearFlags (flags : UInt16) : port.Sets (port.clearFlags flags)
  | addEntry (entry : VlanEntry) : port.Sets (port.addEntry entry)

/-- An attribute of a table other than its index is set. -/
inductive GroupTable.Sets (table : GroupTable) : GroupTable → Prop
  | addEntry (entry : GroupEntry) : table.Sets (table.addEntry entry)

/-- Comparing two ports, or two tables, reports exactly the attributes in which they differ. Which
port or which bridge an object is about depends on the index alone, and neither a newer report nor a
deletion changes that, nor does any other attribute that is set. -/
theorem CacheObject.compares_bridgeObjects :
    ReportsDifferences PortVlans
        (fun left right => { left with flagMask := right.flagMask } = right) ∧
      ReportsDifferences GroupTable (fun left right => left = right) ∧
      IdentityLasts PortVlans PortVlans.Sets ∧
      IdentityLasts GroupTable GroupTable.Sets := by
  have portIndex : ∀ {before after : PortVlans}, before.Sets after →
      after.interface? = before.interface? := by
    intro before after set
    cases set <;> rfl
  have tableIndex : ∀ {before after : GroupTable}, before.Sets after →
      after.bridge? = before.bridge? := by
    intro before after set
    cases set
    rfl
  refine ⟨?_, ?_, ?_, ?_⟩
  · exact FacetedObject.reportsDifferences PortVlans.agree_iff
  · exact FacetedObject.reportsDifferences GroupTable.agree_iff
  · exact IndexedObject.identityLasts portIndex
  · exact IndexedObject.identityLasts tableIndex

end BridgeView
