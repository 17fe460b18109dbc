import BridgeView.Multicast.Table
import BridgeView.Vlan.Port
import Mathlib.Data.List.Nodup

/-!
# Facets of cached objects

Attributes are bits of a word, and what a comparison reports is a union of such bits. A facet is one
attribute as it is compared: its position, its value, which may be absent, and the test that tells
the values of two objects apart. `FacetedObject` ties the words of a type to its facets. What a
comparison reports, and what it does not, follows from that for all types alike, and so does which
objects are identical.
-/

namespace BridgeView

universe u

namespace AttributeSet

/-- Whether the attribute at a position is in the set. -/
def holds (set : AttributeSet) (position : Nat) : Bool :=
  set.toBitVec.getLsbD position

/-- The attribute at a position. -/
def single (position : Fin 64) : AttributeSet :=
  ⟨BitVec.twoPow 64 position⟩

/-- Every attribute of one set is in another. -/
def Within (inner outer : AttributeSet) : Prop :=
  ∀ position, inner.holds position = true → outer.holds position = true

theorem eq_of_holds_iff {left right : AttributeSet}
    (same : ∀ position, left.holds position = true ↔ right.holds position = true) :
    left = right := by
  apply UInt64.toBitVec_inj.mp
  apply BitVec.eq_of_getLsbD_eq
  intro position _
  exact Bool.eq_iff_iff.mpr (same position)

@[simp] theorem holds_zero (position : Nat) : holds 0 position = false := by
  simp [holds]

@[simp] theorem holds_or (left right : AttributeSet) (position : Nat) :
    (left ||| right).holds position = (left.holds position || right.holds position) := by
  simp [holds]

@[simp] theorem holds_and (left right : AttributeSet) (position : Nat) :
    (left &&& right).holds position = (left.holds position && right.holds position) := by
  simp [holds]

@[simp] theorem holds_when (condition : Bool) (set : AttributeSet) (position : Nat) :
    (when condition set).holds position = (condition && set.holds position) := by
  cases condition
  · simp [when]
  · simp [when]

theorem holds_all {position : Nat} (inside : position < 64) : all.holds position = true := by
  have full : all.toBitVec = BitVec.allOnes 64 := rfl
  simp only [holds, full, BitVec.getLsbD_allOnes, inside, decide_true]

theorem lt_of_holds {set : AttributeSet} {position : Nat} (held : set.holds position = true) :
    position < 64 :=
  BitVec.lt_of_getLsbD held

theorem holds_single (position : Fin 64) (other : Nat) :
    (single position).holds other = decide (position = other) := by
  simp [holds, single, BitVec.getLsbD_twoPow]

/-- A set meets a single attribute if it holds it. -/
theorem has_single (set : AttributeSet) (position : Fin 64) :
    set.has (single position) = set.holds position := by
  have selected : set &&& single position = when (set.holds position) (single position) := by
    apply eq_of_holds_iff
    intro other
    by_cases itself : position = other
    · simp [itself]
    · simp [holds_single, itself]
  have nonempty : single position ≠ 0 := by
    intro empty
    have itself := holds_single position position
    simp [empty] at itself
  cases held : set.holds position with
  | false => simp [has, selected, held, when]
  | true => simp [has, selected, held, when, nonempty]

/-- The union of the sets of several items. -/
def union {ι : Type u} (items : List ι) (set : ι → AttributeSet) : AttributeSet :=
  items.foldr (fun item rest => set item ||| rest) 0

theorem holds_union_iff {ι : Type u} {items : List ι} {set : ι → AttributeSet} {position : Nat} :
    (union items set).holds position = true ↔
      ∃ item ∈ items, (set item).holds position = true := by
  induction items with
  | nil => simp [union]
  | cons item later ih =>
      simp only [union] at ih
      simp [union, ih]

end AttributeSet

open AttributeSet CacheObject

/-! ## Facets -/

/-- An attribute of an object. -/
structure Facet (α : Type) where
  /-- Its position in sets of attributes. -/
  position : Fin 64
  {Value : Type}
  value? : α → Option Value
  /-- Whether a comparison, loose or not, tells the values of two objects apart. -/
  tells : Bool → α → α → Bool
  tells_iff : ∀ left right, ∀ leftValue ∈ value? left, ∀ rightValue ∈ value? right,
    tells false left right = true ↔ leftValue ≠ rightValue
  tells_of_loosely : ∀ left right, tells true left right = true → tells false left right = true

namespace Facet

variable {α : Type}

/-- The facet of a value that is there or not, and that a comparison tells apart if it differs. -/
def plain {Value : Type} [DecidableEq Value] (position : Fin 64) (value? : α → Option Value) :
    Facet α where
  position := position
  value? := value?
  tells _ left right := value? left != value? right
  tells_iff left right leftValue isLeft rightValue isRight := by
    simp [Option.mem_def.mp isLeft, Option.mem_def.mp isRight]
  tells_of_loosely _ _ told := told

/-- A list is absent when it is empty. -/
def ofList {β : Type} [DecidableEq β] (position : Fin 64) (list : α → List β) : Facet α where
  position := position
  value? object := if list object = [] then none else some (list object)
  tells _ left right := list left != list right
  tells_iff left right leftValue isLeft rightValue isRight := by
    simp only [Option.mem_def, Option.ite_none_left_eq_some, Option.some.injEq] at isLeft isRight
    simp [isLeft, isRight]
  tells_of_loosely _ _ told := told

/-- Only one of the objects has the attribute, or both have it with different values. -/
def Differs (facet : Facet α) (left right : α) : Prop :=
  (facet.value? left).isSome ≠ (facet.value? right).isSome ∨
    ∃ leftValue ∈ facet.value? left, ∃ rightValue ∈ facet.value? right, leftValue ≠ rightValue

/-- Only one of the objects has the attribute, or a comparison tells the values apart. -/
def TellsApart (facet : Facet α) (loose : Bool) (left right : α) : Prop :=
  (facet.value? left).isSome ≠ (facet.value? right).isSome ∨
    (facet.value? left).isSome = true ∧ facet.tells loose left right = true

variable {facet : Facet α} {left right : α}

theorem differs_iff : facet.Differs left right ↔ facet.value? left ≠ facet.value? right := by
  unfold Differs
  cases facet.value? left <;> cases facet.value? right <;> simp

/-- A strict comparison tells apart whatever differs. -/
theorem tellsApart_false_iff : facet.TellsApart false left right ↔ facet.Differs left right := by
  unfold TellsApart Differs
  cases isLeft : facet.value? left with
  | none => simp
  | some leftValue =>
      cases isRight : facet.value? right with
      | none => simp
      | some rightValue => simp [facet.tells_iff left right leftValue isLeft rightValue isRight]

theorem TellsApart.differs {loose : Bool} (apart : facet.TellsApart loose left right) :
    facet.Differs left right := by
  apply tellsApart_false_iff.mp
  rcases apart with presence | ⟨hasLeft, told⟩
  · exact .inl presence
  · cases loose with
    | false => exact .inr ⟨hasLeft, told⟩
    | true => exact .inr ⟨hasLeft, facet.tells_of_loosely left right told⟩

theorem value?_ofList_eq_iff {β : Type} [DecidableEq β] {position : Fin 64} {list : α → List β} :
    (ofList position list).value? left = (ofList position list).value? right ↔
      list left = list right := by
  cases isLeft : list left <;> cases isRight : list right <;> simp [ofList, isLeft, isRight]

theorem isSome_value?_ofList {β : Type} [DecidableEq β] (position : Fin 64) (list : α → List β)
    (object : α) : ((ofList position list).value? object).isSome = !(list object).isEmpty := by
  cases isList : list object <;> simp [ofList, isList]

end Facet

/-! ## Comparison by facets -/

/-- Objects that are compared facet by facet. -/
class FacetedObject (α : Type) [CacheObject α] where
  facets : List (Facet α)
  distinct : (facets.map Facet.position).Nodup
  present_eq : ∀ object : α, present object =
    union facets fun facet => when (facet.value? object).isSome (single facet.position)
  differing_eq : ∀ (left right : α) (requested : AttributeSet) (loose : Bool),
    differing left right requested loose =
      union facets fun facet =>
        difference requested (present left) (present right) (single facet.position)
          (facet.tells loose left right)

namespace FacetedObject

variable {α : Type} [CacheObject α] [FacetedObject α]

theorem eq_of_position_eq {facet other : Facet α} (isFacet : facet ∈ facets)
    (isOther : other ∈ facets) (same : other.position = facet.position) : other = facet :=
  List.inj_on_of_nodup_map distinct isOther isFacet same

/-- An object has the attributes whose facets have a value. -/
theorem holds_present (object : α) {facet : Facet α} (isFacet : facet ∈ facets) :
    (present object).holds facet.position = (facet.value? object).isSome := by
  apply Bool.eq_iff_iff.mpr
  simp only [present_eq, holds_union_iff, holds_when, holds_single, Bool.and_eq_true,
    decide_eq_true_eq, Fin.val_inj]
  constructor
  · rintro ⟨other, isOther, has, samePosition⟩
    rwa [← eq_of_position_eq isFacet isOther samePosition]
  · intro has
    exact ⟨facet, isFacet, has, rfl⟩

/-- A comparison sets the bits of the requested facets that tell the objects apart. -/
theorem holds_differing_iff {left right : α} {requested : AttributeSet} {loose : Bool}
    {position : Nat} :
    (differing left right requested loose).holds position = true ↔
      requested.holds position = true ∧
        ∃ facet ∈ facets, facet.position.val = position ∧ facet.TellsApart loose left right := by
  have ofFacet : ∀ facet ∈ facets, ((difference requested (present left) (present right)
      (single facet.position) (facet.tells loose left right)).holds position = true ↔
        requested.holds position = true ∧ facet.position.val = position ∧
          facet.TellsApart loose left right) := by
    intro facet isFacet
    by_cases here : facet.position.val = position
    · subst here
      simp [difference, has_single, holds_single, holds_present _ isFacet, Facet.TellsApart]
    · simp [difference, holds_single, here]
  simp only [differing_eq, holds_union_iff]
  constructor
  · rintro ⟨facet, isFacet, held⟩
    rcases (ofFacet facet isFacet).mp held with ⟨wanted, found⟩
    exact ⟨wanted, facet, isFacet, found⟩
  · rintro ⟨wanted, facet, isFacet, found⟩
    exact ⟨facet, isFacet, (ofFacet facet isFacet).mpr ⟨wanted, found⟩⟩

/-- When one attribute is requested, nothing is reported unless that one is told apart. -/
theorem differing_single_eq_zero_iff {left right : α} {loose : Bool} {facet : Facet α}
    (isFacet : facet ∈ facets) :
    differing left right (single facet.position) loose = 0 ↔
      ¬facet.TellsApart loose left right := by
  constructor
  · intro nothing apart
    have reported : (differing left right (single facet.position) loose).holds facet.position
        = true := by
      apply holds_differing_iff.mpr
      exact ⟨by simp [holds_single], facet, isFacet, rfl, apart⟩
    simp [nothing] at reported
  · intro alike
    apply eq_of_holds_iff
    intro position
    simp only [holds_differing_iff, holds_single, decide_eq_true_eq, holds_zero,
      Bool.false_eq_true, iff_false]
    rintro ⟨here, other, isOther, there, apart⟩
    -- No other attribute has the requested position.
    have same := eq_of_position_eq isFacet isOther (Fin.val_inj.mp (there.trans here.symm))
    exact alike (same ▸ apart)

/-- Objects that one attribute identifies are identical if they agree in it. -/
theorem identical_iff {left right : α} {facet : Facet α} (isFacet : facet ∈ facets)
    (identifies : identity left = single facet.position) :
    identical left right = true ↔ facet.value? left = facet.value? right := by
  have requested : all &&& single facet.position = single facet.position := by
    apply eq_of_holds_iff
    intro position
    simp only [holds_and, Bool.and_eq_true, and_iff_right_iff_imp]
    intro held
    exact holds_all (lt_of_holds held)
  simp only [identical, CacheObject.compare, identifies, requested, beq_iff_eq,
    differing_single_eq_zero_iff isFacet, Facet.tellsApart_false_iff, Facet.differs_iff,
    Classical.not_not]

end FacetedObject

namespace PortVlans

/-- The flags of a port. Loosely, only those are compared that the right side has touched. -/
def flagsFacet : Facet PortVlans where
  position := 5
  value? := flags?
  tells loose left right :=
    flagsDiffer left.flags right.flags (if loose then some right.flagMask else none)
  tells_iff left right leftFlags isLeft rightFlags isRight := by
    simp [flagsDiffer, flags, Option.mem_def.mp isLeft, Option.mem_def.mp isRight]
  tells_of_loosely left right told := by
    simp only [flagsDiffer, if_true, bne_iff_ne] at told
    simp only [flagsDiffer, Bool.false_eq_true, if_false, bne_iff_ne]
    intro same
    simp [same] at told

/-- The attributes of a port, with the place of each in a set. -/
instance : FacetedObject PortVlans where
  facets := [.plain 0 interface?, .plain 1 family?, .plain 2 vlan?, .plain 3 state?,
    .plain 4 last?, flagsFacet, .ofList 6 entries]
  distinct := by decide
  present_eq port := by
    simp only [union, List.foldr_cons, List.foldr_nil, UInt64.or_zero, ← UInt64.or_assoc,
      Facet.isSome_value?_ofList]
    rfl
  differing_eq left right requested loose := by
    simp only [union, List.foldr_cons, List.foldr_nil, UInt64.or_zero, ← UInt64.or_assoc]
    rfl

end PortVlans

namespace GroupTable

/-- The attributes of a table, with the place of each in a set. -/
instance : FacetedObject GroupTable where
  facets := [.plain 0 bridge?, .plain 1 family?, .ofList 2 entries, .ofList 3 routerPorts]
  distinct := by decide
  present_eq table := by
    simp only [union, List.foldr_cons, List.foldr_nil, UInt64.or_zero, ← UInt64.or_assoc,
      Facet.isSome_value?_ofList]
    rfl
  differing_eq left right requested loose := by
    simp only [union, List.foldr_cons, List.foldr_nil, UInt64.or_zero, ← UInt64.or_assoc]
    rfl

end GroupTable

end BridgeView
