import BridgeView.Proofs.Facets

/-!
# Identity of cached objects

Two objects are identical when the comparison of their identifying attributes finds
no difference. For the objects of a bridge this comes down to one number, the
index of the port or of the bridge, and neither a merge nor a partial deletion
changes it. `IndexedObject` collects these facts; what caches do with
objects is proved from them alone.
-/

namespace BridgeView

/-- Objects that the index of an interface identifies, whatever happens to them. -/
class IndexedObject (α : Type) [CacheObject α] where
  index? : α → Option UInt32
  identical_iff : ∀ left right : α,
    CacheObject.identical left right = true ↔ index? left = index? right
  index?_updated : ∀ cached newer : α, index? (CacheObject.updated cached newer) = index? cached
  index?_subtract : ∀ cached gone : α,
    index? (CacheObject.subtract cached gone).object = index? cached

namespace PortVlans

/-- Ports are identical if they have the same interface index. -/
theorem identical_iff (left right : PortVlans) :
    CacheObject.identical left right = true ↔ left.interface? = right.interface? := by
  have isFacet : Facet.plain 0 interface? ∈ FacetedObject.facets := by
    simp [FacetedObject.facets]
  exact FacetedObject.identical_iff isFacet rfl

theorem interface?_subtract (cached gone : PortVlans) :
    (cached.subtract gone).object.interface? = cached.interface? := by
  simp only [subtract, adoptFirst?]
  split
  · rfl
  · cases (cached.entries.filter fun entry => !gone.covers entry.vlan) <;> rfl

/-- Ports are told apart by the index of their interface. -/
instance : IndexedObject PortVlans where
  index? := interface?
  identical_iff := identical_iff
  index?_updated _ _ := rfl
  index?_subtract := interface?_subtract

end PortVlans

namespace GroupTable

theorem identical_iff (left right : GroupTable) :
    CacheObject.identical left right = true ↔ left.bridge? = right.bridge? := by
  have isFacet : Facet.plain 0 bridge? ∈ FacetedObject.facets := by
    simp [FacetedObject.facets]
  exact FacetedObject.identical_iff isFacet rfl

theorem bridge?_subtract (cached gone : GroupTable) :
    (cached.subtract gone).object.bridge? = cached.bridge? := by
  rw [subtract]
  split <;> rfl

/-- Tables are told apart by the index of their bridge. -/
instance : IndexedObject GroupTable where
  index? := bridge?
  identical_iff := identical_iff
  index?_updated _ _ := rfl
  index?_subtract := bridge?_subtract

end GroupTable

end BridgeView
