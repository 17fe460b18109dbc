import BridgeView.Multicast.Table
import BridgeView.Registry
import BridgeView.Vlan.Port

/-!
# The objects of a bridge

The family of the two types that a bridge is made of, and the registry that names them.
-/

namespace BridgeView

/-- The types of objects that describe a bridge. -/
inductive BridgeKey where
  | vlans
  | groups
deriving DecidableEq, Repr, Inhabited

namespace BridgeKey

/-- The objects of a type. -/
abbrev Object : BridgeKey → Type
  | vlans => PortVlans
  | groups => GroupTable

/-- What the objects of a type do in a cache. -/
instance (key : BridgeKey) : CacheObject key.Object :=
  match key with
  | vlans => inferInstanceAs (CacheObject PortVlans)
  | groups => inferInstanceAs (CacheObject GroupTable)

end BridgeKey

/-- The objects of a bridge. -/
def bridgeObjects : CacheFamily where
  Key := BridgeKey
  Object := BridgeKey.Object

/-- The registry that knows both types of bridge objects. -/
def bridgeRegistry : Registry bridgeObjects :=
  .ofKeys [BridgeKey.vlans, BridgeKey.groups]

end BridgeView
