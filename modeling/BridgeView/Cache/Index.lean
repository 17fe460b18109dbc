import BridgeView.Cache
import BridgeView.Multicast.Table
import BridgeView.Vlan.Port

/-!
# Cached objects by index

A port and a bridge are interfaces, so that their cached objects can be found by the index
of the interface alone, without an object to compare with.
-/

namespace BridgeView

/-- The VLANs of a port, by its interface index. -/
def PortVlans.get? (cache : Cache PortVlans) (interface : UInt32) : Option PortVlans :=
  cache.find? (·.interface? == some interface)

/-- The memberships of a bridge, by its interface index. -/
def GroupTable.get? (cache : Cache GroupTable) (bridge : UInt32) : Option GroupTable :=
  cache.find? (·.bridge? == some bridge)

end BridgeView
