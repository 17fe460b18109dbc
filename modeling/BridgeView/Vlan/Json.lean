import BridgeView.Json
import BridgeView.Vlan.Port

/-!
# VLANs as data

The VLANs of a port in the data format, with every attribute by its name.  An attribute
that is not set is null.  Which flags were touched one by one is not part of the data.
-/

namespace BridgeView

/-- The entry in the data format. -/
def VlanEntry.toJson (entry : VlanEntry) : Json :=
  .object [("flags", .number entry.flags.toNat), ("range", .number entry.last.toNat),
    ("state", .ofNumber? (entry.state?.map UInt8.toNat)),
    ("vlan_id", .number entry.vlan.toNat)]

/-- The port in the data format. -/
def PortVlans.toJson (port : PortVlans) : Json :=
  .object [("entries", .array (port.entries.map VlanEntry.toJson)),
    ("family", .ofNumber? (port.family?.map UInt8.toNat)),
    ("flags", .ofNumber? (port.flags?.map UInt16.toNat)),
    ("ifindex", .ofNumber? (port.interface?.map UInt32.toNat)),
    ("range", .ofNumber? (port.last?.map UInt16.toNat)),
    ("state", .ofNumber? (port.state?.map UInt8.toNat)),
    ("vlan_id", .ofNumber? (port.vlan?.map UInt16.toNat))]

end BridgeView
