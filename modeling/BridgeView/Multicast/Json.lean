import BridgeView.Json
import BridgeView.Multicast.Table

/-!
# Multicast groups as data

The multicast database of a bridge in the data format, with every attribute by its name and
addresses in their written form.  An attribute that is not set is null.
-/

namespace BridgeView

/-- The membership in the data format. -/
def GroupEntry.toJson (entry : GroupEntry) : Json :=
  .object [("addr", .text entry.address.toText), ("flags", .number entry.flags.toNat),
    ("ifindex", .number entry.port.toNat), ("proto", .number entry.protocol.toNat),
    ("state", .number entry.state.toNat),
    ("timer", .ofNumber? (entry.timer?.map UInt32.toNat)),
    ("vid", .number entry.vlan.toNat)]

/-- The database in the data format. -/
def GroupTable.toJson (table : GroupTable) : Json :=
  .object [("entries", .array (table.entries.map GroupEntry.toJson)),
    ("family", .ofNumber? (table.family?.map UInt8.toNat)),
    ("ifindex", .ofNumber? (table.bridge?.map UInt32.toNat)),
    ("router_ports", .array (table.routerPorts.map fun port => .number port.toNat))]

end BridgeView
