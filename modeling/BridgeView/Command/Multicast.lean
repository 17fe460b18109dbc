import BridgeView.Command.Output
import BridgeView.Multicast.Request

/-!
# Multicast commands

Showing the multicast groups of bridges, adding a port to a group, and removing it.
-/

namespace BridgeView

/-- The membership that the arguments of a command name. -/
structure GroupArguments where
  /-- The bridge, by name or index. -/
  bridge : String
  /-- The port, by name or index. -/
  port : String
  address : String
  vlan? : Option UInt16 := none
  /-- Whether the membership is permanent. -/
  permanent : Bool := false
deriving DecidableEq, Repr, Inhabited

namespace MulticastCommand

/-- A membership in the data format. -/
def entryJson (interfaces : InterfaceTable) (entry : GroupEntry) : Json :=
  .object [("grp", .text entry.address.toText),
    ("port", .text (interfaces.nameOrIndex entry.port)), ("state", .text entry.stateName),
    ("timer", .ofNumber? (entry.timer?.map UInt32.toNat)), ("vid", .number entry.vlan.toNat)]

/-- The database of a bridge in the data format. -/
def tableJson (interfaces : InterfaceTable) (table : GroupTable) : Json :=
  .object [("dev", .text (interfaces.nameOrIndex (table.bridge?.getD 0))),
    ("groups", .array (table.entries.map (entryJson interfaces))),
    ("router_ports",
      .array (table.routerPorts.map fun port => .text (interfaces.nameOrIndex port)))]

/-- Shows the groups of every bridge, or of one. -/
def showTables (environment : Environment) (options : OutputOptions)
    (device? : Option String) : Outcome :=
  environment.showObjects options device? GroupTable.bridge? tableJson

/-- The bridge and the membership that arguments name: bridge, port and address are looked up
in this order. -/
def membership (environment : Environment) (arguments : GroupArguments) :
    Except Error (UInt32 × GroupEntry) := do
  let bridge ← environment.interfaces.resolve arguments.bridge
  let port ← environment.interfaces.resolve arguments.port
  let address ← GroupAddress.ofText arguments.address
  let entry := { GroupEntry.ofPort port address with vlan := arguments.vlan?.getD 0 }
  return (bridge, if arguments.permanent then entry.permanent else entry)

variable [Memory]

/-- Adds a port to a group. -/
def add (environment : Environment) (arguments : GroupArguments) : Outcome :=
  match membership environment arguments with
  | .error error => .failed error []
  | .ok (bridge, entry) => environment.exchange (GroupTable.add bridge entry 0)

/-- Removes a port from a group. -/
def delete (environment : Environment) (arguments : GroupArguments) : Outcome :=
  match membership environment arguments with
  | .error error => .failed error []
  | .ok (bridge, entry) => environment.exchange (GroupTable.delete bridge entry)

end MulticastCommand

end BridgeView
