import BridgeView.Command.Output
import BridgeView.Vlan.Json
import BridgeView.Vlan.Request

/-!
# VLAN commands

Showing the VLANs of ports, adding VLANs to a port, removing them, and setting the VLAN to
which untagged frames belong.  VLANs are given as one number or as two with a dash between
them; usable numbers go from 1 to 4094.
-/

namespace BridgeView

/-- The VLANs an argument names: one, or a range. -/
structure VlanRange where
  first : UInt16
  /-- The last VLAN, when two numbers are given. -/
  last? : Option UInt16 := none
deriving DecidableEq, Repr, Inhabited

namespace VlanRange

/-- Reads one VLAN number, which may stand between blank characters. -/
def readNumber (text : List Char) : Except Error UInt16 :=
  match Text.numeral? 10 65535 (Text.trimBlank text) with
  | none => .error (.invalidInput (.vlanNumber (String.ofList text)))
  | some number =>
    if number = 0 ∨ 4094 < number then .error (.invalidInput .vlanOutOfRange)
    else .ok (UInt16.ofNat number)

/-- Reads one number, or two with a dash between them; the first dash counts. -/
def ofCharacters (text : List Char) : Except Error VlanRange := do
  let start := text.takeWhile (· != '-')
  match text.drop start.length with
  | [] => return { first := ← readNumber start }
  | _ :: finish =>
    let first ← readNumber start
    let last ← readNumber finish
    if first ≤ last then return { first, last? := some last }
    else .error (.invalidInput .vlanRangeReversed)

/-- Reads the VLANs an argument names. -/
def ofText (text : String) : Except Error VlanRange :=
  ofCharacters text.toList

/-- The changes that ask for the VLANs with the given flags. -/
def changes (range : VlanRange) (flags : UInt16) : PortVlans :=
  let last := (range.last?.filter (range.first < ·)).getD 0
  { entries := [{ vlan := range.first, flags, last }] }

end VlanRange

namespace VlanCommand

/-- The VLANs of a port in the data format. -/
def portJson (interfaces : InterfaceTable) (port : PortVlans) : Json :=
  let interface := port.interface?.getD 0
  .object [("dev", .text (interfaces.nameOrIndex interface)),
    ("ifindex", .number interface.toNat), ("vlans", .array (port.entries.map VlanEntry.toJson))]

/-- Prints the VLANs of every port, or of one. -/
def showPorts (environment : Environment) (options : OutputOptions)
    (device? : Option String) : Outcome :=
  environment.showObjects options device? PortVlans.interface? portJson

/-- The port of a name or index, as the object of a change. -/
def port (environment : Environment) (device : String) : Except Error PortVlans := do
  let interface ← environment.interfaces.resolve device
  return { interface? := some interface }

/-- Changes the VLANs of a port over a new socket.  The VLANs are read first, and the port is
looked up when the socket is open. -/
def withPort (environment : Environment) (vlans device : String) (flags : UInt16)
    (use : PortVlans → PortVlans → Socket → Except Error Unit × Socket) : Outcome :=
  match VlanRange.ofText vlans with
  | .error error => .failed error []
  | .ok range =>
    environment.exchange fun socket =>
      match port environment device with
      | .error error => (.error error, socket)
      | .ok port => use port (range.changes flags) socket

variable [Memory]

/-- Adds VLANs to a port. -/
def add (environment : Environment) (vlans device : String) (portVlan untagged : Bool) :
    Outcome :=
  let flags := (if portVlan then VlanFlags.portVlan else 0)
    ||| (if untagged then VlanFlags.untagged else 0)
  withPort environment vlans device flags fun port changes => port.change changes 0

/-- Removes VLANs from a port. -/
def delete (environment : Environment) (vlans device : String) : Outcome :=
  withPort environment vlans device 0 fun port changes => port.delete changes

/-- Makes a VLAN the one to which untagged frames of the port belong. -/
def setPortVlan (environment : Environment) (vlan : UInt16) (device : String) : Outcome :=
  withPort environment (toString vlan) device VlanFlags.portVlan fun port changes =>
    port.change changes 0

end VlanCommand

end BridgeView
