import BridgeView.Command.Arguments
import BridgeView.Command.Monitor
import BridgeView.Command.Multicast
import BridgeView.Command.Vlan

/-!
# Commands

The commands of the tool: what they are, how they are read from the arguments of a command
line, and what each of them does.  Output options may stand at three places: before the object
of a command, before its verb, and among its arguments, except where the value of another option
is due.  At each place an option may be given once.
-/

namespace BridgeView

/-- A command. -/
inductive Command where
  /-- Shows the VLANs of ports. -/
  | showVlans (device? : Option String)
  /-- Adds VLANs to a port. -/
  | addVlans (vlans device : String) (portVlan untagged : Bool)
  /-- Removes VLANs from a port. -/
  | deleteVlans (vlans device : String)
  /-- Sets the VLAN of untagged frames. -/
  | setPortVlan (vlan : UInt16) (device : String)
  /-- Shows the multicast groups of bridges. -/
  | showGroups (device? : Option String)
  /-- Adds a port to a group. -/
  | addGroup (arguments : GroupArguments)
  /-- Removes a port from a group. -/
  | deleteGroup (arguments : GroupArguments)
  /-- Follows changes. -/
  | monitor (choices : List Watched)
deriving DecidableEq, Repr, Inhabited

namespace Command

/-- Carries out a command. -/
def run [Memory] (environment : Environment) (options : OutputOptions) : Command → Outcome
  | showVlans device? => VlanCommand.showPorts environment options device?
  | addVlans vlans device portVlan untagged =>
    VlanCommand.add environment vlans device portVlan untagged
  | deleteVlans vlans device => VlanCommand.delete environment vlans device
  | setPortVlan vlan device => VlanCommand.setPortVlan environment vlan device
  | showGroups device? => MulticastCommand.showTables environment options device?
  | addGroup arguments => MulticastCommand.add environment arguments
  | deleteGroup arguments => MulticastCommand.delete environment arguments
  | monitor choices => MonitorCommand.run environment options choices

/-- The arguments of a command that shows objects. -/
def showForm : ArgumentForm := { options := ["dev"] }

/-- The arguments of the command that adds VLANs. -/
def addVlansForm : ArgumentForm :=
  { options := ["vid", "dev"], flags := ["pvid", "untagged"] }

/-- The arguments of the command that removes VLANs. -/
def deleteVlansForm : ArgumentForm := { options := ["vid", "dev"] }

/-- The arguments of the command that sets the VLAN of untagged frames. -/
def setPortVlanForm : ArgumentForm := { options := ["pvid", "dev"] }

/-- The arguments that name a membership. -/
def groupForm : ArgumentForm :=
  { options := ["dev", "port", "grp", "vid"], flags := ["permanent"] }

/-- Reads the device that a showing command may name. -/
def readDevice (arguments : List String) : Option (Option String) := do
  let read ← Arguments.readWordless showForm arguments
  return read.value? "dev"

/-- Reads a command about VLANs. -/
def readVlan : List String → Option Command
  | [] | ["--"] => some (showVlans none)
  | "show" :: rest | "list" :: rest | "ls" :: rest => do
    return showVlans (← readDevice rest)
  | "add" :: rest => do
    let read ← Arguments.readWordless addVlansForm rest
    return addVlans (← read.value? "vid") (← read.value? "dev") (read.has "pvid")
      (read.has "untagged")
  | "del" :: rest | "delete" :: rest => do
    let read ← Arguments.readWordless deleteVlansForm rest
    return deleteVlans (← read.value? "vid") (← read.value? "dev")
  | "set" :: rest => do
    let read ← Arguments.readWordless setPortVlanForm rest
    return setPortVlan (← ← read.number? "pvid") (← read.value? "dev")
  | _ => none

/-- Reads the arguments that name a membership. -/
def readGroup (arguments : List String) : Option GroupArguments := do
  let read ← Arguments.readWordless groupForm arguments
  return { bridge := ← read.value? "dev", port := ← read.value? "port"
           address := ← read.value? "grp", vlan? := ← read.number? "vid"
           permanent := read.has "permanent" }

/-- Reads a command about multicast groups. -/
def readMulticast : List String → Option Command
  | [] | ["--"] => some (showGroups none)
  | "show" :: rest | "list" :: rest | "ls" :: rest => do
    return showGroups (← readDevice rest)
  | "add" :: rest => do return addGroup (← readGroup rest)
  | "del" :: rest | "delete" :: rest => do return deleteGroup (← readGroup rest)
  | _ => none

/-- Reads what is to be monitored. -/
def readWatched : String → Option Watched
  | "vlan" => some .vlans
  | "mdb" => some .groups
  | "all" => some .all
  | _ => none

/-- Reads the command to monitor; without a choice everything is followed. -/
def readMonitor (arguments : List String) : Option Command := do
  let read ← Arguments.read {} arguments
  let choices ← read.words.mapM readWatched
  return monitor (if choices.isEmpty then [.all] else choices)

/-- Reads a command without output options. -/
def read : List String → Option Command
  | "vlan" :: rest => readVlan rest
  | "mdb" :: rest => readMulticast rest
  | "monitor" :: rest => readMonitor rest
  | _ => none

/-- The output option that a letter stands for. -/
def optionOfLetter : Char → Option String
  | 'j' => some "json"
  | 'p' => some "pretty"
  | 'd' => some "details"
  | 'n' => some "numeric"
  | 'v' => some "verbose"
  | _ => none

/-- The output options an argument gives, if it gives nothing else. -/
def optionsOf (argument : String) : Option (List String) :=
  match argument.toList with
  | ['-', '-'] => none
  | '-' :: '-' :: name =>
    let name := String.ofList name
    if ["json", "pretty", "details", "numeric", "verbose"].contains name then some [name]
    else none
  | '-' :: letter :: letters => (letter :: letters).mapM optionOfLetter
  | _ => none

/-- The names of the output options at the front of a line, and the line from the first other
argument on. -/
def leadingOptions : List String → List String × List String
  | [] => ([], [])
  | argument :: rest =>
    match optionsOf argument with
    | some given =>
      let (names, line) := leadingOptions rest
      (given ++ names, line)
    | none => ([], argument :: rest)

/-- The names of the output options among arguments, and the other arguments.  What follows an
option that takes a value is left to it, and nothing after two dashes alone is an option. -/
def takeOptions (form : ArgumentForm) : List String → List String × List String
  | [] => ([], [])
  | "--" :: rest => ([], "--" :: rest)
  | argument :: rest =>
    match optionsOf argument with
    | some given =>
      let (names, others) := takeOptions form rest
      (given ++ names, others)
    | none =>
      match rest with
      | value :: later =>
        if form.options.any (argument = "--" ++ ·) then
          let (names, others) := takeOptions form later
          (names, argument :: value :: others)
        else
          let (names, others) := takeOptions form (value :: later)
          (names, argument :: others)
      | [] => ([], [argument])

/-- The arguments of a command, by its object and its verb. -/
def formOf : String → String → ArgumentForm
  | "vlan", "show" | "vlan", "list" | "vlan", "ls" => showForm
  | "mdb", "show" | "mdb", "list" | "mdb", "ls" => showForm
  | "vlan", "add" => addVlansForm
  | "vlan", "del" | "vlan", "delete" => deleteVlansForm
  | "vlan", "set" => setPortVlanForm
  | "mdb", "add" | "mdb", "del" | "mdb", "delete" => groupForm
  | _, _ => {}

/-- Splits a line into its output options and the command.  An option that is given twice at one
place is refused; what is to be monitored stands at the place of a verb. -/
def splitLine (line : List String) : Option (OutputOptions × List String) :=
  match leadingOptions line with
  | (_, []) => none
  | (first, object :: behind) =>
    let (second, behind) := leadingOptions behind
    let (third, arguments) := takeOptions (formOf object (behind.headD "")) behind
    let places := if object = "monitor" then [first, second ++ third] else [first, second, third]
    if places.all fun names => names.eraseDups.length = names.length then
      let names := places.flatten
      some ({ json := names.contains "json", pretty := names.contains "pretty"
              detailed := names.contains "details", numeric := names.contains "numeric" },
        object :: arguments)
    else none

/-- Reads a command line: the output options and the command. -/
def readLine (line : List String) : Option (OutputOptions × Command) := do
  let (options, arguments) ← splitLine line
  return (options, ← read arguments)

end Command

end BridgeView
