import BridgeView.BridgeObjects
import BridgeView.Command.Output

/-!
# The monitor command

Following the changes of the bridge: the chosen caches are filled and then kept up to date,
and every event that one of them applies is written as a line.  The command ends when the
event socket fails.
-/

namespace BridgeView

/-- What can be monitored. -/
inductive Watched where
  | vlans
  /-- The multicast groups of bridges. -/
  | groups
  | all
deriving DecidableEq, Repr, Inhabited

namespace Watched

/-- The types that a choice stands for. -/
def keys : Watched → List BridgeKey
  | vlans => [.vlans]
  | groups => [.groups]
  | all => [.vlans, .groups]

/-- The names of the caches of several choices, each once, in the order of their first
choice. -/
def cacheNames (choices : List Watched) : List String :=
  (choices.flatMap keys).eraseDups.map (CacheFamily.name (F := bridgeObjects))

end Watched

namespace MonitorCommand

/-- The line that is printed for a change. -/
def eventLine (options : OutputOptions) (rendering : Rendering)
    (notice : Notice bridgeObjects) : String :=
  let action := notice.report.action.name
  let type := CacheFamily.name notice.key
  let object := CacheObject.render rendering notice.report.object
  if options.json then
    Json.compact (.object [("action", .text action), ("object", .text object),
      ("timestamp", .null), ("type", .text type)]) ++ "\n"
  else s!"{action} {type} {object}\n"

/-- Starts managing the caches of the given names, until one cannot be managed. -/
def addAll (manager : Manager bridgeObjects Socket) :
    List String → Except Error Unit × Manager bridgeObjects Socket
  | [] => (.ok (), manager)
  | name :: rest =>
    match manager.addNamed bridgeRegistry name with
    | (.error error, manager) => (.error error, manager)
    | (.ok (), manager) => addAll manager rest

/-- Follows the chosen caches. -/
def run (environment : Environment) (options : OutputOptions) (choices : List Watched) :
    Outcome :=
  match Manager.ofSockets {} environment.sockets with
  | .error failure => .failed failure.error failure.sockets
  | .ok manager =>
    let names := Watched.cacheNames choices
    match addAll manager names with
    | (.error error, manager) => .failed error manager.sockets
    | (.ok (), manager) =>
      let followed := manager.follow
      let line := eventLine options (options.rendering environment)
      { result := .error followed.error
        output := String.join (followed.notices.map line)
        diagnostics :=
          if options.json then ""
          else "Monitoring " ++ ", ".intercalate names ++ " (Ctrl+C to stop)...\n"
        sockets := followed.manager.sockets }

end MonitorCommand

end BridgeView
