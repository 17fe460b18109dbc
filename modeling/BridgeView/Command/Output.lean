import BridgeView.Follow
import BridgeView.Json

/-!
# What commands see and leave

A command runs in an environment of interfaces and sockets under options for its output.
It leaves a result, what it has written, and the sockets it has opened.
-/

namespace BridgeView

/-- How a command writes. -/
structure OutputOptions where
  /-- Whether objects are written in the data format. -/
  json : Bool := false
  /-- Whether the data format is indented. -/
  pretty : Bool := false
  /-- Whether the parts of objects are shown in text. -/
  detailed : Bool := false
  /-- Whether interfaces are shown by index. -/
  numeric : Bool := false
deriving DecidableEq, Repr, Inhabited

/-- What a command finds. -/
structure Environment where
  interfaces : InterfaceTable := []
  /-- The sockets that can be opened. -/
  sockets : SocketSource := {}
deriving Repr, Inhabited

/-- What a command leaves. -/
structure Outcome where
  /-- Whether it succeeded. -/
  result : Except Error Unit
  /-- What it has written to its output. -/
  output : String := ""
  /-- What it has written beside its output. -/
  diagnostics : String := ""
  /-- The sockets it has opened, in order. -/
  sockets : List Socket := []

namespace Outcome

/-- The outcome of a command that failed with nothing written. -/
def failed (error : Error) (sockets : List Socket) : Outcome :=
  { result := .error error, sockets }

end Outcome

namespace OutputOptions

/-- The interface names that are printed: none where numbers are asked for. -/
def names (options : OutputOptions) (environment : Environment) : InterfaceTable :=
  if options.numeric then [] else environment.interfaces

/-- How objects are shown in text. -/
def rendering (options : OutputOptions) (environment : Environment) : Rendering :=
  { detailed := options.detailed, interfaces := options.names environment }

/-- A value of the data format as a line or several. -/
def jsonText (options : OutputOptions) (value : Json) : String :=
  (if options.pretty then value.pretty else value.compact) ++ "\n"

end OutputOptions

namespace Environment

/-- Opens a socket, lets an exchange use it, and takes the result of the exchange. -/
def exchange (environment : Environment)
    (use : Socket → Except Error Unit × Socket) : Outcome :=
  match environment.sockets.openNext.1 with
  | .error error => .failed error []
  | .ok socket =>
    let (result, used) := use socket
    { result, sockets := [used] }

/-- Shows the objects of a type, all of them or those of one interface. -/
def showObjects {α : Type} [CacheObject α] (environment : Environment)
    (options : OutputOptions) (device? : Option String)
    (interface? : α → Option UInt32) (toJson : InterfaceTable → α → Json) : Outcome :=
  match device?.mapM environment.interfaces.resolve with
  | .error error => .failed error []
  | .ok filter? =>
    match environment.sockets.openNext.1 with
    | .error error => .failed error []
    | .ok socket =>
      match Cache.ofDump (α := α) socket with
      | (.error error, used) => .failed error [used]
      | (.ok cache, used) =>
        let objects := cache.objects.filter fun object =>
          filter?.isNone || interface? object == filter?
        let output :=
          if options.json then
            options.jsonText (.array (objects.map (toJson (options.names environment))))
          else Cache.render (options.rendering environment) ⟨objects⟩
        { result := .ok (), output, sockets := [used] }

end Environment

end BridgeView
