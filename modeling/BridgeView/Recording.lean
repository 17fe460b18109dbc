import BridgeView.Command.Output
import BridgeView.Text.Hex

/-!
# Recordings

A recording is a text that holds what a command finds: the known interfaces and, socket by
socket in the order of opening, what arrives and what fails.  Each line is a word and its
arguments with spaces between them; an empty line says nothing.  A line about a socket belongs
to the socket announced last, and what arrives after an answer line arrives only when one more
message was sent.
-/

namespace BridgeView

/-- What one line of a recording says. -/
inductive RecordedFact where
  /-- An interface is known by a name. -/
  | interface (index : UInt32) (name : String)
  /-- The facts that follow are about the next socket. -/
  | socket
  /-- The socket cannot be opened. -/
  | refusal (number : ErrorNumber)
  /-- One receiving call meets this. -/
  | arrival (arrival : Arrival)
  /-- The arrivals that follow answer the next message. -/
  | answer
  /-- The message of a number, counted from zero, cannot be sent. -/
  | unsent (position : Nat) (number : ErrorNumber)
  /-- A group cannot be joined. -/
  | unjoined (group : UInt32) (number : ErrorNumber)
deriving DecidableEq, Repr, Inhabited

namespace RecordedFact

/-- Reads a word of thirty-two bits. -/
def readWord (text : String) : Option UInt32 :=
  (Text.decimal? 4294967295 text).map UInt32.ofNat

/-- The error number that a text spells. -/
def readNumber (text : String) : Option ErrorNumber :=
  (Text.decimal? 2147483647 text).map Int32.ofNat

/-- Reads the words of a line. -/
def ofWords : List String → Option RecordedFact
  | ["interface", index, name] => return interface (← readWord index) name
  | ["socket"] => some socket
  | ["refuse", number] => return refusal (← readNumber number)
  | ["datagram", digits] => return arrival (.datagram (← Text.ofHex? digits))
  | ["failure", number] => return arrival (.failure (← readNumber number))
  | ["answer"] => some answer
  | ["unsent", position, number] =>
    return unsent (← readWord position).toNat (← readNumber number)
  | ["unjoined", group, number] => return unjoined (← readWord group) (← readNumber number)
  | _ => none

end RecordedFact

namespace SocketScript

/-- The script with one more arrival, in the latest answer if there is one. -/
def addArrival (script : SocketScript) (arrival : Arrival) : SocketScript :=
  match script.replies.getLast? with
  | none => { script with queue := script.queue ++ [arrival] }
  | some answer => { script with replies := script.replies.dropLast ++ [answer ++ [arrival]] }

/-- The script with one more fact about its socket. -/
def addFact (script : SocketScript) : RecordedFact → SocketScript
  | .refusal number => { script with openFailure? := some number }
  | .arrival arrival => script.addArrival arrival
  | .answer => { script with replies := script.replies ++ [[]] }
  | .unsent position number =>
    { script with failingSends := script.failingSends ++ [(position, number)] }
  | .unjoined group number =>
    { script with failingJoins := script.failingJoins ++ [(group, number)] }
  | .interface .. | .socket => script

end SocketScript

/-- The facts of a recording, sorted. -/
structure Recording where
  interfaces : InterfaceTable := []
  /-- How the sockets behave, the latest first. -/
  scripts : List SocketScript := []
deriving Repr, Inhabited

namespace Recording

/-- The recording with one more fact; one about a socket needs a socket. -/
def add (recording : Recording) : RecordedFact → Option Recording
  | .interface index name =>
    some { recording with interfaces := recording.interfaces ++ [(index, name)] }
  | .socket => some { recording with scripts := {} :: recording.scripts }
  | fact =>
    match recording.scripts with
    | [] => none
    | script :: rest => some { recording with scripts := script.addFact fact :: rest }

/-- The words of a line. -/
def words (line : String) : List String :=
  (line.splitOn " ").filter (!·.isEmpty)

/-- Reads a recording; nothing when a line cannot be read. -/
def ofText (text : String) : Option Recording := do
  let lines := ((text.splitOn "\n").map words).filter (!·.isEmpty)
  let facts ← lines.mapM RecordedFact.ofWords
  facts.foldlM add {}

/-- What a command finds. -/
def environment (recording : Recording) : Environment :=
  { interfaces := recording.interfaces, sockets := { scripts := recording.scripts.reverse } }

end Recording

end BridgeView
