import BridgeView.Error
import BridgeView.Text.Blank

/-!
# Interfaces

An interface has an index and a name.  A table holds the names that are known.  On
the command line an interface is given by its index or, failing that, by its name;
a text that could be no name is refused before it is looked up.
-/

namespace BridgeView

/-- The known names of interfaces by index. -/
abbrev InterfaceTable := List (UInt32 × String)

namespace InterfaceTable

/-- The name of an interface, or the word `if` with its index when it is not known. -/
def label (interfaces : InterfaceTable) (index : UInt32) : String :=
  (interfaces.lookup index).getD s!"if{index}"

/-- The name of an interface, or its index when it is not known. -/
def nameOrIndex (interfaces : InterfaceTable) (index : UInt32) : String :=
  (interfaces.lookup index).getD (toString index)

/-- The name of an index; the error shows the index. -/
def name (interfaces : InterfaceTable) (index : UInt32) : Except Error String :=
  match interfaces.lookup index with
  | some name => .ok name
  | none => .error (.notFound s!"interface index {index}")

end InterfaceTable

namespace InterfaceName

/-- The octets the kernel has for a name and the zero that ends it. -/
def space : Nat := 16

/-- Whether a character may not occur in a name. -/
def isForbidden (character : Char) : Bool :=
  character == '/' || character == '\x00' || Text.isBlank character

/-- Checks that a text could be a name. -/
def check (name : String) : Except Error Unit :=
  if name.isEmpty then .error (.invalidInput (.interfaceName name .empty))
  else if space ≤ name.utf8ByteSize then
    .error (.invalidInput (.interfaceName name .tooLong))
  else if name.toList.any isForbidden then
    .error (.invalidInput (.interfaceName name .invalidCharacter))
  else .ok ()

end InterfaceName

namespace InterfaceTable

/-- The index of a name, which has to be a valid one. -/
def index (interfaces : InterfaceTable) (name : String) : Except Error UInt32 :=
  match InterfaceName.check name with
  | .error error => .error error
  | .ok () =>
    match interfaces.find? fun entry => entry.2 == name with
    | some entry => .ok entry.1
    | none => .error (.notFound s!"interface {name}")

/-- The index of the interface that a text gives by index or name. -/
def resolve (interfaces : InterfaceTable) (text : String) : Except Error UInt32 :=
  match Text.decimal? 4294967295 text with
  | some index => .ok (UInt32.ofNat index)
  | none => interfaces.index text

end InterfaceTable

end BridgeView
