import BridgeView.Family

/-!
# Registries

A registry names cacheable types.  A name can be registered once at a time, and look-ups
see the types in the order in which they were registered.
-/

namespace BridgeView

/-- Registered types, in the order of their registration. -/
structure Registry (F : CacheFamily) where
  keys : List F.Key := []

namespace Registry

variable {F : CacheFamily}

/-- The names of the registered types. -/
def names (registry : Registry F) : List String :=
  registry.keys.map CacheFamily.name

/-- The type registered under a name. -/
def lookup (registry : Registry F) (name : String) : Option F.Key :=
  registry.keys.find? (CacheFamily.name · == name)

/-- Registers a type, unless its name is taken. -/
def register (registry : Registry F) (key : F.Key) : Except Error (Registry F) :=
  let name := CacheFamily.name key
  if (registry.lookup name).isSome then .error (.alreadyExists name)
  else .ok ⟨registry.keys ++ [key]⟩

/-- The registry in which types are registered one after the other; one whose name is taken
is passed over. -/
def ofKeys (keys : List F.Key) : Registry F :=
  keys.foldl (fun registry key => (registry.register key).toOption.getD registry) {}

/-- Takes the type registered under a name out and gives it. -/
def unregister (registry : Registry F) (name : String) :
    Except Error (F.Key × Registry F) :=
  match registry.lookup name with
  | none => .error (.unknownCacheType name)
  | some key => .ok (key, ⟨registry.keys.eraseP (CacheFamily.name · == name)⟩)

/-- The first registered type that consumes a message type, and the row of that message
type. -/
def lookupMessageType (registry : Registry F) (type : UInt16) :
    Option (F.Key × MessageRow) :=
  registry.keys.findSome? fun key =>
    (CacheObject.row? (F.Object key) type).map (key, ·)

/-- The registry as text: its names, quoted, in brackets. -/
def text (registry : Registry F) : String :=
  "[" ++ ", ".intercalate (registry.names.map Text.quote) ++ "]"

end Registry

end BridgeView
