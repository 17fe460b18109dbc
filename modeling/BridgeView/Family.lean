import BridgeView.Cache

/-!
# Families of cacheable types

A manager keeps caches of several types at once.  A family lists the types by keys: a
key stands for the type wherever the type itself cannot be named, as in a registry or in
an event that may be about any of them.
-/

namespace BridgeView

/-- Cacheable types, each with a key. -/
structure CacheFamily where
  Key : Type
  /-- Keys can be compared. -/
  [decideKey : DecidableEq Key]
  Object : Key → Type
  /-- The operations of the type of a key. -/
  [cacheObject : (key : Key) → CacheObject (Object key)]

attribute [instance] CacheFamily.decideKey CacheFamily.cacheObject

namespace CacheFamily

variable {F : CacheFamily}

/-- The name of a type, by its key. -/
def name (key : F.Key) : String :=
  CacheObject.typeName (F.Object key)

/-- The groups that carry the events of the type of a key. -/
def groups (key : F.Key) : List EventGroup :=
  CacheObject.groups (F.Object key)

/-- An object of any type of the family. -/
abbrev AnyObject (F : CacheFamily) := (key : F.Key) × F.Object key

namespace AnyObject

/-- The name of the type that an object is of. -/
def typeName (object : AnyObject F) : String :=
  name object.1

/-- The text of an object of any type. -/
def render (rendering : Rendering) (object : AnyObject F) : String :=
  CacheObject.render rendering object.2

end AnyObject

/-- Reads one message as an object of the type of a key. -/
def read (key : F.Key) (header : MessageHeader) (payload : Octets) :
    Except Error (Option (AnyObject F)) :=
  (CacheObject.read header payload).map (Option.map (⟨key, ·⟩))

end CacheFamily

end BridgeView
