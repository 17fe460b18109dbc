import BridgeView.Family

/-!
# Managed caches

A managed cache is empty at first, is filling while its dump is read, and is live once it
follows events.  An event that the cache consumes changes it and is noticed: the notice
holds the cache after the event, the object and what happened to it.
-/

namespace BridgeView

/-- What a managed cache is doing. -/
inductive Phase where
  /-- There are no data yet. -/
  | empty
  /-- The dump is being read. -/
  | filling
  /-- The cache follows events. -/
  | live
deriving DecidableEq, Repr, Inhabited

namespace Phase

/-- The word for a phase. -/
def name : Phase → String
  | empty => "Empty"
  | filling => "Filling"
  | live => "Live"

end Phase

/-- A cache of one type of a family. -/
structure ManagedCache (F : CacheFamily) where
  key : F.Key
  phase : Phase := .empty
  cache : Cache (F.Object key) := {}

/-- What the owner of a cache is told about an event. -/
structure Notice (F : CacheFamily) where
  key : F.Key
  /-- The cache after the event. -/
  cache : Cache (F.Object key)
  /-- The object and what happened to it. -/
  report : Report (F.Object key)

namespace ManagedCache

variable {F : CacheFamily}

/-- The name of the type that is cached. -/
def name (managed : ManagedCache F) : String :=
  CacheFamily.name managed.key

/-- The groups of events that the cache needs. -/
def groups (managed : ManagedCache F) : List EventGroup :=
  CacheFamily.groups managed.key

/-- The cached objects, with their type. -/
def objects (managed : ManagedCache F) : List (CacheFamily.AnyObject F) :=
  managed.cache.objects.map (⟨managed.key, ·⟩)

/-- Fills the cache anew, from a dump on a transport. -/
def fill {σ : Type} [Transport σ] (managed : ManagedCache F) (state : σ) :
    Except Error Unit × ManagedCache F × σ :=
  let (outcome, cache, next) := managed.cache.fill state
  (outcome, { managed with cache }, next)

/-- Applies a message.  One that the cache does not consume, or that is not for it, gives
nothing. -/
def apply (managed : ManagedCache F) (message : Message) :
    Except Error (Option (ManagedCache F × Notice F)) :=
  match CacheObject.action? (F.Object managed.key) message.header.type with
  | none | some .get => .ok none
  | some action =>
    match CacheObject.read message.header message.payload with
    | .error error => .error error
    | .ok none => .ok none
    | .ok (some object) =>
      let (report?, cache) := managed.cache.apply object action
      .ok (report?.map fun report => ({ managed with cache }, ⟨managed.key, cache, report⟩))

/-- Every object as text. -/
def render (rendering : Rendering) (managed : ManagedCache F) : String :=
  managed.cache.render rendering

end ManagedCache

end BridgeView
