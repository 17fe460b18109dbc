import BridgeView.CacheObject
import BridgeView.Transport

/-!
# Caches

A cache holds objects of one type in the order in which they were first inserted, one
for each identity.  An object stays at its place while it is updated, replaced or partly
deleted.  Applying a parsed message reports the object and what really happened to it:
a message that announces something known is a change, and so is a deletion that leaves
something.

A cache is filled from a dump: the objects are gathered aside and published only when
the dump is complete, so a failed fill leaves the cache empty.
-/

namespace BridgeView

/-- An object and what happened to it. -/
structure Report (α : Type) where
  /-- The object after the event, or the deleted one. -/
  object : α
  /-- What happened. -/
  action : Action
deriving DecidableEq, Repr

/-- Objects of one type in the order of their first insertion. -/
structure Cache (α : Type) where
  objects : List α := []
deriving DecidableEq, Repr, Inhabited

namespace Cache

open CacheObject

variable {α : Type} [CacheObject α]

/-- The number of objects. -/
def size (cache : Cache α) : Nat :=
  cache.objects.length

/-- Whether there are no objects. -/
def isEmpty (cache : Cache α) : Bool :=
  cache.objects.isEmpty

/-- The first object that satisfies a condition. -/
def find? (cache : Cache α) (condition : α → Bool) : Option α :=
  cache.objects.find? condition

/-- The object identical to the given one. -/
def lookup (cache : Cache α) (needle : α) : Option α :=
  cache.find? (identical · needle)

/-- The position of the object identical to the given one. -/
def position? (cache : Cache α) (needle : α) : Option Nat :=
  cache.objects.findIdx? (identical · needle)

/-- Puts an object in the place of the identical one, or at the end; gives the object that
was there. -/
def place (object : α) : List α → Option α × List α
  | [] => (none, [object])
  | cached :: rest =>
    if identical cached object then (some cached, object :: rest)
    else
      let (displaced, rest) := place object rest
      (displaced, cached :: rest)

/-- Takes out the object identical to the given one. -/
def takeOut (needle : α) : List α → Option α × List α
  | [] => (none, [])
  | cached :: rest =>
    if identical cached needle then (some cached, rest)
    else
      let (removed, rest) := takeOut needle rest
      (removed, cached :: rest)

/-- Merges an object into the identical one, or appends it. -/
def upsert (object : α) : List α → Report α × List α
  | [] => (⟨object, .new⟩, [object])
  | cached :: rest =>
    if identical cached object then
      let newer := updated cached object
      (⟨newer, .change⟩, newer :: rest)
    else
      let (report, rest) := upsert object rest
      (report, cached :: rest)

/-- Takes the parts that a deletion names from the identical object, and the object itself
when nothing of it stays.  The deletion of an absent object is reported all the same. -/
def withdraw (gone : α) : List α → Report α × List α
  | [] => (⟨gone, .delete⟩, [])
  | cached :: rest =>
    if identical cached gone then
      let remainder := subtract cached gone
      if remainder.stays then (⟨remainder.object, .change⟩, remainder.object :: rest)
      else (⟨cached, .delete⟩, rest)
    else
      let (report, rest) := withdraw gone rest
      (report, cached :: rest)

/-- Puts an object in the place of the identical one, or at the end; gives the object that
was there. -/
def add (cache : Cache α) (object : α) : Option α × Cache α :=
  let (displaced, objects) := place object cache.objects
  (displaced, ⟨objects⟩)

/-- Takes out the object identical to the given one and gives it. -/
def remove (cache : Cache α) (needle : α) : Option α × Cache α :=
  let (removed, objects) := takeOut needle cache.objects
  (removed, ⟨objects⟩)

/-- Takes out every object. -/
def clear (cache : Cache α) : Cache α :=
  { cache with objects := [] }

/-- Applies a parsed message; a request for objects changes nothing and is not reported. -/
def apply (cache : Cache α) (object : α) : Action → Option (Report α) × Cache α
  | .new | .change =>
    let (report, objects) := upsert object cache.objects
    (some report, ⟨objects⟩)
  | .delete =>
    let (report, objects) := withdraw object cache.objects
    (some report, ⟨objects⟩)
  | .get => (none, cache)

/-- Inserts the object a message of a dump describes, if it is for this cache. -/
def gather : Transport.Handler (Cache α) := fun message staged =>
  match read message.header message.payload with
  | .error error => (.error error, staged)
  | .ok none => (.ok (), staged)
  | .ok (some object) => (.ok (), (staged.apply object .new).2)

variable {σ : Type} [Transport σ]

/-- Replaces the contents by a dump: the objects are taken out before the request is sent, and
those of the dump are gathered aside and published when it is complete. -/
def fill (cache : Cache α) (state : σ) : Except Error Unit × Cache α × σ :=
  let cleared := cache.clear
  match Transport.sendNumbered (dumpRequest α) state with
  | (.error error, next) => (.error error, cleared, next)
  | (.ok sequence, next) =>
    match Transport.receiveDump sequence (gather (α := α)) {} next with
    | (.error error, _, final) => (.error error, cleared, final)
    | (.ok (), staged, final) => (.ok (), { cleared with objects := staged.objects }, final)

/-- A new cache, filled from a dump; there is none if that fails. -/
def ofDump (state : σ) : Except Error (Cache α) × σ :=
  match fill ({} : Cache α) state with
  | (.error error, _, next) => (.error error, next)
  | (.ok (), filled, next) => (.ok filled, next)

/-- Takes out every object and fills the cache again. -/
def refill (cache : Cache α) (state : σ) : Except Error Unit × Cache α × σ :=
  cache.clear.fill state

/-- Every object as text, each followed by a line end. -/
def render (rendering : Rendering) (cache : Cache α) : String :=
  String.join (cache.objects.map fun object => CacheObject.render rendering object ++ "\n")

end Cache

end BridgeView
