import BridgeView.Cache

/-!
# Handles

Whoever looks an object up receives a handle, which keeps the version of the object it
was given while the cache moves on: every write to a cached object makes a new version.
A ledger numbers the versions of the objects in a cache, in their order, and records the
handles that were given out, so that the holders of a version can be counted.
-/

namespace BridgeView

/-- A version of an object. -/
structure Handle (α : Type) where
  version : Nat
  object : α
deriving DecidableEq, Repr

/-- A cache whose objects have numbered versions, and the handles given out. -/
structure Ledger (α : Type) where
  cache : Cache α := {}
  /-- The version of each object, in the order of the cache. -/
  versions : List Nat := []
  nextVersion : Nat := 0
  /-- The handles given out, the oldest first. -/
  held : List (Handle α) := []
deriving Repr

namespace Ledger

variable {α : Type} [CacheObject α]

/-- The versions after a write at the position of an object, or at the end if it has none. -/
def write (ledger : Ledger α) : Option Nat → List Nat
  | some position => ledger.versions.set position ledger.nextVersion
  | none => ledger.versions ++ [ledger.nextVersion]

/-- The versions after the object at a position is gone. -/
def drop (ledger : Ledger α) : Option Nat → List Nat
  | some position => ledger.versions.eraseIdx position
  | none => ledger.versions

/-- Applies a parsed message. -/
def apply (object : α) (action : Action) (ledger : Ledger α) :
    Option (Report α) × Ledger α :=
  let position? := ledger.cache.position? object
  let (report?, cache) := ledger.cache.apply object action
  let versions :=
    match report?.map (·.action) with
    | some .delete => ledger.drop position?
    | some _ => ledger.write position?
    | none => ledger.versions
  (report?, { ledger with cache, versions, nextVersion := ledger.nextVersion + 1 })

/-- Puts an object into the cache and gives the one it displaces. -/
def add (object : α) (ledger : Ledger α) : Option α × Ledger α :=
  let position? := ledger.cache.position? object
  let (displaced?, cache) := ledger.cache.add object
  (displaced?, { ledger with cache, versions := ledger.write position?
                             nextVersion := ledger.nextVersion + 1 })

/-- Takes an object out of the cache. -/
def remove (needle : α) (ledger : Ledger α) : Option α × Ledger α :=
  let position? := ledger.cache.position? needle
  let (removed?, cache) := ledger.cache.remove needle
  (removed?, { ledger with cache, versions := ledger.drop position? })

/-- The ledger of other contents, all of them new versions. -/
def renew (ledger : Ledger α) (cache : Cache α) : Ledger α :=
  { ledger with
    cache
    versions := List.range' ledger.nextVersion cache.size
    nextVersion := ledger.nextVersion + cache.size }

/-- Gives out a handle of the first object that satisfies a condition. -/
def hold? (ledger : Ledger α) (condition : α → Bool) : Option (Ledger α) :=
  (ledger.cache.objects.zip ledger.versions).find? (fun entry => condition entry.1)
    |>.map fun entry => { ledger with held := ledger.held ++ [⟨entry.2, entry.1⟩] }

/-- The holders of a version: the handles on it, and the cache if it holds it. -/
def holders (ledger : Ledger α) (version : Nat) : Nat :=
  ledger.held.countP (·.version == version)
    + (if ledger.versions.contains version then 1 else 0)

/-- The holders of each handle's version. -/
def counts (ledger : Ledger α) : List Nat :=
  ledger.held.map fun handle => ledger.holders handle.version

end Ledger

end BridgeView
