import BridgeView.ManagedCache
import BridgeView.Registry

/-!
# Managers

A manager keeps caches up to date.  It owns two transports: events arrive on one, which
is a member of the groups of every managed cache, and dumps are made on the other.  The
groups of a cache are joined before its dump, so events that race the dump wait on the
event transport and are applied afterwards.  A cache that cannot be subscribed or filled
is not managed, and the groups that nobody else listens on are left again.

Events are taken in the order of arrival, and within a datagram in the order of its
messages; each is offered to the live caches in the order in which they were added.  The
first message that cannot be read ends the run with its error; what was applied before
it stays applied.
-/

namespace BridgeView

/-- Caches of the types of a family and the transports that feed them. -/
structure Manager (F : CacheFamily) (σ : Type) where
  /-- The transport on which events arrive. -/
  events : σ
  /-- The transport on which dumps are made. -/
  dumps : σ
  /-- The managed caches, in the order in which they were added. -/
  caches : List (ManagedCache F) := []
  /-- Whether an added cache is filled from a dump. -/
  fillsOnAdd : Bool := true

/-- What came of delivering events to caches. -/
structure Delivery (F : CacheFamily) where
  caches : List (ManagedCache F)
  /-- What their owners are told, in order. -/
  notices : List (Notice F)
  /-- How many events were applied, or the error that ended the delivery. -/
  applied : Except Error Nat

namespace Delivery

variable {F : CacheFamily}

/-- Offers a message to each live cache in turn. -/
def offer (message : Message) : List (ManagedCache F) → Delivery F
  | [] => ⟨[], [], .ok 0⟩
  | managed :: rest =>
    if managed.phase = .live then
      match managed.apply message with
      | .error error => ⟨managed :: rest, [], .error error⟩
      | .ok none =>
        let delivery := offer message rest
        ⟨managed :: delivery.caches, delivery.notices, delivery.applied⟩
      | .ok (some (changed, notice)) =>
        let delivery := offer message rest
        ⟨changed :: delivery.caches, notice :: delivery.notices,
          delivery.applied.map (· + 1)⟩
    else
      let delivery := offer message rest
      ⟨managed :: delivery.caches, delivery.notices, delivery.applied⟩

/-- Delivers the messages of a datagram; control messages are skipped. -/
def ofMessages : List (Except Error Message) → List (ManagedCache F) → Delivery F
  | [], caches => ⟨caches, [], .ok 0⟩
  | .error error :: _, caches => ⟨caches, [], .error error⟩
  | .ok message :: rest, caches =>
    if message.isControl then ofMessages rest caches
    else
      let first := offer message caches
      match first.applied with
      | .error error => ⟨first.caches, first.notices, .error error⟩
      | .ok count =>
        let later := ofMessages rest first.caches
        ⟨later.caches, first.notices ++ later.notices, later.applied.map (count + ·)⟩

end Delivery

/-- What came of letting a manager process events. -/
structure Processed (F : CacheFamily) (σ : Type) where
  manager : Manager F σ
  /-- What the owners of caches are told, in order. -/
  notices : List (Notice F)
  /-- How many events were applied, or the error that ended the processing. -/
  applied : Except Error Nat

namespace Manager

variable {F : CacheFamily} {σ : Type}

/-- The names of the managed types, in the order in which they were added. -/
def names (manager : Manager F σ) : List String :=
  manager.caches.map (·.name)

/-- The cache of a name, the first one if there are several. -/
def managed? (manager : Manager F σ) (name : String) : Option (ManagedCache F) :=
  manager.caches.find? (·.name == name)

/-- The cache of a type; one of that name may hold another type. -/
def cacheOf (manager : Manager F σ) (key : F.Key) : Except Error (Cache (F.Object key)) :=
  let name := CacheFamily.name key
  match manager.managed? name with
  | none => .error (.notFound s!"cache {name} is not managed")
  | some managed =>
    if same : managed.key = key then .ok (same ▸ managed.cache)
    else .error (.cacheMismatch managed.name name)

/-- Every object of every cache as text. -/
def render (rendering : Rendering) (manager : Manager F σ) : String :=
  String.join (manager.caches.map (·.render rendering))

/-- Whether a managed cache listens on a group. -/
def listensOn (manager : Manager F σ) (group : UInt32) : Bool :=
  manager.caches.any fun managed => managed.groups.any (·.group == group)

/-- Applies the events of one datagram. -/
def applyDatagram (manager : Manager F σ) (datagram : Octets) : Processed F σ :=
  let delivery := Delivery.ofMessages (Message.ofDatagram datagram) manager.caches
  ⟨{ manager with caches := delivery.caches }, delivery.notices, delivery.applied⟩

@[simp]
theorem events_applyDatagram (manager : Manager F σ) (datagram : Octets) :
    (manager.applyDatagram datagram).manager.events = manager.events := rfl

variable [Transport σ]

/-- Joins groups one after the other, until one cannot be joined. -/
def joinAll : List EventGroup → σ → Except Error Unit × σ
  | [], state => (.ok (), state)
  | group :: rest, state =>
    match Transport.join group.group state with
    | (.ok (), next) => joinAll rest next
    | (.error error, next) => (.error error, next)

/-- Leaves the groups that satisfy a condition; one that cannot be left is passed over. -/
def leaveAll (condition : UInt32 → Bool) : List EventGroup → σ → σ
  | [], state => state
  | group :: rest, state =>
    if condition group.group then
      leaveAll condition rest (Transport.leave group.group state).2
    else leaveAll condition rest state

/-- Fills a cache that is to be managed, if caches are filled when added. -/
def fillNew (manager : Manager F σ) (managed : ManagedCache F) :
    Except Error (ManagedCache F) × σ :=
  if manager.fillsOnAdd then
    match managed.fill manager.dumps with
    | (.ok (), filled, dumps) => (.ok filled, dumps)
    | (.error error, _, dumps) =>
      (.error (error.during s!"filling {managed.name}"), dumps)
  else (.ok managed, manager.dumps)

/-- Undoes the subscription of a cache that is not managed after all. -/
def abandon (manager : Manager F σ) (groups : List EventGroup) : Manager F σ :=
  { manager with
    events := leaveAll (fun group => !manager.listensOn group) groups manager.events }

/-- Starts managing a cache of a type: joins its groups and fills it. -/
def add (manager : Manager F σ) (key : F.Key) : Except Error Unit × Manager F σ :=
  let name := CacheFamily.name key
  if manager.caches.any (·.name == name) then (.error (.alreadyExists name), manager)
  else
    let groups := CacheFamily.groups key
    match joinAll groups manager.events with
    | (.error error, events) => (.error error, { manager with events }.abandon groups)
    | (.ok (), events) =>
      let subscribed := { manager with events }
      match subscribed.fillNew { key } with
      | (.error error, dumps) => (.error error, { subscribed with dumps }.abandon groups)
      | (.ok filled, dumps) =>
        (.ok (), { subscribed with
          dumps
          caches := manager.caches ++ [{ filled with phase := .live }] })

/-- Starts managing a cache of the type registered under a name. -/
def addNamed (manager : Manager F σ) (registry : Registry F) (name : String) :
    Except Error Unit × Manager F σ :=
  match registry.lookup name with
  | none => (.error (.unknownCacheType name), manager)
  | some key => manager.add key

/-- Applies every event that waits on the event transport. -/
def applyWaiting (manager : Manager F σ) : Processed F σ :=
  match _ : Transport.tryReceive manager.events with
  | (.error error, events) => ⟨{ manager with events }, [], .error error⟩
  | (.ok none, events) => ⟨{ manager with events }, [], .ok 0⟩
  | (.ok (some datagram), events) =>
    let first := { manager with events }.applyDatagram datagram
    match first.applied with
    | .error error => ⟨first.manager, first.notices, .error error⟩
    | .ok count =>
      let later := first.manager.applyWaiting
      ⟨later.manager, first.notices ++ later.notices, later.applied.map (count + ·)⟩
termination_by Transport.backlog manager.events
decreasing_by exact Transport.backlog_tryReceive (by assumption)

theorem applyWaiting_of_error {manager : Manager F σ} {error : Error} {events : σ}
    (received : Transport.tryReceive manager.events = (.error error, events)) :
    manager.applyWaiting = ⟨{ manager with events }, [], .error error⟩ := by
  rw [applyWaiting]
  split <;> simp_all

theorem applyWaiting_of_none {manager : Manager F σ} {events : σ}
    (received : Transport.tryReceive manager.events = (.ok none, events)) :
    manager.applyWaiting = ⟨{ manager with events }, [], .ok 0⟩ := by
  rw [applyWaiting]
  split <;> simp_all

/-- A waiting datagram is applied, and the others after it unless that fails. -/
theorem applyWaiting_of_some {manager : Manager F σ} {datagram : Octets} {events : σ}
    (received : Transport.tryReceive manager.events = (.ok (some datagram), events)) :
    manager.applyWaiting =
      let first := { manager with events }.applyDatagram datagram
      match first.applied with
      | .error error => ⟨first.manager, first.notices, .error error⟩
      | .ok count =>
        let later := first.manager.applyWaiting
        ⟨later.manager, first.notices ++ later.notices, later.applied.map (count + ·)⟩ := by
  rw [applyWaiting]
  split
  · simp_all
  · simp_all
  · rename_i found
    rw [received] at found
    simp only [Prod.mk.injEq, Except.ok.injEq, Option.some.injEq] at found
    rcases found with ⟨rfl, rfl⟩
    rfl

theorem applyWaiting_of_failed {manager : Manager F σ} {datagram : Octets} {events : σ}
    {error : Error}
    (received : Transport.tryReceive manager.events = (.ok (some datagram), events))
    (failed : ({ manager with events }.applyDatagram datagram).applied = .error error) :
    manager.applyWaiting =
      let first := { manager with events }.applyDatagram datagram
      ⟨first.manager, first.notices, .error error⟩ := by
  simp only [applyWaiting_of_some received, failed]

theorem applyWaiting_of_applied {manager : Manager F σ} {datagram : Octets} {events : σ}
    {count : Nat}
    (received : Transport.tryReceive manager.events = (.ok (some datagram), events))
    (applied : ({ manager with events }.applyDatagram datagram).applied = .ok count) :
    manager.applyWaiting =
      let first := { manager with events }.applyDatagram datagram
      let later := first.manager.applyWaiting
      ⟨later.manager, first.notices ++ later.notices, later.applied.map (count + ·)⟩ := by
  simp only [applyWaiting_of_some received, applied]

end Manager

end BridgeView
