import BridgeView.Manager
import BridgeView.Socket

/-!
# Following the kernel

A manager on sockets takes events without waiting, so that everything that has arrived
can be applied in one go.  A follower lets it do so again and again: until something was
applied, or for as long as there is no error.  Every run that ends well has met the end of
the line or an interruption, so something that could arrive is used up and following comes
to an end.
-/

namespace BridgeView

/-- The sockets that can be opened, and the port of the next one. -/
structure SocketSource where
  /-- How the next sockets behave; those after them are silent. -/
  scripts : List SocketScript := []
  nextPort : UInt32 := 5000
deriving Repr, Inhabited

namespace SocketSource

/-- Opens the next socket and numbers its port. -/
def openNext (source : SocketSource) : Except Error Socket × SocketSource :=
  let script := source.scripts.headD {}
  (Socket.ofScript source.nextPort script,
    ⟨source.scripts.tail, source.nextPort + 1⟩)

end SocketSource

/-- How a manager sets its sockets up. -/
structure ManagerOptions where
  /-- The octets of the buffer that takes a datagram. -/
  bufferSize : Nat := 32768
  /-- The size of the system's receive buffer for events. -/
  systemBuffer? : Option Nat := none
  /-- Whether an added cache is filled from a dump. -/
  fillsOnAdd : Bool := true
deriving Repr, Inhabited

/-- A manager on sockets could not be set up. -/
structure SetupFailure where
  error : Error
  /-- The sockets that were open by then. -/
  sockets : List Socket
deriving Repr, Inhabited

/-- What following until an error came to. -/
structure Followed (F : CacheFamily) where
  manager : Manager F Socket
  /-- What the owners of caches were told, in order. -/
  notices : List (Notice F)
  error : Error

namespace Manager

variable {F : CacheFamily}

/-- Opens the event socket and the dump socket of a manager. -/
def ofSockets (options : ManagerOptions) (source : SocketSource) :
    Except SetupFailure (Manager F Socket) :=
  match source.openNext with
  | (.error error, _) => .error ⟨error, []⟩
  | (.ok opened, source) =>
    let events := { opened with bufferSize := options.bufferSize }
    let sized :=
      match options.systemBuffer? with
      | none => Except.ok events
      | some size => events.setSystemBuffer size
    match sized with
    | .error error => .error ⟨error, [events]⟩
    | .ok events =>
      match source.openNext with
      | (.error error, _) => .error ⟨error, [events]⟩
      | (.ok dumps, _) =>
        .ok { events, dumps := { dumps with bufferSize := options.bufferSize }
              fillsOnAdd := options.fillsOnAdd }

/-- The sockets of the manager: events first, then dumps. -/
def sockets (manager : Manager F Socket) : List Socket :=
  [manager.events, manager.dumps]

/-- A turn that succeeds has used up something of what its socket can still give. -/
theorem backlog_lt_of_applyWaiting {manager : Manager F Socket} {count : Nat}
    (processed : manager.applyWaiting.applied = .ok count) :
    manager.applyWaiting.manager.events.backlog < manager.events.backlog := by
  induction manager using Manager.applyWaiting.induct generalizing count with
  | case1 manager error events received =>
    rw [applyWaiting_of_error received] at processed
    simp at processed
  | case2 manager events received =>
    rw [applyWaiting_of_none received]
    exact Socket.backlog_lt_of_tryReceive received
  | case3 manager datagram events received =>
    rename_i error failed
    rw [applyWaiting_of_failed received failed] at processed
    simp at processed
  | case4 manager datagram events received =>
    rename_i count' succeeded ih
    have shrunk := Socket.backlog_lt_of_tryReceive received
    rw [applyWaiting_of_applied received succeeded] at processed ⊢
    dsimp only at processed ih ⊢
    cases rest :
        ({ manager with events }.applyDatagram datagram).manager.applyWaiting.applied with
    | error error =>
      rw [rest] at processed
      simp [Except.map] at processed
    | ok later => exact Nat.lt_trans (ih rest) shrunk

/-- Processes events until some were applied. -/
def applyNext (manager : Manager F Socket) : Processed F Socket :=
  let processed := manager.applyWaiting
  match _ : processed.applied with
  | .ok 0 =>
    let later := processed.manager.applyNext
    { later with notices := processed.notices ++ later.notices }
  | _ => processed
termination_by manager.events.backlog
decreasing_by exact backlog_lt_of_applyWaiting (by assumption)

/-- Processes events until there is an error. -/
def follow (manager : Manager F Socket) : Followed F :=
  let processed := manager.applyWaiting
  match _ : processed.applied with
  | .error error => ⟨processed.manager, processed.notices, error⟩
  | .ok _ =>
    let later := processed.manager.follow
    { later with notices := processed.notices ++ later.notices }
termination_by manager.events.backlog
decreasing_by exact backlog_lt_of_applyWaiting (by assumption)

end Manager

end BridgeView
