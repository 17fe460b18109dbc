import BridgeView.BridgeObjects
import BridgeView.Follow
import Mathlib.Data.List.Basic

/-!
# Draining a socket

A manager on sockets is asked for events when its socket can be read, and asked again only when more
arrives. It therefore has to go on until a call finds the line of arrivals empty. A call that a
signal interrupts finds nothing out about the line, but counts as one that found nothing, so that
the manager stops there and leaves what waits behind it. This is the only way in which processing
ends well without the line being found empty (`drains_iff`).

To speak of what the calls meet, a socket is traced: the result of every call that does not wait is
noted. Nothing else depends on the notes (`applyWaiting_untrace`).
-/

namespace BridgeView

open Transport

namespace Socket

variable {socket next : Socket}

/-- The first failure in the line of arrivals. -/
def firstFailure? (socket : Socket) : Option ErrorNumber :=
  socket.queue.findSome? fun
    | .datagram _ => none
    | .failure number => some number

/-- A call that gives a datagram met no failure before it. -/
theorem firstFailure?_of_call_ok {datagram : Octets}
    (called : socket.call false = (.ok datagram, next)) :
    next.firstFailure? = socket.firstFailure? := by
  unfold call at called
  split at called
  · rename_i octets rest queue
    simp only [Prod.mk.injEq] at called
    rw [← called.2, firstFailure?, firstFailure?, queue]
    rfl
  · simp at called
  · split at called
    · simp at called
    · split at called <;> simp at called

/-- A call that finds the line empty meets no failure of the line before. -/
theorem firstFailure?_of_call_error {number : ErrorNumber}
    (called : (socket.call false).1 = .error (.system number)) :
    socket.firstFailure?.getD .wouldBlock = number := by
  unfold call at called
  split at called
  · cases called
  · rename_i failed rest queue
    simp only [Except.error.injEq, IoFault.system.injEq] at called
    simp [firstFailure?, queue, called]
  · rename_i queue
    split at called
    · cases called
    · split at called
      · cases called
      · simp only [Except.error.injEq, IoFault.system.injEq] at called
        simp [firstFailure?, queue, called]

theorem call_of_tryReceive_some {datagram : Octets}
    (received : socket.tryReceive = (.ok (some datagram), next)) :
    socket.call false = (.ok datagram, next) := by
  unfold tryReceive at received
  split at received
  · rename_i called
    simp only [Prod.mk.injEq, Except.ok.injEq, Option.some.injEq] at received
    rw [called, received.1, received.2]
  · split at received <;> simp at received

/-- Where nothing is received, the call would have blocked or was interrupted. -/
theorem call_of_tryReceive_none (received : socket.tryReceive = (.ok none, next)) :
    ∃ number, (number = .wouldBlock ∨ number = .interrupted) ∧
      (socket.call false).1 = .error (.system number) := by
  unfold tryReceive at received
  split at received
  · simp at received
  · rename_i fault final called
    split at received
    · rename_i quiet
      rw [called]
      rcases quiet with rfl | rfl
      · exact ⟨_, Or.inl rfl, rfl⟩
      · exact ⟨_, Or.inr rfl, rfl⟩
    · simp at received

end Socket

/-! ## Traced sockets -/

/-- A socket, and what its calls that do not wait have met. -/
structure Traced where
  socket : Socket
  met : List (Except IoFault Octets) := []

namespace Traced

/-- A traced socket behaves like the socket, and notes what a call that does not wait met. -/
instance : Transport Traced where
  nextSequence state :=
    ((nextSequence state.socket).1, { state with socket := (nextSequence state.socket).2 })
  port state := port state.socket
  send message state :=
    ((send message state.socket).1, { state with socket := (send message state.socket).2 })
  receive state := ((receive state.socket).1, { state with socket := (receive state.socket).2 })
  tryReceive state :=
    ((tryReceive state.socket).1,
      ⟨(tryReceive state.socket).2, state.met ++ [(state.socket.call false).1]⟩)
  join group state :=
    ((join group state.socket).1, { state with socket := (join group state.socket).2 })
  leave group state :=
    ((leave group state.socket).1, { state with socket := (leave group state.socket).2 })
  backlog state := backlog state.socket
  backlog_receive := by
    intro state next datagram received
    rw [Prod.mk.injEq] at received
    rcases received with ⟨isOk, rfl⟩
    exact backlog_receive (Prod.ext isOk rfl)
  backlog_tryReceive := by
    intro state next datagram received
    rw [Prod.mk.injEq] at received
    rcases received with ⟨isOk, rfl⟩
    exact backlog_tryReceive (Prod.ext isOk rfl)

variable {state next : Traced}

theorem tryReceive_socket {result : Except Error (Option Octets)}
    (received : tryReceive state = (result, next)) :
    state.socket.tryReceive = (result, next.socket) := by
  have same := Prod.mk.inj received
  exact Prod.ext same.1 (congrArg Traced.socket same.2)

/-- Every call that does not wait is noted. -/
theorem met_tryReceive {result : Except Error (Option Octets)}
    (received : tryReceive state = (result, next)) :
    next.met = state.met ++ [(state.socket.call false).1] :=
  (congrArg Traced.met (Prod.mk.inj received).2).symm

end Traced

namespace Manager

variable {F : CacheFamily}

/-- The manager on sockets that note what is received. -/
def trace (manager : Manager F Socket) : Manager F Traced where
  events := { socket := manager.events }
  dumps := { socket := manager.dumps }
  caches := manager.caches
  fillsOnAdd := manager.fillsOnAdd

/-- The manager on the plain sockets. -/
def untrace (manager : Manager F Traced) : Manager F Socket where
  events := manager.events.socket
  dumps := manager.dumps.socket
  caches := manager.caches
  fillsOnAdd := manager.fillsOnAdd

/-- Being traced makes no difference to what is processed. -/
theorem applyWaiting_untrace (manager : Manager F Traced) :
    manager.untrace.applyWaiting =
      ⟨manager.applyWaiting.manager.untrace, manager.applyWaiting.notices,
        manager.applyWaiting.applied⟩ := by
  induction manager using Manager.applyWaiting.induct with
  | case1 manager error events received =>
      have plain : tryReceive manager.untrace.events = (.error error, events.socket) :=
        Traced.tryReceive_socket received
      rw [applyWaiting_of_error received, applyWaiting_of_error plain]
      rfl
  | case2 manager events received =>
      have plain : tryReceive manager.untrace.events = (.ok none, events.socket) :=
        Traced.tryReceive_socket received
      rw [applyWaiting_of_none received, applyWaiting_of_none plain]
      rfl
  | case3 manager datagram events received first error failed =>
      have plain : tryReceive manager.untrace.events = (.ok (some datagram), events.socket) :=
        Traced.tryReceive_socket received
      rw [applyWaiting_of_failed received failed, applyWaiting_of_failed plain failed]
      rfl
  | case4 manager datagram events received first count applied ih =>
      have plain : tryReceive manager.untrace.events = (.ok (some datagram), events.socket) :=
        Traced.tryReceive_socket received
      have plainFirst : ({ manager.untrace with events := events.socket } :
          Manager F Socket).applyDatagram datagram =
            ⟨first.manager.untrace, first.notices, first.applied⟩ := rfl
      have plainApplied : (({ manager.untrace with events := events.socket } :
          Manager F Socket).applyDatagram datagram).applied = .ok count := applied
      rw [applyWaiting_of_applied received applied, applyWaiting_of_applied plain plainApplied,
        plainFirst]
      dsimp only
      rw [ih]

/-- Processing that ends well has met datagrams, and then the first failure of the line, or its
end. -/
theorem exists_met_of_applied {manager : Manager F Traced} {count : Nat}
    (processed : manager.applyWaiting.applied = .ok count) :
    ∃ (datagrams : List Octets) (last : ErrorNumber), (last = .wouldBlock ∨ last = .interrupted) ∧
      manager.events.socket.firstFailure?.getD .wouldBlock = last ∧
        manager.applyWaiting.manager.events.met =
          manager.events.met ++ datagrams.map .ok ++ [.error (.system last)] := by
  induction manager using Manager.applyWaiting.induct generalizing count with
  | case1 manager error events received =>
      rw [applyWaiting_of_error received] at processed
      cases processed
  | case2 manager events received =>
      rw [applyWaiting_of_none received]
      rcases Socket.call_of_tryReceive_none (Traced.tryReceive_socket received) with
        ⟨last, quiet, called⟩
      refine ⟨[], last, quiet, Socket.firstFailure?_of_call_error called, ?_⟩
      rw [Traced.met_tryReceive received, called]
      simp
  | case3 manager datagram events received =>
      rename_i error failed
      rw [applyWaiting_of_failed received failed] at processed
      cases processed
  | case4 manager datagram events received =>
      rename_i count' applied ih
      rw [applyWaiting_of_applied received applied] at processed ⊢
      let first := { manager with events }.applyDatagram datagram
      cases rest : first.manager.applyWaiting.applied with
      | error error =>
          simp only [first] at rest
          simp only [rest] at processed
          cases processed
      | ok later =>
          have called := Socket.call_of_tryReceive_some (Traced.tryReceive_socket received)
          have sameFailure := Socket.firstFailure?_of_call_ok called
          rcases ih rest with ⟨datagrams, last, quiet, isFirst, met⟩
          refine ⟨datagram :: datagrams, last, quiet, sameFailure ▸ isFirst, ?_⟩
          have metFirst : first.manager.events.met = manager.events.met ++ [.ok datagram] := by
            rw [events_applyDatagram, Traced.met_tryReceive received, called]
          rw [metFirst] at met
          simpa using met

/-- Whenever processing what waits ends well, the last call found the line empty. -/
def Drains (manager : Manager F Socket) : Prop :=
  ∀ count, manager.applyWaiting.applied = .ok count →
    manager.trace.applyWaiting.manager.events.met.getLast? =
      some (.error (.system .wouldBlock))

/-- A socket is drained exactly if processing does not come to its end at an interruption. -/
theorem drains_iff (manager : Manager F Socket) :
    manager.Drains ↔
      ((∃ count, manager.applyWaiting.applied = .ok count) →
        manager.events.firstFailure? ≠ some .interrupted) := by
  have same : manager.trace.applyWaiting.applied = manager.applyWaiting.applied := by
    have erased := applyWaiting_untrace manager.trace
    exact (congrArg Processed.applied erased).symm
  constructor
  · rintro drains ⟨count, processed⟩ interrupted
    have lastCall := drains count processed
    rw [← same] at processed
    rcases exists_met_of_applied processed with ⟨datagrams, last, _, isFirst, met⟩
    have isInterrupted : last = .interrupted := by
      rw [← isFirst]
      change manager.events.firstFailure?.getD _ = _
      rw [interrupted]
      rfl
    rw [met, List.getLast?_concat, isInterrupted] at lastCall
    cases lastCall
  · intro notInterrupted count processed
    have notFirst := notInterrupted ⟨count, processed⟩
    rw [← same] at processed
    rcases exists_met_of_applied processed with ⟨datagrams, last, quiet, isFirst, met⟩
    rw [met, List.getLast?_concat]
    rcases quiet with rfl | rfl
    · rfl
    · change manager.events.firstFailure?.getD _ = _ at isFirst
      cases failure : manager.events.firstFailure? with
      | none =>
          rw [failure] at isFirst
          cases isFirst
      | some number =>
          rw [failure] at isFirst notFirst
          exact absurd (congrArg some isFirst) notFirst

/-- The announcement of VLAN 10 on a port. -/
def portMessage (interface : UInt8) : Octets :=
  ((Draft.ofType MessageType.newVlan 0).append
    [7, 0, 0, 0, interface, 0, 0, 0, 12, 0, 1, 128, 8, 0, 1, 0, 0, 0, 10, 0]).finish

/-- A signal interrupts the second of three calls. -/
def signalledManager : Manager bridgeObjects Socket where
  events :=
    { port := 5000, replies := [], failingSends := [], failingJoins := [], groups := [33]
      queue := [.datagram (portMessage 4), .failure .interrupted, .datagram (portMessage 5)] }
  dumps := { port := 5001, queue := [], replies := [], failingSends := [], failingJoins := [] }
  caches := [⟨BridgeKey.vlans, .live, {}⟩]
  fillsOnAdd := false

/-- The second announcement waits, and processing ends well without it. -/
theorem not_drains_signalledManager :
    signalledManager.applyWaiting.applied = .ok 1 ∧
      signalledManager.applyWaiting.manager.events.queue = [.datagram (portMessage 5)] ∧
        ¬signalledManager.Drains := by
  have processed : signalledManager.applyWaiting.applied = .ok 1 := by decide +kernel
  refine ⟨processed, by decide +kernel, ?_⟩
  intro drains
  have lastCall := drains 1 processed
  have interrupted : signalledManager.trace.applyWaiting.manager.events.met.getLast? =
      some (.error (.system .interrupted)) := by decide +kernel
  rw [interrupted] at lastCall
  cases lastCall

end Manager

end BridgeView
