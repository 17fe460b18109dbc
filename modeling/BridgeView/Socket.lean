import BridgeView.Transport

/-!
# Sockets

A socket is a transport on top of the system's datagram calls.  The system's side is a
line of arrivals, each a datagram or a failure of the call, together with what arrives
after each message that is sent.  The socket numbers its messages from one on and skips
zero when the numbers wrap, repeats a waiting receive that a signal interrupts, and takes
both an interruption and an empty line for "nothing there" when it does not wait.

The line of arrivals stands for the system.  An idle system tells every call that does
not wait the same, however often it is asked; a line at its end says so once and fails
the calls after that, so that a loop that asks on without end meets a failure.  Any
number of such answers can be written into the line itself.
-/

namespace BridgeView

/-- What one receiving call meets. -/
inductive Arrival where
  /-- A datagram. -/
  | datagram (octets : Octets)
  /-- A failure of the call. -/
  | failure (number : ErrorNumber)
deriving DecidableEq, Repr, Inhabited

/-- How the system's side of a socket behaves. -/
structure SocketScript where
  /-- The failure of opening the socket, if it fails. -/
  openFailure? : Option ErrorNumber := none
  /-- What arrives at first. -/
  queue : List Arrival := []
  /-- What arrives after each message that is sent. -/
  replies : List (List Arrival) := []
  /-- The messages that cannot be sent, counted from zero, and why. -/
  failingSends : List (Nat × ErrorNumber) := []
  /-- The groups that cannot be joined, and why. -/
  failingJoins : List (UInt32 × ErrorNumber) := []
deriving Repr, Inhabited

/-- A socket that is open. -/
structure Socket where
  /-- The next sequence number. -/
  sequence : UInt32 := 1
  /-- The port that the system gave the socket. -/
  port : UInt32
  /-- The octets of the buffer that takes a datagram; longer ones are cut. -/
  bufferSize : Nat := 32768
  /-- The size of the system's receive buffer, once it was set. -/
  systemBuffer : Nat := 0
  queue : List Arrival
  /-- Whether the end of the line was met since the last datagram. -/
  drained : Bool := false
  /-- What arrives after each message that is sent. -/
  replies : List (List Arrival)
  /-- The messages that cannot be sent, and why. -/
  failingSends : List (Nat × ErrorNumber)
  /-- The groups that cannot be joined, and why. -/
  failingJoins : List (UInt32 × ErrorNumber)
  /-- How many messages were to be sent. -/
  sends : Nat := 0
  /-- The messages that were sent, the latest first. -/
  outbox : List Octets := []
  /-- The groups that are joined, in the order of joining. -/
  groups : List UInt32 := []
deriving Repr, Inhabited

namespace Socket

/-- Opens a socket on a side of the system. -/
def ofScript (port : UInt32) (script : SocketScript) : Except Error Socket :=
  match script.openFailure? with
  | some number => .error (.io (.system number))
  | none =>
    .ok { port, queue := script.queue, replies := script.replies
          failingSends := script.failingSends, failingJoins := script.failingJoins }

/-- The messages that were sent, in order. -/
def sent (socket : Socket) : List Octets :=
  socket.outbox.reverse

/-- The number after a sequence number: the next word, or one where that would be zero. -/
def sequenceAfter (sequence : UInt32) : UInt32 :=
  if sequence + 1 = 0 then 1 else sequence + 1

/-- Draws the next sequence number. -/
def nextSequence (socket : Socket) : UInt32 × Socket :=
  (socket.sequence, { socket with sequence := sequenceAfter socket.sequence })

/-- Sends a message; what answers it joins the line of arrivals. -/
def send (message : Octets) (socket : Socket) : Except Error Unit × Socket :=
  let position := socket.sends
  let counted := { socket with sends := position + 1 }
  match socket.failingSends.lookup position with
  | some number => (.error (.io (.system number)), counted)
  | none =>
    (.ok (), { counted with
      outbox := message :: socket.outbox
      queue := socket.queue ++ (socket.replies[position]?).getD [] })

/-- One receiving call.  At the end of the line a call that waits runs out of time, and one
that does not is told once that nothing is there; calls after that fail, unlike those on an
idle system. -/
def call (waits : Bool) (socket : Socket) : Except IoFault Octets × Socket :=
  match socket.queue with
  | .datagram octets :: rest =>
    (.ok (octets.take socket.bufferSize), { socket with queue := rest, drained := false })
  | .failure number :: rest => (.error (.system number), { socket with queue := rest })
  | [] =>
    if waits then (.error .timedOut, socket)
    else if socket.drained then (.error .unexpectedEnd, socket)
    else (.error (.system .wouldBlock), { socket with drained := true })

/-- The line of arrivals without the interruptions at its front. -/
def skipInterruptions (socket : Socket) : Socket :=
  { socket with queue := socket.queue.dropWhile (· == .failure .interrupted) }

/-- Receives one datagram, waiting until there is one; an interrupted call is repeated. -/
def receive (socket : Socket) : Except Error Octets × Socket :=
  let (result, next) := socket.skipInterruptions.call true
  (result.mapError .io, next)

/-- Receives one datagram without waiting. -/
def tryReceive (socket : Socket) : Except Error (Option Octets) × Socket :=
  match socket.call false with
  | (.ok datagram, next) => (.ok (some datagram), next)
  | (.error fault, next) =>
    if fault = .system .wouldBlock ∨ fault = .system .interrupted then (.ok none, next)
    else (.error (.io fault), next)

/-- Joins a group, unless the script says that it fails. -/
def join (group : UInt32) (socket : Socket) : Except Error Unit × Socket :=
  match socket.failingJoins.lookup group with
  | some number => (.error (.io (.system number)), socket)
  | none => (.ok (), { socket with groups := socket.groups ++ [group] })

/-- Leaves a group, which never fails. -/
def leave (group : UInt32) (socket : Socket) : Except Error Unit × Socket :=
  (.ok (), { socket with groups := socket.groups.filter (· != group) })

/-- The greatest size of the system's receive buffer that can be asked for. -/
def greatestSystemBuffer : Nat := 2147483647

/-- Asks for a size of the system's receive buffer, which the system doubles. -/
def setSystemBuffer (size : Nat) (socket : Socket) : Except Error Socket :=
  if size ≤ greatestSystemBuffer then .ok { socket with systemBuffer := 2 * size }
  else .error (.invalidInput (.receiveBuffer size))

/-- A bound on the calls that can still give a datagram or find the line empty. -/
def backlog (socket : Socket) : Nat :=
  2 * socket.queue.length + (if socket.drained then 0 else 1)

/-- A call that changes the socket uses up something of the line of arrivals. -/
theorem backlog_lt_of_call {waits : Bool} {socket next : Socket}
    {result : Except IoFault Octets} (called : socket.call waits = (result, next))
    (changed : next ≠ socket) : next.backlog < socket.backlog := by
  unfold call at called
  split at called <;> rename_i queue
  · simp only [Prod.mk.injEq] at called
    rw [← called.2]
    simp only [backlog, queue, List.length_cons, Bool.false_eq_true, if_false]
    split <;> omega
  · simp only [Prod.mk.injEq] at called
    rw [← called.2]
    simp only [backlog, queue, List.length_cons]
    omega
  · split at called
    · simp only [Prod.mk.injEq] at called
      exact absurd called.2.symm changed
    · split at called
      · simp only [Prod.mk.injEq] at called
        exact absurd called.2.symm changed
      · rename_i undrained
        simp only [Prod.mk.injEq] at called
        rw [← called.2]
        simp [backlog, undrained]

theorem queue_of_call_ok {waits : Bool} {socket next : Socket} {datagram : Octets}
    (called : socket.call waits = (.ok datagram, next)) :
    next.queue.length < socket.queue.length := by
  unfold call at called
  split at called <;> rename_i queue
  · simp only [Prod.mk.injEq] at called
    rw [← called.2, queue]
    exact Nat.lt_succ_self _
  · simp at called
  · split at called
    · simp at called
    · split at called <;> simp at called

theorem backlog_lt_of_call_ok {waits : Bool} {socket next : Socket} {datagram : Octets}
    (called : socket.call waits = (.ok datagram, next)) : next.backlog < socket.backlog :=
  backlog_lt_of_call called fun same =>
    absurd (queue_of_call_ok called) (by rw [same]; exact Nat.lt_irrefl _)

theorem backlog_skipInterruptions (socket : Socket) :
    socket.skipInterruptions.backlog ≤ socket.backlog := by
  have shorter := (List.dropWhile_sublist (l := socket.queue)
    (· == Arrival.failure ErrorNumber.interrupted)).length_le
  exact Nat.add_le_add_right (Nat.mul_le_mul_left 2 shorter) _

/-- Receiving without waiting uses up something, even where nothing is there. -/
theorem backlog_lt_of_tryReceive {socket next : Socket} {result : Option Octets}
    (received : socket.tryReceive = (.ok result, next)) : next.backlog < socket.backlog := by
  unfold tryReceive at received
  split at received
  · rename_i called
    simp only [Prod.mk.injEq] at received
    rw [← received.2]
    exact backlog_lt_of_call_ok called
  · rename_i fault final called
    split at received
    · rename_i quiet
      simp only [Prod.mk.injEq] at received
      rw [← received.2]
      refine backlog_lt_of_call called ?_
      intro same
      subst same
      unfold call at called
      split at called <;> rename_i queue
      · simp at called
      · simp only [Prod.mk.injEq] at called
        have shorter := congrArg (fun socket => socket.queue.length) called.2
        simp [queue] at shorter
      · simp only [Bool.false_eq_true, if_false] at called
        split at called
        · simp only [Prod.mk.injEq, Except.error.injEq] at called
          rw [← called.1] at quiet
          simp at quiet
        · rename_i undrained
          simp only [Prod.mk.injEq] at called
          have flag := congrArg Socket.drained called.2
          simp only at flag
          exact undrained flag.symm
    · simp at received

/-- A socket is a transport; the line of arrivals bounds what can still be received. -/
instance : Transport Socket where
  nextSequence := nextSequence
  port := port
  send := send
  receive := receive
  tryReceive := tryReceive
  join := join
  leave := leave
  backlog := backlog
  backlog_receive := by
    intro socket next datagram received
    unfold receive at received
    simp only [Prod.mk.injEq] at received
    rcases received with ⟨value, rfl⟩
    cases result : (socket.skipInterruptions.call true).1 with
    | error fault =>
      rw [result] at value
      cases value
    | ok octets =>
      have called : socket.skipInterruptions.call true
          = (.ok octets, (socket.skipInterruptions.call true).2) := by
        rw [← result]
      exact Nat.lt_of_lt_of_le (backlog_lt_of_call_ok called)
        (backlog_skipInterruptions socket)
  backlog_tryReceive := backlog_lt_of_tryReceive

end Socket

end BridgeView
