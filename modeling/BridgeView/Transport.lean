import BridgeView.Draft

/-!
# Transports

A transport is a channel on which datagrams are sent to the kernel and received from
it.  It is described by what each operation does to its state, so that statements
about requests hold for every behaviour of the kernel.  Only finitely many datagrams
can still arrive at any time: a bound on them falls with each one received, which is
why every loop that receives comes to an end.  A channel that delivers datagrams for
ever is thereby left out, and nothing else is: a loop that ends has received finitely
many datagrams and does the same on a channel that has no more of them.

On a transport, a request is numbered and sent, its acknowledgement is awaited, and
the answer to a request for a dump is collected message by message.  Replies are
matched to requests by the sequence number alone.
-/

namespace BridgeView

/-- A channel on which datagrams are sent and received. -/
class Transport (σ : Type) where
  /-- Draws the next sequence number. -/
  nextSequence : σ → UInt32 × σ
  /-- The port under which the channel sends. -/
  port : σ → UInt32
  /-- Sends one message. -/
  send : Octets → σ → Except Error Unit × σ
  /-- Receives one datagram, waiting until there is one. -/
  receive : σ → Except Error Octets × σ
  /-- Receives one datagram if there is one. -/
  tryReceive : σ → Except Error (Option Octets) × σ
  /-- Joins a group of events. -/
  join : UInt32 → σ → Except Error Unit × σ
  /-- Leaves a group of events. -/
  leave : UInt32 → σ → Except Error Unit × σ
  /-- A bound on the datagrams that can still be received. -/
  backlog : σ → Nat
  /-- Receiving a datagram lowers the bound. -/
  backlog_receive : ∀ {state next : σ} {datagram : Octets},
    receive state = (.ok datagram, next) → backlog next < backlog state
  /-- Receiving a datagram that is there lowers the bound. -/
  backlog_tryReceive : ∀ {state next : σ} {datagram : Octets},
    tryReceive state = (.ok (some datagram), next) → backlog next < backlog state

namespace Transport

variable {σ : Type} [Transport σ]

/-- Numbers a draft, sends it, and gives the number.  The draft must not carry a number
yet: numbers belong to the transport. -/
def sendNumbered (draft : Draft) (state : σ) : Except Error UInt32 × σ :=
  if draft.header.sequence = 0 then
    let (sequence, numbered) := nextSequence state
    let message := ((draft.setSequence sequence).setPort (port numbered)).finish
    match send message numbered with
    | (.ok (), sent) => (.ok sequence, sent)
    | (.error error, failed) => (.error error, failed)
  else (.error (.alreadyNumbered draft.header.sequence), state)

/-- What the messages of a datagram say about the request of a number: nothing, or the
outcome. -/
def acknowledgement? (sequence : UInt32) :
    List (Except Error Message) → Option (Except Error Unit)
  | [] => none
  | .error error :: _ => some (.error error)
  | .ok message :: rest =>
    if message.header.sequence ≠ sequence then acknowledgement? sequence rest
    else if message.header.isError then
      some ((ErrorReply.ofOctets message.payload).bind ErrorReply.outcome)
    else if message.header.isDone then some (.ok ())
    else acknowledgement? sequence rest

/-- Waits for the outcome of the request of a number. -/
def awaitAcknowledgement (sequence : UInt32) (state : σ) : Except Error Unit × σ :=
  match _ : receive state with
  | (.error error, next) => (.error error, next)
  | (.ok datagram, next) =>
    match acknowledgement? sequence (Message.ofDatagram datagram) with
    | some outcome => (outcome, next)
    | none => awaitAcknowledgement sequence next
termination_by backlog state
decreasing_by exact backlog_receive (by assumption)

theorem awaitAcknowledgement_of_error {sequence : UInt32} {state next : σ} {error : Error}
    (received : receive state = (.error error, next)) :
    awaitAcknowledgement sequence state = (.error error, next) := by
  rw [awaitAcknowledgement]
  split <;> simp_all

theorem awaitAcknowledgement_of_ok {sequence : UInt32} {state next : σ} {datagram : Octets}
    (received : receive state = (.ok datagram, next)) :
    awaitAcknowledgement sequence state =
      match acknowledgement? sequence (Message.ofDatagram datagram) with
      | some outcome => (outcome, next)
      | none => awaitAcknowledgement sequence next := by
  rw [awaitAcknowledgement]
  split
  · simp_all
  · rename_i found
    rw [received] at found
    simp only [Prod.mk.injEq, Except.ok.injEq] at found
    rcases found with ⟨rfl, rfl⟩
    rfl

/-- What is done with each message of a dump: it changes a value and may fail. -/
abbrev Handler (β : Type) := Message → β → Except Error Unit × β

/-- How far a dump has come. -/
structure DumpProgress (β : Type) where
  /-- Whether a message said that the kernel changed meanwhile. -/
  interrupted : Bool
  /-- What the messages so far have made of the value. -/
  value : β
  /-- The outcome, once the dump has ended. -/
  outcome? : Option (Except Error Unit)

/-- Takes the messages of a datagram into a dump. -/
def dumpMessages {β : Type} (sequence : UInt32) (handle : Handler β) (interrupted : Bool)
    (value : β) : List (Except Error Message) → DumpProgress β
  | [] => ⟨interrupted, value, none⟩
  | .error error :: _ => ⟨interrupted, value, some (.error error)⟩
  | .ok message :: rest =>
    if message.header.sequence ≠ sequence then
      dumpMessages sequence handle interrupted value rest
    else
      let interrupted := interrupted || message.header.isInterrupted
      if message.header.isDone then
        let outcome := if interrupted then .error .dumpInterrupted else .ok ()
        ⟨interrupted, value, some outcome⟩
      else if message.header.isError then
        let outcome := (ErrorReply.ofOctets message.payload).bind ErrorReply.outcome
        ⟨interrupted, value, some outcome⟩
      else if message.header.type = MessageType.noop then
        dumpMessages sequence handle interrupted value rest
      else
        match handle message value with
        | (.ok (), value) => dumpMessages sequence handle interrupted value rest
        | (.error error, value) => ⟨interrupted, value, some (.error error)⟩

/-- Collects the dump of a number, continuing one that may have been interrupted. -/
def collectDump {β : Type} (sequence : UInt32) (handle : Handler β) (interrupted : Bool)
    (value : β) (state : σ) : Except Error Unit × β × σ :=
  match _ : receive state with
  | (.error error, next) => (.error error, value, next)
  | (.ok datagram, next) =>
    let progress :=
      dumpMessages sequence handle interrupted value (Message.ofDatagram datagram)
    match progress.outcome? with
    | some outcome => (outcome, progress.value, next)
    | none => collectDump sequence handle progress.interrupted progress.value next
termination_by backlog state
decreasing_by exact backlog_receive (by assumption)

theorem collectDump_of_error {β : Type} {sequence : UInt32} {handle : Handler β}
    {interrupted : Bool} {value : β} {state next : σ} {error : Error}
    (received : receive state = (.error error, next)) :
    collectDump sequence handle interrupted value state = (.error error, value, next) := by
  rw [collectDump]
  split <;> simp_all

theorem collectDump_of_ok {β : Type} {sequence : UInt32} {handle : Handler β}
    {interrupted : Bool} {value : β} {state next : σ} {datagram : Octets}
    (received : receive state = (.ok datagram, next)) :
    collectDump sequence handle interrupted value state =
      let progress :=
        dumpMessages sequence handle interrupted value (Message.ofDatagram datagram)
      match progress.outcome? with
      | some outcome => (outcome, progress.value, next)
      | none => collectDump sequence handle progress.interrupted progress.value next := by
  rw [collectDump]
  split
  · simp_all
  · rename_i found
    rw [received] at found
    simp only [Prod.mk.injEq, Except.ok.injEq] at found
    rcases found with ⟨rfl, rfl⟩
    rfl

/-- Collects the dump of a number: every message of that number but the skipped ones is
handled until one ends the dump. -/
def receiveDump {β : Type} (sequence : UInt32) (handle : Handler β) (value : β) (state : σ) :
    Except Error Unit × β × σ :=
  collectDump sequence handle false value state

end Transport

end BridgeView
