import BridgeView.Transport

/-!
# Prepared conversations

A transport whose other side is prepared: datagrams that wait, an answer to each message
that is sent, and the operations that fail.  It keeps what was sent and which groups are
joined.
-/

namespace BridgeView

/-- A transport with a prepared other side. -/
structure Conversation where
  /-- The next sequence number; it wraps. -/
  sequence : UInt32 := 1
  port : UInt32 := 4242
  /-- The datagrams that wait. -/
  queue : List Octets := []
  /-- The datagrams that answer each message, the first message first. -/
  replies : List (List Octets) := []
  /-- The messages that cannot be sent, counted from zero. -/
  failingSends : List Nat := []
  /-- The groups that cannot be joined. -/
  failingJoins : List UInt32 := []
  /-- The groups that cannot be left. -/
  failingLeaves : List UInt32 := []
  /-- How many messages were to be sent. -/
  sends : Nat := 0
  /-- The messages that were sent, the latest first. -/
  outbox : List Octets := []
  /-- The groups that are joined, in the order of joining. -/
  groups : List UInt32 := []
deriving Repr, Inhabited

namespace Conversation

/-- The messages that were sent, in order. -/
def sent (conversation : Conversation) : List Octets :=
  conversation.outbox.reverse

/-- Sends a message; its answer joins the datagrams that wait. -/
def send (message : Octets) (conversation : Conversation) :
    Except Error Unit × Conversation :=
  let position := conversation.sends
  let counted := { conversation with sends := position + 1 }
  if conversation.failingSends.contains position then (.error (.io .brokenPipe), counted)
  else
    (.ok (), { counted with
      outbox := message :: conversation.outbox
      queue := conversation.queue ++ (conversation.replies[position]?).getD [] })

/-- Receives the first datagram that waits. -/
def receive (conversation : Conversation) : Except Error Octets × Conversation :=
  match conversation.queue with
  | [] => (.error (.io .timedOut), conversation)
  | datagram :: rest => (.ok datagram, { conversation with queue := rest })

/-- Receives the first datagram that waits, if there is one. -/
def tryReceive (conversation : Conversation) :
    Except Error (Option Octets) × Conversation :=
  match conversation.queue with
  | [] => (.ok none, conversation)
  | datagram :: rest => (.ok (some datagram), { conversation with queue := rest })

/-- Joins a group, unless the conversation says that it fails. -/
def join (group : UInt32) (conversation : Conversation) : Except Error Unit × Conversation :=
  if conversation.failingJoins.contains group then
    (.error (.io .permissionDenied), conversation)
  else (.ok (), { conversation with groups := conversation.groups ++ [group] })

/-- Leaves a group, however often it was joined. -/
def leave (group : UInt32) (conversation : Conversation) : Except Error Unit × Conversation :=
  if conversation.failingLeaves.contains group then
    (.error (.io .entityNotFound), conversation)
  else (.ok (), { conversation with groups := conversation.groups.filter (· != group) })

/-- A conversation is a transport whose numbers simply go up. -/
instance : Transport Conversation where
  nextSequence conversation :=
    (conversation.sequence, { conversation with sequence := conversation.sequence + 1 })
  port := port
  send := send
  receive := receive
  tryReceive := tryReceive
  join := join
  leave := leave
  backlog conversation := conversation.queue.length
  backlog_receive := by
    intro state next datagram received
    unfold receive at received
    split at received
    · simp at received
    · rename_i queue
      simp only [Prod.mk.injEq] at received
      rw [← received.2, queue]
      exact Nat.lt_succ_self _
  backlog_tryReceive := by
    intro state next datagram received
    unfold tryReceive at received
    split at received
    · simp at received
    · rename_i queue
      simp only [Prod.mk.injEq] at received
      rw [← received.2, queue]
      exact Nat.lt_succ_self _

end Conversation

end BridgeView
