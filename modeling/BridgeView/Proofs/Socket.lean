import BridgeView.Proofs.Retry
import BridgeView.Socket

/-!
# What a socket sends for a request

A socket keeps the messages it has sent, in order. Waiting for an answer takes from the line of
arrivals and changes nothing else (`exists_awaitAcknowledgement_eq`), so a request that nobody has
numbered adds one message, or two if it is sent again under its second type, and adds none exactly
if the system refuses the first one.
-/

namespace BridgeView

open Transport

/-- The message of a draft under a number and a port. -/
def Draft.numbered (draft : Draft) (sequence port : UInt32) : Octets :=
  ((draft.setSequence sequence).setPort port).finish

namespace Socket

/-- A receiving call leaves everything but the line of arrivals as it is. -/
theorem exists_call_eq (waits : Bool) (socket : Socket) :
    ∃ queue drained, (socket.call waits).2 = { socket with queue, drained } := by
  unfold call
  split
  · exact ⟨_, _, rfl⟩
  · exact ⟨_, _, rfl⟩
  · split
    · exact ⟨_, _, rfl⟩
    · split
      · exact ⟨_, _, rfl⟩
      · exact ⟨_, _, rfl⟩

theorem exists_receive_eq (socket : Socket) :
    ∃ queue drained, (Transport.receive socket).2 = { socket with queue, drained } :=
  exists_call_eq true socket.skipInterruptions

theorem exists_awaitAcknowledgement_eq (sequence : UInt32) (socket : Socket) :
    ∃ queue drained,
      (awaitAcknowledgement sequence socket).2 = { socket with queue, drained } := by
  -- Every datagram received lowers the backlog, which is what the induction is on.
  induction bound : Transport.backlog socket using Nat.strongRecOn generalizing socket with
  | ind bound ih =>
      subst bound
      rcases exists_receive_eq socket with ⟨queue, drained, isNext⟩
      rcases received : Transport.receive socket with ⟨result, next⟩
      have line : next = { socket with queue, drained } := by rw [← isNext, received]
      cases result with
      | error error =>
          rw [awaitAcknowledgement_of_error received]
          exact ⟨queue, drained, line⟩
      | ok datagram =>
          rw [awaitAcknowledgement_of_ok received]
          split
          · exact ⟨queue, drained, line⟩
          · rcases ih _ (backlog_receive received) next rfl with ⟨laterQueue, laterDrained, later⟩
            rw [line] at later
            exact ⟨laterQueue, laterDrained, by rw [line]; exact later⟩

theorem fresh_ofScript {port : UInt32} {script : SocketScript} {socket : Socket}
    (opened : ofScript port script = .ok socket) : socket.sends = 0 ∧ socket.sent = [] := by
  unfold ofScript at opened
  split at opened
  · cases opened
  · cases opened
    exact ⟨rfl, rfl⟩

/-- The socket when it has sent a message under its next number. -/
def afterSending (message : Octets) (socket : Socket) : Socket :=
  { socket with
    sequence := sequenceAfter socket.sequence
    sends := socket.sends + 1
    outbox := message :: socket.outbox
    queue := socket.queue ++ (socket.replies[socket.sends]?).getD [] }

/-- The socket has sent a message, and perhaps received what came after it. -/
structure HasSent (message : Octets) (before after : Socket) : Prop where
  sequence_eq : after.sequence = sequenceAfter before.sequence
  port_eq : after.port = before.port
  sent_eq : after.sent = before.sent ++ [message]

end Socket

namespace ChangeRequest

/-- The messages that a socket sends for a request, once it can send the first one. -/
inductive Sends (request : ChangeRequest) (socket : Socket) : List Octets → Prop
  | once : Sends request socket [request.draft.numbered socket.sequence socket.port]
  | twice {fallback : UInt16} (isFallback : request.fallback? = some fallback) :
      Sends request socket
        [request.draft.numbered socket.sequence socket.port,
          (request.draft.setType fallback).numbered (Socket.sequenceAfter socket.sequence)
            socket.port]

/-- Every message has the body of the request. -/
theorem Sends.exists_header {request : ChangeRequest} {socket : Socket} {messages : List Octets}
    (sends : request.Sends socket messages) {octets : Octets} (isSent : octets ∈ messages) :
    ∃ header, octets = ({ header, body := request.draft.body } : Draft).finish := by
  cases sends with
  | once =>
      rw [List.mem_singleton] at isSent
      exact ⟨_, isSent⟩
  | twice isFallback =>
      rcases List.mem_pair.mp isSent with isFirst | isSecond
      · exact ⟨_, isFirst⟩
      · exact ⟨_, isSecond⟩

variable {draft : Draft} {request : ChangeRequest} {socket : Socket} {number : ErrorNumber}

/-- An attempt that cannot be sent ends there. -/
theorem attempt_of_failing (unnumbered : draft.header.sequence = 0)
    (failing : socket.failingSends.lookup socket.sends = some number) :
    attempt draft socket =
      (.unsent (.io (.system number)),
        { socket with
          sequence := Socket.sequenceAfter socket.sequence, sends := socket.sends + 1 }) := by
  simp only [attempt, sendNumbered, unnumbered, if_true, nextSequence, Socket.nextSequence, send,
    Socket.send, failing]

/-- An attempt that can be sent has sent its message. -/
theorem hasSent_attempt (unnumbered : draft.header.sequence = 0)
    (sendable : socket.failingSends.lookup socket.sends = none) :
    Socket.HasSent (draft.numbered socket.sequence socket.port) socket
      (attempt draft socket).2 := by
  have awaits : (attempt draft socket).2 = (awaitAcknowledgement socket.sequence
      (socket.afterSending (draft.numbered socket.sequence socket.port))).2 := by
    simp only [attempt, sendNumbered, unnumbered, if_true, nextSequence, Socket.nextSequence, send,
      Socket.send, sendable]
    rfl
  rcases Socket.exists_awaitAcknowledgement_eq socket.sequence
    (socket.afterSending (draft.numbered socket.sequence socket.port)) with
    ⟨queue, drained, isFinal⟩
  rw [awaits, isFinal]
  exact ⟨rfl, rfl, List.reverse_cons⟩

/-- A request that cannot be sent has sent nothing. -/
theorem submit_of_failing (unnumbered : request.draft.header.sequence = 0)
    (failing : socket.failingSends.lookup socket.sends = some number) :
    (request.submit socket).1 = .error (.io (.system number)) ∧
      (request.submit socket).2.sent = socket.sent := by
  have first := attempt_of_failing unnumbered failing
  rw [submit_of_first (Or.inr (by rw [first]; rfl)), first]
  exact ⟨rfl, rfl⟩

/-- A request that can be sent is sent once, or once more under its second type. -/
theorem exists_sends (unnumbered : request.draft.header.sequence = 0)
    (sendable : socket.failingSends.lookup socket.sends = none) :
    ∃ messages, request.Sends socket messages ∧
      (request.submit socket).2.sent = socket.sent ++ messages := by
  have first := hasSent_attempt unnumbered sendable
  by_cases decides : request.fallback? = none ∨
      (attempt request.draft socket).1.isUnsupported = false
  · refine ⟨_, Sends.once, ?_⟩
    rw [submit_of_first decides]
    exact first.sent_eq
  · rw [not_or, Bool.not_eq_false] at decides
    rcases decides with ⟨hasFallback, unsupported⟩
    rcases Option.ne_none_iff_exists'.mp hasFallback with ⟨fallback, isFallback⟩
    have stillUnnumbered : (request.draft.setType fallback).header.sequence = 0 := unnumbered
    rw [submit_of_second isFallback unsupported]
    generalize (attempt request.draft socket).2 = next at first ⊢
    rcases sendableAgain : next.failingSends.lookup next.sends with _ | number
    · have second := hasSent_attempt stillUnnumbered sendableAgain
      refine ⟨_, Sends.twice isFallback, ?_⟩
      rw [second.sent_eq, first.sent_eq, first.sequence_eq, first.port_eq, List.append_assoc]
      rfl
    · refine ⟨_, Sends.once, ?_⟩
      rw [attempt_of_failing stillUnnumbered sendableAgain]
      exact first.sent_eq

end ChangeRequest

end BridgeView
