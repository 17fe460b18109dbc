import BridgeView.Multicast.Request
import BridgeView.Proofs.Replies
import BridgeView.Vlan.Request

/-!
# Requests that are sent again

A request is sent once, and once more under its second type if and only if the wait for the first
outcome ended in the error that the operation is not supported. The second message is the first
one but for its type, its number and its port, and the last attempt decides (`Submission`).

To speak of what is sent, a transport is overheard: every message is noted that is given to it,
whether or not it can be sent. Nothing else depends on the notes (`submit_overheard`).
-/

namespace BridgeView

open Transport

/-! ## Overheard transports -/

/-- A transport, and the messages that were given to it to be sent. -/
structure Overheard (σ : Type) where
  link : σ
  sent : List Octets := []

namespace Overheard

variable {σ : Type} [Transport σ]

/-- A link that is overheard behaves like the link, and every message handed to it is noted. -/
instance : Transport (Overheard σ) where
  nextSequence state :=
    ((nextSequence state.link).1, { state with link := (nextSequence state.link).2 })
  port state := port state.link
  send message state :=
    ((send message state.link).1, ⟨(send message state.link).2, state.sent ++ [message]⟩)
  receive state := ((receive state.link).1, { state with link := (receive state.link).2 })
  tryReceive state :=
    ((tryReceive state.link).1, { state with link := (tryReceive state.link).2 })
  join group state := ((join group state.link).1, { state with link := (join group state.link).2 })
  leave group state :=
    ((leave group state.link).1, { state with link := (leave group state.link).2 })
  backlog state := backlog state.link
  backlog_receive := by
    intro state next datagram received
    rw [Prod.mk.injEq] at received
    rcases received with ⟨isOk, rfl⟩
    exact backlog_receive (Prod.ext isOk rfl)
  backlog_tryReceive := by
    intro state next datagram received
    rw [Prod.mk.injEq] at received
    rcases received with ⟨isOk, rfl⟩
    exact backlog_tryReceive (Prod.ext isOk rfl)

/-- Waiting for an outcome sends nothing. -/
theorem awaitAcknowledgement_overheard (sequence : UInt32) (state : Overheard σ) :
    awaitAcknowledgement sequence state =
      ((awaitAcknowledgement sequence state.link).1,
        { state with link := (awaitAcknowledgement sequence state.link).2 }) := by
  -- Every datagram received lowers the backlog of the link, which is what the induction is on.
  induction bound : backlog state.link using Nat.strongRecOn generalizing state with
  | ind bound ih =>
      subst bound
      rcases received : receive state.link with ⟨error | datagram, next⟩
      · have alsoReceived : receive state = (.error error, { state with link := next }) := by
          simp only [receive, received]
        rw [awaitAcknowledgement_of_error received, awaitAcknowledgement_of_error alsoReceived]
      · have alsoReceived : receive state = (.ok datagram, { state with link := next }) := by
          simp only [receive, received]
        rw [awaitAcknowledgement_of_ok received, awaitAcknowledgement_of_ok alsoReceived]
        rcases acknowledgement? sequence (Message.ofDatagram datagram) with _ | outcome
        · exact ih _ (backlog_receive received) { state with link := next } rfl
        · rfl

theorem attempt_overheard (draft : Draft) (state : Overheard σ) :
    (ChangeRequest.attempt draft state).1 = (ChangeRequest.attempt draft state.link).1 ∧
      (ChangeRequest.attempt draft state).2.link = (ChangeRequest.attempt draft state.link).2 := by
  by_cases unnumbered : draft.header.sequence = 0
  · simp only [ChangeRequest.attempt, sendNumbered, unnumbered, if_true, nextSequence, port, send]
    rcases send _ (nextSequence state.link).2 with ⟨error | _, next⟩
    · exact ⟨rfl, rfl⟩
    · simp only [awaitAcknowledgement_overheard, and_self]
  · simp only [ChangeRequest.attempt, sendNumbered, unnumbered, if_false, and_self]

/-- A request is submitted to an overheard link as to the link itself. -/
theorem submit_overheard (request : ChangeRequest) (state : Overheard σ) :
    (request.submit state).1 = (request.submit state.link).1 ∧
      (request.submit state).2.link = (request.submit state.link).2 := by
  rcases attempt_overheard request.draft state with ⟨sameFirst, sameNext⟩
  unfold ChangeRequest.submit
  dsimp only
  rw [sameFirst]
  split
  · exact ⟨rfl, sameNext⟩
  · rename_i fallback _
    split
    · rcases attempt_overheard (request.draft.setType fallback)
        (ChangeRequest.attempt request.draft state).2 with ⟨sameSecond, sameFinal⟩
      rw [sameSecond, sameNext, sameFinal, sameNext]
      exact ⟨rfl, rfl⟩
    · exact ⟨rfl, sameNext⟩

end Overheard

/-! ## Trials -/

/-- A message under a number of its own, and what sending it came to. -/
structure Trial (σ : Type) where
  sequence : UInt32
  port : UInt32
  message : Octets
  sending : Except Error Unit × σ

namespace Trial

open ChangeRequest

variable {σ : Type} [Transport σ]

/-- The trial of a draft: it is numbered and handed to the transport. -/
def ofDraft (draft : Draft) (state : σ) : Trial σ :=
  let (sequence, numbered) := nextSequence state
  let message := ((draft.setSequence sequence).setPort (Transport.port numbered)).finish
  ⟨sequence, Transport.port numbered, message, send message numbered⟩

/-- What came of a trial; a message that was sent is answered under the number of the trial. -/
def attempt (trial : Trial σ) : Attempt × σ :=
  match trial.sending with
  | (.error error, failed) => (.unsent error, failed)
  | (.ok (), sent) =>
      let (outcome, final) := awaitAcknowledgement trial.sequence sent
      (.answered outcome, final)

theorem attempt_eq_trial {draft : Draft} (unnumbered : draft.header.sequence = 0) (state : σ) :
    ChangeRequest.attempt draft state = (ofDraft draft state).attempt := by
  simp only [ChangeRequest.attempt, sendNumbered, unnumbered, if_true, attempt, ofDraft]
  rcases send _ (nextSequence state).2 with ⟨error | _, next⟩ <;> rfl

/-- The message of a trial states the number and the port, and otherwise what the draft does. -/
theorem take?_message (draft : Draft) (state : σ) :
    MessageHeader.take? (ofDraft draft state).message =
      some (⟨UInt32.ofNat draft.size, draft.header.type, draft.header.flags,
        (ofDraft draft state).sequence, (ofDraft draft state).port⟩, draft.body) :=
  MessageHeader.take?_toOctets_append _ _

/-- The second message is the first one but for its type, its number and its port. -/
def Resends (fallback : UInt16) (first second : Trial σ) : Prop :=
  ∃ (header : MessageHeader) (body : Octets),
    MessageHeader.take? first.message =
        some ({ header with sequence := first.sequence, port := first.port }, body) ∧
      MessageHeader.take? second.message =
        some ({ header with type := fallback, sequence := second.sequence, port := second.port },
          body) ∧
      second.message.length = first.message.length

/-- A second trial differs from the first one in type, number and port only. -/
theorem resends_setType (draft : Draft) (fallback : UInt16) (start next : σ) :
    Resends fallback (ofDraft draft start) (ofDraft (draft.setType fallback) next) := by
  have first := take?_message draft start
  have second := take?_message (draft.setType fallback) next
  refine ⟨{ draft.header with length := UInt32.ofNat draft.size }, draft.body, first, second, ?_⟩
  rw [MessageHeader.length_of_take? first, MessageHeader.length_of_take? second]
  rfl

theorem sent_attempt (draft : Draft) (state : Overheard σ) :
    (ofDraft draft state).attempt.2.sent = state.sent ++ [(ofDraft draft state).message] := by
  simp only [attempt, ofDraft, send, nextSequence]
  rcases send _ (nextSequence state.link).2 with ⟨error | _, next⟩
  · rfl
  · simp only [Overheard.awaitAcknowledgement_overheard]

end Trial

/-! ## Refusals -/

/-- The first message of a stream that settles the request of a number is a reply. -/
def SettledBy (sequence : UInt32) (stream : List (Except Error Message)) (reply : ErrorReply) :
    Prop :=
  ∃ (before : List Message) (message : Message) (rest : List (Except Error Message)),
    stream = before.map .ok ++ .ok message :: rest ∧
    (∀ other ∈ before, other.header.sequence = sequence →
      other.header.isError = false ∧ other.header.isDone = false) ∧
    message.header.sequence = sequence ∧ message.header.isError = true ∧
      ErrorReply.ofOctets message.payload = .ok reply

/-- Messages that do not settle a request say nothing of its outcome. -/
theorem acknowledgement?_of_unsettled {sequence : UInt32} {messages : List Message}
    (unsettled : ∀ message ∈ messages, message.header.sequence = sequence →
      message.header.isError = false ∧ message.header.isDone = false) :
    acknowledgement? sequence (messages.map .ok) = none := by
  induction messages with
  | nil => rfl
  | cons message rest ih =>
      rw [List.forall_mem_cons] at unsettled
      rcases unsettled with ⟨first, others⟩
      rw [List.map_cons, acknowledgement?]
      split
      · exact ih others
      · rename_i own
        rcases first (not_ne_iff.mp own) with ⟨notError, notDone⟩
        simp [notError, notDone, ih others]

/-- The reply that settles a request decides on the outcome. -/
theorem awaitAcknowledgement_of_settledBy {σ : Type} [Transport σ] {sequence : UInt32} {state : σ}
    {reply : ErrorReply} (settled : SettledBy sequence (stream state) reply) :
    (awaitAcknowledgement sequence state).1 = reply.outcome := by
  rcases settled with ⟨before, message, rest, split, unsettled, own, isError, isReply⟩
  apply Option.some.inj
  rw [← awaitAcknowledgement_eq_stream, split, acknowledgement?_append,
    acknowledgement?_of_unsettled unsettled]
  simp [acknowledgement?, own, isError, isReply, Except.bind]

/-- An outcome reports that the kernel refused with a number. -/
def RefusedWith (number : Int) (outcome : Except Error Unit) : Prop :=
  ∃ error refusal, outcome = .error error ∧ error.number? = some refusal ∧ refusal.toInt = number

/-- A negative code is an error number. -/
theorem refusedWith_of_code {reply : ErrorReply} (above : Int32.minValue < reply.code)
    (below : reply.code < 0) : RefusedWith (-reply.code.toInt) reply.outcome := by
  have notZero : reply.code ≠ 0 := by
    intro isZero
    rw [isZero] at below
    exact absurd below (by decide)
  refine ⟨.ofReplyCode reply.code, -reply.code, ?_, rfl, ?_⟩
  · simp [ErrorReply.outcome, notZero]
  · -- Above the least code, negation does not wrap.
    rw [Int32.lt_iff_toInt_lt, Int32.toInt_minValue] at above
    have upper := reply.code.toInt_lt
    rw [Int32.toInt_neg, Int.bmod_eq_of_le]
    · omega
    · omega

/-- Context keeps a refusal a refusal. -/
theorem RefusedWith.during {number : Int} {outcome : Except Error Unit}
    (refused : RefusedWith number outcome) (operation : String) :
    RefusedWith number (outcome.mapError (Error.during operation)) := by
  rcases refused with ⟨error, refusal, rfl, isNumber, sameNumber⟩
  exact ⟨error.during operation, refusal, rfl, by simp [isNumber], sameNumber⟩

/-- A trial was sent, and a reply of its number settles it. -/
def Trial.AnsweredBy {σ : Type} [Transport σ] (trial : Trial σ) (reply : ErrorReply) : Prop :=
  ∃ sent, trial.sending = (.ok (), sent) ∧ SettledBy trial.sequence (stream sent) reply

theorem Trial.outcome_of_answeredBy {σ : Type} [Transport σ] {trial : Trial σ} {reply : ErrorReply}
    (answered : trial.AnsweredBy reply) : trial.attempt.1.outcome = reply.outcome := by
  rcases answered with ⟨sent, sending, settled⟩
  simp only [attempt, sending]
  exact awaitAcknowledgement_of_settledBy settled

/-! ## Submissions -/

/-- A request from its start to its outcome: a first trial, and perhaps a second one. -/
structure Submission {σ : Type} [Transport σ] (request : ChangeRequest) (start : Overheard σ)
    (first : Trial (Overheard σ)) (second? : Option (Trial (Overheard σ)))
    (outcome : Except Error Unit) (final : Overheard σ) : Prop where
  first_eq : first = .ofDraft request.draft start
  second_isSome_iff : second?.isSome = true ↔
    request.fallback?.isSome = true ∧
      ∃ error, first.attempt.1 = .answered (.error error) ∧ error.isNotSupported = true
  second_eq : ∀ second ∈ second?, ∃ fallback ∈ request.fallback?,
    second = .ofDraft (request.draft.setType fallback) first.attempt.2 ∧
      first.Resends fallback second
  sent_eq : final.sent = start.sent ++ first.message :: (second?.map (·.message)).toList
  final_eq : final = (second?.getD first).attempt.2
  outcome_eq : outcome = (second?.getD first).attempt.1.outcome

/-- An attempt asks for the fallback if it was answered with an error that says so. -/
theorem ChangeRequest.Attempt.isUnsupported_iff (attempt : ChangeRequest.Attempt) :
    attempt.isUnsupported = true ↔
      ∃ error, attempt = .answered (.error error) ∧ error.isNotSupported = true := by
  rcases attempt with error | error | _
  · simp [isUnsupported]
  · simp [isUnsupported]
  · simp [isUnsupported]

/-- The reply to the last trial decides on the outcome of a request. -/
theorem Submission.refusedWith {σ : Type} [Transport σ] {request : ChangeRequest}
    {start final : Overheard σ} {first : Trial (Overheard σ)}
    {second? : Option (Trial (Overheard σ))} {outcome : Except Error Unit}
    (submission : Submission request start first second? outcome final) {reply : ErrorReply}
    (answered : (second?.getD first).AnsweredBy reply) (above : Int32.minValue < reply.code)
    (below : reply.code < 0) : RefusedWith (-reply.code.toInt) outcome := by
  rw [submission.outcome_eq, Trial.outcome_of_answeredBy answered]
  exact refusedWith_of_code above below

namespace ChangeRequest

variable {σ : Type} [Transport σ] {request : ChangeRequest}

/-- Where there is no fallback or no need of it, the first attempt decides. -/
theorem submit_of_first {state : σ} (decides : request.fallback? = none ∨
      (attempt request.draft state).1.isUnsupported = false) :
    request.submit state =
      ((attempt request.draft state).1.outcome, (attempt request.draft state).2) := by
  rcases fallback : request.fallback? with _ | type
  · simp only [submit, fallback]
  · have supported : (attempt request.draft state).1.isUnsupported = false := by
      simpa [fallback] using decides
    simp [submit, fallback, supported]

/-- Where there is a fallback and need of it, the second attempt decides. -/
theorem submit_of_second {state : σ} {fallback : UInt16}
    (hasFallback : request.fallback? = some fallback)
    (unsupported : (attempt request.draft state).1.isUnsupported = true) :
    request.submit state =
      let second := attempt (request.draft.setType fallback) (attempt request.draft state).2
      (second.1.outcome, second.2) := by
  simp only [submit, hasFallback, unsupported, if_true]

theorem submission_of_first (unnumbered : request.draft.header.sequence = 0) (start : Overheard σ)
    (decides : request.fallback? = none ∨
      (Trial.ofDraft request.draft start).attempt.1.isUnsupported = false) :
    Submission request start (.ofDraft request.draft start) none (request.submit start).1
      (request.submit start).2 := by
  have first := Trial.attempt_eq_trial unnumbered start
  rw [submit_of_first (first ▸ decides), first]
  constructor
  · rfl
  · rw [← Attempt.isUnsupported_iff]
    rcases decides with isNone | supported
    · simp [isNone]
    · simp [supported]
  · simp
  · exact Trial.sent_attempt request.draft start
  · rfl
  · rfl

theorem submission_of_second (unnumbered : request.draft.header.sequence = 0) (start : Overheard σ)
    {fallback : UInt16} (hasFallback : request.fallback? = some fallback)
    (unsupported : (Trial.ofDraft request.draft start).attempt.1.isUnsupported = true) :
    Submission request start (.ofDraft request.draft start)
      (some (.ofDraft (request.draft.setType fallback)
        (Trial.ofDraft request.draft start).attempt.2))
      (request.submit start).1 (request.submit start).2 := by
  have first := Trial.attempt_eq_trial unnumbered start
  have stillUnnumbered : (request.draft.setType fallback).header.sequence = 0 := unnumbered
  have second := Trial.attempt_eq_trial stillUnnumbered
    (Trial.ofDraft request.draft start).attempt.2
  rw [submit_of_second hasFallback (first ▸ unsupported), first, second]
  constructor
  · rfl
  · rw [← Attempt.isUnsupported_iff]
    simp [hasFallback, unsupported]
  · rintro _ ⟨⟩
    exact ⟨fallback, hasFallback, rfl, Trial.resends_setType ..⟩
  · have firstSent := Trial.sent_attempt request.draft start
    have secondSent := Trial.sent_attempt (request.draft.setType fallback)
      (Trial.ofDraft request.draft start).attempt.2
    rw [secondSent, firstSent, List.append_assoc]
    rfl
  · rfl
  · rfl

/-- Every request is submitted by one trial or two. -/
theorem exists_submission (unnumbered : request.draft.header.sequence = 0)
    (start : Overheard σ) :
    ∃ first second?, Submission request start first second? (request.submit start).1
      (request.submit start).2 := by
  rcases hasFallback : request.fallback? with _ | fallback
  · exact ⟨_, _, submission_of_first unnumbered start (Or.inl hasFallback)⟩
  · cases unsupported : (Trial.ofDraft request.draft start).attempt.1.isUnsupported with
    | false => exact ⟨_, _, submission_of_first unnumbered start (Or.inr unsupported)⟩
    | true => exact ⟨_, _, submission_of_second unnumbered start hasFallback unsupported⟩

end ChangeRequest

/-! ## Changes of a bridge -/

theorem Draft.header_reserve [Memory] {type flags : UInt16} {capacity : Nat} {draft : Draft}
    (reserved : Draft.reserve type flags capacity = .ok draft) :
    draft.header = .ofType type flags := by
  unfold Draft.reserve at reserved
  split at reserved
  · cases reserved
    rfl
  · cases reserved

theorem PortVlans.sequence_linkDraft [Memory] {type flags : UInt16} {port changes : PortVlans}
    {draft : Draft} (isDraft : PortVlans.linkDraft type port changes flags = .ok draft) :
    draft.header.sequence = 0 := by
  unfold PortVlans.linkDraft at isDraft
  split at isDraft
  · cases isDraft
  · dsimp only at isDraft
    split at isDraft
    · cases isDraft
    · rcases exists_of_bind_eq_ok isDraft with ⟨empty, reserved, composed⟩
      cases composed
      exact congrArg MessageHeader.sequence (Draft.header_reserve reserved)

theorem PortVlans.sequence_linkRequest [Memory] {type flags : UInt16} {port changes : PortVlans}
    {fallback? : Option UInt16} {request : ChangeRequest}
    (isRequest : (do
      let draft ← PortVlans.linkDraft type port changes flags
      return ({ draft, fallback? := fallback? } : ChangeRequest)) = .ok request) :
    request.draft.header.sequence = 0 := by
  rcases exists_of_bind_eq_ok isRequest with ⟨draft, isDraft, composed⟩
  cases composed
  exact sequence_linkDraft isDraft

theorem GroupTable.sequence_request [Memory] {type flags : UInt16} {bridge : UInt32}
    {entry : GroupEntry} {request : ChangeRequest}
    (isRequest : GroupTable.request type bridge entry flags = .ok request) :
    request.draft.header.sequence = 0 := by
  rcases exists_of_bind_eq_ok isRequest with ⟨empty, reserved, composed⟩
  cases composed
  exact congrArg MessageHeader.sequence (Draft.header_reserve reserved)

/-- The changes of a bridge that are asked for. -/
inductive BridgeChange
  | addVlans (port changes : PortVlans) (flags : UInt16)
  | deleteVlans (port changes : PortVlans)
  | addGroup (bridge : UInt32) (entry : GroupEntry) (flags : UInt16)
  | deleteGroup (bridge : UInt32) (entry : GroupEntry)

namespace BridgeChange

/-- The request for a change. -/
def request [Memory] : BridgeChange → Except Error ChangeRequest
  | addVlans port changes flags => port.changeRequest changes flags
  | deleteVlans port changes => port.deleteRequest changes
  | addGroup bridge entry flags => GroupTable.addRequest bridge entry flags
  | deleteGroup bridge entry => GroupTable.deleteRequest bridge entry

/-- What is done for a change. -/
def run {σ : Type} [Memory] [Transport σ] : BridgeChange → σ → Except Error Unit × σ
  | addVlans port changes flags => port.change changes flags
  | deleteVlans port changes => port.delete changes
  | addGroup bridge entry flags => GroupTable.add bridge entry flags
  | deleteGroup bridge entry => GroupTable.delete bridge entry

/-- The words that put an error into context. -/
def operation : BridgeChange → String
  | addVlans port _ _ => s!"changing bridge vlan on ifindex {port.interface?.getD 0}"
  | deleteVlans port _ => s!"deleting bridge vlan on ifindex {port.interface?.getD 0}"
  | addGroup _ entry _ => s!"adding mdb group {entry.address.toText} on port {entry.port}"
  | deleteGroup _ entry => s!"deleting mdb group {entry.address.toText} on port {entry.port}"

variable {σ : Type} [Transport σ]

/-- A change is its request, put into context; without a request nothing is sent. -/
theorem run_eq [Memory] (change : BridgeChange) (state : σ) :
    change.run state =
      match change.request with
      | .error error => (.error error, state)
      | .ok request => request.submitDuring change.operation state := by
  cases change <;> rfl

/-- Nobody numbers a request but the transport. -/
theorem sequence_of_request [Memory] {change : BridgeChange} {request : ChangeRequest}
    (isRequest : change.request = .ok request) : request.draft.header.sequence = 0 := by
  cases change with
  | addVlans port changes flags => exact PortVlans.sequence_linkRequest isRequest
  | deleteVlans port changes => exact PortVlans.sequence_linkRequest isRequest
  | addGroup bridge entry flags => exact GroupTable.sequence_request isRequest
  | deleteGroup bridge entry => exact GroupTable.sequence_request isRequest

end BridgeChange

namespace ChangeRequest

/-- A request without a number is sent once or twice, as `Submission` says, whether or not the
transport is overheard, and the code with which the kernel refuses it in the end can be read from
the error. So it is with the changes of a bridge, which only name the operation. -/
theorem submitted_once_or_twice {σ : Type} [Memory] [Transport σ] :
    (∀ (request : ChangeRequest) (start : Overheard σ), request.draft.header.sequence = 0 →
      request.submit start.link = ((request.submit start).1, (request.submit start).2.link) ∧
        ∃ first second?,
          Submission request start first second? (request.submit start).1
              (request.submit start).2 ∧
            ∀ reply, (second?.getD first).AnsweredBy reply →
              Int32.minValue < reply.code → reply.code < 0 →
                RefusedWith (-reply.code.toInt) (request.submit start).1) ∧
      ∀ (change : BridgeChange) (request : ChangeRequest), change.request = .ok request →
        request.draft.header.sequence = 0 ∧
          ∀ start : σ,
            change.run start = request.submitDuring change.operation start ∧
              (change.run start).2 = (request.submit start).2 ∧
              ∀ number, RefusedWith number (request.submit start).1 →
                RefusedWith number (change.run start).1 := by
  refine ⟨?_, ?_⟩
  · intro request start unnumbered
    rcases Overheard.submit_overheard request start with ⟨sameOutcome, sameFinal⟩
    rcases exists_submission unnumbered start with ⟨first, second?, submission⟩
    refine ⟨Prod.ext sameOutcome.symm sameFinal.symm, first, second?, submission, ?_⟩
    intro reply answered above below
    exact submission.refusedWith answered above below
  · intro change request isRequest
    refine ⟨BridgeChange.sequence_of_request isRequest, ?_⟩
    intro start
    have sameRun : change.run start = request.submitDuring change.operation start := by
      rw [BridgeChange.run_eq, isRequest]
    refine ⟨sameRun, by rw [sameRun]; rfl, ?_⟩
    intro number refused
    rw [sameRun]
    exact refused.during change.operation

/-- The request that adds VLAN 10 to port 4. -/
def addedVlan : ChangeRequest where
  draft :=
    { header := .ofType MessageType.newLink (MessageFlags.request ||| MessageFlags.acknowledge)
      body := [7, 0, 0, 0, 4, 0, 0, 0, 0, 0, 0, 0, 0, 0, 0, 0, 12, 0, 26, 128, 8, 0, 2, 0, 0, 0,
        10, 0] }
  fallback? := some MessageType.setLink

/-- A kernel that refuses two requests, the first one as not supported. -/
def refusingConversation : Conversation :=
  let refusal (sequence : UInt32) (code : UInt8) : Octets :=
    (((Draft.ofType MessageType.error 0).setSequence sequence).append
      ([code, 255, 255, 255] ++ List.replicate messageHeaderSize 0)).finish
  { replies := [[refusal 1 161], [refusal 2 239]] }

/-- The request is sent twice, and its error has the number of the second refusal. -/
theorem submitted_twice_refused :
    let start : Overheard Conversation := { link := refusingConversation }
    let change : BridgeChange := .addVlans { interface? := some 4 } { vlan? := some 10 } 0
    (∃ first second, Submission addedVlan start first (some second) (addedVlan.submit start).1
        (addedVlan.submit start).2) ∧
      RefusedWith 17 (change.run start).1 := by
  intro start change
  rcases submitted_once_or_twice (σ := Conversation) with ⟨submitted, _⟩
  rcases submitted addedVlan start rfl with ⟨_, first, second?, submission, _⟩
  rcases submitted_once_or_twice (σ := Overheard Conversation) with ⟨_, changed⟩
  have isRequest : change.request = .ok addedVlan := by decide +kernel
  have isRefused : (addedVlan.submit start).1 = .error (.kernel ErrorNumber.alreadyExists) := by
    decide +kernel
  have sentTwice : (addedVlan.submit start).2.sent.length = 2 := by decide +kernel
  constructor
  · cases second? with
    | none =>
        rw [submission.sent_eq] at sentTwice
        cases sentTwice
    | some second => exact ⟨first, second, submission⟩
  · apply ((changed change addedVlan isRequest).2 start).2.2
    exact ⟨_, _, isRefused, rfl, by decide⟩

end ChangeRequest

end BridgeView
