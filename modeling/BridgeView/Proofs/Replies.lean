import BridgeView.Proofs.Cache.Run
import BridgeView.Proofs.Dump.Stream
import BridgeView.Proofs.Framing.Front

/-!
# Replies among other messages

Whoever waits for the outcome of a request or collects a dump reads the messages of one number
and the failures of the transport; everything else in the stream might as well not be there
(`acknowledgement?_concerning`, `dumpMessages_concerning`). Messages of other numbers can therefore
be added anywhere, within datagrams and between them (`matched_by_number`). What an earlier dump
left behind is of this kind, so a fill does not notice it.
-/

namespace BridgeView

/-- A datagram holds the messages of another one, in order, and among them messages of other
numbers. -/
inductive Message.Interspersed (sequence : UInt32) : Octets → Octets → Prop
  | same (datagram : Octets) : Interspersed sequence datagram datagram
  | keep {datagram rest mixed mixedRest : Octets} {head : Message}
      (read : front datagram = .item head rest) (mixedRead : front mixed = .item head mixedRest)
      (later : Interspersed sequence rest mixedRest) : Interspersed sequence datagram mixed
  | insert {datagram mixed mixedRest : Octets} {head : Message}
      (mixedRead : front mixed = .item head mixedRest) (other : head.header.sequence ≠ sequence)
      (later : Interspersed sequence datagram mixedRest) : Interspersed sequence datagram mixed

namespace Transport

variable {σ τ β : Type} {sequence : UInt32}

/-- A series of datagrams holds those of another one, in order, with messages of other numbers
within them and datagrams of such messages between them. -/
inductive Interspersed (sequence : UInt32) : List Octets → List Octets → Prop
  | nil : Interspersed sequence [] []
  | datagram {datagram mixed : Octets} {rest mixedRest : List Octets}
      (first : Message.Interspersed sequence datagram mixed)
      (later : Interspersed sequence rest mixedRest) :
      Interspersed sequence (datagram :: rest) (mixed :: mixedRest)
  | insert {others : Octets} {datagrams mixedRest : List Octets}
      (foreign : Message.Interspersed sequence [] others)
      (later : Interspersed sequence datagrams mixedRest) :
      Interspersed sequence datagrams (others :: mixedRest)

namespace Interspersed

/-- Nothing need be interspersed. -/
theorem refl (datagrams : List Octets) : Interspersed sequence datagrams datagrams := by
  induction datagrams with
  | nil => exact .nil
  | cons datagram rest ih => exact .datagram (.same datagram) ih

/-- Datagrams without a message of the number may stand before the others. -/
theorem append_left {others datagrams : List Octets}
    (foreign : ∀ datagram ∈ others, Message.Interspersed sequence [] datagram) :
    Interspersed sequence datagrams (others ++ datagrams) := by
  induction others with
  | nil => exact refl datagrams
  | cons datagram others ih =>
      rw [List.forall_mem_cons] at foreign
      exact .insert foreign.1 (ih foreign.2)

end Interspersed

/-! ## What concerns a request -/

/-- Whether an item of a stream is of interest to the request of a number. -/
def concerns (sequence : UInt32) : Except Error Message → Bool
  | .error _ => true
  | .ok message => message.header.sequence == sequence

theorem concerning_cons_of_other {message : Message} (other : message.header.sequence ≠ sequence)
    (rest : List (Except Error Message)) :
    (.ok message :: rest).filter (concerns sequence) = rest.filter (concerns sequence) := by
  apply List.filter_cons_of_neg
  simpa [concerns] using other

theorem concerning_cons_of_own {message : Message} (own : message.header.sequence = sequence)
    (rest : List (Except Error Message)) :
    (.ok message :: rest).filter (concerns sequence) =
      .ok message :: rest.filter (concerns sequence) := by
  apply List.filter_cons_of_pos
  simpa [concerns] using own

/-- The outcome of a request is found among the items that concern its number. -/
theorem acknowledgement?_concerning (items : List (Except Error Message)) :
    acknowledgement? sequence (items.filter (concerns sequence)) =
      acknowledgement? sequence items := by
  induction items with
  | nil => rfl
  | cons first rest ih =>
      cases first with
      | error error => rfl
      | ok message =>
          by_cases own : message.header.sequence = sequence
          · simp only [concerning_cons_of_own own, acknowledgement?, ih]
          · simp only [concerning_cons_of_other own, acknowledgement?, own, ih, ne_eq,
              not_false_eq_true, if_true]

/-- A dump is read from the items that concern its number. -/
theorem dumpMessages_concerning (handle : Handler β) (items : List (Except Error Message))
    (interrupted : Bool) (value : β) :
    dumpMessages sequence handle interrupted value (items.filter (concerns sequence)) =
      dumpMessages sequence handle interrupted value items := by
  induction items generalizing interrupted value with
  | nil => rfl
  | cons first rest ih =>
      cases first with
      | error error => rfl
      | ok message =>
          by_cases own : message.header.sequence = sequence
          · simp only [concerning_cons_of_own own, dumpMessages, ih]
          · simp only [concerning_cons_of_other own, dumpMessages, own, ih, ne_eq,
              not_false_eq_true, if_true]

/-- What is interspersed within a datagram does not concern the number. -/
theorem concerning_ofDatagram {datagram mixed : Octets}
    (interspersed : Message.Interspersed sequence datagram mixed) :
    (Message.ofDatagram mixed).filter (concerns sequence) =
      (Message.ofDatagram datagram).filter (concerns sequence) := by
  induction interspersed with
  | same datagram => rfl
  | keep read mixedRead _ ih =>
      rw [Message.ofDatagram_of_item read, Message.ofDatagram_of_item mixedRead,
        List.filter_cons, List.filter_cons, ih]
  | insert mixedRead other _ ih =>
      rw [Message.ofDatagram_of_item mixedRead, concerning_cons_of_other other, ih]

/-- What is interspersed within and between datagrams does not concern the number. -/
theorem concerning_flatMap {datagrams mixed : List Octets}
    (interspersed : Interspersed sequence datagrams mixed) :
    (mixed.flatMap Message.ofDatagram).filter (concerns sequence) =
      (datagrams.flatMap Message.ofDatagram).filter (concerns sequence) := by
  induction interspersed with
  | nil => rfl
  | datagram first _ ih =>
      simp only [List.flatMap_cons, List.filter_append, concerning_ofDatagram first, ih]
  | insert foreign _ ih =>
      have nothing : Message.ofDatagram [] = [] := Message.ofDatagram_of_finished rfl
      simp only [List.flatMap_cons, List.filter_append, concerning_ofDatagram foreign, nothing, ih,
        List.filter_nil, List.nil_append]

/-! ## Two transports -/

section Supply

variable [Transport σ]

/-- The first outcome that is found counts. -/
theorem acknowledgement?_append (earlier later : List (Except Error Message)) :
    acknowledgement? sequence (earlier ++ later) =
      (acknowledgement? sequence earlier).or (acknowledgement? sequence later) := by
  induction earlier with
  | nil => rfl
  | cons first earlier ih =>
      cases first with
      | error error => rfl
      | ok message =>
          simp only [List.cons_append, acknowledgement?]
          split
          · exact ih
          · split
            · rfl
            · split
              · rfl
              · exact ih

/-- Waiting for an outcome finds the first one of the stream. -/
theorem awaitAcknowledgement_eq_stream (sequence : UInt32) (state : σ) :
    acknowledgement? sequence (stream state) = some (awaitAcknowledgement sequence state).1 := by
  induction bound : backlog state using Nat.strongRecOn generalizing state with
  | ind bound ih =>
      subst bound
      rcases received : receive state with ⟨error | datagram, next⟩
      · rw [stream_of_error received, awaitAcknowledgement_of_error received]
        rfl
      · rw [stream_of_ok received, awaitAcknowledgement_of_ok received, acknowledgement?_append]
        rcases acknowledgement? sequence (Message.ofDatagram datagram) with _ | outcome
        · exact ih _ (backlog_receive received) next rfl
        · rfl

/-- The handler, which now keeps the messages that it is given. -/
def keeping (handle : Handler β) : Handler (β × List Message) := fun message (value, handed) =>
  ((handle message value).1, (handle message value).2, handed ++ [message])

/-- The messages that the handler of a dump is given. -/
def handed (sequence : UInt32) (handle : Handler β) (value : β) (state : σ) : List Message :=
  (receiveDump sequence (keeping handle) (value, []) state).2.1.2

end Supply

variable [Transport σ] [Transport τ] {state : σ} {mixed : τ}

/-- What is interspersed leaves what a stream says of the number as it is. -/
theorem concerning_stream
    (interspersed : Interspersed sequence (supply state).1 (supply mixed).1)
    (sameEnd : (supply state).2 = (supply mixed).2) :
    (stream mixed).filter (concerns sequence) = (stream state).filter (concerns sequence) := by
  rw [stream_eq_supply, stream_eq_supply, List.filter_append, List.filter_append,
    concerning_flatMap interspersed, sameEnd]

/-- What is interspersed does not change the outcome of a request. -/
theorem awaitAcknowledgement_of_interspersed
    (interspersed : Interspersed sequence (supply state).1 (supply mixed).1)
    (sameEnd : (supply state).2 = (supply mixed).2) :
    (awaitAcknowledgement sequence mixed).1 = (awaitAcknowledgement sequence state).1 := by
  apply Option.some.inj
  rw [← awaitAcknowledgement_eq_stream, ← awaitAcknowledgement_eq_stream,
    ← acknowledgement?_concerning, concerning_stream interspersed sameEnd,
    acknowledgement?_concerning]

/-- What is interspersed changes neither the outcome of a dump nor what is made of it. -/
theorem receiveDump_of_interspersed
    (interspersed : Interspersed sequence (supply state).1 (supply mixed).1)
    (sameEnd : (supply state).2 = (supply mixed).2) (handle : Handler β) (value : β) :
    (receiveDump sequence handle value mixed).1 = (receiveDump sequence handle value state).1 ∧
      (receiveDump sequence handle value mixed).2.1 =
        (receiveDump sequence handle value state).2.1 := by
  have sameMessages :
      dumpMessages sequence handle false value (stream mixed) =
        dumpMessages sequence handle false value (stream state) := by
    rw [← dumpMessages_concerning, concerning_stream interspersed sameEnd, dumpMessages_concerning]
  rcases collectDump_eq_stream sequence handle false value state with ⟨outcome, final⟩
  rcases collectDump_eq_stream sequence handle false value mixed with ⟨mixedOutcome, mixedFinal⟩
  constructor
  · apply Option.some.inj
    exact mixedOutcome.symm.trans ((congrArg _ sameMessages).trans outcome)
  · exact mixedFinal.symm.trans ((congrArg _ sameMessages).trans final)

end Transport

/-! ## Consecutive fills -/

/-- The datagrams that answer the next message of a conversation. -/
def Conversation.answer (conversation : Conversation) : List Octets :=
  (conversation.replies[conversation.sends]?).getD []

namespace Transport

/-- Collecting a dump adds nothing to what waits. -/
theorem queue_collectDump_subset (sequence : UInt32) {β : Type} (handle : Handler β)
    (interrupted : Bool) (value : β) (conversation : Conversation) :
    (collectDump sequence handle interrupted value conversation).2.2.queue ⊆
      conversation.queue := by
  rcases conversation with
    ⟨number, port, queue, replies, failingSends, joins, leaves, sends, outbox, groups⟩
  induction queue generalizing interrupted value with
  | nil =>
      rw [collectDump_of_error rfl]
      exact List.Subset.refl _
  | cons datagram queue ih =>
      rw [collectDump_of_ok rfl]
      dsimp only
      split
      · exact List.subset_cons_self datagram queue
      · exact List.subset_cons_of_subset datagram (ih _ _)

/-- What a request does to a conversation does not depend on what waits there. -/
theorem sendNumbered_conversation_cases (draft : Draft) (conversation : Conversation) :
    (∃ error failed alsoFailed, failed.queue = conversation.queue ∧
        sendNumbered draft conversation = (.error error, failed) ∧
        sendNumbered draft { conversation with queue := [] } = (.error error, alsoFailed)) ∨
      ∃ sent : Conversation,
        sendNumbered draft conversation = (.ok conversation.sequence,
          { sent with queue := conversation.queue ++ conversation.answer }) ∧
        sendNumbered draft { conversation with queue := [] } = (.ok conversation.sequence,
          { sent with queue := conversation.answer }) := by
  by_cases unnumbered : draft.header.sequence = 0
  · by_cases fails : conversation.sends ∈ conversation.failingSends
    · left
      refine ⟨.io .brokenPipe, (sendNumbered draft conversation).2,
        (sendNumbered draft { conversation with queue := [] }).2, ?_⟩
      simp [sendNumbered, unnumbered, nextSequence, send, Conversation.send, fails]
    · right
      refine ⟨(sendNumbered draft conversation).2, ?_⟩
      simp [sendNumbered, unnumbered, nextSequence, port, send, Conversation.send, fails,
        Conversation.answer]
  · left
    refine ⟨.alreadyNumbered draft.header.sequence, conversation,
      { conversation with queue := [] }, ?_⟩
    simp [sendNumbered, unnumbered]

end Transport

namespace Cache

open CacheObject Transport

variable {α σ τ : Type} [CacheObject α] [Transport σ] [Transport τ]

/-- A fill finds the same objects on a transport that gives messages of other numbers as well. -/
theorem ofDump_of_interspersed {fresh answered : τ} {left sent : σ} {sequence : UInt32}
    (requested : sendNumbered (dumpRequest α) fresh = (.ok sequence, answered))
    (alsoRequested : sendNumbered (dumpRequest α) left = (.ok sequence, sent))
    (interspersed : Interspersed sequence (supply answered).1 (supply sent).1)
    (sameEnd : (supply answered).2 = (supply sent).2) :
    (ofDump (α := α) left).1 = (ofDump (α := α) fresh).1 := by
  rcases receiveDump_of_interspersed interspersed sameEnd (gather (α := α)) {} with
    ⟨sameOutcome, sameStaged⟩
  simp only [ofDump_of_ok requested, ofDump_of_ok alsoRequested, sameOutcome, sameStaged]

/-- Filling a cache adds nothing to what waits but the answer to its request. -/
theorem queue_ofDump_subset (conversation : Conversation) :
    (ofDump (α := α) conversation).2.queue ⊆ conversation.queue ++ conversation.answer := by
  rcases sendNumbered_conversation_cases (dumpRequest α) conversation with
    ⟨error, failed, _, sameQueue, requested, _⟩ | ⟨sent, requested, _⟩
  · rw [ofDump_of_error requested, sameQueue]
    exact List.subset_append_left _ _
  · rw [ofDump_of_ok requested]
    exact queue_collectDump_subset ..

/-- What an earlier fill left behind does not show in the next one. -/
theorem ofDump_eq_ofDump_empty {conversation : Conversation}
    (foreign : ∀ datagram ∈ conversation.queue,
      Message.Interspersed conversation.sequence [] datagram) :
    (ofDump (α := α) conversation).1 =
      (ofDump (α := α) { conversation with queue := [] }).1 := by
  rcases sendNumbered_conversation_cases (dumpRequest α) conversation with
    ⟨error, _, _, _, failed, alsoFailed⟩ | ⟨sent, requested, alsoRequested⟩
  · rw [ofDump_of_error failed, ofDump_of_error alsoFailed]
  · apply ofDump_of_interspersed alsoRequested requested
    · rw [supply_conversation, supply_conversation]
      exact Interspersed.append_left foreign
    · rw [supply_conversation, supply_conversation]

end Cache

namespace Transport

open CacheObject

/-- Messages of other numbers, put anywhere into what a transport gives, change neither the outcome
of a request nor the outcome of a dump nor what the dump hands to its handler; and a fill finds the
same objects. In particular it finds what it would find if nothing were left of an earlier one. -/
theorem matched_by_number :
    (∀ {σ τ : Type} [Transport σ] [Transport τ] {sequence : UInt32} {state : σ} {mixed : τ},
      Interspersed sequence (supply state).1 (supply mixed).1 →
      (supply state).2 = (supply mixed).2 →
        (awaitAcknowledgement sequence mixed).1 = (awaitAcknowledgement sequence state).1 ∧
        (∀ {β : Type} (handle : Handler β) (value : β),
          (receiveDump sequence handle value mixed).1 =
              (receiveDump sequence handle value state).1 ∧
            (receiveDump sequence handle value mixed).2.1 =
              (receiveDump sequence handle value state).2.1 ∧
            handed sequence handle value mixed = handed sequence handle value state) ∧
        ∀ {α : Type} [CacheObject α] {left : τ} {fresh : σ},
          sendNumbered (dumpRequest α) left = (.ok sequence, mixed) →
          sendNumbered (dumpRequest α) fresh = (.ok sequence, state) →
            (Cache.ofDump (α := α) left).1 = (Cache.ofDump (α := α) fresh).1) ∧
      ∀ {α β : Type} [CacheObject α] [CacheObject β] (conversation : Conversation),
        let left := (Cache.ofDump (α := α) conversation).2
        (∀ datagram ∈ conversation.queue ++ conversation.answer,
          Message.Interspersed left.sequence [] datagram) →
            (Cache.ofDump (α := β) left).1 =
              (Cache.ofDump (α := β) { left with queue := [] }).1 := by
  refine ⟨?_, ?_⟩
  · intro σ τ _ _ sequence state mixed interspersed sameEnd
    refine ⟨awaitAcknowledgement_of_interspersed interspersed sameEnd, ?_, ?_⟩
    · intro β handle value
      rcases receiveDump_of_interspersed interspersed sameEnd handle value with
        ⟨sameOutcome, sameValue⟩
      rcases receiveDump_of_interspersed interspersed sameEnd (keeping handle) (value, []) with
        ⟨_, sameKept⟩
      exact ⟨sameOutcome, sameValue, congrArg Prod.snd sameKept⟩
    · intro α _ left fresh alsoRequested requested
      exact Cache.ofDump_of_interspersed requested alsoRequested interspersed sameEnd
  · intro α β _ _ conversation left foreign
    apply Cache.ofDump_eq_ofDump_empty
    intro datagram waits
    exact foreign datagram (Cache.queue_ofDump_subset conversation waits)

/-- A report that is flagged as interrupted. -/
def disturbedReport (sequence : UInt32) (payload : Octets) : Octets :=
  (((Draft.ofType MessageType.newGroups MessageFlags.interrupted).setSequence sequence).append
    payload).finish

/-- A report of a bridge that has nothing yet. -/
def bridgeReport (sequence : UInt32) : Octets :=
  (((Draft.ofType MessageType.newGroups 0).setSequence sequence).append
    [7, 0, 0, 0, 4, 0, 0, 0]).finish

/-- The end of a dump. -/
def dumpEnd (sequence : UInt32) : Octets :=
  ((Draft.ofType MessageType.done 0).setSequence sequence).finish

/-- Replies to a dump that is given up, and to one that succeeds. -/
def abandonedConversation : Conversation where
  replies :=
    [[disturbedReport 1 [], bridgeReport 1, dumpEnd 1], [bridgeReport 2 ++ dumpEnd 2]]

/-- After a fill that was abandoned, the next one finds its bridge. An outcome is found behind
messages of another number. -/
theorem matched_by_number_abandoned :
    let left := (Cache.ofDump (α := GroupTable) abandonedConversation).2
    let foundAlone := (Cache.ofDump (α := GroupTable) { left with queue := [] }).1
    let foundAmid := (Cache.ofDump (α := GroupTable) left).1
    let alone : Conversation := { queue := [dumpEnd 2] }
    let amid : Conversation :=
      { queue := [disturbedReport 1 [], bridgeReport 1 ++ (dumpEnd 1 ++ dumpEnd 2)] }
    left.queue = [bridgeReport 1, dumpEnd 1] ∧
      foundAmid = foundAlone ∧ foundAmid.map (·.objects.length) = .ok 1 ∧
      (awaitAcknowledgement 2 amid).1 = (awaitAcknowledgement 2 alone).1 ∧
      (awaitAcknowledgement 2 amid).1 = .ok () := by
  intro left foundAlone foundAmid alone amid
  have disturbed : Message.Interspersed 2 [] (disturbedReport 1 []) :=
    .insert rfl (by decide) (.same [])
  have report : Message.Interspersed 2 [] (bridgeReport 1) := .insert rfl (by decide) (.same [])
  have ending : Message.Interspersed 2 [] (dumpEnd 1) := .insert rfl (by decide) (.same [])
  have foreign : ∀ datagram ∈ abandonedConversation.queue ++ abandonedConversation.answer,
      Message.Interspersed left.sequence [] datagram := by
    have secondNumber : left.sequence = 2 := by decide +kernel
    rw [secondNumber]
    simp [abandonedConversation, Conversation.answer, disturbed, report, ending]
  have interspersed : Interspersed 2 (supply alone).1 (supply amid).1 := by
    rw [supply_conversation, supply_conversation]
    apply Interspersed.insert disturbed
    apply Interspersed.datagram _ .nil
    exact .insert rfl (by decide) (.insert rfl (by decide) (.same (dumpEnd 2)))
  have sameEnd : (supply alone).2 = (supply amid).2 := by
    rw [supply_conversation, supply_conversation]
  refine ⟨by decide +kernel, ?_, by decide +kernel, ?_, by decide +kernel⟩
  · exact matched_by_number.2 abandonedConversation foreign
  · exact (matched_by_number.1 interspersed sameEnd).1

end Transport

end BridgeView
