import BridgeView.Proofs.Supply

/-!
# Dumps as one stream of messages

A dump is read datagram by datagram and, within each, message by message. How the messages are
packed makes no difference: reading a dump is reading the stream of all messages that the
transport still gives, in which the failure of the transport counts as a last item
(`collectDump_eq_stream`).

A dump succeeds if and only if the stream ends it well and the handler accepts every message
of it (`dumpMessages_eq_ok_iff`). The messages of a dump are those that carry its number, up to
the first of them that says the dump is done or acknowledges the request, without the padding.
-/

namespace BridgeView.Transport

variable {σ β : Type}

/-- Messages that follow are read on from where the earlier ones left off. -/
theorem dumpMessages_append (sequence : UInt32) (handle : Handler β)
    (earlier later : List (Except Error Message)) (interrupted : Bool) (value : β) :
    dumpMessages sequence handle interrupted value (earlier ++ later) =
      let progress := dumpMessages sequence handle interrupted value earlier
      match progress.outcome? with
      | some _ => progress
      | none => dumpMessages sequence handle progress.interrupted progress.value later := by
  induction earlier generalizing interrupted value with
  | nil => rfl
  | cons first earlier ih =>
      cases first with
      | error error => rfl
      | ok message =>
          simp only [List.cons_append, dumpMessages]
          split
          · apply ih
          · split
            · rfl
            · split
              · rfl
              · split
                · apply ih
                · rcases handle message value with ⟨error | _, next⟩
                  · rfl
                  · apply ih

/-- Reading a dump is reading the stream, however its messages are packed into datagrams. -/
theorem collectDump_eq_stream [Transport σ] (sequence : UInt32) (handle : Handler β)
    (interrupted : Bool) (value : β) (state : σ) :
    (dumpMessages sequence handle interrupted value (stream state)).outcome? =
        some (collectDump sequence handle interrupted value state).1 ∧
      (dumpMessages sequence handle interrupted value (stream state)).value =
        (collectDump sequence handle interrupted value state).2.1 := by
  -- Every datagram received lowers the backlog, which is what the induction is on.
  induction bound : backlog state using Nat.strongRecOn
    generalizing state interrupted value with
  | ind bound ih =>
      subst bound
      rcases received : receive state with ⟨error | datagram, next⟩
      · rw [stream_of_error received, collectDump_of_error received]
        exact ⟨rfl, rfl⟩
      · rw [stream_of_ok received, collectDump_of_ok received, dumpMessages_append]
        rcases dumpMessages sequence handle interrupted value (Message.ofDatagram datagram) with
          ⟨disturbed, reached, _ | outcome⟩
        · exact ih _ (backlog_receive received) disturbed reached next rfl
        · exact ⟨rfl, rfl⟩

/-! ## Dumps that succeed -/

/-- The messages of a number that are more than padding. -/
def ofNumber (sequence : UInt32) (messages : List Message) : List Message :=
  messages.filter fun message =>
    message.header.sequence = sequence ∧ message.header.type ≠ MessageType.noop

/-- No message of the number says that the kernel changed meanwhile. -/
def Undisturbed (sequence : UInt32) (messages : List Message) : Prop :=
  ∀ message ∈ messages, message.header.sequence = sequence →
    message.header.isInterrupted = false

/-- The message acknowledges a request: it is a reply with the code zero. -/
def Acknowledges (message : Message) : Prop :=
  message.header.isError = true ∧
    ∃ reply, ErrorReply.ofOctets message.payload = .ok reply ∧ reply.code = 0

/-- A stream gives messages that neither end nor refuse the dump of a number, and then one that
ends it well. -/
structure EndsWell (sequence : UInt32) (stream : List (Except Error Message))
    (before : List Message) (last : Message) : Prop where
  split : ∃ rest, stream = before.map .ok ++ .ok last :: rest
  goesOn : ∀ message ∈ before, message.header.sequence = sequence →
    message.header.isDone = false ∧ message.header.isError = false
  ofNumber : last.header.sequence = sequence
  ending : last.header.isDone = true ∧ Undisturbed sequence (before ++ [last]) ∨
    Acknowledges last

/-- Handles messages one after the other, up to the first failure. -/
def handleAll (handle : Handler β) (value : β) : List Message → Except Error Unit × β
  | [] => (.ok (), value)
  | message :: rest =>
      match handle message value with
      | (.ok (), next) => handleAll handle next rest
      | (.error error, next) => (.error error, next)

variable {sequence : UInt32} {interrupted : Bool} {handle : Handler β} {value final : β}
  {stream : List (Except Error Message)} {before : List Message} {message last : Message}

theorem isDone_eq_false_of_isError (isError : message.header.isError = true) :
    message.header.isDone = false := by
  rw [MessageHeader.isError, beq_iff_eq] at isError
  rw [MessageHeader.isDone, isError]
  decide

/-- A reply reports success if and only if it can be read and its code is zero. -/
theorem outcome_eq_ok_iff (message : Message) :
    (ErrorReply.ofOctets message.payload).bind ErrorReply.outcome = .ok () ↔
      ∃ reply, ErrorReply.ofOctets message.payload = .ok reply ∧ reply.code = 0 := by
  rcases ErrorReply.ofOctets message.payload with error | reply
  · simp [Except.bind]
  · simp [Except.bind, ErrorReply.outcome]

/-- A dump is undisturbed if its first message is, as far as it is of the number, and the rest. -/
theorem undisturbed_cons_iff (message : Message) (rest : List Message) :
    Undisturbed sequence (message :: rest) ↔
      (message.header.sequence = sequence → message.header.isInterrupted = false) ∧
        Undisturbed sequence rest :=
  List.forall_mem_cons

/-- What a good end of a stream says of its first message: either it is the end, or it belongs to
what comes before the end. -/
theorem endsWell_cons_iff :
    EndsWell sequence (.ok message :: stream) before last ↔
      (before = [] ∧ last = message ∧ message.header.sequence = sequence ∧
          (message.header.isDone = true ∧ message.header.isInterrupted = false ∨
            Acknowledges message)) ∨
        ∃ later, before = message :: later ∧ EndsWell sequence stream later last ∧
          (message.header.sequence = sequence →
            message.header.isDone = false ∧ message.header.isError = false ∧
              (last.header.isDone = true → message.header.isInterrupted = false)) := by
  constructor
  · rintro ⟨⟨rest, split⟩, goesOn, ofNumber, ending⟩
    cases before with
    | nil =>
        simp only [List.map_nil, List.nil_append, List.cons.injEq, Except.ok.injEq] at split
        rcases split with ⟨rfl, rfl⟩
        refine Or.inl ⟨rfl, rfl, ofNumber, ?_⟩
        rcases ending with ⟨isDone, undisturbed⟩ | acknowledges
        · exact Or.inl ⟨isDone, undisturbed message List.mem_cons_self ofNumber⟩
        · exact Or.inr acknowledges
    | cons first later =>
        simp only [List.map_cons, List.cons_append, List.cons.injEq, Except.ok.injEq] at split
        rcases split with ⟨rfl, split⟩
        rw [List.forall_mem_cons] at goesOn
        rw [List.cons_append, undisturbed_cons_iff] at ending
        refine Or.inr ⟨later, rfl, ⟨⟨rest, split⟩, goesOn.2, ofNumber, ?_⟩, ?_⟩
        · exact ending.imp_left fun done => ⟨done.1, done.2.2⟩
        · intro own
          refine ⟨(goesOn.1 own).1, (goesOn.1 own).2, ?_⟩
          intro isDone
          rcases ending with ⟨_, undisturbed, _⟩ | ⟨isError, _⟩
          · exact undisturbed own
          · rw [isDone_eq_false_of_isError isError] at isDone
            cases isDone
  · rintro (⟨rfl, rfl, ofNumber, ending⟩ |
      ⟨later, rfl, ⟨⟨rest, rfl⟩, goesOn, ofNumber, ending⟩, first⟩)
    · refine ⟨⟨stream, rfl⟩, by simp, ofNumber, ?_⟩
      refine ending.imp_left fun done => ⟨done.1, ?_⟩
      intro message messageMem _
      rw [List.mem_singleton.mp messageMem]
      exact done.2
    · refine ⟨⟨rest, rfl⟩, ?_, ofNumber, ?_⟩
      · rw [List.forall_mem_cons]
        exact ⟨fun own => ⟨(first own).1, (first own).2.1⟩, goesOn⟩
      · rw [List.cons_append, undisturbed_cons_iff]
        refine ending.imp_left fun done => ⟨done.1, ?_, done.2⟩
        exact fun own => (first own).2.2 done.1

theorem ofNumber_cons_of_skipped (rest : List Message)
    (skipped : message.header.sequence = sequence → message.header.type = MessageType.noop) :
    ofNumber sequence (message :: rest) = ofNumber sequence rest := by
  apply List.filter_cons_of_neg
  simpa using skipped

theorem ofNumber_cons_of_handled (rest : List Message)
    (own : message.header.sequence = sequence) (handled : message.header.type ≠ MessageType.noop) :
    ofNumber sequence (message :: rest) = message :: ofNumber sequence rest := by
  apply List.filter_cons_of_pos
  simp [own, handled]

/-- A stream ends a dump well, the handler accepts each message of the dump, and a disturbance
that was noticed before does no harm, because it counts only where the dump is said to be done. -/
def Succeeds (sequence : UInt32) (handle : Handler β) (interrupted : Bool) (value : β)
    (stream : List (Except Error Message)) (final : β) : Prop :=
  ∃ before last, EndsWell sequence stream before last ∧
    (last.header.isDone = true → interrupted = false) ∧
      handleAll handle value (ofNumber sequence before) = (.ok (), final)

/-- A message of another number is passed over. -/
theorem succeeds_cons_of_other (other : message.header.sequence ≠ sequence) :
    Succeeds sequence handle interrupted value (.ok message :: stream) final ↔
      Succeeds sequence handle interrupted value stream final := by
  constructor
  · rintro ⟨before, last, endsWell, harmless, handled⟩
    rcases endsWell_cons_iff.mp endsWell with ⟨_, _, own, _⟩ | ⟨later, rfl, endsWell, _⟩
    · exact absurd own other
    · rw [ofNumber_cons_of_skipped later fun own => absurd own other] at handled
      exact ⟨later, last, endsWell, harmless, handled⟩
  · rintro ⟨later, last, endsWell, harmless, handled⟩
    refine ⟨message :: later, last, ?_, harmless, ?_⟩
    · exact endsWell_cons_iff.mpr (Or.inr ⟨later, rfl, endsWell, fun own => absurd own other⟩)
    · rw [ofNumber_cons_of_skipped later fun own => absurd own other]
      exact handled

/-- A message that ends the dump decides on the outcome. -/
theorem succeeds_cons_of_last (own : message.header.sequence = sequence)
    (ends : message.header.isDone = true ∨ message.header.isError = true) :
    Succeeds sequence handle interrupted value (.ok message :: stream) final ↔
      (message.header.isDone = true ∧ (interrupted || message.header.isInterrupted) = false ∨
          Acknowledges message) ∧ value = final := by
  constructor
  · rintro ⟨before, last, endsWell, harmless, handled⟩
    rcases endsWell_cons_iff.mp endsWell with ⟨rfl, rfl, _, ending⟩ | ⟨_, _, _, goesOn⟩
    · refine ⟨?_, (Prod.mk.inj handled).2⟩
      refine ending.imp_left fun done => ⟨done.1, ?_⟩
      rw [harmless done.1, done.2, Bool.or_false]
    · rcases goesOn own with ⟨notDone, notError, _⟩
      rw [notDone, notError] at ends
      simp at ends
  · rintro ⟨ending, rfl⟩
    refine ⟨[], message, endsWell_cons_iff.mpr (Or.inl ⟨rfl, rfl, own, ?_⟩), ?_, rfl⟩
    · exact ending.imp_left fun done => ⟨done.1, (Bool.or_eq_false_iff.mp done.2).2⟩
    · intro isDone
      rcases ending with done | acknowledges
      · exact (Bool.or_eq_false_iff.mp done.2).1
      · rw [isDone_eq_false_of_isError acknowledges.1] at isDone
        cases isDone

/-- A message that does not end the dump is handled before those that follow. -/
theorem succeeds_cons_of_goesOn (own : message.header.sequence = sequence)
    (notDone : message.header.isDone = false) (notError : message.header.isError = false) :
    Succeeds sequence handle interrupted value (.ok message :: stream) final ↔
      ∃ before last, EndsWell sequence stream before last ∧
        (last.header.isDone = true → (interrupted || message.header.isInterrupted) = false) ∧
          handleAll handle value (ofNumber sequence (message :: before)) = (.ok (), final) := by
  constructor
  · rintro ⟨before, last, endsWell, harmless, handled⟩
    rcases endsWell_cons_iff.mp endsWell with ⟨_, _, _, ending⟩ | ⟨later, rfl, endsWell, first⟩
    · rw [notDone] at ending
      rcases ending with ⟨isDone, _⟩ | ⟨isError, _⟩
      · cases isDone
      · rw [notError] at isError
        cases isError
    · refine ⟨later, last, endsWell, ?_, handled⟩
      intro isDone
      rw [harmless isDone, (first own).2.2 isDone, Bool.or_false]
  · rintro ⟨later, last, endsWell, harmless, handled⟩
    refine ⟨message :: later, last, ?_, ?_, handled⟩
    · refine endsWell_cons_iff.mpr (Or.inr ⟨later, rfl, endsWell, fun _ => ⟨notDone, notError, ?_⟩⟩)
      exact fun isDone => (Bool.or_eq_false_iff.mp (harmless isDone)).2
    · exact fun isDone => (Bool.or_eq_false_iff.mp (harmless isDone)).1

/-- A dump ends well, with a value, if and only if its stream ends it well and the handler makes
that value of its messages. -/
theorem dumpMessages_eq_ok_iff :
    ((dumpMessages sequence handle interrupted value stream).outcome? = some (.ok ()) ∧
        (dumpMessages sequence handle interrupted value stream).value = final) ↔
      Succeeds sequence handle interrupted value stream final := by
  induction stream generalizing interrupted value with
  | nil =>
      constructor
      · rintro ⟨noOutcome, _⟩
        cases noOutcome
      · rintro ⟨before, last, ⟨⟨rest, split⟩, _⟩, _⟩
        simp at split
  | cons first stream ih =>
      cases first with
      | error error =>
          constructor
          · rintro ⟨failed, _⟩
            simp [dumpMessages] at failed
          · rintro ⟨before, last, ⟨⟨rest, split⟩, _⟩, _⟩
            cases before <;> simp at split
      | ok message =>
          rw [dumpMessages]
          dsimp only
          split
          · rename_i other
            rw [succeeds_cons_of_other other]
            exact ih
          · rename_i own
            rw [ne_eq, Decidable.not_not] at own
            split
            · rename_i isDone
              rw [succeeds_cons_of_last own (Or.inl isDone)]
              have notAcknowledged : ¬Acknowledges message := by
                rintro ⟨isError, _⟩
                rw [isDone_eq_false_of_isError isError] at isDone
                cases isDone
              cases interrupted || message.header.isInterrupted <;>
                simp [isDone, notAcknowledged]
            · rename_i notDone
              split
              · rename_i isError
                rw [succeeds_cons_of_last own (Or.inr isError)]
                simp only [Option.some.injEq, outcome_eq_ok_iff, notDone, Bool.false_eq_true,
                  false_and, false_or, Acknowledges, isError, true_and]
              · rename_i notError
                rw [succeeds_cons_of_goesOn own (Bool.eq_false_iff.mpr notDone)
                  (Bool.eq_false_iff.mpr notError)]
                split
                · rename_i isNoop
                  simp only [ofNumber_cons_of_skipped _ fun _ => isNoop]
                  exact ih
                · rename_i notNoop
                  simp only [ofNumber_cons_of_handled _ own notNoop, handleAll]
                  rcases handle message value with ⟨error | _, next⟩
                  · simp
                  · exact ih

/-- A dump succeeds if and only if it ends well and its messages are handled one by one. -/
theorem receiveDump_eq_ok_iff [Transport σ] {state : σ} :
    (∃ next, receiveDump sequence handle value state = (.ok (), final, next)) ↔
      ∃ before last, EndsWell sequence (Transport.stream state) before last ∧
        handleAll handle value (ofNumber sequence before) = (.ok (), final) := by
  rcases collectDump_eq_stream sequence handle false value state with ⟨sameOutcome, sameValue⟩
  have succeeds : _ ↔ Succeeds sequence handle false value (Transport.stream state) final :=
    dumpMessages_eq_ok_iff
  rw [sameOutcome, sameValue, Option.some.injEq] at succeeds
  constructor
  · rintro ⟨next, received⟩
    rw [receiveDump] at received
    rw [received] at succeeds
    rcases succeeds.mp ⟨rfl, rfl⟩ with ⟨before, last, endsWell, _, handled⟩
    exact ⟨before, last, endsWell, handled⟩
  · rintro ⟨before, last, endsWell, handled⟩
    rcases succeeds.mpr ⟨before, last, endsWell, fun _ => rfl, handled⟩ with ⟨isOk, isFinal⟩
    refine ⟨(collectDump sequence handle false value state).2.2, ?_⟩
    rw [receiveDump, ← isOk, ← isFinal]

end BridgeView.Transport
