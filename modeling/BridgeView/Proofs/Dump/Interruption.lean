import BridgeView.BridgeObjects
import BridgeView.Proofs.Cache.Fill

/-!
# Interrupted dumps

The kernel marks the messages of a dump that it made while it changed. A dump that ends with
the message that it is done is reported as interrupted if any message of it was marked. An
acknowledgement ends a dump as well, and there the marks are forgotten; this is the only way in
which an interrupted dump is reported complete (`reportsInterruption_iff`).
-/

namespace BridgeView

namespace Transport

variable {σ β : Type}

/-- The messages of a dump that are read: those of its number, up to the one that ends it. -/
def messagesRead (sequence : UInt32) : List (Except Error Message) → List Message
  | [] | .error _ :: _ => []
  | .ok message :: rest =>
      if message.header.sequence = sequence then
        if message.header.isDone || message.header.isError then [message]
        else message :: messagesRead sequence rest
      else messagesRead sequence rest

/-- No message says that the kernel changed while it was dumped. -/
def Uninterrupted (messages : List Message) : Prop :=
  ∀ message ∈ messages, message.header.isInterrupted = false

/-- If a dump is reported complete, it was not interrupted. -/
def ReportsInterruption [Transport σ] (sequence : UInt32) (handle : Handler β) (value : β)
    (state : σ) : Prop :=
  (receiveDump sequence handle value state).1 = .ok () →
    Uninterrupted (messagesRead sequence (stream state))

/-- A dump that the handler accepts is interrupted and ended by an acknowledgement. -/
structure AcknowledgedInterruption (sequence : UInt32) (handle : Handler β) (value : β)
    (stream : List (Except Error Message)) (before : List Message) (last : Message) : Prop where
  endsWell : EndsWell sequence stream before last
  acknowledges : Acknowledges last
  accepted : (handleAll handle value (ofNumber sequence before)).1 = .ok ()
  disturbed : ¬Undisturbed sequence (before ++ [last])

variable {sequence : UInt32} {handle : Handler β} {value : β} {before : List Message}
  {last : Message}

/-- Of a stream that ends well, the messages of the number are read up to the last one. -/
theorem messagesRead_of_endsWell {stream : List (Except Error Message)}
    (endsWell : EndsWell sequence stream before last) :
    messagesRead sequence stream =
      (before ++ [last]).filter (·.header.sequence = sequence) := by
  induction before generalizing stream with
  | nil =>
      rcases endsWell with ⟨⟨rest, rfl⟩, _, ofNumber, ending⟩
      have ends : (last.header.isDone || last.header.isError) = true := by
        rcases ending with ⟨isDone, _⟩ | ⟨isError, _⟩ <;> simp [*]
      simp [messagesRead, ofNumber, ends]
  | cons first later ih =>
      rcases endsWell.split with ⟨rest, split⟩
      rw [List.map_cons, List.cons_append] at split
      subst split
      rcases endsWell_cons_iff.mp endsWell with ⟨noneBefore, _⟩ | ⟨_, sameBefore, endsWell, goesOn⟩
      · cases noneBefore
      · cases sameBefore
        have restRead := ih endsWell
        by_cases own : first.header.sequence = sequence
        · rcases goesOn own with ⟨notDone, notError, _⟩
          simp [messagesRead, own, notDone, notError, restRead]
        · simp [messagesRead, own, restRead]

theorem uninterrupted_messagesRead_iff {stream : List (Except Error Message)}
    (endsWell : EndsWell sequence stream before last) :
    Uninterrupted (messagesRead sequence stream) ↔ Undisturbed sequence (before ++ [last]) := by
  simp only [messagesRead_of_endsWell endsWell, Uninterrupted, Undisturbed, List.mem_filter,
    decide_eq_true_eq, and_imp]

variable [Transport σ]

/-- A dump is received if and only if it ends well and every message of it is handled. -/
theorem receiveDump_isOk_iff {state : σ} :
    (receiveDump sequence handle value state).1 = .ok () ↔
      ∃ before last, EndsWell sequence (stream state) before last ∧
        (handleAll handle value (ofNumber sequence before)).1 = .ok () := by
  constructor
  · intro isOk
    rcases received : receiveDump sequence handle value state with ⟨outcome, final, next⟩
    rw [received] at isOk
    cases isOk
    rcases receiveDump_eq_ok_iff.mp ⟨next, received⟩ with ⟨before, last, endsWell, handled⟩
    exact ⟨before, last, endsWell, by rw [handled]⟩
  · rintro ⟨before, last, endsWell, accepted⟩
    rcases receiveDump_eq_ok_iff.mpr ⟨before, last, endsWell, Prod.ext accepted rfl⟩ with
      ⟨next, received⟩
    rw [received]

/-- An interruption goes unreported exactly where the dump ends with an acknowledgement. -/
theorem reportsInterruption_iff_not_acknowledged {state : σ} :
    ReportsInterruption sequence handle value state ↔
      ¬∃ before last,
        AcknowledgedInterruption sequence handle value (stream state) before last := by
  constructor
  · rintro reports ⟨before, last, endsWell, _, accepted, disturbed⟩
    apply disturbed
    apply (uninterrupted_messagesRead_iff endsWell).mp
    exact reports (receiveDump_isOk_iff.mpr ⟨before, last, endsWell, accepted⟩)
  · intro neverAcknowledged isOk
    rcases receiveDump_isOk_iff.mp isOk with ⟨before, last, endsWell, accepted⟩
    apply (uninterrupted_messagesRead_iff endsWell).mpr
    rcases endsWell.ending with ⟨_, undisturbed⟩ | acknowledges
    · exact undisturbed
    · by_contra disturbed
      exact neverAcknowledged ⟨before, last, endsWell, acknowledges, accepted, disturbed⟩

end Transport

namespace Cache

open CacheObject Transport

variable {σ α : Type} [Transport σ] [CacheObject α]

/-- The messages that filling a cache reads of the dump that it requests. -/
def messagesRead (α : Type) [CacheObject α] (state : σ) : List Message :=
  match sendNumbered (dumpRequest α) state with
  | (.error _, _) => []
  | (.ok sequence, sent) => Transport.messagesRead sequence (stream sent)

/-- Filling a cache succeeds if and only if its dump is requested and received. -/
theorem fill_isOk_iff (cache : Cache α) (state : σ) :
    (cache.fill state).1 = .ok () ↔
      ∃ sequence sent, sendNumbered (dumpRequest α) state = (.ok sequence, sent) ∧
        (receiveDump sequence gather ({} : Cache α) sent).1 = .ok () := by
  unfold fill
  rcases sendNumbered (dumpRequest α) state with ⟨error | sequence, sent⟩
  · simp
  · rcases received : receiveDump sequence gather ({} : Cache α) sent with ⟨error | _, final, next⟩
    · simp [received]
    · simp [received]

/-- Filling reports interruptions if and only if receiving its dump does. -/
theorem fill_reportsInterruption_iff {state : σ} :
    (∀ cache : Cache α, (cache.fill state).1 = .ok () → Uninterrupted (messagesRead α state)) ↔
      ∀ sequence sent, sendNumbered (dumpRequest α) state = (.ok sequence, sent) →
        ReportsInterruption sequence gather ({} : Cache α) sent := by
  constructor
  · intro reports sequence sent requested isOk
    have uninterrupted := reports {} ((fill_isOk_iff _ state).mpr ⟨sequence, sent, requested, isOk⟩)
    simpa [messagesRead, requested] using uninterrupted
  · intro reports cache isOk
    rcases (fill_isOk_iff cache state).mp isOk with ⟨sequence, sent, requested, received⟩
    simpa [messagesRead, requested] using reports sequence sent requested received

end Cache

namespace Transport

open CacheObject

variable {σ α β : Type} [Transport σ] [CacheObject α]

/-- A dump that was interrupted is reported complete, and published by a fill, if and only if an
acknowledgement ends it. -/
theorem reportsInterruption_iff (state : σ) :
    (∀ (sequence : UInt32) (handle : Handler β) (value : β),
      ReportsInterruption sequence handle value state ↔
        ¬∃ before last,
          AcknowledgedInterruption sequence handle value (stream state) before last) ∧
      ((∀ cache : Cache α, (cache.fill state).1 = .ok () →
          Uninterrupted (Cache.messagesRead α state)) ↔
        ¬∃ sequence sent before last,
          sendNumbered (dumpRequest α) state = (.ok sequence, sent) ∧
            AcknowledgedInterruption sequence Cache.gather ({} : Cache α) (stream sent)
              before last) := by
  refine ⟨fun _ _ _ => reportsInterruption_iff_not_acknowledged, ?_⟩
  simp only [Cache.fill_reportsInterruption_iff, reportsInterruption_iff_not_acknowledged,
    not_exists, not_and]
  tauto

/-- A dump whose only report is flagged as interrupted and whose end is an acknowledgement. -/
def interruptedConversation : Conversation :=
  let flagged := Draft.ofType MessageType.newGroups MessageFlags.interrupted
  let report := ((flagged.setSequence 1).append [7, 0, 0, 0, 4, 0, 0, 0]).finish
  let acknowledgement := (((Draft.ofType MessageType.error 0).setSequence 1).append
    (List.replicate ErrorReply.size 0)).finish
  { replies := [[report, acknowledgement]] }

/-- The interrupted dump fills a cache of groups. -/
theorem acknowledgement_hides_interruption :
    (({} : Cache GroupTable).fill interruptedConversation).1 = .ok () ∧
      (({} : Cache GroupTable).fill interruptedConversation).2.1.objects.length = 1 ∧
      ∃ message ∈ Cache.messagesRead GroupTable interruptedConversation,
        message.header.isInterrupted = true := by
  decide +kernel

end Transport

end BridgeView
