import BridgeView.Proofs.Cache.Run
import BridgeView.Proofs.Framing
import BridgeView.Proofs.Replies

/-!
# How a dump is packed

A fill reads the messages of a dump as one stream. It comes to the same however they are packed
into datagrams, one in each, all in one, or with empty datagrams in between
(`fillsAlike_of_packs`).
-/

namespace BridgeView

namespace Cache

open CacheObject Transport Message

variable {α σ τ : Type} [CacheObject α] [Transport σ] [Transport τ]

variable (α) in
/-- Once a dump is asked for, a transport gives datagrams and then fails. -/
structure Answers (state : σ) (number? : Except Error UInt32) (datagrams : List Octets)
    (failure : Error) : Prop where
  requested : (sendNumbered (dumpRequest α) state).1 = number?
  supplied : supply (sendNumbered (dumpRequest α) state).2 = (datagrams, failure)

variable (α) in
/-- The datagrams that answer begin with some messages, in whatever groups. -/
def Packs (state : σ) (number? : Except Error UInt32) (messages : List Message)
    (later : List Octets) (failure : Error) : Prop :=
  ∃ groups : List (List Message), groups.flatten = messages ∧
    Answers α state number? (groups.map pack ++ later) failure

variable (α) in
/-- Whatever two caches hold, a fill from either transport comes to the same. -/
def FillsAlike (state : σ) (other : τ) : Prop :=
  ∀ cache held : Cache α,
    (cache.fill state).1 = (held.fill other).1 ∧ (cache.fill state).2.1 = (held.fill other).2.1

variable {state : σ} {other : τ} {number? : Except Error UInt32} {failure : Error}

/-- If the dump cannot be requested, the cache is left empty. -/
theorem fill_of_refused {error : Error} {datagrams : List Octets}
    (answers : Answers α state (.error error) datagrams failure) (cache : Cache α) :
    (cache.fill state).1 = .error error ∧ (cache.fill state).2.1 = {} := by
  have requested := answers.requested
  rcases sent : sendNumbered (dumpRequest α) state with ⟨outcome, next⟩
  rw [sent] at requested
  change outcome = .error error at requested
  subst requested
  simp [fill_eq, ofDump_of_error sent]

/-- A fill ends as its messages end the dump, and then holds what they make. -/
theorem fill_of_answered {sequence : UInt32} {datagrams : List Octets}
    (answers : Answers α state (.ok sequence) datagrams failure) (cache : Cache α) :
    let progress := dumpMessages sequence (gather (α := α)) false {}
      (datagrams.flatMap ofDatagram ++ [.error failure])
    some (cache.fill state).1 = progress.outcome? ∧
      (cache.fill state).2.1 =
        if progress.outcome? = some (.ok ()) then progress.value else {} := by
  intro progress
  have requested := answers.requested
  have supplied := answers.supplied
  rcases sent : sendNumbered (dumpRequest α) state with ⟨outcome, answered⟩
  rw [sent] at requested supplied
  change outcome = .ok sequence at requested
  subst requested
  rcases collectDump_eq_stream sequence (gather (α := α)) false {} answered with ⟨ends, reached⟩
  rw [stream_eq_supply, supplied] at ends reached
  change progress.outcome? = _ at ends
  change progress.value = _ at reached
  rw [ends, reached]
  simp only [fill_eq, ofDump_of_ok sent, receiveDump]
  rcases (collectDump sequence (gather (α := α)) false {} answered).1 with error | _
  · simp [Except.map]
  · simp [Except.map]

/-- Fills come to the same when their requests do and the messages that they read do. -/
theorem fillsAlike {datagrams others : List Octets}
    (answers : Answers α state number? datagrams failure)
    (alsoAnswers : Answers α other number? others failure)
    (sameProgress : ∀ sequence, number? = .ok sequence →
      dumpMessages sequence (gather (α := α)) false {}
          (datagrams.flatMap ofDatagram ++ [.error failure]) =
        dumpMessages sequence (gather (α := α)) false {}
          (others.flatMap ofDatagram ++ [.error failure])) :
    FillsAlike α state other := by
  intro cache held
  rcases number? with error | sequence
  · rcases fill_of_refused answers cache with ⟨failed, empty⟩
    rcases fill_of_refused alsoAnswers held with ⟨alsoFailed, alsoEmpty⟩
    rw [failed, empty, alsoFailed, alsoEmpty]
    exact ⟨rfl, rfl⟩
  · rcases fill_of_answered answers cache with ⟨outcome, filled⟩
    rcases fill_of_answered alsoAnswers held with ⟨alsoOutcome, alsoFilled⟩
    rw [filled, alsoFilled, ← Option.some.injEq, outcome, alsoOutcome,
      sameProgress sequence rfl]
    exact ⟨rfl, rfl⟩

/-- The packing of messages into datagrams makes no difference to what is filled. -/
theorem fillsAlike_of_packs {messages : List Message} {later : List Octets}
    (framed : ∀ message ∈ messages, message.WellFramed)
    (packs : Packs α state number? messages later failure)
    (alsoPacks : Packs α other number? messages later failure) : FillsAlike α state other := by
  rcases packs with ⟨groups, rfl, answers⟩
  rcases alsoPacks with ⟨others, regrouped, alsoAnswers⟩
  apply fillsAlike answers alsoAnswers
  intro sequence _
  have alsoFramed : ∀ message ∈ others.flatten, message.WellFramed := regrouped ▸ framed
  rw [List.flatMap_append, List.flatMap_append, flatMap_ofDatagram_pack framed,
    flatMap_ofDatagram_pack alsoFramed, regrouped]

end Cache

end BridgeView
