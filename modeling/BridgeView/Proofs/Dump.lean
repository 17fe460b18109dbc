import BridgeView.Transport

/-!
# Reading the same dump twice

What a dump makes of a value depends on the handler, but whether it ends, how it ends
and what it takes from the transport depend only on which messages the handler
refuses. Two handlers that refuse the same messages and keep two values related therefore
read a dump in step, and the values are related at the end.
-/

namespace BridgeView.Transport

variable {β γ σ : Type} [Transport σ]

/-- Two handlers agree on which messages they refuse, and keep a relation of their values. -/
def InStep (related : β → γ → Prop) (handle : Handler β) (follow : Handler γ) : Prop :=
  ∀ message value companion, related value companion →
    (handle message value).1 = (follow message companion).1 ∧
      related (handle message value).2 (follow message companion).2

variable {related : β → γ → Prop} {handle : Handler β} {follow : Handler γ}

/-- Handlers in step with each other go through the same messages to the same outcome. -/
theorem dumpMessages_inStep (inStep : InStep related handle follow) (sequence : UInt32)
    (messages : List (Except Error Message)) (interrupted : Bool) {value : β} {companion : γ}
    (start : related value companion) :
    (dumpMessages sequence handle interrupted value messages).interrupted =
        (dumpMessages sequence follow interrupted companion messages).interrupted ∧
      related (dumpMessages sequence handle interrupted value messages).value
        (dumpMessages sequence follow interrupted companion messages).value ∧
      (dumpMessages sequence handle interrupted value messages).outcome? =
        (dumpMessages sequence follow interrupted companion messages).outcome? := by
  induction messages generalizing interrupted value companion with
  | nil => exact ⟨rfl, start, rfl⟩
  | cons first rest ih =>
      cases first with
      | error error => exact ⟨rfl, start, rfl⟩
      | ok message =>
          simp only [dumpMessages]
          split
          · exact ih interrupted start
          · split
            · exact ⟨rfl, start, rfl⟩
            · split
              · exact ⟨rfl, start, rfl⟩
              · split
                · exact ih _ start
                · rcases inStep message value companion start with ⟨sameOutcome, after⟩
                  rcases handled : handle message value with ⟨outcome, next⟩
                  rcases followed : follow message companion with ⟨outcome', next'⟩
                  rw [handled, followed] at sameOutcome after
                  change outcome = outcome' at sameOutcome
                  subst sameOutcome
                  cases outcome with
                  | ok _ => exact ih _ after
                  | error error => exact ⟨rfl, after, rfl⟩

/-- Handlers in step with each other collect a dump with the same outcome. -/
theorem collectDump_inStep (inStep : InStep related handle follow) (sequence : UInt32)
    (interrupted : Bool) {value : β} {companion : γ} (start : related value companion)
    (state : σ) :
    (collectDump sequence handle interrupted value state).1 =
        (collectDump sequence follow interrupted companion state).1 ∧
      related (collectDump sequence handle interrupted value state).2.1
        (collectDump sequence follow interrupted companion state).2.1 ∧
      (collectDump sequence handle interrupted value state).2.2 =
        (collectDump sequence follow interrupted companion state).2.2 := by
  -- Every datagram received lowers the backlog, which is what the induction is on.
  induction bound : backlog state using Nat.strongRecOn
    generalizing state interrupted value companion with
  | ind bound ih =>
      subst bound
      rcases received : receive state with ⟨datagram | datagram, next⟩
      · rw [collectDump_of_error received, collectDump_of_error received]
        exact ⟨rfl, start, rfl⟩
      · rw [collectDump_of_ok received, collectDump_of_ok received]
        rcases dumpMessages_inStep inStep sequence (Message.ofDatagram datagram) interrupted start
          with ⟨sameFlag, after, sameOutcome⟩
        simp only [sameFlag, sameOutcome]
        split
        · exact ⟨rfl, after, rfl⟩
        · exact ih _ (backlog_receive received) _ after _ rfl

end BridgeView.Transport
