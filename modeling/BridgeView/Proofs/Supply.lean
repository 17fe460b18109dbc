import BridgeView.Conversation

/-!
# What a transport gives

Whoever keeps receiving from a transport gets datagrams and then a failure (`supply`), whoever takes
only what is there gets datagrams until there are none (`waiting`), and the messages of the former
are a stream (`stream`), in which the failure counts as a last item. All this is finite, since the
backlog falls with each datagram.

The three are told apart by what comes at the end: where receiving gives what is there, the
datagrams are the same (`supply_eq_waiting`). So it is with conversations, which give their queue.
-/

namespace BridgeView.Transport

/-- What a transport gives without waiting. -/
structure Waiting (σ : Type) where
  datagrams : List Octets
  /-- Whether there was nothing more, or an error, after the datagrams. -/
  ending : Except Error Unit
  state : σ

variable {σ : Type}

section

variable [Transport σ]

/-- What waits on a transport: the datagrams it gives until it gives none. -/
def waiting (state : σ) : Waiting σ :=
  match _ : tryReceive state with
  | (.error error, next) => ⟨[], .error error, next⟩
  | (.ok none, next) => ⟨[], .ok (), next⟩
  | (.ok (some datagram), next) =>
      let later := waiting next
      { later with datagrams := datagram :: later.datagrams }
termination_by backlog state
decreasing_by exact backlog_tryReceive (by assumption)

theorem waiting_of_error {state next : σ} {error : Error}
    (received : tryReceive state = (.error error, next)) :
    waiting state = ⟨[], .error error, next⟩ := by
  rw [waiting]
  split <;> simp_all

theorem waiting_of_none {state next : σ} (received : tryReceive state = (.ok none, next)) :
    waiting state = ⟨[], .ok (), next⟩ := by
  rw [waiting]
  split <;> simp_all

/-- A datagram that waits is followed by those that wait behind it. -/
theorem waiting_of_some {state next : σ} {datagram : Octets}
    (received : tryReceive state = (.ok (some datagram), next)) :
    waiting state =
      { waiting next with datagrams := datagram :: (waiting next).datagrams } := by
  rw [waiting]
  split
  · simp_all
  · simp_all
  · rename_i found
    rw [received] at found
    simp only [Prod.mk.injEq, Except.ok.injEq, Option.some.injEq] at found
    rcases found with ⟨rfl, rfl⟩
    rfl

/-- The datagrams that a transport gives to one who keeps waiting, and its failure at the end. -/
def supply (state : σ) : List Octets × Error :=
  match _ : receive state with
  | (.error error, _) => ([], error)
  | (.ok datagram, next) => (datagram :: (supply next).1, (supply next).2)
termination_by backlog state
decreasing_by all_goals exact backlog_receive (by assumption)

theorem supply_of_error {state next : σ} {error : Error}
    (received : receive state = (.error error, next)) : supply state = ([], error) := by
  rw [supply]
  split <;> simp_all

/-- A datagram that is supplied is followed by those behind it. -/
theorem supply_of_ok {state next : σ} {datagram : Octets}
    (received : receive state = (.ok datagram, next)) :
    supply state = (datagram :: (supply next).1, (supply next).2) := by
  rw [supply]
  split
  · simp_all
  · rename_i found
    rw [received] at found
    simp only [Prod.mk.injEq, Except.ok.injEq] at found
    rcases found with ⟨rfl, rfl⟩
    rfl

/-- The messages that a transport gives to one who keeps waiting, and its failure at the end. -/
def stream (state : σ) : List (Except Error Message) :=
  match _ : receive state with
  | (.error error, _) => [.error error]
  | (.ok datagram, next) => Message.ofDatagram datagram ++ stream next
termination_by backlog state
decreasing_by exact backlog_receive (by assumption)

theorem stream_of_error {state next : σ} {error : Error}
    (received : receive state = (.error error, next)) : stream state = [.error error] := by
  rw [stream]
  split <;> simp_all

/-- The stream of a datagram is followed by what is received after it. -/
theorem stream_of_ok {state next : σ} {datagram : Octets}
    (received : receive state = (.ok datagram, next)) :
    stream state = Message.ofDatagram datagram ++ stream next := by
  rw [stream]
  split
  · simp_all
  · rename_i found
    rw [received] at found
    simp only [Prod.mk.injEq, Except.ok.injEq] at found
    rcases found with ⟨rfl, rfl⟩
    rfl

/-! ## One in terms of the other -/

/-- The stream is what the datagrams hold, one after the other, and the failure. -/
theorem stream_eq_supply (state : σ) :
    stream state = (supply state).1.flatMap Message.ofDatagram ++ [.error (supply state).2] := by
  -- Every datagram received lowers the backlog, which is what the induction is on.
  induction bound : backlog state using Nat.strongRecOn generalizing state with
  | ind bound ih =>
      subst bound
      rcases received : receive state with ⟨error | datagram, next⟩
      · rw [stream_of_error received, supply_of_error received]
        rfl
      · rw [stream_of_ok received, supply_of_ok received, ih _ (backlog_receive received) next rfl,
          List.flatMap_cons, List.append_assoc]

/-- What one gets who waits where this is there, and fails like this if there is nothing. -/
def awaited (nothing : Error) :
    Except Error (Option Octets) × σ → Except Error Octets × σ
  | (.ok (some datagram), next) => (.ok datagram, next)
  | (.ok none, next) => (.error nothing, next)
  | (.error error, next) => (.error error, next)

/-- Where receiving gives what is there, and fails in one way if there is nothing, those who keep
waiting get what waits. -/
theorem supply_eq_waiting {nothing : Error}
    (sameAsThere : ∀ state : σ, receive state = awaited nothing (tryReceive state))
    (state : σ) :
    supply state = ((waiting state).datagrams,
      match (waiting state).ending with
      | .ok () => nothing
      | .error error => error) := by
  induction state using waiting.induct with
  | case1 state error next received =>
      have failed := sameAsThere state
      rw [received] at failed
      rw [supply_of_error failed, waiting_of_error received]
  | case2 state next received =>
      have failed := sameAsThere state
      rw [received] at failed
      rw [supply_of_error failed, waiting_of_none received]
  | case3 state datagram next received ih =>
      have given := sameAsThere state
      rw [received] at given
      rw [supply_of_ok given, ih, waiting_of_some received]

end

/-! ## Conversations -/

/-- What waits in a conversation is its queue. -/
theorem waiting_conversation (conversation : Conversation) :
    waiting conversation = ⟨conversation.queue, .ok (), { conversation with queue := [] }⟩ := by
  rcases conversation with
    ⟨sequence, port, queue, replies, sends, joins, leaves, sent, outbox, groups⟩
  induction queue with
  | nil => exact waiting_of_none rfl
  | cons datagram queue ih => rw [waiting_of_some rfl, ih]

/-- A conversation gives what waits, and then it runs out of time. -/
theorem supply_conversation (conversation : Conversation) :
    supply conversation = (conversation.queue, .io .timedOut) := by
  have sameAsThere (conversation : Conversation) :
      receive conversation = awaited (.io .timedOut) (tryReceive conversation) := by
    rcases conversation with
      ⟨sequence, port, _ | ⟨datagram, queue⟩, replies, sends, joins, leaves, sent, outbox, groups⟩
    · rfl
    · rfl
  rw [supply_eq_waiting sameAsThere, waiting_conversation]

theorem stream_conversation (conversation : Conversation) :
    stream conversation =
      conversation.queue.flatMap Message.ofDatagram ++ [.error (.io .timedOut)] := by
  rw [stream_eq_supply, supply_conversation]

end BridgeView.Transport
