import BridgeView.Manager
import BridgeView.Proofs.Cache.Contents
import BridgeView.Proofs.Supply

/-!
# Delivery, turn by turn

A manager that processes what waits goes through datagrams, through the messages of each
datagram and through the live caches for each message, and the first failure ends all three
loops. Laid out flat this is one list of turns, in each of which a message meets a cache.
The delivery takes these turns from the first one on: all of them, or those before
the first that fails (`Delivery.Follows`). Nothing else ever happens to the caches.
-/

namespace BridgeView

/-! ## What a message is to a cache -/

namespace CacheFamily

variable {F : CacheFamily}

/-- What a message is to the type of a key: nothing, if the type does not consume it or it is
not for the type. -/
def event? (key : F.Key) (message : Message) : Except Error (Option (Event (F.Object key))) :=
  match CacheObject.action? (F.Object key) message.header.type with
  | none | some .get => .ok none
  | some action =>
      (CacheObject.read message.header message.payload).map (Option.map (⟨·, action⟩))

/-- Whether the type of a key consumes a message and reads an object in it. -/
def consumes (key : F.Key) (message : Message) : Bool :=
  match event? key message with
  | .ok (some _) => true
  | .ok none | .error _ => false

/-- A message is never taken for a request. -/
theorem action_ne_get_of_event? {key : F.Key} {message : Message} {event : Event (F.Object key)}
    (consumed : event? key message = .ok (some event)) : event.action ≠ .get := by
  unfold event? at consumed
  split at consumed
  · simp at consumed
  · simp at consumed
  · rename_i action notGet _
    rcases read : CacheObject.read (α := F.Object key) message.header message.payload with
      error | _ | object
    · simp [read, Except.map] at consumed
    · simp [read, Except.map] at consumed
    · simp only [read, Except.map, Option.map_some, Except.ok.injEq, Option.some.injEq] at consumed
      rw [← consumed]
      exact notGet

end CacheFamily

theorem Cache.exists_report {α : Type} [CacheObject α] (cache : Cache α) (object : α)
    {action : Action} (notGet : action ≠ .get) :
    ∃ report, (cache.apply object action).1 = some report := by
  cases action with
  | new => exact ⟨_, rfl⟩
  | change => exact ⟨_, rfl⟩
  | delete => exact ⟨_, rfl⟩
  | get => exact absurd rfl notGet

namespace ManagedCache

open CacheFamily

variable {F : CacheFamily} {managed : ManagedCache F} {message : Message}

/-- A managed cache applies the event in a message. -/
theorem apply_eq (managed : ManagedCache F) (message : Message) :
    managed.apply message =
      (event? managed.key message).map fun event? => event?.bind fun event =>
        let applied := managed.cache.apply event.object event.action
        applied.1.map fun report =>
          ({ managed with cache := applied.2 }, ⟨managed.key, applied.2, report⟩) := by
  unfold apply event?
  rcases CacheObject.action? (F.Object managed.key) message.header.type with _ | action
  · rfl
  · rcases CacheObject.read (α := F.Object managed.key) message.header message.payload with
      error | _ | object
    · cases action <;> rfl
    · cases action <;> rfl
    · cases action <;> rfl

theorem apply_of_error {error : Error} (unreadable : event? managed.key message = .error error) :
    managed.apply message = .error error := by
  rw [apply_eq, unreadable]
  rfl

theorem apply_of_none (ignored : event? managed.key message = .ok none) :
    managed.apply message = .ok none := by
  rw [apply_eq, ignored]
  rfl

/-- A managed cache reports the event in a message. -/
theorem apply_of_some {event : Event (F.Object managed.key)}
    (consumed : event? managed.key message = .ok (some event)) :
    ∃ report, (managed.cache.apply event.object event.action).1 = some report ∧
      managed.apply message =
        let cache := (managed.cache.apply event.object event.action).2
        .ok (some ({ managed with cache }, ⟨managed.key, cache, report⟩)) := by
  rcases managed.cache.exists_report event.object (action_ne_get_of_event? consumed) with
    ⟨report, reported⟩
  refine ⟨report, reported, ?_⟩
  rw [apply_eq, consumed]
  simp only [Except.map, Option.bind_some, reported, Option.map_some]

end ManagedCache

/-! ## Turns -/

/-- One turn of a delivery. -/
inductive Turn where
  /-- The datagram breaks off. -/
  | breaks (error : Error)
  /-- A message is offered to the cache at a position. -/
  | offers (message : Message) (position : Nat)

namespace Turn

variable {F : CacheFamily}

/-- The positions of the live caches, in the order in which they were added. -/
def livePositions (caches : List (ManagedCache F)) : List Nat :=
  (caches.map (·.phase)).findIdxs (· == .live)

/-- The turns of a message, given the positions to which it is offered. -/
def ofMessage (positions : List Nat) : Except Error Message → List Turn
  | .error error => [.breaks error]
  | .ok message => if message.isControl then [] else positions.map (.offers message)

/-- The turns of the messages of a datagram. -/
def ofDatagram (positions : List Nat) (datagram : Octets) : List Turn :=
  (Message.ofDatagram datagram).flatMap (ofMessage positions)

/-- The key of the cache that consumes the message of a turn, given the keys of the caches. -/
def consumer? (keys : List F.Key) : Turn → Option F.Key
  | .breaks _ => none
  | .offers message position => keys[position]?.filter (CacheFamily.consumes · message)

/-- Takes a turn: the caches afterwards, and what the owner of the cache is told. -/
def take (caches : List (ManagedCache F)) :
    Turn → Except Error (List (ManagedCache F) × Option (Notice F))
  | .breaks error => .error error
  | .offers message position =>
      match caches[position]? with
      | none => .ok (caches, none)
      | some managed =>
          match managed.apply message with
          | .error error => .error error
          | .ok none => .ok (caches, none)
          | .ok (some (changed, notice)) => .ok (caches.set position changed, some notice)

/-- What a turn that does not fail can do. -/
theorem take_cases {caches next : List (ManagedCache F)} {turn : Turn}
    {notice? : Option (Notice F)} (taken : turn.take caches = .ok (next, notice?)) :
    (next = caches ∧ notice? = none ∧ turn.consumer? (caches.map (·.key)) = none) ∨
      ∃ position managed report,
        ∃ event : Event (F.Object managed.key),
          let applied := managed.cache.apply event.object event.action
          caches[position]? = some managed ∧ applied.1 = some report ∧
            turn.consumer? (caches.map (·.key)) = some managed.key ∧
              next = caches.set position { managed with cache := applied.2 } ∧
                notice? = some ⟨managed.key, applied.2, report⟩ := by
  cases turn with
  | breaks error => cases taken
  | offers message position =>
      unfold take at taken
      cases atPosition : caches[position]? with
      | none =>
          simp only [atPosition, Except.ok.injEq, Prod.mk.injEq] at taken
          exact Or.inl ⟨taken.1.symm, taken.2.symm, by simp [consumer?, atPosition]⟩
      | some managed =>
          rcases isEvent : CacheFamily.event? managed.key message with error | _ | event
          · simp [atPosition, ManagedCache.apply_of_error isEvent] at taken
          · simp only [atPosition, ManagedCache.apply_of_none isEvent, Except.ok.injEq,
              Prod.mk.injEq] at taken
            refine Or.inl ⟨taken.1.symm, taken.2.symm, ?_⟩
            simp [consumer?, atPosition, CacheFamily.consumes, isEvent]
          · rcases ManagedCache.apply_of_some isEvent with ⟨report, reported, applied⟩
            simp only [atPosition, applied, Except.ok.injEq, Prod.mk.injEq] at taken
            refine Or.inr ⟨position, managed, report, event, atPosition, reported, ?_,
              taken.1.symm, taken.2.symm⟩
            simp [consumer?, atPosition, CacheFamily.consumes, isEvent]

end Turn

/-- Turns are taken one after the other without a failure: the caches before, the turns, what
the owners are told, and the caches afterwards. -/
inductive Takes {F : CacheFamily} :
    List (ManagedCache F) → List Turn → List (Notice F) → List (ManagedCache F) → Prop where
  | nil (caches : List (ManagedCache F)) : Takes caches [] [] caches
  | cons {caches next final : List (ManagedCache F)} {turn : Turn} {turns : List Turn}
      {notice? : Option (Notice F)} {notices : List (Notice F)}
      (taken : turn.take caches = .ok (next, notice?)) (rest : Takes next turns notices final) :
      Takes caches (turn :: turns) (notice?.toList ++ notices) final

namespace Takes

variable {F : CacheFamily} {caches middle final : List (ManagedCache F)}
  {turns earlier later : List Turn} {notices first second : List (Notice F)}

/-- Turns that are taken in two stretches are taken in one. -/
theorem append (taken : Takes caches earlier first middle)
    (rest : Takes middle later second final) :
    Takes caches (earlier ++ later) (first ++ second) final := by
  induction taken with
  | nil => exact rest
  | cons taken _ ih =>
      rw [List.cons_append, List.append_assoc]
      exact .cons taken (ih rest)

/-- Turns change nothing of a managed cache but its contents. -/
theorem map_eq {β : Type} (taken : Takes caches turns notices final)
    (view : ManagedCache F → β)
    (keeps : ∀ (managed : ManagedCache F) (cache : Cache (F.Object managed.key)),
      view { managed with cache } = view managed) :
    final.map view = caches.map view := by
  induction taken with
  | nil => rfl
  | cons taken _ ih =>
      rw [ih]
      rcases Turn.take_cases taken with
        ⟨rfl, _⟩ | ⟨position, managed, report, event, atPosition, _, _, rfl, _⟩
      · rfl
      · rcases List.getElem?_eq_some_iff.mp atPosition with ⟨inRange, rfl⟩
        rw [List.map_set, keeps, ← List.map_set, List.set_getElem_self]

/-- The owner of a cache is told once for every message that the cache consumes. -/
theorem keys_notices (taken : Takes caches turns notices final) :
    notices.map (·.key) = turns.filterMap (Turn.consumer? (caches.map (·.key))) := by
  induction taken with
  | nil => rfl
  | cons taken _ ih =>
      have sameKeys := (Takes.cons taken (.nil _)).map_eq (·.key) fun _ _ => rfl
      rw [List.map_append, ih, sameKeys]
      rcases Turn.take_cases taken with
        ⟨_, rfl, ignored⟩ | ⟨position, managed, report, event, _, _, consumed, _, rfl⟩
      · rw [List.filterMap_cons_none ignored]
        rfl
      · rw [List.filterMap_cons_some consumed]
        rfl

theorem livePositions_eq (taken : Takes caches turns notices final) :
    Turn.livePositions final = Turn.livePositions caches := by
  rw [Turn.livePositions, Turn.livePositions, taken.map_eq (·.phase) fun _ _ => rfl]

end Takes

/-- A delivery takes turns from the first one on: all of them, or those before the first that
fails. -/
inductive Delivery.Follows {F : CacheFamily} (caches : List (ManagedCache F))
    (turns : List Turn) : Delivery F → Prop where
  | all {final : List (ManagedCache F)} {notices : List (Notice F)}
      (taken : Takes caches turns notices final) :
      Follows caches turns ⟨final, notices, .ok notices.length⟩
  | upTo {before after : List Turn} {failing : Turn} {final : List (ManagedCache F)}
      {notices : List (Notice F)} {error : Error} (split : turns = before ++ failing :: after)
      (taken : Takes caches before notices final)
      (failed : failing.take final = .error error) :
      Follows caches turns ⟨final, notices, .error error⟩

namespace Delivery

variable {F : CacheFamily} {caches middle : List (ManagedCache F)} {earlier later : List Turn}
  {notices : List (Notice F)}

/-- A failure makes the turns behind it void. -/
theorem Follows.stop {error : Error}
    (first : Follows caches earlier ⟨middle, notices, .error error⟩) :
    Follows caches (earlier ++ later) ⟨middle, notices, .error error⟩ := by
  cases first with
  | upTo split taken failed =>
      subst split
      exact .upTo (List.append_assoc _ _ _) taken failed

/-- Turns that follow without a failure are taken as well. -/
theorem Follows.continue {count : Nat} {rest : Delivery F}
    (first : Follows caches earlier ⟨middle, notices, .ok count⟩)
    (second : Follows middle later rest) :
    Follows caches (earlier ++ later)
      ⟨rest.caches, notices ++ rest.notices, rest.applied.map (count + ·)⟩ := by
  cases first with
  | all taken =>
      cases second with
      | all takenLater =>
          simp only [Except.map, ← List.length_append]
          exact .all (taken.append takenLater)
      | upTo split takenLater failed =>
          subst split
          exact .upTo (List.append_assoc _ _ _).symm (taken.append takenLater) failed

/-- Offering a message to caches takes the turns of the live ones among them. -/
theorem follows_offer (message : Message) (done rest : List (ManagedCache F)) :
    Follows (done ++ rest)
      (((rest.map (·.phase)).findIdxs (· == .live) done.length).map (.offers message))
      { offer message rest with caches := done ++ (offer message rest).caches } := by
  -- The positions count from the first cache, so those that had their turn stay in front.
  induction rest generalizing done with
  | nil => exact .all (.nil _)
  | cons managed rest ih =>
      have others (left : ManagedCache F) := ih (done ++ [left])
      simp only [List.append_assoc, List.singleton_append, List.length_append,
        List.length_singleton] at others
      have here : (done ++ managed :: rest)[done.length]? = some managed := by simp
      rw [offer, List.map_cons, List.findIdxs_cons]
      by_cases isLive : managed.phase = .live
      · rw [if_pos isLive, if_pos (beq_iff_eq.mpr isLive), List.map_cons]
        cases applied : managed.apply message with
        | error error =>
            refine .upTo (List.nil_append _).symm (.nil _) ?_
            simp only [Turn.take, here, applied]
        | ok changed? =>
            rcases changed? with _ | ⟨changed, notice⟩
            · have taken : Turn.take (done ++ managed :: rest) (.offers message done.length) =
                  .ok (done ++ managed :: rest, none) := by
                simp only [Turn.take, here, applied]
              have first := Follows.all (.cons taken (.nil _))
              have both := first.continue (others managed)
              cases later : (offer message rest).applied <;>
                simpa [later, Except.map] using both
            · have taken : Turn.take (done ++ managed :: rest) (.offers message done.length) =
                  .ok (done ++ changed :: rest, some notice) := by
                simp [Turn.take, applied]
              have first := Follows.all (.cons taken (.nil _))
              have both := first.continue (others changed)
              simpa [Nat.add_comm] using both
      · rw [if_neg isLive, if_neg (fun equal => isLive (beq_iff_eq.mp equal))]
        exact others managed

theorem Follows.livePositions_eq {delivery : Delivery F}
    (follows : Follows caches earlier delivery) :
    Turn.livePositions delivery.caches = Turn.livePositions caches := by
  cases follows with
  | all taken => exact taken.livePositions_eq
  | upTo _ taken _ => exact taken.livePositions_eq

theorem Follows.exists_takes {delivery : Delivery F} (follows : Follows caches earlier delivery) :
    ∃ turns, Takes caches turns delivery.notices delivery.caches := by
  cases follows with
  | all taken => exact ⟨_, taken⟩
  | upTo _ taken _ => exact ⟨_, taken⟩

/-- The messages of a datagram are taken by turns. -/
theorem follows_ofMessages (messages : List (Except Error Message))
    (caches : List (ManagedCache F)) :
    Follows caches (messages.flatMap (Turn.ofMessage (Turn.livePositions caches)))
      (ofMessages messages caches) := by
  induction messages generalizing caches with
  | nil => exact .all (.nil caches)
  | cons first rest ih =>
      cases first with
      | error error => exact .upTo (List.nil_append _).symm (.nil caches) rfl
      | ok message =>
          rw [List.flatMap_cons, ofMessages, Turn.ofMessage]
          split
          · exact ih caches
          · have offered := follows_offer message [] caches
            simp only [List.nil_append, List.length_nil] at offered
            have later := ih (offer message caches).caches
            rw [offered.livePositions_eq] at later
            cases outcome : (offer message caches).applied with
            | error error =>
                simp only [outcome] at offered ⊢
                exact offered.stop
            | ok count =>
                simp only [outcome] at offered ⊢
                exact offered.continue later

end Delivery

namespace Manager

variable {F : CacheFamily} {σ : Type}

/-- The turns of the datagrams that a manager processes, one after the other. -/
def turns (manager : Manager F σ) (datagrams : List Octets) : List Turn :=
  datagrams.flatMap (Turn.ofDatagram (Turn.livePositions manager.caches))

/-- A datagram is applied by turns. -/
theorem follows_applyDatagram (manager : Manager F σ) (datagram : Octets) :
    Delivery.Follows manager.caches (manager.turns [datagram])
      ⟨(manager.applyDatagram datagram).manager.caches, (manager.applyDatagram datagram).notices,
        (manager.applyDatagram datagram).applied⟩ := by
  rw [turns, List.flatMap_singleton]
  exact Delivery.follows_ofMessages (Message.ofDatagram datagram) manager.caches

variable {manager : Manager F σ} {events : σ} {datagram : Octets}
  {caches : List (ManagedCache F)} {notices : List (Notice F)}

theorem turns_cons (manager : Manager F σ) (first : Octets) (rest : List Octets) :
    manager.turns (first :: rest) = manager.turns [first] ++ manager.turns rest := by
  rw [turns, turns, List.flatMap_cons, List.flatMap_singleton, turns]

/-- The turns of datagrams are the same after others were taken. -/
theorem turns_eq_of_takes (taken : Takes manager.caches (manager.turns [datagram]) notices caches)
    (datagrams : List Octets) :
    { manager with events, caches }.turns datagrams = manager.turns datagrams := by
  rw [turns, turns, taken.livePositions_eq]

variable [Transport σ]

/-- All that waits is processed. -/
structure TakesAll (manager : Manager F σ) (processed : Processed F σ) : Prop where
  /-- What waited was received. -/
  events_eq : processed.manager.events = (Transport.waiting manager.events).state
  /-- Every turn was taken. -/
  takes : Takes manager.caches (manager.turns (Transport.waiting manager.events).datagrams)
    processed.notices processed.manager.caches
  /-- There was one notice for each message and each cache that consumes it. -/
  keys_eq : processed.notices.map (·.key) =
    (manager.turns (Transport.waiting manager.events).datagrams).filterMap
      (Turn.consumer? (manager.caches.map (·.key)))

/-- Processing stops at a turn that fails: those before it were taken, those after it are not,
and the datagrams behind that of the turn still wait. -/
def StopsAt (manager : Manager F σ) (processed : Processed F σ) (error : Error) : Prop :=
  ∃ earlier datagram later before failing after,
    (Transport.waiting manager.events).datagrams = earlier ++ datagram :: later ∧
      manager.turns [datagram] = before ++ failing :: after ∧
        Takes manager.caches (manager.turns earlier ++ before) processed.notices
          processed.manager.caches ∧
          failing.take processed.manager.caches = .error error ∧
            Transport.waiting processed.manager.events =
              { Transport.waiting manager.events with datagrams := later }

/-- A datagram that is taken first makes one more of those that are all taken. -/
theorem TakesAll.prepend {later : Processed F σ} {applied : Except Error Nat}
    (received : Transport.tryReceive manager.events = (.ok (some datagram), events))
    (taken : Takes manager.caches (manager.turns [datagram]) notices caches)
    (rest : TakesAll { manager with events, caches } later) :
    manager.TakesAll ⟨later.manager, notices ++ later.notices, applied⟩ := by
  have waits := Transport.waiting_of_some received
  have takenAll : Takes manager.caches (manager.turns (Transport.waiting manager.events).datagrams)
      (notices ++ later.notices) later.manager.caches := by
    rw [waits, turns_cons, ← turns_eq_of_takes taken (Transport.waiting events).datagrams]
    exact taken.append rest.takes
  refine ⟨?_, takenAll, takenAll.keys_notices⟩
  rw [waits]
  exact rest.events_eq

/-- A datagram that is taken first leaves the failure where it is. -/
theorem StopsAt.prepend {later : Processed F σ} {applied : Except Error Nat} {error : Error}
    (received : Transport.tryReceive manager.events = (.ok (some datagram), events))
    (taken : Takes manager.caches (manager.turns [datagram]) notices caches)
    (rest : StopsAt { manager with events, caches } later error) :
    manager.StopsAt ⟨later.manager, notices ++ later.notices, applied⟩ error := by
  rcases rest with ⟨earlier, stopping, behind, before, failing, after, split, itsTurns, takes,
    failed, stillWaits⟩
  rw [turns_eq_of_takes taken] at itsTurns takes
  have waits := Transport.waiting_of_some received
  refine ⟨datagram :: earlier, stopping, behind, before, failing, after, ?_, itsTurns, ?_, failed,
    ?_⟩
  · rw [waits, split, List.cons_append]
  · rw [turns_cons, List.append_assoc]
    exact taken.append takes
  · rw [waits]
    exact stillWaits

/-- Where nothing waits, everything is taken. -/
theorem takesAll_of_nothing (manager : Manager F σ) (applied : Except Error Nat)
    (nothing : (Transport.waiting manager.events).datagrams = []) :
    manager.TakesAll
      ⟨{ manager with events := (Transport.waiting manager.events).state }, [], applied⟩ := by
  refine ⟨rfl, ?_, ?_⟩
  · rw [nothing]
    exact .nil manager.caches
  · rw [nothing]
    rfl

/-- Processing what waits takes its turns: all of them, or those before the first that fails. -/
theorem applyWaiting_takes (manager : Manager F σ) :
    match manager.applyWaiting.applied with
    | .ok count =>
        (Transport.waiting manager.events).ending = .ok () ∧
          manager.TakesAll manager.applyWaiting ∧
            count = manager.applyWaiting.notices.length
    | .error error =>
        ((Transport.waiting manager.events).ending = .error error ∧
          manager.TakesAll manager.applyWaiting) ∨
            manager.StopsAt manager.applyWaiting error := by
  -- A run ends where the transport fails or has nothing more, or within a datagram; else it is
  -- one datagram and the run behind it, whose turns are those of the same live caches.
  induction manager using Manager.applyWaiting.induct with
  | case1 manager error events received =>
      have waits := Transport.waiting_of_error received
      have nothing := takesAll_of_nothing manager (.error error) (by rw [waits])
      rw [applyWaiting_of_error received]
      rw [waits] at nothing ⊢
      exact Or.inl ⟨rfl, nothing⟩
  | case2 manager events received =>
      have waits := Transport.waiting_of_none received
      have nothing := takesAll_of_nothing manager (.ok 0) (by rw [waits])
      rw [applyWaiting_of_none received]
      rw [waits] at nothing ⊢
      exact ⟨rfl, nothing, rfl⟩
  | case3 manager datagram events received first error failed =>
      have waits := Transport.waiting_of_some received
      have delivered := follows_applyDatagram { manager with events } datagram
      rw [failed] at delivered
      rw [applyWaiting_of_failed received failed]
      cases delivered with
      | @upTo before after failing _ _ _ split taken failedTurn =>
          refine Or.inr ⟨[], datagram, (Transport.waiting events).datagrams, before, failing, after,
            ?_, split, taken, failedTurn, ?_⟩
          · rw [waits]
            rfl
          · rw [waits]
            rfl
  | case4 manager datagram events received first count succeeded ih =>
      have waits := Transport.waiting_of_some received
      have delivered := follows_applyDatagram { manager with events } datagram
      have combined := applyWaiting_of_applied received succeeded
      dsimp only [first] at ih combined
      rw [succeeded] at delivered
      cases delivered with
      | all taken =>
          cases outcome :
              ({ manager with events }.applyDatagram datagram).manager.applyWaiting.applied with
          | ok later =>
              simp only [outcome, Except.map] at ih combined
              rcases ih with ⟨drained, takesAll, counted⟩
              rw [combined]
              refine ⟨?_, takesAll.prepend received taken, ?_⟩
              · rw [waits]
                exact drained
              · rw [counted, List.length_append]
          | error error =>
              simp only [outcome, Except.map] at ih combined
              rw [combined]
              rcases ih with ⟨failed, takesAll⟩ | stops
              · refine Or.inl ⟨?_, takesAll.prepend received taken⟩
                rw [waits]
                exact failed
              · exact Or.inr (stops.prepend received taken)

end Manager

end BridgeView
