import BridgeView.Proofs.Cache.Contents
import BridgeView.Proofs.Dump
import Mathlib.Data.List.Induction

/-!
# Runs of a cache

A cache starts empty and goes through any sequence of fills and messages. A fill
leaves what the same cache would hold had it received the objects of the dump as
new ones, so every run comes down to the messages since its last fill, its
history (`run_eq_replay`). The object at an index depends only on the part of
the history that is about that index (`at?_replay`).

An object that is cached was once put there by a report, and every later message about
its index was merged into it or left a part of it. `Lineage` names the report and the
later messages; what holds of cached objects is proved along their lineage.
-/

namespace BridgeView.Cache

open CacheObject IndexedObject

variable {α : Type} [CacheObject α]

/-- The object comes from reading a message. -/
def Parsed (object : α) : Prop :=
  ∃ (header : MessageHeader) (payload : Octets), read header payload = .ok (some object)

/-- What can happen to a cache. -/
inductive Step (α : Type) : Type 1 where
  /-- A message is applied. -/
  | message (event : Event α)
  /-- The contents are replaced by a dump. -/
  | fill {σ : Type} [Transport σ] (state : σ)

/-- What a step makes of a cache. -/
def perform (cache : Cache α) : Step α → Cache α
  | .message event => (cache.apply event.object event.action).2
  | @Step.fill _ _ _ state => (cache.fill state).2.1

/-- The cache after a sequence of steps. -/
def run (steps : List (Step α)) : Cache α :=
  steps.foldl perform {}

/-- The cache after a sequence of messages. -/
def replay (events : List (Event α)) : Cache α :=
  events.foldl (fun cache event => (cache.apply event.object event.action).2) {}

/-- Collects the objects that messages describe. -/
def note : Transport.Handler (List α) := fun message objects =>
  match read message.header message.payload with
  | .error error => (.error error, objects)
  | .ok none => (.ok (), objects)
  | .ok (some object) => (.ok (), objects ++ [object])

variable {σ : Type} [Transport σ]

/-- The objects that a dump gives, none if it fails. -/
def dumped (α : Type) [CacheObject α] (state : σ) : List α :=
  match Transport.sendNumbered (dumpRequest α) state with
  | (.error _, _) => []
  | (.ok sequence, next) =>
      match Transport.receiveDump sequence (note (α := α)) [] next with
      | (.error _, _, _) => []
      | (.ok (), objects, _) => objects

/-- The messages since the last fill, after one more step. -/
def remember (events : List (Event α)) : Step α → List (Event α)
  | .message event => events ++ [event]
  | @Step.fill _ _ _ state => (dumped α state).map (⟨·, .new⟩)

/-- The messages since the last fill, which counts as one message for each of its
objects. -/
def history (steps : List (Step α)) : List (Event α) :=
  steps.foldl remember []

theorem replay_append_singleton (events : List (Event α)) (event : Event α) :
    replay (events ++ [event]) = ((replay events).apply event.object event.action).2 := by
  simp [replay]

/-! ## A fill is a sequence of messages -/

/-- If the dump cannot be requested, nothing is cached. -/
theorem ofDump_of_error {state failed : σ} {error : Error}
    (requested : Transport.sendNumbered (dumpRequest α) state = (.error error, failed)) :
    ofDump (α := α) state = (.error error, failed) := by
  simp only [ofDump, fill, requested]

theorem ofDump_of_ok {state sent : σ} {sequence : UInt32}
    (requested : Transport.sendNumbered (dumpRequest α) state = (.ok sequence, sent)) :
    ofDump (α := α) state =
      let dump := Transport.receiveDump sequence (gather (α := α)) {} sent
      (dump.1.map fun _ => dump.2.1, dump.2.2) := by
  simp only [ofDump, fill, requested]
  rcases Transport.receiveDump sequence (gather (α := α)) {} sent with ⟨error | _, staged, next⟩
  · rfl
  · rfl

/-- What a fill comes to does not depend on what was taken out before: it is a new cache, or an
empty one. -/
theorem fill_eq (cache : Cache α) (state : σ) :
    cache.fill state =
      match (ofDump state : Except Error (Cache α) × σ) with
      | (.error error, next) => (.error error, {}, next)
      | (.ok filled, next) => (.ok (), filled, next) := by
  simp only [ofDump, fill, clear]
  rcases Transport.sendNumbered (dumpRequest α) state with ⟨error | sequence, sent⟩
  · rfl
  · dsimp only
    rcases Transport.receiveDump sequence (gather (α := α)) {} sent with ⟨error | _, staged, next⟩
    · rfl
    · rfl

/-- Objects were read, and the cache holds what they make as new ones. -/
def Staged (cache : Cache α) (objects : List α) : Prop :=
  cache = replay (objects.map (⟨·, .new⟩)) ∧ ∀ object ∈ objects, Parsed object

/-- Gathering objects stages those that are collected. -/
theorem gather_inStep : Transport.InStep Staged (gather (α := α)) note := by
  intro message cache objects staged
  rcases staged with ⟨rfl, parsed⟩
  simp only [gather, note]
  rcases found : read (α := α) message.header message.payload with error | _ | object
  · exact ⟨rfl, rfl, parsed⟩
  · exact ⟨rfl, rfl, parsed⟩
  · refine ⟨rfl, ?_, ?_⟩
    · rw [List.map_append, List.map_singleton, replay_append_singleton]
    · intro other otherMem
      rcases List.mem_append.mp otherMem with old | fresh
      · exact parsed other old
      · rw [List.mem_singleton] at fresh
        exact ⟨message.header, message.payload, fresh ▸ found⟩

/-- Whatever comes of the dump, filling stages what was collected up to then. -/
theorem staged_fill (cache : Cache α) (state : σ) :
    Staged (cache.fill state).2.1 (dumped α state) := by
  have nothing : Staged ({} : Cache α) [] := ⟨rfl, by simp⟩
  simp only [fill, dumped]
  rcases Transport.sendNumbered (dumpRequest α) state with ⟨error | sequence, next⟩
  · exact nothing
  · have inStep := Transport.collectDump_inStep gather_inStep sequence false nothing next
    simp only [Transport.receiveDump]
    rcases gathered : Transport.collectDump sequence (gather (α := α)) false {} next with
      ⟨outcome, staged, final⟩
    rcases noted : Transport.collectDump sequence (note (α := α)) false [] next with
      ⟨outcome', objects, final'⟩
    rw [gathered, noted] at inStep
    rcases inStep with ⟨sameOutcome, after, _⟩
    change outcome = outcome' at sameOutcome
    subst sameOutcome
    cases outcome with
    | error error => exact nothing
    | ok _ => exact after

/-- Every run comes down to its history. -/
theorem run_eq_replay (steps : List (Step α)) : run steps = replay (history steps) := by
  induction steps using List.reverseRecOn with
  | nil => rfl
  | append_singleton steps step ih =>
      have lastStep : run (steps ++ [step]) = (run steps).perform step := by simp [run]
      have lastHistory : history (steps ++ [step]) = remember (history steps) step := by
        simp [history]
      rw [lastStep, lastHistory]
      cases step with
      | message event => rw [perform, remember, ih, replay_append_singleton]
      | fill state => exact (staged_fill _ state).1

/-- If the objects of the messages were parsed, so were those of the whole history. -/
theorem parsed_of_mem_history {steps : List (Step α)}
    (parsed : ∀ event : Event α, .message event ∈ steps → Parsed event.object) :
    ∀ event ∈ history steps, Parsed event.object := by
  induction steps using List.reverseRecOn with
  | nil => simp [history]
  | append_singleton steps step ih =>
      have lastHistory : history (steps ++ [step]) = remember (history steps) step := by
        simp [history]
      have before := ih fun event eventMem => parsed event (List.mem_append_left _ eventMem)
      rw [lastHistory]
      intro event eventMem
      cases step with
      | message last =>
          rcases List.mem_append.mp eventMem with old | fresh
          · exact before event old
          · rw [List.mem_singleton] at fresh
            exact parsed event (by simp [fresh])
      | fill state =>
          rcases List.mem_map.mp eventMem with ⟨object, objectMem, rfl⟩
          exact (staged_fill {} state).2 object objectMem

/-! ## The object at an index -/

variable [IndexedObject α]

/-- The messages about an index; one that only asks for objects is about none. -/
def about (index : Option UInt32) (events : List (Event α)) : List (Event α) :=
  events.filter fun event => index? event.object = index ∧ event.action ≠ .get

/-- The object that a sequence of messages about one index leaves there. -/
def standing (events : List (Event α)) : Option α :=
  events.foldl evolve none

theorem distinct_replay (events : List (Event α)) : (replay events).Distinct := by
  induction events using List.reverseRecOn with
  | nil => exact List.nodup_nil
  | append_singleton events event ih =>
      rw [replay_append_singleton]
      exact distinct_apply ih event.object event.action

theorem distinct_run (steps : List (Step α)) : (run steps).Distinct := by
  rw [run_eq_replay]
  exact distinct_replay (history steps)

omit [IndexedObject α] in
theorem evolve_get (cached? : Option α) (object : α) : evolve cached? ⟨object, .get⟩ = cached? := by
  cases cached? <;> rfl

/-- The object at an index is what the messages about the index make of it. -/
theorem at?_replay (events : List (Event α)) (index : Option UInt32) :
    (replay events).at? index = standing (about index events) := by
  induction events using List.reverseRecOn with
  | nil => rfl
  | append_singleton events event ih =>
      rcases event with ⟨object, action⟩
      rw [replay_append_singleton, at?_apply (distinct_replay events), ih]
      simp only [about, List.filter_append]
      by_cases sameIndex : index? object = index
      · by_cases asks : action = .get
        · subst asks
          simp [sameIndex, evolve_get]
        · simp [sameIndex, asks, standing]
      · simp [sameIndex]

/-- What a message about a cached object reports, and what it leaves at the index. -/
theorem lookup_apply_run (steps : List (Step α)) {cached object : α}
    (isCached : (run steps).lookup object = some cached) (action : Action) :
    ((run steps).apply object action).1 = reported (some cached) ⟨object, action⟩ ∧
      ((run steps).apply object action).2.lookup object = succeed cached ⟨object, action⟩ := by
  rw [lookup_eq_at?] at isCached
  rw [lookup_eq_at?, report_apply, at?_apply (distinct_run steps), isCached, if_pos rfl]
  exact ⟨rfl, rfl⟩

omit [IndexedObject α] in
theorem foldlM_succeed_cons (event : Event α) (events : List (Event α)) (first : α) :
    (event :: events).foldlM succeed first =
      (succeed first event).bind fun left => events.foldlM succeed left :=
  rfl

omit [IndexedObject α] in
theorem foldlM_succeed_concat {events : List (Event α)} {event : Event α} {first object : α} :
    (events ++ [event]).foldlM succeed first = some object ↔
      ∃ cached, events.foldlM succeed first = some cached ∧
        succeed cached event = some object := by
  rw [List.foldlM_append]
  change (events.foldlM succeed first).bind (fun cached => (succeed cached event).bind some) =
    some object ↔ _
  simp [Option.bind_eq_some_iff]

omit [IndexedObject α] in
/-- What holds of an object and is kept by every message still holds after all of them. -/
theorem holds_of_foldlM {holds : α → Prop}
    (keeps : ∀ {cached left event}, holds cached → succeed cached event = some left → holds left)
    {events : List (Event α)} {first object : α} (start : holds first)
    (develops : events.foldlM succeed first = some object) : holds object := by
  induction events generalizing first with
  | nil => exact Option.some.inj develops ▸ start
  | cons event events ih =>
      rw [foldlM_succeed_cons, Option.bind_eq_some_iff] at develops
      rcases develops with ⟨left, succeeded, rest⟩
      exact ih (keeps start succeeded) rest

omit [IndexedObject α] in
/-- What every message either keeps as it is or ends holds after all of them if it held before
and none of them ended it. -/
theorem holds_iff_of_foldlM {holds : α → Prop} {ends : Event α → Prop}
    (keepsOrEnds : ∀ {cached left event}, succeed cached event = some left →
      (holds left ↔ holds cached ∧ ¬ends event))
    {events : List (Event α)} {first object : α}
    (develops : events.foldlM succeed first = some object) :
    holds object ↔ holds first ∧ ∀ event ∈ events, ¬ends event := by
  induction events generalizing first with
  | nil =>
      have unchanged : first = object := Option.some.inj develops
      simp [unchanged]
  | cons event events ih =>
      rw [foldlM_succeed_cons, Option.bind_eq_some_iff] at develops
      rcases develops with ⟨left, succeeded, rest⟩
      rw [ih rest, keepsOrEnds succeeded, and_assoc, List.forall_mem_cons]

/-- How an object came into the cache and what was heard about it since. -/
structure Lineage (events : List (Event α)) (object : α) where
  /-- The messages about the index before. -/
  earlier : List (Event α)
  /-- The message that put an object there. -/
  first : Event α
  /-- The messages about the index since then. -/
  since : List (Event α)
  about_eq : about (index? object) events = earlier ++ first :: since
  inserts : first.action = .new ∨ first.action = .change
  vacant : standing earlier = none
  develops : since.foldlM succeed first.object = some object

omit [IndexedObject α] in
/-- What stands at an index was put there when the index was vacant, and stayed. -/
theorem split_of_standing {events : List (Event α)} {object : α}
    (stands : standing events = some object) :
    ∃ earlier first since, events = earlier ++ first :: since ∧
      (first.action = .new ∨ first.action = .change) ∧ standing earlier = none ∧
        since.foldlM succeed first.object = some object := by
  induction events using List.reverseRecOn generalizing object with
  | nil => cases stands
  | append_singleton events event ih =>
      have lastEvolve : standing (events ++ [event]) = evolve (standing events) event := by
        simp [standing]
      rw [lastEvolve] at stands
      cases before : standing events with
      | none =>
          rw [before] at stands
          have inserted := eq_of_evolve_none stands
          refine ⟨events, event, [], rfl, ?_, before, by rw [inserted]; rfl⟩
          rcases event with ⟨report, action⟩
          cases action with
          | new => exact Or.inl rfl
          | change => exact Or.inr rfl
          | delete => cases stands
          | get => cases stands
      | some cached =>
          rw [before] at stands
          rcases ih before with ⟨earlier, first, since, rfl, inserts, vacant, develops⟩
          refine ⟨earlier, first, since ++ [event], by simp, inserts, vacant, ?_⟩
          exact foldlM_succeed_concat.mpr ⟨cached, develops, stands⟩

/-- Every cached object has a lineage. -/
theorem exists_lineage (steps : List (Step α)) {object : α}
    (cached : object ∈ (run steps).objects) : Nonempty (Lineage (history steps) object) := by
  rw [run_eq_replay, mem_objects_iff (distinct_replay _), at?_replay] at cached
  rcases split_of_standing cached with
    ⟨earlier, first, since, about_eq, inserts, vacant, develops⟩
  exact ⟨⟨earlier, first, since, about_eq, inserts, vacant, develops⟩⟩

namespace Lineage

variable {events : List (Event α)} {object : α}

theorem first_mem (lineage : Lineage events object) : lineage.first ∈ events := by
  have firstMem : lineage.first ∈ about (index? object) events := by
    simp [lineage.about_eq]
  exact (List.mem_filter.mp firstMem).1

theorem since_mem (lineage : Lineage events object) {event : Event α}
    (eventMem : event ∈ lineage.since) : event ∈ events ∧ event.action ≠ .get := by
  have aboutMem : event ∈ about (index? object) events := by
    simp [lineage.about_eq, eventMem]
  rw [about, List.mem_filter] at aboutMem
  exact ⟨aboutMem.1, by simpa using (of_decide_eq_true aboutMem.2).2⟩

end Lineage

end BridgeView.Cache
