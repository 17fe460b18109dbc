import BridgeView.Proofs.Cache.Run
import BridgeView.Proofs.Dump.Stream

/-!
# A fill is all or nothing

A fill succeeds if and only if the request for a dump can be sent and the transport then gives
a complete dump, every message of which can be read (`Dumps`). The cache then holds what the
objects of the dump make as new ones, one after the other; in every other case it is empty.
What the cache held before plays no part in it.
-/

namespace BridgeView.Cache

open CacheObject Transport

variable {α σ : Type} [CacheObject α]

/-- The object that a message describes, if the message can be read and is for the cache. -/
def object? (message : Message) : Option α :=
  (read message.header message.payload).toOption.join

/-- Every message can be read, and the objects are those that the messages describe. -/
def Describe (messages : List Message) (objects : List α) : Prop :=
  (∀ message ∈ messages, (read (α := α) message.header message.payload).isOk = true) ∧
    objects = messages.filterMap object?

/-- The first message describes an object or none, and the rest the other ones. -/
theorem describe_cons_iff {message : Message} {rest : List Message} {objects : List α} :
    Describe (message :: rest) objects ↔
      ∃ object? later, read message.header message.payload = .ok object? ∧
        Describe rest later ∧ objects = object?.toList ++ later := by
  rw [Describe, List.forall_mem_cons, List.filterMap_cons, object?]
  constructor
  · rintro ⟨⟨readable, others⟩, rfl⟩
    rcases found : read (α := α) message.header message.payload with error | object?
    · rw [found] at readable
      cases readable
    · refine ⟨object?, rest.filterMap Cache.object?, rfl, ⟨others, rfl⟩, ?_⟩
      cases object? <;> rfl
  · rintro ⟨object?, later, found, ⟨others, rfl⟩, rfl⟩
    rw [found]
    refine ⟨⟨rfl, others⟩, ?_⟩
    cases object? <;> rfl

/-- Gathering the messages of a dump takes in the objects that they describe as new ones. -/
theorem handleAll_gather_eq_ok_iff {messages : List Message} {staged final : Cache α} :
    handleAll gather staged messages = (.ok (), final) ↔
      ∃ objects, Describe messages objects ∧
        final = objects.foldl (fun cache object => (cache.apply object .new).2) staged := by
  induction messages generalizing staged with
  | nil =>
      constructor
      · rintro ⟨⟩
        exact ⟨[], ⟨by simp, rfl⟩, rfl⟩
      · rintro ⟨objects, ⟨_, rfl⟩, rfl⟩
        rfl
  | cons message rest ih =>
      simp only [handleAll, gather, describe_cons_iff]
      rcases read (α := α) message.header message.payload with error | _ | object
      · simp
      · simp [ih]
      · simp [ih]

/-- The request for a dump can be sent, and the transport then gives a complete dump of the
objects. -/
def Dumps [Transport σ] (state : σ) (objects : List α) : Prop :=
  ∃ sequence sent before last,
    sendNumbered (dumpRequest α) state = (.ok sequence, sent) ∧
      EndsWell sequence (stream sent) before last ∧ Describe (ofNumber sequence before) objects

variable [Transport σ]

/-- A cache is made of a dump if and only if one arrives, and then of its objects. -/
theorem ofDump_eq_ok_iff {state : σ} {filled : Cache α} :
    (∃ next, ofDump state = (.ok filled, next)) ↔
      ∃ objects, Dumps state objects ∧ filled = replay (objects.map (⟨·, .new⟩)) := by
  simp only [Dumps, replay, List.foldl_map]
  rcases requested : sendNumbered (dumpRequest α) state with ⟨error | sequence, sent⟩
  · simp [ofDump_of_error requested]
  · have received :
        (∃ next, receiveDump sequence gather ({} : Cache α) sent = (.ok (), filled, next)) ↔ _ :=
      receiveDump_eq_ok_iff
    simp only [handleAll_gather_eq_ok_iff] at received
    constructor
    · rintro ⟨next, isFilled⟩
      rw [ofDump_of_ok requested] at isFilled
      rcases gathered : receiveDump sequence gather ({} : Cache α) sent with
        ⟨error | _, staged, final⟩
      · rw [gathered] at isFilled
        cases isFilled
      · rw [gathered] at isFilled
        cases isFilled
        rcases received.mp ⟨_, gathered⟩ with ⟨before, last, endsWell, objects, describe, isStaged⟩
        exact ⟨objects, ⟨sequence, sent, before, last, rfl, endsWell, describe⟩, isStaged⟩
    · rintro ⟨objects, ⟨_, _, before, last, ⟨⟩, endsWell, describe⟩, isStaged⟩
      rcases received.mpr ⟨before, last, endsWell, objects, describe, isStaged⟩ with
        ⟨next, gathered⟩
      refine ⟨next, ?_⟩
      rw [ofDump_of_ok requested, gathered]
      rfl

/-- Wherever a dump arrives, it fills the cache with its objects, whatever was cached before. -/
theorem fill_of_dumps {state : σ} {objects : List α} (dumps : Dumps state objects)
    (cache : Cache α) :
    ∃ next, cache.fill state = (.ok (), replay (objects.map (⟨·, .new⟩)), next) := by
  rcases ofDump_eq_ok_iff.mpr ⟨objects, dumps, rfl⟩ with ⟨next, isFilled⟩
  refine ⟨next, ?_⟩
  rw [fill_eq, isFilled]

/-- A fill either fails and leaves the cache empty, or the cache holds what the objects of a
complete dump make; it fails only if there is no complete dump. -/
theorem fill_allOrNothing (state : σ) :
    match (ofDump state : Except Error (Cache α) × σ) with
    | (.error error, next) =>
        (∀ objects : List α, ¬Dumps state objects) ∧
          ∀ cache : Cache α, cache.fill state = (.error error, {}, next) ∧
            cache.refill state = (.error error, {}, next)
    | (.ok filled, next) =>
        (∃ objects, Dumps state objects ∧ filled = replay (objects.map (⟨·, .new⟩))) ∧
          ∀ cache : Cache α, cache.fill state = (.ok (), filled, next) ∧
            cache.refill state = (.ok (), filled, next) := by
  split
  · rename_i error next failed
    refine ⟨?_, ?_⟩
    · intro objects dumps
      rcases ofDump_eq_ok_iff.mpr ⟨objects, dumps, rfl⟩ with ⟨next, isFilled⟩
      rw [failed] at isFilled
      cases isFilled
    · intro cache
      rw [refill, fill_eq, fill_eq, failed]
      exact ⟨rfl, rfl⟩
  · rename_i filled next isFilled
    refine ⟨ofDump_eq_ok_iff.mp ⟨next, isFilled⟩, ?_⟩
    intro cache
    rw [refill, fill_eq, fill_eq, isFilled]
    exact ⟨rfl, rfl⟩

end BridgeView.Cache
