import BridgeView.Proofs.Sources

/-!
# Control messages and cached objects

Control messages steer the exchange and describe nothing, but their payload may well read as an
object. A manager that delivers events never offers them to a cache. A fill skips, or stops at,
all of them but one: the message that tells of a loss counts as a message of the dump. What a
fill publishes is therefore made of messages that describe something if and only if no such
message of the dump reads as an object (`freeOfControl_iff`).
-/

namespace BridgeView

namespace Cache

open CacheObject

variable {α : Type}

/-- The messages that the objects of the cache came from. -/
def sources (cache : Cache (Sourced α)) : List Message :=
  cache.objects.flatMap (·.sources)

/-- No object is made of a control message. -/
def FreeOfControl (cache : Cache (Sourced α)) : Prop :=
  ∀ message ∈ cache.sources, message.isControl = false

/-- Without sources there is no control message among them. -/
theorem freeOfControl_noting (cache : Cache α) : cache.noting.FreeOfControl := by
  simp [FreeOfControl, sources, noting]

variable [CacheObject α]

/-- The sources of the object that is merged or added join those of the cache. -/
theorem mem_sources_upsert (message : Message) (object : Sourced α)
    (objects : List (Sourced α)) :
    message ∈ (⟨(upsert object objects).2⟩ : Cache (Sourced α)).sources ↔
      message ∈ (⟨objects⟩ : Cache (Sourced α)).sources ∨ message ∈ object.sources := by
  induction objects with
  | nil => simp [upsert, sources]
  | cons cached rest ih =>
      simp only [sources] at ih
      by_cases same : identical cached.object object.object
      · simp only [upsert, sources, same, if_true, Sourced.updated_eq, Sourced.identical_eq,
          List.flatMap_cons, List.mem_append]
        exact or_right_comm
      · simp only [upsert, sources, same, Sourced.identical_eq, Bool.false_eq_true, if_false,
          List.flatMap_cons, List.mem_append, ih]
        exact or_assoc.symm

/-- Withdrawing adds no sources. -/
theorem mem_sources_of_withdraw {message : Message} {gone : Sourced α}
    {objects : List (Sourced α)}
    (stillMem : message ∈ (⟨(withdraw gone objects).2⟩ : Cache (Sourced α)).sources) :
    message ∈ (⟨objects⟩ : Cache (Sourced α)).sources := by
  induction objects with
  | nil => exact stillMem
  | cons cached rest ih =>
      simp only [sources, List.flatMap_cons, List.mem_append] at ih ⊢
      by_cases same : identical cached.object gone.object
      · by_cases stays : (subtract cached.object gone.object).stays
        · simpa [withdraw, sources, same, stays] using stillMem
        · right
          simpa [withdraw, sources, same, stays] using stillMem
      · simp only [withdraw, sources, Sourced.identical_eq, same, Bool.false_eq_true, if_false,
          List.flatMap_cons, List.mem_append] at stillMem
        exact stillMem.imp_right ih

/-- An object without control messages among its sources brings none into the cache. -/
theorem freeOfControl_apply {cache : Cache (Sourced α)} (free : cache.FreeOfControl)
    {object : Sourced α} (described : ∀ message ∈ object.sources, message.isControl = false)
    (action : Action) : (cache.apply object action).2.FreeOfControl := by
  have inserted : (⟨(upsert object cache.objects).2⟩ : Cache (Sourced α)).FreeOfControl := by
    intro message messageMem
    rcases (mem_sources_upsert message object cache.objects).mp messageMem with old | fresh
    · exact free message old
    · exact described message fresh
  cases action with
  | new => exact inserted
  | change => exact inserted
  | delete =>
      intro message messageMem
      exact free message (mem_sources_of_withdraw messageMem)
  | get => exact free

end Cache

/-! ## Events -/

section Events

variable {F : CacheFamily} {σ : Type} {message : Message}

theorem ManagedCache.freeOfControl_apply {managed changed : ManagedCache F.sourced}
    {notice : Notice F.sourced} (free : managed.cache.FreeOfControl)
    (describes : message.isControl = false)
    (applied : managed.apply message = .ok (some (changed, notice))) :
    changed.cache.FreeOfControl := by
  have noted := CacheFamily.event?_sourced (F := F) managed.key message
  rcases plainly : CacheFamily.event? (F := F) managed.key message with error | _ | event
  · rw [plainly] at noted
    rw [apply_of_error noted] at applied
    cases applied
  · rw [plainly] at noted
    rw [apply_of_none noted] at applied
    cases applied
  · rw [plainly] at noted
    rcases apply_of_some noted with ⟨report, _, becomes⟩
    rw [becomes] at applied
    cases applied
    apply Cache.freeOfControl_apply free
    simpa using describes

namespace Delivery

/-- No object of any cache came from a control message. -/
def FreeOfControl (caches : List (ManagedCache F.sourced)) : Prop :=
  ∀ managed ∈ caches, managed.cache.FreeOfControl

theorem freeOfControl_cons_iff {managed : ManagedCache F.sourced}
    {rest : List (ManagedCache F.sourced)} :
    FreeOfControl (managed :: rest) ↔ managed.cache.FreeOfControl ∧ FreeOfControl rest :=
  List.forall_mem_cons

/-- Offering a message that is no control message brings none into a cache. -/
theorem freeOfControl_offer (describes : message.isControl = false)
    {caches : List (ManagedCache F.sourced)} (free : FreeOfControl caches) :
    FreeOfControl (offer message caches).caches := by
  induction caches with
  | nil => exact free
  | cons managed rest ih =>
      rcases freeOfControl_cons_iff.mp free with ⟨first, others⟩
      unfold offer
      split
      · split
        · exact free
        · exact freeOfControl_cons_iff.mpr ⟨first, ih others⟩
        · rename_i changed notice applied
          apply freeOfControl_cons_iff.mpr
          exact ⟨managed.freeOfControl_apply first describes applied, ih others⟩
      · exact freeOfControl_cons_iff.mpr ⟨first, ih others⟩

/-- The messages of a datagram bring no control message into a cache. -/
theorem freeOfControl_ofMessages (messages : List (Except Error Message))
    {caches : List (ManagedCache F.sourced)} (free : FreeOfControl caches) :
    FreeOfControl (ofMessages messages caches).caches := by
  induction messages generalizing caches with
  | nil => exact free
  | cons first rest ih =>
      cases first with
      | error error => exact free
      | ok message =>
          unfold ofMessages
          split
          · exact ih free
          · rename_i describes
            have offered := freeOfControl_offer (Bool.eq_false_iff.mpr describes) free
            dsimp only
            split
            · exact offered
            · exact ih offered

end Delivery

namespace Manager

/-- Datagrams bring no control message into a cache. -/
theorem freeOfControl_run [Transport σ] {manager : Manager F.sourced σ}
    (free : Delivery.FreeOfControl manager.caches) (datagrams : List Octets) :
    Delivery.FreeOfControl (manager.run (datagrams.map .datagram)).1.caches := by
  induction datagrams generalizing manager with
  | nil => exact free
  | cons datagram rest ih =>
      apply ih
      exact Delivery.freeOfControl_ofMessages (Message.ofDatagram datagram) free

theorem freeOfControl_noting (manager : Manager F σ) :
    Delivery.FreeOfControl manager.noting.caches := by
  intro managed managedMem
  rcases List.mem_map.mp managedMem with ⟨unnoted, _, rfl⟩
  exact Cache.freeOfControl_noting unnoted.cache

end Manager

end Events

/-! ## Dumps -/

namespace Cache

open CacheObject Transport

variable {α σ : Type} [CacheObject α]

theorem mem_sources_replay (message : Message) (objects : List (Sourced α)) :
    message ∈ (replay (objects.map (⟨·, .new⟩))).sources ↔
      ∃ object ∈ objects, message ∈ object.sources := by
  induction objects using List.reverseRecOn with
  | nil => simp [replay, sources]
  | append_singleton earlier object ih =>
      rw [List.map_append, List.map_singleton, replay_append_singleton]
      simp only [List.mem_append, List.mem_singleton, or_and_right, exists_or, exists_eq_left, ← ih]
      exact mem_sources_upsert message object _

theorem object?_sourced (message : Message) :
    (object? message : Option (Sourced α)) =
      (object? message : Option α).map (⟨·, [message]⟩) := by
  simp only [object?, Sourced.read_eq]
  rcases read (α := α) message.header message.payload with error | _ | object <;> rfl

/-- What a complete dump makes of a cache consists of the messages that read as objects. -/
theorem mem_sources_iff_of_describe {messages : List Message} {objects : List (Sourced α)}
    (describe : Describe messages objects) (message : Message) :
    message ∈ (replay (objects.map (⟨·, .new⟩))).sources ↔
      message ∈ messages ∧ ∃ object : α, object? message = some object := by
  rw [mem_sources_replay, describe.2]
  simp only [List.mem_filterMap, object?_sourced, Option.map_eq_some_iff]
  constructor
  · rintro ⟨_, ⟨source, sourceMem, object, isObject, rfl⟩, messageMem⟩
    rw [List.mem_singleton] at messageMem
    exact messageMem ▸ ⟨sourceMem, object, isObject⟩
  · rintro ⟨messageMem, object, isObject⟩
    exact ⟨_, ⟨message, messageMem, object, isObject, rfl⟩, List.mem_singleton_self message⟩

/-- Of the messages that a dump hands on, only the one that reports a loss is a control message. -/
theorem isControl_iff_of_goesOn {message : Message} (notDone : message.header.isDone = false)
    (notError : message.header.isError = false)
    (notNoop : message.header.type ≠ MessageType.noop) :
    message.isControl = true ↔ message.header.type = MessageType.overrun := by
  rw [MessageHeader.isDone, beq_eq_false_iff_ne] at notDone
  rw [MessageHeader.isError, beq_eq_false_iff_ne] at notError
  simp [Message.isControl, notDone, notError, notNoop]

/-- A message of a complete dump tells of a loss and reads as an object. -/
structure GatheredLoss (α : Type) [CacheObject α] (sequence : UInt32)
    (stream : List (Except Error Message)) (before : List Message) (last loss : Message) :
    Prop where
  endsWell : EndsWell sequence stream before last
  readable : ∀ message ∈ ofNumber sequence before,
    (read (α := α) message.header message.payload).isOk = true
  mem_before : loss ∈ before
  ofNumber : loss.header.sequence = sequence
  isOverrun : loss.header.type = MessageType.overrun
  isObject : ∃ object : α, object? loss = some object

variable [Transport σ]

/-- A dump hands on a message of the type that reports a loss, and goes on to its end. -/
def GathersLoss (α : Type) [CacheObject α] (state : σ) : Prop :=
  ∃ sequence sent before last loss,
    sendNumbered (dumpRequest α) state = (.ok sequence, sent) ∧
      GatheredLoss α sequence (stream sent) before last loss

theorem isOk_read_sourced (message : Message) :
    (read (α := Sourced α) message.header message.payload).isOk =
      (read (α := α) message.header message.payload).isOk := by
  rw [Sourced.read_eq]
  cases read (α := α) message.header message.payload <;> rfl

/-- A cache filled from a dump is free of control messages if and only if the dump hands on no
report of a loss. -/
theorem freeOfControl_ofDump_iff {state : σ} :
    (∀ filled, (ofDump (α := Sourced α) state).1 = .ok filled → filled.FreeOfControl) ↔
      ¬GathersLoss α state := by
  constructor
  · rintro free ⟨sequence, sent, before, last, loss, requested, gathered⟩
    have describe : Describe (ofNumber sequence before)
        ((ofNumber sequence before).filterMap (object? (α := Sourced α))) := by
      refine ⟨?_, rfl⟩
      intro message messageMem
      exact (isOk_read_sourced message).trans (gathered.readable message messageMem)
    have dumps : Dumps state ((ofNumber sequence before).filterMap (object? (α := Sourced α))) :=
      ⟨sequence, sent, before, last, requested, gathered.endsWell, describe⟩
    rcases ofDump_eq_ok_iff.mpr ⟨_, dumps, rfl⟩ with ⟨next, isFilled⟩
    have notNoop : loss.header.type ≠ MessageType.noop := by
      rw [gathered.isOverrun]
      decide
    have handed : loss ∈ ofNumber sequence before := by
      simp [ofNumber, gathered.mem_before, gathered.ofNumber, notNoop]
    have taken := (mem_sources_iff_of_describe describe loss).mpr ⟨handed, gathered.isObject⟩
    have spared := free _ (congrArg Prod.fst isFilled) loss taken
    rcases gathered.endsWell.goesOn loss gathered.mem_before gathered.ofNumber with
      ⟨notDone, notError⟩
    rw [(isControl_iff_of_goesOn notDone notError notNoop).mpr gathered.isOverrun] at spared
    cases spared
  · -- What a dump hands over neither skips nor ends it, so a control message is a loss.
    intro noLoss filled isFilled message messageMem
    rcases ofDump_eq_ok_iff.mp ⟨_, Prod.ext isFilled rfl⟩ with
      ⟨objects, ⟨sequence, sent, before, last, requested, endsWell, describe⟩, rfl⟩
    rcases (mem_sources_iff_of_describe describe message).mp messageMem with ⟨handed, isObject⟩
    simp only [ofNumber, List.mem_filter, decide_eq_true_eq] at handed
    rcases handed with ⟨inDump, own, notNoop⟩
    rcases endsWell.goesOn message inDump own with ⟨notDone, notError⟩
    apply Bool.eq_false_iff.mpr
    intro isControl
    have isOverrun := (isControl_iff_of_goesOn notDone notError notNoop).mp isControl
    have readable : ∀ other ∈ ofNumber sequence before,
        (read (α := α) other.header other.payload).isOk = true := by
      intro other otherMem
      exact (isOk_read_sourced other).symm.trans (describe.1 other otherMem)
    apply noLoss
    exact ⟨sequence, sent, before, last, message, requested, endsWell, readable, inDump, own,
      isOverrun, isObject⟩

end Cache

/-- Whatever a cache is made of by events describes something, and so does whatever a fill
publishes, if and only if the dump does not tell of a loss by a message that reads as an object. -/
theorem freeOfControl_iff {F : CacheFamily} {α σ : Type} [CacheObject α] [Transport σ] :
    (∀ (manager : Manager F σ) (datagrams : List Octets),
      let noted := (manager.noting.run (datagrams.map .datagram)).1
      noted.plain = (manager.run (datagrams.map .datagram)).1 ∧
        Delivery.FreeOfControl noted.caches) ∧
      ∀ state : σ,
        let noted := Cache.ofDump (α := Sourced α) state
        noted.1.map Cache.plain = (Cache.ofDump (α := α) state).1 ∧
          ((∀ filled, noted.1 = .ok filled → filled.FreeOfControl) ↔
            ¬Cache.GathersLoss α state) := by
  refine ⟨?_, ?_⟩
  · intro manager datagrams
    have sameRun := manager.noting.plain_run datagrams
    rw [manager.plain_noting] at sameRun
    exact ⟨(congrArg Prod.fst sameRun).symm,
      Manager.freeOfControl_run manager.freeOfControl_noting datagrams⟩
  · intro state
    exact ⟨(congrArg Prod.fst (Cache.plain_ofDump state)).symm, Cache.freeOfControl_ofDump_iff⟩

/-- A dump in which a loss is reported by a message that looks like an object. -/
def lossyConversation : Conversation :=
  let loss := (((Draft.ofType MessageType.overrun 0).setSequence 1).append
    [7, 0, 0, 0, 4, 0, 0, 0]).finish
  let ending := (((Draft.ofType MessageType.done 0).setSequence 1).append [0, 0, 0, 0]).finish
  { replies := [[loss, ending]] }

/-- The loss fills a cache of groups. -/
theorem loss_fills_cache :
    (({} : Cache GroupTable).fill lossyConversation).1 = .ok () ∧
      (({} : Cache GroupTable).fill lossyConversation).2.1.objects.length = 1 ∧
      (Cache.ofDump (α := Sourced GroupTable) lossyConversation).1.map
        (fun filled => filled.sources.map (·.header.type)) = .ok [MessageType.overrun] := by
  decide +kernel

end BridgeView
