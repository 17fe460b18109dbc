import BridgeView.Proofs.Manager.Changelog
import Mathlib.Data.List.TakeWhile

/-!
# Caches beside each other

A message type belongs to one type of cache, so managed caches never touch each other's
objects. They share the loop that goes through a datagram, though, and a message that one of
them cannot read ends the datagram for all. What a cache gets of a datagram is its `share`: the
events before the first message that some managed type cannot read. A managed cache does what
it would do with its shares if there were nothing else (`cacheOf_run_datagrams`), so a neighbour
makes a difference exactly where it makes the share smaller, which is when an event that the
cache would get to stands behind a message that the neighbour cannot read
(`follow_shares_alone_eq_iff`).
-/

namespace BridgeView

open CacheFamily Notice

namespace Cache

variable {α : Type} [CacheObject α]

/-- The cache after events, and what its owner hears. -/
def follow (cache : Cache α) : List (Event α) → Cache α × List (Cache α × Report α)
  | [] => (cache, [])
  | event :: events =>
      let applied := cache.apply event.object event.action
      let later := applied.2.follow events
      (later.1, applied.1.toList.map (applied.2, ·) ++ later.2)

/-- Events are followed in two stretches as in one. -/
theorem follow_append (cache : Cache α) (earlier later : List (Event α)) :
    cache.follow (earlier ++ later) =
      (((cache.follow earlier).1.follow later).1,
        (cache.follow earlier).2 ++ ((cache.follow earlier).1.follow later).2) := by
  induction earlier generalizing cache with
  | nil => rfl
  | cons event earlier ih =>
      rw [List.cons_append, follow, ih, follow, List.append_assoc]

/-- Each event that is not a request is reported once. -/
theorem length_follow (cache : Cache α) {events : List (Event α)}
    (notGet : ∀ event ∈ events, event.action ≠ .get) :
    (cache.follow events).2.length = events.length := by
  induction events generalizing cache with
  | nil => rfl
  | cons event events ih =>
      rw [List.forall_mem_cons] at notGet
      rcases cache.exists_report event.object notGet.1 with ⟨report, isReported⟩
      rw [follow, isReported, Option.toList_some, List.map_singleton, List.singleton_append,
        List.length_cons, ih _ notGet.2, List.length_cons]

end Cache

/-! ## Shares of a datagram -/

/-- Where a part of every list is as long in total as the whole, the rest is empty. -/
theorem eq_nil_of_length_flatMap_eq {β γ : Type} {whole part rest : β → List γ}
    (split : ∀ item, whole item = part item ++ rest item) {items : List β}
    (sameLength : (items.flatMap whole).length = (items.flatMap part).length) :
    ∀ item ∈ items, rest item = [] := by
  have lengths : (items.flatMap whole).length =
      (items.flatMap part).length + (items.flatMap rest).length := by
    clear sameLength
    induction items with
    | nil => rfl
    | cons item items ih =>
        simp only [List.flatMap_cons, List.length_append, split item, ih]
        omega
  have nothing : (items.flatMap rest).length = 0 := by omega
  exact List.flatMap_eq_nil_iff.mp (List.eq_nil_of_length_eq_zero nothing)

namespace CacheFamily

variable {F : CacheFamily} {key : F.Key} {keys : List F.Key}

/-- No message type belongs to two types of caches. -/
def Exclusive (F : CacheFamily) : Prop :=
  ∀ (key other : F.Key) (type : UInt16), other ≠ key →
    CacheObject.action? (F.Object key) type = none ∨
      CacheObject.action? (F.Object other) type = none

/-- The type of a key can read a message, or need not. -/
def legible (key : F.Key) : Except Error Message → Bool
  | .error _ => false
  | .ok message => message.isControl || (event? key message).isOk

/-- The event that a message is for the type of a key. -/
def carried (key : F.Key) : Except Error Message → Option (Event (F.Object key))
  | .error _ => none
  | .ok message => if message.isControl then none else (event? key message).toOption.join

/-- The events for a type up to the first message that one of the given types cannot read. -/
def share (keys : List F.Key) (key : F.Key) (messages : List (Except Error Message)) :
    List (Event (F.Object key)) :=
  (messages.takeWhile fun message => keys.all (legible · message)).filterMap (carried key)

/-- The events for a type in datagrams that are processed one after the other. -/
def shares (keys : List F.Key) (key : F.Key) (datagrams : List Octets) :
    List (Event (F.Object key)) :=
  datagrams.flatMap fun datagram => share keys key (Message.ofDatagram datagram)

/-- What a neighbour cannot read costs a type nothing: from the first such message on there is no
event of the type, or none that it would get to. -/
def Spares (neighbour key : F.Key) (messages : List (Except Error Message)) : Prop :=
  ∀ message ∈ (messages.takeWhile (legible key)).dropWhile (legible neighbour),
    carried key message = none

/-- A message that every cache can read adds what it carries to a share. -/
theorem share_of_legible {message : Except Error Message} {rest : List (Except Error Message)}
    (readable : ∀ key ∈ keys, legible key message = true) :
    share keys key (message :: rest) = (carried key message).toList ++ share keys key rest := by
  rw [share, List.takeWhile_cons, if_pos (List.all_eq_true.mpr readable), share]
  cases isCarried : carried key message with
  | none => exact List.filterMap_cons_none isCarried
  | some event => exact List.filterMap_cons_some isCarried

/-- A message that some cache cannot read ends every share of its datagram. -/
theorem share_of_illegible {other : F.Key} {message : Except Error Message}
    {rest : List (Except Error Message)} (otherMem : other ∈ keys)
    (unreadable : legible other message = false) :
    share keys key (message :: rest) = [] := by
  have ends : ¬keys.all (legible · message) = true := by
    rw [List.all_eq_true]
    intro readable
    rw [readable other otherMem] at unreadable
    cases unreadable
  rw [share, List.takeWhile_cons, if_neg ends, List.filterMap_nil]

/-- The share of a datagram is that of its first message and, if every cache can read it, of the
rest. -/
theorem share_singleton_append {keys : List F.Key} (message : Except Error Message)
    (rest : List (Except Error Message)) :
    share keys key (message :: rest) = share keys key [message] ++
      if ∀ key ∈ keys, legible key message = true then share keys key rest else [] := by
  split
  · rename_i readable
    rw [share_of_legible readable, share_of_legible readable]
    exact congrArg (· ++ _) (List.append_nil _).symm
  · rename_i unreadable
    push Not at unreadable
    rcases unreadable with ⟨other, otherMem, notLegible⟩
    have illegible := Bool.eq_false_iff.mpr notLegible
    rw [share_of_illegible otherMem illegible, share_of_illegible otherMem illegible]
    rfl

/-- A control message adds nothing to a share. -/
theorem share_of_control {message : Message} (isControl : message.isControl = true)
    (rest : List (Except Error Message)) :
    share keys key (.ok message :: rest) = share keys key rest := by
  have skipped : ∀ other ∈ keys, legible other (.ok message) = true := by
    intro other _
    rw [legible, isControl, Bool.true_or]
  rw [share_of_legible skipped, carried, if_pos isControl, Option.toList_none, List.nil_append]

theorem legible_of_not_control {message : Message} (notControl : ¬message.isControl = true)
    (key : F.Key) : legible key (.ok message) = (event? key message).isOk := by
  rw [legible, Bool.eq_false_iff.mpr notControl, Bool.false_or]

theorem action_ne_get_of_mem_share {messages : List (Except Error Message)}
    {event : Event (F.Object key)} (eventMem : event ∈ share keys key messages) :
    event.action ≠ .get := by
  rcases List.mem_filterMap.mp eventMem with ⟨message | message, _, isCarried⟩
  · cases isCarried
  · rw [carried] at isCarried
    split at isCarried
    · cases isCarried
    · rcases consumed : event? key message with error | event?
      · rw [consumed] at isCarried
        cases isCarried
      · rw [consumed] at isCarried
        cases isCarried
        exact action_ne_get_of_event? consumed

theorem action_ne_get_of_mem_shares {datagrams : List Octets} {event : Event (F.Object key)}
    (eventMem : event ∈ shares keys key datagrams) : event.action ≠ .get := by
  rcases List.mem_flatMap.mp eventMem with ⟨datagram, _, inShare⟩
  exact action_ne_get_of_mem_share inShare

/-- The share of a cache alone is what it can read up to the first thing that it cannot. -/
theorem share_alone {messages : List (Except Error Message)} :
    share [key] key messages = (messages.takeWhile (legible key)).filterMap (carried key) := by
  rw [share]
  congr 2
  funext message
  rw [List.all_cons, List.all_nil, Bool.and_true]

/-- What a neighbour costs is missing from the end of the share. -/
theorem share_alone_eq_append {neighbour : F.Key} (keyMem : key ∈ keys)
    (neighbourMem : neighbour ∈ keys) (noOther : ∀ other ∈ keys, other = key ∨ other = neighbour)
    (messages : List (Except Error Message)) :
    share [key] key messages = share keys key messages ++
      ((messages.takeWhile (legible key)).dropWhile (legible neighbour)).filterMap (carried key) := by
  have together (message : Except Error Message) :
      keys.all (legible · message) =
        decide (legible neighbour message = true ∧ legible key message = true) := by
    rw [Bool.eq_iff_iff, List.all_eq_true, decide_eq_true_eq]
    constructor
    · intro readable
      exact ⟨readable neighbour neighbourMem, readable key keyMem⟩
    · rintro ⟨neighbourReads, keyReads⟩ other otherMem
      rcases noOther other otherMem with rfl | rfl
      · exact keyReads
      · exact neighbourReads
  rw [share_alone, share]
  simp only [together]
  rw [← List.takeWhile_takeWhile, ← List.filterMap_append, List.takeWhile_append_dropWhile]

/-- A neighbour makes no difference to a cache if and only if it spares it in every datagram. -/
theorem follow_shares_alone_eq_iff {keys : List F.Key} {neighbour : F.Key} (keyMem : key ∈ keys)
    (neighbourMem : neighbour ∈ keys) (noOther : ∀ other ∈ keys, other = key ∨ other = neighbour)
    (cache : Cache (F.Object key)) (datagrams : List Octets) :
    cache.follow (shares [key] key datagrams) = cache.follow (shares keys key datagrams) ↔
      ∀ datagram ∈ datagrams, Spares neighbour key (Message.ofDatagram datagram) := by
  have split (datagram : Octets) :=
    share_alone_eq_append keyMem neighbourMem noOther (Message.ofDatagram datagram)
  constructor
  · -- Every event is heard of, so what is heard is shorter as soon as one event is missing.
    intro same
    have sameLength : (cache.follow (shares [key] key datagrams)).2.length =
        (cache.follow (shares keys key datagrams)).2.length := by rw [same]
    rw [cache.length_follow fun _ => action_ne_get_of_mem_shares,
      cache.length_follow fun _ => action_ne_get_of_mem_shares] at sameLength
    intro datagram datagramMem
    rw [Spares, ← List.filterMap_eq_nil_iff]
    exact eq_nil_of_length_flatMap_eq split sameLength datagram datagramMem
  · intro spares
    have sameShares : shares [key] key datagrams = shares keys key datagrams := by
      apply List.flatMap_congr
      intro datagram datagramMem
      rw [split, List.filterMap_eq_nil_iff.mpr (spares datagram datagramMem), List.append_nil]
    rw [sameShares]

/-- A message that one cache cannot read is of no other type. -/
theorem event?_of_exclusive (exclusive : Exclusive F) {other : F.Key} {message : Message}
    {error : Error} (otherKey : other ≠ key) (unreadable : event? key message = .error error) :
    event? other message = .ok none := by
  rcases exclusive key other message.header.type otherKey with ours | theirs
  · rw [event?, ours] at unreadable
    cases unreadable
  · rw [event?, theirs]

end CacheFamily

/-! ## Delivery of one message -/

variable {F : CacheFamily} {caches : List (ManagedCache F)} {key : F.Key} {message : Message}

namespace ManagedCache

/-- What a managed cache makes of a message that it can read. -/
def taken (managed : ManagedCache F) (message : Message) : ManagedCache F × Option (Notice F) :=
  match managed.apply message with
  | .ok (some (changed, notice)) => (changed, some notice)
  | .ok none | .error _ => (managed, none)

theorem key_of_taken (managed : ManagedCache F) (message : Message) :
    (managed.taken message).1.key = managed.key ∧
      ∀ notice ∈ (managed.taken message).2, notice.key = managed.key := by
  rcases isEvent : event? managed.key message with error | _ | event
  · simp [taken, apply_of_error isEvent]
  · simp [taken, apply_of_none isEvent]
  · rcases apply_of_some isEvent with ⟨report, _, applied⟩
    simp [taken, applied]

/-- A managed cache follows the event that is in a message. -/
theorem taken_eq_follow (managed : ManagedCache F) {message : Message}
    {event? : Option (Event (F.Object managed.key))}
    (isEvent : CacheFamily.event? managed.key message = .ok event?) :
    (managed.taken message).1 =
        { managed with cache := (managed.cache.follow event?.toList).1 } ∧
      heard managed.key (managed.taken message).2.toList =
        (managed.cache.follow event?.toList).2 := by
  cases event? with
  | none =>
      rw [taken, apply_of_none isEvent]
      exact ⟨rfl, rfl⟩
  | some event =>
      rcases apply_of_some isEvent with ⟨report, isReported, applied⟩
      rw [taken, applied]
      refine ⟨rfl, ?_⟩
      simp only [Option.toList_some, Cache.follow, heard_singleton]
      rw [isReported]
      rfl

theorem heard_taken_of_other (otherKey : ∀ managed ∈ caches, managed.key ≠ key) :
    heard key (caches.filterMap fun managed => (managed.taken message).2) = [] := by
  rw [heard, List.filterMap_eq_nil_iff]
  intro notice noticeMem
  rcases List.mem_filterMap.mp noticeMem with ⟨managed, managedMem, isTaken⟩
  have sameKey := (managed.key_of_taken message).2 notice isTaken
  exact dif_neg (sameKey ▸ otherKey managed managedMem)

end ManagedCache

namespace Delivery

/-- A message that all caches can read is applied to each of them. -/
theorem offer_of_readable (live : ∀ managed ∈ caches, managed.phase = .live)
    (readable : ∀ managed ∈ caches, (event? managed.key message).isOk = true) :
    ∃ count, offer message caches =
      ⟨caches.map fun managed => (managed.taken message).1,
        caches.filterMap fun managed => (managed.taken message).2, .ok count⟩ := by
  induction caches with
  | nil => exact ⟨0, rfl⟩
  | cons managed rest ih =>
      rw [List.forall_mem_cons] at live readable
      rcases ih live.2 readable.2 with ⟨count, others⟩
      rw [offer, if_pos live.1, others]
      rcases isEvent : event? managed.key message with error | _ | event
      · rw [isEvent] at readable
        cases readable.1
      · refine ⟨count, ?_⟩
        rw [ManagedCache.apply_of_none isEvent, List.map_cons, List.filterMap_cons]
        simp only [ManagedCache.taken, ManagedCache.apply_of_none isEvent]
      · rcases ManagedCache.apply_of_some isEvent with ⟨report, _, applied⟩
        refine ⟨count + 1, ?_⟩
        rw [applied, List.map_cons, List.filterMap_cons]
        simp only [ManagedCache.taken, applied, Except.map]

/-- A message that one cache cannot read ends the delivery, and nothing has changed. -/
theorem offer_of_unreadable (exclusive : Exclusive F)
    (live : ∀ managed ∈ caches, managed.phase = .live) {error : Error}
    (unreadable : event? key message = .error error)
    (isManaged : key ∈ caches.map (·.key)) :
    offer message caches = ⟨caches, [], .error error⟩ := by
  induction caches with
  | nil => cases isManaged
  | cons managed rest ih =>
      rw [List.forall_mem_cons] at live
      rw [offer, if_pos live.1]
      by_cases sameKey : managed.key = key
      · subst sameKey
        rw [ManagedCache.apply_of_error unreadable]
      · have behind : key ∈ rest.map (·.key) := by
          rw [List.map_cons, List.mem_cons] at isManaged
          exact isManaged.resolve_left fun same => sameKey same.symm
        rw [ManagedCache.apply_of_none (event?_of_exclusive exclusive sameKey unreadable),
          ih live.2 behind]

theorem keys_offer (message : Message) (caches : List (ManagedCache F)) :
    (offer message caches).caches.map (·.key) = caches.map (·.key) := by
  rcases (follows_offer message [] caches).exists_takes with ⟨turns, taken⟩
  exact taken.map_eq (·.key) fun _ _ => rfl

/-- A message is applied if and only if every live cache can read it. -/
theorem applied_offer_isOk_iff (live : ∀ managed ∈ caches, managed.phase = .live) :
    (offer message caches).applied.isOk = true ↔
      ∀ managed ∈ caches, (event? managed.key message).isOk = true := by
  induction caches with
  | nil => simp [offer, Except.isOk, Except.toBool]
  | cons managed rest ih =>
      rw [List.forall_mem_cons] at live ⊢
      rw [offer, if_pos live.1, ← ih live.2]
      rcases isEvent : event? managed.key message with error | _ | event
      · rw [ManagedCache.apply_of_error isEvent]
        simp [Except.isOk, Except.toBool]
      · rw [ManagedCache.apply_of_none isEvent]
        exact (and_iff_right rfl).symm
      · rcases ManagedCache.apply_of_some isEvent with ⟨report, _, applied⟩
        rw [applied]
        dsimp only
        rcases (offer message rest).applied with error | count <;>
          simp [Except.map, Except.isOk, Except.toBool]

/-- A message is applied if and only if every cache can read it. -/
theorem forall_legible_iff (live : ∀ managed ∈ caches, managed.phase = .live)
    (notControl : ¬message.isControl = true) :
    (∀ key ∈ caches.map (·.key), legible key (.ok message) = true) ↔
      (offer message caches).applied.isOk = true := by
  rw [applied_offer_isOk_iff live, List.forall_mem_map]
  apply forall₂_congr
  intro managed _
  rw [legible_of_not_control notControl]

end Delivery

/-! ## A managed cache follows its shares -/

/-- A relation between managed caches and the cache of a type among them that lasts while messages
are offered, the cache doing with each message what it does with its share of it. -/
structure FollowsShares (key : F.Key)
    (holds : List (ManagedCache F) → Cache (F.Object key) → Prop) : Prop where
  live : ∀ {caches cache}, holds caches cache → ∀ managed ∈ caches, managed.phase = .live
  key_mem : ∀ {caches cache}, holds caches cache → key ∈ caches.map (·.key)
  offer : ∀ {caches cache message}, holds caches cache → ¬message.isControl = true →
    let followed := cache.follow (share (caches.map (·.key)) key [.ok message])
    holds (Delivery.offer message caches).caches followed.1 ∧
      heard key (Delivery.offer message caches).notices = followed.2

namespace FollowsShares

variable {holds : List (ManagedCache F) → Cache (F.Object key) → Prop}
  {cache : Cache (F.Object key)}

/-- The cache does with messages what it does with its share of them. -/
theorem ofMessages (follows : FollowsShares key holds) (held : holds caches cache)
    (messages : List (Except Error Message)) :
    let followed := cache.follow (share (caches.map (·.key)) key messages)
    holds (Delivery.ofMessages messages caches).caches followed.1 ∧
      heard key (Delivery.ofMessages messages caches).notices = followed.2 := by
  induction messages generalizing caches cache with
  | nil => exact ⟨held, rfl⟩
  | cons first rest ih =>
      rcases first with error | message
      · rw [share_of_illegible (follows.key_mem held) rfl]
        exact ⟨held, rfl⟩
      · by_cases isControl : message.isControl = true
        · rw [Delivery.ofMessages, if_pos isControl, share_of_control isControl]
          exact ih held
        · rcases follows.offer held isControl with ⟨changed, told⟩
          rcases ih changed with ⟨final, toldLater⟩
          rw [Delivery.keys_offer] at final toldLater
          rw [Delivery.ofMessages, if_neg isControl, share_singleton_append, Cache.follow_append]
          -- The messages behind this one are reached if and only if every cache can read it.
          simp only [Delivery.forall_legible_iff (follows.live held) isControl]
          rcases (Delivery.offer message caches).applied with error | count
          · exact ⟨changed, told.trans (List.append_nil _).symm⟩
          · exact ⟨final, (heard_append key _ _).trans (congrArg₂ _ told toldLater)⟩

end FollowsShares

namespace Manager

variable {σ : Type}

theorem keys_applyDatagram (manager : Manager F σ) (datagram : Octets) :
    (manager.applyDatagram datagram).manager.caches.map (·.key) = manager.caches.map (·.key) := by
  rcases (manager.follows_applyDatagram datagram).exists_takes with ⟨turns, taken⟩
  exact taken.map_eq (·.key) fun _ _ => rfl

/-- The cache does with datagrams what it does with its shares of them. -/
theorem run_of_followsShares [Transport σ]
    {holds : List (ManagedCache F) → Cache (F.Object key) → Prop}
    (follows : FollowsShares key holds) (manager : Manager F σ) {cache : Cache (F.Object key)}
    (held : holds manager.caches cache) (datagrams : List Octets) :
    let followed := cache.follow (shares (manager.caches.map (·.key)) key datagrams)
    holds (manager.run (datagrams.map .datagram)).1.caches followed.1 ∧
      heard key (manager.run (datagrams.map .datagram)).2 = followed.2 := by
  induction datagrams generalizing manager cache with
  | nil => exact ⟨held, rfl⟩
  | cons datagram datagrams ih =>
      rcases follows.ofMessages held (Message.ofDatagram datagram) with ⟨changed, told⟩
      rcases ih (manager.applyDatagram datagram).manager changed with ⟨final, toldLater⟩
      rw [keys_applyDatagram] at final toldLater
      rw [shares, List.flatMap_cons, Cache.follow_append]
      exact ⟨final, (heard_append key _ _).trans (congrArg₂ _ told toldLater)⟩

end Manager

/-! ## Any cache of types that have no message type in common -/

variable [∀ key : F.Key, IndexedObject (F.Object key)] {cache : Cache (F.Object key)}

/-- Of a message, a cache hears what it takes itself. -/
theorem WellKept.heard_taken (wellKept : WellKept caches)
    (managedMem : ⟨key, .live, cache⟩ ∈ caches) (message : Message) :
    heard key (caches.filterMap fun managed => (managed.taken message).2) =
      heard key (ManagedCache.taken ⟨key, .live, cache⟩ message).2.toList := by
  rcases List.append_of_mem managedMem with ⟨before, after, rfl⟩
  have otherKey (managed : ManagedCache F) (managedMem : managed ∈ before ++ after) :
      managed.key ≠ key :=
    fun sameKey => wellKept.name_ne managed managedMem (congrArg CacheFamily.name sameKey)
  rw [← List.singleton_append, List.filterMap_append, List.filterMap_append, heard_append,
    heard_append,
    ManagedCache.heard_taken_of_other fun managed inBefore =>
      otherKey managed (List.mem_append_left _ inBefore),
    ManagedCache.heard_taken_of_other fun managed inAfter =>
      otherKey managed (List.mem_append_right _ inAfter),
    List.nil_append, List.append_nil, List.filterMap_cons, List.filterMap_nil]
  cases (ManagedCache.taken ⟨key, .live, cache⟩ message).2 <;> rfl

namespace Delivery

/-- A cache follows the event in a message that every cache can read. -/
theorem offer_follows (wellKept : WellKept caches) (managedMem : ⟨key, .live, cache⟩ ∈ caches)
    (readable : ∀ managed ∈ caches, (event? managed.key message).isOk = true) :
    ∃ count, (offer message caches).applied = .ok count ∧
      ⟨key, .live, (cache.follow (event? key message).toOption.join.toList).1⟩ ∈
        (offer message caches).caches ∧
      heard key (offer message caches).notices =
        (cache.follow (event? key message).toOption.join.toList).2 := by
  rcases offer_of_readable wellKept.live readable with ⟨count, offered⟩
  rcases isEvent : event? key message with error | event?
  · have isOk := readable _ managedMem
    rw [isEvent] at isOk
    cases isOk
  · rcases ManagedCache.taken_eq_follow ⟨key, .live, cache⟩ isEvent with ⟨changed, told⟩
    rw [offered]
    refine ⟨count, rfl, ?_, ?_⟩
    · rw [List.mem_map]
      exact ⟨_, managedMem, changed⟩
    · rw [wellKept.heard_taken managedMem message]
      exact told

theorem wellKept_offer (wellKept : WellKept caches) (message : Message) :
    WellKept (offer message caches).caches := by
  rcases (follows_offer message [] caches).exists_takes with ⟨turns, taken⟩
  exact wellKept.takes taken

end Delivery

/-- The cache of a type is among managed caches. -/
def Manages (key : F.Key) (caches : List (ManagedCache F)) (cache : Cache (F.Object key)) : Prop :=
  WellKept caches ∧ ⟨key, .live, cache⟩ ∈ caches

/-- A managed cache follows its shares. -/
theorem followsShares_manages (exclusive : Exclusive F) :
    FollowsShares key (Manages (F := F) key) where
  live held := held.1.live
  key_mem held := List.mem_map_of_mem held.2
  offer := by
    rintro caches cache message ⟨wellKept, managedMem⟩ notControl
    have readableIff := Delivery.forall_legible_iff wellKept.live notControl
    have keyMem : key ∈ caches.map (·.key) := List.mem_map_of_mem managedMem
    by_cases readable : ∀ other ∈ caches.map (·.key), legible other (.ok message) = true
    · have events := (Delivery.applied_offer_isOk_iff wellKept.live).mp (readableIff.mp readable)
      rcases Delivery.offer_follows wellKept managedMem events with ⟨count, _, changedMem, told⟩
      rw [share_of_legible readable, carried, if_neg notControl]
      simp only [share, List.takeWhile_nil, List.filterMap_nil, List.append_nil]
      exact ⟨⟨Delivery.wellKept_offer wellKept message, changedMem⟩, told⟩
    · -- One of the caches cannot read the message, which then changes none of them.
      push Not at readable
      rcases readable with ⟨other, otherMem, notLegible⟩
      rw [share_of_illegible otherMem (Bool.eq_false_iff.mpr notLegible)]
      rw [legible_of_not_control notControl] at notLegible
      rcases isEvent : event? other message with error | event?
      · rw [Delivery.offer_of_unreadable exclusive wellKept.live isEvent otherMem]
        exact ⟨⟨wellKept, managedMem⟩, rfl⟩
      · exact absurd (congrArg Except.isOk isEvent) notLegible

namespace Manager

variable {σ : Type} [Transport σ] {manager : Manager F σ}

/-- A managed cache does what it does with its shares of the datagrams, whatever else is
managed. -/
theorem cacheOf_run_datagrams (exclusive : Exclusive F) (wellKept : WellKept manager.caches)
    (isManaged : manager.cacheOf key = .ok cache) (datagrams : List Octets) :
    (manager.run (datagrams.map .datagram)).1.cacheOf key =
        .ok (cache.follow (shares (manager.caches.map (·.key)) key datagrams)).1 ∧
      heard key (manager.run (datagrams.map .datagram)).2 =
        (cache.follow (shares (manager.caches.map (·.key)) key datagrams)).2 := by
  have held : Manages key manager.caches cache :=
    ⟨wellKept, (cacheOf_eq_ok_iff wellKept).mp isManaged⟩
  rcases run_of_followsShares (followsShares_manages exclusive) manager held datagrams with
    ⟨⟨stillWellKept, finalMem⟩, told⟩
  exact ⟨(cacheOf_eq_ok_iff stillWellKept).mpr finalMem, told⟩

/-- Two runs come to the same for the cache of a type: its contents, and what its owner hears. -/
def AgreeOn (key : F.Key) (left right : Manager F σ × List (Notice F)) : Prop :=
  left.1.cacheOf key = right.1.cacheOf key ∧ heard key left.2 = heard key right.2

/-- Two managers agree on a type if and only if its cache follows the same shares in both. -/
theorem agreeOn_iff_follow_eq {left right : Manager F σ} (exclusive : Exclusive F)
    (leftWellKept : WellKept left.caches) (rightWellKept : WellKept right.caches)
    (isLeft : left.cacheOf key = .ok cache) (isRight : right.cacheOf key = .ok cache)
    (datagrams : List Octets) :
    AgreeOn key (left.run (datagrams.map .datagram)) (right.run (datagrams.map .datagram)) ↔
      cache.follow (shares (left.caches.map (·.key)) key datagrams) =
        cache.follow (shares (right.caches.map (·.key)) key datagrams) := by
  rcases cacheOf_run_datagrams exclusive leftWellKept isLeft datagrams with ⟨leftCache, leftTold⟩
  rcases cacheOf_run_datagrams exclusive rightWellKept isRight datagrams with
    ⟨rightCache, rightTold⟩
  rw [AgreeOn, leftCache, leftTold, rightCache, rightTold, Except.ok.injEq, Prod.ext_iff]

end Manager

/-! ## The caches of a bridge -/

theorem BridgeKey.eq_or_eq_of_ne {key neighbour : BridgeKey} (otherKey : neighbour ≠ key)
    (other : BridgeKey) : other = key ∨ other = neighbour := by
  cases key <;> cases neighbour <;> cases other <;> simp_all

/-- Messages about VLANs and about memberships are of different types. -/
theorem exclusive_bridgeObjects : Exclusive bridgeObjects := by
  have apart (type : UInt16) : CacheObject.action? PortVlans type = none ∨
      CacheObject.action? GroupTable type = none := by
    have noCommonType : ∀ vlanRow ∈ CacheObject.messageRows PortVlans,
        ∀ groupRow ∈ CacheObject.messageRows GroupTable, vlanRow.type ≠ groupRow.type := by
      decide
    rcases vlanRow : CacheObject.row? PortVlans type with _ | row
    · exact Or.inl (congrArg _ vlanRow)
    · rcases groupRow : CacheObject.row? GroupTable type with _ | other
      · exact Or.inr (congrArg _ groupRow)
      · rw [CacheObject.row?] at vlanRow groupRow
        have rowType := List.find?_some vlanRow
        have otherType := List.find?_some groupRow
        have sameType := (beq_iff_eq.mp rowType).trans (beq_iff_eq.mp otherType).symm
        exact absurd sameType (noCommonType row (List.mem_of_find?_eq_some vlanRow) other
          (List.mem_of_find?_eq_some groupRow))
  intro key other type otherKey
  cases key with
  | vlans =>
      cases other with
      | vlans => exact absurd rfl otherKey
      | groups => exact apart type
  | groups =>
      cases other with
      | vlans => exact (apart type).symm
      | groups => exact absurd rfl otherKey

namespace Manager

variable {σ : Type} [Transport σ]

/-- A cache of a bridge fares beside the other one as it does alone if and only if the other one
costs it nothing in any datagram. -/
theorem agreeOn_iff_spares {alone both : Manager bridgeObjects σ} (aloneReachable : alone.Reachable)
    (bothReachable : both.Reachable) {key neighbour : bridgeObjects.Key} (otherKey : neighbour ≠ key)
    {cache : Cache (bridgeObjects.Object key)} {beside : Cache (bridgeObjects.Object neighbour)}
    (only : alone.names = [CacheFamily.name key]) (isAlone : alone.cacheOf key = .ok cache)
    (isManaged : both.cacheOf key = .ok cache) (isNeighbour : both.cacheOf neighbour = .ok beside)
    (datagrams : List Octets) :
    AgreeOn key (alone.run (datagrams.map .datagram)) (both.run (datagrams.map .datagram)) ↔
      ∀ datagram ∈ datagrams, Spares neighbour key (Message.ofDatagram datagram) := by
  have aloneMem := (cacheOf_eq_ok_iff aloneReachable.wellKept).mp isAlone
  have keyMem := (cacheOf_eq_ok_iff bothReachable.wellKept).mp isManaged
  have neighbourMem := (cacheOf_eq_ok_iff bothReachable.wellKept).mp isNeighbour
  have onlyKey : alone.caches.map (·.key) = [key] := by
    have single := congrArg List.length only
    rw [names, List.length_map] at single
    rcases List.length_eq_one_iff.mp single with ⟨managed, isSingle⟩
    rw [isSingle, List.mem_singleton] at aloneMem
    rw [isSingle, ← aloneMem]
    rfl
  rw [agreeOn_iff_follow_eq exclusive_bridgeObjects aloneReachable.wellKept bothReachable.wellKept
    isAlone isManaged, onlyKey]
  apply follow_shares_alone_eq_iff
  · exact List.mem_map_of_mem keyMem
  · exact List.mem_map_of_mem neighbourMem
  · exact fun other _ => BridgeKey.eq_or_eq_of_ne otherKey other

/-- A message about one group on port 5 of bridge 3. -/
def groupMessage : Octets :=
  ((Draft.ofType MessageType.newGroups 0).append
    [7, 0, 0, 0, 3, 0, 0, 0, 40, 0, 1, 128, 36, 0, 1, 128, 32, 0, 1, 0, 5, 0, 0, 0, 0, 0, 0, 0,
      239, 1, 1, 1, 0, 0, 0, 0, 0, 0, 0, 0, 0, 0, 0, 0, 8, 0, 0, 0]).finish

/-- A manager of bridges that has just started. -/
def groupManager : Manager bridgeObjects Conversation :=
  (add ⟨{}, {}, [], false⟩ BridgeKey.groups).2

/-- The same manager with the cache of ports added. -/
def bridgeManager : Manager bridgeObjects Conversation :=
  (groupManager.add BridgeKey.vlans).2

theorem reachable_groupManager : groupManager.Reachable :=
  ⟨⟨{}, {}, [], false⟩, [.add BridgeKey.groups], rfl, rfl⟩

theorem reachable_bridgeManager : bridgeManager.Reachable :=
  ⟨⟨{}, {}, [], false⟩, [.add BridgeKey.groups, .add BridgeKey.vlans], rfl, rfl⟩

theorem cacheOf_groupManager : groupManager.cacheOf BridgeKey.groups = .ok {} :=
  (cacheOf_eq_ok_iff reachable_groupManager.wellKept).mpr (List.mem_singleton_self _)

theorem cacheOf_bridgeManager :
    bridgeManager.cacheOf BridgeKey.groups = .ok {} ∧
      bridgeManager.cacheOf BridgeKey.vlans = .ok {} := by
  have wellKept := reachable_bridgeManager.wellKept
  have caches : bridgeManager.caches = [⟨.groups, .live, {}⟩, ⟨.vlans, .live, {}⟩] := rfl
  constructor
  · exact (cacheOf_eq_ok_iff wellKept).mpr (caches ▸ List.mem_cons_self)
  · exact (cacheOf_eq_ok_iff wellKept).mpr (caches ▸ List.mem_cons_of_mem _ List.mem_cons_self)

/-- What is told in front of a message that the neighbour cannot read is heard all the same. -/
theorem agreeOn_groupMessage :
    groupManager.names = ["route/mdb"] ∧
      (heard BridgeKey.groups
        (groupManager.run ([groupMessage ++ cutVlanMessage, groupMessage].map .datagram)).2).map
          (·.2.action) = [.new, .change] ∧
      AgreeOn BridgeKey.groups
        (groupManager.run ([groupMessage ++ cutVlanMessage, groupMessage].map .datagram))
        (bridgeManager.run ([groupMessage ++ cutVlanMessage, groupMessage].map .datagram)) := by
  have otherKey : BridgeKey.vlans ≠ BridgeKey.groups := by decide
  refine ⟨rfl, by decide +kernel, ?_⟩
  apply (agreeOn_iff_spares reachable_groupManager reachable_bridgeManager otherKey rfl
    cacheOf_groupManager cacheOf_bridgeManager.1 cacheOf_bridgeManager.2 _).mpr
  unfold Spares
  decide +kernel

/-- A group that is announced behind a message about VLANs that cannot be read is lost, and only
if VLANs are managed too. -/
theorem not_agreeOn_behind_cutVlanMessage :
    groupManager.Reachable ∧ bridgeManager.Reachable ∧ groupManager.names = ["route/mdb"] ∧
      groupManager.cacheOf BridgeKey.groups = .ok {} ∧
      bridgeManager.cacheOf BridgeKey.groups = .ok {} ∧
      bridgeManager.cacheOf BridgeKey.vlans = .ok {} ∧
      ¬AgreeOn BridgeKey.groups
        (groupManager.run ([cutVlanMessage ++ groupMessage].map .datagram))
        (bridgeManager.run ([cutVlanMessage ++ groupMessage].map .datagram)) := by
  refine ⟨reachable_groupManager, reachable_bridgeManager, rfl, cacheOf_groupManager,
    cacheOf_bridgeManager.1, cacheOf_bridgeManager.2, ?_⟩
  rintro ⟨_, told⟩
  have alone : (heard BridgeKey.groups
      (groupManager.run ([cutVlanMessage ++ groupMessage].map .datagram)).2).length = 1 := by
    decide +kernel
  have beside : (heard BridgeKey.groups
      (bridgeManager.run ([cutVlanMessage ++ groupMessage].map .datagram)).2).length = 0 := by
    decide +kernel
  rw [told, beside] at alone
  cases alone

end Manager

end BridgeView
