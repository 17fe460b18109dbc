import BridgeView.Proofs.Manager.Adding
import BridgeView.Proofs.Manager.Isolation

/-!
# The cache that was added last

The cache that was added last is the last to be offered a message, which reaches it only if
every other cache can read it. So it does with datagrams what it would do with its shares of
them alone, whatever the types of the caches are (`followsShares_endsIn`).

Processing what waits stops at a message that cannot be read, and the datagrams behind it stay
where they are. What was processed is a part of what waited, though, taken from the front as
if one datagram after the other (`applyWaiting_eq_run`).
-/

namespace BridgeView

open CacheFamily Notice

variable {F : CacheFamily} {caches next : List (ManagedCache F)} {key : F.Key}
  {cache : Cache (F.Object key)} {message : Message}

theorem Turn.mem_of_consumer? {keys : List F.Key} {turn : Turn}
    (consumed : turn.consumer? keys = some key) : key ∈ keys := by
  cases turn with
  | breaks error => cases consumed
  | offers message position =>
      rw [consumer?, Option.filter_eq_some_iff] at consumed
      exact List.mem_of_getElem? consumed.1

/-- No notice is about a type that is not managed. -/
theorem Takes.heard_eq_nil {turns : List Turn} {notices : List (Notice F)}
    (taken : Takes caches turns notices next) (unmanaged : key ∉ caches.map (·.key)) :
    heard key notices = [] := by
  rw [heard, List.filterMap_eq_nil_iff]
  intro notice noticeMem
  have keyMem : notice.key ∈ notices.map (·.key) := List.mem_map_of_mem noticeMem
  rw [taken.keys_notices, List.mem_filterMap] at keyMem
  rcases keyMem with ⟨turn, _, consumed⟩
  apply dif_neg
  intro sameKey
  exact unmanaged (sameKey ▸ Turn.mem_of_consumer? consumed)

/-! ## Delivery of messages -/

namespace Delivery

/-- A message is offered to the first caches and, unless one fails, to the second ones. -/
theorem offer_append (message : Message) (first second : List (ManagedCache F)) :
    offer message (first ++ second) =
      match (offer message first).applied with
      | .error error =>
          ⟨(offer message first).caches ++ second, (offer message first).notices, .error error⟩
      | .ok count =>
          ⟨(offer message first).caches ++ (offer message second).caches,
            (offer message first).notices ++ (offer message second).notices,
            (offer message second).applied.map (count + ·)⟩ := by
  induction first with
  | nil =>
      rw [List.nil_append]
      rcases offer message second with ⟨caches, notices, error | count⟩
      · rfl
      · simp [offer, Except.map]
  | cons managed rest ih =>
      rw [List.cons_append, offer, offer, ih]
      rcases offer message rest with ⟨caches, notices, error | count⟩
      · rcases managed.apply message with failure | _ | changed <;> split <;> rfl
      · rcases offer message second with ⟨others, later, error | more⟩
        · rcases managed.apply message with failure | _ | changed <;> split <;> rfl
        · rcases managed.apply message with failure | _ | changed
          · split <;> rfl
          · split <;> rfl
          · split
            · apply congrArg (Delivery.mk _ _)
              exact congrArg Except.ok (Nat.add_right_comm count more 1)
            · rfl

/-- A cache by itself follows the event that is in a message. -/
theorem offer_singleton_follows (cache : Cache (F.Object key)) (message : Message) :
    let followed := cache.follow (event? key message).toOption.join.toList
    (offer message [⟨key, .live, cache⟩]).caches = [⟨key, .live, followed.1⟩] ∧
      heard key (offer message [⟨key, .live, cache⟩]).notices = followed.2 := by
  rw [offer, if_pos rfl]
  rcases isEvent : event? key message with error | _ | event
  · rw [@ManagedCache.apply_of_error F ⟨key, .live, cache⟩ message _ isEvent]
    exact ⟨rfl, rfl⟩
  · rw [@ManagedCache.apply_of_none F ⟨key, .live, cache⟩ message isEvent]
    exact ⟨rfl, rfl⟩
  · rcases @ManagedCache.apply_of_some F ⟨key, .live, cache⟩ message event isEvent with
      ⟨report, isReported, applied⟩
    rw [applied]
    refine ⟨rfl, (heard_singleton _ _).trans ?_⟩
    dsimp only [Except.toOption, Option.join_some, Option.toList_some, Cache.follow] at isReported ⊢
    rw [isReported]
    rfl

end Delivery

/-- The cache of a type is the last one of a manager. -/
structure EndsIn (key : F.Key) (caches : List (ManagedCache F)) (cache : Cache (F.Object key)) :
    Prop where
  orderly : Orderly caches
  last : ∃ others, caches = others ++ [⟨key, .live, cache⟩]

namespace EndsIn

theorem name_ne {others : List (ManagedCache F)} (endsIn : EndsIn key caches cache)
    (split : caches = others ++ [⟨key, .live, cache⟩]) :
    ∀ other ∈ others, other.name ≠ CacheFamily.name key := by
  have apart := endsIn.orderly.names_nodup
  rw [split, List.map_append, List.map_singleton, List.nodup_append] at apart
  intro other otherMem
  exact apart.2.2 _ (List.mem_map_of_mem otherMem) _ (List.mem_singleton_self _)

theorem key_mem (endsIn : EndsIn key caches cache) : key ∈ caches.map (·.key) := by
  rcases endsIn.last with ⟨others, rfl⟩
  simp

end EndsIn

namespace Delivery

/-- If the others apply a message, its event is due to the last cache. -/
theorem share_eq_of_applied {others : List (ManagedCache F)}
    (live : ∀ managed ∈ others, managed.phase = .live) (notControl : ¬message.isControl = true)
    {count : Nat} (applied : (offer message others).applied = .ok count) :
    share (others.map (·.key) ++ [key]) key [.ok message] =
      (event? key message).toOption.join.toList := by
  have readable := (forall_legible_iff live notControl).mpr (congrArg Except.isOk applied)
  rcases isEvent : event? key message with error | event?
  · apply share_of_illegible (List.mem_append_right _ (List.mem_singleton_self key))
    rw [legible_of_not_control notControl, isEvent]
    rfl
  · have allLegible :
        ∀ other ∈ others.map (·.key) ++ [key], legible other (.ok message) = true := by
      rw [List.forall_mem_append, List.forall_mem_singleton]
      refine ⟨readable, ?_⟩
      rw [legible_of_not_control notControl, isEvent]
      rfl
    rw [share_of_legible allLegible, carried, if_neg notControl, isEvent]
    exact List.append_nil _

/-- If one of the others fails on a message, nothing of it is due to the last cache. -/
theorem share_eq_nil_of_not_applied {others : List (ManagedCache F)}
    (live : ∀ managed ∈ others, managed.phase = .live) (notControl : ¬message.isControl = true)
    {error : Error} (failed : (offer message others).applied = .error error) :
    share (others.map (·.key) ++ [key]) key [.ok message] = [] := by
  have notApplied : ¬(offer message others).applied.isOk = true := by
    rw [failed]
    exact Bool.false_ne_true
  rw [← forall_legible_iff live notControl] at notApplied
  push Not at notApplied
  rcases notApplied with ⟨other, otherMem, notLegible⟩
  exact share_of_illegible (List.mem_append_left _ otherMem) (Bool.eq_false_iff.mpr notLegible)

/-- The last cache follows its share of a message. -/
theorem endsIn_offer (endsIn : EndsIn key caches cache) (notControl : ¬message.isControl = true) :
    let followed := cache.follow (share (caches.map (·.key)) key [.ok message])
    EndsIn key (offer message caches).caches followed.1 ∧
      heard key (offer message caches).notices = followed.2 := by
  rcases (follows_offer message [] caches).exists_takes with ⟨turns, taken⟩
  have orderlyAfter := endsIn.orderly.takes taken
  rcases endsIn.last with ⟨others, rfl⟩
  have liveOthers : ∀ managed ∈ others, managed.phase = .live := fun managed managedMem =>
    endsIn.orderly.live managed (List.mem_append_left _ managedMem)
  rcases (follows_offer message [] others).exists_takes with ⟨turns, takenOthers⟩
  have unmanaged : key ∉ others.map (·.key) := by
    rw [List.mem_map]
    rintro ⟨other, otherMem, sameKey⟩
    exact endsIn.name_ne rfl other otherMem (congrArg CacheFamily.name sameKey)
  have silent := takenOthers.heard_eq_nil unmanaged
  have appended := offer_append message others [⟨key, .live, cache⟩]
  rw [List.map_append, List.map_singleton]
  -- The message comes to the last cache only if all others have applied it.
  rcases outcome : (offer message others).applied with error | count
  · rw [share_eq_nil_of_not_applied liveOthers notControl outcome]
    rw [outcome] at appended
    refine ⟨⟨orderlyAfter, _, congrArg Delivery.caches appended⟩, ?_⟩
    rw [appended]
    exact silent
  · rw [share_eq_of_applied liveOthers notControl outcome]
    rw [outcome] at appended
    rcases offer_singleton_follows cache message with ⟨changed, told⟩
    refine ⟨⟨orderlyAfter, (offer message others).caches, ?_⟩, ?_⟩
    · rw [appended, ← changed]
    · rw [appended, heard_append]
      exact (congrArg₂ _ silent told).trans (List.nil_append _)

end Delivery

theorem followsShares_endsIn : FollowsShares key (EndsIn (F := F) key) where
  live endsIn := endsIn.orderly.live
  key_mem endsIn := endsIn.key_mem
  offer := Delivery.endsIn_offer

namespace Delivery

/-- Messages that every cache can read are all applied. -/
theorem exists_applied_of_legible (orderly : Orderly caches) (keyMem : key ∈ caches.map (·.key))
    {messages : List (Except Error Message)}
    (readable : ∀ message ∈ messages, ∀ key ∈ caches.map (·.key), legible key message = true) :
    ∃ count, (ofMessages messages caches).applied = .ok count := by
  induction messages generalizing caches with
  | nil => exact ⟨0, rfl⟩
  | cons first rest ih =>
      rw [List.forall_mem_cons] at readable
      rcases first with error | message
      · cases readable.1 key keyMem
      · by_cases isControl : message.isControl = true
        · rw [ofMessages, if_pos isControl]
          exact ih orderly keyMem readable.2
        · rcases (follows_offer message [] caches).exists_takes with ⟨turns, taken⟩
          have applied := (forall_legible_iff orderly.live isControl).mp readable.1
          have sameKeys := keys_offer message caches
          rcases ih (orderly.takes taken) (sameKeys ▸ keyMem) (sameKeys ▸ readable.2) with
            ⟨count, later⟩
          rw [ofMessages, if_neg isControl]
          rcases outcome : (offer message caches).applied with error | first
          · rw [outcome] at applied
            cases applied
          · simp only [outcome]
            exact ⟨first + count, congrArg (Except.map (first + ·)) later⟩

end Delivery

/-! ## Processing datagrams -/

namespace Manager

variable {σ : Type} {manager : Manager F σ}

/-- Everything in a datagram can be read by the types of all keys. -/
def Legible (keys : List F.Key) (datagram : Octets) : Prop :=
  ∀ message ∈ Message.ofDatagram datagram, ∀ key ∈ keys, legible key message = true

theorem cacheOf_of_endsIn (endsIn : EndsIn key manager.caches cache) :
    manager.cacheOf key = .ok cache := by
  rcases endsIn.last with ⟨others, split⟩
  apply cacheOf_eq_of_split split
  intro other otherMem
  exact endsIn.name_ne split other otherMem

variable [Transport σ]

/-- A run goes through its steps in two stretches as in one. -/
theorem run_append (manager : Manager F σ) (earlier later : List (Step F σ)) :
    manager.run (earlier ++ later) =
      (((manager.run earlier).1.run later).1,
        (manager.run earlier).2 ++ ((manager.run earlier).1.run later).2) := by
  induction earlier generalizing manager with
  | nil => rfl
  | cons step earlier ih => rw [List.cons_append, run, ih, run, List.append_assoc]

/-- What comes of datagrams depends on the caches alone. -/
theorem run_datagrams_congr (left right : Manager F σ) (same : left.caches = right.caches)
    (datagrams : List Octets) :
    (left.run (datagrams.map .datagram)).1.caches =
        (right.run (datagrams.map .datagram)).1.caches ∧
      (left.run (datagrams.map .datagram)).2 = (right.run (datagrams.map .datagram)).2 := by
  induction datagrams generalizing left right with
  | nil => exact ⟨same, rfl⟩
  | cons datagram datagrams ih =>
      have sameDelivery : Delivery.ofMessages (Message.ofDatagram datagram) left.caches =
          Delivery.ofMessages (Message.ofDatagram datagram) right.caches := by rw [same]
      rcases ih (left.applyDatagram datagram).manager (right.applyDatagram datagram).manager
        (congrArg Delivery.caches sameDelivery) with ⟨sameCaches, sameNotices⟩
      refine ⟨sameCaches, ?_⟩
      exact congrArg₂ (· ++ ·) (congrArg Delivery.notices sameDelivery) sameNotices

/-- Processing what waits takes datagrams from the front as if one by one: all of them, or those
up to one that some cache cannot read. -/
theorem applyWaiting_eq_run (orderly : Orderly manager.caches)
    (keyMem : key ∈ manager.caches.map (·.key))
    (drains : (Transport.waiting manager.events).ending = .ok ()) :
    ∃ earlier later, (Transport.waiting manager.events).datagrams = earlier ++ later ∧
      manager.applyWaiting.manager.caches = (manager.run (earlier.map .datagram)).1.caches ∧
      manager.applyWaiting.notices = (manager.run (earlier.map .datagram)).2 ∧
      match manager.applyWaiting.applied with
      | .ok _ =>
          later = [] ∧
            manager.applyWaiting.manager.events = (Transport.waiting manager.events).state
      | .error _ =>
          (∃ datagram ∈ earlier, ¬Legible (manager.caches.map (·.key)) datagram) ∧
            Transport.waiting manager.applyWaiting.manager.events =
              { Transport.waiting manager.events with datagrams := later } := by
  induction manager using Manager.applyWaiting.induct with
  | case1 manager error events received =>
      rw [Transport.waiting_of_error received] at drains
      cases drains
  | case2 manager events received =>
      rw [applyWaiting_of_none received, Transport.waiting_of_none received]
      exact ⟨[], [], rfl, rfl, rfl, rfl, rfl⟩
  | case3 manager datagram events received first error failed =>
      rw [applyWaiting_of_failed received failed, Transport.waiting_of_some received]
      refine ⟨[datagram], (Transport.waiting events).datagrams, rfl, rfl, ?_, ?_, rfl⟩
      · exact (List.append_nil _).symm
      · refine ⟨datagram, List.mem_singleton_self _, ?_⟩
        intro isLegible
        rcases Delivery.exists_applied_of_legible orderly keyMem isLegible with ⟨count, applied⟩
        cases failed.symm.trans applied
  | case4 manager datagram events received first count succeeded ih =>
      rw [Transport.waiting_of_some received] at drains ⊢
      rw [applyWaiting_of_applied received succeeded]
      have sameKeys := keys_applyDatagram { manager with events } datagram
      rcases (manager.follows_applyDatagram datagram).exists_takes with ⟨turns, taken⟩
      rcases ih (orderly.takes taken) (sameKeys ▸ keyMem) drains with
        ⟨earlier, later, split, sameCaches, sameNotices, outcome⟩
      -- The state of the event transport differs, which datagrams given by hand do not see.
      have rest := run_datagrams_congr ({ manager with events }.applyDatagram datagram).manager
        (manager.applyDatagram datagram).manager rfl earlier
      refine ⟨datagram :: earlier, later, congrArg (datagram :: ·) split, ?_, ?_, ?_⟩
      · exact sameCaches.trans rest.1
      · exact congrArg (_ ++ ·) (sameNotices.trans rest.2)
      · dsimp only [first] at outcome ⊢
        rw [sameKeys] at outcome
        cases result :
            ({ manager with events }.applyDatagram datagram).manager.applyWaiting.applied with
        | error error =>
            simp only [result] at outcome ⊢
            rcases outcome with ⟨⟨failing, failingMem, notLegible⟩, stillWaits⟩
            exact ⟨⟨failing, List.mem_cons_of_mem datagram failingMem, notLegible⟩, stillWaits⟩
        | ok more =>
            simp only [result] at outcome ⊢
            exact outcome

end Manager

end BridgeView
