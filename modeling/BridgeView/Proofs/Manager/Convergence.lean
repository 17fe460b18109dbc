import BridgeView.Proofs.Cache.Fill
import BridgeView.Proofs.Manager.Latest
import BridgeView.Proofs.Multicast.Database

/-!
# Catching up with the kernel

A cache that is added joins its groups first and reads its dump after that, so the dump may show
some of the events already that wait. Once what waits is processed, the cache holds what the dump
and then all of these events make (`exists_caughtUp`). For the groups of bridges this is exactly
what the kernel has, whenever the dump was made (`converges`).
-/

namespace BridgeView

open CacheFamily Notice

variable {F : CacheFamily} {key : F.Key}

theorem Cache.fst_follow {α : Type} [CacheObject α] (cache : Cache α) (events : List (Event α)) :
    (cache.follow events).1 =
      events.foldl (fun cache event => (cache.apply event.object event.action).2) cache := by
  induction events generalizing cache with
  | nil => rfl
  | cons event events ih => exact ih _

theorem Cache.fst_follow_replay {α : Type} [CacheObject α] (earlier later : List (Event α)) :
    ((replay earlier).follow later).1 = replay (earlier ++ later) := by
  rw [fst_follow, replay, replay, List.foldl_append]

/-- The events for a type that datagrams carry, in order. -/
def CacheFamily.allCarried (key : F.Key) (datagrams : List Octets) : List (Event (F.Object key)) :=
  (datagrams.flatMap Message.ofDatagram).filterMap (carried key)

namespace Manager

variable {σ : Type}

/-- Of datagrams that can be read, a cache is due every event that they carry. -/
theorem shares_eq_allCarried {keys : List F.Key} {datagrams : List Octets}
    (readable : ∀ datagram ∈ datagrams, Legible keys datagram) :
    shares keys key datagrams = allCarried key datagrams := by
  rw [shares, allCarried, List.filterMap_flatMap]
  apply List.flatMap_congr
  intro datagram datagramMem
  rw [share, List.takeWhile_eq_self_iff.mpr]
  intro message messageMem
  exact List.all_eq_true.mpr (readable datagram datagramMem message messageMem)

variable [Transport σ] {manager : Manager F σ}

/-- A type is added with what its dump describes. -/
theorem exists_added (fillsOnAdd : manager.fillsOnAdd = true)
    (fresh : CacheFamily.name key ∉ manager.names) {joined : σ}
    (joins : joinAll (CacheFamily.groups key) manager.events = (.ok (), joined))
    {objects : List (F.Object key)} (dumps : Cache.Dumps manager.dumps objects) :
    ∃ next, manager.add key = (.ok (),
      { manager with
        events := joined
        dumps := next
        caches := manager.caches ++ [⟨key, .live, Cache.replay (objects.map (⟨·, .new⟩))⟩] }) := by
  rcases Cache.fill_of_dumps dumps {} with ⟨next, isFilled⟩
  have unmanaged : ¬manager.caches.any (·.name == CacheFamily.name key) = true := by
    simpa [names] using fresh
  refine ⟨next, ?_⟩
  rw [add]
  dsimp only
  rw [if_neg unmanaged, joins]
  simp only [fillNew, fillsOnAdd, if_true, ManagedCache.fill, isFilled]

/-- Once what waits is processed, a cache that was added holds what its dump and then all events
for it that wait make. -/
theorem exists_caughtUp (orderly : Orderly manager.caches) (fillsOnAdd : manager.fillsOnAdd = true)
    (fresh : CacheFamily.name key ∉ manager.names) {joined : σ}
    (joins : joinAll (CacheFamily.groups key) manager.events = (.ok (), joined))
    {objects : List (F.Object key)} (dumps : Cache.Dumps manager.dumps objects) {events : σ}
    (drains : (Transport.waiting events).ending = .ok ())
    (readable : ∀ datagram ∈ (Transport.waiting events).datagrams,
      Legible (manager.caches.map (·.key) ++ [key]) datagram) :
    ∃ added, manager.add key = (.ok (), added) ∧
      ∃ count, { added with events }.applyWaiting.applied = .ok count ∧
        { added with events }.applyWaiting.manager.cacheOf key =
          .ok (Cache.replay (objects.map (⟨·, .new⟩) ++
            allCarried key (Transport.waiting events).datagrams)) := by
  rcases exists_added fillsOnAdd fresh joins dumps with ⟨next, isAdded⟩
  refine ⟨_, isAdded, ?_⟩
  let cache := Cache.replay (objects.map (⟨·, .new⟩))
  let added : Manager F σ :=
    { manager with events, dumps := next, caches := manager.caches ++ [⟨key, .live, cache⟩] }
  change ∃ count, added.applyWaiting.applied = .ok count ∧
    added.applyWaiting.manager.cacheOf key = _
  have sameKeys : added.caches.map (·.key) = manager.caches.map (·.key) ++ [key] :=
    List.map_append
  have endsIn : EndsIn key added.caches cache :=
    ⟨orderly.append fresh cache, manager.caches, rfl⟩
  rcases applyWaiting_eq_run endsIn.orderly endsIn.key_mem drains with
    ⟨earlier, later, split, sameCaches, _, outcome⟩
  -- Processing cannot stop early, as everything that waits can be read by every cache.
  cases applied : added.applyWaiting.applied with
  | error error =>
      simp only [applied] at outcome
      rcases outcome with ⟨⟨datagram, datagramMem, notLegible⟩, _⟩
      rw [sameKeys] at notLegible
      exact absurd (readable datagram (split ▸ List.mem_append_left _ datagramMem)) notLegible
  | ok count =>
      simp only [applied] at outcome
      rcases outcome with ⟨rfl, _⟩
      rw [List.append_nil] at split
      subst split
      refine ⟨count, rfl, cacheOf_of_endsIn ?_⟩
      have final := (run_of_followsShares followsShares_endsIn added endsIn
        (Transport.waiting events).datagrams).1
      rw [sameKeys, shares_eq_allCarried readable, Cache.fst_follow_replay] at final
      exact sameCaches ▸ final

/-- The key of the tables of memberships. -/
abbrev groupsKey : bridgeObjects.Key := BridgeKey.groups

/-- The groups of bridges are what the kernel has, if the dump was made at any time after the
groups were joined, and all that the kernel told from then on is processed. -/
theorem converges {manager : Manager bridgeObjects σ} (reachable : manager.Reachable)
    (fillsOnAdd : manager.fillsOnAdd = true)
    (fresh : CacheFamily.name groupsKey ∉ manager.names) {joined : σ}
    (joins : joinAll (CacheFamily.groups groupsKey) manager.events = (.ok (), joined))
    {history : List (Event GroupTable)} (once : ∀ event ∈ history, event.object.Once)
    {j k : Nat} (within : j ≤ k) {tables : List GroupTable}
    (dumps : Cache.Dumps manager.dumps tables)
    (dumped : GroupTable.Reflect tables (history.take k)) {events : σ}
    (drains : (Transport.waiting events).ending = .ok ())
    (readable : ∀ datagram ∈ (Transport.waiting events).datagrams,
      Legible (manager.caches.map (·.key) ++ [groupsKey]) datagram)
    (queued : allCarried groupsKey (Transport.waiting events).datagrams = history.drop j) :
    ∃ added, manager.add groupsKey = (.ok (), added) ∧
      ∃ count cache, { added with events }.applyWaiting.applied = .ok count ∧
        { added with events }.applyWaiting.manager.cacheOf groupsKey = .ok cache ∧
        GroupTable.Reflect cache.objects history := by
  rcases exists_caughtUp reachable.orderly fillsOnAdd fresh joins dumps drains readable with
    ⟨added, isAdded, count, applied, isManaged⟩
  refine ⟨added, isAdded, count, _, applied, isManaged, ?_⟩
  rw [queued]
  exact GroupTable.reflect_overlap within dumped once

/-- A message about bridge 3. -/
def bridgeMessage (type : UInt16) (sequence : UInt32) (attributes : Octets) : Message where
  header :=
    { length := UInt32.ofNat (24 + attributes.length), type, flags := 0, sequence, port := 0 }
  payload := [7, 0, 0, 0, 3, 0, 0, 0] ++ attributes

/-- The attribute of a membership of a port. -/
def memberAttribute (port : UInt8) : Octets :=
  [40, 0, 1, 128, 36, 0, 1, 128, 32, 0, 1, 0, port, 0, 0, 0, 0, 0, 0, 0, 239, 1, 1, 1,
    0, 0, 0, 0, 0, 0, 0, 0, 0, 0, 0, 0, 8, 0, 0, 0]

/-- The attribute of router port 5. -/
def routerAttribute : Octets := [12, 0, 2, 128, 8, 0, 1, 0, 5, 0, 0, 0]

/-- The end of the first dump. -/
def doneMessage : Message where
  header := { length := 20, type := MessageType.done, flags := 0, sequence := 1, port := 0 }
  payload := [0, 0, 0, 0]

/-- One datagram of messages that need no padding. -/
def packed (messages : List Message) : Octets :=
  messages.flatMap fun message => message.header.toOctets ++ message.payload

/-- The table of bridge 3 with one membership. -/
def bridgeTable (port : UInt32) (routerPorts : List UInt32) : GroupTable where
  bridge? := some 3
  family? := some 7
  entries := [{ port, protocol := 0x0800, address := .ipv4 ⟨239, 1, 1, 1⟩ }]
  routerPorts := routerPorts

/-- Two ports join a group, everything goes away, and the first one joins again. -/
def bridgeHistory : List (Event GroupTable) :=
  [⟨bridgeTable 5 [], .new⟩, ⟨bridgeTable 6 [5], .new⟩,
    ⟨{ bridge? := some 3, family? := some 7 }, .delete⟩, ⟨bridgeTable 5 [], .new⟩]

/-- What the dump says: port 6 is a member besides port 5, and port 5 is a router port. -/
def dumpedMessages : List Message :=
  [bridgeMessage MessageType.newGroups 1 (memberAttribute 5),
    bridgeMessage MessageType.newGroups 1 (memberAttribute 6 ++ routerAttribute)]

/-- A manager whose first dump answers these messages. -/
def racedManager : Manager bridgeObjects Conversation where
  events := {}
  dumps := { replies := [[packed (dumpedMessages ++ [doneMessage])]] }

/-- What waits if the groups are joined after the first event. -/
def racedEvents : Conversation where
  queue := [packed [bridgeMessage MessageType.newGroups 0 (memberAttribute 6 ++ routerAttribute)],
    packed [bridgeMessage MessageType.deleteGroups 0 [],
      bridgeMessage MessageType.newGroups 0 (memberAttribute 5)]]

/-- The events of the race. -/
def announcedEvents : List (Event GroupTable) :=
  allCarried groupsKey racedEvents.queue

/-- The dump of the race describes the bridge in two reports. -/
theorem dumps_racedManager :
    Cache.Dumps racedManager.dumps [bridgeTable 5 [], bridgeTable 6 [5]] := by
  refine ⟨1, (Transport.sendNumbered GroupTable.dumpRequest racedManager.dumps).2, dumpedMessages,
    doneMessage, Prod.ext (by decide +kernel) rfl, ?_, ?_⟩
  · refine ⟨⟨[.error (.io .timedOut)], ?_⟩, by decide, rfl, Or.inl ⟨rfl, ?_⟩⟩
    · rw [Transport.stream_conversation]
      decide +kernel
    · unfold Transport.Undisturbed
      decide
  · unfold Cache.Describe
    decide +kernel

/-- The second event is in the dump, and applied to it once more. -/
theorem converges_racedManager :
    announcedEvents = bridgeHistory.drop 1 ∧
      GroupTable.Reflect [bridgeTable 5 [], bridgeTable 6 [5]] (bridgeHistory.take 2) ∧
      ∃ added, racedManager.add groupsKey = (.ok (), added) ∧
      ∃ count cache, { added with events := racedEvents }.applyWaiting.applied = .ok count ∧
        { added with events := racedEvents }.applyWaiting.manager.cacheOf groupsKey = .ok cache ∧
        GroupTable.Reflect cache.objects bridgeHistory := by
  have reachable : racedManager.Reachable := ⟨racedManager, [], rfl, rfl⟩
  have once : ∀ event ∈ bridgeHistory, event.object.Once := by decide
  have dumped : GroupTable.Reflect [bridgeTable 5 [], bridgeTable 6 [5]]
      (bridgeHistory.take 2) :=
    ⟨TableParts.presents_dump (by decide), TableParts.presents_dump (by decide)⟩
  have waits := Transport.waiting_conversation racedEvents
  have within : 1 ≤ 2 := by decide
  have queued : announcedEvents = bridgeHistory.drop 1 := by decide +kernel
  refine ⟨queued, dumped, ?_⟩
  refine converges reachable rfl (by decide) rfl once within dumps_racedManager dumped ?_ ?_ ?_
  · rw [waits]
  · rw [waits]
    unfold Legible
    decide +kernel
  · rw [waits]
    exact queued

end Manager

end BridgeView
