import BridgeView.Proofs.Manager.Latest

/-!
# Events that a failed attempt leaves behind

While a cache is being added, events of its groups arrive. When the attempt fails the groups are
left again, and nothing that happens to them is announced from then on. But what arrived
meanwhile still waits, and the next cache of these groups gets it behind its own dump: events
older than the dump, and without those that followed them.

The event transport is a `Mailbox` here, which takes in what is announced to a group exactly
while the group is joined. What an attempt left behind makes no difference to a cache added
later if and only if there is no event in it that this cache gets to (`agreeOn_iff_shares_nil`).
-/

namespace BridgeView

open CacheFamily Notice

/-- A queue of events on top of a link to the kernel. -/
structure Mailbox (τ : Type) where
  link : τ
  groups : List UInt32 := []
  queue : List Octets := []
  /-- What the kernel announces after each time a group is joined or left, and to which groups. -/
  upcoming : List (List (UInt32 × Octets)) := []
deriving Repr

namespace Mailbox

variable {τ : Type}

/-- What is announced next joins the queue, as far as it is for a joined group. -/
def hear (mailbox : Mailbox τ) : Mailbox τ :=
  match mailbox.upcoming with
  | [] => mailbox
  | announced :: later =>
      let heard := announced.filter fun (group, _) => mailbox.groups.contains group
      { mailbox with queue := mailbox.queue ++ heard.map (·.2), upcoming := later }

/-- The event at the front of the queue, if there is one. -/
def tryReceive (mailbox : Mailbox τ) : Except Error (Option Octets) × Mailbox τ :=
  match mailbox.queue with
  | [] => (.ok none, mailbox)
  | datagram :: rest => (.ok (some datagram), { mailbox with queue := rest })

variable [Transport τ]

/-- Joins a group on the link; whether it worked or not, time passes. -/
def join (group : UInt32) (mailbox : Mailbox τ) : Except Error Unit × Mailbox τ :=
  match Transport.join group mailbox.link with
  | (.error error, link) => (.error error, { mailbox with link }.hear)
  | (.ok (), link) => (.ok (), { mailbox with link, groups := mailbox.groups ++ [group] }.hear)

/-- Leaves a group, while time passes. -/
def leave (group : UInt32) (mailbox : Mailbox τ) : Except Error Unit × Mailbox τ :=
  (.ok (), { mailbox with groups := mailbox.groups.filter (· != group) }.hear)

/-- A mailbox keeps events apart from the replies of its link. -/
instance : Transport (Mailbox τ) where
  nextSequence mailbox :=
    let (sequence, link) := Transport.nextSequence mailbox.link
    (sequence, { mailbox with link })
  port mailbox := Transport.port mailbox.link
  send message mailbox :=
    let (outcome, link) := Transport.send message mailbox.link
    (outcome, { mailbox with link })
  receive mailbox :=
    let (outcome, link) := Transport.receive mailbox.link
    (outcome, { mailbox with link })
  tryReceive := tryReceive
  join := join
  leave := leave
  backlog mailbox := Transport.backlog mailbox.link + mailbox.queue.length
  backlog_receive := by
    intro mailbox next datagram received
    rcases onLink : Transport.receive mailbox.link with ⟨outcome, link⟩
    simp only [onLink, Prod.mk.injEq] at received
    rcases received with ⟨rfl, rfl⟩
    exact Nat.add_lt_add_right (Transport.backlog_receive onLink) _
  backlog_tryReceive := by
    intro mailbox next datagram received
    unfold tryReceive at received
    split at received
    · cases received
    · rename_i queue
      cases received
      rw [queue]
      exact Nat.lt_succ_self _

/-- A mailbox that nothing is announced to gives up its queue. -/
theorem waiting_eq (mailbox : Mailbox τ) :
    Transport.waiting mailbox = ⟨mailbox.queue, .ok (), { mailbox with queue := [] }⟩ := by
  rcases mailbox with ⟨link, groups, queue, upcoming⟩
  induction queue with
  | nil => exact Transport.waiting_of_none rfl
  | cons datagram queue ih => rw [Transport.waiting_of_some rfl, ih]

/-! ## Nothing is ever taken out of the queue by an attempt -/

omit [Transport τ] in
theorem queue_hear (mailbox : Mailbox τ) : mailbox.queue <+: mailbox.hear.queue := by
  unfold hear
  split
  · exact List.prefix_rfl
  · exact List.prefix_append _ _

/-- Joining a group only adds to the queue. -/
theorem queue_join (group : UInt32) (mailbox : Mailbox τ) :
    mailbox.queue <+: (Transport.join group mailbox).2.queue := by
  change mailbox.queue <+: (mailbox.join group).2.queue
  unfold join
  split
  · rename_i link _
    exact queue_hear { mailbox with link }
  · rename_i link _
    exact queue_hear { mailbox with link, groups := mailbox.groups ++ [group] }

theorem queue_leave (group : UInt32) (mailbox : Mailbox τ) :
    mailbox.queue <+: (Transport.leave group mailbox).2.queue :=
  queue_hear { mailbox with groups := mailbox.groups.filter (· != group) }

end Mailbox

namespace Manager

variable {F : CacheFamily} {τ : Type} [Transport τ] {manager : Manager F (Mailbox τ)}

/-- Joining groups only adds to the queue. -/
theorem queue_joinAll (groups : List EventGroup) (mailbox : Mailbox τ) :
    mailbox.queue <+: (joinAll groups mailbox).2.queue := by
  induction groups generalizing mailbox with
  | nil => exact List.prefix_rfl
  | cons group groups ih =>
      have joined := mailbox.queue_join group.group
      rw [joinAll]
      rcases joins : Transport.join group.group mailbox with ⟨error | _, next⟩
      · rw [joins] at joined
        exact joined
      · rw [joins] at joined
        exact joined.trans (ih next)

/-- Leaving groups only adds to the queue. -/
theorem queue_leaveAll (condition : UInt32 → Bool) (groups : List EventGroup)
    (mailbox : Mailbox τ) : mailbox.queue <+: (leaveAll condition groups mailbox).queue := by
  induction groups generalizing mailbox with
  | nil => exact List.prefix_rfl
  | cons group groups ih =>
      rw [leaveAll]
      split
      · exact (mailbox.queue_leave group.group).trans (ih _)
      · exact ih mailbox

/-- An attempt to add a type only adds to the queue. -/
theorem queue_add (manager : Manager F (Mailbox τ)) (key : F.Key) :
    manager.events.queue <+: (manager.add key).2.events.queue := by
  have joined := queue_joinAll (CacheFamily.groups key) manager.events
  rcases manager.add key, manager.adds key with ⟨result, adds⟩
  cases adds with
  | taken _ => exact List.prefix_rfl
  | notJoined _ joins =>
      rw [joins] at joined
      exact joined.trans (queue_leaveAll _ _ _)
  | notFilled _ joins _ =>
      rw [joins] at joined
      exact joined.trans (queue_leaveAll _ _ _)
  | added _ joins _ =>
      rw [joins] at joined
      exact joined

/-- What arrived between two moments, none of which was taken out again. -/
def arrived (before after : Manager F (Mailbox τ)) : List Octets :=
  after.events.queue.drop before.events.queue.length

/-- The manager with another queue of events. -/
def withQueue (manager : Manager F (Mailbox τ)) (queue : List Octets) : Manager F (Mailbox τ) :=
  { manager with events := { manager.events with queue } }

/-- Enough calls process the queue as if one datagram after the other. -/
theorem run_replicate_waiting (manager : Manager F (Mailbox τ))
    (orderly : Orderly manager.caches) {key : F.Key}
    (keyMem : key ∈ manager.caches.map (·.key)) {calls : Nat}
    (enough : manager.events.queue.length ≤ calls) :
    (manager.run (List.replicate calls .waiting)).1.caches =
        (manager.run (manager.events.queue.map .datagram)).1.caches ∧
      (manager.run (List.replicate calls .waiting)).2 =
        (manager.run (manager.events.queue.map .datagram)).2 := by
  induction calls generalizing manager with
  | zero =>
      rw [List.eq_nil_of_length_eq_zero (Nat.le_zero.mp enough)]
      exact ⟨rfl, rfl⟩
  | succ calls ih =>
      have drains : (Transport.waiting manager.events).ending = .ok () := by
        rw [Mailbox.waiting_eq]
      rcases applyWaiting_eq_run orderly keyMem drains with
        ⟨earlier, later, split, sameCaches, sameNotices, outcome⟩
      -- Each call leaves the part of the queue that it did not come to, if it left anything.
      have rest : manager.applyWaiting.manager.events.queue = later ∧ later.length ≤ calls := by
        rw [Mailbox.waiting_eq] at split outcome
        change manager.events.queue = earlier ++ later at split
        rw [split, List.length_append] at enough
        split at outcome
        · rcases outcome with ⟨rfl, state⟩
          rw [state]
          exact ⟨rfl, Nat.zero_le calls⟩
        · rcases outcome with ⟨⟨datagram, datagramMem, _⟩, stillWaits⟩
          rw [Mailbox.waiting_eq] at stillWaits
          have taken := List.length_pos_of_mem datagramMem
          exact ⟨congrArg (·.datagrams) stillWaits, by omega⟩
      have wholeSplit : manager.events.queue = earlier ++ later := by
        rw [Mailbox.waiting_eq] at split
        exact split
      rcases manager.exists_takes_applyWaiting with ⟨turns, taken⟩
      have sameKeys := taken.map_eq (·.key) fun _ _ => rfl
      have further := ih manager.applyWaiting.manager (orderly.takes taken) (sameKeys ▸ keyMem)
        (rest.1 ▸ rest.2)
      have laterOn := run_datagrams_congr _ _ sameCaches later
      rw [rest.1] at further
      rw [wholeSplit, List.map_append, run_append, List.replicate_succ, run]
      exact ⟨further.1.trans laterOn.1,
        congrArg₂ (· ++ ·) sameNotices (further.2.trans laterOn.2)⟩

/-- Enough calls take the whole queue, and the last cache follows its shares of it. -/
theorem endsIn_withQueue {key : F.Key} {cache : Cache (F.Object key)}
    (endsIn : EndsIn key manager.caches cache) {queue : List Octets} {calls : Nat}
    (enough : queue.length ≤ calls) :
    let followed := cache.follow (shares (manager.caches.map (·.key)) key queue)
    let final := (manager.withQueue queue).run (List.replicate calls .waiting)
    final.1.cacheOf key = .ok followed.1 ∧ heard key final.2 = followed.2 := by
  rcases run_replicate_waiting (manager.withQueue queue) endsIn.orderly endsIn.key_mem enough with
    ⟨sameCaches, sameNotices⟩
  rcases run_of_followsShares followsShares_endsIn (manager.withQueue queue) endsIn queue with
    ⟨final, told⟩
  exact ⟨cacheOf_of_endsIn (sameCaches ▸ final), sameNotices ▸ told⟩

theorem endsIn_of_added (orderly : Orderly manager.caches) {key : F.Key}
    {added : Manager F (Mailbox τ)} (isAdded : manager.add key = (.ok (), added)) :
    ∃ cache, EndsIn key added.caches cache := by
  have orderlyAfter := orderly_add orderly key
  have adds := manager.adds key
  rw [isAdded] at orderlyAfter adds
  cases adds with
  | added _ _ _ => exact ⟨_, orderlyAfter, manager.caches, rfl⟩

/-- A part of the queue makes no difference to the last cache if and only if the cache gets to no
event in it. -/
theorem agreeOn_without_iff {key : F.Key} {cache : Cache (F.Object key)}
    (endsIn : EndsIn key manager.caches cache) {earlier stale later : List Octets} {calls : Nat}
    (enough : (earlier ++ stale ++ later).length ≤ calls) :
    AgreeOn key
        ((manager.withQueue (earlier ++ stale ++ later)).run (List.replicate calls .waiting))
        ((manager.withQueue (earlier ++ later)).run (List.replicate calls .waiting)) ↔
      ∀ datagram ∈ stale,
        share (manager.caches.map (·.key)) key (Message.ofDatagram datagram) = [] := by
  have fewer : (earlier ++ later).length ≤ calls := by
    simp only [List.length_append] at enough ⊢
    omega
  rcases endsIn_withQueue endsIn enough with ⟨isWith, toldWith⟩
  rcases endsIn_withQueue endsIn fewer with ⟨isWithout, toldWithout⟩
  rw [AgreeOn, isWith, toldWith, isWithout, toldWithout, Except.ok.injEq, ← Prod.ext_iff,
    ← List.flatMap_eq_nil_iff]
  constructor
  · -- Every event is heard of, so as many are heard of only if none is in that part.
    intro same
    have sameLength := congrArg (·.2.length) same
    rw [cache.length_follow fun _ => action_ne_get_of_mem_shares,
      cache.length_follow fun _ => action_ne_get_of_mem_shares] at sameLength
    simp only [shares, List.flatMap_append, List.length_append] at sameLength
    exact List.eq_nil_of_length_eq_zero (by omega)
  · intro nothing
    simp only [shares, List.flatMap_append, nothing, List.append_nil]

/-- What a failed attempt left behind, as far as it still waits when a cache is added, makes no
difference to this cache if and only if the cache gets to no event in it. -/
theorem agreeOn_iff_shares_nil {before after added : Manager F (Mailbox τ)}
    (reachable : before.Reachable) {other : F.Key} {error : Error}
    (failed : before.add other = (.error error, after)) (between : List (Step F (Mailbox τ)))
    {key : F.Key} (isAdded : (after.run between).1.add key = (.ok (), added)) (gone : Nat)
    {earlier later : List Octets}
    (waits : added.events.queue = earlier ++ (arrived before after).drop gone ++ later)
    (fresh : List Octets) {calls : Nat}
    (enough : added.events.queue.length + fresh.length ≤ calls) :
    after.events.queue = before.events.queue ++ arrived before after ∧
      (AgreeOn key
          ((added.withQueue (added.events.queue ++ fresh)).run (List.replicate calls .waiting))
          ((added.withQueue (earlier ++ later ++ fresh)).run (List.replicate calls .waiting)) ↔
        ∀ datagram ∈ (arrived before after).drop gone,
          share (added.caches.map (·.key)) key (Message.ofDatagram datagram) = []) := by
  have grown := before.queue_add other
  have orderlyAfter := orderly_add reachable.orderly other
  rw [failed] at grown orderlyAfter
  rcases endsIn_of_added (orderly_run orderlyAfter between) isAdded with ⟨cache, endsIn⟩
  refine ⟨(List.prefix_iff_eq_append.mp grown).symm, ?_⟩
  rw [waits] at enough ⊢
  rw [List.append_assoc _ later fresh, List.append_assoc earlier later fresh]
  apply agreeOn_without_iff endsIn
  simpa [Nat.add_assoc] using enough

/-- A manager whose kernel leaves the first request for a dump unanswered and has nothing to
dump after that. It announces a group while the first attempt goes on, and withdraws it once
nobody listens. -/
def hastyManager : Manager bridgeObjects (Mailbox Conversation) :=
  let withdrawal := ((Draft.ofType MessageType.deleteGroups 0).append
    (groupMessage.drop messageHeaderSize)).finish
  let answer := (((Draft.ofType MessageType.done 0).setSequence 2).append [0, 0, 0, 0]).finish
  { events := { link := {}, upcoming := [[(26, groupMessage)], [(26, withdrawal)]] }
    dumps := { link := { replies := [[], [answer]] } } }

/-- The manager after the first attempt, which failed. -/
def failedManager : Manager bridgeObjects (Mailbox Conversation) :=
  (hastyManager.add BridgeKey.groups).2

/-- The manager after the second attempt, which succeeded. -/
def lateManager : Manager bridgeObjects (Mailbox Conversation) :=
  (failedManager.add BridgeKey.groups).2

/-- The first attempt runs out of time. -/
theorem add_hastyManager :
    hastyManager.add BridgeKey.groups = (.error (.io .timedOut), failedManager) :=
  Prod.ext (by decide +kernel) rfl

/-- The second attempt succeeds. -/
theorem add_failedManager : failedManager.add BridgeKey.groups = (.ok (), lateManager) :=
  Prod.ext (by decide +kernel) rfl

/-- The announcement that came during the first attempt makes a difference to the second. -/
theorem not_agreeOn_lateManager :
    hastyManager.Reachable ∧ arrived hastyManager failedManager = [groupMessage] ∧
      lateManager.events.queue = [groupMessage] ∧
      ¬AgreeOn BridgeKey.groups
        ((lateManager.withQueue [groupMessage, groupMessage]).run [.waiting, .waiting])
        ((lateManager.withQueue [groupMessage]).run [.waiting, .waiting]) := by
  have reachable : hastyManager.Reachable := ⟨hastyManager, [], rfl, rfl⟩
  have isArrived : arrived hastyManager failedManager = [groupMessage] := by decide +kernel
  have waits : lateManager.events.queue = [groupMessage] := by decide +kernel
  have stillWaits : lateManager.events.queue =
      [] ++ (arrived hastyManager failedManager).drop 0 ++ [] := by
    rw [waits, isArrived]
    rfl
  have enough : lateManager.events.queue.length + [groupMessage].length ≤ 2 := by
    rw [waits]
    exact le_rfl
  refine ⟨reachable, isArrived, waits, ?_⟩
  have criterion := agreeOn_iff_shares_nil reachable add_hastyManager [] add_failedManager 0
    stillWaits [groupMessage] enough
  rw [waits, isArrived] at criterion
  apply criterion.2.not.mpr
  intro spared
  have nothing := congrArg List.length (spared groupMessage (List.mem_singleton_self _))
  have something : (share (lateManager.caches.map (·.key)) BridgeKey.groups
      (Message.ofDatagram groupMessage)).length = 1 := by decide +kernel
  cases nothing.symm.trans something

/-- A group that was withdrawn before the dump is cached: its announcement waits from an attempt
that failed, and the withdrawal was not heard. -/
theorem announcement_outlives_failed_add :
    hastyManager.Reachable ∧ hastyManager.events.queue = [] ∧
      (hastyManager.add BridgeKey.groups).1 = .error (.io .timedOut) ∧
      failedManager.events.groups = [] ∧ failedManager.events.queue = [groupMessage] ∧
      (failedManager.add BridgeKey.groups).1 = .ok () ∧
      (lateManager.cacheOf BridgeKey.groups).map (·.objects.length) = .ok 0 ∧
      lateManager.applyWaiting.applied = .ok 1 ∧
      (lateManager.applyWaiting.manager.cacheOf BridgeKey.groups).map (·.objects.length) = .ok 1 := by
  refine ⟨⟨hastyManager, [], rfl, rfl⟩, rfl, ?_⟩
  decide +kernel

end Manager

end BridgeView
