import BridgeView.Proofs.Manager.Adding
import BridgeView.Socket
import Mathlib.Data.Set.Insert

/-!
# Joined groups and managed caches

The event transport has joined exactly the groups that the managed caches listen on
(`joined_iff_listensOn`), whatever was added, failed or processed before. An attempt to add a
cache joins some of its groups one by one. When it fails, wherever that happens, all of
them are left again but those that a managed cache listens on, and these are the groups that
had been joined before. So nothing remains of the attempt, and no group of a managed cache is
ever left.

What is assumed of the transport is collected in `MemberTransport`: leaving works, and a failed
join joins nothing.
-/

namespace BridgeView

/-- A transport of which the joined groups are known. -/
class MemberTransport (σ : Type) extends Transport σ where
  joined : σ → Set UInt32
  joined_of_join : ∀ {group : UInt32} {state next : σ},
    join group state = (.ok (), next) → joined next = insert group (joined state)
  joined_of_not_join : ∀ {group : UInt32} {state next : σ} {error : Error},
    join group state = (.error error, next) → joined next = joined state
  leaves : ∀ (group : UInt32) (state : σ),
    ∃ next, leave group state = (.ok (), next) ∧ joined next = joined state \ {group}
  joined_tryReceive : ∀ state : σ, joined (tryReceive state).2 = joined state

open MemberTransport

namespace Socket

theorem groups_call (waits : Bool) (socket : Socket) :
    (socket.call waits).2.groups = socket.groups := by
  unfold call
  split
  · rfl
  · rfl
  · split
    · rfl
    · split <;> rfl

theorem groups_tryReceive (socket : Socket) : socket.tryReceive.2.groups = socket.groups := by
  have called := socket.groups_call false
  unfold tryReceive
  split
  · rename_i isCalled
    rw [isCalled] at called
    exact called
  · rename_i isCalled
    rw [isCalled] at called
    split <;> exact called

/-- A socket lists the groups that it is a member of. -/
instance : MemberTransport Socket where
  joined socket := {group | group ∈ socket.groups}
  joined_of_join := by
    intro group socket next joins
    change socket.join group = _ at joins
    unfold join at joins
    split at joins
    · cases joins
    · cases joins
      ext other
      simp [or_comm]
  joined_of_not_join := by
    intro group socket next error fails
    change socket.join group = _ at fails
    unfold join at fails
    split at fails
    · cases fails
      rfl
    · cases fails
  leaves group socket := by
    refine ⟨_, rfl, ?_⟩
    ext other
    simp
  joined_tryReceive socket := by
    change {group | group ∈ socket.tryReceive.2.groups} = _
    rw [socket.groups_tryReceive]

end Socket

namespace Manager

variable {F : CacheFamily} {σ : Type} {manager : Manager F σ}

/-- The numbers of groups. -/
def numbers (groups : List EventGroup) : Set UInt32 :=
  {number | ∃ group ∈ groups, group.group = number}

/-- The groups that managed caches listen on. -/
def listening (manager : Manager F σ) : Set UInt32 :=
  {number | ∃ managed ∈ manager.caches, number ∈ numbers managed.groups}

theorem numbers_cons (group : EventGroup) (groups : List EventGroup) :
    numbers (group :: groups) = insert group.group (numbers groups) := by
  ext number
  simp [numbers, eq_comm]

theorem mem_listening_iff {number : UInt32} :
    number ∈ manager.listening ↔ manager.listensOn number = true := by
  simp [listening, numbers, listensOn]

/-! ## Joining and leaving -/

variable [MemberTransport σ]

/-- What an event transport goes through while groups are joined, and others left. -/
inductive Reaches (kept : Set UInt32) (start : σ) : σ → Prop where
  | refl : Reaches kept start start
  | join {state : σ} (reached : Reaches kept start state) (group : UInt32) :
      Reaches kept start (Transport.join group state).2
  | leave {state : σ} (reached : Reaches kept start state) {group : UInt32} (other : group ∉ kept) :
      Reaches kept start (Transport.leave group state).2

/-- Joining groups only reaches states in which at least the same groups are joined. -/
theorem reaches_joinAll {kept : Set UInt32} {start state : σ} (reached : Reaches kept start state)
    (groups : List EventGroup) : Reaches kept start (joinAll groups state).2 := by
  induction groups generalizing state with
  | nil => exact reached
  | cons group groups ih =>
      have joinedOne := reached.join group.group
      rw [joinAll]
      rcases joins : Transport.join group.group state with ⟨error | _, next⟩
      · rw [joins] at joinedOne
        exact joinedOne
      · rw [joins] at joinedOne
        exact ih joinedOne

/-- Leaving groups that nobody needs reaches only states in which the needed ones are joined. -/
theorem reaches_leaveAll {kept : Set UInt32} {condition : UInt32 → Bool}
    (spares : ∀ number, condition number = true → number ∉ kept) {start state : σ}
    (reached : Reaches kept start state) (groups : List EventGroup) :
    Reaches kept start (leaveAll condition groups state) := by
  induction groups generalizing state with
  | nil => exact reached
  | cons group groups ih =>
      rw [leaveAll]
      split
      · rename_i isLeft
        exact ih (reached.leave (spares group.group isLeft))
      · exact ih reached

/-- Once every group is joined, these are joined besides those before. -/
theorem joined_joinAll {groups : List EventGroup} {state next : σ}
    (joins : joinAll groups state = (.ok (), next)) :
    joined next = joined state ∪ numbers groups := by
  induction groups generalizing state with
  | nil =>
      cases joins
      ext number
      simp [numbers]
  | cons group groups ih =>
      rw [joinAll] at joins
      rcases joinsOne : Transport.join group.group state with ⟨error | _, middle⟩
      · rw [joinsOne] at joins
        cases joins
      · rw [joinsOne] at joins
        rw [ih joins, joined_of_join joinsOne, numbers_cons, Set.insert_union, Set.union_insert]

/-- Joining groups until one cannot be joined takes nothing away and adds none but these. -/
theorem joined_joinAll_between (groups : List EventGroup) (state : σ) :
    joined state ⊆ joined (joinAll groups state).2 ∧
      joined (joinAll groups state).2 ⊆ joined state ∪ numbers groups := by
  induction groups generalizing state with
  | nil => exact ⟨subset_rfl, Set.subset_union_left⟩
  | cons group groups ih =>
      rw [joinAll, numbers_cons, Set.union_insert, ← Set.insert_union]
      rcases joinsOne : Transport.join group.group state with ⟨error | _, middle⟩
      · rw [joined_of_not_join joinsOne]
        exact ⟨subset_rfl, (Set.subset_insert _ _).trans Set.subset_union_left⟩
      · rw [← joined_of_join joinsOne]
        refine ⟨?_, (ih middle).2⟩
        apply Set.Subset.trans _ (ih middle).1
        rw [joined_of_join joinsOne]
        exact Set.subset_insert _ _

/-- Leaving groups takes away those of them that meet the condition. -/
theorem mem_joined_leaveAll_iff {condition : UInt32 → Bool} {groups : List EventGroup} {state : σ}
    {number : UInt32} :
    number ∈ joined (leaveAll condition groups state) ↔
      number ∈ joined state ∧ ¬(number ∈ numbers groups ∧ condition number = true) := by
  induction groups generalizing state with
  | nil => simp [leaveAll, numbers]
  | cons group groups ih =>
      rw [leaveAll, numbers_cons]
      split
      · rename_i isLeft
        rcases leaves group.group state with ⟨next, left, joinedNext⟩
        rw [left, ih, joinedNext]
        by_cases same : number = group.group
        · simp [same, isLeft]
        · simp [same]
      · rename_i stays
        rw [ih]
        by_cases same : number = group.group
        · simp [same, stays]
        · simp [same]

/-- Giving up an attempt leaves the groups that were joined before it. -/
theorem joined_abandon (exactly : joined manager.events = manager.listening)
    {groups : List EventGroup} {events dumps : σ} (grows : manager.listening ⊆ joined events)
    (bounded : joined events ⊆ manager.listening ∪ numbers groups) :
    joined ({ manager with events, dumps }.abandon groups).events = joined manager.events := by
  rw [exactly]
  ext number
  change number ∈ joined (leaveAll (fun number => !manager.listensOn number) groups events) ↔ _
  rw [mem_joined_leaveAll_iff, Bool.not_eq_true', ← Bool.not_eq_true, ← mem_listening_iff]
  -- A group that no cache listens on was joined by the attempt alone, and is left again.
  constructor
  · rintro ⟨isJoined, notLeft⟩
    by_contra unheard
    rcases bounded isJoined with heard | inGroups
    · exact unheard heard
    · exact notLeft ⟨inGroups, unheard⟩
  · intro heard
    exact ⟨grows heard, fun isLeft => isLeft.2 heard⟩

/-- Nothing remains of an attempt: the caches and the joined groups are as before, and on the way
no group was left that a managed cache listens on. -/
structure Undone (manager after : Manager F σ) : Prop where
  caches_eq : after.caches = manager.caches
  joined_eq : joined after.events = joined manager.events
  reaches : Reaches manager.listening manager.events after.events

/-- An attempt that is given up is undone. -/
theorem undone_abandon (exactly : joined manager.events = manager.listening)
    (groups : List EventGroup) {outcome : Except Error Unit} {events : σ} (dumps : σ)
    (joins : joinAll groups manager.events = (outcome, events)) :
    manager.Undone ({ manager with events, dumps }.abandon groups) := by
  have between := joined_joinAll_between groups manager.events
  have reached : Reaches manager.listening manager.events (joinAll groups manager.events).2 :=
    reaches_joinAll .refl groups
  rw [joins, exactly] at between
  rw [joins] at reached
  refine ⟨rfl, joined_abandon exactly between.1 between.2, ?_⟩
  apply reaches_leaveAll _ reached
  intro number isLeft heard
  change (!manager.listensOn number) = true at isLeft
  rw [mem_listening_iff.mp heard] at isLeft
  cases isLeft

/-- Adding a type that fails is undone. -/
theorem undone_add (exactly : joined manager.events = manager.listening) {key : F.Key}
    {error : Error} {after : Manager F σ} (failed : manager.add key = (.error error, after)) :
    manager.Undone after := by
  have adds := manager.adds key
  rw [failed] at adds
  cases adds with
  | taken _ => exact ⟨rfl, rfl, .refl⟩
  | notJoined _ joins => exact undone_abandon exactly _ manager.dumps joins
  | notFilled _ joins _ => exact undone_abandon exactly _ _ joins

theorem undone_addNamed (exactly : joined manager.events = manager.listening)
    {registry : Registry F} {name : String} {error : Error} {after : Manager F σ}
    (failed : manager.addNamed registry name = (.error error, after)) : manager.Undone after := by
  rw [addNamed] at failed
  split at failed
  · cases failed
    exact ⟨rfl, rfl, .refl⟩
  · exact undone_add exactly failed

/-! ## Runs -/

/-- After adding a type, whatever came of it, exactly the groups of the caches are joined. -/
theorem joined_add (exactly : joined manager.events = manager.listening) (key : F.Key) :
    joined (manager.add key).2.events = (manager.add key).2.listening := by
  rcases attempted : manager.add key with ⟨error | _, after⟩
  · have undone := undone_add exactly attempted
    rw [undone.joined_eq, exactly, listening, listening, undone.caches_eq]
  · have adds := manager.adds key
    rw [attempted] at adds
    cases adds with
    | added _ joins _ =>
        rw [joined_joinAll joins, exactly]
        ext number
        simp [listening, or_and_right, exists_or, ManagedCache.groups]

omit [MemberTransport σ] in
/-- Taking turns changes nothing about the groups of the caches. -/
theorem listening_eq_of_takes {turns : List Turn} {notices : List (Notice F)} {after : Manager F σ}
    (taken : Takes manager.caches turns notices after.caches) :
    after.listening = manager.listening := by
  have sameGroups := taken.map_eq (·.groups) fun _ _ => rfl
  ext number
  have inCaches (caches : List (ManagedCache F)) :
      (∃ managed ∈ caches, number ∈ numbers managed.groups) ↔
        ∃ groups ∈ caches.map (·.groups), number ∈ numbers groups := by simp
  change (∃ managed ∈ after.caches, _) ↔ ∃ managed ∈ manager.caches, _
  rw [inCaches, inCaches, sameGroups]

/-- Applying events joins and leaves no group. -/
theorem joined_applyWaiting (manager : Manager F σ) :
    joined manager.applyWaiting.manager.events = joined manager.events := by
  induction manager using Manager.applyWaiting.induct with
  | case1 manager error events received =>
      have same := joined_tryReceive manager.events
      rw [received] at same
      rw [applyWaiting_of_error received]
      exact same
  | case2 manager events received =>
      have same := joined_tryReceive manager.events
      rw [received] at same
      rw [applyWaiting_of_none received]
      exact same
  | case3 manager datagram events received first error failed =>
      have same := joined_tryReceive manager.events
      rw [received] at same
      rw [applyWaiting_of_failed received failed]
      exact same
  | case4 manager datagram events received first count succeeded ih =>
      have same := joined_tryReceive manager.events
      rw [received] at same
      rw [applyWaiting_of_applied received succeeded]
      exact ih.trans same

/-- The manager was created without caches, on an event transport that had joined nothing, and
since then the transport has joined and left nothing but what the manager asked for. -/
inductive Subscribed : Manager F σ → Prop where
  | start {manager : Manager F σ} (noCaches : manager.caches = [])
      (noGroups : joined manager.events = ∅) : Subscribed manager
  | step {manager : Manager F σ} (subscribed : Subscribed manager) (step : Step F σ)
      (keeps : ∀ events dumps, step = .transports events dumps →
        joined events = joined manager.events) : Subscribed (manager.perform step).1

theorem Subscribed.orderly (subscribed : Subscribed manager) : Orderly manager.caches := by
  induction subscribed with
  | start noCaches _ =>
      rw [noCaches]
      exact Orderly.nil
  | step _ step _ ih => exact orderly_perform ih step

/-- A subscribed manager has joined exactly the groups that it listens on. -/
theorem Subscribed.joined_eq (subscribed : Subscribed manager) :
    joined manager.events = manager.listening := by
  induction subscribed with
  | start noCaches noGroups =>
      rw [noGroups, listening, noCaches]
      simp
  | @step manager _ step keeps exactly =>
      cases step with
      | transports events dumps => exact (keeps events dumps rfl).trans exactly
      | add key => exact joined_add exactly key
      | addNamed registry name =>
          rw [perform, addNamed]
          split
          · exact exactly
          · exact joined_add exactly _
      | datagram octets =>
          rcases (manager.follows_applyDatagram octets).exists_takes with ⟨turns, taken⟩
          exact exactly.trans (listening_eq_of_takes taken).symm
      | waiting =>
          rcases manager.exists_takes_applyWaiting with ⟨turns, taken⟩
          have sameGroups : manager.applyWaiting.manager.listening = manager.listening :=
            listening_eq_of_takes taken
          exact (joined_applyWaiting manager).trans (exactly.trans sameGroups.symm)

/-- The names of managed caches are distinct, the caches are live, and the event transport has
joined their groups and no others. Nothing remains of an attempt to add a cache that fails. -/
theorem joined_exactly (subscribed : Subscribed manager) :
    manager.names.Nodup ∧ (∀ managed ∈ manager.caches, managed.phase = .live) ∧
      joined manager.events = {number | ∃ managed ∈ manager.caches, ∃ group ∈ managed.groups,
        group.group = number} ∧
      (∀ key error after, manager.add key = (.error error, after) → manager.Undone after) ∧
      ∀ registry name error after, manager.addNamed registry name = (.error error, after) →
        manager.Undone after := by
  have orderly := subscribed.orderly
  have exactly := subscribed.joined_eq
  refine ⟨orderly.names_nodup, orderly.live, exactly, ?_, ?_⟩
  · intro key error after failed
    exact undone_add exactly failed
  · intro registry name error after failed
    exact undone_addNamed exactly failed

/-- A socket that nothing arrives on and nothing fails on. -/
def quietSocket : Socket where
  port := 5001
  queue := []
  replies := []
  failingSends := []
  failingJoins := []

/-- A manager whose kernel answers the first request for a dump and no other. -/
def startedManager : Manager bridgeObjects Socket :=
  let answer := (((Draft.ofType MessageType.done 0).setSequence 1).append [0, 0, 0, 0]).finish
  { events := quietSocket, dumps := { quietSocket with replies := [[.datagram answer]] } }

/-- The started manager after the VLANs were added. -/
def portManager : Manager bridgeObjects Socket :=
  (startedManager.add BridgeKey.vlans).2

/-- A type that cannot be added leaves the groups of the other one joined. -/
theorem joined_exactly_portManager :
    portManager.Subscribed ∧ portManager.names = ["route/bridgevlan"] ∧
      portManager.events.groups = [33] ∧
      (portManager.addNamed bridgeRegistry "route/mdb").1 = .error (.io .timedOut) ∧
      portManager.Undone (portManager.addNamed bridgeRegistry "route/mdb").2 := by
  have started : startedManager.Subscribed := by
    refine .start rfl ?_
    ext number
    exact iff_of_false List.not_mem_nil (Set.notMem_empty number)
  have subscribed : portManager.Subscribed :=
    started.step (.add BridgeKey.vlans) fun _ _ isTransports => by cases isTransports
  have fails : (portManager.addNamed bridgeRegistry "route/mdb").1 = .error (.io .timedOut) := by
    decide +kernel
  refine ⟨subscribed, by decide +kernel, by decide +kernel, fails, ?_⟩
  exact (joined_exactly subscribed).2.2.2.2 bridgeRegistry "route/mdb" _ _ (Prod.ext fails rfl)

end Manager

end BridgeView
