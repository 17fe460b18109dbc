import BridgeView.Proofs.Cache.Fill
import BridgeView.Proofs.Manager.Run

/-!
# The messages that objects are made of

A cacheable object can carry along the messages that it was made of. `Sourced` does this for any
type: reading a message notes it, and merging an object into a cached one, or replacing the
cached one, adds the notes of the newer object to those that were there. The objects with their
notes are cacheable themselves, so caches are filled and managers deliver events as ever, and
nothing but the notes tells the difference: without them every cache is what it would be
for the plain type (`plain_ofDump`, `plain_run`).
-/

namespace BridgeView

/-- An object and the messages that it was made of. -/
structure Sourced (α : Type) where
  object : α
  sources : List Message

namespace Sourced

open CacheObject

variable {α : Type} [CacheObject α]

/-- An object is cached with its sources as it is without them. -/
instance : CacheObject (Sourced α) where
  typeName := typeName α
  headerSize := headerSize α
  messageRows := messageRows α
  groups := groups α
  dumpRequest := dumpRequest α
  read header payload :=
    (read header payload).map (Option.map fun object => ⟨object, [⟨header, payload⟩]⟩)
  identity sourced := identity sourced.object
  present sourced := present sourced.object
  differing left right := differing left.object right.object
  merge? cached newer :=
    some ⟨updated cached.object newer.object, cached.sources ++ newer.sources⟩
  subtract cached gone :=
    let remainder := subtract cached.object gone.object
    ⟨⟨remainder.object, cached.sources⟩, remainder.stays⟩
  line interfaces sourced := line interfaces sourced.object
  block interfaces sourced := block interfaces sourced.object

@[simp]
theorem read_eq (header : MessageHeader) (payload : Octets) :
    (read header payload : Except Error (Option (Sourced α))) =
      (read header payload).map (Option.map fun object => ⟨object, [⟨header, payload⟩]⟩) := rfl

@[simp]
theorem identical_eq (left right : Sourced α) :
    identical left right = identical left.object right.object := rfl

@[simp]
theorem updated_eq (cached newer : Sourced α) :
    updated cached newer =
      ⟨updated cached.object newer.object, cached.sources ++ newer.sources⟩ := rfl

@[simp]
theorem object_subtract (cached gone : Sourced α) :
    (subtract cached gone).object =
      ⟨(subtract cached.object gone.object).object, cached.sources⟩ := rfl

@[simp]
theorem stays_subtract (cached gone : Sourced α) :
    (subtract cached gone).stays = (subtract cached.object gone.object).stays := rfl

end Sourced

namespace Report

/-- The report without sources. -/
def plain {α : Type} (report : Report (Sourced α)) : Report α :=
  ⟨report.object.object, report.action⟩

end Report

namespace Cache

open CacheObject

variable {α σ : Type}

/-- The cache without the notes of its objects. -/
def plain (cache : Cache (Sourced α)) : Cache α :=
  ⟨cache.objects.map (·.object)⟩

/-- The cache whose objects carry notes from now on. -/
def noting (cache : Cache α) : Cache (Sourced α) :=
  ⟨cache.objects.map (⟨·, []⟩)⟩

@[simp]
theorem plain_noting (cache : Cache α) : cache.noting.plain = cache := by
  simp [noting, plain, Function.comp_def]

variable [CacheObject α]

theorem plain_upsert (object : Sourced α) (objects : List (Sourced α)) :
    upsert object.object (objects.map (·.object)) =
      ((upsert object objects).1.plain, (upsert object objects).2.map (·.object)) := by
  induction objects with
  | nil => rfl
  | cons cached rest ih =>
      by_cases same : identical cached.object object.object
      · simp [upsert, same, Report.plain]
      · simp [upsert, same, ih]

/-- Withdrawing an object does the same without its sources. -/
theorem plain_withdraw (gone : Sourced α) (objects : List (Sourced α)) :
    withdraw gone.object (objects.map (·.object)) =
      ((withdraw gone objects).1.plain, (withdraw gone objects).2.map (·.object)) := by
  induction objects with
  | nil => rfl
  | cons cached rest ih =>
      by_cases same : identical cached.object gone.object
      · by_cases stays : (subtract cached.object gone.object).stays
        · simp [withdraw, same, stays, Report.plain]
        · simp [withdraw, same, stays, Report.plain]
      · simp [withdraw, same, ih]

theorem plain_apply (cache : Cache (Sourced α)) (object : Sourced α) (action : Action) :
    cache.plain.apply object.object action =
      ((cache.apply object action).1.map Report.plain, (cache.apply object action).2.plain) := by
  cases action with
  | new => simp [apply, plain, plain_upsert]
  | change => simp [apply, plain, plain_upsert]
  | delete => simp [apply, plain, plain_withdraw]
  | get => rfl

/-- Gathering does the same without the sources. -/
theorem plain_gather :
    Transport.InStep (fun cache staged => cache.plain = staged) (gather (α := Sourced α))
      (gather (α := α)) := by
  rintro message cache _ rfl
  simp only [gather, Sourced.read_eq]
  rcases read (α := α) message.header message.payload with error | _ | object
  · exact ⟨rfl, rfl⟩
  · exact ⟨rfl, rfl⟩
  · refine ⟨rfl, ?_⟩
    have applied := plain_apply cache ⟨object, [message]⟩ .new
    simp [Except.map, applied]

/-- A cache is filled with the same objects, whether or not they carry notes. -/
theorem plain_ofDump [Transport σ] (state : σ) :
    (ofDump state : Except Error (Cache α) × σ) =
      ((ofDump (α := Sourced α) state).1.map plain, (ofDump (α := Sourced α) state).2) := by
  rcases requested : Transport.sendNumbered (dumpRequest α) state with ⟨error | sequence, sent⟩
  · have alsoRequested : Transport.sendNumbered (dumpRequest (Sourced α)) state = _ := requested
    rw [ofDump_of_error requested, ofDump_of_error alsoRequested]
    rfl
  · have alsoRequested : Transport.sendNumbered (dumpRequest (Sourced α)) state = _ := requested
    have start : ({} : Cache (Sourced α)).plain = ({} : Cache α) := rfl
    rcases Transport.collectDump_inStep plain_gather sequence false start sent with
      ⟨sameOutcome, samePlain, sameNext⟩
    rw [ofDump_of_ok requested, ofDump_of_ok alsoRequested]
    simp only [Transport.receiveDump, sameOutcome, ← samePlain, sameNext]
    cases (Transport.collectDump sequence (gather (α := α)) false {} sent).1 <;> rfl

end Cache

/-! ## Managers -/

/-- The types of a family with notes. -/
abbrev CacheFamily.sourced (F : CacheFamily) : CacheFamily where
  Key := F.Key
  Object key := Sourced (F.Object key)

variable {F : CacheFamily} {σ : Type}

/-- The managed cache without sources. -/
abbrev ManagedCache.plain (managed : ManagedCache F.sourced) : ManagedCache F :=
  ⟨managed.key, managed.phase, managed.cache.plain⟩

/-- The notice without sources. -/
def Notice.plain (notice : Notice F.sourced) : Notice F :=
  ⟨notice.key, notice.cache.plain, notice.report.plain⟩

/-- The delivery without sources. -/
def Delivery.plain (delivery : Delivery F.sourced) : Delivery F :=
  ⟨delivery.caches.map .plain, delivery.notices.map .plain, delivery.applied⟩

/-- The manager without sources. -/
def Manager.plain (manager : Manager F.sourced σ) : Manager F σ :=
  { manager with caches := manager.caches.map .plain }

/-- The manager whose objects carry notes from now on. -/
def Manager.noting (manager : Manager F σ) : Manager F.sourced σ :=
  { manager with
    caches := manager.caches.map fun managed =>
      ⟨managed.key, managed.phase, managed.cache.noting⟩ }

theorem Manager.plain_noting (manager : Manager F σ) : manager.noting.plain = manager := by
  simp [noting, plain, ManagedCache.plain, Function.comp_def]

/-- A message is the same event, with itself as the source. -/
theorem CacheFamily.event?_sourced (key : F.Key) (message : Message) :
    event? (F := F.sourced) key message =
      (event? (F := F) key message).map
        (Option.map fun event => ⟨⟨event.object, [message]⟩, event.action⟩) := by
  have sameAction : CacheObject.action? (F.sourced.Object key) message.header.type =
      CacheObject.action? (F.Object key) message.header.type := rfl
  simp only [event?, sameAction]
  rcases CacheObject.action? (F.Object key) message.header.type with _ | action
  · rfl
  · simp only [Sourced.read_eq]
    rcases CacheObject.read (α := F.Object key) message.header message.payload with
      error | _ | object
    · cases action <;> rfl
    · cases action <;> rfl
    · cases action <;> rfl

/-- A managed cache does the same without the sources. -/
theorem ManagedCache.plain_apply (managed : ManagedCache F.sourced) (message : Message) :
    managed.plain.apply message =
      (managed.apply message).map
        (Option.map fun (changed, notice) => (changed.plain, notice.plain)) := by
  have noted := CacheFamily.event?_sourced (F := F) managed.key message
  rw [apply_eq, apply_eq, noted]
  rcases CacheFamily.event? (F := F) managed.key message with error | _ | event
  · simp [Except.map]
  · simp [Except.map]
  · have applied : managed.cache.plain.apply event.object event.action = _ :=
      managed.cache.plain_apply ⟨event.object, [message]⟩ event.action
    simp [Except.map, applied, Function.comp_def, Notice.plain]

namespace Delivery

/-- Offering a message does the same without the sources. -/
theorem plain_offer (message : Message) (caches : List (ManagedCache F.sourced)) :
    offer message (caches.map .plain) = (offer message caches).plain := by
  induction caches with
  | nil => rfl
  | cons managed rest ih =>
      simp only [List.map_cons, offer, ManagedCache.plain_apply, ih]
      split
      · rcases managed.apply message with error | _ | ⟨changed, notice⟩ <;> rfl
      · rfl

theorem plain_ofMessages (messages : List (Except Error Message))
    (caches : List (ManagedCache F.sourced)) :
    ofMessages messages (caches.map .plain) = (ofMessages messages caches).plain := by
  induction messages generalizing caches with
  | nil => rfl
  | cons first rest ih =>
      cases first with
      | error error => rfl
      | ok message =>
          simp only [ofMessages, plain_offer]
          split
          · exact ih caches
          · rcases offer message caches with ⟨reached, notices, error | count⟩
            · rfl
            · simp [plain, ih]

end Delivery

/-- A manager does the same with a stream of datagrams, whether or not the objects carry notes. -/
theorem Manager.plain_run [Transport σ] (manager : Manager F.sourced σ) (datagrams : List Octets) :
    manager.plain.run (datagrams.map .datagram) =
      ((manager.run (datagrams.map .datagram)).1.plain,
        (manager.run (datagrams.map .datagram)).2.map .plain) := by
  induction datagrams generalizing manager with
  | nil => rfl
  | cons datagram rest ih =>
      have delivered := Delivery.plain_ofMessages (Message.ofDatagram datagram) manager.caches
      have samePlain : (manager.plain.applyDatagram datagram).manager =
          (manager.applyDatagram datagram).manager.plain := by
        simp [applyDatagram, plain, delivered, Delivery.plain]
      have sameNotices : (manager.plain.applyDatagram datagram).notices =
          (manager.applyDatagram datagram).notices.map .plain := by
        simp [applyDatagram, plain, delivered, Delivery.plain]
      simp [run, perform, samePlain, sameNotices, ih]

end BridgeView
