import BridgeView.Proofs.Cache.Changelog
import BridgeView.Proofs.Manager.Run

/-!
# What an owner hears is a changelog

The owner of a managed cache is told about every event that the cache consumes, and shown the
cache afterwards. From any moment on this is a changelog of the cache
(`exists_changelog_run`), also where calls fail: a failing turn changes nothing, and the
turns before it were told of.
-/

namespace BridgeView

open Cache Notice

variable {F : CacheFamily} [∀ key : F.Key, IndexedObject (F.Object key)]
  {caches next : List (ManagedCache F)} {key : F.Key}
  {cache : Cache (F.Object key)}

/-- A turn changes a cache as its notice says. -/
theorem Turn.exists_changelog {turn : Turn} {notice? : Option (Notice F)}
    (wellKept : WellKept caches) (taken : turn.take caches = .ok (next, notice?))
    (managedMem : ⟨key, .live, cache⟩ ∈ caches) :
    ∃ after, ⟨key, .live, after⟩ ∈ next ∧ IsChangelog cache (heard key notice?.toList) after := by
  rcases take_cases taken with
    ⟨rfl, rfl, _⟩ | ⟨position, managed, report, event, atPosition, isReported, _, rfl, rfl⟩
  · exact ⟨cache, managedMem, .nil cache⟩
  · have takenMem := List.mem_of_getElem? atPosition
    by_cases sameKey : managed.key = key
    · -- The turn is about the cache of the key, since there is only one.
      cases wellKept.eq_of_key_eq takenMem managedMem sameKey
      refine ⟨_, List.mem_set ?_ _, ?_⟩
      · exact (List.getElem?_eq_some_iff.mp atPosition).1
      · rw [Option.toList_some, heard_singleton]
        exact .singleton (truthful_apply (wellKept.distinct _ managedMem) isReported)
    · rcases List.getElem?_of_mem managedMem with ⟨itsPosition, atItsPosition⟩
      have otherPosition : position ≠ itsPosition := by
        rintro rfl
        rw [atPosition, Option.some.injEq] at atItsPosition
        exact sameKey (congrArg (·.key) atItsPosition)
      refine ⟨cache, ?_, ?_⟩
      · rw [← List.getElem?_set_ne otherPosition] at atItsPosition
        exact List.mem_of_getElem? atItsPosition
      · rw [Option.toList_some, heard_other sameKey]
        exact .nil cache

/-- Turns change a cache as their notices say. -/
theorem Takes.exists_changelog {turns : List Turn} {notices : List (Notice F)}
    (wellKept : WellKept caches) (taken : Takes caches turns notices next)
    (managedMem : ⟨key, .live, cache⟩ ∈ caches) :
    ∃ final, ⟨key, .live, final⟩ ∈ next ∧ IsChangelog cache (heard key notices) final := by
  induction taken generalizing cache with
  | nil => exact ⟨cache, managedMem, .nil cache⟩
  | cons taken _ ih =>
      rcases Turn.exists_changelog wellKept taken managedMem with ⟨after, afterMem, first⟩
      rcases ih (wellKept.take taken) afterMem with ⟨final, finalMem, rest⟩
      rw [heard_append]
      exact ⟨final, finalMem, first.append rest⟩

namespace Manager

variable {σ : Type} [Transport σ]

/-- A step changes a cache as its notices say. -/
theorem exists_changelog_perform {manager : Manager F σ} (wellKept : WellKept manager.caches)
    (managedMem : ⟨key, .live, cache⟩ ∈ manager.caches) (step : Step F σ) :
    ∃ after, ⟨key, .live, after⟩ ∈ (manager.perform step).1.caches ∧
      IsChangelog cache (heard key (manager.perform step).2) after := by
  rcases manager.perform_cases step with ⟨turns, taken⟩ | ⟨silent, _, _, _, _, appended⟩
  · exact taken.exists_changelog wellKept managedMem
  · rw [silent, appended]
    exact ⟨cache, List.mem_append_left _ managedMem, .nil cache⟩

/-- A run changes a cache as its notices say. -/
theorem exists_changelog_run {manager : Manager F σ} (wellKept : WellKept manager.caches)
    (managedMem : ⟨key, .live, cache⟩ ∈ manager.caches) (steps : List (Step F σ)) :
    ∃ final, ⟨key, .live, final⟩ ∈ (manager.run steps).1.caches ∧
      IsChangelog cache (heard key (manager.run steps).2) final := by
  induction steps generalizing manager cache with
  | nil => exact ⟨cache, managedMem, .nil cache⟩
  | cons step steps ih =>
      rcases exists_changelog_perform wellKept managedMem step with ⟨after, afterMem, first⟩
      rcases ih (wellKept_perform wellKept step) afterMem with ⟨final, finalMem, rest⟩
      rw [run, heard_append]
      exact ⟨final, finalMem, first.append rest⟩

/-- From any moment at which a cache is managed, what its owner hears is a changelog of it. -/
theorem changelog_bridgeObjects {manager : Manager bridgeObjects σ} (reachable : manager.Reachable)
    {key : bridgeObjects.Key} {cache : Cache (bridgeObjects.Object key)}
    (isManaged : manager.cacheOf key = .ok cache) (steps : List (Step bridgeObjects σ)) :
    ∃ final, (manager.run steps).1.cacheOf key = .ok final ∧
      IsChangelog cache (heard key (manager.run steps).2) final := by
  have managedMem := (cacheOf_eq_ok_iff reachable.wellKept).mp isManaged
  rcases exists_changelog_run reachable.wellKept managedMem steps with
    ⟨final, finalMem, isChangelog⟩
  have isManagedStill := (cacheOf_eq_ok_iff (wellKept_run reachable.wellKept steps)).mpr finalMem
  exact ⟨final, isManagedStill, isChangelog⟩

/-- A message about one VLAN of port 4. -/
def vlanMessage (type : UInt16) (vlan : UInt8) : Octets :=
  ((Draft.ofType type 0).append
    [7, 0, 0, 0, 4, 0, 0, 0, 12, 0, 1, 128, 8, 0, 1, 0, 0, 0, vlan, 0]).finish

/-- A message about VLANs that ends within its family header. -/
def cutVlanMessage : Octets :=
  ((Draft.ofType MessageType.newVlan 0).append [7, 0, 0, 0]).finish

/-- A port appears, changes and goes away twice, and the first datagram has a message that
cannot be read. -/
def vlanSteps : List (Step bridgeObjects Conversation) :=
  [.datagram (vlanMessage MessageType.newVlan 10 ++ vlanMessage MessageType.newVlan 20
      ++ cutVlanMessage ++ vlanMessage MessageType.newVlan 30),
    .datagram (vlanMessage MessageType.deleteVlan 10),
    .datagram (vlanMessage MessageType.deleteVlan 20 ++ vlanMessage MessageType.deleteVlan 20)]

/-- A manager of ports that has just started. -/
def vlanManager : Manager bridgeObjects Conversation :=
  (add ⟨{}, {}, [], false⟩ BridgeKey.vlans).2

/-- A run of all kinds of changes reports each of them. -/
theorem changelog_vlanSteps :
    vlanManager.Reachable ∧ vlanManager.cacheOf BridgeKey.vlans = .ok {} ∧
      (heard BridgeKey.vlans (vlanManager.run vlanSteps).2).map (·.2.action) =
        [.new, .change, .change, .delete, .delete] ∧
      ∃ final, (vlanManager.run vlanSteps).1.cacheOf BridgeKey.vlans = .ok final ∧
        IsChangelog {} (heard BridgeKey.vlans (vlanManager.run vlanSteps).2) final := by
  have reachable : vlanManager.Reachable :=
    ⟨⟨{}, {}, [], false⟩, [.add BridgeKey.vlans], rfl, rfl⟩
  have isManaged : vlanManager.cacheOf BridgeKey.vlans = .ok {} :=
    (cacheOf_eq_ok_iff reachable.wellKept).mpr (List.mem_singleton_self _)
  refine ⟨reachable, isManaged, ?_, ?_⟩
  · decide +kernel
  · exact changelog_bridgeObjects reachable isManaged vlanSteps

end Manager

end BridgeView
