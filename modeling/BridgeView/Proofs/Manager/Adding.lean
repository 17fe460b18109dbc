import BridgeView.Proofs.Manager.Run

/-!
# Adding a cache

To add a cache is to join its groups, to fill it, and to undo the subscription if one of the two
fails. `Adds` says once what this can come to; what holds of managers is proved by these
cases. Whatever the types are, the names of managed caches stay distinct and the caches live
(`Reachable.orderly`).
-/

namespace BridgeView

variable {F : CacheFamily} {σ : Type}

namespace Manager

variable [Transport σ]

/-- What adding a cache of a type can come to. -/
inductive Adds (manager : Manager F σ) (key : F.Key) : Except Error Unit × Manager F σ → Prop where
  | taken (isManaged : CacheFamily.name key ∈ manager.names) :
      Adds manager key (.error (.alreadyExists (CacheFamily.name key)), manager)
  | notJoined {error : Error} {events : σ} (fresh : CacheFamily.name key ∉ manager.names)
      (joins : joinAll (CacheFamily.groups key) manager.events = (.error error, events)) :
      Adds manager key (.error error, { manager with events }.abandon (CacheFamily.groups key))
  | notFilled {error : Error} {events dumps : σ} (fresh : CacheFamily.name key ∉ manager.names)
      (joins : joinAll (CacheFamily.groups key) manager.events = (.ok (), events))
      (fills : { manager with events }.fillNew { key } = (.error error, dumps)) :
      Adds manager key
        (.error error, { manager with events, dumps }.abandon (CacheFamily.groups key))
  | added {events dumps : σ} {cache : Cache (F.Object key)}
      (fresh : CacheFamily.name key ∉ manager.names)
      (joins : joinAll (CacheFamily.groups key) manager.events = (.ok (), events))
      (fills : { manager with events }.fillNew { key } = (.ok { key, cache }, dumps)) :
      Adds manager key (.ok (),
        { manager with events, dumps, caches := manager.caches ++ [⟨key, .live, cache⟩] })

/-- Adding a type has one of the outcomes that are stated. -/
theorem adds (manager : Manager F σ) (key : F.Key) : Adds manager key (manager.add key) := by
  unfold add
  dsimp only
  split
  · rename_i isManaged
    apply Adds.taken
    simpa [names] using isManaged
  · rename_i notManaged
    have fresh : CacheFamily.name key ∉ manager.names := by simpa [names] using notManaged
    split
    · rename_i joins
      exact Adds.notJoined fresh joins
    · rename_i joins
      split
      · rename_i fills
        exact Adds.notFilled fresh joins fills
      · rename_i fills
        rcases fillNew_eq_ok fills with ⟨cache, rfl, _⟩
        exact Adds.added fresh joins fills

theorem orderly_add {manager : Manager F σ} (orderly : Orderly manager.caches) (key : F.Key) :
    Orderly (manager.add key).2.caches := by
  rcases manager.add key, manager.adds key with ⟨result, adds⟩
  cases adds with
  | taken _ => exact orderly
  | notJoined _ _ => exact orderly
  | notFilled _ _ _ => exact orderly
  | added fresh _ _ => exact orderly.append fresh _

/-- Every step keeps a manager orderly. -/
theorem orderly_perform {manager : Manager F σ} (orderly : Orderly manager.caches)
    (step : Step F σ) : Orderly (manager.perform step).1.caches := by
  cases step with
  | transports events dumps => exact orderly
  | add key => exact orderly_add orderly key
  | addNamed registry name =>
      rw [perform, addNamed]
      split
      · exact orderly
      · exact orderly_add orderly _
  | datagram octets =>
      rcases (manager.follows_applyDatagram octets).exists_takes with ⟨turns, taken⟩
      exact orderly.takes taken
  | waiting =>
      rcases manager.exists_takes_applyWaiting with ⟨turns, taken⟩
      exact orderly.takes taken

theorem orderly_run {manager : Manager F σ} (orderly : Orderly manager.caches)
    (steps : List (Step F σ)) : Orderly (manager.run steps).1.caches := by
  induction steps generalizing manager with
  | nil => exact orderly
  | cons step steps ih => exact ih (orderly_perform orderly step)

/-- Whatever was done with a manager, it is orderly. -/
theorem Reachable.orderly {manager : Manager F σ} (reachable : manager.Reachable) :
    Orderly manager.caches := by
  rcases reachable with ⟨start, steps, noCaches, rfl⟩
  apply orderly_run
  rw [noCaches]
  exact Orderly.nil

end Manager

end BridgeView
