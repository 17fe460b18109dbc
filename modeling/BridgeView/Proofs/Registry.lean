import BridgeView.Registry
import Mathlib.Data.List.Induction
import Mathlib.Data.List.Nodup

/-!
# Registries over time

A registry holds the types that were registered under their names and not taken out since. A name
can be taken only while nothing is registered under it, and so what stands in a registry is, for
each name, what was registered last, in the order of these registrations (`Stands`).

Looking up by name finds what stands under the name; looking up by message type finds the earliest
that consumes it. Two types may share a name or a message type; nothing is assumed of them.
-/

namespace BridgeView.Registry

variable {F : CacheFamily}

theorem mem_names_iff {registry : Registry F} {name : String} :
    name ∈ registry.names ↔ ∃ key ∈ registry.keys, CacheFamily.name key = name :=
  List.mem_map

/-- A call that changes a registry if it succeeds. -/
inductive Call (F : CacheFamily) where
  | register (key : F.Key)
  | unregister (name : String)

namespace Call

/-- The name that a call is about. -/
def name : Call F → String
  | register key => CacheFamily.name key
  | unregister name => name

/-- The outcome of a call and the registry after it. -/
def run (registry : Registry F) : Call F → Except Error Unit × Registry F
  | register key =>
      match registry.register key with
      | .ok next => (.ok (), next)
      | .error error => (.error error, registry)
  | unregister name =>
      match registry.unregister name with
      | .ok (_, next) => (.ok (), next)
      | .error error => (.error error, registry)

/-- All that a call can come to. -/
inductive Runs (registry : Registry F) : Call F → Except Error Unit × Registry F → Prop
  | registers {key : F.Key} (fresh : CacheFamily.name key ∉ registry.names) :
      Runs registry (register key) (.ok (), ⟨registry.keys ++ [key]⟩)
  | taken {key : F.Key} (taken : CacheFamily.name key ∈ registry.names) :
      Runs registry (register key) (.error (.alreadyExists (CacheFamily.name key)), registry)
  | unregisters {name : String} {key : F.Key} {before later : List F.Key}
      (keys_eq : registry.keys = before ++ key :: later) (isName : CacheFamily.name key = name) :
      Runs registry (unregister name) (.ok (), ⟨before ++ later⟩)
  | unknown {name : String} (absent : name ∉ registry.names) :
      Runs registry (unregister name) (.error (.unknownCacheType name), registry)

end Call

theorem lookup_eq_none_iff {registry : Registry F} {name : String} :
    registry.lookup name = none ↔ name ∉ registry.names := by
  simp [lookup, names]

/-- A call registers a name that is not known, unregisters one that is, and fails otherwise. -/
theorem runs (registry : Registry F) (call : Call F) :
    call.Runs registry (call.run registry) := by
  cases call with
  | register key =>
      cases found : registry.lookup (CacheFamily.name key) with
      | none =>
          simp only [Call.run, register, found, Option.isSome_none, Bool.false_eq_true, if_false]
          exact .registers (lookup_eq_none_iff.mp found)
      | some other =>
          have isTaken : CacheFamily.name key ∈ registry.names := by
            apply Classical.not_not.mp
            rw [← lookup_eq_none_iff, found]
            simp
          simp only [Call.run, register, found, Option.isSome_some, if_true]
          exact .taken isTaken
  | unregister name =>
      cases found : registry.lookup name with
      | none =>
          simp only [Call.run, unregister, found]
          exact .unknown (lookup_eq_none_iff.mp found)
      | some key =>
          have isName := List.find?_some found
          rcases List.exists_of_eraseP (p := (CacheFamily.name · == name))
            (List.mem_of_find?_eq_some found) isName with
            ⟨gone, before, later, _, goneNamed, keys_eq, erased⟩
          simp only [Call.run, unregister, found, erased]
          exact .unregisters keys_eq (by simpa using goneNamed)

/-- The registry after some calls on an empty one. -/
def after (calls : List (Call F)) : Registry F :=
  calls.foldl (fun registry call => (call.run registry).2) {}

theorem after_concat (calls : List (Call F)) (call : Call F) :
    after (calls ++ [call]) = (call.run (after calls)).2 :=
  List.foldl_append

/-- The call at a position of the history succeeds. -/
def Succeeds (calls : List (Call F)) (position : Nat) (call : Call F) : Prop :=
  calls[position]? = some call ∧ (call.run (after (calls.take position))).1 = .ok ()

/-- The type was registered at a position of the history, the last under its name so far, and not
taken out since. -/
structure Stands (calls : List (Call F)) (position : Nat) (key : F.Key) : Prop where
  registered : Succeeds calls position (.register key)
  latest : ∀ later other, position < later → Succeeds calls later (.register other) →
    CacheFamily.name other ≠ CacheFamily.name key
  kept : ∀ later, position < later → ¬Succeeds calls later (.unregister (CacheFamily.name key))

theorem Succeeds.lt_length {calls : List (Call F)} {position : Nat} {call : Call F}
    (succeeds : Succeeds calls position call) : position < calls.length :=
  (List.getElem?_eq_some_iff.mp succeeds.1).1

/-- The last of the calls is the only one whose success is new. -/
theorem succeeds_concat_iff {calls : List (Call F)} {last call : Call F} {position : Nat} :
    Succeeds (calls ++ [last]) position call ↔
      Succeeds calls position call ∨
        position = calls.length ∧ call = last ∧ (last.run (after calls)).1 = .ok () := by
  rcases Nat.lt_trichotomy position calls.length with before | rfl | behind
  · simp only [Succeeds, List.getElem?_append_left before,
      List.take_append_of_le_length (Nat.le_of_lt before), Nat.ne_of_lt before, false_and, or_false]
  · simp only [Succeeds, List.getElem?_concat_length, List.getElem?_length, List.take_left,
      Option.some.injEq, reduceCtorEq, false_and, false_or, true_and]
    constructor
    · rintro ⟨rfl, succeeds⟩
      exact ⟨rfl, succeeds⟩
    · rintro ⟨rfl, succeeds⟩
      exact ⟨rfl, succeeds⟩
  · have outside : (calls ++ [last]).length ≤ position := by
      rw [List.length_append]
      exact behind
    simp only [Succeeds, List.getElem?_eq_none outside, List.getElem?_eq_none (Nat.le_of_lt behind),
      reduceCtorEq, false_and, false_or, Nat.ne_of_gt behind]

/-- What stands after one more call stood before, unless the call was about its name, or else is
what the call registered. -/
theorem stands_concat_iff {calls : List (Call F)} {last : Call F} {position : Nat} {key : F.Key} :
    Stands (calls ++ [last]) position key ↔
      (Stands calls position key ∧
          ((last.run (after calls)).1 = .ok () → last.name ≠ CacheFamily.name key)) ∨
        position = calls.length ∧ last = .register key ∧ (last.run (after calls)).1 = .ok () := by
  have earlier {position : Nat} {call : Call F} (succeeds : Succeeds calls position call) :
      Succeeds (calls ++ [last]) position call := succeeds_concat_iff.mpr (Or.inl succeeds)
  constructor
  · intro stands
    rcases succeeds_concat_iff.mp stands.registered with registered | ⟨atEnd, isLast, succeeds⟩
    · left
      refine ⟨⟨registered, fun later other behind succeeds => ?_, fun later behind succeeds => ?_⟩,
        ?_⟩
      · exact stands.latest later other behind (earlier succeeds)
      · exact stands.kept later behind (earlier succeeds)
      · intro succeeds sameName
        have lastSucceeds : Succeeds (calls ++ [last]) calls.length last :=
          succeeds_concat_iff.mpr (Or.inr ⟨rfl, rfl, succeeds⟩)
        cases last with
        | register other => exact stands.latest _ other registered.lt_length lastSucceeds sameName
        | unregister name =>
            have isName : name = CacheFamily.name key := sameName
            subst isName
            exact stands.kept _ registered.lt_length lastSucceeds
    · exact Or.inr ⟨atEnd, isLast.symm, succeeds⟩
  · rintro (⟨stands, otherName⟩ | ⟨rfl, rfl, succeeds⟩)
    · refine ⟨earlier stands.registered, fun later other behind succeeds => ?_,
        fun later behind succeeds => ?_⟩
      · rcases succeeds_concat_iff.mp succeeds with before | ⟨_, isLast, lastSucceeds⟩
        · exact stands.latest later other behind before
        · subst isLast
          exact otherName lastSucceeds
      · rcases succeeds_concat_iff.mp succeeds with before | ⟨_, isLast, lastSucceeds⟩
        · exact stands.kept later behind before
        · subst isLast
          exact otherName lastSucceeds rfl
    · have nothingBehind {later : Nat} {call : Call F} (behind : calls.length < later) :
          ¬Succeeds (calls ++ [.register key]) later call := by
        intro succeeds
        have inside := succeeds.lt_length
        rw [List.length_append, List.length_singleton] at inside
        omega
      exact ⟨succeeds_concat_iff.mpr (Or.inr ⟨rfl, rfl, succeeds⟩),
        fun later other behind succeeds => absurd succeeds (nothingBehind behind),
        fun later behind => nothingBehind behind⟩

/-! ## The order of a registry -/

/-- Whatever was called, no name is registered twice. -/
theorem nodup_names_after (calls : List (Call F)) : (after calls).names.Nodup := by
  induction calls using List.reverseRecOn with
  | nil => exact List.nodup_nil
  | append_singleton calls last ih =>
      rw [after_concat]
      have runs := runs (after calls) last
      generalize last.run (after calls) = result at runs
      cases runs with
      | @registers key fresh =>
          have appended := List.concat_eq_append ▸ ih.concat fresh
          simpa [names] using appended
      | taken taken => exact ih
      | @unregisters name key before later keys_eq isName =>
          have kept : (before ++ later).Sublist (after calls).keys := by
            rw [keys_eq]
            exact (List.sublist_cons_self key later).append_left before
          exact ih.sublist (kept.map CacheFamily.name)
      | unknown absent => exact ih

/-- What stands after some calls, with the positions of its registrations, in the order of the
registry. -/
structure IsLedger (calls : List (Call F)) (ledger : List (Nat × F.Key)) : Prop where
  keys_eq : ledger.map Prod.snd = (after calls).keys
  ordered : ledger.Pairwise fun earlier later => earlier.1 < later.1
  mem_iff : ∀ position key, (position, key) ∈ ledger ↔ Stands calls position key

namespace IsLedger

variable {calls : List (Call F)} {ledger : List (Nat × F.Key)}

theorem name_mem (isLedger : IsLedger calls ledger) {position : Nat} {key : F.Key}
    (stands : Stands calls position key) : CacheFamily.name key ∈ (after calls).names := by
  rw [mem_names_iff, ← isLedger.keys_eq]
  exact ⟨key, List.mem_map.mpr ⟨_, (isLedger.mem_iff position key).mpr stands, rfl⟩, rfl⟩

/-- A call that fails leaves the ledger as it is. -/
theorem failed (isLedger : IsLedger calls ledger) {last : Call F} {error : Error}
    (ran : last.run (after calls) = (.error error, after calls)) :
    IsLedger (calls ++ [last]) ledger where
  keys_eq := by rw [after_concat, ran, isLedger.keys_eq]
  ordered := isLedger.ordered
  mem_iff position key := by simp [stands_concat_iff, ran, isLedger.mem_iff]

/-- A name that is registered is entered at the end of the ledger. -/
theorem registered (isLedger : IsLedger calls ledger) {key : F.Key}
    (fresh : CacheFamily.name key ∉ (after calls).names)
    (ran : (Call.register key).run (after calls) = (.ok (), ⟨(after calls).keys ++ [key]⟩)) :
    IsLedger (calls ++ [.register key]) (ledger ++ [(calls.length, key)]) where
  keys_eq := by
    rw [after_concat, ran, List.map_append, isLedger.keys_eq]
    rfl
  ordered := by
    rw [List.pairwise_append]
    refine ⟨isLedger.ordered, List.pairwise_singleton _ _, ?_⟩
    rintro ⟨position, other⟩ isEntry _ isNew
    rw [List.mem_singleton.mp isNew]
    exact ((isLedger.mem_iff _ _).mp isEntry).registered.lt_length
  mem_iff position other := by
    have otherName (stands : Stands calls position other) :
        CacheFamily.name key ≠ CacheFamily.name other := by
      intro sameName
      rw [sameName] at fresh
      exact fresh (isLedger.name_mem stands)
    rw [stands_concat_iff, List.mem_append, isLedger.mem_iff, List.mem_singleton, Prod.mk.injEq,
      ran]
    apply or_congr
    · exact ⟨fun stands => ⟨stands, fun _ => otherName stands⟩, And.left⟩
    · simp [eq_comm]

/-- Taking out a type removes one entry, and no other has the name. -/
theorem unregistered (isLedger : IsLedger calls ledger) {name : String} {key : F.Key}
    {before later : List F.Key} (keys_eq : (after calls).keys = before ++ key :: later)
    (isName : CacheFamily.name key = name)
    (ran : (Call.unregister name).run (after calls) = (.ok (), ⟨before ++ later⟩)) :
    ∃ rest, IsLedger (calls ++ [.unregister name]) rest := by
  have nodup := nodup_names_after calls
  rw [names, ← isLedger.keys_eq] at nodup
  rw [← isLedger.keys_eq] at keys_eq
  rcases List.map_eq_append_iff.mp keys_eq with ⟨front, remaining, rfl, rfl, remaining_eq⟩
  rcases List.map_eq_cons_iff.mp remaining_eq with ⟨gone, back, rfl, rfl, rfl⟩
  have otherName : ∀ entry ∈ front ++ back, name ≠ CacheFamily.name entry.2 := by
    rw [List.map_map, List.map_append, List.map_cons, List.nodup_middle, List.nodup_cons,
      ← List.map_append] at nodup
    intro entry isEntry sameName
    apply nodup.1
    exact List.mem_map.mpr ⟨entry, isEntry, sameName.symm.trans isName.symm⟩
  refine ⟨front ++ back, ?_, ?_, ?_⟩
  · rw [after_concat, ran, List.map_append]
  · exact isLedger.ordered.sublist ((List.sublist_cons_self _ _).append_left _)
  · intro place other
    have split : Stands calls place other ↔
        (place, other) = gone ∨ (place, other) ∈ front ++ back := by
      rw [← isLedger.mem_iff, List.perm_middle.mem_iff, List.mem_cons]
    rw [stands_concat_iff, split, ran]
    constructor
    · intro isEntry
      exact Or.inl ⟨Or.inr isEntry, fun _ => otherName _ isEntry⟩
    · rintro (⟨isGone | isEntry, stillNamed⟩ | ⟨_, isRegister, _⟩)
      · rw [← isGone] at isName
        exact absurd isName.symm (stillNamed rfl)
      · exact isEntry
      · cases isRegister

end IsLedger

/-- After any list of calls there is a ledger of it. -/
theorem exists_ledger (calls : List (Call F)) : ∃ ledger, IsLedger calls ledger := by
  induction calls using List.reverseRecOn with
  | nil =>
      refine ⟨[], rfl, .nil, ?_⟩
      intro position key
      constructor
      · simp
      · intro stands
        exact absurd stands.registered.lt_length (Nat.not_lt_zero _)
  | append_singleton calls last ih =>
      rcases ih with ⟨ledger, isLedger⟩
      have runs := runs (after calls) last
      generalize ran : last.run (after calls) = result at runs
      cases runs with
      | registers fresh => exact ⟨_, isLedger.registered fresh ran⟩
      | taken taken => exact ⟨ledger, isLedger.failed ran⟩
      | unregisters keys_eq isName => exact isLedger.unregistered keys_eq isName ran
      | unknown absent => exact ⟨ledger, isLedger.failed ran⟩

theorem mem_keys_iff {calls : List (Call F)} {key : F.Key} :
    key ∈ (after calls).keys ↔ ∃ position, Stands calls position key := by
  rcases exists_ledger calls with ⟨ledger, isLedger⟩
  simp only [← isLedger.keys_eq, List.mem_map, Prod.exists, exists_eq_right, isLedger.mem_iff]

/-! ## Looking up -/

/-- A name finds the type that is registered under it. -/
theorem lookup_eq_some_iff {registry : Registry F} (nodup : registry.names.Nodup) {name : String}
    {key : F.Key} :
    registry.lookup name = some key ↔ CacheFamily.name key = name ∧ key ∈ registry.keys := by
  constructor
  · intro found
    exact ⟨by simpa using List.find?_some found, List.mem_of_find?_eq_some found⟩
  · rintro ⟨isName, isKey⟩
    rcases List.append_of_mem isKey with ⟨before, later, keys_eq⟩
    rw [names, keys_eq, List.map_append, List.map_cons, List.nodup_middle, List.nodup_cons] at nodup
    rw [lookup, List.find?_eq_some_iff_append]
    refine ⟨by simpa using isName, before, later, keys_eq, ?_⟩
    intro other isOther
    have notNamed : CacheFamily.name other ≠ name := by
      intro sameName
      apply nodup.1
      rw [isName, ← sameName]
      exact List.mem_append_left _ (List.mem_map_of_mem isOther)
    simpa using notNamed

/-- Messages of the type are consumed. -/
def Consumes (key : F.Key) (type : UInt16) : Prop :=
  ∃ row ∈ CacheObject.messageRows (F.Object key), row.type = type

/-- The row is the first one of the type. -/
def IsFirstRow (key : F.Key) (type : UInt16) (row : MessageRow) : Prop :=
  ∃ before later, CacheObject.messageRows (F.Object key) = before ++ row :: later ∧
    row.type = type ∧ ∀ other ∈ before, other.type ≠ type

/-- A row is found for a message type if it is the first one for it. -/
theorem row?_eq_some_iff {key : F.Key} {type : UInt16} {row : MessageRow} :
    CacheObject.row? (F.Object key) type = some row ↔ IsFirstRow key type row := by
  simp only [CacheObject.row?, List.find?_eq_some_iff_append, IsFirstRow, beq_iff_eq,
    Bool.not_eq_true', beq_eq_false_iff_ne]
  constructor
  · rintro ⟨isType, before, later, rows_eq, others⟩
    exact ⟨before, later, rows_eq, isType, others⟩
  · rintro ⟨before, later, rows_eq, isType, others⟩
    exact ⟨isType, before, later, rows_eq, others⟩

theorem row?_eq_none_iff {key : F.Key} {type : UInt16} :
    CacheObject.row? (F.Object key) type = none ↔ ¬Consumes key type := by
  simp [CacheObject.row?, Consumes]

/-- In a list in order, what stands before an entry is what comes earlier. -/
theorem mem_front_iff {front back : List (Nat × F.Key)} {entry middle : Nat × F.Key}
    (ordered : (front ++ middle :: back).Pairwise fun earlier later => earlier.1 < later.1) :
    entry ∈ front ↔ entry ∈ front ++ middle :: back ∧ entry.1 < middle.1 := by
  rw [List.pairwise_append, List.pairwise_cons] at ordered
  rcases ordered with ⟨_, ⟨behind, _⟩, across⟩
  constructor
  · intro inFront
    exact ⟨List.mem_append_left _ inFront, across entry inFront middle List.mem_cons_self⟩
  · rintro ⟨isEntry, earlier⟩
    rcases List.mem_append.mp isEntry with inFront | atOrBehind
    · exact inFront
    · rcases List.mem_cons.mp atOrBehind with rfl | inBack
      · exact absurd earlier (Nat.lt_irrefl _)
      · exact absurd (behind entry inBack) (Nat.lt_asymm earlier)

/-- A message type finds the first of the standing types that consumes it. -/
theorem lookupMessageType_eq_some_iff {calls : List (Call F)} {type : UInt16} {key : F.Key}
    {row : MessageRow} :
    (after calls).lookupMessageType type = some (key, row) ↔
      IsFirstRow key type row ∧ ∃ position, Stands calls position key ∧
        ∀ earlier other, earlier < position → Stands calls earlier other →
          ¬Consumes other type := by
  rcases exists_ledger calls with ⟨ledger, isLedger⟩
  have ordered := isLedger.ordered
  rw [lookupMessageType, ← isLedger.keys_eq, List.findSome?_map, List.findSome?_eq_some_iff]
  simp only [Function.comp_apply, Option.map_eq_some_iff, Option.map_eq_none_iff, Prod.mk.injEq,
    row?_eq_none_iff, row?_eq_some_iff, ← isLedger.mem_iff]
  constructor
  · rintro ⟨front, ⟨position, _⟩, back, rfl, ⟨_, isFirst, rfl, rfl⟩, others⟩
    refine ⟨isFirst, position, by simp, ?_⟩
    intro earlier other before isEntry
    exact others _ ((mem_front_iff ordered).mpr ⟨isEntry, before⟩)
  · rintro ⟨isFirst, position, isEntry, others⟩
    rcases List.append_of_mem isEntry with ⟨front, back, rfl⟩
    refine ⟨front, (position, key), back, rfl, ⟨row, isFirst, rfl, rfl⟩, ?_⟩
    intro entry inFront
    have earlier := (mem_front_iff ordered).mp inFront
    exact others entry.1 entry.2 earlier.2 earlier.1

/-! ## Registries as ordered maps -/

/-- Registering fails if and only if the name is known. -/
theorem register_fails_iff {registry : Registry F} {key : F.Key} {error : Error} :
    ((Call.register key).run registry).1 = .error error ↔
      error = .alreadyExists (CacheFamily.name key) ∧
        CacheFamily.name key ∈ registry.names := by
  have runs := runs registry (.register key)
  generalize (Call.register key).run registry = result at *
  cases runs with
  | registers fresh => simp [fresh]
  | taken taken => simp [taken, eq_comm]

theorem unregister_fails_iff {registry : Registry F} {name : String} {error : Error} :
    ((Call.unregister name).run registry).1 = .error error ↔
      error = .unknownCacheType name ∧ name ∉ registry.names := by
  have runs := runs registry (.unregister name)
  generalize (Call.unregister name).run registry = result at *
  cases runs with
  | unregisters keys_eq isName => simp [names, keys_eq, isName]
  | unknown absent => simp [absent, eq_comm]

theorem eq_of_failed {registry : Registry F} {call : Call F} {error : Error}
    (failed : (call.run registry).1 = .error error) : (call.run registry).2 = registry := by
  have runs := runs registry call
  generalize call.run registry = result at *
  cases runs with
  | registers fresh => cases failed
  | taken taken => rfl
  | unregisters keys_eq isName => cases failed
  | unknown absent => rfl

theorem ofKeys_eq_after (keys : List F.Key) : ofKeys keys = after (keys.map Call.register) := by
  rw [ofKeys, after, List.foldl_map]
  congr 1
  funext registry key
  simp only [Call.run]
  cases registry.register key <;> rfl

/-- A registry is a map by name in the order of registration, as far as some calls have made it. -/
structure IsOrderedMap (calls : List (Call F)) (registry : Registry F) : Prop where
  nodup : registry.names.Nodup
  ordered : ∃ ledger : List (Nat × F.Key), ledger.map Prod.snd = registry.keys ∧
    (ledger.Pairwise fun earlier later => earlier.1 < later.1) ∧
    ∀ position key, (position, key) ∈ ledger ↔ Stands calls position key
  register_fails_iff : ∀ key error,
    ((Call.register key).run registry).1 = .error error ↔
      error = .alreadyExists (CacheFamily.name key) ∧ CacheFamily.name key ∈ registry.names
  unregister_fails_iff : ∀ name error,
    ((Call.unregister name).run registry).1 = .error error ↔
      error = .unknownCacheType name ∧ name ∉ registry.names
  unchanged : ∀ (call : Call F) error,
    (call.run registry).1 = .error error → (call.run registry).2 = registry
  lookup_eq_some_iff : ∀ name key, registry.lookup name = some key ↔
    CacheFamily.name key = name ∧ ∃ position, Stands calls position key
  lookupMessageType_eq_some_iff : ∀ type key row,
    registry.lookupMessageType type = some (key, row) ↔
      IsFirstRow key type row ∧ ∃ position, Stands calls position key ∧
        ∀ earlier other, earlier < position → Stands calls earlier other → ¬Consumes other type

/-- Whatever calls were made, a registry holds under each name the type that was registered last and
not taken out since, in the order of these registrations. That covers a registry that starts with
given types, which registers them one by one. -/
theorem isOrderedMap_after :
    (∀ calls : List (Call F), IsOrderedMap calls (after calls)) ∧
      ∀ keys : List F.Key, ofKeys keys = after (keys.map Call.register) := by
  refine ⟨fun calls => ?_, ofKeys_eq_after⟩
  rcases exists_ledger calls with ⟨ledger, isLedger⟩
  have nodup := nodup_names_after calls
  constructor
  · exact nodup
  · exact ⟨ledger, isLedger.keys_eq, isLedger.ordered, isLedger.mem_iff⟩
  · exact fun _ _ => register_fails_iff
  · exact fun _ _ => unregister_fails_iff
  · exact fun _ _ => eq_of_failed
  · intro name key
    rw [lookup_eq_some_iff nodup, mem_keys_iff]
  · exact fun _ _ _ => lookupMessageType_eq_some_iff

end BridgeView.Registry
