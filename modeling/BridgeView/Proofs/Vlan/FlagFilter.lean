import BridgeView.Proofs.Comparison
import Mathlib.Data.List.Induction

/-!
# Filters on the flags of a port

A filter is made by setting and clearing flags on an empty port, and it is compared loosely. The
flags and the mask of the touched ones are two words that are updated by the same calls. Read flag
by flag they hold what the last call about it said, for flags that some call was about. A port
passes if it agrees with that (`passes_flagFilter_iff`).
-/

namespace BridgeView

namespace PortVlans

/-- Whether a flag is among some flags. -/
def hasFlag (flags : UInt16) (flag : Fin 16) : Bool :=
  flags.toBitVec.getLsbD flag

@[simp] theorem hasFlag_zero (flag : Fin 16) : hasFlag 0 flag = false := by
  simp [hasFlag]

@[simp] theorem hasFlag_or (left right : UInt16) (flag : Fin 16) :
    hasFlag (left ||| right) flag = (hasFlag left flag || hasFlag right flag) := by
  simp [hasFlag]

@[simp] theorem hasFlag_and (left right : UInt16) (flag : Fin 16) :
    hasFlag (left &&& right) flag = (hasFlag left flag && hasFlag right flag) := by
  simp [hasFlag]

@[simp] theorem hasFlag_xor (left right : UInt16) (flag : Fin 16) :
    hasFlag (left ^^^ right) flag = (hasFlag left flag ^^ hasFlag right flag) := by
  simp [hasFlag]

@[simp] theorem hasFlag_complement (flags : UInt16) (flag : Fin 16) :
    hasFlag (~~~flags) flag = !hasFlag flags flag := by
  simp [hasFlag]

/-- No flags are set if and only if none is. -/
theorem eq_zero_iff_hasFlag {flags : UInt16} :
    flags = 0 ↔ ∀ flag, hasFlag flags flag = false := by
  constructor
  · rintro rfl flag
    exact hasFlag_zero flag
  · intro empty
    apply UInt16.toBitVec_inj.mp
    apply BitVec.eq_of_getLsbD_eq
    intro flag inside
    simpa [hasFlag] using empty ⟨flag, inside⟩

/-- A call that sets or clears some flags. -/
inductive FlagCall where
  | set (flags : UInt16)
  | clear (flags : UInt16)
deriving DecidableEq, Repr

namespace FlagCall

/-- The port after a call. -/
def apply (port : PortVlans) : FlagCall → PortVlans
  | set flags => port.setFlags flags
  | clear flags => port.clearFlags flags

/-- Whether the call demands flags rather than forbids them. -/
def isSet : FlagCall → Bool
  | set _ => true
  | clear _ => false

/-- Whether the call is about a flag. -/
def mentions (flag : Fin 16) : FlagCall → Bool
  | set flags => hasFlag flags flag
  | clear flags => hasFlag flags flag

end FlagCall

/-- The port that some calls make of an empty one. -/
def flagFilter (calls : List FlagCall) : PortVlans :=
  calls.foldl FlagCall.apply {}

/-- The last of the calls that are about a flag. -/
def lastMention? (calls : List FlagCall) (flag : Fin 16) : Option FlagCall :=
  (calls.filter (FlagCall.mentions flag)).getLast?

/-- The flags and the mask of a port tell what was last said of each flag. -/
structure Remembers (port : PortVlans) (calls : List FlagCall) : Prop where
  isSome_iff : port.flags?.isSome = true ↔ calls ≠ []
  touched_eq : ∀ flag, hasFlag port.flagMask flag = (lastMention? calls flag).isSome
  flag_eq : ∀ flag, ∀ call ∈ lastMention? calls flag, hasFlag port.flags flag = call.isSet

/-- A call decides on the flags that it is about. -/
theorem FlagCall.hasFlag_flags_apply (call : FlagCall) (port : PortVlans) (flag : Fin 16) :
    hasFlag (call.apply port).flags flag =
      if call.mentions flag then call.isSet else hasFlag port.flags flag := by
  cases call with
  | set flags =>
      have written : ((set flags).apply port).flags = port.flags ||| flags := rfl
      cases mentioned : hasFlag flags flag <;> simp [written, mentions, isSet, mentioned]
  | clear flags =>
      have written : ((clear flags).apply port).flags = port.flags &&& ~~~flags := rfl
      cases mentioned : hasFlag flags flag <;> simp [written, mentions, isSet, mentioned]

theorem FlagCall.hasFlag_flagMask_apply (call : FlagCall) (port : PortVlans) (flag : Fin 16) :
    hasFlag (call.apply port).flagMask flag =
      (hasFlag port.flagMask flag || call.mentions flag) := by
  cases call with
  | set flags => exact hasFlag_or port.flagMask flags flag
  | clear flags => exact hasFlag_or port.flagMask flags flag

theorem lastMention?_concat (calls : List FlagCall) (call : FlagCall) (flag : Fin 16) :
    lastMention? (calls ++ [call]) flag =
      if call.mentions flag then some call else lastMention? calls flag := by
  cases mentioned : call.mentions flag <;> simp [lastMention?, mentioned]

/-- A call keeps the port remembering, with the call as the last one. -/
theorem Remembers.apply {port : PortVlans} {calls : List FlagCall}
    (remembers : port.Remembers calls) (call : FlagCall) :
    (call.apply port).Remembers (calls ++ [call]) where
  isSome_iff := by
    cases call <;> simp [FlagCall.apply, setFlags, clearFlags]
  touched_eq flag := by
    rw [call.hasFlag_flagMask_apply, lastMention?_concat, remembers.touched_eq]
    cases call.mentions flag <;> simp
  flag_eq flag := by
    rw [call.hasFlag_flags_apply, lastMention?_concat]
    cases call.mentions flag with
    | false => exact remembers.flag_eq flag
    | true => simp

theorem remembers_flagFilter (calls : List FlagCall) : (flagFilter calls).Remembers calls := by
  -- From the right end, because a later call overrides what the earlier ones say.
  induction calls using List.reverseRecOn with
  | nil => constructor <;> simp [flagFilter, lastMention?]
  | append_singleton earlier call ih =>
      have applied : flagFilter (earlier ++ [call]) = call.apply (flagFilter earlier) := by
        simp [flagFilter]
      rw [applied]
      exact ih.apply call

/-- Flags are overlooked if and only if they agree wherever the mask looks. -/
theorem flags_overlooked_iff {left right mask : UInt16} :
    flagsDiffer left right (some mask) = false ↔
      ∀ flag, hasFlag mask flag = true → hasFlag left flag = hasFlag right flag := by
  simp only [flagsDiffer, bne_eq_false_iff_eq, eq_zero_iff_hasFlag, hasFlag_and, hasFlag_xor]
  apply forall_congr'
  intro flag
  cases hasFlag mask flag <;> simp

/-- Loosely, a port differs from one with flags unless it has the same of those that the other has
touched. -/
theorem loose_flags_eq_zero_iff {port filter : PortVlans}
    (hasFlags : filter.flags?.isSome = true) :
    CacheObject.compare port filter flagsBit .loose = 0 ↔
      port.flags?.isSome = true ∧ ∀ flag, hasFlag filter.flagMask flag = true →
        hasFlag port.flags flag = hasFlag filter.flags flag := by
  have isFacet : flagsFacet ∈ FacetedObject.facets := by
    simp [FacetedObject.facets]
  have alike : CacheObject.compare port filter flagsBit .loose = 0 ↔
      ¬flagsFacet.TellsApart true port filter :=
    FacetedObject.differing_single_eq_zero_iff isFacet
  have apart : flagsFacet.TellsApart true port filter ↔
      (port.flags?.isSome = true → flagsDiffer port.flags filter.flags (some filter.flagMask)
        = true) := by
    simp only [Facet.TellsApart, flagsFacet, hasFlags, if_true]
    cases port.flags? <;> simp
  simp only [alike, apart, Classical.not_imp, Bool.not_eq_true, flags_overlooked_iff]

/-- A port passes a filter if it has flags, and if each flag that the filter is about is as the last
call that mentions it says. -/
theorem passes_flagFilter_iff (port : PortVlans) {calls : List FlagCall} (nonempty : calls ≠ []) :
    CacheObject.compare port (flagFilter calls) flagsBit .loose = 0 ↔
      port.flags?.isSome = true ∧
        ∀ flag, ∀ call ∈ lastMention? calls flag, hasFlag port.flags flag = call.isSet := by
  have remembers := remembers_flagFilter calls
  rw [loose_flags_eq_zero_iff (remembers.isSome_iff.mpr nonempty)]
  apply and_congr_right
  intro _
  apply forall_congr'
  intro flag
  rw [remembers.touched_eq]
  constructor
  · intro agrees call isLast
    have mentioned : (lastMention? calls flag).isSome = true := Option.isSome_of_mem isLast
    exact (agrees mentioned).trans (remembers.flag_eq flag call isLast)
  · intro said mentioned
    rcases Option.isSome_iff_exists.mp mentioned with ⟨call, isLast⟩
    exact (said call isLast).trans (remembers.flag_eq flag call isLast).symm

/-- The second call takes back a part of what the first one asks for, and the third mentions no
flag. -/
theorem passes_flagFilter_iff_takenBack :
    let calls : List FlagCall := [.set 0x0006, .clear 0x0004, .set 0]
    calls ≠ [] ∧
      CacheObject.compare { flags? := some 0x8003 } (flagFilter calls) flagsBit .loose = 0 ∧
      CacheObject.compare { flags? := some 0x0006 } (flagFilter calls) flagsBit .loose ≠ 0 ∧
      CacheObject.compare {} (flagFilter calls) flagsBit .loose ≠ 0 := by
  intro calls
  have nonempty : calls ≠ [] := by decide
  have passes := fun port => passes_flagFilter_iff port nonempty
  refine ⟨nonempty, ?_, ?_, ?_⟩
  · exact (passes _).mpr (by decide)
  · exact mt (passes _).mp (by decide)
  · exact mt (passes _).mp (by decide)

end PortVlans

end BridgeView
