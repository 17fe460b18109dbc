import BridgeView.Draft
import BridgeView.Proofs.Attribute.Walk

/-!
# Writing attributes into a draft

The body of a draft only grows at its end, except where a container is closed and its length written
into its header. A container that is opened, filled and closed has nevertheless only appended the
octets of one attribute, and so everything that is written in this way appends octets that depend on
what is written, and not on the draft (`Appends`).
-/

namespace BridgeView

open Attribute

namespace Attribute

@[simp]
theorem length_encode (type : UInt16) (payload : Octets) :
    (encode type payload).length = attributeHeaderSize + Octets.alignUp payload.length := by
  have above := Octets.le_alignUp payload.length
  simp only [encode, AttributeHeader.toOctets, List.length_append, Octets.length_ofWord16,
    Octets.length_padding, attributeHeaderSize]
  omega

/-- An attribute is not longer than a stream that it is part of. -/
theorem length_le_length_flatMap {α : Type} {type : α → UInt16} {payload : α → Octets}
    {items : List α} {item : α} (isItem : item ∈ items) :
    attributeHeaderSize + (payload item).length
      ≤ (items.flatMap fun item => encode (type item) (payload item)).length := by
  have above := Octets.le_alignUp (payload item).length
  rcases List.append_of_mem isItem with ⟨before, later, rfl⟩
  simp only [List.flatMap_append, List.flatMap_cons, List.length_append, length_encode]
  omega

theorem length_encode_mod_four (type : UInt16) (payload : Octets) :
    (encode type payload).length % 4 = 0 := by
  have aligned := Octets.alignUp_mod_four payload.length
  rw [length_encode, attributeHeaderSize]
  omega

theorem encode_of_aligned {type : UInt16} {payload : Octets} (aligned : payload.length % 4 = 0) :
    encode type payload = (AttributeHeader.ofSize type payload.length).toOctets ++ payload := by
  rw [encode, Octets.padding_of_aligned aligned, List.append_nil]

theorem and_kindMask_of_le {kind : UInt16} (isKind : kind ≤ kindMask) :
    kind &&& kindMask = kind := by
  apply UInt16.toNat.inj
  have small : kind.toNat ≤ 2 ^ 14 - 1 := UInt16.le_iff_toNat_le.mp isKind
  rw [UInt16.toNat_and, show kindMask.toNat = 2 ^ 14 - 1 from rfl, Nat.and_two_pow_sub_one_eq_mod]
  omega

/-- The mark of a container is no part of its kind. -/
theorem or_nestedMark_and_kindMask (type : UInt16) :
    (type ||| nestedMark) &&& kindMask = type &&& kindMask := by
  apply UInt16.toNat.inj
  rw [UInt16.toNat_and, UInt16.toNat_and, UInt16.toNat_or,
    show kindMask.toNat = 2 ^ 14 - 1 from rfl, show nestedMark.toNat = 2 ^ 15 from rfl,
    Nat.and_two_pow_sub_one_eq_mod, Nat.and_two_pow_sub_one_eq_mod, Nat.or_mod_two_pow]
  simp

end Attribute

namespace Draft

/-- Opens a container, has it filled, and closes it. -/
def nest (draft : Draft) (type : UInt16) (fill : Draft → Draft) : Draft :=
  let (opened, mark) := draft.openNest type
  (fill opened).closeNest mark

/-- To write is to append the octets, wherever the body ends at a multiple of four. -/
structure Appends (write : Draft → Draft) (octets : Octets) : Prop where
  aligned : octets.length % 4 = 0
  write_eq : ∀ draft : Draft, draft.body.length % 4 = 0 →
    write draft = { draft with body := draft.body ++ octets }

/-- Closing a container that was opened behind aligned octets makes an attribute of what was written
since. -/
theorem closeNest_eq {draft : Draft} {before inside : Octets} {header : AttributeHeader}
    (body_eq : draft.body = before ++ (header.toOctets ++ inside))
    (beforeAligned : before.length % 4 = 0) (insideAligned : inside.length % 4 = 0) :
    draft.closeNest ⟨before.length⟩ =
      { draft with body := before ++ encode header.type inside } := by
  have size : draft.body.length - before.length = attributeHeaderSize + inside.length := by
    simp only [body_eq, AttributeHeader.toOctets, List.length_append, Octets.length_ofWord16,
      attributeHeaderSize]
    omega
  have front : draft.body.take before.length = before := by
    rw [body_eq, List.take_left]
  -- The header has four octets, of which the length takes the first two.
  have back : draft.body.drop (before.length + 2) = Octets.ofWord16 header.type ++ inside := by
    rw [body_eq, ← List.drop_drop, List.drop_left]
    rfl
  have padding (length : UInt16) : Octets.padding (before ++ (Octets.ofWord16 length
      ++ (Octets.ofWord16 header.type ++ inside))).length = [] := by
    apply Octets.padding_of_aligned
    simp only [List.length_append, Octets.length_ofWord16]
    omega
  simp only [closeNest, size, front, back, padding, encode_of_aligned insideAligned,
    AttributeHeader.toOctets, AttributeHeader.ofSize, List.append_assoc, List.append_nil]

namespace Appends

variable {write first second : Draft → Draft} {octets former latter : Octets}

theorem nothing : Appends (fun draft => draft) [] := by
  refine ⟨rfl, ?_⟩
  intro draft _
  simp

/-- Writing twice appends the octets of both. -/
theorem comp (writesFirst : Appends first former) (writesSecond : Appends second latter) :
    Appends (fun draft => second (first draft)) (former ++ latter) := by
  have firstAligned := writesFirst.aligned
  have secondAligned := writesSecond.aligned
  refine ⟨?_, ?_⟩
  · rw [List.length_append]
    omega
  · intro draft aligned
    rw [writesFirst.write_eq draft aligned, writesSecond.write_eq, List.append_assoc]
    rw [List.length_append]
    omega

/-- Writing items appends the octets of all of them. -/
theorem foldl {α : Type} {write : α → Draft → Draft} {octets : α → Octets}
    (writes : ∀ item, Appends (write item) (octets item)) (items : List α) :
    Appends (fun draft => items.foldl (fun draft item => write item draft) draft)
      (items.flatMap octets) := by
  induction items with
  | nil => exact nothing
  | cons item later ih => exact (writes item).comp ih

/-- Octets are appended with their padding. -/
theorem append (octets : Octets) :
    Appends (·.append octets) (octets ++ Octets.padding octets.length) := by
  have alignedUp := Octets.alignUp_mod_four octets.length
  have above := Octets.le_alignUp octets.length
  refine ⟨?_, ?_⟩
  · rw [List.length_append, Octets.length_padding]
    omega
  · intro draft aligned
    have samePadding :
        Octets.padding (draft.body ++ octets).length = Octets.padding octets.length := by
      simp only [Octets.padding, Octets.alignUp, List.length_append]
      congr 1
      omega
    simp only [Draft.append, samePadding, List.append_assoc]

theorem append_of_aligned {octets : Octets} (aligned : octets.length % 4 = 0) :
    Appends (·.append octets) octets := by
  have appends := append octets
  rwa [Octets.padding_of_aligned aligned, List.append_nil] at appends

/-- An attribute is appended as it is encoded. -/
theorem appendAttribute (type : UInt16) (payload : Octets) :
    Appends (·.appendAttribute type payload) (encode type payload) := by
  have written := Appends.append ((AttributeHeader.ofSize type payload.length).toOctets ++ payload)
  have samePadding :
      Octets.padding ((AttributeHeader.ofSize type payload.length).toOctets ++ payload).length
        = Octets.padding payload.length := by
    simp only [Octets.padding, Octets.alignUp, AttributeHeader.toOctets, List.length_append,
      Octets.length_ofWord16]
    congr 1
    omega
  rw [samePadding] at written
  exact written

theorem appendAttributes (type : UInt16) (payloads : List Octets) :
    Appends (·.appendAttributes type payloads) (payloads.flatMap (encode type)) := by
  refine ⟨?_, fun _ _ => rfl⟩
  induction payloads with
  | nil => rfl
  | cons payload later ih =>
      have aligned := length_encode_mod_four type payload
      rw [List.flatMap_cons, List.length_append]
      omega

/-- What fills a container becomes the payload of one attribute. -/
theorem nest (fills : Appends write octets) (type : UInt16) :
    Appends (fun draft => draft.nest type write) (encode (type ||| nestedMark) octets) := by
  refine ⟨length_encode_mod_four _ _, ?_⟩
  intro draft aligned
  have filled := fills.write_eq (draft.openNest type).1 (by
    simp only [openNest, AttributeHeader.toOctets, List.length_append, Octets.length_ofWord16]
    omega)
  have body_eq : (write (draft.openNest type).1).body = draft.body ++
      ((AttributeHeader.ofSize (type ||| nestedMark) 0).toOctets ++ octets) := by
    rw [filled, ← List.append_assoc]
    rfl
  rw [Draft.nest]
  refine (closeNest_eq body_eq aligned fills.aligned).trans ?_
  rw [filled]
  rfl

/-- A draft without a body is finished as the message of the octets. -/
theorem finish_eq (writes : Appends write octets) (header : MessageHeader) :
    (write { header }).finish =
      { header with length := UInt32.ofNat (messageHeaderSize + octets.length) }.toOctets
        ++ octets := by
  rw [writes.write_eq { header } rfl]
  rfl

/-- What follows the header of the message are the octets. -/
theorem drop_finish (writes : Appends write octets) (header : MessageHeader) :
    (write { header }).finish.drop messageHeaderSize = octets := by
  rw [writes.finish_eq header]
  exact List.drop_left' rfl

end Appends

end Draft

end BridgeView
