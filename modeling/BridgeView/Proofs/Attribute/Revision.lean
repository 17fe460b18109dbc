import BridgeView.Proofs.Attribute.Decoding
import Mathlib.Data.List.Forall2

/-!
# Revisions of a stream

A newer kernel may put attributes of further kinds into a stream, mark types that were not marked
before, or leave other octets in the padding. A revision is any number of such changes at any places
of a stream (`Revises`, `exists_place`), in terms of the octets as attributes are laid out in them,
and not of what the walks make of these. What may change inside of a payload is given by a relation
for each kind.

The strict walk does not tell a revised stream from the stream before (`checkStream_eq`), and for
the kinds that a table knows, the payloads are the same up to what has changed inside of them
(`payloads_revised`). So a revised stream is decoded, and what is read of it is the same if this
holds for the payloads (`exists_decode`, `mapM_all`, `bind_nested`).
-/

namespace BridgeView

open Attribute

/-- An attribute as it is laid out: behind the payload stands padding, with anything in it, which
the end of a stream may cut. -/
structure LaidAttribute where
  /-- The kind together with the marks. -/
  type : UInt16
  payload : Octets
  padding : Octets := []
  fits : attributeHeaderSize + payload.length < 65536 := by decide
  within : payload.length + padding.length ≤ Octets.alignUp payload.length := by decide

namespace LaidAttribute

/-- The type without its marks. -/
def kind (laid : LaidAttribute) : UInt16 :=
  laid.type &&& kindMask

/-- The padding is not cut. -/
def IsComplete (laid : LaidAttribute) : Prop :=
  laid.payload.length + laid.padding.length = Octets.alignUp laid.payload.length

/-- Two numbers decide whether the padding is complete. -/
instance (laid : LaidAttribute) : Decidable laid.IsComplete :=
  inferInstanceAs (Decidable (_ = _))

/-- The octets of the attribute, with the padding that it has. -/
def toOctets (laid : LaidAttribute) : Octets :=
  (AttributeHeader.ofSize laid.type laid.payload.length).toOctets ++ laid.payload ++ laid.padding

theorem length_toOctets (laid : LaidAttribute) :
    laid.toOctets.length = attributeHeaderSize + laid.payload.length + laid.padding.length := by
  simp only [toOctets, AttributeHeader.toOctets, List.length_append, Octets.length_ofWord16,
    attributeHeaderSize]

theorem IsComplete.mod_four {laid : LaidAttribute} (complete : laid.IsComplete) :
    laid.toOctets.length % 4 = 0 := by
  have aligned := Octets.alignUp_mod_four laid.payload.length
  rw [← complete] at aligned
  rw [length_toOctets, attributeHeaderSize]
  omega

theorem isComplete_of_mod_four {laid : LaidAttribute} (aligned : laid.toOctets.length % 4 = 0) :
    laid.IsComplete := by
  have within := laid.within
  rw [length_toOctets, attributeHeaderSize] at aligned
  rw [IsComplete]
  unfold Octets.alignUp at within ⊢
  omega

/-- A laid attribute is at the front of a stream, whatever its padding holds. -/
theorem front_toOctets_append {laid : LaidAttribute} {rest : Octets}
    (ends : laid.IsComplete ∨ rest = []) :
    front (laid.toOctets ++ rest) = .item ⟨laid.kind, laid.payload⟩ rest := by
  have stated : (AttributeHeader.ofSize laid.type laid.payload.length).length.toNat =
      attributeHeaderSize + laid.payload.length := by
    rw [AttributeHeader.ofSize, UInt16.toNat_ofNat', Nat.mod_eq_of_lt laid.fits]
  have skipped : Octets.alignUp (attributeHeaderSize + laid.payload.length) - attributeHeaderSize =
      Octets.alignUp laid.payload.length := by
    simp only [Octets.alignUp, attributeHeaderSize]
    omega
  have behind : (laid.payload ++ (laid.padding ++ rest)).drop
      (Octets.alignUp laid.payload.length) = rest := by
    rcases ends with complete | rfl
    · rw [← complete, ← List.length_append, ← List.append_assoc, List.drop_left]
    · have within := laid.within
      rw [List.append_nil, List.drop_eq_nil_of_le]
      rwa [List.length_append]
  simp only [toOctets, AttributeHeader.toOctets, Octets.ofWord16, List.cons_append,
    List.nil_append, List.append_assoc, front, Octets.word16_ofWord16]
  simp only [stated, Nat.add_sub_cancel_left, Octets.split?_append, skipped, behind]
  rw [if_neg (by omega)]
  rfl

theorem front_toOctets (laid : LaidAttribute) :
    front laid.toOctets = .item ⟨laid.kind, laid.payload⟩ [] := by
  have read : front (laid.toOctets ++ []) = .item ⟨laid.kind, laid.payload⟩ [] :=
    front_toOctets_append (Or.inr rfl)
  rwa [List.append_nil] at read

theorem walk_toOctets_append {laid : LaidAttribute} (complete : laid.IsComplete) (rest : Octets) :
    walk (laid.toOctets ++ rest) = ⟨laid.kind, laid.payload⟩ :: walk rest :=
  walk_of_item (front_toOctets_append (Or.inl complete))

theorem walk_toOctets (laid : LaidAttribute) :
    walk laid.toOctets = [⟨laid.kind, laid.payload⟩] := by
  rw [walk_of_item laid.front_toOctets, Spells.nil.walk_eq]

/-- What can be read in front of a stream is laid out like this. -/
theorem exists_of_front {stream rest : Octets} {head : Attribute}
    (read : front stream = .item head rest) :
    ∃ laid : LaidAttribute, stream = laid.toOctets ++ rest ∧ laid.kind = head.kind ∧
      laid.payload = head.payload ∧ (laid.IsComplete ∨ rest = []) := by
  unfold front at read
  split at read
  · rename_i length0 length1 type0 type1 later
    dsimp only at read
    split at read
    · cases read
    · split at read
      · cases read
      · rename_i enough _ payload behind cut
        simp only [Front.item.injEq] at read
        rcases read with ⟨rfl, rfl⟩
        rw [Octets.split?_eq_some_iff] at cut
        rcases cut with ⟨rfl, size⟩
        have bound := (Octets.word16 length0 length1).toNat_lt
        have above := Octets.le_alignUp payload.length
        have total : attributeHeaderSize + payload.length =
            (Octets.word16 length0 length1).toNat := by
          rw [size]
          omega
        let needed := Octets.alignUp payload.length - payload.length
        have skipped : (payload ++ behind).drop
            (Octets.alignUp (Octets.word16 length0 length1).toNat - attributeHeaderSize) =
              behind.drop needed := by
          have size_eq : Octets.alignUp (Octets.word16 length0 length1).toNat -
              attributeHeaderSize = payload.length + needed := by
            simp only [← total, needed, Octets.alignUp, attributeHeaderSize]
            omega
          rw [size_eq, ← List.drop_drop, List.drop_left]
        have within : payload.length + (behind.take needed).length ≤
            Octets.alignUp payload.length := by
          rw [List.length_take]
          omega
        have ends : payload.length + (behind.take needed).length =
            Octets.alignUp payload.length ∨ behind.drop needed = [] := by
          rw [List.length_take, List.drop_eq_nil_iff]
          omega
        rw [skipped]
        refine ⟨⟨Octets.word16 type0 type1, payload, behind.take needed, by omega, within⟩,
          ?_, rfl, rfl, ends⟩
        simp [toOctets, AttributeHeader.ofSize, AttributeHeader.toOctets, total,
          Octets.ofWord16_word16]
  · cases read

end LaidAttribute

/-! ## Revised streams -/

variable {table : AttributeTable} {inside : UInt16 → Octets → Octets → Prop}

/-- A payload is the same, or it has changed in a way that is none of the table's business. -/
inductive Altered (table : AttributeTable) (inside : UInt16 → Octets → Octets → Prop)
    (kind : UInt16) : Octets → Octets → Prop
  | same (payload : Octets) : Altered table inside kind payload payload
  | unknown {old new : Octets} (unknown : table.rules.length ≤ kind.toNat) :
      Altered table inside kind old new
  | within {old new : Octets} (changes : inside kind old new) : Altered table inside kind old new

/-- Whatever may change inside, an attribute may also stay as it is. -/
instance {kind : UInt16} : Std.Refl (Altered table inside kind) :=
  ⟨.same⟩

/-- Attributes that differ in the marks of the type, in the padding, and inside of the payload. -/
structure LaidAttribute.Differs (table : AttributeTable)
    (inside : UInt16 → Octets → Octets → Prop) (old new : LaidAttribute) : Prop where
  kind_eq : new.kind = old.kind
  altered : Altered table inside old.kind old.payload new.payload

/-- A stream is revised: attributes of kinds that the table does not know are inserted, and others
are exchanged for such that differ from them in nothing that counts. -/
inductive Revises (table : AttributeTable) (inside : UInt16 → Octets → Octets → Prop) :
    Octets → Octets → Prop
  /-- From here on nothing is changed. -/
  | rest (stream : Octets) : Revises table inside stream stream
  | insert {added : LaidAttribute} (unknown : table.rules.length ≤ added.kind.toNat)
      (complete : added.IsComplete) {stream revised : Octets}
      (later : Revises table inside stream revised) :
      Revises table inside stream (added.toOctets ++ revised)
  | exchange {old new : LaidAttribute} (differs : old.Differs table inside new)
      (oldComplete : old.IsComplete) (newComplete : new.IsComplete) {stream revised : Octets}
      (later : Revises table inside stream revised) :
      Revises table inside (old.toOctets ++ stream) (new.toOctets ++ revised)
  /-- The padding of the last attribute may be cut. -/
  | last {old new : LaidAttribute} (differs : old.Differs table inside new) :
      Revises table inside old.toOctets new.toOctets

namespace Revises

variable {stream revised : Octets}

/-- The strict walk does not tell a revised stream from the one before. -/
theorem checkStream_eq (revises : Revises table inside stream revised) :
    checkStream revised = checkStream stream := by
  induction revises with
  | rest stream => rfl
  | insert unknown complete later ih =>
      rw [checkStream_of_item (LaidAttribute.front_toOctets_append (Or.inl complete)), ih]
  | exchange differs oldComplete newComplete later ih =>
      rw [checkStream_of_item (LaidAttribute.front_toOctets_append (Or.inl oldComplete)),
        checkStream_of_item (LaidAttribute.front_toOctets_append (Or.inl newComplete)), ih]
  | last differs =>
      rw [checkStream_of_item (LaidAttribute.front_toOctets _),
        checkStream_of_item (LaidAttribute.front_toOctets _)]

/-- The payloads of a kind that the table knows are as many as before, in the same order. -/
theorem payloads_revised (revises : Revises table inside stream revised) {kind : UInt16}
    (known : kind.toNat < table.rules.length) :
    List.Forall₂ (Altered table inside kind) (AttributeTable.payloads kind (walk stream))
      (AttributeTable.payloads kind (walk revised)) := by
  -- An attribute and the one that it is exchanged for are of the kind or are both not.
  have exchanged {old new : LaidAttribute} (differs : old.Differs table inside new)
      {before after : List Attribute}
      (later : List.Forall₂ (Altered table inside kind) (AttributeTable.payloads kind before)
        (AttributeTable.payloads kind after)) :
      List.Forall₂ (Altered table inside kind)
        (AttributeTable.payloads kind (⟨old.kind, old.payload⟩ :: before))
        (AttributeTable.payloads kind (⟨new.kind, new.payload⟩ :: after)) := by
    rw [differs.kind_eq]
    by_cases ofKind : old.kind = kind
    · subst ofKind
      simpa [AttributeTable.payloads] using And.intro differs.altered later
    · simpa [AttributeTable.payloads, ofKind] using later
  induction revises with
  | rest stream => exact List.forall₂_refl _
  | @insert added unknown complete stream revised later ih =>
      have otherKind : added.kind ≠ kind := by
        rintro rfl
        omega
      rw [LaidAttribute.walk_toOctets_append complete]
      simpa [AttributeTable.payloads, otherKind] using ih
  | exchange differs oldComplete newComplete later ih =>
      rw [LaidAttribute.walk_toOctets_append oldComplete,
        LaidAttribute.walk_toOctets_append newComplete]
      exact exchanged differs ih
  | last differs =>
      rw [LaidAttribute.walk_toOctets, LaidAttribute.walk_toOctets]
      exact exchanged differs (List.forall₂_refl _)

/-- Changes can be made at each place of a stream: in front of each attribute that is found, and
behind the last one if the stream ends on a multiple of four. -/
theorem exists_place {stream : Octets} {before later : List Attribute}
    (found : walk stream = before ++ later) (ends : later ≠ [] ∨ stream.length % 4 = 0) :
    ∃ front back, stream = front ++ back ∧ walk back = later ∧
      ∀ {revised}, Revises table inside back revised →
        Revises table inside stream (front ++ revised) := by
  induction before generalizing stream with
  | nil => exact ⟨[], stream, rfl, found, id⟩
  | cons head before ih =>
      rcases read : front stream with _ | ⟨kind, fault⟩ | ⟨first, rest⟩
      · rw [walk_of_not_item (by simp [read])] at found
        cases found
      · rw [walk_of_not_item (by simp [read])] at found
        cases found
      · rw [walk_of_item read, List.cons_append, List.cons.injEq] at found
        have foundBehind := found.2
        rcases LaidAttribute.exists_of_front read with ⟨laid, rfl, _, _, complete⟩
        rw [List.length_append] at ends
        -- Only the end of the stream can have cut the padding.
        have isComplete : laid.IsComplete := by
          rcases complete with isComplete | rfl
          · exact isComplete
          · rw [Spells.nil.walk_eq, eq_comm, List.append_eq_nil_iff] at foundBehind
            rcases ends with more | aligned
            · exact absurd foundBehind.2 more
            · exact LaidAttribute.isComplete_of_mod_four aligned
        have endsBehind : later ≠ [] ∨ rest.length % 4 = 0 := by
          rcases ends with more | aligned
          · exact .inl more
          · have alignedBefore := isComplete.mod_four
            right
            omega
        rcases ih foundBehind endsBehind with ⟨front, back, rfl, isLater, revises⟩
        refine ⟨laid.toOctets ++ front, back, (List.append_assoc _ _ _).symm, isLater, ?_⟩
        intro revised later
        rw [List.append_assoc]
        exact .exchange ⟨rfl, .same _⟩ isComplete isComplete (revises later)

end Revises

/-! ## Reading a revised stream -/

/-- The table goes on to allow what has changed inside. -/
def AllowsInside (table : AttributeTable) (inside : UInt16 → Octets → Octets → Prop) : Prop :=
  ∀ ⦃kind rule old new⦄, table.rules[kind.toNat]? = some rule → inside kind old new →
    rule.Allows old → rule.Allows new

/-- An attribute that the table knows is as it was, or changed inside. -/
theorem Altered.eq_or_inside {kind : UInt16} {old new : Octets}
    (altered : Altered table inside kind old new) (known : kind.toNat < table.rules.length) :
    old = new ∨ inside kind old new := by
  cases altered with
  | same => exact .inl rfl
  | unknown unknown => exact absurd known (Nat.not_lt.mpr unknown)
  | within changes => exact .inr changes

/-- A rule that allows an attribute allows what became of it. -/
theorem Altered.allows {kind : UInt16} {rule : Rule} {old new : Octets}
    (altered : Altered table inside kind old new) (goesOn : AllowsInside table inside)
    (known : table.rules[kind.toNat]? = some rule) (allows : rule.Allows old) :
    rule.Allows new := by
  rcases altered.eq_or_inside (List.getElem?_eq_some_iff.mp known).1 with rfl | changes
  · exact allows
  · exact goesOn known changes allows

/-- A container whose stream is revised is still well formed. -/
theorem Revises.allows_nested {old new : Octets} (revises : Revises table inside old new)
    (allows : Rule.Allows { kind := .nested } old) : Rule.Allows { kind := .nested } new := by
  apply Rule.allows_nested
  rw [revises.checkStream_eq]
  exact allows.wellFormed rfl

/-- A table that allows every attribute allows those of the revised stream. -/
theorem Revises.allowed {stream revised : Octets} (revises : Revises table inside stream revised)
    (goesOn : AllowsInside table inside) (allowed : ∀ head ∈ walk stream, table.Allows head) :
    ∀ head ∈ walk revised, table.Allows head := by
  have exchanged {old new : LaidAttribute} (differs : old.Differs table inside new)
      (allows : table.Allows ⟨old.kind, old.payload⟩) :
      table.Allows ⟨new.kind, new.payload⟩ := by
    intro rule known
    dsimp only at known
    rw [differs.kind_eq] at known
    exact differs.altered.allows goesOn known (allows rule known)
  induction revises with
  | rest stream => exact allowed
  | insert unknown complete later ih =>
      rw [LaidAttribute.walk_toOctets_append complete, List.forall_mem_cons]
      refine ⟨?_, ih allowed⟩
      intro rule known
      exact absurd (List.getElem?_eq_some_iff.mp known).1 (Nat.not_lt.mpr unknown)
  | exchange differs oldComplete newComplete later ih =>
      rw [LaidAttribute.walk_toOctets_append oldComplete, List.forall_mem_cons] at allowed
      rw [LaidAttribute.walk_toOctets_append newComplete, List.forall_mem_cons]
      exact ⟨exchanged differs allowed.1, ih allowed.2⟩
  | last differs =>
      rw [LaidAttribute.walk_toOctets, List.forall_mem_singleton] at allowed ⊢
      exact exchanged differs allowed

/-- What was decoded is there again, up to what has changed inside. -/
structure DecodedStream.Recurs (table : AttributeTable)
    (inside : UInt16 → Octets → Octets → Prop) (before after : DecodedStream) : Prop where
  all : ∀ {kind : UInt16}, kind.toNat < table.rules.length →
    List.Forall₂ (Altered table inside kind) (before.all kind) (after.all kind)
  get? : ∀ {kind : UInt16}, kind.toNat < table.rules.length →
    Option.Rel (Altered table inside kind) (before.get? kind) (after.get? kind)

theorem rel_head?_of_forall₂ {related : Octets → Octets → Prop} {olds news : List Octets}
    (all : List.Forall₂ related olds news) : Option.Rel related olds.head? news.head? := by
  cases all with
  | nil => exact .none
  | cons first later => exact .some first

/-- A revised stream is decoded if the stream was. -/
theorem Revises.exists_decode {stream revised : Octets} {decoded : DecodedStream}
    (revises : Revises table inside stream revised) (goesOn : AllowsInside table inside)
    (isOk : table.decode stream = .ok decoded) :
    ∃ after, table.decode revised = .ok after ∧ DecodedStream.Recurs table inside decoded after := by
  have accepted : checkStream revised = .ok () := by
    rw [revises.checkStream_eq]
    exact AttributeTable.checkStream_of_decode isOk
  have allowed := revises.allowed goesOn (AttributeTable.decode_eq_ok isOk).1
  rcases AttributeTable.decode_isOk_iff.mpr ⟨accepted, allowed⟩ with ⟨after, isAfter⟩
  have all {kind : UInt16} (known : kind.toNat < table.rules.length) :
      List.Forall₂ (Altered table inside kind) (decoded.all kind) (after.all kind) := by
    rw [(AttributeTable.decode_eq_ok isOk).2, (AttributeTable.decode_eq_ok isAfter).2]
    exact revises.payloads_revised known
  refine ⟨after, isAfter, all, ?_⟩
  intro kind known
  rw [AttributeTable.get?_eq_head? isOk known, AttributeTable.get?_eq_head? isAfter known]
  exact rel_head?_of_forall₂ (all known)

theorem bind_eq_ok_of_imp {α β : Type} {first second : Except Error α}
    {next again : α → Except Error β} {value : β}
    (firstKept : ∀ {found}, first = .ok found → second = .ok found)
    (nextKept : ∀ {found}, next found = .ok value → again found = .ok value)
    (isOk : first >>= next = .ok value) : second >>= again = .ok value := by
  rcases first with error | found
  · cases isOk
  · rw [firstKept rfl]
    exact nextKept isOk

/-- What is read from the decoded stream is read again from the revised one. -/
theorem Revises.bind_decode {α : Type} {read : DecodedStream → Except Error α}
    {stream revised : Octets} {value : α} (revises : Revises table inside stream revised)
    (goesOn : AllowsInside table inside)
    (readAgain : ∀ {before after}, DecodedStream.Recurs table inside before after →
      read before = .ok value → read after = .ok value)
    (isOk : table.decode stream >>= read = .ok value) :
    table.decode revised >>= read = .ok value := by
  rcases decodes : table.decode stream with error | before
  · rw [decodes] at isOk
    cases isOk
  · rcases revises.exists_decode goesOn decodes with ⟨after, isAfter, recurs⟩
    rw [decodes] at isOk
    rw [isAfter]
    exact readAgain recurs isOk

/-- A reader reads the same after changes of certain kinds. -/
def Overlooks {α : Type} (read : Octets → Except Error α) (changes : Octets → Octets → Prop) :
    Prop :=
  ∀ ⦃old new value⦄, changes old new → read old = .ok value → read new = .ok value

theorem Altered.read {α : Type} {read : Octets → Except Error α} {kind : UInt16}
    {old new : Octets} {value : α} (altered : Altered table inside kind old new)
    (known : kind.toNat < table.rules.length) (overlooks : Overlooks read (inside kind))
    (isOk : read old = .ok value) : read new = .ok value := by
  rcases altered.eq_or_inside known with rfl | changes
  · exact isOk
  · exact overlooks changes isOk

namespace DecodedStream.Recurs

variable {before after : DecodedStream} {kind : UInt16}

/-- Payloads that are all read are read again after the revision. -/
theorem mapM_all {α : Type} {read : Octets → Except Error α} {values : List α}
    (recurs : Recurs table inside before after) (known : kind.toNat < table.rules.length)
    (overlooks : Overlooks read (inside kind))
    (isOk : (before.all kind).mapM read = .ok values) :
    (after.all kind).mapM read = .ok values := by
  have all := recurs.all known
  generalize before.all kind = olds at all isOk
  generalize after.all kind = news at all
  induction all generalizing values with
  | nil => exact isOk
  | @cons old new olds news altered later ih =>
      rcases first : read old with error | value
      · simp [first] at isOk
        cases isOk
      · rcases rest : olds.mapM read with error | behind
        · simp [first, rest] at isOk
          cases isOk
        · rw [List.mapM_cons, altered.read known overlooks first, ih rest]
          rwa [List.mapM_cons, first, rest] at isOk

/-- A payload inside of which nothing may change is the same. -/
theorem get?_eq (recurs : Recurs table inside before after)
    (known : kind.toNat < table.rules.length) (nothing : ∀ old new, ¬inside kind old new) :
    after.get? kind = before.get? kind := by
  have found := recurs.get? known
  generalize before.get? kind = old? at found ⊢
  generalize after.get? kind = new? at found ⊢
  cases found with
  | none => rfl
  | some altered =>
      rcases altered.eq_or_inside known with rfl | changes
      · rfl
      · exact absurd changes (nothing _ _)

/-- What is read of the first container of a kind, if the stream in it is revised. -/
theorem bind_nested {α : Type} {inner : AttributeTable}
    {deeper : UInt16 → Octets → Octets → Prop} {read : Option DecodedStream → Except Error α}
    {value : α} (recurs : Recurs table inside before after)
    (known : kind.toNat < table.rules.length)
    (within : ∀ {old new}, inside kind old new → Revises inner deeper old new)
    (goesOn : AllowsInside inner deeper)
    (readAgain : ∀ {before? after?}, Option.Rel (Recurs inner deeper) before? after? →
      read before? = .ok value → read after? = .ok value)
    (isOk : before.nested kind inner >>= read = .ok value) :
    after.nested kind inner >>= read = .ok value := by
  have found := recurs.get? known
  unfold DecodedStream.nested at isOk ⊢
  generalize before.get? kind = old? at found isOk
  generalize after.get? kind = new? at found ⊢
  cases found with
  | none => exact isOk
  | @some old new altered =>
      have revises : Revises inner deeper old new := by
        rcases altered.eq_or_inside known with rfl | changes
        · exact .rest old
        · exact within changes
      rcases decodes : inner.decode old with error | decoded
      · simp only [decodes] at isOk
        cases isOk
      · rcases revises.exists_decode goesOn decodes with ⟨again, isAgain, recursInside⟩
        simp only [decodes] at isOk
        simp only [isAgain]
        exact readAgain (.some recursInside) isOk

end DecodedStream.Recurs

end BridgeView
