import BridgeView.Proofs.Attribute.Writing

/-!
# Trees of attributes

A container is an attribute whose payload is again a stream, so what a message says can be a forest
of any depth. A forest is written leaf by leaf, with a container opened before its parts and closed
behind them. Reading the message with the lenient walk finds the forest again, level by level: each
stream, that of the message and that of every container, spells the attributes that were written
into it, and leaves nothing over (`ReadsBack`). The header states the length of the message if and
only if thirty-two bits are enough for it, which no bound on the single attributes ensures
(`not_states_longForest`).

A stream does not say which attributes are containers. Whoever reads it knows that from the kinds;
here it is given by a `Shape`.
-/

namespace BridgeView

open Attribute

/-- An attribute with its payload, or with the attributes that it contains. -/
inductive AttributeTree where
  | leaf (kind : UInt16) (payload : Octets)
  | container (kind : UInt16) (parts : List AttributeTree)

namespace AttributeTree

/-! ## Writing -/

mutual

/-- Appends a tree to a draft, every container opened before its parts and closed behind them. -/
def write : AttributeTree → Draft → Draft
  | leaf kind payload, draft => draft.appendAttribute kind payload
  | container kind parts, draft => draft.nest kind (writeAll parts)

/-- Appends trees to a draft, one behind the other. -/
def writeAll : List AttributeTree → Draft → Draft
  | [], draft => draft
  | tree :: later, draft => writeAll later (tree.write draft)

end

mutual

/-- The octets of a tree, padding included. -/
def encode : AttributeTree → Octets
  | leaf kind payload => Attribute.encode kind payload
  | container kind parts => Attribute.encode (kind ||| nestedMark) (encodeAll parts)

/-- The octets of a forest. -/
def encodeAll : List AttributeTree → Octets
  | [] => []
  | tree :: later => tree.encode ++ encodeAll later

end

mutual

theorem appends_write : ∀ tree : AttributeTree, Draft.Appends tree.write tree.encode
  | leaf kind payload => .appendAttribute kind payload
  | container kind parts => (appends_writeAll parts).nest kind

theorem appends_writeAll : ∀ forest : List AttributeTree,
    Draft.Appends (writeAll forest) (encodeAll forest)
  | [] => .nothing
  | tree :: later => (appends_write tree).comp (appends_writeAll later)

end

/-! ## Reading -/

/-- The attribute as one walk finds it, with what it contains still to be read. -/
def toAttribute : AttributeTree → Attribute
  | leaf kind payload => ⟨kind, payload⟩
  | container kind parts => ⟨kind, encodeAll parts⟩

/-- The kind has no marks and the length fits the header, for the attribute and for all that it
contains. -/
inductive Encodable : AttributeTree → Prop where
  | leaf {kind : UInt16} {payload : Octets} (isKind : kind ≤ kindMask)
      (fits : attributeHeaderSize + payload.length ≤ 65535) : Encodable (leaf kind payload)
  | container {kind : UInt16} {parts : List AttributeTree} (isKind : kind ≤ kindMask)
      (fits : attributeHeaderSize + (encodeAll parts).length ≤ 65535)
      (encodable : ∀ part ∈ parts, Encodable part) : Encodable (container kind parts)

/-- An attribute occurs in a forest, at any depth. -/
inductive Within (tree : AttributeTree) : List AttributeTree → Prop where
  | here {forest : List AttributeTree} (isTree : tree ∈ forest) : Within tree forest
  | inside {forest parts : List AttributeTree} {kind : UInt16}
      (isContainer : container kind parts ∈ forest) (within : Within tree parts) :
      Within tree forest

/-- Which attributes of a tree are containers. -/
inductive Shape where
  | leaf
  | container (parts : List Shape)

mutual

/-- The shape of a tree. -/
def shape : AttributeTree → Shape
  | leaf _ _ => .leaf
  | container _ parts => .container (shapes parts)

/-- The shapes of a forest. -/
def shapes : List AttributeTree → List Shape
  | [] => []
  | tree :: later => tree.shape :: shapes later

end

mutual

/-- The tree of an attribute, where every container is walked in its turn. -/
def read? : Shape → Attribute → Option AttributeTree
  | .leaf, head => some (leaf head.kind head.payload)
  | .container parts, head => (readAll? parts (walk head.payload)).map (container head.kind)

/-- The trees of attributes, if there are as many as there are shapes. -/
def readAll? : List Shape → List Attribute → Option (List AttributeTree)
  | [], [] => some []
  | part :: parts, head :: later => do
      let tree ← read? part head
      let trees ← readAll? parts later
      return tree :: trees
  | _, _ => none

end

variable {tree : AttributeTree} {forest : List AttributeTree}

/-- An encodable tree is one attribute of the stream that it is written into. -/
theorem Encodable.encode_spells {rest : Octets} {later : List Attribute}
    (encodable : tree.Encodable) (spells : Spells rest later) :
    Spells (tree.encode ++ rest) (tree.toAttribute :: later) := by
  cases encodable with
  | @leaf kind payload isKind fits =>
      have spelled : Spells (Attribute.encode kind payload ++ rest)
          (⟨kind &&& kindMask, payload⟩ :: later) :=
        spells.encode_append (Nat.lt_succ_of_le fits)
      rwa [and_kindMask_of_le isKind] at spelled
  | @container kind parts isKind fits _ =>
      have spelled : Spells (Attribute.encode (kind ||| nestedMark) (encodeAll parts) ++ rest)
          (⟨(kind ||| nestedMark) &&& kindMask, encodeAll parts⟩ :: later) :=
        spells.encode_append (Nat.lt_succ_of_le fits)
      rwa [or_nestedMark_and_kindMask, and_kindMask_of_le isKind] at spelled

/-- The octets of encodable trees spell their attributes. -/
theorem spells_encodeAll (encodable : ∀ tree ∈ forest, tree.Encodable) :
    Spells (encodeAll forest) (forest.map toAttribute) := by
  induction forest with
  | nil => exact .nil
  | cons tree later ih =>
      rw [List.forall_mem_cons] at encodable
      exact encodable.1.encode_spells (ih encodable.2)

theorem Within.encodable_parts {kind : UInt16} {parts : List AttributeTree}
    (within : Within (container kind parts) forest)
    (encodable : ∀ tree ∈ forest, tree.Encodable) : ∀ part ∈ parts, part.Encodable := by
  induction within with
  | here isTree =>
      cases encodable _ isTree with
      | container _ _ encodableParts => exact encodableParts
  | inside isContainer _ ih =>
      cases encodable _ isContainer with
      | container _ _ encodableParts => exact ih encodableParts

mutual

/-- Walking what a container holds, and the containers in it, gives back the tree. -/
theorem read?_shape : ∀ {tree : AttributeTree}, tree.Encodable →
    read? tree.shape tree.toAttribute = some tree
  | leaf _ _, _ => rfl
  | container kind parts, .container _ _ encodableParts => by
      have inside := readAll?_shapes encodableParts
      rw [shape, toAttribute, read?, (spells_encodeAll encodableParts).walk_eq, inside]
      rfl

theorem readAll?_shapes : ∀ {forest : List AttributeTree}, (∀ tree ∈ forest, tree.Encodable) →
    readAll? (shapes forest) (forest.map toAttribute) = some forest
  | [], _ => rfl
  | tree :: later, encodable => by
      rw [List.forall_mem_cons] at encodable
      have first := read?_shape encodable.1
      have others := readAll?_shapes encodable.2
      simp [shapes, readAll?, first, others]

end

/-- A message is read back as a forest. -/
structure ReadsBack (message : Octets) (forest : List AttributeTree) : Prop where
  /-- The walk over the message finds the outermost attributes, and nothing else. -/
  spells : Spells (message.drop messageHeaderSize) (forest.map toAttribute)
  /-- The walk over any container finds the attributes in it, and nothing else. -/
  insideSpells : ∀ kind parts, Within (container kind parts) forest →
    Spells (container kind parts).toAttribute.payload (parts.map toAttribute)
  /-- Walking into all containers gives the forest. -/
  readAll_eq : readAll? (shapes forest) (walk (message.drop messageHeaderSize)) = some forest
  /-- The header states the length, as far as its thirty-two bits go: the length itself if and only
  if it has no more. -/
  states : ∃ header, MessageHeader.take? message = some (header, message.drop messageHeaderSize) ∧
    header.length = UInt32.ofNat message.length ∧
      (header.length.toNat = message.length ↔ message.length < UInt32.size)

theorem length_finish_writeAll (header : MessageHeader) (forest : List AttributeTree) :
    (writeAll forest { header }).finish.length
      = messageHeaderSize + (encodeAll forest).length := by
  rw [(appends_writeAll forest).finish_eq header, List.length_append,
    MessageHeader.length_toOctets]
  rfl

/-- A forest that is written into an empty draft is read back. -/
theorem finish_readsBack (header : MessageHeader) (forest : List AttributeTree)
    (encodable : ∀ tree ∈ forest, tree.Encodable) :
    ReadsBack (writeAll forest { header }).finish forest := by
  have finished := (appends_writeAll forest).finish_eq header
  have length := length_finish_writeAll header forest
  have body : (writeAll forest { header }).finish.drop messageHeaderSize = encodeAll forest :=
    (appends_writeAll forest).drop_finish header
  have spells := spells_encodeAll encodable
  refine ⟨?_, ?_, ?_, ?_⟩
  · rw [body]
    exact spells
  · intro kind parts within
    exact spells_encodeAll (within.encodable_parts encodable)
  · rw [body, spells.walk_eq]
    exact readAll?_shapes encodable
  · refine ⟨{ header with length := UInt32.ofNat (messageHeaderSize + (encodeAll forest).length) },
      ?_, ?_, ?_⟩
    · rw [body, finished]
      exact MessageHeader.take?_toOctets_append _ _
    · rw [length]
    · rw [length]
      constructor
      · intro stated
        exact stated ▸ UInt32.toNat_lt_size _
      · intro fits
        exact UInt32.toNat_ofNat_of_lt' fits

/-- A leaf that needs padding, and a container of a leaf, a container and an empty container. -/
def nestedForest : List AttributeTree :=
  [leaf 3 [1],
    container 1 [leaf 1 [0, 0, 10, 0], container 4 [leaf 2 [7, 7, 7]], container 5 []]]

/-- The nested forest is read back. -/
theorem finish_readsBack_nestedForest :
    (∀ tree ∈ nestedForest, tree.Encodable) ∧
      ReadsBack (writeAll nestedForest { header := .ofType MessageType.newVlan 0 }).finish
        nestedForest := by
  have innermost : (leaf 2 [7, 7, 7]).Encodable := .leaf (by decide) (by decide)
  have inside : ∀ part ∈ [leaf 1 [0, 0, 10, 0], container 4 [leaf 2 [7, 7, 7]], container 5 []],
      part.Encodable := by
    simp only [List.mem_cons, List.not_mem_nil, or_false, forall_eq_or_imp, forall_eq]
    refine ⟨.leaf (by decide) (by decide), .container (by decide) (by decide) ?_,
      .container (by decide) (by decide) (by simp)⟩
    simpa using innermost
  have encodable : ∀ tree ∈ nestedForest, tree.Encodable := by
    simp only [nestedForest, List.mem_cons, List.not_mem_nil, or_false, forall_eq_or_imp,
      forall_eq]
    exact ⟨.leaf (by decide) (by decide), .container (by decide) (by decide) inside⟩
  exact ⟨encodable, finish_readsBack _ nestedForest encodable⟩

theorem length_encodeAll_replicate (count : Nat) (tree : AttributeTree) :
    (encodeAll (List.replicate count tree)).length = count * tree.encode.length := by
  induction count with
  | zero => simp [encodeAll]
  | succ count ih =>
      rw [List.replicate_succ, encodeAll, List.length_append, ih, Nat.succ_mul, Nat.add_comm]

/-- As many attributes of the greatest length as it takes for thirty-two bits of octets. -/
def longForest : List AttributeTree :=
  List.replicate 65536 (leaf 1 (List.replicate 65531 0))

/-- Each of these attributes fits its header, but their message does not: the header states the
sixteen octets that it takes itself. -/
theorem not_states_longForest :
    (∀ tree ∈ longForest, tree.Encodable) ∧
      let message := (writeAll longForest { header := .ofType MessageType.newVlan 0 }).finish
      message.length = 4294967312 ∧
        ∃ header, MessageHeader.take? message = some (header, message.drop messageHeaderSize) ∧
          header.length = 16 ∧ header.length.toNat ≠ message.length := by
  have encodable : ∀ tree ∈ longForest, tree.Encodable := by
    intro tree isTree
    rw [List.eq_of_mem_replicate isTree]
    exact .leaf (by decide) (by rw [List.length_replicate]; decide)
  have length (header : MessageHeader) :
      (writeAll longForest { header }).finish.length = 4294967312 := by
    rw [length_finish_writeAll, longForest, length_encodeAll_replicate, encode, length_encode,
      List.length_replicate]
    rfl
  refine ⟨encodable, length _, ?_⟩
  rcases (finish_readsBack (.ofType MessageType.newVlan 0) longForest encodable).states with
    ⟨header, taken, wraps, _⟩
  rw [length] at wraps
  refine ⟨header, taken, wraps, ?_⟩
  rw [length, wraps]
  decide

end AttributeTree

end BridgeView
