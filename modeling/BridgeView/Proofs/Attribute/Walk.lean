import BridgeView.Proofs.Attribute.Front

/-!
# Walks over a stream

The lenient walk stops silently where the strict one fails. Both read a stream header by header, so
the strict walk accepts a stream if and only if the lenient one goes on until fewer octets are left
than a header takes, and its error names the header at which the lenient walk stopped.

A stream that was written attribute by attribute is walked to its end, whatever was written before
or after it.
-/

namespace BridgeView.Attribute

/-- The lenient walk stops where no attribute can be read. -/
theorem front_leftover_ne_item (stream : Octets) (head : Attribute) (rest : Octets) :
    front (leftover stream) ≠ .item head rest := by
  induction stream using leftover.induct with
  | case1 stream first later taken ih =>
      rw [leftover_of_item (next?_eq_some_iff.mp taken)]
      exact ih
  | case2 stream ends =>
      have stops := next?_eq_none_iff.mp ends
      rw [leftover_of_not_item stops]
      exact stops head rest

/-- The strict walk reports what stands where the lenient walk stops. -/
theorem checkStream_leftover (stream : Octets) :
    checkStream (leftover stream) = checkStream stream := by
  induction stream using leftover.induct with
  | case1 stream first later taken ih =>
      have read := next?_eq_some_iff.mp taken
      rw [leftover_of_item read, ih, checkStream_of_item read]
  | case2 stream ends => rw [leftover_of_not_item (next?_eq_none_iff.mp ends)]

/-- The strict walk refuses a stream for the broken header at which the lenient walk stops. -/
theorem checkStream_eq_error_iff {stream : Octets} {error : Error} :
    checkStream stream = .error error ↔
      ∃ kind fault, front (leftover stream) = .broken kind fault ∧
        error = .malformedAttribute kind fault := by
  rw [← checkStream_leftover]
  constructor
  · intro refused
    rcases atEnd : front (leftover stream) with _ | ⟨kind, fault⟩ | ⟨head, rest⟩
    · rw [checkStream_of_finished atEnd] at refused
      cases refused
    · rw [checkStream_of_broken atEnd] at refused
      cases refused
      exact ⟨kind, fault, rfl, rfl⟩
    · exact absurd atEnd (front_leftover_ne_item stream head rest)
  · rintro ⟨kind, fault, broken, rfl⟩
    exact checkStream_of_broken broken

/-! ## Lengths -/

/-- A length takes two octets of a header, and header and payload are part of the stream. -/
theorem length_payload_of_front {stream rest : Octets} {head : Attribute}
    (read : front stream = .item head rest) :
    attributeHeaderSize + head.payload.length < 65536 ∧
      attributeHeaderSize + head.payload.length + rest.length ≤ stream.length := by
  unfold front at read
  split at read
  · rename_i length0 length1 type0 type1 later
    dsimp only at read
    split at read
    · cases read
    · split at read
      · cases read
      · rename_i enough _ payload behind cut
        simp only [Front.item.injEq] at read
        rcases read with ⟨rfl, rfl⟩
        rw [Octets.split?_eq_some_iff] at cut
        rcases cut with ⟨rfl, size⟩
        have bound := (Octets.word16 length0 length1).toNat_lt
        have above := Octets.le_alignUp (Octets.word16 length0 length1).toNat
        simp only [attributeHeaderSize, List.length_cons, List.length_append,
          List.length_drop] at *
        omega
  · cases read

/-- The length of an attribute that is found fits sixteen bits. -/
theorem length_payload_of_mem_walk {stream : Octets} {head : Attribute}
    (found : head ∈ walk stream) : attributeHeaderSize + head.payload.length < 65536 := by
  induction stream using walk.induct with
  | case1 stream first later taken ih =>
      have read := next?_eq_some_iff.mp taken
      rw [walk_of_item read, List.mem_cons] at found
      rcases found with rfl | behind
      · exact (length_payload_of_front read).1
      · exact ih behind
  | case2 stream ends =>
      rw [walk_of_not_item (next?_eq_none_iff.mp ends)] at found
      cases found

/-- Attributes of a least size are as few as the length of the stream allows. -/
theorem length_walk_le {stream : Octets} {size : Nat}
    (least : ∀ head ∈ walk stream, size ≤ head.payload.length) :
    (walk stream).length * (attributeHeaderSize + size) ≤ stream.length := by
  induction stream using walk.induct with
  | case1 stream first later taken ih =>
      have read := next?_eq_some_iff.mp taken
      have here := (length_payload_of_front read).2
      rw [walk_of_item read, List.forall_mem_cons] at least
      have behind := ih least.2
      rw [walk_of_item read, List.length_cons, Nat.succ_mul]
      omega
  | case2 stream ends => simp [walk_of_not_item (next?_eq_none_iff.mp ends)]

/-! ## Streams that were written -/

/-- A stream of the given attributes, and of nothing else. -/
structure Spells (stream : Octets) (attributes : List Attribute) : Prop where
  walk_eq : walk stream = attributes
  nothingLeft : leftover stream = []
  accepted : checkStream stream = .ok ()

theorem Spells.nil : Spells [] [] := by
  have stops : ∀ head rest, front [] ≠ .item head rest := by
    intro head rest read
    cases read
  exact ⟨walk_of_not_item stops, leftover_of_not_item stops, checkStream_of_finished rfl⟩

theorem Spells.of_item {stream rest : Octets} {head : Attribute} {later : List Attribute}
    (read : front stream = .item head rest) (spells : Spells rest later) :
    Spells stream (head :: later) := by
  refine ⟨?_, ?_, ?_⟩
  · rw [walk_of_item read, spells.walk_eq]
  · rw [leftover_of_item read, spells.nothingLeft]
  · rw [checkStream_of_item read, spells.accepted]

theorem Spells.encode_append {type : UInt16} {payload rest : Octets} {later : List Attribute}
    (fits : attributeHeaderSize + payload.length < 65536) (spells : Spells rest later) :
    Spells (encode type payload ++ rest) (⟨type &&& kindMask, payload⟩ :: later) :=
  spells.of_item (front_encode_append rest fits)

/-- Attributes of fitting length spell themselves, one behind the other. -/
theorem spells_flatMap {α : Type} {type kind : α → UInt16} {payload : α → Octets} {items : List α}
    (isKind : ∀ item ∈ items, type item &&& kindMask = kind item)
    (fits : ∀ item ∈ items, attributeHeaderSize + (payload item).length < 65536) :
    Spells (items.flatMap fun item => encode (type item) (payload item))
      (items.map fun item => ⟨kind item, payload item⟩) := by
  induction items with
  | nil => exact .nil
  | cons item later ih =>
      rw [List.forall_mem_cons] at isKind fits
      rw [List.map_cons, ← isKind.1]
      exact (ih isKind.2 fits.2).encode_append fits.1

theorem spells_attributes {type : Attribute → UInt16} {attributes : List Attribute}
    (isKind : ∀ head ∈ attributes, type head &&& kindMask = head.kind)
    (fits : ∀ head ∈ attributes, attributeHeaderSize + head.payload.length < 65536) :
    Spells (attributes.flatMap fun head => encode (type head) head.payload) attributes := by
  have spells := spells_flatMap isKind fits
  rwa [List.map_id'] at spells

end BridgeView.Attribute
