import BridgeView.Message

/-!
# The front of a datagram

Where a datagram starts at a multiple of four, each step of reading it finds one of three cases at
its front (`front`), and the items of the datagram are described by these cases alone
(`ofDatagram_of_finished`, `ofDatagram_of_broken`, `ofDatagram_of_item`); at which multiple of four
it starts does not matter (`items_eq_ofDatagram`).
-/

namespace BridgeView.Message

/-- What stands at the front of a datagram. -/
inductive Front where
  /-- Too few octets for a further header. -/
  | finished
  /-- A header whose length cannot be right. -/
  | broken (length : Nat)
  /-- A message, and the datagram after its padding. -/
  | item (head : Message) (rest : Octets)
deriving DecidableEq, Repr, Inhabited

/-- The case a datagram is in. -/
def front (datagram : Octets) : Front :=
  match MessageHeader.take? datagram with
  | none => .finished
  | some (header, rest) =>
    let length := header.length.toNat
    if length < messageHeaderSize then .broken length
    else
      match Octets.split? (length - messageHeaderSize) rest with
      | none => .broken length
      | some (payload, _) =>
        .item ⟨header, payload⟩ (rest.drop (Octets.alignUp length - messageHeaderSize))

/-! ## The cases by the lengths that reading compares -/

theorem front_eq_finished_iff {datagram : Octets} :
    front datagram = .finished ↔ datagram.length < messageHeaderSize := by
  rw [← Nat.not_le]
  constructor
  · intro finished enough
    rcases MessageHeader.exists_take? enough with ⟨header, rest, taken⟩
    simp only [front, taken] at finished
    split at finished
    · cases finished
    · split at finished <;> cases finished
  · intro few
    rcases taken : MessageHeader.take? datagram with _ | ⟨header, rest⟩
    · simp only [front, taken]
    · have size := MessageHeader.length_of_take? taken
      simp only [messageHeaderSize] at few
      omega

/-- The cases by what the header states and how long the datagram is. -/
theorem front_of_header {datagram : Octets} {header : MessageHeader}
    (read : MessageHeader.ofOctets datagram = .ok header) :
    front datagram =
      if header.length.toNat < messageHeaderSize ∨ datagram.length < header.length.toNat then
        .broken header.length.toNat
      else
        .item ⟨header, datagram.extract messageHeaderSize header.length.toNat⟩
          (datagram.drop (Octets.alignUp header.length.toNat)) := by
  unfold MessageHeader.ofOctets at read
  split at read
  · rename_i rest taken
    cases read
    have size := MessageHeader.length_of_take? taken
    have above := Octets.le_alignUp header.length.toNat
    have sixteen : messageHeaderSize = 16 := rfl
    have behindHeader : datagram.drop messageHeaderSize = rest := by
      rw [MessageHeader.toOctets_append_of_take? taken]
      exact List.drop_left' header.length_toOctets
    simp only [front, taken]
    by_cases short : header.length.toNat < messageHeaderSize
    · rw [if_pos short, if_pos (.inl short)]
    · rw [if_neg short]
      by_cases long : datagram.length < header.length.toNat
      · rw [if_pos (.inr long), Octets.split?_eq_none_iff.mpr (by omega)]
      · have skipped : datagram.drop (Octets.alignUp header.length.toNat)
            = rest.drop (Octets.alignUp header.length.toNat - messageHeaderSize) := by
          rw [← behindHeader, List.drop_drop]
          congr 1
          omega
        rw [if_neg (by omega), Octets.split?_of_le (by omega), skipped, ← behindHeader]
  · cases read

/-! ## Reading step by step -/

theorem next?_of_finished {buffer : Buffer} (finished : front buffer.octets = .finished) :
    next? buffer = none :=
  if_pos (front_eq_finished_iff.mp finished)

/-- A broken header is reported, and nothing is read behind it. -/
theorem next?_of_broken {buffer : Buffer} {length : Nat} (aligned : buffer.IsAligned)
    (broken : front buffer.octets = .broken length) :
    next? buffer = some (.error (.invalidInput (.messageLength length)), .empty) := by
  have enough : ¬buffer.octets.length < messageHeaderSize := by
    simp [← front_eq_finished_iff, broken]
  rcases MessageHeader.exists_ofBuffer aligned (Nat.le_of_not_lt enough) with ⟨header, read⟩
  have inOctets := read
  rw [MessageHeader.ofBuffer, if_pos aligned] at inOctets
  rw [front_of_header inOctets] at broken
  simp only [next?, if_neg enough, read]
  split at broken
  · rename_i impossible
    cases broken
    rw [dif_pos impossible]
  · cases broken

/-- A message is yielded, and reading goes on behind its padding. -/
theorem next?_of_item {buffer : Buffer} {head : Message} {rest : Octets}
    (aligned : buffer.IsAligned) (item : front buffer.octets = .item head rest) :
    ∃ behind, next? buffer = some (.ok head, behind) ∧ behind.octets = rest := by
  have enough : ¬buffer.octets.length < messageHeaderSize := by
    simp [← front_eq_finished_iff, item]
  rcases MessageHeader.exists_ofBuffer aligned (Nat.le_of_not_lt enough) with ⟨header, read⟩
  have inOctets := read
  rw [MessageHeader.ofBuffer, if_pos aligned] at inOctets
  rw [front_of_header inOctets] at item
  simp only [next?, if_neg enough, read]
  split at item
  · cases item
  · rename_i possible
    cases item
    rw [dif_neg possible]
    refine ⟨_, rfl, ?_⟩
    split
    · rename_i behind
      exact (List.drop_of_length_le behind).symm
    · rfl

theorem length_lt_of_front {datagram rest : Octets} {head : Message}
    (read : front datagram = .item head rest) : rest.length < datagram.length := by
  have aligned : Buffer.IsAligned ⟨0, datagram⟩ := rfl
  rcases next?_of_item aligned read with ⟨behind, taken, rfl⟩
  exact (next?_aligned aligned taken).1

/-- Whatever holds where reading ends, and of a datagram if of what follows its first message, holds
of every datagram. -/
@[elab_as_elim]
theorem front_induction {motive : Octets → Prop}
    (finished : ∀ datagram, front datagram = .finished → motive datagram)
    (broken : ∀ datagram length, front datagram = .broken length → motive datagram)
    (item : ∀ datagram head rest, front datagram = .item head rest → motive rest →
      motive datagram)
    (datagram : Octets) : motive datagram := by
  induction size : datagram.length using Nat.strongRecOn generalizing datagram with
  | ind length ih =>
      rcases read : front datagram with _ | length | ⟨head, rest⟩
      · exact finished datagram read
      · exact broken datagram length read
      · have shorter := length_lt_of_front read
        exact item datagram head rest read (ih rest.length (by omega) rest rfl)

/-! ## The items of a datagram -/

theorem items_of_none {buffer : Buffer} (aligned : buffer.IsAligned)
    (ends : next? buffer = none) : items buffer aligned = [] := by
  rw [items]
  split <;> simp_all

theorem items_of_some {buffer rest : Buffer} {item : Except Error Message}
    (aligned : buffer.IsAligned) (taken : next? buffer = some (item, rest)) :
    items buffer aligned = item :: items rest (next?_aligned aligned taken).2 := by
  rw [items]
  split
  · simp_all
  · rename_i found
    rw [taken] at found
    cases found
    rfl

@[simp]
theorem items_empty (aligned : Buffer.empty.IsAligned) : items .empty aligned = [] :=
  items_of_none aligned rfl

/-- The items of an aligned buffer are told by its octets. -/
theorem items_eq_ofDatagram {buffer : Buffer} (aligned : buffer.IsAligned) :
    items buffer aligned = ofDatagram buffer.octets := by
  -- Both read the same octets, at addresses that stay multiples of four.
  have same (datagram : Octets) : ∀ (one other : Buffer) (oneAligned : one.IsAligned)
      (otherAligned : other.IsAligned), one.octets = datagram → other.octets = datagram →
      items one oneAligned = items other otherAligned := by
    induction datagram using front_induction with
    | finished datagram finished =>
        rintro one other oneAligned otherAligned rfl isOther
        rw [items_of_none _ (next?_of_finished finished),
          items_of_none _ (next?_of_finished (isOther ▸ finished))]
    | broken datagram length broken =>
        rintro one other oneAligned otherAligned rfl isOther
        rw [items_of_some _ (next?_of_broken oneAligned broken),
          items_of_some _ (next?_of_broken otherAligned (isOther ▸ broken))]
    | item datagram head rest read ih =>
        rintro one other oneAligned otherAligned rfl isOther
        rcases next?_of_item oneAligned read with ⟨oneBehind, oneTaken, oneRest⟩
        rcases next?_of_item otherAligned (isOther ▸ read) with
          ⟨otherBehind, otherTaken, otherRest⟩
        rw [items_of_some _ oneTaken, items_of_some _ otherTaken,
          ih oneBehind otherBehind _ _ oneRest otherRest]
  exact same buffer.octets buffer ⟨0, buffer.octets⟩ aligned rfl rfl rfl

/-- A datagram without room for a header has no items. -/
theorem ofDatagram_of_finished {datagram : Octets} (read : front datagram = .finished) :
    ofDatagram datagram = [] := by
  have aligned : Buffer.IsAligned ⟨0, datagram⟩ := rfl
  exact items_of_none aligned (next?_of_finished read)

/-- The report of a broken header is the last item. -/
theorem ofDatagram_of_broken {datagram : Octets} {length : Nat}
    (read : front datagram = .broken length) :
    ofDatagram datagram = [.error (.invalidInput (.messageLength length))] := by
  have aligned : Buffer.IsAligned ⟨0, datagram⟩ := rfl
  rw [ofDatagram, items_of_some aligned (next?_of_broken aligned read), items_empty]

/-- The first message is followed by the items behind it. -/
theorem ofDatagram_of_item {datagram rest : Octets} {head : Message}
    (read : front datagram = .item head rest) :
    ofDatagram datagram = .ok head :: ofDatagram rest := by
  have aligned : Buffer.IsAligned ⟨0, datagram⟩ := rfl
  rcases next?_of_item aligned read with ⟨behind, taken, rfl⟩
  rw [ofDatagram, items_of_some aligned taken, items_eq_ofDatagram]

/-! ## Messages that were written -/

/-- A message whose header states its length is read back, whatever follows it. -/
theorem front_toOctets_append {header : MessageHeader} {payload rest : Octets}
    (length : header.length.toNat = messageHeaderSize + payload.length) :
    front (header.toOctets ++ (payload ++ (Octets.padding payload.length ++ rest)))
      = .item ⟨header, payload⟩ rest := by
  have skipped : Octets.alignUp (messageHeaderSize + payload.length) - messageHeaderSize
      = (payload ++ Octets.padding payload.length).length := by
    simp only [List.length_append, Octets.length_padding, Octets.alignUp, messageHeaderSize]
    omega
  simp only [front, MessageHeader.take?_toOctets_append, length, Nat.add_sub_cancel_left,
    Octets.split?_append, skipped]
  rw [if_neg (by omega), ← List.append_assoc, List.drop_left]

/-- Reading a datagram finds a message that was written, and goes on behind it. -/
theorem ofDatagram_toOctets_append {header : MessageHeader} {payload rest : Octets}
    (length : header.length.toNat = messageHeaderSize + payload.length) :
    ofDatagram (header.toOctets ++ (payload ++ (Octets.padding payload.length ++ rest)))
      = .ok ⟨header, payload⟩ :: ofDatagram rest :=
  ofDatagram_of_item (front_toOctets_append length)

end BridgeView.Message
