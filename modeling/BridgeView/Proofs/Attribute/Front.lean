import BridgeView.Attribute.Table

/-!
# The front of a stream

The lenient walk, the strict walk and decoding against a table each go through a stream in a loop
of their own: the first moves on by comparing lengths, the other two by taking the lesser one, and
they test the same things in different orders. All three find the same at the front of a stream,
which is one of three cases (`front`), and each of them is described by these cases alone
(`next?_eq`, `checkStream_of_item`, `AttributeTable.fill_of_item` and their companions). So what is
proved of the front of a stream holds of every loop.
-/

namespace BridgeView

namespace Attribute

/-- What stands at the front of a stream. -/
inductive Front where
  /-- Too few octets for a further header. -/
  | finished
  /-- A header whose length cannot be right. -/
  | broken (kind : UInt16) (fault : AttributeFault)
  /-- An attribute, and the stream after its padding. -/
  | item (head : Attribute) (rest : Octets)
deriving DecidableEq, Repr, Inhabited

/-- The case a stream is in. -/
def front : Octets → Front
  | length0 :: length1 :: type0 :: type1 :: rest =>
    let header : AttributeHeader :=
      ⟨Octets.word16 length0 length1, Octets.word16 type0 type1⟩
    let length := header.length.toNat
    if length < attributeHeaderSize then
      .broken header.kind (.shorterThanHeader length)
    else
      match Octets.split? (length - attributeHeaderSize) rest with
      | none =>
        .broken header.kind (.exceedsRemaining length (rest.length + attributeHeaderSize))
      | some (payload, _) =>
        .item ⟨header.kind, payload⟩
          (rest.drop (Octets.alignUp length - attributeHeaderSize))
  | _ => .finished

/-! ## The cases by the lengths that the loops compare -/

theorem exists_header_iff {stream : Octets} :
    (∃ header, AttributeHeader.ofOctets stream = .ok header) ↔
      attributeHeaderSize ≤ stream.length := by
  rcases stream with _ | ⟨length0, _ | ⟨length1, _ | ⟨type0, _ | ⟨type1, rest⟩⟩⟩⟩ <;>
    simp [AttributeHeader.ofOctets, attributeHeaderSize]

/-- Where no header can be read, the stream is at its end. -/
theorem front_of_unread {stream : Octets} {error : Error}
    (unread : AttributeHeader.ofOctets stream = .error error) : front stream = .finished := by
  rcases stream with _ | ⟨length0, _ | ⟨length1, _ | ⟨type0, _ | ⟨type1, rest⟩⟩⟩⟩
  · rfl
  · rfl
  · rfl
  · rfl
  · cases unread

/-- The cases by what the header states and how long the stream is. -/
theorem front_of_header {stream : Octets} {header : AttributeHeader}
    (read : AttributeHeader.ofOctets stream = .ok header) :
    front stream =
      if header.length.toNat < attributeHeaderSize then
        .broken header.kind (.shorterThanHeader header.length.toNat)
      else if stream.length < header.length.toNat then
        .broken header.kind (.exceedsRemaining header.length.toNat stream.length)
      else
        .item ⟨header.kind, stream.extract attributeHeaderSize header.length.toNat⟩
          (stream.drop (Octets.alignUp header.length.toNat)) := by
  unfold AttributeHeader.ofOctets at read
  split at read
  · rename_i length0 length1 type0 type1 rest
    cases read
    have four : attributeHeaderSize = 4 := rfl
    have size : (length0 :: length1 :: type0 :: type1 :: rest).length = rest.length + 4 := rfl
    have above := Octets.le_alignUp (Octets.word16 length0 length1).toNat
    simp only [front]
    generalize (Octets.word16 length0 length1).toNat = length at *
    by_cases short : length < attributeHeaderSize
    · rw [if_pos short, if_pos short]
    · rw [if_neg short, if_neg short]
      by_cases long : (length0 :: length1 :: type0 :: type1 :: rest).length < length
      · rw [if_pos long, Octets.split?_eq_none_iff.mpr (by omega)]
        rfl
      · have skipped : Octets.alignUp length = Octets.alignUp length - 4 + 4 := by omega
        rw [if_neg long, Octets.split?_of_le (by omega), skipped]
        simp [attributeHeaderSize]
  · cases read

/-- Moving on by the lesser of two offsets leaves nothing if the end is the lesser one. -/
theorem sliceFrom_clamp {stream : Octets} {offset : Nat} (inBounds : _) :
    stream.sliceFrom (stream.clamp offset) inBounds = stream.drop offset := by
  rw [Octets.sliceFrom, Octets.clamp_eq]
  rcases Nat.le_total offset stream.length with inside | beyond
  · rw [Nat.min_eq_left inside]
  · rw [Nat.min_eq_right beyond, List.drop_length, List.drop_of_length_le beyond]

/-! ## The lenient walk -/

/-- The lenient walk takes an attribute where there is one, and stops in both other cases. -/
theorem next?_eq (stream : Octets) :
    next? stream =
      match front stream with
      | .item head rest => some (head, rest)
      | _ => none := by
  unfold next?
  split
  · rename_i unread
    rw [front_of_unread unread]
  · rename_i header read
    rw [front_of_header read]
    by_cases short : header.length.toNat < attributeHeaderSize
    · simp [short]
    · by_cases long : stream.length < header.length.toNat
      · simp [short, long]
      · simp only [short, long, or_self, dite_false, if_false, Octets.slice, Octets.sliceFrom]
        split
        · rename_i behind
          rw [List.drop_of_length_le behind]
        · rfl

theorem next?_eq_some_iff {stream rest : Octets} {head : Attribute} :
    next? stream = some (head, rest) ↔ front stream = .item head rest := by
  rw [next?_eq]
  cases front stream <;> simp

theorem next?_eq_none_iff {stream : Octets} :
    next? stream = none ↔ ∀ head rest, front stream ≠ .item head rest := by
  rw [next?_eq]
  cases front stream <;> simp

theorem length_lt_of_front {stream rest : Octets} {head : Attribute}
    (read : front stream = .item head rest) : rest.length < stream.length :=
  length_lt_of_next? (next?_eq_some_iff.mpr read)

theorem walk_of_item {stream rest : Octets} {head : Attribute}
    (read : front stream = .item head rest) : walk stream = head :: walk rest := by
  have taken := next?_eq_some_iff.mpr read
  rw [walk]
  split <;> simp_all

theorem walk_of_not_item {stream : Octets}
    (stops : ∀ head rest, front stream ≠ .item head rest) : walk stream = [] := by
  have ends := next?_eq_none_iff.mpr stops
  rw [walk]
  split <;> simp_all

theorem leftover_of_item {stream rest : Octets} {head : Attribute}
    (read : front stream = .item head rest) : leftover stream = leftover rest := by
  have taken := next?_eq_some_iff.mpr read
  rw [leftover]
  split <;> simp_all

theorem leftover_of_not_item {stream : Octets}
    (stops : ∀ head rest, front stream ≠ .item head rest) : leftover stream = stream := by
  have ends := next?_eq_none_iff.mpr stops
  rw [leftover]
  split <;> simp_all

/-! ## The strict walk -/

theorem front_eq_finished_iff {stream : Octets} :
    front stream = .finished ↔ stream.length < attributeHeaderSize := by
  rw [← Nat.not_le, ← exists_header_iff]
  rcases read : AttributeHeader.ofOctets stream with error | header
  · simp [front_of_unread read]
  · rw [front_of_header read]
    split
    · simp
    · split <;> simp

/-- The strict walk tests what the cases tell apart, and goes on where they say. -/
theorem checkStream_eq (stream : Octets) :
    checkStream stream =
      match front stream with
      | .finished => .ok ()
      | .broken kind fault => .error (.malformedAttribute kind fault)
      | .item _ rest => checkStream rest := by
  rw [checkStream]
  split
  · rename_i enough
    rcases exists_header_iff.mpr enough with ⟨header, read⟩
    simp only [read, front_of_header read, sliceFrom_clamp]
    by_cases short : header.length.toNat < attributeHeaderSize
    · simp [short]
    · by_cases long : stream.length < header.length.toNat <;> simp [short, long]
  · rename_i few
    rw [front_eq_finished_iff.mpr (Nat.lt_of_not_le few)]

theorem checkStream_of_finished {stream : Octets} (finished : front stream = .finished) :
    checkStream stream = .ok () := by
  rw [checkStream_eq, finished]

theorem checkStream_of_broken {stream : Octets} {kind : UInt16} {fault : AttributeFault}
    (broken : front stream = .broken kind fault) :
    checkStream stream = .error (.malformedAttribute kind fault) := by
  rw [checkStream_eq, broken]

theorem checkStream_of_item {stream rest : Octets} {head : Attribute}
    (read : front stream = .item head rest) : checkStream stream = checkStream rest := by
  rw [checkStream_eq, read]

/-! ## Induction along a stream -/

/-- Whatever holds where a loop ends, and of a stream if of what follows its first attribute, holds
of every stream. -/
@[elab_as_elim]
theorem front_induction {motive : Octets → Prop}
    (finished : ∀ stream, front stream = .finished → motive stream)
    (broken : ∀ stream kind fault, front stream = .broken kind fault → motive stream)
    (item : ∀ stream head rest, front stream = .item head rest → motive rest → motive stream)
    (stream : Octets) : motive stream := by
  induction size : stream.length using Nat.strongRecOn generalizing stream with
  | ind length ih =>
      rcases read : front stream with _ | ⟨kind, fault⟩ | ⟨head, rest⟩
      · exact finished stream read
      · exact broken stream kind fault read
      · have shorter := length_lt_of_front read
        exact item stream head rest read (ih rest.length (by omega) rest rfl)

/-! ## Attributes that were written -/

/-- A header that states the length of what follows it makes an attribute. -/
theorem front_toOctets_append {header : AttributeHeader} {payload rest : Octets}
    (length : header.length.toNat = attributeHeaderSize + payload.length) :
    front (header.toOctets ++ (payload ++ (Octets.padding payload.length ++ rest)))
      = .item ⟨header.kind, payload⟩ rest := by
  have skipped : Octets.alignUp (attributeHeaderSize + payload.length) - attributeHeaderSize
      = (payload ++ Octets.padding payload.length).length := by
    simp only [List.length_append, Octets.length_padding, Octets.alignUp, attributeHeaderSize]
    omega
  simp only [AttributeHeader.toOctets, Octets.ofWord16, List.cons_append, List.nil_append,
    front, Octets.word16_ofWord16]
  simp only [length, Nat.add_sub_cancel_left, Octets.split?_append, skipped]
  rw [if_neg (by omega), ← List.append_assoc, List.drop_left]

theorem front_encode_append {type : UInt16} {payload : Octets} (rest : Octets)
    (fits : attributeHeaderSize + payload.length < 65536) :
    front (encode type payload ++ rest) = .item ⟨type &&& kindMask, payload⟩ rest := by
  have length : (AttributeHeader.ofSize type payload.length).length.toNat
      = attributeHeaderSize + payload.length := by
    rw [AttributeHeader.ofSize, UInt16.toNat_ofNat', Nat.mod_eq_of_lt fits]
  simp only [encode, List.append_assoc]
  exact front_toOctets_append length

end Attribute

namespace AttributeTable

open Attribute

/-! ## Decoding against a table -/

theorem fill_of_finished {table : AttributeTable} {stream : Octets}
    {slots : List (Option Octets)} (read : front stream = .finished) :
    table.fill stream slots = .ok slots := by
  have few := front_eq_finished_iff.mp read
  rw [fill, dif_neg (Nat.not_le.mpr few)]

/-- Decoding reports a broken header as the strict walk does. -/
theorem fill_of_broken {table : AttributeTable} {stream : Octets} {kind : UInt16}
    {fault : AttributeFault} {slots : List (Option Octets)}
    (read : front stream = .broken kind fault) :
    table.fill stream slots = .error (.malformedAttribute kind fault) := by
  rw [fill]
  split
  · rename_i enough
    rcases exists_header_iff.mpr enough with ⟨header, isHeader⟩
    rw [front_of_header isHeader] at read
    simp only [isHeader]
    split at read
    · rename_i short
      cases read
      simp [short]
    · rename_i covers
      split at read
      · rename_i long
        cases read
        simp [covers, long]
      · cases read
  · rename_i few
    rw [front_eq_finished_iff.mpr (Nat.lt_of_not_le few)] at read
    cases read

/-- Decoding checks an attribute that the table knows, and goes on behind it. -/
theorem fill_of_item {table : AttributeTable} {stream rest : Octets} {head : Attribute}
    {slots : List (Option Octets)} (read : front stream = .item head rest) :
    table.fill stream slots =
      match table.rules[head.kind.toNat]? with
      | none => table.fill rest slots
      | some rule =>
        match rule.check head.kind head.payload with
        | .error error => .error error
        | .ok () =>
          table.fill rest (slots.modify head.kind.toNat (·.or (some head.payload))) := by
  rw [fill]
  split
  · rename_i enough
    rcases exists_header_iff.mpr enough with ⟨header, isHeader⟩
    rw [front_of_header isHeader] at read
    simp only [isHeader, sliceFrom_clamp, Octets.slice]
    split at read
    · cases read
    · rename_i covers
      split at read
      · cases read
      · rename_i inside
        cases read
        exact (dif_neg covers).trans (dif_neg inside)
  · rename_i few
    rw [front_eq_finished_iff.mpr (Nat.lt_of_not_le few)] at read
    cases read

end AttributeTable

end BridgeView
