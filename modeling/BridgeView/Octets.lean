/-!
# Octets, words and alignment

The wire format is a sequence of octets.  Words are stored with the least
significant octet first unless a layout says otherwise, and messages and
attributes start on multiples of four octets.  This file holds the alignment
rule, the two conversions between words and octets in both orders, the parts of
a sequence between given offsets, and the cut of a sequence after a given number
of octets; a word read from its own octets is that word again, and its octets
are those that it was read from.

Where octets stand in memory matters to one reader only, which is given a buffer.
-/

namespace BridgeView

/-- A sequence of octets, as received or to be sent. -/
abbrev Octets := List UInt8

namespace Octets

/-- The least multiple of four that is not below the size. -/
def alignUp (size : Nat) : Nat :=
  (size + 3) / 4 * 4

/-- The zero octets that bring the given size to a multiple of four. -/
def padding (size : Nat) : Octets :=
  List.replicate (alignUp size - size) 0

/-- The octets between two offsets; both lie in the sequence. -/
def slice (octets : Octets) (start stop : Nat)
    (_inBounds : start ≤ stop ∧ stop ≤ octets.length) : Octets :=
  octets.extract start stop

/-- The octets from an offset on, which lies in the sequence. -/
def sliceFrom (octets : Octets) (start : Nat) (_inBounds : start ≤ octets.length) : Octets :=
  octets.drop start

/-- The lesser of an offset and the number of octets, which are counted no further than that. -/
def clamp (octets : Octets) (offset : Nat) : Nat :=
  (octets.take offset).length

theorem clamp_eq (octets : Octets) (offset : Nat) :
    octets.clamp offset = min offset octets.length :=
  List.length_take

theorem clamp_le (octets : Octets) (offset : Nat) : octets.clamp offset ≤ octets.length :=
  octets.clamp_eq offset ▸ Nat.min_le_right offset octets.length

/-! Reading compares the length of what is left again and again, so no comparison counts further
than the number compared with. -/

instance (octets : Octets) (count : Nat) : Decidable (octets.length < count) :=
  decidable_of_iff (octets.clamp count < count) (by rw [clamp_eq]; omega)

instance (octets : Octets) (count : Nat) : Decidable (octets.length ≤ count) :=
  decidable_of_iff (octets.clamp (count + 1) ≤ count) (by rw [clamp_eq]; omega)

instance (octets : Octets) (count : Nat) : Decidable (count ≤ octets.length) :=
  decidable_of_iff (count ≤ octets.clamp count) (by rw [clamp_eq]; omega)

/-- The first octets and what follows them, if there are that many. -/
def split? (count : Nat) (octets : Octets) : Option (Octets × Octets) :=
  let front := octets.take count
  if front.length = count then some (front, octets.drop count) else none

/-- The word made of two octets, least significant first. -/
def word16 (low high : UInt8) : UInt16 :=
  UInt16.ofNat (low.toNat + 256 * high.toNat)

/-- The word made of four octets, least significant first. -/
def word32 (first second third fourth : UInt8) : UInt32 :=
  UInt32.ofNat (first.toNat + 256 * second.toNat + 65536 * third.toNat
    + 16777216 * fourth.toNat)

/-- The word made of the first eight octets, least significant first. -/
def word64 (octets : Octets) : UInt64 :=
  UInt64.ofNat (octets.foldr (fun octet rest => octet.toNat + 256 * rest) 0)

/-- The two octets of a word, least significant first. -/
def ofWord16 (word : UInt16) : Octets :=
  [word.toUInt8, UInt8.ofNat (word.toNat / 256)]

/-- The two octets of a word, most significant first. -/
def ofWord16BigEndian (word : UInt16) : Octets :=
  [UInt8.ofNat (word.toNat / 256), word.toUInt8]

/-- The four octets of a word, least significant first. -/
def ofWord32 (word : UInt32) : Octets :=
  [word.toUInt8, UInt8.ofNat (word.toNat / 256),
    UInt8.ofNat (word.toNat / 65536), UInt8.ofNat (word.toNat / 16777216)]

/-- The eight octets of a word, least significant first. -/
def ofWord64 (word : UInt64) : Octets :=
  (List.range 8).map fun position => UInt8.ofNat (word.toNat >>> (8 * position))

theorem le_alignUp (size : Nat) : size ≤ alignUp size := by
  unfold alignUp
  omega

theorem alignUp_mod_four (size : Nat) : alignUp size % 4 = 0 := by
  unfold alignUp
  omega

theorem alignUp_of_mod_four {size : Nat} (aligned : size % 4 = 0) :
    alignUp size = size := by
  unfold alignUp
  omega

@[simp]
theorem length_padding (size : Nat) : (padding size).length = alignUp size - size := by
  simp [padding]

theorem padding_of_aligned {size : Nat} (aligned : size % 4 = 0) : padding size = [] := by
  simp [padding, alignUp_of_mod_four aligned]

/-- With its padding, a sequence is a multiple of four octets long. -/
theorem length_append_padding (octets : Octets) :
    (octets ++ padding octets.length).length = alignUp octets.length := by
  have above := le_alignUp octets.length
  simp
  omega

theorem split?_of_le {count : Nat} {octets : Octets} (enough : count ≤ octets.length) :
    split? count octets = some (octets.take count, octets.drop count) := by
  simp [split?, Nat.min_eq_left enough]

theorem split?_eq_none_iff {count : Nat} {octets : Octets} :
    split? count octets = none ↔ octets.length < count := by
  simp only [split?, List.length_take]
  by_cases enough : min count octets.length = count
  · simp only [enough, if_true]
    simp
    omega
  · simp only [enough, if_false, true_iff]
    omega

/-- A cut is where the front has the length that was asked for. -/
theorem split?_eq_some_iff {count : Nat} {octets front rest : Octets} :
    split? count octets = some (front, rest) ↔
      octets = front ++ rest ∧ front.length = count := by
  constructor
  · intro cut
    by_cases enough : count ≤ octets.length
    · rw [split?_of_le enough] at cut
      simp only [Option.some.injEq, Prod.mk.injEq] at cut
      rcases cut with ⟨rfl, rfl⟩
      exact ⟨(List.take_append_drop count octets).symm, List.length_take_of_le enough⟩
    · rw [split?_eq_none_iff.mpr (by omega)] at cut
      simp at cut
  · rintro ⟨rfl, rfl⟩
    simp [split?]

@[simp]
theorem split?_append (front rest : Octets) :
    split? front.length (front ++ rest) = some (front, rest) :=
  split?_eq_some_iff.mpr ⟨rfl, rfl⟩

@[simp]
theorem length_ofWord16 (word : UInt16) : (ofWord16 word).length = 2 := rfl

@[simp]
theorem length_ofWord16BigEndian (word : UInt16) : (ofWord16BigEndian word).length = 2 := rfl

@[simp]
theorem length_ofWord32 (word : UInt32) : (ofWord32 word).length = 4 := rfl

@[simp]
theorem length_ofWord64 (word : UInt64) : (ofWord64 word).length = 8 := by
  simp [ofWord64]

@[simp]
theorem word16_ofWord16 (word : UInt16) :
    word16 word.toUInt8 (UInt8.ofNat (word.toNat / 256)) = word := by
  apply UInt16.toNat.inj
  have bound := word.toNat_lt
  simp only [word16, UInt16.toNat_ofNat', UInt8.toNat_ofNat', UInt16.toNat_toUInt8]
  omega

@[simp]
theorem word32_ofWord32 (word : UInt32) :
    word32 word.toUInt8 (UInt8.ofNat (word.toNat / 256))
      (UInt8.ofNat (word.toNat / 65536)) (UInt8.ofNat (word.toNat / 16777216)) = word := by
  apply UInt32.toNat.inj
  have bound := word.toNat_lt
  simp only [word32, UInt32.toNat_ofNat', UInt8.toNat_ofNat', UInt32.toNat_toUInt8]
  omega

@[simp]
theorem word64_ofWord64 (word : UInt64) : word64 (ofWord64 word) = word := by
  apply UInt64.toNat.inj
  have bound := word.toNat_lt
  simp only [word64, ofWord64, List.range, List.range.loop, List.map_cons, List.map_nil,
    List.foldr_cons, List.foldr_nil, UInt64.toNat_ofNat', UInt8.toNat_ofNat',
    Nat.shiftRight_eq_div_pow]
  omega

/-- A word is written as the octets that it was read from. -/
theorem ofWord16_word16 (low high : UInt8) : ofWord16 (word16 low high) = [low, high] := by
  have lowBound := low.toNat_lt
  have highBound := high.toNat_lt
  have size : (word16 low high).toNat = low.toNat + 256 * high.toNat := by
    rw [word16, UInt16.toNat_ofNat']
    omega
  rw [ofWord16, size]
  congr 1
  · apply UInt8.toNat.inj
    rw [UInt16.toNat_toUInt8, size]
    omega
  · congr 1
    apply UInt8.toNat.inj
    rw [UInt8.toNat_ofNat']
    omega

/-- A longer word, too, is written as the octets that it was read from. -/
theorem ofWord32_word32 (first second third fourth : UInt8) :
    ofWord32 (word32 first second third fourth) = [first, second, third, fourth] := by
  have firstBound := first.toNat_lt
  have secondBound := second.toNat_lt
  have thirdBound := third.toNat_lt
  have fourthBound := fourth.toNat_lt
  have size : (word32 first second third fourth).toNat = first.toNat + 256 * second.toNat
      + 65536 * third.toNat + 16777216 * fourth.toNat := by
    rw [word32, UInt32.toNat_ofNat']
    omega
  have low : (word32 first second third fourth).toUInt8 = first := by
    apply UInt8.toNat.inj
    rw [UInt32.toNat_toUInt8, size]
    omega
  have ofQuotient (quotient : Nat) (octet : UInt8) (same : quotient % 256 = octet.toNat) :
      UInt8.ofNat quotient = octet := by
    apply UInt8.toNat.inj
    rw [UInt8.toNat_ofNat', same]
  rw [ofWord32, low, size, ofQuotient _ second (by omega), ofQuotient _ third (by omega),
    ofQuotient _ fourth (by omega)]

end Octets

/-- Octets where they stand in memory. -/
structure Buffer where
  /-- The address of the first octet. -/
  address : Nat
  octets : Octets
deriving DecidableEq, Repr, Inhabited

namespace Buffer

/-- The buffer of no octets, which stands nowhere in particular. -/
def empty : Buffer := ⟨0, []⟩

/-- The rest of a buffer from an offset on, which lies in the buffer. -/
def sliceFrom (buffer : Buffer) (start : Nat) (inBounds : start ≤ buffer.octets.length) : Buffer :=
  ⟨buffer.address + start, buffer.octets.sliceFrom start inBounds⟩

/-- The buffer starts at a multiple of four. -/
def IsAligned (buffer : Buffer) : Prop :=
  buffer.address % 4 = 0

/-- An address tells whether a buffer is aligned. -/
instance (buffer : Buffer) : Decidable buffer.IsAligned :=
  inferInstanceAs (Decidable (_ = _))

theorem isAligned_empty : empty.IsAligned := rfl

end Buffer

end BridgeView
