import BridgeView.Draft.Composition
import BridgeView.Proofs.Framing.Front

/-!
# Messages in a datagram

Messages that are written one behind the other, each aligned to four octets, are read back as they
are (`ofDatagram_pack`). What a draft is finished as is such a message, since every step that
composes a draft leaves a body of a multiple of four octets.

Octets from elsewhere may state any length. Reading them ends all the same: each item takes sixteen
octets at least, a length that cannot be right is the last of them, and the messages before it lie
in the datagram one behind the other (`Layout`).

All this depends on where the octets start. A header at another address than a multiple of four
cannot be read, and other than a length that cannot be right it is not skipped: reading such a
buffer does not end (`isFramed_iff`).
-/

namespace BridgeView

namespace Message

/-! ## Messages one behind the other -/

/-- The header states the length of the message. -/
def WellFramed (message : Message) : Prop :=
  message.header.length.toNat = messageHeaderSize + message.payload.length

/-- Two numbers decide whether a message is well framed. -/
instance (message : Message) : Decidable message.WellFramed :=
  inferInstanceAs (Decidable (_ = _))

/-- The octets of a message, with the padding that aligns the next one. -/
def toOctets (message : Message) : Octets :=
  message.header.toOctets ++ (message.payload ++ Octets.padding message.payload.length)

/-- The datagram that holds some messages. -/
def pack (messages : List Message) : Octets :=
  messages.flatMap toOctets

/-- Packed messages are read back one by one. -/
theorem ofDatagram_pack {messages : List Message}
    (framed : ∀ message ∈ messages, message.WellFramed) :
    ofDatagram (pack messages) = messages.map .ok := by
  induction messages with
  | nil => exact ofDatagram_of_finished rfl
  | cons message rest ih =>
      rw [List.forall_mem_cons] at framed
      rw [pack, List.flatMap_cons, toOctets, List.append_assoc, List.append_assoc,
        ofDatagram_toOctets_append framed.1]
      exact congrArg _ (ih framed.2)

/-- However messages are grouped into datagrams, all of them are read back. -/
theorem flatMap_ofDatagram_pack {groups : List (List Message)}
    (framed : ∀ message ∈ groups.flatten, message.WellFramed) :
    (groups.map pack).flatMap ofDatagram = groups.flatten.map .ok := by
  induction groups with
  | nil => rfl
  | cons group groups ih =>
      simp only [List.flatten_cons, List.forall_mem_append] at framed
      simp [ofDatagram_pack framed.1, ih framed.2]

/-! ## Messages in arbitrary octets -/

/-- A message and the offset of its header in a datagram. -/
structure Located where
  start : Nat
  message : Message

namespace Located

/-- Where the payload starts. -/
def payloadStart (located : Located) : Nat :=
  located.start + messageHeaderSize

/-- The offset behind the payload. -/
def stop (located : Located) : Nat :=
  located.payloadStart + located.message.payload.length

/-- The message is read from where it is said to be. -/
structure LiesIn (located : Located) (datagram : Octets) : Prop where
  aligned : located.start % 4 = 0
  inBounds : located.stop ≤ datagram.length
  header_eq : datagram.extract located.start located.payloadStart
    = located.message.header.toOctets
  payload_eq : datagram.extract located.payloadStart located.stop = located.message.payload

end Located

/-- The messages with their offsets, when each starts at the next multiple of four behind the one
before. -/
def place (start : Nat) : List Message → List Located
  | [] => []
  | message :: later =>
    ⟨start, message⟩ ::
      place (start + Octets.alignUp (messageHeaderSize + message.payload.length)) later

/-- No message starts before the place it is laid out from. -/
theorem start_le_of_mem_place {start : Nat} {messages : List Message} {located : Located}
    (placed : located ∈ place start messages) : start ≤ located.start := by
  induction messages generalizing start with
  | nil => simp [place] at placed
  | cons message later ih =>
      simp only [place, List.mem_cons] at placed
      rcases placed with rfl | behind
      · exact Nat.le_refl _
      · have next := ih behind
        omega

/-- Messages that are laid out do not overlap. -/
theorem pairwise_place (start : Nat) (messages : List Message) :
    (place start messages).Pairwise fun earlier later => earlier.stop ≤ later.start := by
  induction messages generalizing start with
  | nil => exact .nil
  | cons message later ih =>
      apply List.Pairwise.cons
      · intro located behind
        have next := start_le_of_mem_place behind
        have above := Octets.le_alignUp (messageHeaderSize + message.payload.length)
        simp only [Located.stop, Located.payloadStart]
        omega
      · exact ih _

/-- What is read at the front of a datagram is written there, and the next message starts at the
next multiple of four. -/
theorem of_front_item {datagram rest : Octets} {head : Message}
    (read : front datagram = .item head rest) :
    (∃ behind, datagram = head.header.toOctets ++ (head.payload ++ behind)) ∧
      rest = datagram.drop (Octets.alignUp (messageHeaderSize + head.payload.length)) := by
  unfold front at read
  split at read
  · simp at read
  · rename_i header tail taken
    have written := MessageHeader.toOctets_append_of_take? taken
    dsimp only at read
    split at read
    · simp at read
    · rename_i covers
      split at read
      · simp at read
      · rename_i payload behind cut
        simp only [Front.item.injEq] at read
        rcases read with ⟨rfl, rfl⟩
        rw [Octets.split?_eq_some_iff] at cut
        rcases cut with ⟨rfl, size⟩
        refine ⟨⟨behind, written⟩, ?_⟩
        -- What is dropped is the header, and then the rest of the message with its padding.
        have above := Octets.le_alignUp header.length.toNat
        have stated : messageHeaderSize + payload.length = header.length.toNat := by omega
        have skipped : Octets.alignUp header.length.toNat
            = header.toOctets.length + (Octets.alignUp header.length.toNat - messageHeaderSize) := by
          simp only [MessageHeader.length_toOctets, messageHeaderSize] at *
          omega
        rw [stated, written, skipped, List.drop_length_add_append, ← skipped]

/-- Each item takes at least the octets of a header. -/
theorem length_ofDatagram_le (datagram : Octets) :
    messageHeaderSize * (ofDatagram datagram).length ≤ datagram.length := by
  induction datagram using front_induction with
  | finished datagram read => simp [ofDatagram_of_finished read]
  | broken datagram length read =>
      have header : ¬datagram.length < messageHeaderSize := by
        simp [← front_eq_finished_iff, read]
      simpa [ofDatagram_of_broken read] using header
  | item datagram head rest read ih =>
      rcases of_front_item read with ⟨⟨behind, written⟩, isRest⟩
      have shorter := length_lt_of_front read
      have header := congrArg List.length written
      rw [isRest] at ih
      simp only [ofDatagram_of_item read, List.length_cons, isRest]
      simp [messageHeaderSize, Octets.alignUp] at *
      omega

/-- A message at an aligned front lies in the datagram. -/
theorem liesIn_of_front_item {datagram rest : Octets} {start : Nat} {head : Message}
    (aligned : start % 4 = 0) (read : front (datagram.drop start) = .item head rest) :
    Located.LiesIn ⟨start, head⟩ datagram := by
  rcases of_front_item read with ⟨⟨behind, written⟩, _⟩
  have headerSize : head.header.toOctets.length = messageHeaderSize := head.header.length_toOctets
  have inside : datagram.drop (start + messageHeaderSize) = head.payload ++ behind := by
    rw [← List.drop_drop, written, List.drop_left' headerSize]
  refine ⟨aligned, ?_, ?_, ?_⟩
  · have size := congrArg List.length written
    simp only [List.length_drop, List.length_append, headerSize, messageHeaderSize] at size
    simp only [Located.stop, Located.payloadStart, messageHeaderSize]
    omega
  · simp [Located.payloadStart, written, List.take_left' headerSize]
  · simp [Located.stop, Located.payloadStart, inside]

/-- What is read from an aligned offset on are messages that lie there, and a failure at most. -/
theorem exists_place (datagram : Octets) {start : Nat} (aligned : start % 4 = 0) :
    ∃ (messages : List Message) (failure? : Option Error),
      ofDatagram (datagram.drop start) = messages.map .ok ++ failure?.toList.map .error ∧
        ∀ located ∈ place start messages, located.LiesIn datagram := by
  -- The datagram stays, and reading goes on at a later start, which is aligned again.
  generalize here : datagram.drop start = suffix
  induction suffix using front_induction generalizing start with
  | finished suffix read =>
      refine ⟨[], none, ?_, ?_⟩
      · simp [ofDatagram_of_finished read]
      · simp [place]
  | broken suffix length read =>
      refine ⟨[], some (.invalidInput (.messageLength length)), ?_, ?_⟩
      · simp [ofDatagram_of_broken read]
      · simp [place]
  | item suffix head rest read ih =>
      subst here
      have nextAligned := Octets.alignUp_mod_four (messageHeaderSize + head.payload.length)
      have next := (of_front_item read).2
      rw [List.drop_drop] at next
      rcases ih (by omega) next.symm with ⟨messages, failure?, items, lie⟩
      refine ⟨head :: messages, failure?, ?_, ?_⟩
      · simp [ofDatagram_of_item read, items]
      · intro located placed
        simp only [place, List.mem_cons] at placed
        rcases placed with rfl | behind
        · exact liesIn_of_front_item aligned read
        · exact lie located behind

/-! ## Reading until the end -/

/-- Reading the buffer step by step gives these items, and then it ends. -/
def Yields : Buffer → List (Except Error Message) → Prop
  | buffer, [] => next? buffer = none
  | buffer, item :: later => ∃ rest, next? buffer = some (item, rest) ∧ Yields rest later

/-- The items of the first steps, fewer if reading ends before. -/
def firstItems : Nat → Buffer → List (Except Error Message)
  | 0, _ => []
  | count + 1, buffer =>
    match next? buffer with
    | none => []
    | some (item, rest) => item :: firstItems count rest

/-- An aligned buffer yields its items. -/
theorem yields_items {buffer : Buffer} (aligned : buffer.IsAligned) :
    Yields buffer (items buffer aligned) := by
  induction size : buffer.octets.length using Nat.strongRecOn generalizing buffer with
  | ind length ih =>
      rcases taken : next? buffer with _ | ⟨item, rest⟩
      · rw [items_of_none aligned taken]
        exact taken
      · rcases next?_aligned aligned taken with ⟨shorter, restAligned⟩
        rw [items_of_some aligned taken]
        exact ⟨rest, taken, ih _ (by omega) restAligned rfl⟩

/-- There is one way to read an aligned buffer. -/
theorem yields_iff {buffer : Buffer} (aligned : buffer.IsAligned)
    {read : List (Except Error Message)} :
    Yields buffer read ↔ read = ofDatagram buffer.octets := by
  rw [← items_eq_ofDatagram aligned]
  constructor
  · intro yields
    induction read generalizing buffer with
    | nil => rw [items_of_none aligned yields]
    | cons item later ih =>
        rcases yields with ⟨rest, taken, yieldsLater⟩
        have restAligned := (next?_aligned aligned taken).2
        rw [items_of_some aligned taken, ih restAligned yieldsLater]
  · rintro rfl
    exact yields_items aligned

/-- A header at another address is reported, and left for the next step. -/
theorem next?_of_not_aligned {buffer : Buffer} (unaligned : ¬buffer.IsAligned)
    (enough : messageHeaderSize ≤ buffer.octets.length) :
    next? buffer
      = some (.error (.truncated messageHeaderSize buffer.octets.length), buffer) := by
  rw [next?, if_neg (Nat.not_lt.mpr enough), MessageHeader.ofBuffer, if_neg unaligned]

/-- However often an unaligned buffer is asked, it gives the same failure. -/
theorem firstItems_of_not_aligned {buffer : Buffer} (unaligned : ¬buffer.IsAligned)
    (enough : messageHeaderSize ≤ buffer.octets.length) (count : Nat) :
    firstItems count buffer =
      List.replicate count (.error (.truncated messageHeaderSize buffer.octets.length)) := by
  induction count with
  | zero => rfl
  | succ count ih =>
      simp only [firstItems, next?_of_not_aligned unaligned enough, ih, List.replicate_succ]

/-- Reading does not end where it reports the same header again and again. -/
theorem not_yields_of_not_aligned {buffer : Buffer} (unaligned : ¬buffer.IsAligned)
    (enough : messageHeaderSize ≤ buffer.octets.length) (read : List (Except Error Message)) :
    ¬Yields buffer read := by
  induction read with
  | nil =>
      intro ends
      rw [Yields, next?_of_not_aligned unaligned enough] at ends
      cases ends
  | cons item later ih =>
      rintro ⟨rest, taken, yieldsLater⟩
      rw [next?_of_not_aligned unaligned enough] at taken
      cases taken
      exact ih yieldsLater

/-- How a buffer should be read: the items are messages that lie in it one behind the other, each
from an aligned offset on, and at most one failure, which is the last item; then reading ends. -/
structure Layout (buffer : Buffer) (messages : List Message) (failure? : Option Error) : Prop where
  yields : Yields buffer (messages.map .ok ++ failure?.toList.map .error)
  few : messageHeaderSize * (messages.length + failure?.toList.length) ≤ buffer.octets.length
  liesIn : ∀ located ∈ place 0 messages, located.LiesIn buffer.octets
  apart : (place 0 messages).Pairwise fun earlier later => earlier.stop ≤ later.start

/-- Every aligned buffer has a layout. -/
theorem exists_layout_of_aligned {buffer : Buffer} (aligned : buffer.IsAligned) :
    ∃ messages failure?, Layout buffer messages failure? := by
  rcases exists_place buffer.octets (Nat.zero_mod 4) with ⟨messages, failure?, isRead, lie⟩
  rw [List.drop_zero] at isRead
  have few := length_ofDatagram_le buffer.octets
  rw [isRead] at few
  simp only [List.length_append, List.length_map] at few
  refine ⟨messages, failure?, ?_, few, lie, pairwise_place 0 messages⟩
  exact (yields_iff aligned).mpr isRead.symm

/-- A buffer is read as it should be if and only if no header has to be read at another address than
a multiple of four. -/
theorem exists_layout_iff {buffer : Buffer} :
    (∃ messages failure?, Layout buffer messages failure?) ↔
      buffer.IsAligned ∨ buffer.octets.length < messageHeaderSize := by
  constructor
  · rintro ⟨messages, failure?, layout⟩
    by_cases aligned : buffer.IsAligned
    · exact .inl aligned
    · refine .inr (Nat.lt_of_not_le ?_)
      intro enough
      exact not_yields_of_not_aligned aligned enough _ layout.yields
  · rintro (aligned | short)
    · exact exists_layout_of_aligned aligned
    · refine ⟨[], none, ?_, by simp, by simp [place], by simp [place]⟩
      exact next?_of_finished (front_eq_finished_iff.mpr short)

end Message

/-! ## Finished drafts -/

namespace Draft

theorem aligned_append (draft : Draft) (octets : Octets) :
    (draft.append octets).body.length % 4 = 0 := by
  simp only [append, Octets.length_append_padding, Octets.alignUp_mod_four]

theorem aligned_openNest {draft : Draft} (aligned : draft.body.length % 4 = 0) (type : UInt16) :
    (draft.openNest type).1.body.length % 4 = 0 := by
  simp [openNest, AttributeHeader.toOctets]
  omega

theorem aligned_closeNest (draft : Draft) (mark : Mark) :
    (draft.closeNest mark).body.length % 4 = 0 := by
  simp only [closeNest, Octets.length_append_padding, Octets.alignUp_mod_four]

end Draft

namespace Composition

/-- Every edit keeps a body aligned. -/
theorem aligned_apply {composition : Composition}
    (aligned : composition.draft.body.length % 4 = 0) (edit : Edit) :
    (composition.apply edit).draft.body.length % 4 = 0 := by
  cases edit with
  | append octets => exact composition.draft.aligned_append octets
  | appendAttribute type payload => exact composition.draft.aligned_append _
  | openNest type => exact Draft.aligned_openNest aligned type
  | closeNest number =>
      simp only [apply, edited]
      split
      · exact composition.draft.aligned_closeNest _
      · exact aligned
  | setType type => exact aligned
  | setSequence sequence => exact aligned
  | setPort port => exact aligned

theorem aligned_applyAll {composition : Composition}
    (aligned : composition.draft.body.length % 4 = 0) (edits : List Edit) :
    (composition.applyAll edits).draft.body.length % 4 = 0 := by
  induction edits generalizing composition with
  | nil => exact aligned
  | cons edit later ih => exact ih (aligned_apply aligned edit)

end Composition

namespace Draft

/-- The draft results from edits of an empty one. The marks of other drafts may be at hand too. -/
def IsComposed (draft : Draft) : Prop :=
  ∃ (header : MessageHeader) (marks : List Mark) (edits : List Edit),
    draft = (Composition.applyAll ⟨{ header }, marks⟩ edits).draft

theorem IsComposed.aligned {draft : Draft} (composed : draft.IsComposed) :
    draft.body.length % 4 = 0 := by
  rcases composed with ⟨header, marks, edits, rfl⟩
  exact Composition.aligned_applyAll rfl edits

/-- The message that the draft is finished as. -/
def message (draft : Draft) : Message :=
  ⟨{ draft.header with length := UInt32.ofNat draft.size }, draft.body⟩

theorem wellFramed_message {draft : Draft} (fits : draft.size < UInt32.size) :
    draft.message.WellFramed :=
  UInt32.toNat_ofNat_of_lt' fits

theorem toOctets_message {draft : Draft} (aligned : draft.body.length % 4 = 0) :
    draft.message.toOctets = draft.finish := by
  simp [Message.toOctets, message, finish, Octets.padding_of_aligned aligned]

theorem ofDatagram_finish {draft : Draft} (aligned : draft.body.length % 4 = 0)
    (fits : draft.size < UInt32.size) : Message.ofDatagram draft.finish = [.ok draft.message] := by
  have framed : ∀ message ∈ [draft.message], message.WellFramed := by
    simpa using wellFramed_message fits
  have read := Message.ofDatagram_pack framed
  simpa [Message.pack, toOctets_message aligned] using read

end Draft

theorem Message.ofDatagram_flatMap_finish {drafts : List Draft}
    (composed : ∀ draft ∈ drafts, draft.IsComposed ∧ draft.size < UInt32.size) :
    ofDatagram (drafts.flatMap Draft.finish) = drafts.map fun draft => .ok draft.message := by
  have framed : ∀ message ∈ drafts.map Draft.message, message.WellFramed := by
    simp only [List.mem_map]
    rintro message ⟨draft, isDraft, rfl⟩
    exact Draft.wellFramed_message (composed draft isDraft).2
  have packed : drafts.flatMap Draft.finish = pack (drafts.map Draft.message) := by
    simp only [pack, List.flatMap_def, List.map_map]
    congr 1
    apply List.map_congr_left
    intro draft isDraft
    exact (Draft.toOctets_message (composed draft isDraft).1.aligned).symm
  rw [packed, ofDatagram_pack framed, List.map_map]
  rfl

theorem Draft.messageHeaderSize_le_length_finish (draft : Draft) :
    messageHeaderSize ≤ draft.finish.length := by
  simp [finish, messageHeaderSize]

/-- Finished drafts behind each other are read back one by one, each with its header and its whole
body, and arbitrary octets as messages that lie in them apart from each other, with one failure at
most, if and only if they start at a multiple of four or are too few for a header. Elsewhere reading
reports the first header again and again. -/
theorem Message.isFramed_iff (address : Nat) {drafts : List Draft}
    (composed : ∀ draft ∈ drafts, draft.IsComposed ∧ draft.size < UInt32.size) (buffer : Buffer) :
    (Yields ⟨address, drafts.flatMap Draft.finish⟩ (drafts.map fun draft => .ok draft.message) ↔
        address % 4 = 0 ∨ drafts = []) ∧
      ((∃ messages failure?, Layout buffer messages failure?) ↔
        buffer.IsAligned ∨ buffer.octets.length < messageHeaderSize) ∧
      (¬buffer.IsAligned → messageHeaderSize ≤ buffer.octets.length → ∀ count,
        firstItems count buffer =
          List.replicate count (.error (.truncated messageHeaderSize buffer.octets.length))) := by
  refine ⟨?_, exists_layout_iff, firstItems_of_not_aligned⟩
  by_cases aligned : Buffer.IsAligned ⟨address, drafts.flatMap Draft.finish⟩
  · have yields := (yields_iff aligned).mpr (ofDatagram_flatMap_finish composed).symm
    exact iff_of_true yields (.inl aligned)
  · rcases drafts with _ | ⟨draft, later⟩
    · simp [Yields, next?, messageHeaderSize]
    · have enough : messageHeaderSize ≤ ((draft :: later).flatMap Draft.finish).length := by
        have header := draft.messageHeaderSize_le_length_finish
        rw [List.flatMap_cons, List.length_append]
        omega
      have never := not_yields_of_not_aligned aligned enough
        ((draft :: later).map fun draft => .ok draft.message)
      exact iff_of_false never (by simpa [Buffer.IsAligned] using aligned)

/-- A draft with a wrong length in its header, and a container that is closed late and twice. -/
def Draft.lateNest : Draft :=
  (Composition.applyAll
    ⟨{ header := { length := 99, type := 112, flags := 2, sequence := 0, port := 0 } }, []⟩
    [.append [7, 0, 0], .openNest 1, .appendAttribute 2 [10], .closeNest 0, .setSequence 7,
      .append [1, 2, 3, 4, 5], .closeNest 0, .setPort 3]).draft

/-- The draft closed late and twice, with another one behind it, is read back at one address and not
at the next. -/
theorem Message.isFramed_iff_lateNest :
    let drafts : List Draft := [.lateNest, .ofType MessageType.done 2]
    (∀ draft ∈ drafts, draft.IsComposed ∧ draft.size < UInt32.size) ∧
      Yields ⟨8, drafts.flatMap Draft.finish⟩
        [.ok ⟨⟨40, 112, 2, 7, 3⟩, [7, 0, 0, 0, 20, 0, 1, 128, 5, 0, 2, 0, 10, 0, 0, 0,
            1, 2, 3, 4, 5, 0, 0, 0]⟩,
          .ok ⟨⟨16, 3, 2, 0, 0⟩, []⟩] ∧
      ¬Yields ⟨9, drafts.flatMap Draft.finish⟩ (drafts.map fun draft => .ok draft.message) := by
  intro drafts
  have composed : ∀ draft ∈ drafts, draft.IsComposed ∧ draft.size < UInt32.size := by
    simp only [drafts, List.forall_mem_cons]
    refine ⟨⟨⟨_, _, _, rfl⟩, by decide⟩, ⟨⟨_, [], [], rfl⟩, by decide⟩, by simp⟩
  refine ⟨composed, ?_, ?_⟩
  · exact (isFramed_iff 8 composed .empty).1.mpr (by simp)
  · exact fun yields =>
      absurd ((isFramed_iff 9 composed .empty).1.mp yields) (by simp [drafts])

/-- Sixteen octets at an odd address, which would be a message at a multiple of four, are reported
as too few without end. -/
theorem Message.not_isFramed_oddAddress :
    let buffer : Buffer := ⟨1, [16, 0, 0, 0, 3, 0, 0, 0, 0, 0, 0, 0, 0, 0, 0, 0]⟩
    (∀ count, firstItems count buffer = List.replicate count (.error (.truncated 16 16))) ∧
      ¬∃ messages failure?, Layout buffer messages failure? := by
  intro buffer
  have unaligned : ¬buffer.IsAligned := by decide
  refine ⟨firstItems_of_not_aligned unaligned (by decide), ?_⟩
  rw [exists_layout_iff]
  decide

end BridgeView
