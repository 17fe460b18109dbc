import BridgeView.Proofs.Attribute.Walk

/-!
# Decoding against a table

A table refuses a stream for the first attribute that breaks its rule, and for a header that cannot
be right only if no attribute before it does (`FirstOffence`). Otherwise it keeps, for each kind
that it knows, what the lenient walk finds: the slot of a kind holds the first payload, and every
payload of the kind keeps the rule, not only the first (`Keeps`).

Both outcomes come from one case distinction on the walk (`fill_cases`).
-/

namespace BridgeView

open Attribute

namespace Rule

variable {rule : Rule} {kind : UInt16} {payload : Octets} {head : Attribute}

/-- The size of a payload is within the bounds of a rule. -/
structure Fits (rule : Rule) (payload : Octets) : Prop where
  width_le : rule.kind.width ≤ payload.length
  least_le : rule.least ≠ 0 → rule.least ≤ payload.length
  le_most : rule.most ≠ 0 → payload.length ≤ rule.most

/-- A payload satisfies a rule. -/
structure Allows (rule : Rule) (payload : Octets) : Prop extends Fits rule payload where
  empty : rule.kind = .flag → payload = []
  wellFormed : rule.kind = .nested → checkStream payload = .ok ()

/-- The size of a payload breaks a rule. -/
inductive Breaks (rule : Rule) (payload : Octets) : AttributeFault → Prop where
  | narrow (short : payload.length < rule.kind.width) :
      Breaks rule payload (.tooShort rule.kind.width payload.length)
  | short (bounded : rule.least ≠ 0) (short : payload.length < rule.least) :
      Breaks rule payload (.tooShort rule.least payload.length)
  | long (bounded : rule.most ≠ 0) (long : rule.most < payload.length) :
      Breaks rule payload (.tooLong rule.most payload.length)
  | filled (isFlag : rule.kind = .flag) (filled : payload ≠ []) :
      Breaks rule payload (.flagPayload payload.length)

/-- A rule refuses an attribute for its size, or a container for the first header in it that cannot
be right. The error names the kind of the one or of the other. -/
inductive Refuses (rule : Rule) (head : Attribute) : Error → Prop where
  | size {fault : AttributeFault} (breaks : rule.Breaks head.payload fault) :
      Refuses rule head (.malformedAttribute head.kind fault)
  | inner {kind : UInt16} {fault : AttributeFault} (isNested : rule.kind = .nested)
      (fits : rule.Fits head.payload)
      (broken : front (leftover head.payload) = .broken kind fault) :
      Refuses rule head (.malformedAttribute kind fault)

/-- A container is allowed if the strict walk accepts what it holds. -/
theorem allows_nested (accepted : checkStream payload = .ok ()) :
    Rule.Allows { kind := .nested } payload := by
  refine ⟨⟨Nat.zero_le _, ?_, ?_⟩, ?_, fun _ => accepted⟩ <;> simp

/-- A payload of a kind other than the two that look into it only has to be long enough. -/
theorem allows_of_le {kind : PayloadKind} {least : Nat} (isPlain : kind ≠ .flag ∧ kind ≠ .nested)
    (width_le : kind.width ≤ payload.length) (least_le : least ≤ payload.length) :
    Rule.Allows { kind, least } payload := by
  refine ⟨⟨width_le, fun _ => least_le, ?_⟩, ?_, ?_⟩ <;> simp [isPlain]

theorem allows_exact {kind : PayloadKind} {size : Nat} (isPlain : kind ≠ .flag ∧ kind ≠ .nested)
    (width_le : kind.width ≤ payload.length) (isSize : payload.length = size) :
    (exact kind size).Allows payload := by
  refine ⟨⟨width_le, ?_, ?_⟩, ?_, ?_⟩ <;> simp [exact, isPlain, isSize]

theorem Allows.not_breaks (allows : rule.Allows payload) (fault : AttributeFault) :
    ¬rule.Breaks payload fault := by
  intro breaks
  cases breaks with
  | narrow short => exact Nat.not_lt.mpr allows.width_le short
  | short bounded short => exact Nat.not_lt.mpr (allows.least_le bounded) short
  | long bounded long => exact Nat.not_lt.mpr (allows.le_most bounded) long
  | filled isFlag filled => exact filled (allows.empty isFlag)

/-- What a rule allows is not refused. -/
theorem Allows.not_refuses (allows : rule.Allows head.payload) (error : Error) :
    ¬rule.Refuses head error := by
  intro refuses
  cases refuses with
  | size breaks => exact allows.not_breaks _ breaks
  | inner isNested _ broken =>
      have refused := checkStream_eq_error_iff.mpr ⟨_, _, broken, rfl⟩
      rw [allows.wellFormed isNested] at refused
      cases refused

/-- A payload of the right size is judged by what it holds. -/
theorem check_of_fits (fits : rule.Fits payload) (kind : UInt16) :
    rule.check kind payload =
      match rule.kind with
      | .flag =>
        if payload.length = 0 then .ok ()
        else .error (.malformedAttribute kind (.flagPayload payload.length))
      | .nested => checkStream payload
      | _ => .ok () := by
  have notNarrow : ¬payload.length < rule.kind.width := Nat.not_lt.mpr fits.width_le
  have notShort : ¬(0 < rule.least ∧ payload.length < rule.least) := by
    intro short
    exact Nat.not_lt.mpr (fits.least_le (Nat.ne_of_gt short.1)) short.2
  have notLong : ¬(0 < rule.most ∧ rule.most < payload.length) := by
    intro long
    exact Nat.not_lt.mpr (fits.le_most (Nat.ne_of_gt long.1)) long.2
  exact (if_neg notNarrow).trans ((if_neg notShort).trans (if_neg notLong))

/-- A payload of the wrong size is refused for breaking the rule. -/
theorem check_of_not_fits (fits : ¬rule.Fits payload) (kind : UInt16) :
    ∃ fault, rule.check kind payload = .error (.malformedAttribute kind fault) ∧
      rule.Breaks payload fault := by
  unfold check
  dsimp only
  by_cases narrow : payload.length < rule.kind.width
  · rw [if_pos narrow]
    exact ⟨_, rfl, .narrow narrow⟩
  by_cases short : 0 < rule.least ∧ payload.length < rule.least
  · rw [if_neg narrow, if_pos short]
    exact ⟨_, rfl, .short (Nat.ne_of_gt short.1) short.2⟩
  by_cases long : 0 < rule.most ∧ rule.most < payload.length
  · rw [if_neg narrow, if_neg short, if_pos long]
    exact ⟨_, rfl, .long (Nat.ne_of_gt long.1) long.2⟩
  · exact absurd ⟨by omega, by omega, by omega⟩ fits

/-- Checking accepts what the rule allows and names an offence otherwise. -/
theorem check_cases (rule : Rule) (head : Attribute) :
    (rule.check head.kind head.payload = .ok () ∧ rule.Allows head.payload) ∨
      ∃ error, rule.check head.kind head.payload = .error error ∧ rule.Refuses head error := by
  by_cases fits : rule.Fits head.payload
  · rw [check_of_fits fits]
    by_cases isFlag : rule.kind = .flag
    · rw [isFlag]
      dsimp only
      by_cases empty : head.payload = []
      · refine .inl ⟨by simp [empty], fits, fun _ => empty, ?_⟩
        simp [isFlag]
      · refine .inr ⟨_, ?_, .size (.filled isFlag empty)⟩
        rw [if_neg (by simpa using empty)]
    by_cases isNested : rule.kind = .nested
    · rw [isNested]
      dsimp only
      rcases inside : checkStream head.payload with error | _
      · rcases checkStream_eq_error_iff.mp inside with ⟨kind, fault, broken, rfl⟩
        exact .inr ⟨_, rfl, .inner isNested fits broken⟩
      · exact .inl ⟨rfl, fits, by simp [isFlag], fun _ => inside⟩
    · refine .inl ⟨?_, fits, by simp [isFlag], by simp [isNested]⟩
      split
      · exact absurd ‹_› isFlag
      · exact absurd ‹_› isNested
      · rfl
  · rcases check_of_not_fits fits head.kind with ⟨fault, refused, breaks⟩
    exact .inr ⟨_, refused, .size breaks⟩

end Rule

namespace AttributeTable

variable {table : AttributeTable} {stream rest : Octets} {head : Attribute} {error : Error}

/-- A table allows the attributes that it does not know. -/
def Allows (table : AttributeTable) (head : Attribute) : Prop :=
  ∀ rule, table.rules[head.kind.toNat]? = some rule → rule.Allows head.payload

/-- Why a table refuses a stream. -/
inductive FirstOffence (table : AttributeTable) (stream : Octets) : Error → Prop where
  | payload {before later : List Attribute} {head : Attribute} {rule : Rule} {error : Error}
      (found : walk stream = before ++ head :: later)
      (allowed : ∀ earlier ∈ before, table.Allows earlier)
      (known : table.rules[head.kind.toNat]? = some rule) (refuses : rule.Refuses head error) :
      FirstOffence table stream error
  | header {kind : UInt16} {fault : AttributeFault}
      (allowed : ∀ head ∈ walk stream, table.Allows head)
      (broken : front (leftover stream) = .broken kind fault) :
      FirstOffence table stream (.malformedAttribute kind fault)

/-- An offence behind an attribute that is allowed is the first one of the whole stream. -/
theorem FirstOffence.of_item (offence : table.FirstOffence rest error)
    (read : front stream = .item head rest) (allowed : table.Allows head) :
    table.FirstOffence stream error := by
  cases offence with
  | @payload before later refused _ _ found allowedBefore known refuses =>
      have foundBehind : walk stream = (head :: before) ++ refused :: later := by
        rw [walk_of_item read, found]
        rfl
      refine .payload foundBehind ?_ known refuses
      simpa using ⟨allowed, allowedBefore⟩
  | header allowedRest broken =>
      refine .header ?_ (by rw [leftover_of_item read]; exact broken)
      rw [walk_of_item read]
      simpa using ⟨allowed, allowedRest⟩

/-- Where the strict walk accepts a stream, its first offence is an attribute not allowed. -/
theorem FirstOffence.not_allowed (offence : table.FirstOffence stream error)
    (accepted : checkStream stream = .ok ()) : ¬∀ head ∈ walk stream, table.Allows head := by
  intro allowed
  cases offence with
  | @payload _ _ head rule _ found _ known refuses =>
      have allows := allowed head (by rw [found]; simp) rule known
      exact allows.not_refuses _ refuses
  | header _ broken =>
      have refused := checkStream_eq_error_iff.mpr ⟨_, _, broken, rfl⟩
      rw [accepted] at refused
      cases refused

/-- The slots with one more attribute, which counts if it is the first of its kind. -/
def note (slots : List (Option Octets)) (head : Attribute) : List (Option Octets) :=
  slots.modify head.kind.toNat (·.or (some head.payload))

/-- An attribute that the table does not know fills no slot. -/
theorem note_of_unknown {slots : List (Option Octets)}
    (unknown : slots.length ≤ head.kind.toNat) : note slots head = slots := by
  apply List.ext_getElem?
  intro position
  rw [note, List.getElem?_modify]
  rcases kept : slots[position]? with _ | slot
  · rfl
  · have inside := (List.getElem?_eq_some_iff.mp kept).1
    have apart : head.kind.toNat ≠ position := by omega
    simp [apart]

/-- The slot of a kind is filled by its first payload. -/
theorem getElem?_foldl_note (attributes : List Attribute) (kind : UInt16)
    (slots : List (Option Octets)) :
    (attributes.foldl note slots)[kind.toNat]? =
      slots[kind.toNat]?.map
        (·.or ((attributes.filter (·.kind == kind)).map (·.payload)).head?) := by
  induction attributes generalizing slots with
  | nil => simp
  | cons head later ih =>
      rw [List.foldl_cons, ih, note, List.getElem?_modify]
      by_cases same : head.kind = kind
      · subst same
        rcases slots[head.kind.toNat]? with _ | _ | _ <;> simp
      · have apart : head.kind.toNat ≠ kind.toNat := fun equal => same (UInt16.toNat.inj equal)
        simp [same, apart]

/-- A stream is kept if every attribute is allowed and every header can be right, and refused for
the first offence if not. -/
theorem fill_cases (table : AttributeTable) (stream : Octets) (slots : List (Option Octets))
    (complete : slots.length = table.rules.length) :
    ((checkStream stream = .ok () ∧ ∀ head ∈ walk stream, table.Allows head) ∧
        table.fill stream slots = .ok ((walk stream).foldl note slots)) ∨
      ∃ error, table.fill stream slots = .error error ∧ table.FirstOffence stream error := by
  induction stream using front_induction generalizing slots with
  | finished stream finished =>
      have stops : ∀ head rest, front stream ≠ .item head rest := by simp [finished]
      rw [walk_of_not_item stops, checkStream_of_finished finished, fill_of_finished finished]
      exact .inl ⟨⟨rfl, by simp⟩, rfl⟩
  | broken stream kind fault broken =>
      have stops : ∀ head rest, front stream ≠ .item head rest := by simp [broken]
      refine .inr ⟨_, fill_of_broken broken, .header ?_ ?_⟩
      · simp [walk_of_not_item stops]
      · rw [leftover_of_not_item stops]
        exact broken
  | item stream head rest read ih =>
      -- Once the attribute in front is allowed, the outcome is that of the rest.
      have ofAllowed (allowed : table.Allows head)
          (filled : table.fill stream slots = table.fill rest (note slots head)) :
          ((checkStream stream = .ok () ∧ ∀ head ∈ walk stream, table.Allows head) ∧
              table.fill stream slots = .ok ((walk stream).foldl note slots)) ∨
            ∃ error, table.fill stream slots = .error error ∧
              table.FirstOffence stream error := by
        rw [filled, walk_of_item read, checkStream_of_item read, List.foldl_cons,
          List.forall_mem_cons]
        rcases ih (note slots head) (by rw [note, List.length_modify, complete]) with
          ⟨⟨accepted, allowedRest⟩, kept⟩ | ⟨error, refused, offence⟩
        · exact .inl ⟨⟨accepted, allowed, allowedRest⟩, kept⟩
        · exact .inr ⟨error, refused, offence.of_item read allowed⟩
      rcases known : table.rules[head.kind.toNat]? with _ | rule
      · apply ofAllowed
        · intro rule isRule
          rw [known] at isRule
          cases isRule
        · have unknown := List.getElem?_eq_none_iff.mp known
          rw [fill_of_item read, known, note_of_unknown (by omega)]
      · rcases rule.check_cases head with ⟨checked, allows⟩ | ⟨error, refused, refuses⟩
        · apply ofAllowed
          · intro other isRule
            rw [known] at isRule
            cases isRule
            exact allows
          · rw [fill_of_item read, known]
            simp only [checked]
            rfl
        · have found : walk stream = [] ++ head :: walk rest := walk_of_item read
          refine .inr ⟨error, ?_, .payload found (by simp) known refuses⟩
          rw [fill_of_item read, known]
          simp only [refused]

/-- Decoding fills the slots from the whole stream, or stops at the first offence. -/
theorem decode_cases (table : AttributeTable) (stream : Octets) :
    ((checkStream stream = .ok () ∧ ∀ head ∈ walk stream, table.Allows head) ∧
        table.decode stream =
          .ok ⟨(walk stream).foldl note (List.replicate table.rules.length none), stream⟩) ∨
      ∃ error, table.decode stream = .error error ∧ table.FirstOffence stream error := by
  rcases table.fill_cases stream (List.replicate table.rules.length none) (by simp) with
    ⟨sound, kept⟩ | ⟨error, refused, offence⟩
  · exact .inl ⟨sound, by rw [decode, kept]; rfl⟩
  · exact .inr ⟨error, by rw [decode, refused]; rfl, offence⟩

/-- Decoding succeeds if and only if the strict walk does and every attribute is allowed. -/
theorem decode_isOk_iff :
    (∃ decoded, table.decode stream = .ok decoded) ↔
      checkStream stream = .ok () ∧ ∀ head ∈ walk stream, table.Allows head := by
  constructor
  · rintro ⟨decoded, isOk⟩
    rcases table.decode_cases stream with ⟨sound, _⟩ | ⟨error, refused, _⟩
    · exact sound
    · rw [isOk] at refused
      cases refused
  · intro sound
    rcases table.decode_cases stream with ⟨_, kept⟩ | ⟨_, _, offence⟩
    · exact ⟨_, kept⟩
    · exact absurd sound.2 (offence.not_allowed sound.1)

theorem checkStream_of_decode {decoded : DecodedStream}
    (isOk : table.decode stream = .ok decoded) : checkStream stream = .ok () :=
  (decode_isOk_iff.mp ⟨decoded, isOk⟩).1

/-- What decoding gives is determined by the walk. -/
theorem decode_eq_ok {decoded : DecodedStream} (isOk : table.decode stream = .ok decoded) :
    (∀ head ∈ walk stream, table.Allows head) ∧ decoded =
      ⟨(walk stream).foldl note (List.replicate table.rules.length none), stream⟩ := by
  rcases table.decode_cases stream with ⟨sound, kept⟩ | ⟨error, refused, _⟩
  · rw [isOk, Except.ok.injEq] at kept
    exact ⟨sound.2, kept⟩
  · rw [isOk] at refused
    cases refused

end AttributeTable

namespace DecodedStream

/-- What a decoded stream says of a kind with a rule: all payloads of the kind are kept in their
order, the first is the one that is looked up, each satisfies the rule, and a word of the width
that the rule demands can be read whenever the kind is there. -/
structure Keeps (decoded : DecodedStream) (stream : Octets) (kind : UInt16) (rule : Rule) :
    Prop where
  all_eq : decoded.all kind = ((walk stream).filter (·.kind == kind)).map (·.payload)
  get?_eq : decoded.get? kind = (decoded.all kind).head?
  allowed : ∀ payload ∈ decoded.all kind, rule.Allows payload
  octet : rule.kind = .word8 → (decoded.octet? kind).isSome = decoded.has kind
  word16 : rule.kind = .word16 → (decoded.word16? kind).isSome = decoded.has kind
  word32 : rule.kind = .word32 → (decoded.word32? kind).isSome = decoded.has kind
  word64 : rule.kind = .word64 → (decoded.word64? kind).isSome = decoded.has kind

end DecodedStream

namespace Attribute

theorem isSome_octet {payload : Octets} (enough : 1 ≤ payload.length) :
    (octet payload).toOption.isSome = true := by
  rcases payload with _ | ⟨octet, rest⟩
  · simp at enough
  · rfl

theorem isSome_word16 {payload : Octets} (enough : 2 ≤ payload.length) :
    (word16 payload).toOption.isSome = true := by
  rcases payload with _ | ⟨low, _ | ⟨high, rest⟩⟩
  · simp at enough
  · simp at enough
  · rfl

theorem isSome_word32 {payload : Octets} (enough : 4 ≤ payload.length) :
    (word32 payload).toOption.isSome = true := by
  rcases payload with _ | ⟨first, _ | ⟨second, _ | ⟨third, _ | ⟨fourth, rest⟩⟩⟩⟩
  · simp at enough
  · simp at enough
  · simp at enough
  · simp at enough
  · rfl

theorem isSome_word64 {payload : Octets} (enough : 8 ≤ payload.length) :
    (word64 payload).toOption.isSome = true := by
  rw [word64, Octets.split?_of_le enough]
  rfl

end Attribute

namespace AttributeTable

open DecodedStream

variable {table : AttributeTable} {stream : Octets}

/-- After decoding, the slots of a kind and all its payloads are those that the stream holds. -/
theorem keeps_of_decode {decoded : DecodedStream} (isOk : table.decode stream = .ok decoded)
    {kind : UInt16} {rule : Rule} (known : table.rules[kind.toNat]? = some rule) :
    decoded.Keeps stream kind rule := by
  rcases decode_eq_ok isOk with ⟨allowed, decoded_eq⟩
  have isKnown := (List.getElem?_eq_some_iff.mp known).1
  have all_eq : decoded.all kind = ((walk stream).filter (·.kind == kind)).map (·.payload) := by
    rw [decoded_eq]
    rfl
  have get?_eq : decoded.get? kind = (decoded.all kind).head? := by
    rw [all_eq, decoded_eq, get?, getElem?_foldl_note, List.getElem?_replicate, if_pos isKnown]
    simp
  have allows : ∀ payload ∈ decoded.all kind, rule.Allows payload := by
    intro payload isFound
    rw [all_eq, List.mem_map] at isFound
    rcases isFound with ⟨head, isFound, rfl⟩
    rw [List.mem_filter, beq_iff_eq] at isFound
    apply allowed head isFound.1 rule
    rw [isFound.2]
    exact known
  have isSome_read {β : Type} {read : Octets → Except Error β} (width : Nat)
      (reads : ∀ {payload}, width ≤ payload.length → (read payload).toOption.isSome = true)
      (isWidth : rule.kind.width = width) :
      ((decoded.get? kind).bind fun payload => (read payload).toOption).isSome
        = decoded.has kind := by
    rw [has]
    rcases found : decoded.get? kind with _ | payload
    · rfl
    · rw [get?_eq] at found
      have enough := (allows payload (List.mem_of_mem_head? found)).width_le
      rw [isWidth] at enough
      exact reads enough
  exact {
    all_eq
    get?_eq
    allowed := allows
    octet := fun isWord => isSome_read 1 isSome_octet (by rw [isWord]; rfl)
    word16 := fun isWord => isSome_read 2 isSome_word16 (by rw [isWord]; rfl)
    word32 := fun isWord => isSome_read 4 isSome_word32 (by rw [isWord]; rfl)
    word64 := fun isWord => isSome_read 8 isSome_word64 (by rw [isWord]; rfl) }

/-- The payloads of a kind among some attributes. -/
def payloads (kind : UInt16) (attributes : List Attribute) : List Octets :=
  (attributes.filter (·.kind == kind)).map (·.payload)

theorem allows_of_known {head : Attribute} {rule : Rule}
    (known : table.rules[head.kind.toNat]? = some rule) (allows : rule.Allows head.payload) :
    table.Allows head := by
  intro other isOther
  rw [known, Option.some.injEq] at isOther
  rw [← isOther]
  exact allows

/-- A stream of attributes that the table allows is decoded to the payloads of these attributes. -/
theorem decode_of_spells {attributes : List Attribute} (spells : Spells stream attributes)
    (allowed : ∀ head ∈ attributes, table.Allows head) :
    ∃ decoded, table.decode stream = .ok decoded ∧
      ∀ kind, decoded.all kind = payloads kind attributes := by
  rw [← spells.walk_eq] at allowed
  rcases decode_isOk_iff.mpr ⟨spells.accepted, allowed⟩ with ⟨decoded, isOk⟩
  refine ⟨decoded, isOk, ?_⟩
  intro kind
  rw [(decode_eq_ok isOk).2, ← spells.walk_eq]
  rfl

theorem get?_eq_head? {decoded : DecodedStream} (isOk : table.decode stream = .ok decoded)
    {kind : UInt16} (isKnown : kind.toNat < table.rules.length) :
    decoded.get? kind = (decoded.all kind).head? :=
  (keeps_of_decode isOk (List.getElem?_eq_getElem isKnown)).get?_eq

theorem payloads_map_same {α : Type} (kind : UInt16) (payload : α → Octets) (items : List α) :
    payloads kind (items.map fun item => ⟨kind, payload item⟩) = items.map payload := by
  have all : (items.map fun item => (⟨kind, payload item⟩ : Attribute)).filter (·.kind == kind)
      = items.map fun item => ⟨kind, payload item⟩ := by
    simp [List.filter_eq_self]
  rw [payloads, all, List.map_map]
  rfl

/-- A stream of attributes of one kind is decoded to their payloads. -/
theorem decode_flatMap {α : Type} {kind : UInt16} {rule : Rule} {type : α → UInt16}
    {payload : α → Octets} {items : List α} (known : table.rules[kind.toNat]? = some rule)
    (isKind : ∀ item ∈ items, type item &&& kindMask = kind)
    (fits : ∀ item ∈ items, attributeHeaderSize + (payload item).length < 65536)
    (allows : ∀ item ∈ items, rule.Allows (payload item)) :
    ∃ decoded, table.decode (items.flatMap fun item => encode (type item) (payload item))
        = .ok decoded ∧ decoded.all kind = items.map payload := by
  have spells : Spells (items.flatMap fun item => encode (type item) (payload item))
      (items.map fun item => ⟨kind, payload item⟩) := spells_flatMap isKind fits
  have allowed : ∀ head ∈ items.map fun item => (⟨kind, payload item⟩ : Attribute),
      table.Allows head := by
    intro head isWritten
    rcases List.mem_map.mp isWritten with ⟨item, isItem, rfl⟩
    exact allows_of_known known (allows item isItem)
  rcases decode_of_spells spells allowed with ⟨decoded, isOk, all_eq⟩
  refine ⟨decoded, isOk, ?_⟩
  rw [all_eq kind, payloads_map_same]

theorem decodeAfter_append {header stream : Octets} {size : Nat} (isSize : header.length = size)
    (aligned : size % 4 = 0) : table.decodeAfter size (header ++ stream) = table.decode stream := by
  have enough : ¬(header ++ stream).length < size := by
    rw [List.length_append]
    omega
  rw [decodeAfter, if_neg enough, Octets.alignUp_of_mod_four aligned, List.drop_left' isSize]

end AttributeTable

/-- If each of the payloads can be read, so can their list. -/
theorem mapM_map_eq_ok {α β : Type} {read : Octets → Except Error β} {payload : α → Octets}
    {value : α → β} {items : List α}
    (reads : ∀ item ∈ items, read (payload item) = .ok (value item)) :
    (items.map payload).mapM read = .ok (items.map value) := by
  induction items with
  | nil => rfl
  | cons item later ih =>
      rw [List.forall_mem_cons] at reads
      rw [List.map_cons, List.mapM_cons, reads.1, ih reads.2]
      rfl

end BridgeView
