import BridgeView.Multicast.Table
import BridgeView.Proofs.Attribute.Decoding
import BridgeView.Vlan.Port

/-!
# How reading can fail

A message that is too short for its header is truncated, and one of another address family is for
somebody else. From there on a reader takes records and words out of payloads that a table has
checked, every occurrence at every depth and not only the first one, so that nothing it takes can
be missing. What is left are the errors of the tables themselves, and for VLANs the absence of what
has to be named (`read_classifies`).

A scanner takes a fixed number of octets and fails if and only if there are fewer
(`Scanner.Takes`). What a reader can come to is put together along its binds (`Yields`).
-/

namespace BridgeView

open Attribute

/-! ## Scanners -/

namespace Scanner

variable {α β : Type} {scanner : Scanner α} {count : Nat} {input : Octets}

/-- A scanner takes that many octets wherever there are as many, and fails elsewhere. -/
structure Takes (scanner : Scanner α) (count : Nat) : Prop where
  enough : ∀ input : Octets, count ≤ input.length →
    ∃ value, scanner.run input = some (value, input.drop count)
  short : ∀ input : Octets, input.length < count → scanner.run input = none

theorem takes_pure (value : α) : Takes (pure value) 0 where
  enough _ _ := ⟨value, rfl⟩
  short _ few := absurd few (Nat.not_lt_zero _)

/-- Scanners take one after the other what they take each. -/
theorem Takes.bind {next : α → Scanner β} {later : Nat} (first : scanner.Takes count)
    (rest : ∀ value, (next value).Takes later) : Takes (scanner >>= next) (count + later) where
  enough input enough := by
    rcases first.enough input (by omega) with ⟨value, taken⟩
    rcases (rest value).enough (input.drop count) (by simp; omega) with ⟨result, takenLater⟩
    refine ⟨result, ?_⟩
    simp [taken, takenLater]
  short input few := by
    by_cases missing : input.length < count
    · simp [first.short input missing]
    · rcases first.enough input (by omega) with ⟨value, taken⟩
      have tooFew := (rest value).short (input.drop count) (by simp; omega)
      simp [taken, tooFew]

theorem takes_octet : octet.Takes 1 where
  enough input enough := by
    rcases input with _ | ⟨first, rest⟩
    · simp at enough
    · exact ⟨first, rfl⟩
  short input few := by
    rcases input with _ | ⟨first, rest⟩
    · rfl
    · simp at few

theorem takes_word16 : word16.Takes 2 where
  enough input enough := by
    rcases input with _ | ⟨low, _ | ⟨high, rest⟩⟩
    · simp at enough
    · simp at enough
    · exact ⟨_, rfl⟩
  short input few := by
    rcases input with _ | ⟨low, _ | ⟨high, rest⟩⟩
    · rfl
    · rfl
    · simp only [List.length_cons] at few
      omega

theorem takes_word32 : word32.Takes 4 where
  enough input enough := by
    rcases input with _ | ⟨first, _ | ⟨second, _ | ⟨third, _ | ⟨fourth, rest⟩⟩⟩⟩
    · simp at enough
    · simp at enough
    · simp at enough
    · simp at enough
    · exact ⟨_, rfl⟩
  short input few := by
    rcases input with _ | ⟨first, _ | ⟨second, _ | ⟨third, _ | ⟨fourth, rest⟩⟩⟩⟩
    · rfl
    · rfl
    · rfl
    · rfl
    · simp only [List.length_cons] at few
      omega

theorem takes_octets (count : Nat) : (octets count).Takes count where
  enough input enough := by
    simp [StateT.run, octets, enough]
  short input few := by
    simp [StateT.run, octets, few]

theorem Takes.runRecord (takes : scanner.Takes count) (enough : count ≤ input.length) :
    ∃ value, scanner.runRecord input = .ok (value, input.drop count) := by
  rcases takes.enough input enough with ⟨value, taken⟩
  exact ⟨value, by simp only [Scanner.runRecord, taken]⟩

/-- A record fails to be read if and only if there are too few octets. -/
theorem Takes.runRecord_fails_iff (takes : scanner.Takes count) :
    (∃ error, scanner.runRecord input = .error error) ↔ input.length < count := by
  constructor
  · rintro ⟨error, failed⟩
    rcases Nat.lt_or_ge input.length count with few | enough
    · exact few
    · rcases takes.runRecord enough with ⟨value, taken⟩
      simp [taken] at failed
  · intro few
    exact ⟨.recordTooShort, by simp only [Scanner.runRecord, takes.short input few]⟩

theorem Takes.runHeader_of_lt (takes : scanner.Takes count) (few : input.length < count) :
    scanner.runHeader count input = .error (.truncated count input.length) := by
  simp only [Scanner.runHeader, takes.short input few]

end Scanner

open Scanner

theorem VlanHeader.takes_scan : scan.Takes size :=
  takes_octet.bind fun _ => takes_octet.bind fun _ => takes_word16.bind fun _ =>
    takes_word32.bind fun _ => takes_pure _

theorem PortHeader.takes_scan : scan.Takes size :=
  takes_octet.bind fun _ => (takes_octets 3).bind fun _ => takes_word32.bind fun _ => takes_pure _

theorem VlanInfo.takes_scan : scan.Takes size :=
  takes_word16.bind fun _ => takes_word16.bind fun _ => takes_pure _

theorem GroupRecord.takes_scan : scan.Takes size :=
  takes_word32.bind fun _ => takes_octet.bind fun _ => takes_octet.bind fun _ =>
    takes_word16.bind fun _ => (takes_octets 16).bind fun _ => (takes_octets 2).bind fun _ =>
      (takes_octets 2).bind fun _ => takes_pure _

theorem GroupRecord.takes_scanUnpadded : scanUnpadded.Takes size :=
  takes_scan.bind fun _ => takes_pure _

/-! ## Outcomes -/

/-- A value of which something holds, or one of the errors that are allowed. -/
inductive Yields {α : Type} (allowed : Error → Prop) (holds : α → Prop) :
    Except Error α → Prop where
  | value {value : α} (isHeld : holds value) : Yields allowed holds (.ok value)
  | error {error : Error} (isAllowed : allowed error) : Yields allowed holds (.error error)

namespace Yields

variable {α β : Type} {allowed more : Error → Prop} {holds : α → Prop} {later : β → Prop}
  {outcome : Except Error α} {next : α → Except Error β}

/-- What yields a value that holds can be followed by what needs it. -/
theorem bind (first : Yields allowed holds outcome)
    (rest : ∀ value, holds value → Yields allowed later (next value)) :
    Yields allowed later (outcome >>= next) := by
  cases first with
  | value isHeld => exact rest _ isHeld
  | error isAllowed => exact .error isAllowed

theorem imp {known : α → Prop} (yields : Yields allowed holds outcome)
    (weaker : ∀ value, holds value → known value) : Yields allowed known outcome := by
  cases yields with
  | value isHeld => exact .value (weaker _ isHeld)
  | error isAllowed => exact .error isAllowed

theorem mono (yields : Yields allowed holds outcome)
    (weaker : ∀ error, allowed error → more error) : Yields more holds outcome := by
  cases yields with
  | value isHeld => exact .value isHeld
  | error isAllowed => exact .error (weaker _ isAllowed)

theorem map {result : α → β} (yields : Yields allowed holds outcome)
    (leads : ∀ value, holds value → later (result value)) :
    Yields allowed later (outcome.map result) := by
  cases yields with
  | value isHeld => exact .value (leads _ isHeld)
  | error isAllowed => exact .error isAllowed

/-- Reading items one by one yields their values if every item does. -/
theorem mapM {read : α → Except Error β} {items : List α}
    (reads : ∀ item ∈ items, Yields allowed (fun _ => True) (read item)) :
    Yields allowed (fun _ => True) (items.mapM read) := by
  induction items with
  | nil => exact .value trivial
  | cons item rest ih =>
      rw [List.forall_mem_cons] at reads
      rw [List.mapM_cons]
      apply reads.1.bind
      intro value _
      apply (ih reads.2).bind
      intro values _
      exact .value trivial

end Yields

/-- An attribute breaks the rules of its stream or of its table. -/
def BreaksRule (error : Error) : Prop :=
  ∃ kind fault, error = .malformedAttribute kind fault

/-- An attribute breaks a rule, or one that has to be there is absent. -/
def BreaksRuleOrLacks (error : Error) : Prop :=
  BreaksRule error ∨ ∃ name, error = .missingAttribute name

namespace AttributeTable

variable {table : AttributeTable} {stream : Octets} {error : Error}

theorem FirstOffence.breaksRule (offence : table.FirstOffence stream error) :
    BreaksRule error := by
  cases offence with
  | header _ _ => exact ⟨_, _, rfl⟩
  | payload _ _ _ refuses =>
      cases refuses with
      | size _ => exact ⟨_, _, rfl⟩
      | inner _ _ _ => exact ⟨_, _, rfl⟩

end AttributeTable

/-- Every payload that a decoded stream has of a kind satisfies the rule of that kind. -/
structure DecodedStream.Conforms (decoded : DecodedStream) (table : AttributeTable) : Prop where
  all : ∀ kind rule, table.rules[kind.toNat]? = some rule →
    ∀ payload ∈ decoded.all kind, rule.Allows payload
  first : ∀ kind rule, table.rules[kind.toNat]? = some rule →
    ∀ payload, decoded.get? kind = some payload → rule.Allows payload

/-- Decoding gives a stream that conforms to the table, or an error for a broken rule. -/
theorem AttributeTable.yields_decode (table : AttributeTable) (stream : Octets) :
    Yields BreaksRule (·.Conforms table) (table.decode stream) := by
  rcases isDecoded : table.decode stream with error | decoded
  · rcases table.decode_cases stream with ⟨_, kept⟩ | ⟨first, refused, offence⟩
    · rw [isDecoded] at kept
      cases kept
    · rw [isDecoded, Except.error.injEq] at refused
      subst refused
      exact .error offence.breaksRule
  · refine .value ⟨?_, ?_⟩
    · intro kind rule known
      exact (keeps_of_decode isDecoded known).allowed
    · intro kind rule known payload found
      have keeps := keeps_of_decode isDecoded known
      rw [keeps.get?_eq] at found
      exact keeps.allowed payload (List.mem_of_mem_head? found)

/-- A nested stream conforms to its own table. -/
theorem DecodedStream.yields_nested (decoded : DecodedStream) (kind : UInt16)
    (table : AttributeTable) :
    Yields BreaksRule (fun nested? => ∀ nested, nested? = some nested → nested.Conforms table)
      (decoded.nested kind table) := by
  unfold nested
  rcases decoded.get? kind with _ | payload
  · exact .value (by simp)
  · apply (table.yields_decode payload).map
    intro nested conforms _ isNested
    cases isNested
    exact conforms

/-! ## Readers -/

/-- Reading a VLAN fails for a broken rule or for what is missing only. -/
theorem VlanEntry.yields_ofStream (stream : Octets) :
    Yields BreaksRuleOrLacks (fun _ => True) (ofStream stream) := by
  apply ((table.yields_decode stream).mono fun _ => Or.inl).bind
  intro decoded conforms
  split
  · exact .error (.inr ⟨_, rfl⟩)
  · rename_i record found
    have allowed := conforms.first infoKind (.exact .binary VlanInfo.size) rfl record found
    rcases VlanInfo.takes_scan.runRecord (allowed.least_le (by decide)) with ⟨info, taken⟩
    rw [taken]
    exact .value trivial

/-- Reading a membership from enough octets fails for a broken rule only. -/
theorem GroupEntry.yields_ofInfo {payload : Octets} (enough : GroupRecord.size ≤ payload.length) :
    Yields BreaksRule (fun _ => True) (ofInfo payload) := by
  rcases GroupRecord.takes_scanUnpadded.runRecord enough with ⟨record, taken⟩
  rw [ofInfo, taken]
  apply (extraTable.yields_decode _).bind
  intro extra _
  exact .value trivial

theorem Attribute.yields_word32 {payload : Octets} (enough : 4 ≤ payload.length) :
    Yields BreaksRule (fun _ => True) (word32 payload) := by
  have isSome := isSome_word32 enough
  rcases isWord : word32 payload with error | word
  · simp [isWord, Except.toOption] at isSome
  · exact .value trivial

namespace GroupTable

theorem yields_entriesOfStream (stream : Octets) :
    Yields BreaksRule (fun _ => True) (entriesOfStream stream) := by
  apply (entryTable.yields_decode stream).bind
  intro decoded conforms
  apply Yields.mapM
  intro payload isKept
  have allowed := conforms.all infoKind { kind := .binary, least := GroupRecord.size } rfl
  exact GroupEntry.yields_ofInfo ((allowed payload isKept).least_le (by decide))

/-- Reading memberships fails for a broken rule only. -/
theorem yields_readEntries (decoded : DecodedStream) :
    Yields BreaksRule (fun _ => True) (readEntries decoded) := by
  apply (decoded.yields_nested databaseKind databaseTable).bind
  intro nested? _
  rcases nested? with _ | database
  · exact .value trivial
  · apply (Yields.mapM fun stream _ => yields_entriesOfStream stream).bind
    intro entries _
    exact .value trivial

/-- Reading router ports fails for a broken rule only. -/
theorem yields_readRouterPorts (decoded : DecodedStream) :
    Yields BreaksRule (fun _ => True) (readRouterPorts decoded) := by
  apply (decoded.yields_nested routerKind routerTable).bind
  intro nested? conforms
  rcases nested? with _ | router
  · exact .value trivial
  · apply Yields.mapM
    intro payload isKept
    have allowed := (conforms router rfl).all routerPortKind { kind := .binary, least := 4 } rfl
    exact yields_word32 ((allowed payload isKept).least_le (by decide))

end GroupTable

/-! ## Messages -/

/-- How a reader of bridge messages can end. Too few octets for the family header are truncated, a
message of another address family is no object, and every other one is an object or a fault. -/
structure Classifies {α : Type} (read : Octets → Except Error (Option α))
    (isFault : Error → Prop) (isComplete : α → Prop) : Prop where
  truncated_iff : ∀ payload least actual, read payload = .error (.truncated least actual) ↔
    payload.length < 8 ∧ least = 8 ∧ actual = payload.length
  none_iff : ∀ payload, read payload = .ok none ↔
    8 ≤ payload.length ∧ payload.head? ≠ some bridgeAddressFamily
  others : ∀ payload, 8 ≤ payload.length → payload.head? = some bridgeAddressFamily →
    (∃ object, read payload = .ok (some object) ∧ isComplete object) ∨
      ∃ error, read payload = .error error ∧ isFault error

/-- The outcome of a reader for one payload. -/
inductive Reads {α : Type} (isFault : Error → Prop) (isComplete : α → Prop) (payload : Octets) :
    Except Error (Option α) → Prop where
  | truncated (short : payload.length < 8) :
      Reads isFault isComplete payload (.error (.truncated 8 payload.length))
  | foreign (enough : 8 ≤ payload.length) (other : payload.head? ≠ some bridgeAddressFamily) :
      Reads isFault isComplete payload (.ok none)
  | object {object : α} (enough : 8 ≤ payload.length)
      (isBridge : payload.head? = some bridgeAddressFamily) (complete : isComplete object) :
      Reads isFault isComplete payload (.ok (some object))
  | fault {error : Error} (enough : 8 ≤ payload.length)
      (isBridge : payload.head? = some bridgeAddressFamily) (fault : isFault error) :
      Reads isFault isComplete payload (.error error)

theorem Reads.isComplete {α : Type} {isFault : Error → Prop} {isComplete : α → Prop}
    {payload : Octets} {object : α}
    (reads : Reads isFault isComplete payload (.ok (some object))) : isComplete object := by
  cases reads with
  | object _ _ complete => exact complete

theorem BreaksRuleOrLacks.ne_truncated {error : Error} (isFault : BreaksRuleOrLacks error)
    (least actual : Nat) : error ≠ .truncated least actual := by
  rcases isFault with ⟨kind, fault, rfl⟩ | ⟨name, rfl⟩ <;> simp

/-- A reader that is described payload by payload is classified. -/
theorem Classifies.of_reads {α : Type} {read : Octets → Except Error (Option α)}
    {isFault : Error → Prop} {isComplete : α → Prop}
    (known : ∀ error, isFault error → BreaksRuleOrLacks error)
    (reads : ∀ payload, Reads isFault isComplete payload (read payload)) :
    Classifies read isFault isComplete := by
  refine ⟨?_, ?_, ?_⟩
  · intro payload least actual
    have outcome := reads payload
    generalize read payload = result at outcome
    cases outcome with
    | truncated short => simp [short, eq_comm]
    | foreign enough other => simp; omega
    | object enough isBridge complete => simp; omega
    | fault enough isBridge fault =>
        simp [(known _ fault).ne_truncated]
        omega
  · intro payload
    have outcome := reads payload
    generalize read payload = result at outcome
    cases outcome with
    | truncated short => simp; omega
    | foreign enough other => simp [enough, other]
    | object enough isBridge complete => simp [isBridge]
    | fault enough isBridge fault => simp [isBridge]
  · intro payload enough isBridge
    have outcome := reads payload
    generalize read payload = result at outcome
    cases outcome with
    | truncated short => omega
    | foreign enough other => exact absurd isBridge other
    | object enough isBridge complete => exact .inl ⟨_, rfl, complete⟩
    | fault enough isBridge fault => exact .inr ⟨_, rfl, fault⟩

/-- A reader that takes a header first fails for want of octets, passes over other families, and
goes on with the body otherwise. -/
theorem reads_of_header {α η : Type} {scanner : Scanner η} {family : η → UInt8} {payload : Octets}
    {body : η → Except Error (Option α)} {isFault : Error → Prop} {isComplete : α → Prop}
    (takes : scanner.Takes 8)
    (head : ∀ {header rest}, scanner.run payload = some (header, rest) →
      payload.head? = some (family header))
    (reads : ∀ header, 8 ≤ payload.length → family header = bridgeAddressFamily →
      Yields isFault (fun object? => ∃ object ∈ object?, isComplete object) (body header)) :
    Reads isFault isComplete payload (scanner.runHeader 8 payload >>= fun header =>
      if family header ≠ bridgeAddressFamily then pure none else body header) := by
  by_cases short : payload.length < 8
  · rw [takes.runHeader_of_lt short]
    exact .truncated short
  · have enough : 8 ≤ payload.length := by omega
    rcases takes.enough payload enough with ⟨header, taken⟩
    have first := head taken
    have header_eq : scanner.runHeader 8 payload = .ok header := by
      simp only [Scanner.runHeader, taken]
    rw [header_eq]
    change Reads isFault isComplete payload
      (if family header ≠ bridgeAddressFamily then .ok none else body header)
    by_cases isBridge : family header = bridgeAddressFamily
    · rw [isBridge] at first
      have yields := reads header enough isBridge
      rw [if_neg (by simp [isBridge])]
      generalize body header = outcome at yields
      cases yields with
      | error isAllowed => exact .fault enough first isAllowed
      | value isHeld =>
          rcases isHeld with ⟨object, rfl, complete⟩
          exact .object enough first complete
    · have other : payload.head? ≠ some bridgeAddressFamily := by simpa [first] using isBridge
      rw [if_pos isBridge]
      exact .foreign enough other

theorem Scanner.head?_of_octet {payload rest : Octets} {first : UInt8}
    (taken : octet.run payload = some (first, rest)) : payload.head? = some first := by
  rcases payload with _ | ⟨_, _⟩
  · cases taken
  · cases taken
    rfl

theorem VlanHeader.head?_of_scan {payload rest : Octets} {header : VlanHeader}
    (taken : scan.run payload = some (header, rest)) : payload.head? = some header.family := by
  simp only [scan, StateT.run_bind, Option.bind_eq_bind, Option.bind_eq_some_iff] at taken
  rcases taken with ⟨⟨family, _⟩, first, _, _, _, _, _, _, isHeader⟩
  cases isHeader
  exact Scanner.head?_of_octet first

theorem PortHeader.head?_of_scan {payload rest : Octets} {header : PortHeader}
    (taken : scan.run payload = some (header, rest)) : payload.head? = some header.family := by
  simp only [scan, StateT.run_bind, Option.bind_eq_bind, Option.bind_eq_some_iff] at taken
  rcases taken with ⟨⟨family, _⟩, first, _, _, _, _, isHeader⟩
  cases isHeader
  exact Scanner.head?_of_octet first

/-- What every port has that was read from a message. -/
structure PortVlans.IsComplete (port : PortVlans) : Prop where
  interface : port.interface?.isSome
  family : port.family? = some bridgeAddressFamily
  entries : port.entries ≠ []

/-- What every table has that was read from a message. -/
structure GroupTable.IsComplete (table : GroupTable) : Prop where
  bridge : table.bridge?.isSome
  family : table.family? = some bridgeAddressFamily

theorem AttributeTable.yields_decodeAfter {size : Nat} {payload : Octets} (table : AttributeTable)
    (enough : size ≤ payload.length) :
    Yields BreaksRule (fun _ => True) (table.decodeAfter size payload) := by
  rw [decodeAfter, if_neg (by omega)]
  exact (table.yields_decode _).imp fun _ _ => trivial

/-- Reading a VLAN message gives a complete object, or fails in a known way. -/
theorem PortVlans.reads_ofPayload (payload : Octets) :
    Reads BreaksRuleOrLacks IsComplete payload (ofPayload payload) := by
  unfold ofPayload VlanHeader.ofOctets
  refine reads_of_header VlanHeader.takes_scan VlanHeader.head?_of_scan ?_
  intro header enough isBridge
  apply ((table.yields_decodeAfter enough).mono fun _ => Or.inl).bind
  intro decoded _
  apply (Yields.mapM fun stream _ => VlanEntry.yields_ofStream stream).bind
  intro entries _
  rcases entries with _ | ⟨entry, later⟩
  · exact .error (.inr ⟨_, rfl⟩)
  · exact .value ⟨_, rfl, rfl, congrArg some isBridge, by simp⟩

/-- Reading a membership message gives a complete object, or fails in a known way. -/
theorem GroupTable.reads_ofPayload (payload : Octets) :
    Reads BreaksRule IsComplete payload (ofPayload payload) := by
  unfold ofPayload PortHeader.ofOctets
  refine reads_of_header PortHeader.takes_scan PortHeader.head?_of_scan ?_
  intro header enough isBridge
  apply (messageTable.yields_decodeAfter enough).bind
  intro decoded _
  apply (yields_readEntries decoded).bind
  intro entries _
  apply (yields_readRouterPorts decoded).bind
  intro routerPorts _
  exact .value ⟨_, rfl, rfl, congrArg some isBridge⟩

theorem GroupTable.isComplete_of_read {header : MessageHeader} {payload : Octets}
    {table : GroupTable} (isRead : CacheObject.read header payload = .ok (some table)) :
    table.IsComplete := by
  have reads := reads_ofPayload payload
  change ofPayload payload = _ at isRead
  rw [isRead] at reads
  exact reads.isComplete

/-- The readers of both types classify every payload. The rest of a reader never runs short of
octets, and only the reader of VLANs misses an attribute. -/
theorem read_classifies (header : MessageHeader) :
    Classifies (CacheObject.read header) BreaksRuleOrLacks PortVlans.IsComplete ∧
      Classifies (CacheObject.read header) BreaksRule GroupTable.IsComplete :=
  ⟨.of_reads (fun _ => id) PortVlans.reads_ofPayload,
    .of_reads (fun _ => Or.inl) GroupTable.reads_ofPayload⟩

end BridgeView
