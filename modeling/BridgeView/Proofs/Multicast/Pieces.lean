import BridgeView.Proofs.Cache.OrderedMap
import BridgeView.Proofs.Dump.Packing
import BridgeView.Proofs.KeyedList
import BridgeView.Proofs.Readers

/-!
# Databases that are dumped in pieces

The database of a bridge may be dumped by one message or by several. The first one is inserted and
the others are merged into it. As long as nothing is repeated, a merge appends, and the cache
holds for each bridge what its messages hold together (`joined?`), in the order in which the
bridges appeared first.
-/

namespace BridgeView

theorem eraseDups_concat {κ : Type} [BEq κ] [LawfulBEq κ] [DecidableEq κ] (keys : List κ)
    (key : κ) :
    (keys ++ [key]).eraseDups = if key ∈ keys then keys.eraseDups else keys.eraseDups ++ [key] := by
  rw [List.eraseDups_append]
  split
  · simp [List.removeAll, *]
  · simp [List.removeAll, List.eraseDups_cons, *]

namespace GroupTable

open CacheObject KeyedList

/-- Where nothing occurs twice, merging is appending. -/
theorem merge_of_nodup {cached newer : GroupTable}
    (members : ((cached.entries ++ newer.entries).map GroupEntry.member).Nodup)
    (routerPorts : (cached.routerPorts ++ newer.routerPorts).Nodup) :
    cached.merge newer =
      { cached with
        entries := cached.entries ++ newer.entries
        routerPorts := cached.routerPorts ++ newer.routerPorts } := by
  have entries := entries_merge cached newer
  have ports := routerPorts_merge cached newer
  rw [← List.map_id (_ ++ _)] at routerPorts
  rw [putAll_of_nodup members] at entries
  rw [putAll_of_nodup routerPorts] at ports
  simp only [merge, GroupTable.mk.injEq, true_and]
  exact ⟨entries, ports⟩

/-- Those tables that are about a bridge. -/
def ofBridge (bridge : Option UInt32) (tables : List GroupTable) : List GroupTable :=
  tables.filter (·.bridge? = bridge)

/-- What several tables hold of a bridge, if they hold anything. -/
def joined? (tables : List GroupTable) (bridge : Option UInt32) : Option GroupTable :=
  if bridge ∈ tables.map (·.bridge?) then
    some {
      bridge? := bridge
      family? := some bridgeAddressFamily
      entries := (ofBridge bridge tables).flatMap (·.entries)
      routerPorts := (ofBridge bridge tables).flatMap (·.routerPorts) }
  else none

/-- No part of a bridge is repeated within the tables. -/
structure Unrepeated (tables : List GroupTable) : Prop where
  members : ∀ bridge ∈ tables.map (·.bridge?),
    (((ofBridge bridge tables).flatMap (·.entries)).map GroupEntry.member).Nodup
  routerPorts : ∀ bridge ∈ tables.map (·.bridge?),
    ((ofBridge bridge tables).flatMap (·.routerPorts)).Nodup

/-- The bridges appear in the same order, and each has the same parts in the same order. -/
structure CutAlike (tables others : List GroupTable) : Prop where
  order : (tables.map (·.bridge?)).eraseDups = (others.map (·.bridge?)).eraseDups
  entries : ∀ bridge ∈ tables.map (·.bridge?),
    (ofBridge bridge tables).flatMap (·.entries) = (ofBridge bridge others).flatMap (·.entries)
  routerPorts : ∀ bridge ∈ tables.map (·.bridge?),
    (ofBridge bridge tables).flatMap (·.routerPorts)
      = (ofBridge bridge others).flatMap (·.routerPorts)

theorem isSome_joined?_iff {tables : List GroupTable} {bridge : Option UInt32} :
    (joined? tables bridge).isSome = true ↔ bridge ∈ tables.map (·.bridge?) := by
  rw [joined?]
  split <;> simp_all

/-- The tables of a bridge are joined alike, however they are cut. -/
theorem joined?_eq {tables others : List GroupTable} (alike : CutAlike tables others)
    (bridge : Option UInt32) : joined? tables bridge = joined? others bridge := by
  have appears : bridge ∈ tables.map (·.bridge?) ↔ bridge ∈ others.map (·.bridge?) := by
    rw [← List.mem_eraseDups, alike.order, List.mem_eraseDups]
  by_cases isThere : bridge ∈ tables.map (·.bridge?)
  · rw [joined?, joined?, if_pos isThere, if_pos (appears.mp isThere),
      alike.entries bridge isThere, alike.routerPorts bridge isThere]
  · rw [joined?, joined?, if_neg isThere, if_neg (isThere ∘ appears.mpr)]

/-- However tables are cut, what occurs once in them does so. -/
theorem CutAlike.unrepeated {tables others : List GroupTable} (alike : CutAlike tables others)
    (unrepeated : Unrepeated tables) : Unrepeated others := by
  have appears {bridge : Option UInt32} (isThere : bridge ∈ others.map (·.bridge?)) :
      bridge ∈ tables.map (·.bridge?) := by
    rwa [← List.mem_eraseDups, alike.order, List.mem_eraseDups]
  constructor
  · intro bridge isThere
    rw [← alike.entries bridge (appears isThere)]
    exact unrepeated.members bridge (appears isThere)
  · intro bridge isThere
    rw [← alike.routerPorts bridge (appears isThere)]
    exact unrepeated.routerPorts bridge (appears isThere)

theorem ofBridge_append (bridge : Option UInt32) (tables later : List GroupTable) :
    ofBridge bridge (tables ++ later) = ofBridge bridge tables ++ ofBridge bridge later :=
  List.filter_append _ _

theorem Unrepeated.of_append {tables later : List GroupTable}
    (unrepeated : Unrepeated (tables ++ later)) : Unrepeated tables := by
  have stays {bridge : Option UInt32} (isThere : bridge ∈ tables.map (·.bridge?)) :
      bridge ∈ (tables ++ later).map (·.bridge?) := by
    rw [List.map_append]
    exact List.mem_append_left _ isThere
  constructor
  · intro bridge isThere
    have members := unrepeated.members bridge (stays isThere)
    rw [ofBridge_append, List.flatMap_append, List.map_append] at members
    exact members.of_append_left
  · intro bridge isThere
    have routerPorts := unrepeated.routerPorts bridge (stays isThere)
    rw [ofBridge_append, List.flatMap_append] at routerPorts
    exact routerPorts.of_append_left

theorem ofBridge_singleton (table : GroupTable) : ofBridge table.bridge? [table] = [table] := by
  simp [ofBridge]

theorem ofBridge_eq_nil {bridge : Option UInt32} {tables : List GroupTable}
    (absent : bridge ∉ tables.map (·.bridge?)) : ofBridge bridge tables = [] := by
  rw [ofBridge, List.filter_eq_nil_iff]
  intro table tableMem
  have other : table.bridge? ≠ bridge := fun same => absent (same ▸ List.mem_map_of_mem tableMem)
  simpa using other

theorem joined?_append_other {bridge : Option UInt32} {table : GroupTable}
    (tables : List GroupTable) (other : bridge ≠ table.bridge?) :
    joined? (tables ++ [table]) bridge = joined? tables bridge := by
  have absent : bridge ∉ [table].map (·.bridge?) := by simpa using other
  have appears : bridge ∈ (tables ++ [table]).map (·.bridge?)
      ↔ bridge ∈ tables.map (·.bridge?) := by
    simp [other]
  simp only [joined?, appears, ofBridge_append, ofBridge_eq_nil absent, List.append_nil]

/-- One more table is merged into what is known of its bridge. -/
theorem evolve_joined? {tables : List GroupTable} {table : GroupTable}
    (isRead : table.family? = some bridgeAddressFamily)
    (unrepeated : Unrepeated (tables ++ [table])) :
    Cache.evolve (joined? tables table.bridge?) ⟨table, .new⟩
      = joined? (tables ++ [table]) table.bridge? := by
  have appears : table.bridge? ∈ (tables ++ [table]).map (·.bridge?) := by simp
  have members := unrepeated.members table.bridge? appears
  have routerPorts := unrepeated.routerPorts table.bridge? appears
  rw [ofBridge_append, ofBridge_singleton, List.flatMap_append, List.flatMap_singleton]
    at members routerPorts
  rw [joined?, joined?, if_pos appears, ofBridge_append, ofBridge_singleton, List.flatMap_append,
    List.flatMap_append, List.flatMap_singleton, List.flatMap_singleton]
  split
  · -- The known parts and the new ones have different keys.
    exact congrArg some (merge_of_nodup members routerPorts)
  · rename_i absent
    rw [ofBridge_eq_nil absent, ← isRead]
    rfl

/-- The map that takes in tables one after the other. -/
def mapOf (tables : List GroupTable) : OrderedMap (Option UInt32) GroupTable :=
  (tables.map (⟨·, .new⟩)).foldl OrderedMap.take OrderedMap.empty

theorem mapOf_append_singleton (tables : List GroupTable) (table : GroupTable) :
    mapOf (tables ++ [table]) = (mapOf tables).settle table.bridge?
      (Cache.evolve ((mapOf tables).value? table.bridge?) ⟨table, .new⟩) := by
  rw [mapOf, List.map_append, List.foldl_append]
  rfl

/-- The map holds the bridges in the order in which they appeared, each with what the tables hold
of it. -/
theorem mapOf_eq {tables : List GroupTable}
    (areRead : ∀ table ∈ tables, table.family? = some bridgeAddressFamily)
    (unrepeated : Unrepeated tables) :
    (mapOf tables).keys = (tables.map (·.bridge?)).eraseDups ∧
      ∀ bridge, (mapOf tables).value? bridge = joined? tables bridge := by
  induction tables using List.reverseRecOn with
  | nil => exact ⟨rfl, fun _ => rfl⟩
  | append_singleton tables table ih =>
      simp only [List.forall_mem_append, List.forall_mem_singleton] at areRead
      rcases ih areRead.1 unrepeated.of_append with ⟨keys, values⟩
      rw [mapOf_append_singleton, values, evolve_joined? areRead.2 unrepeated]
      constructor
      · have appears : table.bridge? ∈ (tables ++ [table]).map (·.bridge?) := by simp
        rw [joined?, if_pos appears, List.map_append, List.map_singleton, eraseDups_concat, ← keys]
        change (if ((mapOf tables).value? table.bridge?).isSome then _ else _) = _
        simp only [values, isSome_joined?_iff]
      · intro bridge
        rw [OrderedMap.value?_settle]
        split
        · rename_i same
          rw [same]
        · rename_i other
          rw [values, joined?_append_other tables other]

/-- Tables that are cut alike make the same cache. -/
theorem replay_of_cutAlike {tables others : List GroupTable}
    (areRead : ∀ table ∈ tables, table.family? = some bridgeAddressFamily)
    (areAlsoRead : ∀ table ∈ others, table.family? = some bridgeAddressFamily)
    (unrepeated : Unrepeated tables) (alike : CutAlike tables others) :
    Cache.replay (tables.map (⟨·, .new⟩)) = Cache.replay (others.map (⟨·, .new⟩)) := by
  rcases mapOf_eq areRead unrepeated with ⟨keys, values⟩
  rcases mapOf_eq areAlsoRead (alike.unrepeated unrepeated) with ⟨otherKeys, otherValues⟩
  have sameMap : mapOf tables = mapOf others := by
    apply OrderedMap.eq_of_value?
    · rw [keys, otherKeys, alike.order]
    · intro bridge
      rw [values, otherValues, joined?_eq alike]
  have represents : (Cache.replay (tables.map (⟨·, .new⟩))).Represents (mapOf tables) :=
    Cache.represents_replay _
  rw [sameMap] at represents
  exact represents.eq (Cache.represents_replay _)

end GroupTable

/-- A message of a dump that announces a table. -/
structure Message.Announces (sequence : UInt32) (message : Message) (table : GroupTable) :
    Prop where
  framed : message.WellFramed
  ofNumber : message.header.sequence = sequence
  isNew : message.header.type = MessageType.newGroups
  read : CacheObject.read message.header message.payload = .ok (some table)

namespace Cache

open Transport GroupTable Message

variable {σ τ : Type} [Transport σ] [Transport τ] {sequence : UInt32}
  {messages pieces : List Message} {tables parts : List GroupTable}

theorem wellFramed_of_announced (announced : List.Forall₂ (Announces sequence) messages tables) :
    ∀ message ∈ messages, message.WellFramed := by
  induction announced with
  | nil => simp
  | cons first _ ih =>
      rw [List.forall_mem_cons]
      exact ⟨first.framed, ih⟩

theorem family?_of_announced (announced : List.Forall₂ (Announces sequence) messages tables) :
    ∀ table ∈ tables, table.family? = some bridgeAddressFamily := by
  induction announced with
  | nil => simp
  | cons first _ ih =>
      rw [List.forall_mem_cons]
      exact ⟨(isComplete_of_read first.read).family, ih⟩

/-- Gathering announced tables takes in one after the other. -/
theorem dumpMessages_announced (announced : List.Forall₂ (Announces sequence) messages tables)
    (interrupted : Bool) (staged : Cache GroupTable) :
    dumpMessages sequence gather interrupted staged (messages.map .ok) =
      ⟨interrupted || messages.any (·.header.isInterrupted),
        tables.foldl (fun cache table => (cache.apply table .new).2) staged, none⟩ := by
  induction announced generalizing interrupted staged with
  | nil => simp [dumpMessages]
  | @cons message table rest later first _ ih =>
      have notDone : message.header.isDone = false := by
        rw [MessageHeader.isDone, first.isNew]
        decide
      have notError : message.header.isError = false := by
        rw [MessageHeader.isError, first.isNew]
        decide
      have notNoop : message.header.type ≠ MessageType.noop := by
        rw [first.isNew]
        decide
      have taken : gather message staged = (.ok (), (staged.apply table .new).2) := by
        simp only [gather, first.read]
      simp [dumpMessages, first.ofNumber, notDone, notError, notNoop, taken, ih, Bool.or_assoc]

/-- What is read of a dump that begins with announced tables. -/
theorem dumpMessages_of_announced {groups : List (List Message)} {ending : List Message}
    {later : List Octets} {failure : Error} (whole : groups.flatten = messages ++ ending)
    (framed : ∀ message ∈ ending, message.WellFramed)
    (announced : List.Forall₂ (Announces sequence) messages tables) :
    dumpMessages sequence gather false {}
        ((groups.map pack ++ later).flatMap ofDatagram ++ [.error failure]) =
      dumpMessages sequence gather (messages.any (·.header.isInterrupted))
        (replay (tables.map (⟨·, .new⟩)))
        (ending.map .ok ++ (later.flatMap ofDatagram ++ [.error failure])) := by
  have framedAll : ∀ message ∈ groups.flatten, message.WellFramed := by
    rw [whole, List.forall_mem_append]
    exact ⟨wellFramed_of_announced announced, framed⟩
  rw [List.flatMap_append, flatMap_ofDatagram_pack framedAll, whole, List.map_append,
    List.append_assoc, List.append_assoc, dumpMessages_append, dumpMessages_announced announced]
  simp [replay, List.foldl_map]

/-- The messages announce databases, and the pieces announce the same ones, cut otherwise. -/
structure Recut (sequence : UInt32) (messages pieces : List Message)
    (tables parts : List GroupTable) : Prop where
  announced : List.Forall₂ (Announces sequence) messages tables
  alsoAnnounced : List.Forall₂ (Announces sequence) pieces parts
  unrepeated : Unrepeated tables
  alike : CutAlike tables parts
  -- The pieces carry the flags of the message that they were cut from.
  sameFlag : messages.any (·.header.isInterrupted) = pieces.any (·.header.isInterrupted)

/-- Dumps whose reports are cut in different ways are filled alike. -/
theorem fillsAlike_of_recut {ending : List Message} {later : List Octets} {failure : Error}
    {state : σ} {other : τ} (recut : Recut sequence messages pieces tables parts)
    (framed : ∀ message ∈ ending, message.WellFramed)
    (packs : Packs GroupTable state (.ok sequence) (messages ++ ending) later failure)
    (alsoPacks : Packs GroupTable other (.ok sequence) (pieces ++ ending) later failure) :
    FillsAlike GroupTable state other := by
  rcases recut with ⟨announced, alsoAnnounced, unrepeated, alike, sameFlag⟩
  rcases packs with ⟨groups, whole, answers⟩
  rcases alsoPacks with ⟨others, cut, alsoAnswers⟩
  have areRead := family?_of_announced announced
  have areAlsoRead := family?_of_announced alsoAnnounced
  apply fillsAlike answers alsoAnswers
  intro number isNumber
  cases isNumber
  rw [dumpMessages_of_announced whole framed announced,
    dumpMessages_of_announced cut framed alsoAnnounced, sameFlag,
    replay_of_cutAlike areRead areAlsoRead unrepeated alike]

/-- A fill comes to the same however the messages of the dump are packed into datagrams. For the
multicast databases it does so as well however each of them is cut into messages, as long as no
part is repeated and the bridges keep the order in which they appear. -/
theorem packing_immaterial :
    (∀ {α σ τ : Type} [CacheObject α] [Transport σ] [Transport τ] {state : σ} {other : τ}
        {number? : Except Error UInt32} {failure : Error} {messages : List Message}
        {later : List Octets},
      (∀ message ∈ messages, message.WellFramed) →
      Packs α state number? messages later failure →
      Packs α other number? messages later failure → FillsAlike α state other) ∧
    ∀ {σ τ : Type} [Transport σ] [Transport τ] {state : σ} {other : τ} {sequence : UInt32}
        {failure : Error} {messages pieces ending : List Message} {tables parts : List GroupTable}
        {later : List Octets},
      Recut sequence messages pieces tables parts →
      (∀ message ∈ ending, message.WellFramed) →
      Packs GroupTable state (.ok sequence) (messages ++ ending) later failure →
      Packs GroupTable other (.ok sequence) (pieces ++ ending) later failure →
        FillsAlike GroupTable state other := by
  constructor
  · intro α σ τ _ _ _ state other number? failure messages later framed packs alsoPacks
    exact fillsAlike_of_packs framed packs alsoPacks
  · intro σ τ _ _ state other sequence failure messages pieces ending tables parts later recut
      framed packs alsoPacks
    exact fillsAlike_of_recut recut framed packs alsoPacks

/-- A message of the first dump of a conversation. -/
def dumpMessage (type : UInt16) (payload : Octets) : Message where
  header := {
    length := UInt32.ofNat (messageHeaderSize + payload.length)
    type
    flags := MessageFlags.multipart
    sequence := 1
    port := 0 }
  payload

/-- A conversation in which a dump is answered by the given datagrams. -/
def answering (groups : List (List Message)) : Conversation where
  replies := [groups.map pack]

/-- A conversation that answers with groups of messages packs these messages. -/
theorem packs_answering {α : Type} [CacheObject α] {groups : List (List Message)}
    {messages : List Message} (unnumbered : (CacheObject.dumpRequest α).header.sequence = 0)
    (grouped : groups.flatten = messages) :
    Packs α (answering groups) (.ok 1) messages [] (.io .timedOut) := by
  refine ⟨groups, grouped, ?_, ?_⟩
  · simp [sendNumbered, unnumbered, nextSequence, send, Conversation.send, answering]
  · rw [supply_conversation]
    simp [sendNumbered, unnumbered, nextSequence, send, Conversation.send, answering]

/-- What the kernel writes about a membership of a port. -/
def memberOctets (port : UInt8) : Octets :=
  [32, 0, 1, 0, port, 0, 0, 0, 0, 0, 0, 0, 239, 1, 1, 1, 0, 0, 0, 0, 0, 0, 0, 0, 0, 0, 0, 0,
    8, 0, 0, 0]

/-- What the kernel writes about a router port. -/
def routerOctets (port : UInt8) : Octets :=
  [8, 0, 1, 0, port, 0, 0, 0]

/-- A part of the database of bridge 4: a membership of a port that leads to a router as well. -/
def partOfBridge (port : UInt8) : Message :=
  dumpMessage MessageType.newGroups ([7, 0, 0, 0, 4, 0, 0, 0, 40, 0, 1, 128, 36, 0, 1, 128]
    ++ memberOctets port ++ [12, 0, 2, 128] ++ routerOctets port)

/-- Both parts of the database of bridge 4. -/
def wholeBridge : Message :=
  dumpMessage MessageType.newGroups ([7, 0, 0, 0, 4, 0, 0, 0, 72, 0, 1, 128, 68, 0, 1, 128]
    ++ memberOctets 5 ++ memberOctets 6 ++ [20, 0, 2, 128] ++ routerOctets 5 ++ routerOctets 6)

/-- A report about another bridge that has nothing yet. -/
def otherBridge : Message :=
  dumpMessage MessageType.newGroups [7, 0, 0, 0, 9, 0, 0, 0]

/-- The membership of a port that the octets describe. -/
def bridgeMember (port : UInt32) : GroupEntry :=
  { port, protocol := 0x0800, address := .ipv4 ⟨239, 1, 1, 1⟩ }

/-- The report of a bridge is cut in two, with another bridge between. -/
theorem recut_bridge :
    Recut 1 [wholeBridge, otherBridge] [partOfBridge 5, otherBridge, partOfBridge 6]
      [{ bridge? := some 4, family? := some 7, entries := [bridgeMember 5, bridgeMember 6]
         routerPorts := [5, 6] },
        { bridge? := some 9, family? := some 7 }]
      [{ bridge? := some 4, family? := some 7, entries := [bridgeMember 5], routerPorts := [5] },
        { bridge? := some 9, family? := some 7 },
        { bridge? := some 4, family? := some 7, entries := [bridgeMember 6]
          routerPorts := [6] }] where
  announced := .cons ⟨by decide, rfl, rfl, by decide +kernel⟩
    (.cons ⟨by decide, rfl, rfl, by decide +kernel⟩ .nil)
  alsoAnnounced := .cons ⟨by decide, rfl, rfl, by decide +kernel⟩
    (.cons ⟨by decide, rfl, rfl, by decide +kernel⟩
      (.cons ⟨by decide, rfl, rfl, by decide +kernel⟩ .nil))
  unrepeated := by
    constructor <;> simp [ofBridge, bridgeMember, GroupEntry.member]
  alike := by
    constructor
    · decide
    · simp [ofBridge]
    · simp [ofBridge]
  sameFlag := by decide

/-- Two bridges are dumped by one datagram, by a datagram for each message and an empty one, and
with the database of one bridge in two parts around the other bridge. -/
theorem packing_immaterial_bridge :
    let ending := dumpMessage MessageType.done []
    let together := answering [[wholeBridge, otherBridge, ending]]
    let apart := answering [[wholeBridge], [], [otherBridge], [ending]]
    let inParts := answering [[partOfBridge 5], [otherBridge, partOfBridge 6, ending]]
    FillsAlike GroupTable together apart ∧ FillsAlike GroupTable together inParts ∧
      (({} : Cache GroupTable).fill together).1 = .ok () ∧
        (({} : Cache GroupTable).fill together).2.1.objects.length = 2 := by
  intro ending together apart inParts
  have packs : Packs GroupTable together (.ok 1) [wholeBridge, otherBridge, ending] [] _ :=
    packs_answering rfl rfl
  have packsApart : Packs GroupTable apart (.ok 1) [wholeBridge, otherBridge, ending] [] _ :=
    packs_answering rfl rfl
  have packsInParts : Packs GroupTable inParts (.ok 1)
      ([partOfBridge 5, otherBridge, partOfBridge 6] ++ [ending]) [] _ :=
    packs_answering rfl rfl
  have framed : ∀ message ∈ [wholeBridge, otherBridge, ending], message.WellFramed := by decide
  have framedEnding : ∀ message ∈ [ending], message.WellFramed := by decide
  refine ⟨packing_immaterial.1 framed packs packsApart, ?_, by decide +kernel, by decide +kernel⟩
  exact packing_immaterial.2 recut_bridge framedEnding packs packsInParts

end Cache

end BridgeView
