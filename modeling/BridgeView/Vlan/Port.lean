import BridgeView.CacheObject
import BridgeView.Vlan.Entry

/-!
# VLANs of a port

The VLAN membership of one port, as the kernel reports it: a list of entries, and the
attributes of the first of them.  The same type describes changes that are asked for,
where attributes may be set one by one.

A newer report is merged entry by entry, matched by the VLAN they start with; a deletion
takes away the entries that start within a deleted span.
-/

namespace BridgeView

/-- The VLAN membership of one port. -/
structure PortVlans where
  interface? : Option UInt32 := none
  family? : Option UInt8 := none
  /-- The VLAN of the first entry. -/
  vlan? : Option UInt16 := none
  /-- The spanning tree state of the first entry. -/
  state? : Option UInt8 := none
  /-- The last VLAN of the first entry. -/
  last? : Option UInt16 := none
  /-- The flags of the first entry. -/
  flags? : Option UInt16 := none
  /-- The flags that were set or cleared one by one. -/
  flagMask : UInt16 := 0
  entries : List VlanEntry := []
deriving DecidableEq, Repr, Inhabited

namespace PortVlans

/-- The attribute of the port's index. -/
def interfaceBit : AttributeSet := 0x01

/-- The place of the address family among the attributes. -/
def familyBit : AttributeSet := 0x02

/-- The place of the first VLAN among the attributes. -/
def vlanBit : AttributeSet := 0x04

/-- The attribute of the spanning tree state. -/
def stateBit : AttributeSet := 0x08

/-- The place of the end of the first range among the attributes. -/
def lastBit : AttributeSet := 0x10

/-- The place of the flags among the attributes. -/
def flagsBit : AttributeSet := 0x20

/-- The place of the VLANs among the attributes. -/
def entriesBit : AttributeSet := 0x40

/-- The last VLAN of the first entry, zero for a single VLAN. -/
def last (port : PortVlans) : UInt16 :=
  port.last?.getD 0

/-- The flags of the first entry. -/
def flags (port : PortVlans) : UInt16 :=
  port.flags?.getD 0

/-- Sets flags and marks them as touched. -/
def setFlags (port : PortVlans) (flags : UInt16) : PortVlans :=
  { port with flags? := some (port.flags ||| flags), flagMask := port.flagMask ||| flags }

/-- Clears flags and marks them as touched. -/
def clearFlags (port : PortVlans) (flags : UInt16) : PortVlans :=
  { port with flags? := some (port.flags &&& ~~~flags), flagMask := port.flagMask ||| flags }

/-- Adds a VLAN behind the others. -/
def addEntry (port : PortVlans) (entry : VlanEntry) : PortVlans :=
  { port with entries := port.entries ++ [entry] }

/-- Whether an entry spans the VLAN of the given number. -/
def covers (port : PortVlans) (vlan : UInt16) : Bool :=
  port.entries.any (·.covers vlan)

theorem covers_iff {port : PortVlans} {vlan : UInt16} :
    port.covers vlan = true ↔ ∃ entry ∈ port.entries, entry.covers vlan = true := by
  simp [covers]

/-- The port with the attributes of its first entry; nothing when there is no entry. -/
def adoptFirst? (port : PortVlans) : Option PortVlans :=
  port.entries.head?.map fun entry =>
    { port with vlan? := some entry.vlan, flags? := some entry.flags, state? := entry.state?
                last? := some entry.last }

/-- The attributes that the port has. -/
def present (port : PortVlans) : AttributeSet :=
  .when port.interface?.isSome interfaceBit ||| .when port.family?.isSome familyBit
    ||| .when port.vlan?.isSome vlanBit ||| .when port.state?.isSome stateBit
    ||| .when port.last?.isSome lastBit ||| .when port.flags?.isSome flagsBit
    ||| .when (!port.entries.isEmpty) entriesBit

/-- Whether two words differ, in the bits of a mask if there is one. -/
def flagsDiffer (left right : UInt16) : Option UInt16 → Bool
  | some mask => (left ^^^ right) &&& mask != 0
  | none => left != right

/-- The requested attributes in which two ports differ; with loose flags only those flags
count that the right side has touched. -/
def differing (left right : PortVlans) (requested : AttributeSet) (loose : Bool) :
    AttributeSet :=
  let difference := AttributeSet.difference requested left.present right.present
  let mask? := if loose then some right.flagMask else none
  difference interfaceBit (left.interface? != right.interface?)
    ||| difference familyBit (left.family? != right.family?)
    ||| difference vlanBit (left.vlan? != right.vlan?)
    ||| difference stateBit (left.state? != right.state?)
    ||| difference lastBit (left.last? != right.last?)
    ||| difference flagsBit (flagsDiffer left.flags right.flags mask?)
    ||| difference entriesBit (left.entries != right.entries)

/-- The entries with a newer one in the place of the first that starts with the same VLAN,
or at the end. -/
def mergeEntry (newer : VlanEntry) : List VlanEntry → List VlanEntry
  | [] => [newer]
  | entry :: rest =>
    if entry.vlan = newer.vlan then newer :: rest else entry :: mergeEntry newer rest

/-- The port with a newer report merged into it. -/
def merge (cached newer : PortVlans) : PortVlans where
  interface? := cached.interface?
  family? := newer.family?.or cached.family?
  vlan? := newer.vlan?.or cached.vlan?
  state? := newer.state?.or cached.state?
  last? := newer.last?.or cached.last?
  flags? := newer.flags?.or cached.flags?
  flagMask := if newer.flags?.isSome then newer.flagMask else cached.flagMask
  entries := newer.entries.foldl (fun entries entry => mergeEntry entry entries) cached.entries

/-- The port without the entries that start within a span of the deletion.  A deletion
without entries takes away the port as a whole. -/
def subtract (cached gone : PortVlans) : Remainder PortVlans :=
  if gone.entries.isEmpty then ⟨cached, false⟩
  else
    let kept := cached.entries.filter fun entry => !gone.covers entry.vlan
    let left := { cached with entries := kept }
    match left.adoptFirst? with
    | some adopted => ⟨adopted, true⟩
    | none => ⟨left, false⟩

/-- The line about a port: the first VLAN, and how many there are besides. -/
def line (interfaces : InterfaceTable) (port : PortVlans) : String :=
  let span :=
    match port.vlan? with
    | some vlan => s!" {VlanEntry.spanText vlan port.last}"
    | none => ""
  let more :=
    if 1 < port.entries.length then s!" (+{port.entries.length - 1} more)" else ""
  interfaces.label (port.interface?.getD 0) ++ span ++ VlanEntry.stateText port.state? ++ more

/-- The lines about a port, one for each VLAN. -/
def block (interfaces : InterfaceTable) (port : PortVlans) : String :=
  interfaces.label (port.interface?.getD 0)
    ++ String.join (port.entries.map fun entry => "\n    " ++ entry.text)

/-- The attribute kinds of a VLAN message. -/
def table : AttributeTable where
  name := "bridge_vlandb"
  rules := [.unspecified, { kind := .nested }, { kind := .nested }]

/-- The kind of an attribute that is about one VLAN. -/
def entryKind : UInt16 := 1

/-- Reads the payload of a VLAN message; one of another address family gives nothing. -/
def ofPayload (payload : Octets) : Except Error (Option PortVlans) := do
  let header ← VlanHeader.ofOctets payload
  if header.family ≠ bridgeAddressFamily then return none
  let decoded ← table.decodeAfter VlanHeader.size payload
  let entries ← (decoded.all entryKind).mapM VlanEntry.ofStream
  let port : PortVlans :=
    { interface? := some header.interface, family? := some header.family, entries }
  match port.adoptFirst? with
  | some adopted => return some adopted
  | none => .error (.missingAttribute "BRIDGE_VLANDB_ENTRY")

/-- The request for the VLANs of every port. -/
def dumpRequest : Draft :=
  (Draft.ofType MessageType.getVlan (MessageFlags.request ||| MessageFlags.dump)).append
    ({ family := bridgeAddressFamily, interface := 0 } : VlanHeader).toOctets

/-- The VLANs of a port are cached under the index of the port. -/
instance : CacheObject PortVlans where
  typeName := "route/bridgevlan"
  headerSize := VlanHeader.size
  messageRows := [⟨MessageType.newVlan, .new, "new"⟩, ⟨MessageType.deleteVlan, .delete, "del"⟩,
    ⟨MessageType.getVlan, .get, "get"⟩]
  groups := [⟨bridgeAddressFamily, 33⟩]
  dumpRequest := dumpRequest
  read _ payload := ofPayload payload
  identity _ := interfaceBit
  present := present
  differing := differing
  merge? cached newer := some (cached.merge newer)
  subtract := subtract
  line := line
  block := block

end PortVlans

end BridgeView
