import BridgeView.CacheObject
import BridgeView.Multicast.Entry

/-!
# Multicast groups of a bridge

The multicast database of one bridge: the memberships of its ports, and the ports behind
which a multicast router was found.  A newer report replaces the memberships of the same
port, VLAN and group and adds the others; a deletion takes away those it names.
-/

namespace BridgeView

/-- The multicast database of one bridge. -/
structure GroupTable where
  bridge? : Option UInt32 := none
  family? : Option UInt8 := none
  entries : List GroupEntry := []
  /-- The ports that lead to a router. -/
  routerPorts : List UInt32 := []
deriving DecidableEq, Repr, Inhabited

namespace GroupTable

/-- The attribute of the bridge's index. -/
def bridgeBit : AttributeSet := 0x01

/-- The place of the address family among the attributes. -/
def familyBit : AttributeSet := 0x02

/-- The place of the memberships among the attributes. -/
def entriesBit : AttributeSet := 0x04

/-- The place of the router ports among the attributes. -/
def routerPortsBit : AttributeSet := 0x08

/-- Adds a membership at the end. -/
def addEntry (table : GroupTable) (entry : GroupEntry) : GroupTable :=
  { table with entries := table.entries ++ [entry] }

/-- The attributes that the table has. -/
def present (table : GroupTable) : AttributeSet :=
  .when table.bridge?.isSome bridgeBit ||| .when table.family?.isSome familyBit
    ||| .when (!table.entries.isEmpty) entriesBit
    ||| .when (!table.routerPorts.isEmpty) routerPortsBit

/-- The requested attributes in which two tables differ, as a comparison counts them. -/
def differing (left right : GroupTable) (requested : AttributeSet) : AttributeSet :=
  let difference := AttributeSet.difference requested left.present right.present
  difference bridgeBit (left.bridge? != right.bridge?)
    ||| difference familyBit (left.family? != right.family?)
    ||| difference entriesBit (left.entries != right.entries)
    ||| difference routerPortsBit (left.routerPorts != right.routerPorts)

/-- The memberships with a newer one in the place of the first of the same group, or at the
end. -/
def mergeEntry (newer : GroupEntry) : List GroupEntry → List GroupEntry
  | [] => [newer]
  | entry :: rest =>
    if entry.sameGroup newer then newer :: rest else entry :: mergeEntry newer rest

/-- The ports with one more, unless it is there. -/
def mergePort (ports : List UInt32) (port : UInt32) : List UInt32 :=
  if ports.contains port then ports else ports ++ [port]

/-- The table with a newer report merged into it. -/
def merge (cached newer : GroupTable) : GroupTable :=
  { cached with
    entries :=
      newer.entries.foldl (fun entries entry => mergeEntry entry entries) cached.entries
    routerPorts := newer.routerPorts.foldl mergePort cached.routerPorts }

/-- The table without the memberships and router ports of the deletion.  A deletion that
names none takes away the table as a whole, and so does one that leaves none. -/
def subtract (cached gone : GroupTable) : Remainder GroupTable :=
  if gone.entries.isEmpty && gone.routerPorts.isEmpty then ⟨cached, false⟩
  else
    let entries := cached.entries.filter fun entry => !gone.entries.any entry.sameGroup
    let routerPorts := cached.routerPorts.filter fun port => !gone.routerPorts.contains port
    ⟨{ cached with entries, routerPorts }, !entries.isEmpty || !routerPorts.isEmpty⟩

/-- The line about a bridge, which counts its memberships and router ports. -/
def line (interfaces : InterfaceTable) (table : GroupTable) : String :=
  let routers :=
    if table.routerPorts.isEmpty then "" else s!" router ports {table.routerPorts.length}"
  s!"dev {interfaces.label (table.bridge?.getD 0)} groups {table.entries.length}" ++ routers

/-- The table with its memberships and router ports. -/
def block (interfaces : InterfaceTable) (table : GroupTable) : String :=
  s!"dev {interfaces.label (table.bridge?.getD 0)}"
    ++ String.join (table.entries.map fun entry => "\n    " ++ entry.text interfaces)
    ++ String.join (table.routerPorts.map fun port =>
      "\n    router port " ++ interfaces.label port)

/-- The rules for the attributes of a message. -/
def messageTable : AttributeTable where
  name := "mdba"
  rules := [.unspecified, { kind := .nested }, { kind := .nested }]

/-- The rules for the attributes that hold the memberships. -/
def databaseTable : AttributeTable where
  name := "mdba_mdb"
  rules := [.unspecified, { kind := .nested }]

/-- The attribute kinds of a container of memberships. -/
def entryTable : AttributeTable where
  name := "mdba_mdb_entry"
  rules := [.unspecified, { kind := .binary, least := GroupRecord.size }]

/-- The attribute kinds of the router ports. -/
def routerTable : AttributeTable where
  name := "mdba_router"
  rules := [.unspecified, { kind := .binary, least := 4 }]

/-- The kind of the attribute that holds the memberships. -/
def databaseKind : UInt16 := 1

/-- The kind of the attribute that holds the router ports. -/
def routerKind : UInt16 := 2

/-- The kind of a container of memberships. -/
def entryKind : UInt16 := 1

/-- The kind of the record of a membership. -/
def infoKind : UInt16 := 1

/-- The kind of the attribute that is one router port. -/
def routerPortKind : UInt16 := 1

/-- Reads a container of memberships. -/
def entriesOfStream (stream : Octets) : Except Error (List GroupEntry) := do
  let decoded ← entryTable.decode stream
  (decoded.all infoKind).mapM GroupEntry.ofInfo

/-- Reads the memberships of a message. -/
def readEntries (decoded : DecodedStream) : Except Error (List GroupEntry) := do
  match ← decoded.nested databaseKind databaseTable with
  | none => return []
  | some database => return (← (database.all entryKind).mapM entriesOfStream).flatten

/-- The router ports of a message, none if it does not speak of them. -/
def readRouterPorts (decoded : DecodedStream) : Except Error (List UInt32) := do
  match ← decoded.nested routerKind routerTable with
  | none => return []
  | some router => (router.all routerPortKind).mapM Attribute.word32

/-- Reads the payload of a multicast message; one of another address family gives
nothing. -/
def ofPayload (payload : Octets) : Except Error (Option GroupTable) := do
  let header ← PortHeader.ofOctets payload
  if header.family ≠ bridgeAddressFamily then return none
  let decoded ← messageTable.decodeAfter PortHeader.size payload
  let entries ← readEntries decoded
  let routerPorts ← readRouterPorts decoded
  return some { bridge? := some header.interface, family? := some header.family, entries
                routerPorts }

/-- The request for the groups of every bridge. -/
def dumpRequest : Draft :=
  (Draft.ofType MessageType.getGroups (MessageFlags.request ||| MessageFlags.dump)).append
    ({ family := bridgeAddressFamily, interface := 0 } : PortHeader).toOctets

/-- The memberships of a bridge are cached under the index of the bridge. -/
instance : CacheObject GroupTable where
  typeName := "route/mdb"
  headerSize := PortHeader.size
  messageRows := [⟨MessageType.newGroups, .new, "new"⟩,
    ⟨MessageType.deleteGroups, .delete, "del"⟩, ⟨MessageType.getGroups, .get, "get"⟩]
  groups := [⟨bridgeAddressFamily, 26⟩]
  dumpRequest := dumpRequest
  read _ payload := ofPayload payload
  identity _ := bridgeBit
  present := present
  differing left right requested _ := differing left right requested
  merge? cached newer := some (cached.merge newer)
  subtract := subtract
  line := line
  block := block

end GroupTable

end BridgeView
