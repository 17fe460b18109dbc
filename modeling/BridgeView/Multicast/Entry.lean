import BridgeView.Address.Group
import BridgeView.Attribute.Table
import BridgeView.Rendering

/-!
# Multicast group entries

A port of a bridge is a member of a group in a VLAN, either for good or until a timer
runs out.  Port, VLAN and group address identify a membership; the rest may change.
-/

namespace BridgeView

/-- A membership of a port in a group. -/
structure GroupEntry where
  port : UInt32
  /-- The VLAN, zero for none. -/
  vlan : UInt16 := 0
  /-- Whether the membership is permanent. -/
  state : UInt8 := 0
  flags : UInt8 := 0
  protocol : UInt16
  address : GroupAddress
  /-- The hundredths of a second that remain of a temporary membership. -/
  timer? : Option UInt32 := none
deriving DecidableEq, Repr, Inhabited

namespace GroupEntry

/-- The state of a membership that does not expire. -/
def permanentState : UInt8 := 1

/-- A temporary membership of a port in a group. -/
def ofPort (port : UInt32) (address : GroupAddress) : GroupEntry :=
  { port, address, protocol := address.protocol }

/-- The membership made permanent. -/
def permanent (entry : GroupEntry) : GroupEntry :=
  { entry with state := permanentState }

/-- Whether the membership is permanent. -/
def isPermanent (entry : GroupEntry) : Bool :=
  entry.state == permanentState

/-- Whether two entries are about the same port, VLAN and group. -/
def sameGroup (left right : GroupEntry) : Bool :=
  left.port == right.port && left.vlan == right.vlan && left.address == right.address

/-- The word for the state. -/
def stateName (entry : GroupEntry) : String :=
  if entry.isPermanent then "permanent" else "temp"

/-- The attribute kinds after the record of a membership. -/
def extraTable : AttributeTable where
  name := "mdba_mdb_eattr"
  rules := [.unspecified, { kind := .word32 }, { kind := .nested }, { kind := .word8 },
    { kind := .binary }, { kind := .word8 }]

/-- The kind of the attribute that holds the timer. -/
def timerKind : UInt16 := 1

/-- The protocol number that two octets hold in network order. -/
def protocolOf (octets : FixedOctets 2) : UInt16 :=
  match octets.val with
  | [high, low] => Octets.word16 low high
  | _ => 0

/-- Reads a record and the attributes after it. -/
def ofInfo (payload : Octets) : Except Error GroupEntry := do
  let (record, rest) ← GroupRecord.scanUnpadded.runRecord payload
  let extra ← extraTable.decode rest
  let protocol := protocolOf record.protocol
  return { port := record.port, vlan := record.vlan, state := record.state
           flags := record.flags, protocol, address := .ofWire protocol record.address
           timer? := extra.word32? timerKind }

/-- The record of a membership, as the kernel lays it out; it has no place for the timer. -/
def toRecord (entry : GroupEntry) : GroupRecord :=
  { port := entry.port, state := entry.state, flags := entry.flags, vlan := entry.vlan
    address := entry.address.toWire
    protocol := ⟨Octets.ofWord16BigEndian entry.protocol, rfl⟩ }

/-- The line about a membership, with its timer in seconds. -/
def text (interfaces : InterfaceTable) (entry : GroupEntry) : String :=
  let vlan := if entry.vlan = 0 then "" else s!" vid {entry.vlan}"
  let timer :=
    match entry.timer? with
    | some timer => s!" {timer.toNat / 100}." ++ Text.twoPlaces (timer.toNat % 100)
    | none => ""
  s!"port {interfaces.label entry.port} grp {entry.address.toText} {entry.stateName}"
    ++ vlan ++ timer

end GroupEntry

end BridgeView
