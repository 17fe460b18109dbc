import BridgeView.Draft

/-!
# Records of fixed layout

Family headers open the payload of a message, and records sit inside attributes.
Each has a size, the octets it is written as, and a reader.  A family header may be
followed by anything; too few octets are reported with both sizes.  The records
inside attributes are read by scanners, which take what they need from the front
and leave the rest; what was written is read back, whatever follows it.
-/

namespace BridgeView

/-- Octets of a stated number. -/
abbrev FixedOctets (count : Nat) := { octets : Octets // octets.length = count }

namespace FixedOctets

/-- The given number of octets from the front, with zeros where they end too early. -/
def ofOctets (count : Nat) (octets : Octets) : FixedOctets count :=
  ⟨octets.take count ++ List.replicate (count - octets.length) 0, by simp; omega⟩

theorem val_ofOctets {count : Nat} {octets : Octets} (size : octets.length = count) :
    (ofOctets count octets).val = octets := by
  simp [ofOctets, ← size]

end FixedOctets

/-- The octets that are all zero. -/
instance {count : Nat} : Inhabited (FixedOctets count) := ⟨.ofOctets count []⟩

/-- Takes a value from the front of the octets, or fails. -/
abbrev Scanner := StateT Octets Option

namespace Scanner

/-- Takes one octet. -/
def octet : Scanner UInt8
  | octet :: rest => some (octet, rest)
  | [] => none

/-- Takes a word of sixteen bits, least significant octet first. -/
def word16 : Scanner UInt16
  | low :: high :: rest => some (Octets.word16 low high, rest)
  | _ => none

/-- Takes a word of sixteen bits, most significant octet first. -/
def word16BigEndian : Scanner UInt16
  | high :: low :: rest => some (Octets.word16 low high, rest)
  | _ => none

/-- Takes a word of thirty-two bits, least significant octet first. -/
def word32 : Scanner UInt32
  | first :: second :: third :: fourth :: rest =>
    some (Octets.word32 first second third fourth, rest)
  | _ => none

/-- Takes the given number of octets. -/
def octets (count : Nat) : Scanner (FixedOctets count) := fun input =>
  if enough : count ≤ input.length then
    some (⟨input.take count, List.length_take_of_le enough⟩, input.drop count)
  else none

@[simp]
theorem octets_append {count : Nat} (front : FixedOctets count) (rest : Octets) :
    octets count (front.val ++ rest) = some (front, rest) := by
  obtain ⟨front, rfl⟩ := front
  simp [octets]

@[simp]
theorem pure_apply {α : Type} (value : α) (rest : Octets) :
    (pure value : Scanner α) rest = some (value, rest) :=
  rfl

/-- Runs a scanner on the front of a record. -/
def runRecord {α : Type} (scanner : Scanner α) (input : Octets) : Except Error (α × Octets) :=
  match scanner.run input with
  | some result => .ok result
  | none => .error .recordTooShort

/-- Runs a scanner on a family header of the given size. -/
def runHeader {α : Type} (scanner : Scanner α) (size : Nat) (input : Octets) :
    Except Error α :=
  match scanner.run input with
  | some (value, _) => .ok value
  | none => .error (.truncated size input.length)

end Scanner

/-- The address family of bridges. -/
def bridgeAddressFamily : UInt8 := 7

/-- The family header of VLAN messages. -/
structure VlanHeader where
  family : UInt8
  reserved1 : UInt8 := 0
  reserved2 : UInt16 := 0
  /-- The index of the port or bridge. -/
  interface : UInt32
deriving DecidableEq, Repr, Inhabited

namespace VlanHeader

/-- The octets of the header. -/
def size : Nat := 8

/-- The octets of the header as they are sent. -/
def toOctets (header : VlanHeader) : Octets :=
  [header.family, header.reserved1] ++ Octets.ofWord16 header.reserved2
    ++ Octets.ofWord32 header.interface

/-- Takes the header from the front. -/
def scan : Scanner VlanHeader := do
  let family ← Scanner.octet
  let reserved1 ← Scanner.octet
  let reserved2 ← Scanner.word16
  let interface ← Scanner.word32
  return { family, reserved1, reserved2, interface }

/-- What was written is read back, whatever follows it. -/
theorem scan_toOctets_append (header : VlanHeader) (rest : Octets) :
    scan (header.toOctets ++ rest) = some (header, rest) := by
  simp [scan, toOctets, Octets.ofWord16, Octets.ofWord32, Scanner.octet, Scanner.word16,
    Scanner.word32, bind, StateT.bind]

theorem length_toOctets (header : VlanHeader) : header.toOctets.length = size :=
  rfl

/-- Reads the header at the front of the octets. -/
def ofOctets (octets : Octets) : Except Error VlanHeader :=
  scan.runHeader size octets

/-- A header is read back, whatever follows it. -/
theorem ofOctets_toOctets_append (header : VlanHeader) (rest : Octets) :
    ofOctets (header.toOctets ++ rest) = .ok header := by
  simp only [ofOctets, Scanner.runHeader, StateT.run, scan_toOctets_append]

end VlanHeader

/-- The family header of multicast group messages. -/
structure PortHeader where
  family : UInt8
  pad : FixedOctets 3 := default
  /-- The index of the bridge. -/
  interface : UInt32
deriving DecidableEq, Repr, Inhabited

namespace PortHeader

/-- The octets of the header. -/
def size : Nat := 8

/-- The octets of the header as they are sent. -/
def toOctets (header : PortHeader) : Octets :=
  [header.family] ++ header.pad.val ++ Octets.ofWord32 header.interface

/-- Takes a header. -/
def scan : Scanner PortHeader := do
  let family ← Scanner.octet
  let pad ← Scanner.octets 3
  let interface ← Scanner.word32
  return { family, pad, interface }

theorem scan_toOctets_append (header : PortHeader) (rest : Octets) :
    scan (header.toOctets ++ rest) = some (header, rest) := by
  simp [scan, toOctets, Octets.ofWord32, Scanner.octet, Scanner.word32,
    bind, StateT.bind]

theorem length_toOctets (header : PortHeader) : header.toOctets.length = size := by
  simp [toOctets, size, header.pad.property]

/-- Reads the header at the front of the octets. -/
def ofOctets (octets : Octets) : Except Error PortHeader :=
  scan.runHeader size octets

theorem ofOctets_toOctets_append (header : PortHeader) (rest : Octets) :
    ofOctets (header.toOctets ++ rest) = .ok header := by
  simp only [ofOctets, Scanner.runHeader, StateT.run, scan_toOctets_append]

end PortHeader

/-- The family header of link messages. -/
structure LinkHeader where
  family : UInt8
  pad : UInt8 := 0
  deviceType : UInt16 := 0
  interface : Int32
  flags : UInt32 := 0
  changeMask : UInt32 := 0
deriving DecidableEq, Repr, Inhabited

namespace LinkHeader

/-- The octets of the header. -/
def size : Nat := 16

/-- The octets of the header as they are sent. -/
def toOctets (header : LinkHeader) : Octets :=
  [header.family, header.pad] ++ Octets.ofWord16 header.deviceType
    ++ Octets.ofWord32 header.interface.toUInt32 ++ Octets.ofWord32 header.flags
    ++ Octets.ofWord32 header.changeMask

/-- Takes a header. -/
def scan : Scanner LinkHeader := do
  let family ← Scanner.octet
  let pad ← Scanner.octet
  let deviceType ← Scanner.word16
  let interface ← Scanner.word32
  let flags ← Scanner.word32
  let changeMask ← Scanner.word32
  return { family, pad, deviceType, interface := interface.toInt32, flags, changeMask }

theorem scan_toOctets_append (header : LinkHeader) (rest : Octets) :
    scan (header.toOctets ++ rest) = some (header, rest) := by
  simp [scan, toOctets, Octets.ofWord16, Octets.ofWord32, Scanner.octet, Scanner.word16,
    Scanner.word32, bind, StateT.bind]

/-- Reads the header at the front of the octets. -/
def ofOctets (octets : Octets) : Except Error LinkHeader :=
  scan.runHeader size octets

end LinkHeader

/-- The record that names one VLAN. -/
structure VlanInfo where
  flags : UInt16
  vlan : UInt16
deriving DecidableEq, Repr, Inhabited

namespace VlanInfo

/-- The octets of the record. -/
def size : Nat := 4

/-- The octets of the record as they are sent. -/
def toOctets (info : VlanInfo) : Octets :=
  Octets.ofWord16 info.flags ++ Octets.ofWord16 info.vlan

/-- Takes the record from the front. -/
def scan : Scanner VlanInfo := do
  let flags ← Scanner.word16
  let vlan ← Scanner.word16
  return { flags, vlan }

theorem scan_toOctets_append (info : VlanInfo) (rest : Octets) :
    scan (info.toOctets ++ rest) = some (info, rest) := by
  simp [scan, toOctets, Octets.ofWord16, Scanner.word16,
    bind, StateT.bind]

/-- Reads the record and whatever follows it as a family header would be read. -/
def ofOctets (octets : Octets) : Except Error VlanInfo :=
  scan.runHeader size octets

end VlanInfo

/-- The record that names one membership of a multicast group. -/
structure GroupRecord where
  port : UInt32
  /-- Whether the membership is permanent. -/
  state : UInt8
  flags : UInt8
  vlan : UInt16
  address : FixedOctets 16
  /-- The protocol of the group address, in network order. -/
  protocol : FixedOctets 2
  pad : FixedOctets 2 := default
deriving DecidableEq, Repr, Inhabited

namespace GroupRecord

/-- The octets of the record, padding included. -/
def size : Nat := 28

/-- The octets of the record as they are sent. -/
def toOctets (record : GroupRecord) : Octets :=
  Octets.ofWord32 record.port ++ [record.state, record.flags] ++ Octets.ofWord16 record.vlan
    ++ record.address.val ++ record.protocol.val ++ record.pad.val

/-- Takes the record from the front, its padding included. -/
def scan : Scanner GroupRecord := do
  let port ← Scanner.word32
  let state ← Scanner.octet
  let flags ← Scanner.octet
  let vlan ← Scanner.word16
  let address ← Scanner.octets 16
  let protocol ← Scanner.octets 2
  let pad ← Scanner.octets 2
  return { port, state, flags, vlan, address, protocol, pad }

theorem scan_toOctets_append (record : GroupRecord) (rest : Octets) :
    scan (record.toOctets ++ rest) = some (record, rest) := by
  simp [scan, toOctets, Octets.ofWord16, Octets.ofWord32, Scanner.octet, Scanner.word16,
    Scanner.word32, bind, StateT.bind]

theorem length_toOctets (record : GroupRecord) : record.toOctets.length = size := by
  simp [toOctets, size, record.address.property, record.protocol.property, record.pad.property]

/-- Takes the record from the front and forgets its padding. -/
def scanUnpadded : Scanner GroupRecord := do
  let record ← scan
  return { record with pad := default }

/-- A record is read back without what its padding holds. -/
theorem runRecord_toOctets_append (record : GroupRecord) (rest : Octets) :
    scanUnpadded.runRecord (record.toOctets ++ rest)
      = .ok ({ record with pad := default }, rest) := by
  simp [Scanner.runRecord, scanUnpadded, StateT.run, bind, StateT.bind, scan_toOctets_append]

/-- Reads the record as a family header would be read. -/
def ofOctets (octets : Octets) : Except Error GroupRecord :=
  scan.runHeader size octets

end GroupRecord

end BridgeView
