import BridgeView.Address.Ipv6
import BridgeView.Address.Mac
import BridgeView.Record

/-!
# Group addresses

The address of a multicast group is an IPv4, an IPv6 or a link layer address.  On
the wire it lies in sixteen octets, and the protocol number beside them tells which
of the three they hold.
-/

namespace BridgeView

/-- The address of a multicast group. -/
inductive GroupAddress where
  | ipv4 (address : Ipv4Address)
  | ipv6 (address : Ipv6Address)
  /-- A group of the link layer. -/
  | mac (address : MacAddress)
deriving DecidableEq, Repr, Inhabited

namespace GroupAddress

/-- The protocol number of addresses of version four. -/
def ipv4Protocol : UInt16 := 0x0800

/-- The protocol number of addresses of version six. -/
def ipv6Protocol : UInt16 := 0x86dd

/-- The protocol number that goes with the address. -/
def protocol : GroupAddress → UInt16
  | ipv4 _ => ipv4Protocol
  | ipv6 _ => ipv6Protocol
  | mac _ => 0

/-- The address that sixteen octets hold under a protocol. -/
def ofWire (protocol : UInt16) (octets : FixedOctets 16) : GroupAddress :=
  if protocol = ipv4Protocol then
    match octets.val with
    | first :: second :: third :: fourth :: _ => ipv4 ⟨first, second, third, fourth⟩
    | _ => default
  else if protocol = ipv6Protocol then ipv6 (.ofOctets octets.val octets.property)
  else mac ⟨octets.val.take 6, by simp [octets.property]⟩

/-- The sixteen octets that hold the address, zero where it is shorter. -/
def toWire (address : GroupAddress) : FixedOctets 16 :=
  .ofOctets 16 <|
    match address with
    | ipv4 address => address.toOctets
    | ipv6 address => address.toOctets
    | mac address => address.octets

/-- The written form of the address. -/
def text : GroupAddress → List Char
  | ipv4 address => address.toText
  | ipv6 address => address.toText
  | mac address => address.toText

/-- The written form of the address. -/
def toText (address : GroupAddress) : String :=
  String.ofList address.text

/-- The address of the internet protocols a text stands for. -/
def internet? (text : List Char) : Option GroupAddress :=
  match Ipv4Address.read text with
  | some (address, rest) => if rest.isEmpty then some (ipv4 address) else none
  | none =>
    match Ipv6Address.read text with
    | some (address, rest) => if rest.isEmpty then some (ipv6 address) else none
    | none => none

/-- The address a text stands for: one of the internet protocols if it is one, else one of
the link layer. -/
def ofText? (text : List Char) : Option GroupAddress :=
  match internet? text with
  | some address => some address
  | none => (MacAddress.ofText? text).map mac

/-- The address a text spells; the error quotes the text. -/
def ofText (text : String) : Except Error GroupAddress :=
  match ofText? text.toList with
  | some address => .ok address
  | none => .error (.invalidInput (.groupAddress text))

end GroupAddress

end BridgeView
