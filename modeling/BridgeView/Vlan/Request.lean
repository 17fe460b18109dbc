import BridgeView.ChangeRequest
import BridgeView.Vlan.Port

/-!
# VLAN requests

The membership of a port is changed by a link message that names the port and holds one
container with the VLANs.  A message that adds VLANs is sent as a new link and, where
that is not supported, as a set link; one that removes them is sent as a delete link.
-/

namespace BridgeView.PortVlans

/-- The kind of the container of bridge attributes in a link message. -/
def bridgeContainerKind : UInt16 := 26

/-- The kind of a VLAN record in the container. -/
def vlanInfoKind : UInt16 := 2

/-- The VLANs that a description of changes asks for: its entries, or its single VLAN when it
has none. -/
def requested (changes : PortVlans) : List VlanEntry :=
  if changes.entries.isEmpty then
    match changes.vlan? with
    | some vlan =>
      [{ vlan, flags := changes.flags, state? := changes.state?, last := changes.last }]
    | none => []
  else changes.entries

/-- The octets reserved for a message about the given number of entries. -/
def requestCapacity (count : Nat) : Nat :=
  messageHeaderSize + LinkHeader.size + attributeHeaderSize
    + count * 2 * (attributeHeaderSize + VlanInfo.size)

/-- The link message about a port and VLANs of it. -/
def linkDraft [Memory] (type : UInt16) (port changes : PortVlans) (flags : UInt16) :
    Except Error Draft :=
  match port.interface? with
  | none => .error (.missingAttribute "ifindex")
  | some interface => do
    let entries := changes.requested
    if entries.isEmpty then
      .error (.missingAttribute "vlan id")
    else
      let empty ← Draft.reserve type
        (MessageFlags.request ||| MessageFlags.acknowledge ||| flags)
        (requestCapacity entries.length)
      let header : LinkHeader :=
        { family := port.family?.getD bridgeAddressFamily, interface := interface.toInt32 }
      let (opened, mark) := (empty.append header.toOctets).openNest bridgeContainerKind
      let infos := entries.flatMap VlanEntry.infos
      return (opened.appendAttributes vlanInfoKind (infos.map VlanInfo.toOctets)).closeNest mark

/-- The request that adds the VLANs of the changes to a port. -/
def changeRequest [Memory] (port changes : PortVlans) (flags : UInt16) :
    Except Error ChangeRequest := do
  let draft ← linkDraft MessageType.newLink port changes flags
  return { draft, fallback? := some MessageType.setLink }

/-- The request that removes the VLANs of the changes from a port. -/
def deleteRequest [Memory] (port changes : PortVlans) : Except Error ChangeRequest := do
  let draft ← linkDraft MessageType.deleteLink port changes 0
  return { draft }

variable {σ : Type} [Memory] [Transport σ]

/-- Adds the VLANs of the changes to a port. -/
def change (port changes : PortVlans) (flags : UInt16) (state : σ) : Except Error Unit × σ :=
  match port.changeRequest changes flags with
  | .error error => (.error error, state)
  | .ok request =>
    request.submitDuring s!"changing bridge vlan on ifindex {port.interface?.getD 0}" state

/-- Removes the VLANs of the changes from a port. -/
def delete (port changes : PortVlans) (state : σ) : Except Error Unit × σ :=
  match port.deleteRequest changes with
  | .error error => (.error error, state)
  | .ok request =>
    request.submitDuring s!"deleting bridge vlan on ifindex {port.interface?.getD 0}" state

end BridgeView.PortVlans
