import BridgeView.ChangeRequest
import BridgeView.Multicast.Table

/-!
# Multicast requests

A membership is added to or removed from the database of a bridge by a message that names
the bridge and holds the record of the membership.
-/

namespace BridgeView.GroupTable

/-- The kind of the attribute that names the membership to add or to remove. -/
def requestEntryKind : UInt16 := 1

/-- The octets reserved for a request. -/
def requestCapacity : Nat :=
  messageHeaderSize + PortHeader.size + attributeHeaderSize + GroupRecord.size

/-- The request of the given type about a membership. -/
def request [Memory] (type : UInt16) (bridge : UInt32) (entry : GroupEntry) (flags : UInt16) :
    Except Error ChangeRequest := do
  let empty ← Draft.reserve type
    (MessageFlags.request ||| MessageFlags.acknowledge ||| flags) requestCapacity
  let header : PortHeader := { family := bridgeAddressFamily, interface := bridge }
  return { draft := (empty.append header.toOctets).appendAttribute requestEntryKind
             entry.toRecord.toOctets }

/-- The request that adds a membership. -/
def addRequest [Memory] (bridge : UInt32) (entry : GroupEntry) (flags : UInt16) :
    Except Error ChangeRequest :=
  request MessageType.newGroups bridge entry flags

/-- The request that removes a membership. -/
def deleteRequest [Memory] (bridge : UInt32) (entry : GroupEntry) : Except Error ChangeRequest :=
  request MessageType.deleteGroups bridge entry 0

variable {σ : Type} [Memory] [Transport σ]

/-- Adds a membership. -/
def add (bridge : UInt32) (entry : GroupEntry) (flags : UInt16) (state : σ) :
    Except Error Unit × σ :=
  match addRequest bridge entry flags with
  | .error error => (.error error, state)
  | .ok request =>
    request.submitDuring s!"adding mdb group {entry.address.toText} on port {entry.port}" state

/-- Removes a membership. -/
def delete (bridge : UInt32) (entry : GroupEntry) (state : σ) : Except Error Unit × σ :=
  match deleteRequest bridge entry with
  | .error error => (.error error, state)
  | .ok request =>
    request.submitDuring s!"deleting mdb group {entry.address.toText} on port {entry.port}" state

end BridgeView.GroupTable
