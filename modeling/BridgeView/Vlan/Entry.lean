import BridgeView.Attribute.Table
import BridgeView.Record

/-!
# VLAN entries

A port belongs to single VLANs and to ranges of VLANs, each with its flags and
possibly a spanning tree state.
-/

namespace BridgeView

namespace VlanFlags

/-- Untagged frames that arrive at the port belong to the VLAN. -/
def portVlan : UInt16 := 0x02

/-- Frames of the VLAN leave the port untagged. -/
def untagged : UInt16 := 0x04

/-- The record names the first VLAN of a range. -/
def rangeBegin : UInt16 := 0x08

/-- The record names the last VLAN of a range. -/
def rangeEnd : UInt16 := 0x10

end VlanFlags

/-- The word for a state of the spanning tree. -/
def spanningTreeStateName (state : UInt8) : String :=
  match state.toNat with
  | 0 => "disabled"
  | 1 => "listening"
  | 2 => "learning"
  | 3 => "forwarding"
  | 4 => "blocking"
  | _ => "unknown"

/-- A VLAN or a range of VLANs of a port. -/
structure VlanEntry where
  /-- The VLAN, or the first one of the range. -/
  vlan : UInt16
  flags : UInt16 := 0
  /-- The spanning tree state. -/
  state? : Option UInt8 := none
  /-- The last VLAN of the range, zero for a single VLAN. -/
  last : UInt16 := 0
deriving DecidableEq, Repr, Inhabited

namespace VlanEntry

/-- Whether the entry is the port's own VLAN. -/
def isPortVlan (entry : VlanEntry) : Bool :=
  entry.flags &&& VlanFlags.portVlan != 0

/-- Whether frames leave the port untagged. -/
def isUntagged (entry : VlanEntry) : Bool :=
  entry.flags &&& VlanFlags.untagged != 0

/-- Whether the entry spans more than one VLAN. -/
def isRange (entry : VlanEntry) : Bool :=
  entry.vlan < entry.last

/-- Whether the entry spans the VLAN of the given number. -/
def covers (entry : VlanEntry) (vlan : UInt16) : Bool :=
  entry.vlan ≤ vlan && vlan ≤ max entry.last entry.vlan

theorem covers_iff {entry : VlanEntry} {vlan : UInt16} :
    entry.covers vlan = true ↔ entry.vlan ≤ vlan ∧ vlan ≤ max entry.last entry.vlan := by
  simp [covers]

/-- An entry spans the VLAN that it starts with. -/
theorem covers_vlan (entry : VlanEntry) : entry.covers entry.vlan = true := by
  rw [covers_iff]
  refine ⟨UInt16.le_refl _, ?_⟩
  show entry.vlan ≤ if entry.last ≤ entry.vlan then entry.vlan else entry.last
  split
  · exact UInt16.le_refl _
  · exact UInt16.le_of_lt (UInt16.not_le.mp ‹_›)

/-- The VLAN number, followed by the last one of a range. -/
def spanText (vlan last : UInt16) : String :=
  if vlan < last then s!"vlan {vlan}-{last}" else s!"vlan {vlan}"

/-- The state after the word for it, nothing when it is unset. -/
def stateText (state? : Option UInt8) : String :=
  match state? with
  | some state => s!" state {spanningTreeStateName state}"
  | none => ""

/-- The words about a VLAN: numbers, state and flags. -/
def text (entry : VlanEntry) : String :=
  spanText entry.vlan entry.last ++ stateText entry.state?
    ++ (if entry.isPortVlan then " pvid" else "")
    ++ (if entry.isUntagged then " untagged" else "")

/-- The flags without the two that mark the ends of a range. -/
def ownFlags (entry : VlanEntry) : UInt16 :=
  entry.flags &&& ~~~(VlanFlags.rangeBegin ||| VlanFlags.rangeEnd)

/-- The records that name the entry in a request: both ends of a range, or the single
VLAN. -/
def infos (entry : VlanEntry) : List VlanInfo :=
  if entry.isRange then
    [⟨entry.ownFlags ||| VlanFlags.rangeBegin, entry.vlan⟩,
      ⟨entry.ownFlags ||| VlanFlags.rangeEnd, entry.last⟩]
  else [⟨entry.ownFlags, entry.vlan⟩]

/-- The rules for the attributes about a VLAN. -/
def table : AttributeTable where
  name := "bridge_vlandb_entry"
  rules := [.unspecified, .exact .binary VlanInfo.size, { kind := .word16 },
    { kind := .word8 }, { kind := .nested }]

/-- The kind of the record that names the VLAN. -/
def infoKind : UInt16 := 1

/-- The kind of the last VLAN of a range. -/
def lastKind : UInt16 := 2

/-- The kind of the spanning tree state. -/
def stateKind : UInt16 := 3

/-- Reads what a stream of attributes says about a VLAN. -/
def ofStream (stream : Octets) : Except Error VlanEntry := do
  let decoded ← table.decode stream
  match decoded.get? infoKind with
  | none => .error (.missingAttribute "BRIDGE_VLANDB_ENTRY_INFO")
  | some record =>
    let (info, _) ← VlanInfo.scan.runRecord record
    return { vlan := info.vlan, flags := info.flags, state? := decoded.octet? stateKind
             last := (decoded.word16? lastKind).getD 0 }

end VlanEntry

end BridgeView
