import BridgeView.Multicast.Table
import BridgeView.Proofs.Attribute.Revision
import BridgeView.Vlan.Port
import Mathlib.Logic.Relation

/-!
# Messages of newer kernels

For each level of a message there is a relation of what may change in it: the revisions of the
stream, together with what may change inside of the attributes that are containers. The readers of
the levels overlook these changes, from the innermost level out, and so do the readers of whole
messages, for which the header may change as well, but for the family and the index
(`ofPayload_of_revisions`).

A container that a table only checks is never looked into, and anything may be inserted there
(`LooseRevision`).
-/

namespace BridgeView

open Attribute

/-- Changes inside of the payloads of one kind. -/
def OfKind (kind : UInt16) (changes : Octets → Octets → Prop) :
    UInt16 → Octets → Octets → Prop :=
  fun found old new => found = kind ∧ changes old new

section Kinds

variable {table : AttributeTable} {kind other found : UInt16}
  {changes otherChanges : Octets → Octets → Prop} {first second : UInt16 → Octets → Octets → Prop}

theorem not_ofKind (apart : found ≠ kind) (old new : Octets) :
    ¬OfKind kind changes found old new :=
  fun changes => apart changes.1

theorem changes_of_or {old new : Octets} (apart : found ≠ other)
    (either : OfKind kind changes found old new ∨ OfKind other otherChanges found old new) :
    changes old new :=
  (either.resolve_right (not_ofKind apart old new)).2

/-- A table allows changes inside one kind if the rule of that kind does. -/
theorem allowsInside_ofKind {rule : Rule} (isRule : table.rules[kind.toNat]? = some rule)
    (goesOn : ∀ {old new}, changes old new → rule.Allows old → rule.Allows new) :
    AllowsInside table (OfKind kind changes) := by
  rintro kind other old new isOther ⟨rfl, changes⟩ allows
  rw [isRule, Option.some.injEq] at isOther
  subst isOther
  exact goesOn changes allows

/-- A table that allows two sorts of changes allows either of them. -/
theorem AllowsInside.or (allowsFirst : AllowsInside table first)
    (allowsSecond : AllowsInside table second) :
    AllowsInside table fun kind old new => first kind old new ∨ second kind old new := by
  rintro kind rule old new isRule (changes | changes) allows
  · exact allowsFirst isRule changes allows
  · exact allowsSecond isRule changes allows

end Kinds

/-- Changes in a container that is checked to be a stream, and not read. -/
def LooseRevision : Octets → Octets → Prop :=
  Revises { name := "", rules := [] } fun _ _ _ => False

namespace VlanEntry

/-- The kind of the container of tunnels, which is not read. -/
def tunnelKind : UInt16 := 4

/-- A newer stream about a VLAN: only what describes a tunnel changes inside, and loosely. -/
def Revision : Octets → Octets → Prop :=
  Revises table (OfKind tunnelKind LooseRevision)

/-- Reading a VLAN overlooks revisions of what is said of it. -/
theorem overlooks_ofStream : Overlooks ofStream Revision := by
  intro old new entry revises isOk
  have goesOn : AllowsInside table (OfKind tunnelKind LooseRevision) :=
    allowsInside_ofKind rfl Revises.allows_nested
  refine revises.bind_decode goesOn ?_ isOk
  intro before after recurs isRead
  have info_eq : after.get? infoKind = before.get? infoKind :=
    recurs.get?_eq (by decide) (not_ofKind (by decide))
  have last_eq : after.get? lastKind = before.get? lastKind :=
    recurs.get?_eq (by decide) (not_ofKind (by decide))
  have state_eq : after.get? stateKind = before.get? stateKind :=
    recurs.get?_eq (by decide) (not_ofKind (by decide))
  rw [info_eq, DecodedStream.octet?, state_eq, DecodedStream.word16?, last_eq]
  exact isRead

end VlanEntry

namespace GroupEntry

/-- The kind of the container of sources, which is not read. -/
def sourcesKind : UInt16 := 2

/-- Newer octets about a membership: its record may be padded in another way, and only the sources
change inside what follows it. -/
inductive Revision : Octets → Octets → Prop
  | intro (record : GroupRecord) (pad : FixedOctets 2) {old new : Octets}
      (revises : Revises extraTable (OfKind sourcesKind LooseRevision) old new) :
      Revision (record.toOctets ++ old) ({ record with pad }.toOctets ++ new)

/-- Reading a membership overlooks revisions of what is said of it. -/
theorem overlooks_ofInfo : Overlooks ofInfo Revision := by
  rintro _ _ entry ⟨record, pad, revises⟩ isOk
  have goesOn : AllowsInside extraTable (OfKind sourcesKind LooseRevision) :=
    allowsInside_ofKind rfl Revises.allows_nested
  rw [ofInfo, GroupRecord.runRecord_toOctets_append] at isOk ⊢
  refine revises.bind_decode goesOn ?_ isOk
  intro before after recurs isRead
  have timer_eq : after.get? timerKind = before.get? timerKind :=
    recurs.get?_eq (by decide) (not_ofKind (by decide))
  rw [DecodedStream.word32?, timer_eq]
  exact isRead

theorem Revision.size_le {old new : Octets} (revision : Revision old new) :
    GroupRecord.size ≤ new.length := by
  rcases revision with ⟨record, pad, revises⟩
  rw [List.length_append, GroupRecord.length_toOctets]
  exact Nat.le_add_right _ _

end GroupEntry

namespace PortVlans

/-- The kind of the container of options, which is not read. -/
def optionsKind : UInt16 := 2

/-- What may change inside an attribute of a VLAN message. -/
def ChangesInside (kind : UInt16) (old new : Octets) : Prop :=
  OfKind entryKind VlanEntry.Revision kind old new ∨ OfKind optionsKind LooseRevision kind old new

/-- The family and the index stay. -/
inductive Revision : Octets → Octets → Prop
  | intro (header : VlanHeader) (reserved1 : UInt8) (reserved2 : UInt16) {old new : Octets}
      (revises : Revises table ChangesInside old new) :
      Revision (header.toOctets ++ old) ({ header with reserved1, reserved2 }.toOctets ++ new)

/-- Reading a VLAN message overlooks its revisions. -/
theorem overlooks_ofPayload : Overlooks ofPayload Revision := by
  rintro _ _ port? ⟨header, reserved1, reserved2, revises⟩ isOk
  have goesOn : AllowsInside table ChangesInside :=
    (allowsInside_ofKind rfl Revises.allows_nested).or
      (allowsInside_ofKind rfl Revises.allows_nested)
  have overlooks : Overlooks VlanEntry.ofStream (ChangesInside entryKind) := by
    intro old new entry changes isRead
    exact VlanEntry.overlooks_ofStream (changes_of_or (by decide) changes) isRead
  rw [ofPayload, VlanHeader.ofOctets_toOctets_append] at isOk ⊢
  by_cases bridge : header.family = bridgeAddressFamily
  · simp only [bind, Except.bind, bridge, ne_eq, not_true, if_false,
      AttributeTable.decodeAfter_append (VlanHeader.length_toOctets _) rfl] at isOk ⊢
    refine revises.bind_decode goesOn ?_ isOk
    intro before after recurs isRead
    exact bind_eq_ok_of_imp (recurs.mapM_all (by decide) overlooks) id isRead
  -- A message of another family is not decoded.
  · simp only [bind, Except.bind, bridge, ne_eq, not_false_eq_true, if_true] at isOk ⊢
    exact isOk

end PortVlans

namespace GroupTable

/-- Newer octets of a container of memberships. -/
def ContainerRevision : Octets → Octets → Prop :=
  Revises entryTable (OfKind infoKind GroupEntry.Revision)

/-- Reading a container of memberships overlooks its revisions. -/
theorem overlooks_entriesOfStream : Overlooks entriesOfStream ContainerRevision := by
  intro old new entries revises isOk
  have goesOn : AllowsInside entryTable (OfKind infoKind GroupEntry.Revision) := by
    apply allowsInside_ofKind rfl
    intro old new revision _
    exact Rule.allows_of_le ⟨by decide, by decide⟩ (Nat.zero_le _) revision.size_le
  refine revises.bind_decode goesOn ?_ isOk
  intro before after recurs isRead
  refine recurs.mapM_all (by decide) ?_ isRead
  intro old new entry changes
  exact GroupEntry.overlooks_ofInfo changes.2

/-- Newer octets of the memberships of a bridge. -/
def DatabaseRevision : Octets → Octets → Prop :=
  Revises databaseTable (OfKind entryKind ContainerRevision)

/-- What stands behind the index of a router port is not read. -/
inductive PortRevision : Octets → Octets → Prop
  | intro (port : UInt32) (old new : Octets) :
      PortRevision (Octets.ofWord32 port ++ old) (Octets.ofWord32 port ++ new)

/-- Newer octets of the router ports of a bridge. -/
def RouterRevision : Octets → Octets → Prop :=
  Revises routerTable (OfKind routerPortKind PortRevision)

/-- What may change inside an attribute of a membership message. -/
def ChangesInside (kind : UInt16) (old new : Octets) : Prop :=
  OfKind databaseKind DatabaseRevision kind old new ∨
    OfKind routerKind RouterRevision kind old new

section Reading

variable {before after : DecodedStream}
  (recurs : DecodedStream.Recurs messageTable ChangesInside before after)
include recurs

/-- Memberships that are read are read again after the revision. -/
theorem readEntries_of_recurs {entries : List GroupEntry}
    (isOk : readEntries before = .ok entries) : readEntries after = .ok entries := by
  have goesOn : AllowsInside databaseTable (OfKind entryKind ContainerRevision) :=
    allowsInside_ofKind rfl Revises.allows_nested
  have revises {old new : Octets} (changes : ChangesInside databaseKind old new) :
      DatabaseRevision old new :=
    changes_of_or (by decide) changes
  refine recurs.bind_nested (by decide) revises goesOn ?_ isOk
  intro before? after? found isRead
  cases found with
  | none => exact isRead
  | some inside =>
      refine bind_eq_ok_of_imp (inside.mapM_all (by decide) ?_) id isRead
      intro old new entries changes
      exact overlooks_entriesOfStream changes.2

/-- Router ports that are read are read again after the revision. -/
theorem readRouterPorts_of_recurs {ports : List UInt32}
    (isOk : readRouterPorts before = .ok ports) : readRouterPorts after = .ok ports := by
  have goesOn : AllowsInside routerTable (OfKind routerPortKind PortRevision) := by
    apply allowsInside_ofKind rfl
    rintro _ _ ⟨port, old, new⟩ _
    refine Rule.allows_of_le ⟨by decide, by decide⟩ (Nat.zero_le _) ?_
    simp
  have revises {old new : Octets} (changes : ChangesInside routerKind old new) :
      RouterRevision old new :=
    changes_of_or (by decide) changes.symm
  refine recurs.bind_nested (by decide) revises goesOn ?_ isOk
  intro before? after? found isRead
  cases found with
  | none => exact isRead
  | some inside =>
      refine inside.mapM_all (by decide) ?_ isRead
      rintro _ _ value ⟨_, port, old, new⟩ isWord
      exact isWord

end Reading

/-- A newer membership message: its header may be padded in another way, and its attributes are
revised. -/
inductive Revision : Octets → Octets → Prop
  | intro (header : PortHeader) (pad : FixedOctets 3) {old new : Octets}
      (revises : Revises messageTable ChangesInside old new) :
      Revision (header.toOctets ++ old) ({ header with pad }.toOctets ++ new)

/-- Reading a membership message overlooks its revisions. -/
theorem overlooks_ofPayload : Overlooks ofPayload Revision := by
  rintro _ _ table? ⟨header, pad, revises⟩ isOk
  have goesOn : AllowsInside messageTable ChangesInside :=
    (allowsInside_ofKind rfl Revises.allows_nested).or
      (allowsInside_ofKind rfl Revises.allows_nested)
  rw [ofPayload, PortHeader.ofOctets_toOctets_append] at isOk ⊢
  by_cases bridge : header.family = bridgeAddressFamily
  · simp only [bind, Except.bind, bridge, ne_eq, not_true, if_false,
      AttributeTable.decodeAfter_append (PortHeader.length_toOctets _) rfl] at isOk ⊢
    refine revises.bind_decode goesOn ?_ isOk
    intro before after recurs isRead
    refine bind_eq_ok_of_imp (readEntries_of_recurs recurs) ?_ isRead
    exact bind_eq_ok_of_imp (readRouterPorts_of_recurs recurs) id
  -- A message of another family is not decoded.
  · simp only [bind, Except.bind, bridge, ne_eq, not_false_eq_true, if_true] at isOk ⊢
    exact isOk

end GroupTable

/-- A reader that overlooks one revision overlooks any number of them. -/
theorem Overlooks.reflTransGen {α : Type} {read : Octets → Except Error α}
    {changes : Octets → Octets → Prop} (overlooks : Overlooks read changes) :
    Overlooks read (Relation.ReflTransGen changes) := by
  intro old new value many isOk
  induction many with
  | refl => exact isOk
  | tail earlier change ih => exact overlooks change ih

/-- Whatever is accepted of a message is read just the same of the message after any number of
changes at all of its levels. -/
theorem ofPayload_of_revisions :
    Overlooks PortVlans.ofPayload (Relation.ReflTransGen PortVlans.Revision) ∧
      Overlooks GroupTable.ofPayload (Relation.ReflTransGen GroupTable.Revision) :=
  ⟨PortVlans.overlooks_ofPayload.reflTransGen, GroupTable.overlooks_ofPayload.reflTransGen⟩

namespace Newer

/-- An attribute of a kind that no table knows. -/
def novelty : LaidAttribute where
  type := 0x8063
  payload := [8, 0, 1, 0, 0xff]
  padding := [1, 2, 3]

/-- VLAN 10, to which the frames without a VLAN of their own belong. -/
def vlanInfo : LaidAttribute := { type := 1, payload := [2, 0, 10, 0] }

/-- The state of the VLAN. -/
def vlanState : LaidAttribute := { type := 3, payload := [3], padding := [0, 0, 0] }

/-- The state with a mark that it did not have and other octets in its padding. -/
def markedState : LaidAttribute := { type := 0x4003, payload := [3], padding := [7, 7, 7] }

/-- What is said of the VLAN. -/
def vlan : LaidAttribute where
  type := 0x8001
  payload := vlanInfo.toOctets ++ vlanState.toOctets

/-- The same with an attribute more, and without the mark of a container. -/
def newerVlan : LaidAttribute where
  type := 1
  payload := vlanInfo.toOctets ++ (novelty.toOctets ++ markedState.toOctets)

/-- The header of the VLAN message, about port 3. -/
def vlanHeader : VlanHeader := { family := bridgeAddressFamily, interface := 3 }

/-- The VLAN message. -/
def vlanReport : Octets := vlanHeader.toOctets ++ (vlan.toOctets ++ [])

/-- The VLAN message as a newer kernel might send it. -/
def newerVlanReport : Octets :=
  { vlanHeader with reserved1 := 1, reserved2 := 2 }.toOctets ++
    (newerVlan.toOctets ++ (novelty.toOctets ++ []))

/-- The newer VLAN message is a revision of the other one. -/
theorem revision_vlanReport : PortVlans.Revision vlanReport newerVlanReport := by
  have entry : VlanEntry.Revision vlan.payload newerVlan.payload := by
    refine .exchange ⟨rfl, .same _⟩ (by decide) (by decide) ?_
    exact .insert (by decide) (by decide) (.last ⟨by decide, .same _⟩)
  refine .intro _ _ _ (.exchange ⟨by decide, .within (.inl ⟨by decide, entry⟩)⟩ ?_ ?_ ?_)
  · decide
  · decide
  · exact .insert (by decide) (by decide) (.rest [])

/-- The record of a membership in VLAN 10 of port 3. -/
def groupRecord : GroupRecord where
  port := 3
  state := 1
  flags := 0
  vlan := 10
  address := ⟨[239, 1, 1, 1, 0, 0, 0, 0, 0, 0, 0, 0, 0, 0, 0, 0], rfl⟩
  protocol := ⟨[8, 0], rfl⟩

/-- A timer of three seconds. -/
def timer : LaidAttribute := { type := 1, payload := [44, 1, 0, 0] }

/-- What is said of the membership. -/
def groupInfo : LaidAttribute where
  type := 1
  payload := groupRecord.toOctets ++ timer.toOctets

/-- The same with other octets in the padding of the record, and an attribute more. -/
def newerGroupInfo : LaidAttribute where
  type := 0x8001
  payload := { groupRecord with pad := ⟨[5, 6], rfl⟩ }.toOctets ++
    (novelty.toOctets ++ timer.toOctets)

/-- The container of the membership. -/
def members : LaidAttribute := { type := 0x8001, payload := groupInfo.toOctets ++ [] }

/-- The container with an attribute more. -/
def newerMembers : LaidAttribute where
  type := 0x8001
  payload := newerGroupInfo.toOctets ++ (novelty.toOctets ++ [])

/-- The memberships of the bridge. -/
def database : LaidAttribute := { type := 0x8001, payload := members.toOctets }

/-- The memberships with an attribute more before them. -/
def newerDatabase : LaidAttribute where
  type := 1
  payload := novelty.toOctets ++ newerMembers.toOctets

/-- Router port 4. -/
def routerPort : LaidAttribute := { type := 1, payload := [4, 0, 0, 0] }

/-- The router ports of the bridge. -/
def routers : LaidAttribute := { type := 0x8002, payload := routerPort.toOctets }

/-- The router ports with an attribute more before them. -/
def newerRouters : LaidAttribute where
  type := 0x8002
  payload := novelty.toOctets ++ routerPort.toOctets

/-- The header of the membership message, about bridge 5. -/
def portHeader : PortHeader := { family := bridgeAddressFamily, interface := 5 }

/-- The membership message. -/
def groupReport : Octets :=
  portHeader.toOctets ++ (database.toOctets ++ routers.toOctets)

/-- The membership message as a newer kernel might send it. -/
def newerGroupReport : Octets :=
  { portHeader with pad := ⟨[1, 2, 3], rfl⟩ }.toOctets ++
    (newerDatabase.toOctets ++ (novelty.toOctets ++ newerRouters.toOctets))

/-- The newer membership message is a revision of the other one. -/
theorem revision_groupReport : GroupTable.Revision groupReport newerGroupReport := by
  have info : GroupEntry.Revision groupInfo.payload newerGroupInfo.payload :=
    .intro _ _ (.insert (by decide) (by decide) (.rest _))
  have container : GroupTable.ContainerRevision members.payload newerMembers.payload := by
    refine .exchange ⟨by decide, .within ⟨by decide, info⟩⟩ (by decide) (by decide) ?_
    exact .insert (by decide) (by decide) (.rest [])
  have entries : GroupTable.DatabaseRevision database.payload newerDatabase.payload :=
    .insert (by decide) (by decide) (.last ⟨by decide, .within ⟨by decide, container⟩⟩)
  have ports : GroupTable.RouterRevision routers.payload newerRouters.payload :=
    .insert (by decide) (by decide) (.rest _)
  refine .intro _ _ (.exchange ⟨by decide, .within (.inl ⟨by decide, entries⟩)⟩ ?_ ?_ ?_)
  · decide
  · decide
  · refine .insert (by decide) (by decide) (.last ⟨by decide, ?_⟩)
    exact .within (.inr ⟨by decide, ports⟩)

/-- What both VLAN messages describe. -/
def port : PortVlans where
  interface? := some 3
  family? := some bridgeAddressFamily
  vlan? := some 10
  state? := some 3
  last? := some 0
  flags? := some 2
  entries := [{ vlan := 10, flags := 2, state? := some 3 }]

/-- What both membership messages describe. -/
def groups : GroupTable where
  bridge? := some 5
  family? := some bridgeAddressFamily
  entries :=
    [{ port := 3, vlan := 10, state := 1, protocol := 0x0800, timer? := some 300
       address := .ofWire 0x0800 groupRecord.address }]
  routerPorts := [4]

/-- Older and newer messages of both types describe the same. -/
theorem ofPayload_of_revisions_newerReports :
    (PortVlans.Revision vlanReport newerVlanReport ∧
        PortVlans.ofPayload vlanReport = .ok (some port) ∧
          PortVlans.ofPayload newerVlanReport = .ok (some port)) ∧
      GroupTable.Revision groupReport newerGroupReport ∧
        GroupTable.ofPayload groupReport = .ok (some groups) ∧
          GroupTable.ofPayload newerGroupReport = .ok (some groups) := by
  have readPort : PortVlans.ofPayload vlanReport = .ok (some port) := by decide +kernel
  have readGroups : GroupTable.ofPayload groupReport = .ok (some groups) := by decide +kernel
  refine ⟨⟨revision_vlanReport, readPort, ?_⟩, revision_groupReport, readGroups, ?_⟩
  · exact ofPayload_of_revisions.1 (.single revision_vlanReport) readPort
  · exact ofPayload_of_revisions.2 (.single revision_groupReport) readGroups

end Newer

end BridgeView
