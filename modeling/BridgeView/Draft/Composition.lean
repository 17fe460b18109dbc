import BridgeView.Draft

/-!
# Compositions

A composition is a draft together with the marks of the containers opened so far, so that
every way to change a draft can be written down as an edit.  A container is closed by the
number of its opening, counted from zero; containers may be closed in any order and more
than once, and closing one that was never opened changes nothing.
-/

namespace BridgeView

/-- One change of a draft. -/
inductive Edit where
  /-- Appends octets to the body and pads it. -/
  | append (octets : Octets)
  /-- Appends an attribute. -/
  | appendAttribute (type : UInt16) (payload : Octets)
  /-- Opens a container. -/
  | openNest (type : UInt16)
  /-- Closes the container of the given number. -/
  | closeNest (number : Nat)
  /-- Sets the type. -/
  | setType (type : UInt16)
  /-- Sets the sequence number. -/
  | setSequence (sequence : UInt32)
  /-- Sets the port of the sender. -/
  | setPort (port : UInt32)
deriving DecidableEq, Repr, Inhabited

/-- A draft and the marks of its containers, in the order of their opening. -/
structure Composition where
  draft : Draft
  marks : List Draft.Mark := []
deriving DecidableEq, Repr, Inhabited

namespace Composition

/-- The draft after an edit; closing a container that was never opened changes nothing. -/
def edited (composition : Composition) : Edit → Draft
  | .append octets => composition.draft.append octets
  | .appendAttribute type payload => composition.draft.appendAttribute type payload
  | .openNest type => (composition.draft.openNest type).1
  | .closeNest number =>
    match composition.marks[number]? with
    | some mark => composition.draft.closeNest mark
    | none => composition.draft
  | .setType type => composition.draft.setType type
  | .setSequence sequence => composition.draft.setSequence sequence
  | .setPort port => composition.draft.setPort port

/-- The marks after an edit, one more if it opened a container. -/
def marked (composition : Composition) : Edit → List Draft.Mark
  | .openNest type => composition.marks ++ [(composition.draft.openNest type).2]
  | _ => composition.marks

/-- An edit of the draft, with the mark that it leaves. -/
def apply (composition : Composition) (edit : Edit) : Composition :=
  ⟨composition.edited edit, composition.marked edit⟩

/-- Makes edits in their order. -/
def applyAll (composition : Composition) (edits : List Edit) : Composition :=
  edits.foldl apply composition

end Composition

end BridgeView
