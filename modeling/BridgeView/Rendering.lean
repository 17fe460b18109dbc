import BridgeView.Interface

/-!
# Rendering

Objects are shown as text, either in one line or with one further line for each of
their parts, and interfaces are shown by name where the name is known.
-/

namespace BridgeView

/-- How objects are shown. -/
structure Rendering where
  /-- Whether the parts are shown too. -/
  detailed : Bool := false
  interfaces : InterfaceTable := []
deriving Repr, Inhabited

end BridgeView
