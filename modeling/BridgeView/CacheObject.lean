import BridgeView.Draft
import BridgeView.Rendering

/-!
# Cacheable objects

What a type needs so that its values can be cached.  Its attributes are bits of a
word: a set of bits says which attributes an object has, which ones identify it
within a cache, and which ones differ between two objects.  A newer object may be
merged into a cached one, and a deletion takes away the parts it names.  To follow
the kernel, a type names the messages it consumes and what each of them does, the
groups that carry its events, the request that makes the kernel dump every object,
and the reading of one message.
-/

namespace BridgeView

/-- A set of attributes, one bit each. -/
abbrev AttributeSet := UInt64

namespace AttributeSet

/-- Every attribute, known or not. -/
def all : AttributeSet := 0xffffffffffffffff

/-- Whether any of the given attributes is in the set. -/
def has (attributes bit : AttributeSet) : Bool :=
  attributes &&& bit != 0

/-- The attribute if the condition holds, else the empty set. -/
def when (condition : Bool) (bit : AttributeSet) : AttributeSet :=
  if condition then bit else 0

/-- The attribute if it is requested and differs: only one side has it, or both have it
and their values differ. -/
def difference (requested left right bit : AttributeSet) (valuesDiffer : Bool) :
    AttributeSet :=
  when
    (requested.has bit
      && (left.has bit != right.has bit
        || (left.has bit && valuesDiffer)))
    bit

end AttributeSet

/-- Which attributes a comparison regards, and how it treats flags. -/
inductive Comparison where
  /-- Every requested attribute, exactly. -/
  | exact
  /-- Only the attributes that identify an object within its cache. -/
  | identity
  /-- Every requested attribute, flags only in the bits the right side has touched. -/
  | loose
deriving DecidableEq, Repr, Inhabited

/-- What happens to a cached object. -/
inductive Action where
  /-- It appears. -/
  | new
  /-- It goes away. -/
  | delete
  /-- It is asked for. -/
  | get
  /-- It changes. -/
  | change
deriving DecidableEq, Repr, Inhabited

namespace Action

/-- The word by which a change is reported. -/
def name : Action → String
  | new => "NEW"
  | delete => "DEL"
  | get => "GET"
  | change => "CHANGE"

end Action

/-- A message type that a cache consumes. -/
structure MessageRow where
  type : UInt16
  /-- What a message of the type does. -/
  action : Action
  name : String
deriving DecidableEq, Repr, Inhabited

/-- A group of events, and the address family it belongs to. -/
structure EventGroup where
  family : UInt8
  group : UInt32
deriving DecidableEq, Repr, Inhabited

/-- What a deletion leaves of an object. -/
structure Remainder (α : Type) where
  /-- The object without the parts that were deleted. -/
  object : α
  /-- Whether it stays cached; else it goes away as a whole. -/
  stays : Bool
deriving Repr

/-- The operations that make values of a type cacheable. -/
class CacheObject (α : Type) where
  /-- The name of the type. -/
  typeName : String
  /-- The octets of the family header. -/
  headerSize : Nat
  /-- The message types the cache consumes. -/
  messageRows : List MessageRow
  /-- The groups that carry the events of the type. -/
  groups : List EventGroup
  /-- The request for a dump of every object. -/
  dumpRequest : Draft
  /-- Reads one message; a message that is not for this cache gives nothing. -/
  read : MessageHeader → Octets → Except Error (Option α)
  /-- The attributes that identify the object within its cache. -/
  identity : α → AttributeSet
  /-- The attributes the object has. -/
  present : α → AttributeSet
  /-- The requested attributes in which two objects differ; the last argument asks for the
  loose treatment of flags. -/
  differing : α → α → AttributeSet → Bool → AttributeSet
  /-- The cached object with a newer one merged into it; a type that does not merge gives
  nothing and is replaced. -/
  merge? : α → α → Option α := fun _ _ => none
  /-- The cached object without the parts a deletion names. -/
  subtract : α → α → Remainder α := fun cached _ => ⟨cached, false⟩
  /-- The object in one line. -/
  line : InterfaceTable → α → String
  /-- The object with its parts. -/
  block : InterfaceTable → α → String := line

namespace CacheObject

variable {α : Type} [CacheObject α]

/-- The requested attributes in which two objects differ. -/
def compare (left right : α) (requested : AttributeSet) : Comparison → AttributeSet
  | .exact => differing left right requested false
  | .identity => differing left right (requested &&& identity left) false
  | .loose => differing left right requested true

/-- Whether two objects are versions of the same thing. -/
def identical (left right : α) : Bool :=
  compare left right AttributeSet.all .identity == 0

/-- The object with a newer one merged into it, or replaced by it. -/
def updated (cached newer : α) : α :=
  (merge? cached newer).getD newer

/-- The text of an object in the form that is asked for. -/
def render (rendering : Rendering) (object : α) : String :=
  if rendering.detailed then block rendering.interfaces object
  else line rendering.interfaces object

variable (α)

/-- The row for a message type, the first one if there are several. -/
def row? (type : UInt16) : Option MessageRow :=
  (messageRows α).find? (·.type == type)

/-- What a message of the given type does. -/
def action? (type : UInt16) : Option Action :=
  (row? α type).map (·.action)

end CacheObject

end BridgeView
