import BridgeView.ErrorNumber
import BridgeView.Text.Quoted
import BridgeView.Text.Utf8

/-!
# Errors

Every way in which reading, caching, requesting or commanding can fail, each by
its cause.  The wording of an error is one function of the cause, and so are the
classes by which callers react: a thing that is missing, an operation that the
kernel does not support, a permission that is denied, a thing that already
exists, and input that cannot be read.
-/

namespace BridgeView

/-- Why an input or output operation failed. -/
inductive IoFault where
  /-- The system reported the given number. -/
  | system (number : ErrorNumber)
  /-- Nothing arrived in time. -/
  | timedOut
  /-- The other side is gone. -/
  | brokenPipe
  /-- The operation is not allowed. -/
  | permissionDenied
  /-- The thing operated on does not exist. -/
  | entityNotFound
  /-- Nothing more will arrive. -/
  | unexpectedEnd
deriving DecidableEq, Repr, Inhabited

namespace IoFault

/-- The text of the fault. -/
def message : IoFault → String
  | system number => number.message
  | timedOut => "timed out"
  | brokenPipe => "broken pipe"
  | permissionDenied => "permission denied"
  | entityNotFound => "entity not found"
  | unexpectedEnd => "unexpected end of file"

end IoFault

/-- Why an attribute breaks the rules of its stream or its table. -/
inductive AttributeFault where
  /-- The stated length does not even cover the attribute header. -/
  | shorterThanHeader (length : Nat)
  /-- The stated length goes past the octets that are left. -/
  | exceedsRemaining (length remaining : Nat)
  /-- The payload is shorter than the table demands. -/
  | tooShort (least actual : Nat)
  /-- The payload is longer than the table allows. -/
  | tooLong (most actual : Nat)
  /-- An attribute that only marks presence carries a payload. -/
  | flagPayload (length : Nat)
  /-- A reason given by the caller. -/
  | other (reason : String)
deriving DecidableEq, Repr, Inhabited

namespace AttributeFault

/-- The reason, as the error about the attribute gives it. -/
def message : AttributeFault → String
  | shorterThanHeader length => s!"length {length} shorter than header"
  | exceedsRemaining length remaining =>
    s!"length {length} exceeds remaining {remaining} bytes"
  | tooShort least actual => s!"expected at least {least} bytes, got {actual}"
  | tooLong most actual => s!"expected at most {most} bytes, got {actual}"
  | flagPayload length => s!"flag carries {length} bytes of payload"
  | other reason => reason

end AttributeFault

/-- Why the payload of an attribute is not the value asked for. -/
inductive ValueFault where
  /-- There is no octet to read. -/
  | emptyOctet
  /-- There are fewer octets than the word has. -/
  | truncatedWord (bits : Nat)
  /-- The octets are not text. -/
  | invalidText (fault : Text.Utf8Fault)
  /-- A reason given by the caller. -/
  | other (reason : String)
deriving DecidableEq, Repr, Inhabited

namespace ValueFault

/-- The reason, as the error about the value gives it. -/
def message : ValueFault → String
  | emptyOctet => "empty u8 attribute"
  | truncatedWord bits => s!"truncated u{bits} attribute"
  | invalidText fault => s!"invalid UTF-8: {fault.message}"
  | other reason => reason

end ValueFault

/-- Why a text cannot be the name of an interface. -/
inductive NameFault where
  /-- The name has no characters. -/
  | empty
  /-- The name does not fit the space the kernel has for it. -/
  | tooLong
  /-- The name holds a slash, a zero or a blank character. -/
  | invalidCharacter
deriving DecidableEq, Repr, Inhabited

namespace NameFault

/-- The reason, as the error about the name gives it. -/
def message : NameFault → String
  | empty => "empty name"
  | tooLong => "name too long"
  | invalidCharacter => "name contains invalid characters"

end NameFault

/-- Why a message, an argument or an option is not valid. -/
inductive InputFault where
  /-- A message header states an impossible length. -/
  | messageLength (length : Nat)
  /-- A text cannot be the name of an interface. -/
  | interfaceName (name : String) (fault : NameFault)
  /-- The receive buffer asked for exceeds what the kernel can be told. -/
  | receiveBuffer (size : Nat)
  /-- A text is no VLAN number. -/
  | vlanNumber (text : String)
  /-- A VLAN number lies outside the usable numbers. -/
  | vlanOutOfRange
  /-- A VLAN range ends before it starts. -/
  | vlanRangeReversed
  /-- A text is no group address. -/
  | groupAddress (text : String)
  /-- A reason given by the caller. -/
  | other (reason : String)
deriving DecidableEq, Repr, Inhabited

namespace InputFault

/-- The reason, as the error about the input gives it. -/
def message : InputFault → String
  | messageLength length => s!"invalid message length: {length}"
  | interfaceName name fault => s!"interface {Text.quote name}: {fault.message}"
  | receiveBuffer size => s!"receive buffer too large: {size}"
  | vlanNumber text => s!"invalid VLAN ID: {text}"
  | vlanOutOfRange => "VLAN ID must be 1-4094"
  | vlanRangeReversed => "VLAN range start must be <= end"
  | groupAddress text => s!"invalid group address: {text}"
  | other reason => reason

end InputFault

/-- Why an operation failed. -/
inductive Error where
  /-- An input or output operation failed. -/
  | io (fault : IoFault)
  /-- A buffer could not be reserved. -/
  | outOfMemory
  /-- The kernel refused with an error number. -/
  | kernel (number : ErrorNumber)
  /-- The kernel refused the named operation with an error number. -/
  | kernelDuring (operation : String) (number : ErrorNumber)
  /-- There are fewer octets than a layout has. -/
  | truncated (expected actual : Nat)
  /-- A message or an argument is not valid. -/
  | invalidInput (fault : InputFault)
  /-- An attribute of the given kind breaks its rules. -/
  | malformedAttribute (kind : UInt16) (fault : AttributeFault)
  /-- An attribute that has to be there is absent. -/
  | missingAttribute (name : String)
  /-- A payload is not the value asked for. -/
  | invalidAttribute (fault : ValueFault)
  /-- A record of fixed layout could not be read. -/
  | record (reason : String)
  /-- A thing was looked up and is not there. -/
  | notFound (what : String)
  /-- An operation is not supported. -/
  | notSupported (what : String)
  /-- A thing of that name is already there. -/
  | alreadyExists (name : String)
  /-- No cache type has that name. -/
  | unknownCacheType (name : String)
  /-- The cache of that name holds objects of another type. -/
  | cacheMismatch (name requested : String)
  /-- The kernel changed while it was dumped. -/
  | dumpInterrupted
  /-- A request that was to be numbered already carries a sequence number. -/
  | alreadyNumbered (sequence : UInt32)
deriving DecidableEq, Repr, Inhabited

namespace Error

/-- The reason given for a record that has too few octets. -/
def recordTooShort : Error :=
  record "Parsing Error: ContextError \x7b context: [], cause: None \x7d"

/-- The error a reply code stands for: codes are negated error numbers. -/
def ofReplyCode (code : Int32) : Error :=
  kernel (-code)

/-- The text of an error, as it is shown to the user. -/
def message : Error → String
  | io fault => s!"I/O error: {fault.message}"
  | outOfMemory => "out of memory"
  | kernel number => s!"kernel error: {number.message} (errno {number.toInt})"
  | kernelDuring operation number =>
    s!"{operation}: {number.message} (errno {number.toInt})"
  | truncated expected actual =>
    s!"message truncated: expected {expected} bytes, got {actual}"
  | invalidInput fault => s!"invalid message: {fault.message}"
  | malformedAttribute kind fault => s!"malformed attribute {kind}: {fault.message}"
  | missingAttribute name => s!"missing attribute: {name}"
  | invalidAttribute fault => s!"invalid attribute: {fault.message}"
  | record reason => s!"parse error: {reason}"
  | notFound what => s!"object not found: {what}"
  | notSupported what => s!"operation not supported: {what}"
  | alreadyExists name => s!"already exists: {name}"
  | unknownCacheType name => s!"unknown cache type: {name}"
  | cacheMismatch name requested =>
    s!"cache type mismatch: {name} does not hold {requested}"
  | dumpInterrupted => "dump interrupted, results may be inconsistent"
  | alreadyNumbered sequence => s!"request already carries sequence number {sequence}"

/-- Names the operation during which the kernel refused; other errors stay as they are. -/
def during (operation : String) : Error → Error
  | kernel number => kernelDuring operation number
  | error => error

/-- The number with which the kernel refused, if it did. -/
def number? : Error → Option ErrorNumber
  | kernel number => some number
  | kernelDuring _ number => some number
  | _ => none

/-- Whether the error says that something is missing. -/
def isNotFound : Error → Bool
  | kernel number => number == .noEntry || number == .noDevice
  | kernelDuring _ number => number == .noEntry || number == .noDevice
  | notFound _ => true
  | unknownCacheType _ => true
  | _ => false

/-- Whether the error says that the operation is not supported. -/
def isNotSupported : Error → Bool
  | kernel number => number == .unsupported
  | kernelDuring _ number => number == .unsupported
  | notSupported _ => true
  | _ => false

/-- Whether the kernel denied the permission. -/
def isPermissionDenied : Error → Bool
  | kernel number => number == .notPermitted || number == .accessDenied
  | kernelDuring _ number => number == .notPermitted || number == .accessDenied
  | _ => false

/-- Whether the error says that something already exists. -/
def isAlreadyExists : Error → Bool
  | kernel number => number == ErrorNumber.alreadyExists
  | kernelDuring _ number => number == ErrorNumber.alreadyExists
  | alreadyExists _ => true
  | _ => false

/-- Whether the input could not be read. -/
def isMalformed : Error → Bool
  | truncated _ _ => true
  | invalidInput _ => true
  | malformedAttribute _ _ => true
  | missingAttribute _ => true
  | invalidAttribute _ => true
  | record _ => true
  | _ => false

@[simp]
theorem number?_during (operation : String) (error : Error) :
    (error.during operation).number? = error.number? := by
  cases error <;> rfl

@[simp]
theorem isNotSupported_during (operation : String) (error : Error) :
    (error.during operation).isNotSupported = error.isNotSupported := by
  cases error <;> rfl

end Error

theorem exists_of_bind_eq_ok {α β : Type} {first : Except Error α} {next : α → Except Error β}
    {result : β} (isOk : first >>= next = .ok result) :
    ∃ value, first = .ok value ∧ next value = .ok result := by
  cases first with
  | error error => cases isOk
  | ok value => exact ⟨value, rfl, isOk⟩

end BridgeView
