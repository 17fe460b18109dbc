import BridgeView.Transport

/-!
# Change requests

A request that changes something in the kernel is sent and its acknowledgement
awaited.  Some kernels refuse the type of message that creates a thing but take the
same content under the type that sets it; a request may name that second type, and is
then sent once more when the first attempt is not supported.
-/

namespace BridgeView

/-- A request that changes something in the kernel. -/
structure ChangeRequest where
  /-- The message, not yet numbered. -/
  draft : Draft
  /-- The type under which it is sent again when the first one is not supported. -/
  fallback? : Option UInt16 := none
deriving DecidableEq, Repr, Inhabited

namespace ChangeRequest

variable {σ : Type} [Transport σ]

/-- How one attempt went: the message could not be sent, or its reply has an outcome. -/
inductive Attempt where
  /-- The message was not sent. -/
  | unsent (error : Error)
  /-- The message was sent, and the wait for its acknowledgement ended. -/
  | answered (outcome : Except Error Unit)

/-- Sends a draft and waits for its acknowledgement. -/
def attempt (draft : Draft) (state : σ) : Attempt × σ :=
  match Transport.sendNumbered draft state with
  | (.error error, next) => (.unsent error, next)
  | (.ok sequence, next) =>
    let (outcome, final) := Transport.awaitAcknowledgement sequence next
    (.answered outcome, final)

/-- What an attempt comes to for the caller. -/
def Attempt.outcome : Attempt → Except Error Unit
  | unsent error => .error error
  | answered outcome => outcome

/-- Whether an attempt was refused because its type is not supported. -/
def Attempt.isUnsupported : Attempt → Bool
  | answered (.error error) => error.isNotSupported
  | _ => false

/-- Sends the request, once more under the second type if need be, and gives the outcome of
the last attempt. -/
def submit (request : ChangeRequest) (state : σ) : Except Error Unit × σ :=
  let (first, next) := attempt request.draft state
  match request.fallback? with
  | none => (first.outcome, next)
  | some fallback =>
    if first.isUnsupported then
      let (second, final) := attempt (request.draft.setType fallback) next
      (second.outcome, final)
    else (first.outcome, next)

/-- Sends the request and names the operation in a refusal. -/
def submitDuring (operation : String) (request : ChangeRequest) (state : σ) :
    Except Error Unit × σ :=
  let (outcome, next) := request.submit state
  (outcome.mapError (Error.during operation), next)

end ChangeRequest

end BridgeView
