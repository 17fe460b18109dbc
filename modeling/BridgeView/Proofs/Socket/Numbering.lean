import BridgeView.Proofs.Replies
import BridgeView.Proofs.Socket
import Mathlib.Data.List.Forall2
import Mathlib.Data.List.Nodup

/-!
# The numbers of requests

A socket numbers its requests in turn. The numbers start at one and go round the words other than
zero (`sequenceAfter_numberAt`). They depend on nothing but how many requests were numbered before:
neither on what else the socket is asked for in between nor on whether the system can send a message
(`forall₂_carries_accepted`). A number comes up again only after a whole round, so the requests of a
round are told apart by their numbers.

The messages of events carry no number. Whoever waits for the answer to a request does not see them
(`ignoresEvents_of_ne_zero`).
-/

namespace BridgeView

open Transport

theorem Draft.take?_numbered (draft : Draft) (sequence port : UInt32) :
    MessageHeader.take? (draft.numbered sequence port) =
      some ({ draft.header with length := UInt32.ofNat draft.size, sequence, port }, draft.body) :=
  MessageHeader.take?_toOctets_append _ _

namespace Transport

/-- A draft without a number is sent under the next one. -/
theorem sendNumbered_of_unnumbered {σ : Type} [Transport σ] {draft : Draft}
    (unnumbered : draft.header.sequence = 0) (state : σ) :
    sendNumbered draft state =
      let (sequence, next) := nextSequence state
      let sending := send (draft.numbered sequence (port next)) next
      (sending.1.map fun _ => sequence, sending.2) := by
  simp only [sendNumbered, unnumbered, if_true, Draft.numbered]
  rcases send _ (nextSequence state).2 with ⟨error | _, next⟩
  · rfl
  · rfl

variable {number : UInt32} {β : Type}

/-! ## Events among replies -/

/-- Whether an item of a stream carries a number, or is a failure. -/
def isNumbered : Except Error Message → Bool
  | .error _ => true
  | .ok message => message.header.sequence != 0

/-- Messages of number zero do not concern any other number. -/
theorem concerning_numbered (notZero : number ≠ 0) (items : List (Except Error Message)) :
    (items.filter isNumbered).filter (concerns number) = items.filter (concerns number) := by
  rw [List.filter_filter]
  congr 1
  funext item
  cases item with
  | error error => rfl
  | ok message =>
      by_cases own : message.header.sequence = number
      · simp [concerns, isNumbered, own, notZero]
      · simp [concerns, own]

/-- The outcome of a numbered request does not depend on messages of number zero. -/
theorem acknowledgement?_numbered (notZero : number ≠ 0) (items : List (Except Error Message)) :
    acknowledgement? number (items.filter isNumbered) = acknowledgement? number items := by
  rw [← acknowledgement?_concerning, concerning_numbered notZero, acknowledgement?_concerning]

/-- A numbered dump does not depend on messages of number zero. -/
theorem dumpMessages_numbered (notZero : number ≠ 0) (handle : Handler β) (interrupted : Bool)
    (value : β) (items : List (Except Error Message)) :
    dumpMessages number handle interrupted value (items.filter isNumbered) =
      dumpMessages number handle interrupted value items := by
  rw [← dumpMessages_concerning, concerning_numbered notZero, dumpMessages_concerning]

end Transport

namespace Socket

/-- What is awaited under a number on a socket is found among the messages that carry numbers. -/
structure IgnoresEvents (number : UInt32) : Prop where
  acknowledgement : ∀ socket : Socket,
    acknowledgement? number ((stream socket).filter isNumbered) =
      some (awaitAcknowledgement number socket).1
  dump : ∀ {β : Type} (handle : Handler β) (value : β) (socket : Socket),
    let progress := dumpMessages number handle false value ((stream socket).filter isNumbered)
    progress.outcome? = some (receiveDump number handle value socket).1 ∧
      progress.value = (receiveDump number handle value socket).2.1

/-- No number but zero is disturbed by events. -/
theorem ignoresEvents_of_ne_zero {number : UInt32} (notZero : number ≠ 0) :
    IgnoresEvents number where
  acknowledgement socket := by
    rw [acknowledgement?_numbered notZero, awaitAcknowledgement_eq_stream]
  dump handle value socket := by
    rw [dumpMessages_numbered notZero]
    exact collectDump_eq_stream number handle false value socket

/-! ## The round of numbers -/

/-- How many numbers a round has: every word but zero. -/
def roundLength : Nat := UInt32.size - 1

/-- The number of the request that comes after so many others. -/
def numberAt (position : Nat) : UInt32 :=
  UInt32.ofNat (position % roundLength + 1)

theorem toNat_numberAt (position : Nat) :
    (numberAt position).toNat = position % roundLength + 1 := by
  have inRound : position % roundLength < roundLength := Nat.mod_lt _ (by decide)
  rw [numberAt, UInt32.toNat_ofNat_of_lt']
  simp only [roundLength, UInt32.size] at inRound ⊢
  omega

theorem numberAt_ne_zero (position : Nat) : numberAt position ≠ 0 := by
  intro isZero
  have same := congrArg UInt32.toNat isZero
  rw [toNat_numberAt] at same
  exact Nat.succ_ne_zero _ same

/-- The number after one in turn is the next one in turn. -/
theorem sequenceAfter_numberAt (position : Nat) :
    sequenceAfter (numberAt position) = numberAt (position + 1) := by
  have inRound : position % roundLength < roundLength := Nat.mod_lt _ (by decide)
  have current := toNat_numberAt position
  have next := toNat_numberAt (position + 1)
  have successor := UInt32.toNat_add (numberAt position) 1
  apply UInt32.toNat_inj.mp
  rw [sequenceAfter]
  by_cases atEnd : numberAt position + 1 = 0
  · -- The last number of a round is the greatest word.
    rw [if_pos atEnd]
    rw [atEnd] at successor
    simp only [roundLength, UInt32.size, UInt32.toNat_zero, UInt32.toNat_one] at *
    omega
  · rw [if_neg atEnd]
    have notZero : (numberAt position + 1).toNat ≠ 0 := fun isZero =>
      atEnd (UInt32.toNat_inj.mp isZero)
    simp only [roundLength, UInt32.size, UInt32.toNat_one] at *
    omega

example : sequenceAfter 0xffffffff = 1 := by decide

/-- In a round no number occurs twice. -/
theorem nodup_round (start : Nat) : ((List.range' start roundLength).map numberAt).Nodup := by
  refine List.Nodup.map_on ?_ List.nodup_range'
  intro first isFirst second isSecond same
  have sameRest := congrArg UInt32.toNat same
  rw [toNat_numberAt, toNat_numberAt] at sameRest
  rw [List.mem_range'_1] at isFirst isSecond
  simp only [roundLength, UInt32.size] at *
  omega

/-- However many numbers are drawn, those of a round differ. -/
theorem nodup_window (start count : Nat) :
    ((((List.range count).map numberAt).drop start).take roundLength).Nodup := by
  have short : min (start + roundLength) count - start ≤ roundLength := by omega
  rw [← List.map_drop, ← List.map_take, List.take_drop, List.take_range, List.range_eq_range',
    List.drop_range', Nat.zero_add, Nat.mul_one]
  exact (nodup_round start).sublist ((List.range'_sublist_right.mpr short).map numberAt)

/-! ## Calls -/

/-- What a socket can be asked for. -/
inductive Call where
  /-- Numbers a draft and sends it. -/
  | request (draft : Draft)
  /-- Sends octets as they are. -/
  | send (message : Octets)
  | receive
  | tryReceive
  | join (group : UInt32)
  | leave (group : UInt32)
  /-- Sets the size of the buffer that takes a datagram. -/
  | setBuffer (size : Nat)
  | setSystemBuffer (size : Nat)

/-- The socket after a call. -/
def Call.run (socket : Socket) : Call → Socket
  | request draft => (sendNumbered draft socket).2
  | send message => (socket.send message).2
  | receive => socket.receive.2
  | tryReceive => socket.tryReceive.2
  | join group => (socket.join group).2
  | leave group => (socket.leave group).2
  | setBuffer size => { socket with bufferSize := size }
  | setSystemBuffer size =>
      match socket.setSystemBuffer size with
      | .ok next => next
      | .error _ => socket

/-- A request that a socket was asked for. -/
structure Request where
  draft : Draft
  /-- The messages that the socket was to send for it, whether or not it could. -/
  given : List Octets
  outcome : Except Error UInt32

namespace Request

/-- The request that a draft becomes on a socket. -/
def ofDraft (draft : Draft) (socket : Socket) : Request where
  draft := draft
  given := (sendNumbered draft ({ link := socket } : Overheard Socket)).2.sent
  outcome := (sendNumbered draft socket).1

/-- Whether the draft carries no number, as it should. -/
def isUnnumbered (request : Request) : Bool :=
  request.draft.header.sequence == 0

/-- The message of a request is its draft under the number and the port, and the request comes to
the number or to the failure of sending the message. -/
structure Carries (port : UInt32) (request : Request) (number : UInt32) : Prop where
  given : ∃ message, request.given = [message] ∧
    MessageHeader.take? message = some
      ({ request.draft.header with
          length := UInt32.ofNat request.draft.size, sequence := number, port },
        request.draft.body)
  outcome : request.outcome = .ok number ∨
    ∃ failure, request.outcome = .error (.io (.system failure))

end Request

/-- The draft that a call is to send. -/
def Call.draft? : Call → Option Draft
  | request draft => some draft
  | _ => none

/-- The request that a call makes, if it makes one. -/
def Call.request? (call : Call) (socket : Socket) : Option Request :=
  call.draft?.map (Request.ofDraft · socket)

/-- The requests among some calls, in their order. -/
def requests (socket : Socket) : List Call → List Request
  | [] => []
  | call :: calls => (call.request? socket).toList ++ requests (call.run socket) calls

/-- The requests are those of the drafts, in order. -/
theorem map_draft_requests (socket : Socket) (calls : List Call) :
    (socket.requests calls).map Request.draft = calls.filterMap Call.draft? := by
  induction calls generalizing socket with
  | nil => rfl
  | cons call calls ih =>
      rw [requests, Call.request?, List.map_append, ih, List.filterMap_cons]
      cases call.draft? with
      | none => rfl
      | some draft => rfl

theorem exists_ofDraft_of_mem {socket : Socket} {calls : List Call} {request : Request}
    (isRequest : request ∈ socket.requests calls) :
    ∃ draft state, request = .ofDraft draft state := by
  induction calls generalizing socket with
  | nil => cases isRequest
  | cons call calls ih =>
      rcases List.mem_append.mp isRequest with isFirst | isLater
      · rcases Option.map_eq_some_iff.mp (Option.mem_toList.mp isFirst) with ⟨draft, _, rfl⟩
        exact ⟨draft, socket, rfl⟩
      · exact ih isLater

theorem send_cases (message : Octets) (socket : Socket) :
    (socket.send message).1 = .ok () ∨
      ∃ failure, (socket.send message).1 = .error (.io (.system failure)) := by
  unfold send
  dsimp only
  split
  · exact Or.inr ⟨_, rfl⟩
  · exact Or.inl rfl

/-- Two states of a socket are at the same number, under the same port. -/
structure SameTurn (before after : Socket) : Prop where
  sequence_eq : after.sequence = before.sequence
  port_eq : after.port = before.port

theorem sameTurn_send (message : Octets) (socket : Socket) :
    SameTurn socket (socket.send message).2 := by
  unfold send
  dsimp only
  split
  · exact ⟨rfl, rfl⟩
  · exact ⟨rfl, rfl⟩

theorem sameTurn_call (waits : Bool) (socket : Socket) :
    SameTurn socket (socket.call waits).2 := by
  rcases exists_call_eq waits socket with ⟨queue, drained, isNext⟩
  rw [isNext]
  exact ⟨rfl, rfl⟩

theorem sameTurn_receive (socket : Socket) : SameTurn socket socket.receive.2 := by
  rcases exists_receive_eq socket with ⟨queue, drained, isNext⟩
  change SameTurn socket (Transport.receive socket).2
  rw [isNext]
  exact ⟨rfl, rfl⟩

theorem sameTurn_tryReceive (socket : Socket) : SameTurn socket socket.tryReceive.2 := by
  have called := sameTurn_call false socket
  unfold tryReceive
  split
  · rename_i received
    rw [received] at called
    exact called
  · rename_i received
    rw [received] at called
    split
    · exact called
    · exact called

theorem sameTurn_join (group : UInt32) (socket : Socket) :
    SameTurn socket (socket.join group).2 := by
  unfold join
  split
  · exact ⟨rfl, rfl⟩
  · exact ⟨rfl, rfl⟩

theorem sameTurn_setSystemBuffer (size : Nat) (socket : Socket) :
    SameTurn socket ((Call.setSystemBuffer size).run socket) := by
  simp only [Call.run, setSystemBuffer]
  split
  · rename_i isSet
    split at isSet
    · cases isSet
      exact ⟨rfl, rfl⟩
    · cases isSet
  · exact ⟨rfl, rfl⟩

/-- A call that is no request takes no number. -/
theorem sameTurn_run {socket : Socket} {call : Call} (noRequest : call.draft? = none) :
    SameTurn socket (call.run socket) := by
  cases call with
  | request draft => cases noRequest
  | send message => exact sameTurn_send message socket
  | receive => exact sameTurn_receive socket
  | tryReceive => exact sameTurn_tryReceive socket
  | join group => exact sameTurn_join group socket
  | leave group => exact ⟨rfl, rfl⟩
  | setBuffer size => exact ⟨rfl, rfl⟩
  | setSystemBuffer size => exact sameTurn_setSystemBuffer size socket

/-- What a socket makes of a draft without a number. -/
theorem sendNumbered_eq_send {draft : Draft} (unnumbered : draft.header.sequence = 0)
    (socket : Socket) :
    sendNumbered draft socket =
      let sending := socket.nextSequence.2.send (draft.numbered socket.sequence socket.port)
      (sending.1.map fun _ => socket.sequence, sending.2) :=
  sendNumbered_of_unnumbered unnumbered socket

/-- A draft without a number is given the next one in turn. -/
theorem carries_ofDraft {draft : Draft} (unnumbered : draft.header.sequence = 0)
    (socket : Socket) : (Request.ofDraft draft socket).Carries socket.port socket.sequence where
  given := by
    refine ⟨draft.numbered socket.sequence socket.port, ?_, draft.take?_numbered _ _⟩
    rw [Request.ofDraft, sendNumbered_of_unnumbered unnumbered]
    rfl
  outcome := by
    have outcome_eq : (Request.ofDraft draft socket).outcome =
        (socket.nextSequence.2.send (draft.numbered socket.sequence socket.port)).1.map
          fun _ => socket.sequence :=
      congrArg Prod.fst (sendNumbered_eq_send unnumbered socket)
    rcases send_cases (draft.numbered socket.sequence socket.port) socket.nextSequence.2 with
      isOk | ⟨failure, failed⟩
    · left
      rw [outcome_eq, isOk]
      rfl
    · right
      refine ⟨failure, ?_⟩
      rw [outcome_eq, failed]
      rfl

theorem ofDraft_of_numbered {draft : Draft} (numbered : draft.header.sequence ≠ 0)
    (socket : Socket) : (Request.ofDraft draft socket).outcome =
      .error (.alreadyNumbered draft.header.sequence) := by
  simp only [Request.ofDraft, sendNumbered, numbered, if_false]

/-- All that a call can come to: a request takes the next number, and nothing else takes one. -/
inductive Call.Takes (socket : Socket) : List Request → Socket → Prop
  | number {request : Request} {after : Socket}
      (carries : request.Carries socket.port socket.sequence)
      (sequence_eq : after.sequence = sequenceAfter socket.sequence)
      (port_eq : after.port = socket.port) : Takes socket [request] after
  | nothing {after : Socket} (same : SameTurn socket after) : Takes socket [] after

/-- The requests among some calls that a socket numbers. -/
def accepted (socket : Socket) (calls : List Call) : List Request :=
  (socket.requests calls).filter Request.isUnnumbered

theorem accepted_cons (socket : Socket) (call : Call) (calls : List Call) :
    socket.accepted (call :: calls) =
      (call.request? socket).toList.filter Request.isUnnumbered ++
        (call.run socket).accepted calls :=
  List.filter_append _ _

theorem takes_request (socket : Socket) (draft : Draft) :
    Call.Takes socket ([Request.ofDraft draft socket].filter Request.isUnnumbered)
      ((Call.request draft).run socket) := by
  by_cases unnumbered : draft.header.sequence = 0
  · have isAccepted : (Request.ofDraft draft socket).isUnnumbered = true := by
      simpa [Request.isUnnumbered, Request.ofDraft] using unnumbered
    have sending := sameTurn_send (draft.numbered socket.sequence socket.port)
      socket.nextSequence.2
    rw [List.filter_cons_of_pos isAccepted, Call.run, sendNumbered_eq_send unnumbered]
    exact .number (carries_ofDraft unnumbered socket) sending.sequence_eq sending.port_eq
  · have isRefused : ¬(Request.ofDraft draft socket).isUnnumbered = true := by
      simpa [Request.isUnnumbered, Request.ofDraft] using unnumbered
    have unchanged : (Call.request draft).run socket = socket := by
      simp only [Call.run, sendNumbered, unnumbered, if_false]
    rw [List.filter_cons_of_neg isRefused, unchanged]
    exact .nothing ⟨rfl, rfl⟩

/-- Every call takes its turn. -/
theorem takes (socket : Socket) (call : Call) :
    Call.Takes socket ((call.request? socket).toList.filter Request.isUnnumbered)
      (call.run socket) := by
  cases call with
  | request draft => exact takes_request socket draft
  | _ => exact .nothing (sameTurn_run rfl)

/-- The accepted requests carry the numbers in turn. -/
theorem forall₂_carries_accepted {socket : Socket} {position : Nat}
    (turn : socket.sequence = numberAt position) (calls : List Call) :
    List.Forall₂ (Request.Carries socket.port) (socket.accepted calls)
      ((List.range' position (socket.accepted calls).length).map numberAt) := by
  -- The socket is at its turn: its next number is the one after so many requests.
  induction calls generalizing socket position with
  | nil => exact .nil
  | cons call calls ih =>
      rw [accepted_cons]
      have takes := takes socket call
      generalize (call.request? socket).toList.filter Request.isUnnumbered = first at takes ⊢
      generalize call.run socket = after at takes ⊢
      cases takes with
      | number carries sequence_eq port_eq =>
          have nextTurn : after.sequence = numberAt (position + 1) := by
            rw [sequence_eq, turn, sequenceAfter_numberAt]
          rw [turn] at carries
          exact .cons carries (port_eq ▸ ih nextTurn)
      | nothing same =>
          rw [← same.port_eq]
          exact ih (same.sequence_eq.trans turn)

/-- A request is refused for its number if and only if it has one. -/
theorem refused_iff {socket : Socket} {calls : List Call} {request : Request} {number : UInt32}
    (isRequest : request ∈ socket.requests calls) :
    request.outcome = .error (.alreadyNumbered number) ↔
      number = request.draft.header.sequence ∧ number ≠ 0 := by
  rcases exists_ofDraft_of_mem isRequest with ⟨draft, state, rfl⟩
  change _ ↔ number = draft.header.sequence ∧ number ≠ 0
  by_cases unnumbered : draft.header.sequence = 0
  · rcases (carries_ofDraft unnumbered state).outcome with isOk | ⟨failure, failed⟩
    · simp [isOk, unnumbered]
    · simp [failed, unnumbered]
  · rw [ofDraft_of_numbered unnumbered]
    simp only [Except.error.injEq, Error.alreadyNumbered.injEq]
    constructor
    · rintro rfl
      exact ⟨rfl, unnumbered⟩
    · exact fun same => same.1.symm

/-- How a socket numbers the requests among some calls. -/
structure NumbersInTurn (port : UInt32) (calls : List Call) (requests : List Request)
    (numbers : List UInt32) : Prop where
  drafts_eq : requests.map Request.draft = calls.filterMap Call.draft?
  refused_iff : ∀ request ∈ requests, ∀ number,
    request.outcome = .error (.alreadyNumbered number) ↔
      number = request.draft.header.sequence ∧ number ≠ 0
  carried : List.Forall₂ (Request.Carries port) (requests.filter Request.isUnnumbered) numbers
  toNat_eq : ∀ (position : Nat) (inside : position < numbers.length),
    numbers[position].toNat = position % (UInt32.size - 1) + 1
  ne_zero : ∀ number ∈ numbers, number ≠ 0
  distinct : ∀ start, ((numbers.drop start).take (UInt32.size - 1)).Nodup
  ignoresEvents : ∀ number ∈ numbers, IgnoresEvents number

/-- Whatever a socket is used for since it was opened, it numbers its requests in turn: from one on,
never with zero, and no number twice within a round. A draft that carries no number is never
refused for it, however often it was sent before. -/
theorem numbersInTurn_requests {port : UInt32} {script : SocketScript} {socket : Socket}
    (opened : ofScript port script = .ok socket) (calls : List Call) :
    ∃ numbers, NumbersInTurn port calls (socket.requests calls) numbers := by
  have atStart : socket.sequence = numberAt 0 ∧ socket.port = port := by
    unfold ofScript at opened
    split at opened
    · cases opened
    · cases opened
      exact ⟨rfl, rfl⟩
  rcases atStart with ⟨turn, rfl⟩
  refine ⟨(List.range (socket.accepted calls).length).map numberAt, ?_⟩
  have notZero : ∀ number ∈ (List.range (socket.accepted calls).length).map numberAt,
      number ≠ 0 := by
    intro number isNumber
    rcases List.mem_map.mp isNumber with ⟨position, _, rfl⟩
    exact numberAt_ne_zero position
  constructor
  · exact map_draft_requests socket calls
  · exact fun _ isRequest _ => refused_iff isRequest
  · rw [List.range_eq_range']
    exact forall₂_carries_accepted turn calls
  · intro position inside
    rw [List.getElem_map, List.getElem_range, toNat_numberAt, roundLength]
  · exact notZero
  · exact fun start => nodup_window start _
  · exact fun number isNumber => ignoresEvents_of_ne_zero (notZero number isNumber)

/-- The second message cannot be sent, and the answer to the third one comes behind an event that
looks like a refusal. -/
def busyScript : SocketScript :=
  let reply (sequence : UInt32) (code : Octets) : Octets :=
    (((Draft.ofType MessageType.error 0).setSequence sequence).append
      (code ++ List.replicate messageHeaderSize 0)).finish
  { failingSends := [(1, .wouldBlock)]
    replies := [[], [], [.datagram (reply 0 [255, 255, 255, 255] ++ reply 3 [0, 0, 0, 0])]] }

/-- A socket whose second message fails and whose others are answered. -/
def busySocket : Socket where
  port := 9
  queue := []
  replies := busyScript.replies
  failingSends := busyScript.failingSends
  failingJoins := []

/-- A request that is made again and again. -/
def groupRequest : Draft :=
  .ofType MessageType.getGroups MessageFlags.request

/-- The same draft three times, with a numbered one between and other calls among them. -/
def repeatedCalls : List Call :=
  [.request groupRequest, .join 26, .request groupRequest, .tryReceive,
    .request (groupRequest.setSequence 7), .request groupRequest]

/-- A draft is sent as the first and as the third request, and its answer is found behind the event.
The same draft under a number of its own is refused. -/
theorem numbersInTurn_requests_repeated :
    ofScript 9 busyScript = .ok busySocket ∧
      (∃ numbers, NumbersInTurn 9 repeatedCalls (busySocket.requests repeatedCalls) numbers) ∧
      (busySocket.requests repeatedCalls).map Request.outcome =
        [.ok 1, .error (.io (.system .wouldBlock)), .error (.alreadyNumbered 7), .ok 3] ∧
      (awaitAcknowledgement 3 (repeatedCalls.foldl Call.run busySocket)).1 = .ok () := by
  have opened : ofScript 9 busyScript = .ok busySocket := rfl
  exact ⟨opened, numbersInTurn_requests opened repeatedCalls, by decide +kernel,
    by decide +kernel⟩

end Socket

end BridgeView
