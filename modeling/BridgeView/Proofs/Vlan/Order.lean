import BridgeView.Command
import BridgeView.Proofs.Socket
import BridgeView.Proofs.Vlan.Range

/-!
# From the command line to the VLAN request

An order to change the VLANs of a port is followed from its arguments to the octets that are sent.
What it names is said in terms of the texts (`VlanOrder.Names`), and what is sent in terms of what
is read from the octets (`RequestFor`). An order that names no usable VLANs opens no socket; any
other one sends the request for exactly the VLANs it names, once or twice, unless something prevents
the first sending, be it that memory is missing (`Conduct`). So it is for the arguments of a command
and for those behind the options of a whole line (`conduct_run`).
-/

namespace BridgeView

open Text

/-- An order to change the VLANs of a port. -/
inductive VlanOrder
  | add (vlans device : String) (portVlan untagged : Bool)
  | delete (vlans device : String)
  /-- Makes a VLAN that of the port. -/
  | set (vlan device : String)

namespace VlanOrder

/-- The word for the device of an order. -/
def device : VlanOrder → String
  | add _ device _ _ => device
  | delete _ device => device
  | set _ device => device

/-- The flags that the VLANs are ordered with. -/
def flags : VlanOrder → UInt16
  | add _ _ portVlan untagged =>
      (if portVlan then VlanFlags.portVlan else 0) ||| (if untagged then VlanFlags.untagged else 0)
  | delete _ _ => 0
  | set _ _ => VlanFlags.portVlan

/-- The order names the VLANs from the first to the last one. A VLAN to be set is a plain number. -/
def Names (order : VlanOrder) (first last : UInt16) : Prop :=
  match order with
  | add vlans _ _ _ => VlanRange.Names vlans.toList first.toNat last.toNat
  | delete vlans _ => VlanRange.Names vlans.toList first.toNat last.toNat
  | set vlan _ => IsDecimal vlan.toList first.toNat ∧ last = first

/-- What is to change if the order is for the VLANs from the first to the last one. -/
def changes (order : VlanOrder) (first last : UInt16) : PortVlans :=
  { entries := [.spanning order.flags first last] }

/-- The change of an interface that an order for the VLANs from the first to the last one makes. -/
def change (order : VlanOrder) (interface : UInt32) (first last : UInt16) : BridgeChange :=
  let port : PortVlans := { interface? := some interface }
  match order with
  | add _ _ _ _ => .addVlans port (order.changes first last) 0
  | delete _ _ => .deleteVlans port (order.changes first last)
  | set _ _ => .addVlans port (order.changes first last) 0

/-- The arguments give an order. -/
inductive Reads : List String → VlanOrder → Prop
  | add {word : String} {arguments : List String} {read : Arguments} {vlans device : String}
      (isWord : word = "add")
      (isRead : Arguments.readWordless
        { options := ["vid", "dev"], flags := ["pvid", "untagged"] } arguments = some read)
      (isVlans : read.value? "vid" = some vlans) (isDevice : read.value? "dev" = some device) :
      Reads (word :: arguments) (.add vlans device (read.has "pvid") (read.has "untagged"))
  | delete {word : String} {arguments : List String} {read : Arguments} {vlans device : String}
      (isWord : word = "del" ∨ word = "delete")
      (isRead : Arguments.readWordless { options := ["vid", "dev"] } arguments = some read)
      (isVlans : read.value? "vid" = some vlans) (isDevice : read.value? "dev" = some device) :
      Reads (word :: arguments) (.delete vlans device)
  | set {word : String} {arguments : List String} {read : Arguments} {vlan device : String}
      (isWord : word = "set")
      (isRead : Arguments.readWordless { options := ["pvid", "dev"] } arguments = some read)
      (isVlan : read.value? "pvid" = some vlan) (isDevice : read.value? "dev" = some device) :
      Reads (word :: arguments) (.set vlan device)

end VlanOrder

/-- The octets are one message that asks for the VLANs from the first to the last one on an
interface, with the flags, and for nothing else. -/
structure RequestFor (interface : UInt32) (flags first last : UInt16) (octets : Octets) extends
    PortVlans.AskedFor { interface? := some interface } [.spanning flags first last] octets where
  records : VlanEntry.Records flags first last infos.flatten

/-- Something prevents that a request for VLANs of a device is sent. -/
inductive Environment.Prevents [Memory] (environment : Environment) (device : String) : Error → Prop
  | socket {error : Error} (closed : environment.sockets.openNext.1 = .error error) :
      Prevents environment device error
  | device {error : Error} (unknown : environment.interfaces.resolve device = .error error) :
      Prevents environment device error
  | sending {socket : Socket} {number : ErrorNumber}
      (opened : environment.sockets.openNext.1 = .ok socket)
      (failing : socket.failingSends.lookup 0 = some number) :
      Prevents environment device (.io (.system number))
  | memory (missing : Memory.grants (PortVlans.requestCapacity 1) = false) :
      Prevents environment device .outOfMemory

/-- What the arguments of an order come to: they are not understood, or refused for the VLANs they
name, or something prevents the sending, or the request is sent for just these VLANs. -/
inductive Conduct [Memory] (environment : Environment) (arguments : List String) :
    Option Outcome → Prop
  | unread (noOrder : ∀ order, ¬VlanOrder.Reads arguments order) :
      Conduct environment arguments none
  | refused {order : VlanOrder} {outcome? : Option Outcome}
      (reads : VlanOrder.Reads arguments order)
      (unusable : ∀ first last, order.Names first last → ¬VlanRange.Usable first last)
      (isInvalid : ∀ outcome ∈ outcome?, ∃ fault, outcome = .failed (.invalidInput fault) []) :
      Conduct environment arguments outcome?
  | prevented {order : VlanOrder} {first last : UInt16} {error : Error} {sockets : List Socket}
      (reads : VlanOrder.Reads arguments order) (names : order.Names first last)
      (usable : VlanRange.Usable first last) (prevents : environment.Prevents order.device error)
      (unsent : ∀ socket ∈ sockets, socket.sent = []) :
      Conduct environment arguments (some (.failed error sockets))
  | sent {order : VlanOrder} {first last : UInt16} {interface : UInt32} {request : ChangeRequest}
      {socket used : Socket} {result : Except Error Unit}
      (reads : VlanOrder.Reads arguments order) (names : order.Names first last)
      (usable : VlanRange.Usable first last)
      (opened : environment.sockets.openNext.1 = .ok socket)
      (resolved : environment.interfaces.resolve order.device = .ok interface)
      (built : (order.change interface first last).request = .ok request)
      (sends : request.Sends socket used.sent)
      (asks : ∀ octets ∈ used.sent,
        Nonempty (RequestFor interface order.flags first last octets)) :
      Conduct environment arguments (some { result, sockets := [used] })

namespace VlanOrder

variable {order : VlanOrder} {first last : UInt16} {interface : UInt32} {request : ChangeRequest}

theorem flags_unmarked (order : VlanOrder) : order.flags &&& VlanFlags.rangeMarks = 0 := by
  cases order with
  | add vlans device portVlan untagged =>
      rw [flags]
      revert portVlan untagged
      decide
  | delete vlans device => exact UInt16.zero_and
  | set vlan device =>
      rw [flags]
      decide

/-- Where the memory is granted, an order makes a request for its VLANs. -/
theorem exists_request [Memory] (order : VlanOrder) (interface : UInt32) (first last : UInt16)
    (granted : Memory.grants (PortVlans.requestCapacity 1) = true) :
    ∃ request, (order.change interface first last).request = .ok request ∧
      request.draft.body = PortVlans.linkPayload { interface? := some interface }
        (order.changes first last) interface := by
  have wanted : (order.changes first last).requested ≠ [] := List.cons_ne_nil _ _
  have named : ({ interface? := some interface } : PortVlans).interface? = some interface := rfl
  have drafted (type : UInt16) := PortVlans.exists_linkDraft type 0 named wanted granted
  rcases drafted MessageType.newLink with ⟨added, isAdded⟩
  rcases drafted MessageType.deleteLink with ⟨deleted, isDeleted⟩
  have adds := PortVlans.changeRequest_eq_map { interface? := some interface }
    (order.changes first last) 0
  have deletes := PortVlans.deleteRequest_eq_map { interface? := some interface }
    (order.changes first last)
  rw [isAdded] at adds
  rw [isDeleted] at deletes
  cases order with
  | add vlans device portVlan untagged => exact ⟨_, adds, rfl⟩
  | delete vlans device => exact ⟨_, deletes, rfl⟩
  | set vlan device => exact ⟨_, adds, rfl⟩

/-- Where the memory is not granted, an order makes no request. -/
theorem request_of_no_memory [Memory] (order : VlanOrder) (interface : UInt32)
    (first last : UInt16) (missing : Memory.grants (PortVlans.requestCapacity 1) = false) :
    (order.change interface first last).request = .error .outOfMemory := by
  have wanted : (order.changes first last).requested ≠ [] := List.cons_ne_nil _ _
  have named : ({ interface? := some interface } : PortVlans).interface? = some interface := rfl
  have undrafted (type : UInt16) := PortVlans.linkDraft_of_no_memory type 0 named wanted missing
  have adds := PortVlans.changeRequest_eq_map { interface? := some interface }
    (order.changes first last) 0
  have deletes := PortVlans.deleteRequest_eq_map { interface? := some interface }
    (order.changes first last)
  rw [undrafted] at adds deletes
  cases order with
  | add vlans device portVlan untagged => exact adds
  | delete vlans device => exact deletes
  | set vlan device => exact adds

/-- A request for VLANs is read back as one. -/
theorem requestFor_finish (ordered : first ≤ last) (header : MessageHeader)
    {body : Octets} (isBody : body = PortVlans.linkPayload { interface? := some interface }
        (order.changes first last) interface) :
    Nonempty (RequestFor interface order.flags first last ({ header, body } : Draft).finish) := by
  subst isBody
  have few : (order.changes first last).infoCount ≤ PortVlans.infoLimit := by
    have ranges : [VlanEntry.spanning order.flags first last].countP VlanEntry.isRange ≤ 1 :=
      List.countP_le_length
    exact Nat.le_trans (Nat.add_le_add_left ranges 1) (by decide)
  have named : ({ interface? := some interface } : PortVlans).interface? = some interface := rfl
  rcases PortVlans.askedFor_finish named header few with ⟨asked⟩
  have records : VlanEntry.Records order.flags first last asked.infos.flatten := by
    have asks : List.Forall₂ VlanEntry.Asks [.spanning order.flags first last] asked.infos :=
      asked.asks
    generalize asked.infos = infos at asks
    rcases asks with _ | ⟨asksOne, ⟨⟩⟩
    rw [List.flatten_singleton]
    exact VlanEntry.records_of_asks ordered order.flags_unmarked asksOne
  exact ⟨{ asked with records }⟩

/-! ## Runs -/

variable {environment : Environment} {arguments : List String}

/-- An order that names usable VLANs, on an interface that is known and over a socket that is
open. -/
theorem conduct_change [Memory] (reads : Reads arguments order) (names : order.Names first last)
    (usable : VlanRange.Usable first last) {socket : Socket}
    (opened : environment.sockets.openNext.1 = .ok socket)
    (resolved : environment.interfaces.resolve order.device = .ok interface) :
    Conduct environment arguments
      (some { result := ((order.change interface first last).run socket).1
              sockets := [((order.change interface first last).run socket).2] }) := by
  rcases Socket.fresh_ofScript opened with ⟨nothingYet, nothingSent⟩
  have isRun := BridgeChange.run_eq (order.change interface first last) socket
  rcases granted : Memory.grants (PortVlans.requestCapacity 1) with _ | _
  · rw [order.request_of_no_memory interface first last granted] at isRun
    rw [isRun]
    refine Conduct.prevented reads names usable (.memory granted) ?_
    intro used isUsed
    rw [List.mem_singleton] at isUsed
    rw [isUsed]
    exact nothingSent
  rcases order.exists_request interface first last granted with ⟨request, built, isBody⟩
  have unnumbered := BridgeChange.sequence_of_request built
  rw [built] at isRun
  rw [isRun]
  rcases sendable : socket.failingSends.lookup socket.sends with _ | number
  · rcases ChangeRequest.exists_sends unnumbered sendable with ⟨messages, sends, sent⟩
    rw [nothingSent, List.nil_append] at sent
    rw [← sent] at sends
    refine Conduct.sent reads names usable opened resolved built sends ?_
    intro octets isSent
    rcases sends.exists_header isSent with ⟨header, rfl⟩
    exact requestFor_finish usable.ordered header isBody
  · rcases ChangeRequest.submit_of_failing unnumbered sendable with ⟨isError, unsent⟩
    have failed : (request.submitDuring (order.change interface first last).operation socket).1 =
        .error (.io (.system number)) :=
      congrArg (Except.mapError (Error.during _)) isError
    dsimp only
    rw [failed]
    rw [nothingYet] at sendable
    refine Conduct.prevented reads names usable (.sending opened sendable) ?_
    intro used isUsed
    rw [List.mem_singleton] at isUsed
    rw [isUsed, ← nothingSent]
    exact unsent

/-- A handler that looks up its device and then changes it conducts its order. -/
theorem conduct_withPort [Memory] (reads : Reads arguments order) {vlans : String}
    (names_iff : ∀ first last, VlanRange.Usable first last →
      (VlanRange.Names vlans.toList first.toNat last.toNat ↔ order.Names first last))
    (use : PortVlans → PortVlans → Socket → Except Error Unit × Socket)
    (isChange : ∀ interface first last,
      use { interface? := some interface } (order.changes first last) =
        (order.change interface first last).run) :
    Conduct environment arguments
      (some (VlanCommand.withPort environment vlans order.device order.flags use)) := by
  have yields := VlanRange.yields_ofCharacters vlans.toList
  rw [← VlanRange.ofText] at yields
  rcases isRange : VlanRange.ofText vlans with error | range
  · rw [isRange] at yields
    rcases yields with _ | ⟨fault, rfl⟩
    refine Conduct.refused reads ?_ ?_
    · intro first last names usable
      have named := (names_iff first last usable).mpr names
      rcases VlanRange.exists_ofCharacters_eq_ok named usable with ⟨range, accepted⟩
      rw [VlanRange.ofText, accepted] at isRange
      cases isRange
    · rintro _ ⟨⟩
      refine ⟨fault, ?_⟩
      rw [VlanCommand.withPort, isRange]
  · rw [isRange] at yields
    rcases yields with ⟨named, usable⟩
    have names := (names_iff _ _ usable).mp named
    have isChanges : range.changes order.flags = order.changes range.first range.last :=
      range.changes_eq order.flags
    rw [VlanCommand.withPort, isRange]
    dsimp only
    rw [isChanges, Environment.exchange]
    rcases opened : environment.sockets.openNext.1 with error | socket
    · exact Conduct.prevented reads names usable (.socket opened) (by simp)
    · rcases resolved : environment.interfaces.resolve order.device with error | interface
      · simp only [VlanCommand.port, resolved, bind, Except.bind]
        refine Conduct.prevented reads names usable (.device resolved) ?_
        intro used isUsed
        rw [List.mem_singleton] at isUsed
        rw [isUsed]
        exact (Socket.fresh_ofScript opened).2
      · simp only [VlanCommand.port, resolved, bind, Except.bind, pure, Except.pure]
        rw [isChange]
        exact conduct_change reads names usable opened resolved

/-- A number in its plain form names itself alone. -/
theorem names_toString_iff (number first last : UInt16) :
    VlanRange.Names (toString number).toList first.toNat last.toNat ↔
      first = number ∧ last = first := by
  have written : (toString number).toList = Nat.toDigits 10 number.toNat :=
    Nat.toList_repr
  rw [written]
  have isDecimal := isDecimal_toDigits number.toNat
  rw [VlanRange.names_iff_of_no_dash isDecimal.denotes.no_dash, UInt16.toNat_inj]
  have denotes_iff : Denotes (Nat.toDigits 10 number.toNat) first.toNat ↔ first = number := by
    rw [← UInt16.toNat_inj]
    constructor
    · intro denotes
      exact denotes.number_unique isDecimal.denotes
    · intro same
      rw [same]
      exact isDecimal.denotes
  rw [denotes_iff]

/-- The command that an order becomes; what is not a number up to sixteen bits cannot be set. -/
def command? : VlanOrder → Option Command
  | add vlans device portVlan untagged => some (.addVlans vlans device portVlan untagged)
  | delete vlans device => some (.deleteVlans vlans device)
  | set vlan device =>
      (signedDecimal? 65535 vlan).map fun number => .setPortVlan (UInt16.ofNat number) device

/-- Arguments that read as an order are read as its command. -/
theorem Reads.read_eq {word : String} (reads : Reads (word :: arguments) order) :
    Command.read ("vlan" :: word :: arguments) = order.command? := by
  cases reads with
  | add isWord isRead isVlans isDevice =>
      subst isWord
      simp [Command.read, Command.readVlan, Command.addVlansForm, command?, isRead, isVlans,
        isDevice]
  | delete isWord isRead isVlans isDevice =>
      rcases isWord with rfl | rfl
      · simp [Command.read, Command.readVlan, Command.deleteVlansForm, command?, isRead, isVlans,
          isDevice]
      · simp [Command.read, Command.readVlan, Command.deleteVlansForm, command?, isRead, isVlans,
          isDevice]
  | @set _ _ _ vlan _ isWord isRead isVlan isDevice =>
      subst isWord
      rcases isNumber : signedDecimal? 65535 vlan with _ | number
      · simp [Command.read, Command.readVlan, Command.setPortVlanForm, command?, isRead, isVlan,
          Arguments.number?, isNumber]
      · simp [Command.read, Command.readVlan, Command.setPortVlanForm, command?, isRead, isVlan,
          isDevice, Arguments.number?, isNumber]

/-- Whatever is read from the arguments is an order. -/
theorem exists_reads {word : String} (isOrder : word ∈ ["add", "del", "delete", "set"])
    {command : Command} (isRead : Command.read ("vlan" :: word :: arguments) = some command) :
    ∃ order, Reads (word :: arguments) order := by
  simp only [List.mem_cons, List.not_mem_nil, or_false] at isOrder
  rcases isOrder with rfl | rfl | rfl | rfl
  all_goals simp only [Command.read, Command.readVlan, Option.bind_eq_bind,
    Option.bind_eq_some_iff] at isRead
  · rcases isRead with ⟨read, isRead, vlans, isVlans, device, isDevice, _⟩
    exact ⟨_, Reads.add rfl isRead isVlans isDevice⟩
  · rcases isRead with ⟨read, isRead, vlans, isVlans, device, isDevice, _⟩
    exact ⟨_, Reads.delete (Or.inl rfl) isRead isVlans isDevice⟩
  · rcases isRead with ⟨read, isRead, vlans, isVlans, device, isDevice, _⟩
    exact ⟨_, Reads.delete (Or.inr rfl) isRead isVlans isDevice⟩
  · rcases isRead with ⟨read, isRead, number?, isNumber, number, ⟨⟩, device, isDevice, _⟩
    rcases isVlan : read.value? "pvid" with _ | vlan
    · rw [Arguments.number?, isVlan] at isNumber
      cases isNumber
    · exact ⟨_, Reads.set rfl isRead isVlan isDevice⟩

/-- The texts from which a number is read are its numerals, if the number is a usable VLAN. -/
theorem names_set_iff {vlan device : String} (usable : VlanRange.Usable first last) :
    (set vlan device).Names first last ↔
      signedDecimal? 65535 vlan = some first.toNat ∧ last = first := by
  have positive : 0 < first.toNat := UInt16.le_iff_toNat_le.mp usable.positive
  have small : first.toNat ≤ 65535 := Nat.le_of_lt_succ first.toNat_lt
  rw [Names, signedDecimal?_eq_some_iff positive, and_iff_left small]

/-- The command of an order is conducted as the order says. -/
theorem conduct_command [Memory] (options : OutputOptions) (reads : Reads arguments order) :
    Conduct environment arguments (order.command?.map (·.run environment options)) := by
  cases order with
  | add vlans device portVlan untagged =>
      exact conduct_withPort reads (fun _ _ _ => Iff.rfl)
        (fun port changes => port.change changes 0) (fun _ _ _ => rfl)
  | delete vlans device =>
      exact conduct_withPort reads (fun _ _ _ => Iff.rfl)
        (fun port changes => port.delete changes) (fun _ _ _ => rfl)
  | set vlan device =>
      rw [command?]
      rcases isNumber : signedDecimal? 65535 vlan with _ | number
      · refine Conduct.refused reads ?_ (by simp)
        intro first last names usable
        rw [names_set_iff usable, isNumber] at names
        cases names.1
      · refine conduct_withPort reads ?_ (fun port changes => port.change changes 0)
          (fun _ _ _ => rfl)
        intro first last usable
        have small : number < UInt16.size := Nat.lt_succ_of_le (le_of_signedDecimal? isNumber)
        rw [names_toString_iff, names_set_iff usable, isNumber, Option.some.injEq,
          ← UInt16.toNat_inj, UInt16.toNat_ofNat_of_lt' small, eq_comm]

/-- The arguments behind the options are read and conducted as an order. -/
theorem conduct_read [Memory] (environment : Environment) (options : OutputOptions) {word : String}
    (isOrder : word ∈ ["add", "del", "delete", "set"]) (arguments : List String) :
    Conduct environment (word :: arguments)
      ((Command.read ("vlan" :: word :: arguments)).map (·.run environment options)) := by
  by_cases ordered : ∃ order, Reads (word :: arguments) order
  · rcases ordered with ⟨order, reads⟩
    rw [reads.read_eq]
    exact conduct_command options reads
  · have unread : Command.read ("vlan" :: word :: arguments) = none := by
      rw [Option.eq_none_iff_forall_ne_some]
      intro command isRead
      exact ordered (exists_reads isOrder isRead)
    rw [unread]
    exact Conduct.unread (not_exists.mp ordered)

/-- Whatever the arguments of an order are, it is refused if it names no usable VLANs, and otherwise
just these are asked for; and whatever output options stand between the arguments of a line, the
order is the same. -/
theorem conduct_run [Memory] (environment : Environment) {word : String}
    (isOrder : word ∈ ["add", "del", "delete", "set"]) (arguments : List String) :
    (∀ options, Conduct environment (word :: arguments)
      ((Command.read ("vlan" :: word :: arguments)).map (·.run environment options))) ∧
      ∀ line options, Command.splitLine line = some (options, "vlan" :: word :: arguments) →
        Conduct environment (word :: arguments)
          ((Command.readLine line).map fun (options, command) =>
            command.run environment options) := by
  refine ⟨fun options => conduct_read environment options isOrder arguments, ?_⟩
  intro line options isSplit
  have isRead : Command.readLine line =
      (Command.read ("vlan" :: word :: arguments)).map (options, ·) := by
    rw [Command.readLine, isSplit, Option.map_eq_bind]
    rfl
  rw [isRead, Option.map_map]
  exact conduct_read environment options isOrder arguments

/-- A kernel that takes VLANs under the second type only. -/
def olderKernel : Environment :=
  let reply (sequence : UInt32) (code : Octets) : Arrival :=
    .datagram (((Draft.ofType MessageType.error 0).setSequence sequence).append
      (code ++ List.replicate messageHeaderSize 0)).finish
  { interfaces := [(4, "eth0")]
    sockets :=
      { scripts := [{ replies := [[reply 1 [161, 255, 255, 255]], [reply 2 [0, 0, 0, 0]]] }] } }

/-- An order is sent twice to it, both times for the same usable VLANs, wherever the output options
stand. -/
theorem conduct_run_olderKernel :
    ∃ (order : VlanOrder) (first last : UInt16) (interface : UInt32) (used : Socket),
      order.Names first last ∧ VlanRange.Usable first last ∧ used.sent.length = 2 ∧
        ∀ octets ∈ used.sent, Nonempty (RequestFor interface order.flags first last octets) := by
  have isOrder : "add" ∈ ["add", "del", "delete", "set"] := by decide
  let line := ["-j", "vlan", "-d", "add", "--vid", " +100-0110", "-jn", "--dev=eth0", "--untagged"]
  have isSplit : Command.splitLine line =
      some ({ json := true, detailed := true, numeric := true },
        ["vlan", "add", "--vid", " +100-0110", "--dev=eth0", "--untagged"]) := by decide +kernel
  have conduct := (conduct_run olderKernel isOrder
    ["--vid", " +100-0110", "--dev=eth0", "--untagged"]).2 line _ isSplit
  have sentTwice : (((Command.readLine line).map fun (options, command) =>
      command.run olderKernel options).map fun outcome => outcome.sockets.map (·.sent.length)) =
      some [2] := by decide +kernel
  generalize (Command.readLine line).map _ = outcome? at conduct sentTwice
  cases conduct with
  | unread noOrder => cases sentTwice
  | refused reads unusable isInvalid =>
      rcases outcome? with _ | outcome
      · cases sentTwice
      · rcases isInvalid outcome rfl with ⟨fault, rfl⟩
        cases sentTwice
  | prevented reads names usable prevents unsent =>
      rw [Option.map_some, Option.some.injEq, Outcome.failed,
        List.map_eq_singleton_iff] at sentTwice
      rcases sentTwice with ⟨socket, rfl, two⟩
      rw [unsent socket (List.mem_singleton_self _)] at two
      cases two
  | sent reads names usable opened resolved built sends asks =>
      have two := List.head_eq_of_cons_eq (Option.some.inj sentTwice)
      exact ⟨_, _, _, _, _, names, usable, two, asks⟩

end VlanOrder

end BridgeView
