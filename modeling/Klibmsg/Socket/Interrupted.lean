import Klibmsg.Socket.Offsets
import Klibmsg.Runtime

/-!
# Calls that are made again

A `read`, `write` or `accept4` that fails without anything being wrong with its descriptor leaves
no trace but the record of the call.  `accept4` is the exception, whose handler only knows that a
connection was aborted; and so is a header whose frame ends before it, which then counts as sent.
-/

namespace Klibmsg

/-! ## The record of the past -/

/-- The process without the record of what it has done. -/
@[simps]
def World.forget (w : World) : World := { w with trace := [] }

/-- An action does not depend on the record of the past. -/
def Oblivious (action : Action) : Prop :=
  ∀ w : World, World.forget <$> action w.forget = World.forget <$> action w

namespace Oblivious

theorem ok {change : World → World}
    (oblivious : ∀ w : World, (change w.forget).forget = (change w).forget) :
    Oblivious fun w => .ok (change w) := fun w => congrArg Except.ok (oblivious w)

/-- Two actions one after the other. -/
theorem bind {first second : Action} (before : Oblivious first) (after : Oblivious second) :
    Oblivious fun w => first w >>= second := by
  intro w
  have same := before w
  cases started : first w.forget with
  | error fault =>
      cases started' : first w with
      | error fault' =>
          rw [started, started'] at same
          cases same
          simp only [started, started']
      | ok v =>
          rw [started, started'] at same
          cases same
  | ok u =>
      cases started' : first w with
      | error fault =>
          rw [started, started'] at same
          cases same
      | ok v =>
          rw [started, started'] at same
          have same : u.forget = v.forget := Except.ok.inj same
          change World.forget <$> (first w.forget >>= second) =
            World.forget <$> (first w >>= second)
          rw [started, started']
          change World.forget <$> second u = World.forget <$> second v
          rw [← after u, ← after v, same]

theorem eq_of_forget {action : Action} (oblivious : Oblivious action) {w v : World}
    (same : w.forget = v.forget) : World.forget <$> action w = World.forget <$> action v := by
  rw [← oblivious w, ← oblivious v, same]

end Oblivious

section Operations

variable {x y : SockId} {sys : Sys}

theorem forget_ctxRaise (w : World) (x : SockId) (event : EventId) :
    (w.ctxRaise x event).forget = w.forget.ctxRaise x event := by
  have same : (w.forget.eventAt event).inQueue = (w.eventAt event).inQueue := rfl
  simp only [World.ctxRaise, same]
  split_ifs
  · rfl
  · rfl

theorem forget_ctxRaiseTo (w : World) (x : SockId) (event : EventId) :
    (w.ctxRaiseTo x event).forget = w.forget.ctxRaiseTo x event := by
  have same : (w.forget.eventAt event).inQueue = (w.eventAt event).inQueue := rfl
  simp only [World.ctxRaiseTo, same]
  split_ifs
  · rfl
  · rfl

theorem forget_raise (w : World) (x : SockId) (name : EventName) (type : Int) (srcptr : Pointer) :
    (w.forget.raise x name type srcptr).forget = (w.raise x name type srcptr).forget := by
  simp only [World.raise, forget_ctxRaise]
  rfl

theorem forget_raiseTo (w : World) (x dst : SockId) (name : EventName) (src type : Int)
    (srcptr : Pointer) :
    (w.forget.raiseTo x dst name src type srcptr).forget =
      (w.raiseTo x dst name src type srcptr).forget := by
  simp only [World.raiseTo, forget_ctxRaiseTo]
  rfl

theorem oblivious_rmFd : Oblivious fun w => w.rmFd x := by
  intro w
  change World.forget <$> ((w.pollerOf x).rm (.sock x) (w.sock x).wfd >>= _) =
    World.forget <$> ((w.pollerOf x).rm (.sock x) (w.sock x).wfd >>= _)
  cases (w.pollerOf x).rm (.sock x) (w.sock x).wfd with
  | error fault => rfl
  | ok poller => rfl

theorem oblivious_initFromFd {s : Fd} : Oblivious fun w => w.initFromFd sys y s := by
  intro w
  simp only [World.initFromFd, World.forget_sock]
  split_ifs
  · rfl
  · rfl
  · rfl
  · rfl

/-- The handler of a new connection. -/
theorem oblivious_acceptingNewFd {s : Fd} : Oblivious (acceptingNewFd x sys s) := by
  intro w
  simp only [acceptingNewFd, World.forget_sock, World.forget_freed]
  cases (w.sock x).asock with
  | none => rfl
  | some y =>
      have opened : Oblivious fun w => (w.openFd s).initFromFd sys y s := fun w =>
        oblivious_initFromFd (w.openFd s)
      have announced : Oblivious fun w =>
          ((((w.setState y .accepted).raiseTo x y .established kNetDeviceSrcSocketEvent
            kNetSockEventTypeAccepted (.sock y)).setAsock y none).setAsock x none).rmFd x := by
        intro w
        refine oblivious_rmFd.eq_of_forget ?_
        have told := forget_raiseTo (w.setState y .accepted) x y .established
          kNetDeviceSrcSocketEvent kNetSockEventTypeAccepted (.sock y)
        exact congrArg (fun v => (v.setAsock y none).setAsock x none) told
      have closed : Oblivious fun w => .ok (w.setState x .listening) := .ok fun _ => rfl
      dsimp only
      split_ifs
      · rfl
      · exact (opened.bind (announced.bind closed)) w

theorem oblivious_acceptingFdIn : Oblivious (acceptingFdIn x sys) := by
  intro w
  simp only [acceptingFdIn]
  cases sys.accept4 with
  | fd s =>
      dsimp only
      split_ifs
      · exact oblivious_acceptingNewFd.eq_of_forget rfl
      · rfl
  | fails errno =>
      dsimp only
      split_ifs
      · rfl
      · have removed : Oblivious fun w =>
          ((w.setErrnum x errno).setState x .acceptingError).rmFd x :=
          fun w => oblivious_rmFd.eq_of_forget rfl
        have raised : Oblivious fun w =>
            .ok (w.raise x .error kNetSockEventTypeAcceptError (.sock x)) :=
          .ok fun w => forget_raise w ..
        exact (removed.bind raised).eq_of_forget rfl
      · rfl

end Operations

/-! ## Calls of `RecvRaw` and `SendRaw` -/

/-- `ACTIVE`, `FdIn`, when `RecvRaw` has returned. -/
def afterRecv (x : SockId) (transfer : Transfer) : Action := fun w =>
  let w := w.applyTransfer x transfer
  if transfer.rc = 0 then
    .ok (w.raise x .received kNetSockEventTypeReceived (.msg (w.sock x).inMsg))
  else if transfer.rc = -EAGAIN then
    .ok w
  else if transfer.rc = -ECONNRESET then
    .ok w
  else
    .error .check

/-- `ACTIVE`, `FdOut`, when `SendRaw` has returned. -/
def afterSend (x : SockId) (transfer : Transfer) : Action := fun w =>
  let w := w.applyTransfer x transfer
  if transfer.rc = 0 then
    .ok ((w.modify x fun sock => { sock with isOutBufBusy := false }).raise x .sent
      kNetSockEventTypeSent (.sock x))
  else if transfer.rc = -EAGAIN then
    .ok w
  else if transfer.rc = -ECONNRESET then
    .ok w
  else
    .error .check

/-- Two transfers differ at most in the calls that were made. -/
structure Transfer.Same (first second : Transfer) : Prop where
  sock : first.sock = second.sock
  memory : first.memory = second.memory
  rc : first.rc = second.rc

/-- Two processes differ at most in one socket. -/
def World.SameApartFrom (x : SockId) (w v : World) : Prop :=
  ∀ sock, (w.modify x fun _ => sock).forget = (v.modify x fun _ => sock).forget

namespace World.SameApartFrom

variable {x : SockId} {w v : World} {first second : Transfer}

theorem of_forget (same : w.forget = v.forget) : w.SameApartFrom x v := fun sock =>
  congrArg (fun u => u.modify x fun _ => sock) same

theorem applyTransfer (apart : w.SameApartFrom x v) (same : first.Same second) :
    (w.applyTransfer x first).forget = (v.applyTransfer x second).forget := by
  have modified := congrArg (·.setMemory first.memory) (apart first.sock)
  rw [same.sock, same.memory] at modified
  rw [World.applyTransfer, World.applyTransfer, same.sock, same.memory]
  exact modified

theorem afterRecv (apart : w.SameApartFrom x v) (same : first.Same second) :
    World.forget <$> afterRecv x first w = World.forget <$> afterRecv x second v := by
  have applied := apart.applyTransfer same
  simp only [Klibmsg.afterRecv, same.rc]
  generalize w.applyTransfer x first = w' at applied ⊢
  generalize v.applyTransfer x second = v' at applied ⊢
  have sock : w'.forget.sock = v'.forget.sock := by rw [applied]
  change w'.sock = v'.sock at sock
  rw [sock]
  split_ifs
  · refine congrArg Except.ok ?_
    rw [← forget_raise w', ← forget_raise v', applied]
  · exact congrArg Except.ok applied
  · exact congrArg Except.ok applied
  · rfl

theorem afterSend (apart : w.SameApartFrom x v) (same : first.Same second) :
    World.forget <$> afterSend x first w = World.forget <$> afterSend x second v := by
  have applied := apart.applyTransfer same
  simp only [Klibmsg.afterSend, same.rc]
  generalize w.applyTransfer x first = w' at applied ⊢
  generalize v.applyTransfer x second = v' at applied ⊢
  split_ifs
  · refine congrArg Except.ok ?_
    rw [← forget_raise, ← forget_raise (v'.modify x _)]
    exact congrArg (fun u : World => ((u.modify x fun sock =>
      { sock with isOutBufBusy := false }).raise x .sent kNetSockEventTypeSent (.sock x)).forget)
      applied
  · exact congrArg Except.ok applied
  · exact congrArg Except.ok applied
  · rfl

end World.SameApartFrom

section Transfers

variable {x : SockId} {sys : Sys} {w : World} {sock : NetSocket}

theorem activeFdIn_eq : activeFdIn x sys w = afterRecv x ((w.sock x).recvRaw w.device.token2Dptr
    sys.readHeader sys.readPayload w.memory) w := rfl

theorem activeFdOutBusy_eq : activeFdOutBusy x sys w = afterSend x ((w.sock x).sendRaw
    sys.writeHeader sys.writePayload w.memory) w := rfl

/-- `RecvRaw` or `SendRaw` gave up, because of a call that failed. -/
theorem afterRecv_gaveUp {transfer : Transfer} (gaveUp : transfer.rc = -EAGAIN ∨
    transfer.rc = -ECONNRESET) : afterRecv x transfer w = .ok (w.applyTransfer x transfer) := by
  simp only [afterRecv]
  obtain rc | rc := gaveUp
  · rw [rc]
    rfl
  · rw [rc]
    rfl

theorem afterSend_gaveUp {transfer : Transfer} (gaveUp : transfer.rc = -EAGAIN ∨
    transfer.rc = -ECONNRESET) : afterSend x transfer w = .ok (w.applyTransfer x transfer) := by
  simp only [afterSend]
  obtain rc | rc := gaveUp
  · rw [rc]
    rfl
  · rw [rc]
    rfl

end Transfers

theorem Buffer.write_nil (buffer : Buffer) (offset : Nat) : buffer.write offset [] = buffer := by
  rw [Buffer.write]
  split_ifs
  · simp
  · rfl

namespace NetSocket

/-- The socket after the read of the header, and the call if it is made. -/
def afterHeaderRead (header : ReadReply) (sock : NetSocket) : NetSocket × List SysCall :=
  let offset := sock.inOffset.signExtend 64
  if offset.toNat < headerSize.toNat then
    let count := headerSize - offset
    let bytes := header.bytes count.toNat
    ({ sock with
        inBuf := sock.inBuf.write offset.toNat bytes
        inOffset := advance sock.inOffset bytes.length },
      [.read sock.s (.buffer sock.inOffset) count header])
  else
    (sock, [])

/-- The socket after the write of the header, and the call if it is made. -/
def afterHeaderWrite (header : WriteReply) (sock : NetSocket) : NetSocket × List SysCall :=
  let offset := sock.outOffset.signExtend 64
  if offset.toNat < headerSize.toNat then
    let count := headerSize - offset
    let taken := header.taken count.toNat
    ({ sock with outOffset := advance sock.outOffset taken },
      [.write sock.s (.buffer sock.outOffset) count header
        ((sock.outBuf.bytes.drop offset.toNat).take taken)])
  else
    (sock, [])

/-- `RecvRaw` reads the payload. -/
def ReadsPayload (sock : NetSocket) : Prop :=
  headerSize.toNat ≤ (sock.inOffset.signExtend 64).toNat ∧
    sock.inOffset.toInt < sock.inMsg.totalMsgSz.toInt

/-- `SendRaw` writes the payload. -/
def WritesPayload (sock : NetSocket) : Prop :=
  headerSize.toNat ≤ (sock.outOffset.signExtend 64).toNat ∧
    sock.outOffset.toInt < sock.outMsg.totalMsgSz.toInt

instance (sock : NetSocket) : Decidable sock.ReadsPayload := inferInstanceAs (Decidable (_ ∧ _))

instance (sock : NetSocket) : Decidable sock.WritesPayload := inferInstanceAs (Decidable (_ ∧ _))

variable {sock : NetSocket} {token2Dptr : Token → Address} {memory : Memory}

/-- The code with which a transfer ends whose call fails. -/
def giveUp (errno : Int) : Int := if isAgain errno then -EAGAIN else -ECONNRESET

theorem giveUp_eq (errno : Int) : giveUp errno = -EAGAIN ∨ giveUp errno = -ECONNRESET := by
  rw [giveUp]
  split_ifs
  · exact .inl rfl
  · exact .inr rfl

theorem recvRaw_header_fails (inside : (sock.inOffset.signExtend 64).toNat < headerSize.toNat)
    (errno : Int) (payload : ReadReply) :
    recvRaw token2Dptr (.fails errno) payload sock memory =
      ⟨sock, memory, [.read sock.s (.buffer sock.inOffset)
        (headerSize - sock.inOffset.signExtend 64) (.fails errno)], giveUp errno⟩ := by
  simp only [recvRaw, if_pos inside, ReadReply.isHard, giveUp, ReadReply.bytes, Buffer.write_nil,
    List.length_nil, advance_zero, recvPayload]
  cases isAgain errno
  · rfl
  · rfl

/-- `RecvRaw` goes on with the payload, after the header or where an earlier call left it. -/
theorem recvRaw_resumed (header payload : ReadReply)
    (due : (sock.afterHeaderRead header).1.ReadsPayload) :
    recvRaw token2Dptr header payload sock memory =
      recvPayload token2Dptr payload (sock.afterHeaderRead header).1 memory
        (sock.afterHeaderRead header).2 := by
  by_cases inside : (sock.inOffset.signExtend 64).toNat < headerSize.toNat
  · have soft : header.isHard = false := by
      cases header with
      | fails errno =>
          have behind := due.1
          simp only [afterHeaderRead, if_pos inside, ReadReply.bytes, List.length_nil, advance_zero]
            at behind
          omega
      | _ => rfl
    simp only [recvRaw, afterHeaderRead, if_pos inside, soft, Bool.false_eq_true, if_false]
  · simp only [recvRaw, afterHeaderRead, if_neg inside]

theorem recvPayload_fails (token2Dptr : Token → Address) (memory : Memory)
    (due : sock.ReadsPayload) (errno : Int) (calls : List SysCall) :
    ∃ call, recvPayload token2Dptr (.fails errno) sock memory calls =
      ⟨sock, memory, calls ++ [call], giveUp errno⟩ := by
  refine ⟨.read sock.s (.memory (token2Dptr sock.inMsg.dst + sock.inOffset.signExtend 64 -
    headerSize)) (sock.inMsg.extra + (headerSize - sock.inOffset.signExtend 64)) (.fails errno), ?_⟩
  simp only [recvPayload, if_neg (not_lt.mpr due.1), if_pos due.2, ReadReply.isHard, giveUp,
    ReadReply.bytes, List.length_nil, advance_zero, Memory.write_nil, recvFinish]
  cases isAgain errno
  · rfl
  · rfl

theorem recvPayload_same (payload : ReadReply) (calls calls' : List SysCall) :
    (recvPayload token2Dptr payload sock memory calls).Same
      (recvPayload token2Dptr payload sock memory calls') := by
  simp only [recvPayload, recvFinish]
  split_ifs
  all_goals exact ⟨rfl, rfl, rfl⟩

theorem afterHeaderRead_behind (header : ReadReply) (due : sock.ReadsPayload) :
    sock.afterHeaderRead header = (sock, []) := if_neg (not_lt.mpr due.1)

theorem sendRaw_header_fails (memory : Memory)
    (inside : (sock.outOffset.signExtend 64).toNat < headerSize.toNat)
    (errno : Int) (payload : WriteReply) :
    ∃ call, sendRaw (.fails errno) payload sock memory =
      ⟨sock, memory, [call], if isAgain errno = true ∧
        sock.outMsg.totalMsgSz.toInt ≤ sock.outOffset.toInt then 0 else giveUp errno⟩ := by
  refine ⟨.write sock.s (.buffer sock.outOffset) (headerSize - sock.outOffset.signExtend 64)
    (.fails errno) ((sock.outBuf.bytes.drop (sock.outOffset.signExtend 64).toNat).take 0), ?_⟩
  have before : ¬(headerSize.toNat ≤ (sock.outOffset.signExtend 64).toNat ∧
      sock.outOffset.toInt < sock.outMsg.totalMsgSz.toInt) := fun due =>
    absurd due.1 (not_le.mpr inside)
  simp only [sendRaw, if_pos inside, WriteReply.isHard, giveUp, WriteReply.taken,
    advance_zero, sendPayload, if_neg before, sendFinish]
  cases isAgain errno with
  | false => rfl
  | true =>
      simp only [Bool.not_true, Bool.false_eq_true, if_false, if_true, true_and]
      by_cases whole : sock.outMsg.totalMsgSz.toInt ≤ sock.outOffset.toInt
      · rw [if_pos whole, if_neg (not_lt.mpr whole)]
      · rw [if_neg whole, if_pos (not_le.mp whole)]

theorem sendRaw_resumed (header payload : WriteReply)
    (due : (sock.afterHeaderWrite header).1.WritesPayload) :
    sendRaw header payload sock memory =
      sendPayload payload (sock.afterHeaderWrite header).1 memory
        (sock.afterHeaderWrite header).2 := by
  by_cases inside : (sock.outOffset.signExtend 64).toNat < headerSize.toNat
  · have soft : header.isHard = false := by
      cases header with
      | fails errno =>
          have behind := due.1
          simp only [afterHeaderWrite, if_pos inside, WriteReply.taken, advance_zero] at behind
          omega
      | accepts room => rfl
    simp only [sendRaw, afterHeaderWrite, if_pos inside, soft, Bool.false_eq_true, if_false]
  · simp only [sendRaw, afterHeaderWrite, if_neg inside]

theorem sendPayload_fails (memory : Memory) (due : sock.WritesPayload) (errno : Int)
    (calls : List SysCall) :
    ∃ call, sendPayload (.fails errno) sock memory calls =
      ⟨sock, memory, calls ++ [call], giveUp errno⟩ := by
  refine ⟨.write sock.s (.memory (sock.outMsg.src + sock.outOffset.signExtend 64 - headerSize))
    (sock.outMsg.totalMsgSz - sock.outOffset.signExtend 64) (.fails errno) (memory.read
      (sock.outMsg.src + sock.outOffset.signExtend 64 - headerSize) 0), ?_⟩
  simp only [sendPayload, if_pos (show _ ∧ _ from due), WriteReply.isHard, giveUp,
    WriteReply.taken, advance_zero, sendFinish, if_pos due.2]
  cases isAgain errno
  · rfl
  · rfl

theorem sendPayload_same (payload : WriteReply) (calls calls' : List SysCall) :
    (sendPayload payload sock memory calls).Same (sendPayload payload sock memory calls') := by
  simp only [sendPayload, sendFinish]
  split_ifs
  all_goals exact ⟨rfl, rfl, rfl⟩

theorem afterHeaderWrite_behind (header : WriteReply) (due : sock.WritesPayload) :
    sock.afterHeaderWrite header = (sock, []) := if_neg (not_lt.mpr due.1)

end NetSocket

/-! ## The calls of the descriptor events -/

/-- The calls that are made on a descriptor for its events. -/
inductive FdCall where
  | readHeader
  | readPayload
  | writeHeader
  | writePayload
  | accept4
deriving DecidableEq, Repr

namespace FdCall

/-- The event for which the call is made. -/
def type : FdCall → Int
  | readHeader | readPayload | accept4 => kNetWorkerFdIn
  | writeHeader | writePayload => kNetWorkerFdOut

/-- The state in which the call is made. -/
def state : FdCall → NetSockState
  | accept4 => .accepting
  | _ => .active

/-- The call fails. -/
def Fails (sys : Sys) (errno : Int) : FdCall → Prop
  | readHeader => sys.readHeader = .fails errno
  | readPayload => sys.readPayload = .fails errno
  | writeHeader => sys.writeHeader = .fails errno
  | writePayload => sys.writePayload = .fails errno
  | accept4 => sys.accept4 = .fails errno

/-- An `errno` of the call with which nothing is wrong with the descriptor. -/
def Transient (errno : Int) : FdCall → Prop
  | accept4 => errno = EAGAIN ∨ errno = EWOULDBLOCK ∨ errno = EINTR ∨ errno = ECONNABORTED
  | _ => errno = EAGAIN ∨ errno = EWOULDBLOCK ∨ errno = EINTR

/-- The answers to one event, when the call is answered as in a later one. -/
def answered (sys later : Sys) : FdCall → Sys
  | readPayload => { later with readHeader := sys.readHeader }
  | writePayload => { later with writeHeader := sys.writeHeader }
  | _ => later

end FdCall

namespace World

/-- Another value of a socket, after some calls. -/
def afterCalls (w : World) (x : SockId) (moved : NetSocket × List SysCall) : World :=
  (w.modify x fun _ => moved.1).logCalls moved.2

/-- The process when the out buffer of a socket holds a message: one is in it, or the head of the
queue is moved there. -/
def withFrame (w : World) (x : SockId) : Option World :=
  if (w.sock x).isOutBufBusy then
    some w
  else
    (w.sock x).dequeueNetMsgToBuf.map fun sock =>
      w.modify x fun _ => { sock with isOutBufBusy := true }

/-- The process in which a call is made for an event, if it is made. -/
def beforeCall (w : World) (x : SockId) (sys : Sys) : FdCall → Option World
  | .readHeader =>
      if ((w.sock x).inOffset.signExtend 64).toNat < headerSize.toNat then some w else none
  | .readPayload =>
      let before := w.afterCalls x ((w.sock x).afterHeaderRead sys.readHeader)
      if (before.sock x).ReadsPayload then some before else none
  | .writeHeader => do
      let before ← w.withFrame x
      if ((before.sock x).outOffset.signExtend 64).toNat < headerSize.toNat then
        return before
      else
        none
  | .writePayload => do
      let ready ← w.withFrame x
      let before := ready.afterCalls x ((ready.sock x).afterHeaderWrite sys.writeHeader)
      if (before.sock x).WritesPayload then return before else none
  | .accept4 => some w

end World

/-- Nothing but the buffers, the offsets and the queue of messages of a socket differs. -/
def NetSocket.OnlyMoved (sock moved : NetSocket) : Prop :=
  moved = { sock with
    inBuf := moved.inBuf
    outBuf := moved.outBuf
    inOffset := moved.inOffset
    outOffset := moved.outOffset
    isOutBufBusy := moved.isOutBufBusy
    msgBufferQueue := moved.msgBufferQueue }

/-- Nothing but the buffers, the offsets and the queue of messages of one socket differs. -/
def World.OnlyMoved (x : SockId) (w v : World) : Prop :=
  v.forget = (w.modify x fun _ => v.sock x).forget ∧ (w.sock x).OnlyMoved (v.sock x)

/-- A call for an event fails, and nothing is wrong with the descriptor. -/
structure Interrupted (x : SockId) (sys : Sys) (w : World) (call : FdCall) (before : World) :
    Prop where
  state : (w.sock x).state = call.state
  made : w.beforeCall x sys call = some before
  fails : ∃ errno, call.Fails sys errno ∧ call.Transient errno

/-- The failed call has no effect but its record, and when the event is handled again, everything is
as if the call had then been made for the first time. -/
def Unaffected (x : SockId) (sys : Sys) (w : World) (call : FdCall) (before : World) : Prop :=
  ∃ made : SysCall,
    netSocketHandler (nestedAction sys) x sys kNetSockSrcFd call.type w =
        .ok (before.logCalls [made]) ∧
      ∀ later : Sys,
        World.forget <$> netSocketHandler (nestedAction later) x later kNetSockSrcFd call.type
            (before.logCalls [made]) =
          World.forget <$> netSocketHandler (nestedAction (call.answered sys later)) x
            (call.answered sys later) kNetSockSrcFd call.type w

/-- The failures that the handlers expect: of `accept4` only an aborted connection, and of the write
of a header those that do not end its frame. -/
def Expected (x : SockId) (sys : Sys) (before : World) : FdCall → Prop
  | .accept4 => sys.accept4 = .fails ECONNABORTED
  | .writeHeader => sys.writeHeader = .fails EINTR ∨
      (before.sock x).outOffset.toInt < (before.sock x).outMsg.totalMsgSz.toInt
  | _ => True

section Handler

variable {x : SockId} {sys : Sys} {w before : World} {action : ActionCall}

theorem netSocketHandler_fdIn (active : (w.sock x).state = .active) :
    netSocketHandler action x sys kNetSockSrcFd kNetWorkerFdIn w = activeFdIn x sys w := by
  change stateSwitch action x sys kNetSockSrcFd kNetWorkerFdIn (w.sock x).state w = _
  rw [active]
  rfl

theorem netSocketHandler_fdOut (active : (w.sock x).state = .active) :
    netSocketHandler action x sys kNetSockSrcFd kNetWorkerFdOut w = activeFdOut x sys w := by
  change stateSwitch action x sys kNetSockSrcFd kNetWorkerFdOut (w.sock x).state w = _
  rw [active]
  rfl

theorem netSocketHandler_accepting (accepting : (w.sock x).state = .accepting) :
    netSocketHandler action x sys kNetSockSrcFd kNetWorkerFdIn w = acceptingFdIn x sys w := by
  change stateSwitch action x sys kNetSockSrcFd kNetWorkerFdIn (w.sock x).state w = _
  rw [accepting]
  rfl

theorem oblivious_activeFdIn : Oblivious (activeFdIn x sys) := fun w =>
  World.SameApartFrom.afterRecv (w := w.forget) (v := w) (.of_forget rfl) ⟨rfl, rfl, rfl⟩

theorem oblivious_activeFdOutBusy : Oblivious (activeFdOutBusy x sys) := fun w =>
  World.SameApartFrom.afterSend (w := w.forget) (v := w) (.of_forget rfl) ⟨rfl, rfl, rfl⟩

/-- A transfer that only moves a socket. -/
theorem applyTransfer_eq (w : World) (x : SockId) (moved : NetSocket × List SysCall)
    (calls : List SysCall) (rc : Int) :
    w.applyTransfer x ⟨moved.1, w.memory, moved.2 ++ calls, rc⟩ =
      (w.afterCalls x moved).logCalls calls := by
  simp only [World.applyTransfer, World.afterCalls, World.logCalls, World.setMemory,
    List.map_append, World.modify, List.append_assoc]

theorem applyTransfer_self (w : World) (x : SockId) (calls : List SysCall) (rc : Int) :
    w.applyTransfer x ⟨w.sock x, w.memory, calls, rc⟩ = w.logCalls calls := by
  have same : (w.modify x fun _ => w.sock x) = w := by simp [World.modify]
  rw [World.applyTransfer, same]
  rfl

theorem afterCalls_sock (w : World) (x : SockId) (moved : NetSocket × List SysCall) :
    (w.afterCalls x moved).sock x = moved.1 := Function.update_self ..

theorem afterCalls_apart (w : World) (x : SockId) (moved : NetSocket × List SysCall) :
    (w.afterCalls x moved).SameApartFrom x w := by
  intro sock
  simp only [World.afterCalls, World.modify, World.forget, World.logCalls, Function.update_idem]

/-! ## Reading -/

theorem readHeader_unaffected (active : (w.sock x).state = .active)
    (inside : ((w.sock x).inOffset.signExtend 64).toNat < headerSize.toNat) {errno : Int}
    (fails : sys.readHeader = .fails errno) : Unaffected x sys w .readHeader w := by
  refine ⟨.read (w.sock x).s (.buffer (w.sock x).inOffset)
    (headerSize - (w.sock x).inOffset.signExtend 64) (.fails errno), ?_, fun later => ?_⟩
  · change netSocketHandler _ x sys kNetSockSrcFd kNetWorkerFdIn w = _
    rw [netSocketHandler_fdIn active, activeFdIn_eq, fails,
      NetSocket.recvRaw_header_fails inside errno,
      afterRecv_gaveUp (NetSocket.giveUp_eq errno), applyTransfer_self]
  · change World.forget <$> netSocketHandler _ x later kNetSockSrcFd kNetWorkerFdIn _ =
      World.forget <$> netSocketHandler _ x later kNetSockSrcFd kNetWorkerFdIn w
    have kept (calls : List SysCall) : ((w.logCalls calls).sock x).state = .active := active
    rw [netSocketHandler_fdIn active, netSocketHandler_fdIn (kept _)]
    exact oblivious_activeFdIn.eq_of_forget rfl

theorem afterHeaderRead_state (header : ReadReply) (sock : NetSocket) :
    (sock.afterHeaderRead header).1.state = sock.state := by
  simp only [NetSocket.afterHeaderRead]
  split_ifs
  · rfl
  · rfl

/-- Reading goes on where the read of the header left it. -/
theorem activeFdIn_resumed {v : World} {header : ReadReply} (apart : v.SameApartFrom x w)
    (moved : v.sock x = ((w.sock x).afterHeaderRead header).1) (due : (v.sock x).ReadsPayload)
    (later : Sys) :
    World.forget <$> activeFdIn x later v =
      World.forget <$> activeFdIn x { later with readHeader := header } w := by
  have memory := congrArg World.memory (apart default)
  have device := congrArg World.device (apart default)
  change v.memory = w.memory at memory
  change v.device = w.device at device
  rw [activeFdIn_eq, activeFdIn_eq]
  refine apart.afterRecv ?_
  have resumed := NetSocket.afterHeaderRead_behind later.readHeader due
  rw [NetSocket.recvRaw_resumed _ _ (resumed ▸ due), resumed,
    NetSocket.recvRaw_resumed header _ (moved ▸ due), memory, device, moved]
  exact NetSocket.recvPayload_same ..

theorem readPayload_unaffected (active : (w.sock x).state = .active)
    (due : ((w.sock x).afterHeaderRead sys.readHeader).1.ReadsPayload) {errno : Int}
    (fails : sys.readPayload = .fails errno) :
    Unaffected x sys w .readPayload
      (w.afterCalls x ((w.sock x).afterHeaderRead sys.readHeader)) := by
  obtain ⟨made, failed⟩ := NetSocket.recvPayload_fails w.device.token2Dptr w.memory due errno
    ((w.sock x).afterHeaderRead sys.readHeader).2
  refine ⟨made, ?_, fun later => ?_⟩
  · change netSocketHandler _ x sys kNetSockSrcFd kNetWorkerFdIn w = _
    rw [netSocketHandler_fdIn active, activeFdIn_eq, NetSocket.recvRaw_resumed _ _ due, fails,
      failed, afterRecv_gaveUp (NetSocket.giveUp_eq errno), applyTransfer_eq]
  · have moved := afterCalls_sock w x ((w.sock x).afterHeaderRead sys.readHeader)
    have apart := afterCalls_apart w x ((w.sock x).afterHeaderRead sys.readHeader)
    have kept := afterHeaderRead_state sys.readHeader (w.sock x)
    rw [← moved] at due kept
    change World.forget <$> netSocketHandler _ x later kNetSockSrcFd kNetWorkerFdIn _ =
      World.forget <$> netSocketHandler _ x { later with readHeader := sys.readHeader }
        kNetSockSrcFd kNetWorkerFdIn w
    generalize w.afterCalls x _ = before at moved apart kept due ⊢
    have kept' : ((before.logCalls [made]).sock x).state = .active := kept.trans active
    rw [netSocketHandler_fdIn active, netSocketHandler_fdIn kept']
    exact activeFdIn_resumed (v := before.logCalls [made]) apart moved due later

/-! ## Writing -/

/-- With a message in the out buffer, the handler of the event only writes. -/
theorem activeFdOut_withFrame (sys : Sys) {ready : World} (frame : w.withFrame x = some ready) :
    activeFdOut x sys w = activeFdOutBusy x sys ready ∧ (ready.sock x).isOutBufBusy = true ∧
      (ready.sock x).state = (w.sock x).state := by
  simp only [World.withFrame] at frame
  simp only [activeFdOut]
  split_ifs at frame ⊢ with busy
  · cases frame
    exact ⟨rfl, busy, rfl⟩
  · obtain ⟨sock, dequeued, rfl⟩ := Option.map_eq_some_iff.mp frame
    rw [dequeued]
    have kept : sock.state = (w.sock x).state := by
      simp only [NetSocket.dequeueNetMsgToBuf] at dequeued
      split at dequeued
      · cases dequeued
      · cases dequeued
        rfl
    refine ⟨rfl, ?_, ?_⟩
    · simp
    · simpa using kept

theorem activeFdOut_busy (busy : (w.sock x).isOutBufBusy = true) :
    activeFdOut x sys w = activeFdOutBusy x sys w := if_pos busy

theorem writeHeader_unaffected_iff (active : (w.sock x).state = .active)
    (frame : w.withFrame x = some before)
    (inside : ((before.sock x).outOffset.signExtend 64).toNat < headerSize.toNat) {errno : Int}
    (fails : sys.writeHeader = .fails errno)
    (transient : errno = EAGAIN ∨ errno = EWOULDBLOCK ∨ errno = EINTR) :
    Unaffected x sys w .writeHeader before ↔ Expected x sys before .writeHeader := by
  obtain ⟨handled, busy, kept⟩ := activeFdOut_withFrame sys frame
  obtain ⟨made, failed⟩ := NetSocket.sendRaw_header_fails before.memory inside errno
    sys.writePayload
  have again : ¬(isAgain errno = true ∧
      (before.sock x).outMsg.totalMsgSz.toInt ≤ (before.sock x).outOffset.toInt) ↔
        Expected x sys before .writeHeader := by
    have interrupted : isAgain errno = false ↔ errno = EINTR := by
      obtain rfl | rfl | rfl := transient
      · decide
      · decide
      · decide
    have same : sys.writeHeader = .fails EINTR ↔ errno = EINTR := by
      rw [fails]
      exact ⟨WriteReply.fails.inj, congrArg _⟩
    rw [not_and_or, not_le, Bool.not_eq_true, interrupted, ← same]
    rfl
  have outcome : netSocketHandler (nestedAction sys) x sys kNetSockSrcFd kNetWorkerFdOut w =
      afterSend x ⟨before.sock x, before.memory, [made],
        if isAgain errno = true ∧ (before.sock x).outMsg.totalMsgSz.toInt ≤
          (before.sock x).outOffset.toInt then 0 else NetSocket.giveUp errno⟩ before := by
    rw [netSocketHandler_fdOut active, handled, activeFdOutBusy_eq, fails, failed]
  by_cases expected : Expected x sys before .writeHeader
  · refine iff_of_true ⟨made, ?_, fun later => ?_⟩ expected
    · rw [if_neg (again.mpr expected), afterSend_gaveUp (NetSocket.giveUp_eq errno),
        applyTransfer_self] at outcome
      exact outcome
    · change World.forget <$> netSocketHandler _ x later kNetSockSrcFd kNetWorkerFdOut _ =
        World.forget <$> netSocketHandler _ x later kNetSockSrcFd kNetWorkerFdOut w
      have kept' : ((before.logCalls [made]).sock x).state = .active := kept.trans active
      have busy' : ((before.logCalls [made]).sock x).isOutBufBusy = true := busy
      rw [netSocketHandler_fdOut active, netSocketHandler_fdOut kept', activeFdOut_busy busy',
        (activeFdOut_withFrame _ frame).1]
      exact oblivious_activeFdOutBusy.eq_of_forget rfl
  · refine iff_of_false ?_ expected
    rintro ⟨made', handled', -⟩
    rw [if_pos (not_not.mp (mt again.mp expected))] at outcome
    have result := Except.ok.inj (outcome.symm.trans handled')
    -- the trace has the raised event behind the call
    have length := congrArg (fun v : World => v.trace.length) result
    simp [World.trace_raise, World.applyTransfer, World.setMemory] at length

theorem afterHeaderWrite_state (header : WriteReply) (sock : NetSocket) :
    (sock.afterHeaderWrite header).1.state = sock.state ∧
      (sock.afterHeaderWrite header).1.isOutBufBusy = sock.isOutBufBusy := by
  simp only [NetSocket.afterHeaderWrite]
  split_ifs
  · exact ⟨rfl, rfl⟩
  · exact ⟨rfl, rfl⟩

/-- Writing goes on where the write of the header left it. -/
theorem activeFdOutBusy_resumed {v : World} {header : WriteReply} (apart : v.SameApartFrom x w)
    (moved : v.sock x = ((w.sock x).afterHeaderWrite header).1) (due : (v.sock x).WritesPayload)
    (later : Sys) :
    World.forget <$> activeFdOutBusy x later v =
      World.forget <$> activeFdOutBusy x { later with writeHeader := header } w := by
  have memory := congrArg World.memory (apart default)
  change v.memory = w.memory at memory
  rw [activeFdOutBusy_eq, activeFdOutBusy_eq]
  refine apart.afterSend ?_
  have resumed := NetSocket.afterHeaderWrite_behind later.writeHeader due
  rw [NetSocket.sendRaw_resumed _ _ (resumed ▸ due), resumed,
    NetSocket.sendRaw_resumed header _ (moved ▸ due), memory, moved]
  exact NetSocket.sendPayload_same ..

theorem writePayload_unaffected {ready : World} (active : (w.sock x).state = .active)
    (frame : w.withFrame x = some ready)
    (due : ((ready.sock x).afterHeaderWrite sys.writeHeader).1.WritesPayload) {errno : Int}
    (fails : sys.writePayload = .fails errno) :
    Unaffected x sys w .writePayload
      (ready.afterCalls x ((ready.sock x).afterHeaderWrite sys.writeHeader)) := by
  obtain ⟨handled, busy, kept⟩ := activeFdOut_withFrame sys frame
  obtain ⟨made, failed⟩ := NetSocket.sendPayload_fails ready.memory due errno
    ((ready.sock x).afterHeaderWrite sys.writeHeader).2
  refine ⟨made, ?_, fun later => ?_⟩
  · change netSocketHandler _ x sys kNetSockSrcFd kNetWorkerFdOut w = _
    rw [netSocketHandler_fdOut active, handled, activeFdOutBusy_eq,
      NetSocket.sendRaw_resumed _ _ due, fails, failed,
      afterSend_gaveUp (NetSocket.giveUp_eq errno), applyTransfer_eq]
  · have moved := afterCalls_sock ready x ((ready.sock x).afterHeaderWrite sys.writeHeader)
    have apart := afterCalls_apart ready x ((ready.sock x).afterHeaderWrite sys.writeHeader)
    obtain ⟨state, flag⟩ := afterHeaderWrite_state sys.writeHeader (ready.sock x)
    rw [← moved] at due state flag
    change World.forget <$> netSocketHandler _ x later kNetSockSrcFd kNetWorkerFdOut _ =
      World.forget <$> netSocketHandler _ x { later with writeHeader := sys.writeHeader }
        kNetSockSrcFd kNetWorkerFdOut w
    generalize ready.afterCalls x _ = before at moved apart state flag due ⊢
    have kept' : ((before.logCalls [made]).sock x).state = .active :=
      (state.trans kept).trans active
    have busy' : ((before.logCalls [made]).sock x).isOutBufBusy = true := flag.trans busy
    rw [netSocketHandler_fdOut active, netSocketHandler_fdOut kept', activeFdOut_busy busy',
      (activeFdOut_withFrame _ frame).1]
    exact activeFdOutBusy_resumed (v := before.logCalls [made]) apart moved due later

/-! ## Accepting -/

theorem accept4_unaffected_iff (accepting : (w.sock x).state = .accepting) {errno : Int}
    (fails : sys.accept4 = .fails errno)
    (transient : errno = EAGAIN ∨ errno = EWOULDBLOCK ∨ errno = EINTR ∨ errno = ECONNABORTED) :
    Unaffected x sys w .accept4 w ↔ Expected x sys w .accept4 := by
  have handled : netSocketHandler (nestedAction sys) x sys kNetSockSrcFd kNetWorkerFdIn w =
      if errno = ECONNABORTED then .ok (w.logCalls [.accept4 (w.sock x).s]) else .error .check := by
    rw [netSocketHandler_accepting accepting]
    simp only [acceptingFdIn, fails]
    have known : ¬(errno = ENFILE ∨ errno = EMFILE ∨ errno = ENOBUFS ∨ errno = ENOMEM) := by
      obtain rfl | rfl | rfl | rfl := transient
      · decide
      · decide
      · decide
      · decide
    rw [if_neg known]
  have same : Expected x sys w .accept4 ↔ errno = ECONNABORTED := by
    change sys.accept4 = _ ↔ _
    rw [fails]
    exact ⟨FdReply.fails.inj, congrArg _⟩
  rw [same]
  constructor
  · rintro ⟨made, done, -⟩
    by_contra unknown
    rw [if_neg unknown] at handled
    cases handled.symm.trans done
  · intro aborted
    rw [if_pos aborted] at handled
    refine ⟨_, handled, fun later => ?_⟩
    change World.forget <$> netSocketHandler _ x later kNetSockSrcFd kNetWorkerFdIn _ =
      World.forget <$> netSocketHandler _ x later kNetSockSrcFd kNetWorkerFdIn w
    have kept (calls : List SysCall) : ((w.logCalls calls).sock x).state = .accepting := accepting
    rw [netSocketHandler_accepting accepting, netSocketHandler_accepting (kept _)]
    exact oblivious_acceptingFdIn.eq_of_forget rfl

theorem onlyMoved_afterHeaderRead (header : ReadReply) (sock : NetSocket) :
    sock.OnlyMoved (sock.afterHeaderRead header).1 := by
  simp only [NetSocket.afterHeaderRead]
  split_ifs
  · rfl
  · rfl

theorem onlyMoved_afterHeaderWrite (header : WriteReply) (sock : NetSocket) :
    sock.OnlyMoved (sock.afterHeaderWrite header).1 := by
  simp only [NetSocket.afterHeaderWrite]
  split_ifs
  · rfl
  · rfl

namespace World.OnlyMoved

variable {v u : World}

theorem refl (x : SockId) (w : World) : w.OnlyMoved x w := by
  refine ⟨?_, rfl⟩
  simp [World.modify]

theorem trans (first : w.OnlyMoved x v) (second : v.OnlyMoved x u) : w.OnlyMoved x u := by
  refine ⟨?_, ?_⟩
  · rw [second.1]
    have collapsed := congrArg (fun t : World => t.modify x fun _ => u.sock x) first.1
    refine collapsed.trans ?_
    simp [World.modify, World.forget]
  · have moved := second.2
    rw [NetSocket.OnlyMoved, first.2] at moved
    exact moved

theorem of_afterCalls (moved : NetSocket × List SysCall) (only : (w.sock x).OnlyMoved moved.1) :
    w.OnlyMoved x (w.afterCalls x moved) := by
  refine ⟨?_, ?_⟩
  · rw [afterCalls_sock]
    rfl
  · rw [afterCalls_sock]
    exact only

theorem of_withFrame {ready : World} (frame : w.withFrame x = some ready) :
    w.OnlyMoved x ready := by
  simp only [World.withFrame] at frame
  split_ifs at frame
  · cases frame
    exact refl x w
  · obtain ⟨sock, dequeued, rfl⟩ := Option.map_eq_some_iff.mp frame
    refine of_afterCalls ({ sock with isOutBufBusy := true }, []) ?_
    simp only [NetSocket.dequeueNetMsgToBuf] at dequeued
    split at dequeued
    · cases dequeued
    · cases dequeued
      rfl

/-- Up to the call that fails, nothing else changes. -/
theorem of_beforeCall {call : FdCall} (made : w.beforeCall x sys call = some before) :
    w.OnlyMoved x before := by
  cases call with
  | readHeader =>
      simp only [World.beforeCall] at made
      split_ifs at made
      cases made
      exact refl x w
  | readPayload =>
      simp only [World.beforeCall] at made
      split_ifs at made
      cases made
      exact of_afterCalls _ (onlyMoved_afterHeaderRead ..)
  | writeHeader =>
      obtain ⟨ready, frame, made⟩ := Option.bind_eq_some_iff.mp made
      split_ifs at made
      cases made
      exact of_withFrame frame
  | writePayload =>
      obtain ⟨ready, frame, made⟩ := Option.bind_eq_some_iff.mp made
      simp only at made
      split_ifs at made
      cases made
      exact (of_withFrame frame).trans (of_afterCalls _ (onlyMoved_afterHeaderWrite ..))
  | accept4 =>
      cases made
      exact refl x w

end World.OnlyMoved

end Handler

/-- A call for an event that fails without anything being wrong with the descriptor has no effect
but its record, exactly when it is a failure that the handlers expect. -/
theorem interrupted_unaffected_iff {x : SockId} {sys : Sys} {w before : World} {call : FdCall}
    (interrupted : Interrupted x sys w call before) :
    w.OnlyMoved x before ∧
      (Unaffected x sys w call before ↔ Expected x sys before call) := by
  obtain ⟨state, made, errno, fails, transient⟩ := interrupted
  refine ⟨.of_beforeCall made, ?_⟩
  cases call with
  | readHeader =>
      simp only [World.beforeCall] at made
      split_ifs at made with inside
      cases made
      exact iff_of_true (readHeader_unaffected state inside fails) trivial
  | readPayload =>
      simp only [World.beforeCall] at made
      split_ifs at made with due
      cases made
      rw [afterCalls_sock] at due
      exact iff_of_true (readPayload_unaffected state due fails) trivial
  | writeHeader =>
      obtain ⟨ready, frame, made⟩ := Option.bind_eq_some_iff.mp made
      split_ifs at made with inside
      cases made
      exact writeHeader_unaffected_iff state frame inside fails transient
  | writePayload =>
      obtain ⟨ready, frame, made⟩ := Option.bind_eq_some_iff.mp made
      simp only at made
      split_ifs at made with due
      cases made
      rw [afterCalls_sock] at due
      exact iff_of_true (writePayload_unaffected state frame due fails) trivial
  | accept4 =>
      cases made
      exact accept4_unaffected_iff state fails transient

/-- A listener is started, waits for a connection and is registered with the poller. -/
def acceptingRun : List (RuntimeLabel SocketCall) :=
  [.call { socket := .fd 3 } (.start 0), .call {} (.listen 0), .call {} (.accept 1 0), .snapshot 0,
    .pop 0, .advance 0 {}, .advance 0 {}, .advance 0 {}]

/-- A socket connects, and ten bytes of a message are written. -/
def writingRun : List (RuntimeLabel SocketCall) :=
  [.call { socket := .fd 3 } (.start 0), .call { connect := 0 } (.connect 0),
    .call {} (.asyncSendMsg 0 { NetMsg.new with msgType := 1, extra := 8 }), .poll 0 0 .fdOut,
    .advance 0 { writeHeader := .accepts 9 }]

/-- A connection is gone when the listener calls `accept4`, and a write blocks in the middle of a
header. -/
theorem interrupted_unaffected_iff_aborted :
    (∃ r, socketOwner.system.run default acceptingRun = some r ∧
      r.world.OnlyMoved 0 r.world ∧
        (Unaffected 0 { accept4 := .fails ECONNABORTED } r.world .accept4 r.world ↔
          Expected 0 { accept4 := .fails ECONNABORTED } r.world .accept4)) ∧
    ∃ r, socketOwner.system.run default writingRun = some r ∧
      (r.world.sock 0).outOffset = 10 ∧ (r.world.sock 0).isOutBufBusy = true ∧
        r.world.OnlyMoved 0 r.world ∧
          (Unaffected 0 { writeHeader := .fails EAGAIN } r.world .writeHeader r.world ↔
            Expected 0 { writeHeader := .fails EAGAIN } r.world .writeHeader) ∧
          Expected 0 { writeHeader := .fails EAGAIN } r.world .writeHeader := by
  constructor
  · have observed : (socketOwner.system.run default acceptingRun).any
        (fun r => (r.world.sock 0).state = .accepting) = true := by decide +kernel
    obtain ⟨r, execution, facts⟩ := (Option.any_eq_true _ _).mp observed
    exact ⟨r, execution, interrupted_unaffected_iff
      ⟨of_decide_eq_true facts, rfl, ECONNABORTED, rfl, .inr (.inr (.inr rfl))⟩⟩
  · have observed : (socketOwner.system.run default writingRun).any (fun r =>
        (r.world.sock 0).state = .active ∧ (r.world.sock 0).outOffset = 10 ∧
          (r.world.sock 0).isOutBufBusy = true ∧
            (r.world.sock 0).outOffset.toInt < (r.world.sock 0).outMsg.totalMsgSz.toInt) =
        true := by decide +kernel
    obtain ⟨r, execution, facts⟩ := (Option.any_eq_true _ _).mp observed
    obtain ⟨state, offset, busy, inside⟩ : (r.world.sock 0).state = .active ∧
      (r.world.sock 0).outOffset = 10 ∧ (r.world.sock 0).isOutBufBusy = true ∧
        (r.world.sock 0).outOffset.toInt < (r.world.sock 0).outMsg.totalMsgSz.toInt :=
      of_decide_eq_true facts
    have made : r.world.beforeCall 0 { writeHeader := .fails EAGAIN } .writeHeader =
        some r.world := by
      simp only [World.beforeCall, World.withFrame, busy, if_true, Option.bind_eq_bind,
        Option.bind_some, offset]
      rfl
    obtain ⟨moved, unaffected⟩ :=
      interrupted_unaffected_iff ⟨state, made, EAGAIN, rfl, .inl rfl⟩
    exact ⟨r, execution, offset, busy, moved, unaffected, .inr inside⟩

/-- A connection that is gone when `accept4` is called ends the process. -/
theorem accept4_again_aborts :
    ∃ r, socketOwner.system.run default acceptingRun = some r ∧
      Interrupted 0 { accept4 := .fails EAGAIN } r.world .accept4 r.world ∧
      netSocketHandler (nestedAction { accept4 := .fails EAGAIN }) 0 { accept4 := .fails EAGAIN }
        kNetSockSrcFd kNetWorkerFdIn r.world = .error .check ∧
      ¬Unaffected 0 { accept4 := .fails EAGAIN } r.world .accept4 r.world := by
  have observed : (socketOwner.system.run default acceptingRun).any
      (fun r => (r.world.sock 0).state = .accepting) = true := by decide +kernel
  obtain ⟨r, execution, facts⟩ := (Option.any_eq_true _ _).mp observed
  have accepting : (r.world.sock 0).state = .accepting := of_decide_eq_true facts
  have aborts : netSocketHandler (nestedAction { accept4 := .fails EAGAIN }) 0
      { accept4 := .fails EAGAIN } kNetSockSrcFd kNetWorkerFdIn r.world = .error .check := by
    rw [netSocketHandler_accepting accepting]
    rfl
  refine ⟨r, execution, ⟨accepting, rfl, EAGAIN, rfl, .inl rfl⟩, aborts, ?_⟩
  rintro ⟨made, done, -⟩
  cases aborts.symm.trans done

end Klibmsg
