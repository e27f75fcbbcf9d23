import Klibmsg.Socket.Handler

/-!
# The public operations of a socket

An operation that returns a result code returns it next to the new state.
-/

namespace Klibmsg

/-- `NetPool::ChooseWorker`. -/
def World.chooseWorker (w : World) : WorkerId × World :=
  let next : WorkerId :=
    if inside : w.curWorkerIdx + 1 < kNetWorkerNum then ⟨w.curWorkerIdx + 1, inside⟩
    else ⟨0, kNetWorkerNum_pos⟩
  (w.curWorkerIdx, { w with curWorkerIdx := next })

/-- The members that `NetSocket::Init` assigns; the others keep what the memory holds. -/
def NetSocket.initialised (sock : NetSocket) (src : Int) (addr : SockAddr) (worker : WorkerId) :
    NetSocket :=
  { sock with
    fsm := ⟨.idle, src, .null⟩
    inOffset := 0
    outOffset := 0
    ipAddr := addr
    state := .idle
    worker := worker
    s := -1
    ctx := ⟨[], []⟩
    task := fun _ => false
    event := fun _ => .init
    asock := none
    errnum := 0
    msgBufferQueue := [] }

/-- `NetSocket::Init`. -/
def World.socketInit (w : World) (x : SockId) (src : Int) (addr : SockAddr) : World :=
  let (worker, w) := w.chooseWorker
  w.modify x fun sock => sock.initialised src addr worker

/-- `new NetSocket`: only `is_out_buf_busy_` has an initialiser. -/
def World.newNetSocket (w : World) : SockId × World :=
  let x := w.nextSock
  (x, { w with nextSock := x + 1 }.modify x fun sock => { sock with isOutBufBusy := false })

/-- `NetSocket::Start`. -/
def start (sys : Sys) (x : SockId) : World → Except Fault (Int × World) := fun w =>
  let w := w.logCalls [.socket]
  match sys.socket with
  | .fails errno => .ok (-errno, w)
  | .fd s => do
      let w ← (w.openFd s).initFromFd sys x s
      let w ← fsmStart sys x w
      return (0, w)

/-- `NetSocket::StartFd`. -/
def startFd (sys : Sys) (x : SockId) (fd : Fd) : Action := fun w => do
  let w ← w.initFromFd sys x fd
  let w ← fsmStart sys x w
  fsmAction sys x kNetSockActionStarted w

/-- `NetSocket::Stop`. -/
def stop (sys : Sys) (x : SockId) : Action := fsmStop sys x

/-- `NetSocket::SetSockOpt`. -/
def setSockOpt (sys : Sys) (x : SockId) : World → Except Fault (Int × World) := fun w =>
  if (w.sock x).state = .starting ∨ (w.sock x).state = .accepted then
    .ok (-sys.setsockopt, w.logCalls [.setsockopt (w.sock x).s])
  else
    .error .check

/-- `NetSocket::Bind`. -/
def bind (sys : Sys) (x : SockId) : World → Except Fault (Int × World) := fun w =>
  if (w.sock x).state = .starting then
    if sys.setsockopt = 0 then
      .ok (-sys.bind, w.logCalls [.setsockopt (w.sock x).s, .bind (w.sock x).s])
    else
      .error .check
  else
    .error .check

/-- `NetSocket::Listen`. -/
def listen (sys : Sys) (x : SockId) : World → Except Fault (Int × World) := fun w =>
  if (w.sock x).state = .starting then
    let w := w.logCalls [.listen (w.sock x).s]
    if sys.listen = 0 then do
      let w ← fsmAction sys x kNetSockActionListen w
      return (0, w)
    else
      .ok (-sys.listen, w)
  else
    .error .check

/-- The part of `NetSocket::Accept` that changes the state of the accepted socket. -/
def acceptStart (sys : Sys) (x : SockId) : Action := fun w =>
  if (w.sock x).isIdle then do
    let w ← fsmStart sys x w
    fsmAction sys x kNetSockActionBeingAccepted w
  else
    .ok w

/-- The part of `NetSocket::Accept` that pairs the two sockets. -/
def acceptPair (x listener : SockId) : Action := fun w =>
  if (w.sock x).asock = none ∨ (w.sock x).asock = some listener then
    let w := w.setAsock x (some listener)
    if (w.sock listener).asock = none ∨ (w.sock listener).asock = some x then
      .ok ((w.setAsock listener (some x)).execute ⟨listener, .accept⟩)
    else
      .error .check
  else
    .error .check

/-- `NetSocket::Accept`. -/
def accept (sys : Sys) (x listener : SockId) : Action := fun w => do
  let w ← acceptStart sys x w
  let w ← fsmAction sys listener kNetSockActionAccept w
  acceptPair x listener w

/-- `NetSocket::Activate`. -/
def activate (sys : Sys) (x : SockId) : Action := fsmAction sys x kNetSockActionActivate

/-- `NetSocket::Connect`. -/
def connect (sys : Sys) (x : SockId) : Action := fun w => do
  let w ← fsmAction sys x kNetSockActionConnect w
  let w := w.logCalls [.connect (w.sock x).s]
  if sys.connect = 0 then
    fsmAction sys x kNetSockActionDone w
  else if sys.connect ≠ EINPROGRESS then
    fsmAction sys x kNetSockActionError (w.setErrnum x sys.connect)
  else
    return w.execute ⟨x, .connecting⟩

/-- The first step of `NetSocket::AsyncSendMsg`: push under `msq_sync_`. -/
def World.pushMsg (w : World) (x : SockId) (msg : NetMsg) : World :=
  w.modify x fun sock => { sock with msgBufferQueue := sock.msgBufferQueue ++ [msg] }

/-- `NetSocket::AsyncSendMsg`. -/
def World.asyncSendMsg (w : World) (x : SockId) (msg : NetMsg) : World :=
  (w.pushMsg x msg).execute ⟨x, .send⟩

end Klibmsg
