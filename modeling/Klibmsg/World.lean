import Klibmsg.Channel
import Klibmsg.Poller
import Mathlib.Tactic.Simps.Basic

/-!
# The state of the process

One `World` holds every object of a process: the sockets, the worker threads' queues and pollers,
the device, the open descriptors and the memory that payloads are copied to and from.  Queues are
lists together with the mark that `NETQUEUE_NOT_INQUEUE` puts on every item.  System calls, raised
and delivered events are also kept in a trace, in the order in which they happen.
-/

namespace Klibmsg

/-- Address of a `NetSocket`. -/
abbrev SockId := Nat

/-- Index of a worker in the pool. -/
abbrev WorkerId := Fin kNetWorkerNum

instance : NeZero kNetWorkerNum := ⟨by decide⟩

/-- A callback given to `ReadData`. -/
abbrev Callback := Nat

/-- The worker tasks of a socket. -/
inductive TaskName where
  | connecting
  | connected
  | accept
  | send
  | recv
  | stop
deriving DecidableEq, Repr

/-- The source with which a task is fed to its socket. -/
def TaskName.src : TaskName → Int
  | connecting => kNetSockSrcTaskConnecting
  | connected => kNetSockSrcTaskConnected
  | accept => kNetSockSrcTaskAccept
  | send => kNetSockSrcTaskSend
  | recv => kNetSockSrcTaskRecv
  | stop => kNetSockSrcTaskStop

/-- The event objects of a socket; `stopped` is the one inside its `NetFsm`. -/
inductive EventName where
  | established
  | sent
  | received
  | error
  | stopped
deriving DecidableEq, Repr

/-- A `NetWorkerTask`, by the socket that contains it. -/
structure TaskId where
  sock : SockId
  name : TaskName
deriving DecidableEq, Repr

/-- A `NetFsmEvent`, by the socket that contains it. -/
structure EventId where
  sock : SockId
  name : EventName
deriving DecidableEq, Repr

/-- Values of the `void*` that travels with an event. -/
inductive Pointer where
  | null
  | sock (id : SockId)
  | msg (msg : NetMsg)
deriving DecidableEq, Repr

/-- What an event carries to its owner. -/
structure Payload where
  src : Int
  type : Int
  srcptr : Pointer
deriving DecidableEq, Repr

/-- `NetFsmEvent`. -/
structure NetFsmEvent where
  fsm : Option SockId
  payload : Payload
  /-- The item's `next_` differs from `NETQUEUE_NOT_INQUEUE`. -/
  inQueue : Bool
deriving DecidableEq, Repr

/-- The payload of an event that was initialised or processed. -/
def Payload.cleared : Payload := ⟨-1, -1, .null⟩

/-- `NetFsmEvent::Init`. -/
def NetFsmEvent.init : NetFsmEvent := ⟨none, .cleared, false⟩

/-- `NetFsm` without its `stopped_` event.  The owner of every socket is the device. -/
structure NetFsm where
  state : NetFsmState
  src : Int
  srcptr : Pointer
deriving DecidableEq, Repr

/-- `NetCtx`: internal and external events. -/
structure NetCtx where
  events : List EventId
  eventsto : List EventId
deriving DecidableEq, Repr

/-- `char[kNetSocketBufferSize]`. -/
structure Buffer where
  bytes : List Byte
  length_eq : bytes.length = kNetSocketBufferSize

namespace Buffer

/-- A buffer of zeros. -/
def zero : Buffer := ⟨List.replicate kNetSocketBufferSize 0, by simp⟩

/-- Copy bytes into the buffer; a copy that leaves the buffer is never made. -/
def write (buffer : Buffer) (offset : Nat) (bytes : List Byte) : Buffer :=
  if fits : offset + bytes.length ≤ kNetSocketBufferSize then
    { bytes := buffer.bytes.take offset ++ bytes ++ buffer.bytes.drop (offset + bytes.length)
      length_eq := by
        have length_eq := buffer.length_eq
        simp only [List.length_append, List.length_take, List.length_drop]
        omega }
  else
    buffer

theorem take_write (buffer : Buffer) {offset : Nat} {bytes : List Byte}
    (fits : offset + bytes.length ≤ kNetSocketBufferSize) :
    (buffer.write offset bytes).bytes.take (offset + bytes.length) =
      buffer.bytes.take offset ++ bytes := by
  have length_eq := buffer.length_eq
  rw [write, dif_pos fits]
  apply List.take_left'
  simp only [List.length_append, List.length_take]
  omega

end Buffer

/-- `NetSocket`. -/
structure NetSocket where
  fsm : NetFsm
  inBuf : Buffer
  outBuf : Buffer
  inOffset : BitVec 32
  outOffset : BitVec 32
  isOutBufBusy : Bool
  ipAddr : SockAddr
  state : NetSockState
  worker : WorkerId
  s : Fd
  wfd : NetPollerHandle
  ctx : NetCtx
  /-- For each task, whether its item is in a queue. -/
  task : TaskName → Bool
  event : EventName → NetFsmEvent
  asock : Option SockId
  errnum : Int
  msgBufferQueue : List NetMsg

instance : Inhabited NetSocket where
  default :=
    { fsm := ⟨.idle, 0, .null⟩, inBuf := .zero, outBuf := .zero, inOffset := 0, outOffset := 0
      isOutBufBusy := false, ipAddr := default, state := .idle, worker := ⟨0, kNetWorkerNum_pos⟩
      s := -1, wfd := default, ctx := ⟨[], []⟩, task := fun _ => false
      event := fun _ => .init, asock := none, errnum := 0, msgBufferQueue := [] }

/-- Addresses of the poller handles of a worker. -/
inductive Handle where
  | efd
  | sock (id : SockId)
deriving DecidableEq, Repr

/-- `NetWorker`: the queue `tasks_` and the poller. -/
structure NetWorker where
  tasks : List TaskId
  poller : NetPoller Handle

/-- `NetDevice`. -/
structure NetDevice where
  token2DptrSize : Token → BitVec 64
  token2Dptr : Token → Address
  token2Ip : Token → SockAddr
  listenSock : SockId
  /-- The entries of the map; the order of iteration is not part of it. -/
  token2sock : List (Token × SockId)
  token2callback : Token → Option Callback
  sockSets : List SockId
  cq : Channel Callback

/-- Where a `read` stores its bytes, or where a `write` takes them from. -/
inductive Span where
  | buffer (offset : BitVec 32)
  | memory (address : Address)
deriving DecidableEq, Repr

/-- The operation given to `epoll_ctl`. -/
inductive EpollCtl where
  | add
  | mod
  | del
deriving DecidableEq, Repr

/-- System calls made on behalf of sockets. -/
inductive SysCall where
  | socket
  | fcntl (fd : Fd)
  | setsockopt (fd : Fd)
  | bind (fd : Fd)
  | listen (fd : Fd)
  | connect (fd : Fd)
  | accept4 (fd : Fd)
  | getsockopt (fd : Fd)
  | close (fd : Fd)
  | epollCtl (op : EpollCtl) (fd : Fd)
  | read (fd : Fd) (span : Span) (count : BitVec 64) (reply : ReadReply)
  | write (fd : Fd) (span : Span) (count : BitVec 64) (reply : WriteReply) (taken : List Byte)
deriving DecidableEq, Repr

/-- What the process does that others can see. -/
inductive Effect where
  | sys (call : SysCall)
  | execute (task : TaskId)
  | raise (event : EventId) (payload : Payload)
  | deliver (event : EventId) (payload : Payload)
  | sendCallback (callback : Callback)
deriving DecidableEq, Repr

/-- A line printed by `kLibMsgFsmError`. -/
structure Report where
  errStr : String
  state : NetSockState
  src : Int
  type : Int
deriving DecidableEq, Repr

/-- Answer of a call that returns a new descriptor. -/
inductive FdReply where
  | fd (fd : Fd)
  | fails (errno : Int)
deriving DecidableEq, Repr

/-- Answers of the operating system to the calls that one step may make; a call that the step does
not make ignores its answer.  A zero stands for success, another number for an `errno`. -/
structure Sys where
  socket : FdReply := .fails EMFILE
  accept4 : FdReply := .fails EAGAIN
  connect : Int := EINPROGRESS
  soError : Int := 0
  fcntl : Int := 0
  setsockopt : Int := 0
  bind : Int := 0
  listen : Int := 0
  close : Int := 0
  readHeader : ReadReply := .fails EAGAIN
  readPayload : ReadReply := .fails EAGAIN
  writeHeader : WriteReply := .fails EAGAIN
  writePayload : WriteReply := .fails EAGAIN
  /-- Order in which `token2sock_` is iterated. -/
  order : List (Token × SockId) := []

/-- A process. -/
structure World where
  sock : SockId → NetSocket
  worker : WorkerId → NetWorker
  device : NetDevice
  /-- The open descriptors. -/
  fds : Fd → Bool
  memory : Memory
  /-- The address that the next `new NetSocket` returns. -/
  nextSock : SockId
  freed : List SockId
  curWorkerIdx : WorkerId
  trace : List Effect
  stdout : List Report

/-- A process in which nothing has happened; the device's own socket has address 0. -/
instance : Inhabited World where
  default :=
    { sock := fun _ => default
      worker := fun _ => ⟨[], ⟨0, 0, [], fun _ => none⟩⟩
      device := ⟨fun _ => 0, fun _ => 0, default, 0, [], fun _ => none, [], .new⟩
      fds := fun _ => false
      memory := fun _ => 0
      nextSock := 1
      freed := []
      curWorkerIdx := ⟨0, kNetWorkerNum_pos⟩
      trace := []
      stdout := [] }

/-- A step of the program on the whole process. -/
abbrev Action := World → Except Fault World

/-- `CHECK(condition)` before an action. -/
def check (condition : Prop) [Decidable condition] (action : Action) : Action := fun w =>
  if condition then action w else .error .check

namespace World

@[simps]
def log (w : World) (effect : Effect) : World := { w with trace := w.trace ++ [effect] }

@[simps]
def logCalls (w : World) (calls : List SysCall) : World :=
  { w with trace := w.trace ++ calls.map .sys }

@[simps]
def modify (w : World) (x : SockId) (change : NetSocket → NetSocket) : World :=
  { w with sock := Function.update w.sock x (change (w.sock x)) }

@[simps]
def modifyWorker (w : World) (k : WorkerId) (change : NetWorker → NetWorker) : World :=
  { w with worker := Function.update w.worker k (change (w.worker k)) }

@[simps]
def modifyDevice (w : World) (change : NetDevice → NetDevice) : World :=
  { w with device := change w.device }

@[simps]
def setMemory (w : World) (memory : Memory) : World := { w with memory := memory }

/-- The kernel hands out a descriptor. -/
@[simps]
def openFd (w : World) (fd : Fd) : World := { w with fds := Function.update w.fds fd true }

/-- `kLibMsgFsmError` prints and returns. -/
@[simps]
def kLibMsgFsmError (w : World) (errStr : String) (state : NetSockState) (src type : Int) :
    World :=
  { w with stdout := w.stdout ++ [⟨errStr, state, src, type⟩] }

/-- Assign `state_` of a socket. -/
def setState (w : World) (x : SockId) (state : NetSockState) : World :=
  w.modify x fun sock => { sock with state := state }

/-- Assign `errnum_` of a socket. -/
def setErrnum (w : World) (x : SockId) (errnum : Int) : World :=
  w.modify x fun sock => { sock with errnum := errnum }

/-- Assign `s_` of a socket. -/
def setS (w : World) (x : SockId) (s : Fd) : World :=
  w.modify x fun sock => { sock with s := s }

/-- Assign `asock_` of a socket. -/
def setAsock (w : World) (x : SockId) (asock : Option SockId) : World :=
  w.modify x fun sock => { sock with asock := asock }

/-! ## Workers -/

/-- `NetWorker::Execute` on the worker of the task's socket. -/
def execute (w : World) (task : TaskId) : World :=
  let w := w.log (.execute task)
  if (w.sock task.sock).task task.name then
    w
  else
    (w.modify task.sock fun sock =>
        { sock with task := Function.update sock.task task.name true }).modifyWorker
      (w.sock task.sock).worker fun worker => { worker with tasks := worker.tasks ++ [task] }

/-- Store the results of a poller operation on a socket's handle. -/
def setHandle (w : World) (x : SockId) (result : NetPollerHandle × NetPoller Handle) : World :=
  (w.modifyWorker (w.sock x).worker fun worker => { worker with poller := result.2 }).modify x
    fun sock => { sock with wfd := result.1 }

/-- The poller of a socket's worker. -/
def pollerOf (w : World) (x : SockId) : NetPoller Handle := (w.worker (w.sock x).worker).poller

/-- `NetWorker::AddFd(s_, &wfd_)`. -/
def addFd (w : World) (x : SockId) : World :=
  let s := (w.sock x).s
  (w.setHandle x ((w.pollerOf x).add (w.fds s) s (.sock x))).logCalls [.epollCtl .add s]

/-- `NetWorker::RmFd(&wfd_)`. -/
def rmFd (w : World) (x : SockId) : Except Fault World := do
  let handle := (w.sock x).wfd
  let poller ← (w.pollerOf x).rm (.sock x) handle
  return (w.setHandle x (handle, poller)).logCalls [.epollCtl .del handle.fd]

/-- `NetWorker::SetIn(&wfd_)`. -/
def setIn (w : World) (x : SockId) : World :=
  let handle := (w.sock x).wfd
  (w.setHandle x ((w.pollerOf x).setIn (.sock x) handle)).logCalls
    (if handle.events &&& EPOLLIN ≠ 0 then [] else [.epollCtl .mod handle.fd])

/-- `NetWorker::SetOut(&wfd_)`. -/
def setOut (w : World) (x : SockId) : World :=
  let handle := (w.sock x).wfd
  (w.setHandle x ((w.pollerOf x).setOut (.sock x) handle)).logCalls
    (if handle.events &&& EPOLLOUT ≠ 0 then [] else [.epollCtl .mod handle.fd])

/-- `NetWorker::ResetOut(&wfd_)`. -/
def resetOut (w : World) (x : SockId) : Except Fault World := do
  let handle := (w.sock x).wfd
  let result ← (w.pollerOf x).resetOut (.sock x) handle
  return (w.setHandle x result).logCalls
    (if handle.events &&& EPOLLOUT = 0 then [] else [.epollCtl .mod handle.fd])

/-! ## Descriptors -/

/-- `close`: the descriptor is released and leaves every interest list. -/
def close (w : World) (fd : Fd) : World :=
  { w with
    fds := Function.update w.fds fd false
    worker := fun k =>
      { tasks := (w.worker k).tasks, poller := (w.worker k).poller.ctlDel fd } }.logCalls
    [.close fd]

/-- Whether `close` returns zero on a descriptor. -/
def closeSucceeds (w : World) (sys : Sys) (fd : Fd) : Prop := w.fds fd = true ∧ sys.close = 0

instance (w : World) (sys : Sys) (fd : Fd) : Decidable (w.closeSucceeds sys fd) :=
  inferInstanceAs (Decidable (_ ∧ _))

/-- `NetCloseFd`. -/
def netCloseFd (w : World) (sys : Sys) (fd : Fd) : Except Fault World :=
  if fd < 0 then
    .ok w
  else if w.fds fd = false then
    .error .check
  else if sys.close = 0 ∨ sys.close = EINTR ∨ sys.close = ETIMEDOUT ∨ sys.close = EWOULDBLOCK ∨
      sys.close = EINPROGRESS ∨ sys.close = ECONNRESET then
    .ok (w.close fd)
  else
    .error .check

/-! ## Events -/

/-- Assign the fields of an event object. -/
def setEvent (w : World) (event : EventId) (change : NetFsmEvent → NetFsmEvent) : World :=
  w.modify event.sock fun sock =>
    { sock with event := Function.update sock.event event.name (change (sock.event event.name)) }

/-- Change the queues of a context. -/
def setCtx (w : World) (x : SockId) (change : NetCtx → NetCtx) : World :=
  w.modify x fun sock => { sock with ctx := change sock.ctx }

/-- The event object with a given address. -/
def eventAt (w : World) (event : EventId) : NetFsmEvent := (w.sock event.sock).event event.name

/-- `NetCtx::Raise`: `events_.Push`. -/
def ctxRaise (w : World) (x : SockId) (event : EventId) : World :=
  if (w.eventAt event).inQueue then
    w
  else
    (w.setEvent event fun stored => { stored with inQueue := true }).setCtx x fun ctx =>
      { ctx with events := ctx.events ++ [event] }

/-- `NetCtx::RaiseTo`: `eventsto_.Push`. -/
def ctxRaiseTo (w : World) (x : SockId) (event : EventId) : World :=
  if (w.eventAt event).inQueue then
    w
  else
    (w.setEvent event fun stored => { stored with inQueue := true }).setCtx x fun ctx =>
      { ctx with eventsto := ctx.eventsto ++ [event] }

/-- `NetFsm::Raise` of one of the socket's own events. -/
def raise (w : World) (x : SockId) (name : EventName) (type : Int) (srcptr : Pointer) : World :=
  let fsm := (w.sock x).fsm
  let payload : Payload := ⟨fsm.src, type, if srcptr = .null then fsm.srcptr else srcptr⟩
  ((w.log (.raise ⟨x, name⟩ payload)).setEvent ⟨x, name⟩ fun stored =>
    { stored with fsm := some x, payload := payload }).ctxRaise x ⟨x, name⟩

/-- `NetFsm::RaiseTo` from the context of `x` to the socket `dst`. -/
def raiseTo (w : World) (x dst : SockId) (name : EventName) (src type : Int)
    (srcptr : Pointer) : World :=
  let payload : Payload := ⟨src, type, srcptr⟩
  ((w.log (.raise ⟨dst, name⟩ payload)).setEvent ⟨dst, name⟩ fun stored =>
    { stored with fsm := some dst, payload := payload }).ctxRaiseTo x ⟨dst, name⟩

end World
end Klibmsg
