import Klibmsg.Poller.Interest
import Klibmsg.Socket.Effects

/-!
# What the process knows of one socket

`World.wire` is the part of the process that the wakeups of one socket depend on: its members, the
registration of its descriptor and the queue of its worker.  Every operation on the socket is a
function of it.
-/

namespace Klibmsg

/-- A socket with the registration of its descriptor and the queue of its worker. -/
@[ext]
structure Wire where
  sock : NetSocket
  entry : Option (EpollEvent Handle)
  isOpen : Bool
  tasks : List TaskId
  freed : List SockId

namespace Wire

variable (v : Wire) (x : SockId)

/-- `Execute` of a task of the socket. -/
def execute (name : TaskName) : Wire :=
  { v with
    sock := { v.sock with task := Function.update v.sock.task name true }
    tasks := if v.sock.task name then v.tasks else v.tasks ++ [⟨x, name⟩] }

/-- `Raise` of an event of the socket. -/
def raise (name : EventName) (type : Int) (srcptr : Pointer) : Wire :=
  { v with
    sock :=
      { v.sock with
        event := Function.update v.sock.event name
          ⟨some x, ⟨v.sock.fsm.src, type, if srcptr = .null then v.sock.fsm.srcptr else srcptr⟩,
            true⟩
        ctx :=
          if (v.sock.event name).inQueue then v.sock.ctx
          else { v.sock.ctx with events := v.sock.ctx.events ++ [⟨x, name⟩] } } }

/-- What a poller operation leaves. -/
def store (handle : NetPollerHandle) (entry : Option (EpollEvent Handle)) : Wire :=
  { v with
    sock := { v.sock with wfd := handle }
    entry := entry }

/-- `AddFd`. -/
def addFd : Wire :=
  v.store ⟨v.sock.s, 0⟩
    (if v.isOpen = true ∧ v.entry = none then some ⟨0, .sock x⟩ else v.entry)

/-- Store a mask in the handle and ask the kernel for it. -/
def ask (events : BitVec 32) : Wire :=
  v.store ⟨v.sock.wfd.fd, events⟩
    (if v.sock.wfd.fd = v.sock.s then v.entry.map fun _ => ⟨events, .sock x⟩ else v.entry)

/-- `SetOut`. -/
def setOut : Wire :=
  if v.sock.wfd.events &&& EPOLLOUT ≠ 0 then v else v.ask x (v.sock.wfd.events ||| EPOLLOUT)

/-- `ResetOut`. -/
def resetOut : Wire :=
  if v.sock.wfd.events &&& EPOLLOUT = 0 then v else v.ask x (v.sock.wfd.events &&& ~~~EPOLLOUT)

theorem setOut_store : ∃ wfd entry, v.setOut x = v.store wfd entry := by
  rw [setOut]
  split_ifs
  · exact ⟨_, _, rfl⟩
  · exact ⟨_, _, rfl⟩

theorem resetOut_store : ∃ wfd entry, v.resetOut x = v.store wfd entry := by
  rw [resetOut]
  split_ifs
  · exact ⟨_, _, rfl⟩
  · exact ⟨_, _, rfl⟩

@[simp]
theorem worker_setOut : (v.setOut x).sock.worker = v.sock.worker := by
  obtain ⟨wfd, entry, stored⟩ := v.setOut_store x
  rw [stored]
  rfl

@[simp]
theorem worker_resetOut : (v.resetOut x).sock.worker = v.sock.worker := by
  obtain ⟨wfd, entry, stored⟩ := v.resetOut_store x
  rw [stored]
  rfl

/-- A change of the members. -/
def modify (change : NetSocket → NetSocket) : Wire := { v with sock := change v.sock }

/-- Feeding a task that only concerns the poller. -/
def internalTask : TaskName → Wire
  | .send => v.setOut x
  | .connected => v.addFd x
  | .connecting => (v.addFd x).setOut x
  | _ => v

@[simp]
theorem worker_internalTask (name : TaskName) :
    (v.internalTask x name).sock.worker = v.sock.worker := by
  cases name with
  | send => exact v.worker_setOut x
  | connecting => exact (v.addFd x).worker_setOut x
  | _ => rfl

/-- An event is popped from the queue of the context. -/
def popEvent (event : EventId) (events : List EventId) : Wire :=
  v.modify fun sock =>
    { sock with
      ctx := { sock.ctx with events := events }
      event := Function.update sock.event event.name
        { sock.event event.name with inQueue := false } }

/-- The fields of an event object are cleared. -/
def takeEvent (event : EventId) : Wire :=
  v.modify fun sock =>
    { sock with
      event := Function.update sock.event event.name
        { sock.event event.name with payload := .cleared } }

/-- The descriptor is registered as the handle says, and not for `EPOLLIN`. -/
structure Registered : Prop where
  fd : v.sock.wfd.fd = v.sock.s
  entry : v.entry = some ⟨v.sock.wfd.events, .sock x⟩
  out : v.sock.wfd.events &&& EPOLLIN = 0

variable {v : Wire} {x : SockId}

theorem Registered.ask (registered : v.Registered x) {events : BitVec 32}
    (out : events &&& EPOLLIN = 0) : (v.ask x events).Registered x := by
  refine ⟨registered.fd, ?_, out⟩
  change (if v.sock.wfd.fd = v.sock.s then _ else _) = _
  rw [if_pos registered.fd, registered.entry]
  rfl

theorem Registered.setOut (registered : v.Registered x) : (v.setOut x).Registered x := by
  rw [Wire.setOut]
  split_ifs
  · exact registered
  · exact registered.ask (Polling.or_off (by decide) registered.out (.inr rfl))

theorem Registered.resetOut (registered : v.Registered x) : (v.resetOut x).Registered x := by
  rw [Wire.resetOut]
  split_ifs
  · exact registered
  · exact registered.ask (NetPoller.and_not_of_zero registered.out _)

theorem registered_addFd (isOpen : v.isOpen = true) (entry : v.entry = none) :
    (v.addFd x).Registered x := by
  refine ⟨rfl, ?_, BitVec.zero_and⟩
  change (if v.isOpen = true ∧ v.entry = none then _ else _) = _
  rw [if_pos ⟨isOpen, entry⟩]
  rfl

/-- After `SetOut` the handle asks for `EPOLLOUT`. -/
theorem armed_setOut : (v.setOut x).sock.wfd.events &&& EPOLLOUT ≠ 0 := by
  rw [Wire.setOut]
  split_ifs with asked
  · exact asked
  · change (v.sock.wfd.events ||| EPOLLOUT) &&& EPOLLOUT ≠ 0
    rw [BitVec.and_comm, BitVec.and_or_distrib_left, BitVec.and_self]
    intro zero
    have bit := congrArg (BitVec.getLsbD · 2) zero
    simp [EPOLLOUT] at bit

/-- A handle whose descriptor is not registered registers nothing by asking. -/
theorem entry_setOut (entry : v.entry = none) : (v.setOut x).entry = none := by
  rw [Wire.setOut]
  split_ifs
  · exact entry
  · change (if v.sock.wfd.fd = v.sock.s then _ else _) = _
    rw [entry]
    split_ifs <;> rfl

end Wire

namespace NetPoller

variable {η : Type}

theorem interest_ctlMod (poller : NetPoller η) (fd other : Fd) (event : EpollEvent η) :
    (poller.ctlMod fd event).interest other =
      if fd = other then (poller.interest other).map fun _ => event else poller.interest other := by
  rw [ctlMod]
  split
  next absent =>
    split_ifs with same
    · rw [← same, absent]
      rfl
    · rfl
  next entry found =>
    by_cases same : fd = other
    · subst same
      simp [found]
    · simp [same, Ne.symm same]

theorem interest_ctlAdd (poller : NetPoller η) (isOpen : Bool) (fd : Fd) (event : EpollEvent η) :
    (poller.ctlAdd isOpen fd event).interest fd =
      if isOpen = true ∧ poller.interest fd = none then some event else poller.interest fd := by
  rw [ctlAdd]
  split_ifs <;> simp

end NetPoller

namespace World

/-- The part of the process that concerns one socket. -/
def wire (w : World) (x : SockId) : Wire where
  sock := w.sock x
  entry := (w.pollerOf x).interest (w.sock x).s
  isOpen := w.fds (w.sock x).s
  tasks := (w.worker (w.sock x).worker).tasks
  freed := w.freed

variable (w : World) (x : SockId)

/-- A change that keeps the worker and the descriptor. -/
theorem wire_modify {change : NetSocket → NetSocket}
    (worker : (change (w.sock x)).worker = (w.sock x).worker)
    (s : (change (w.sock x)).s = (w.sock x).s) :
    (w.modify x change).wire x = (w.wire x).modify change := by
  apply Wire.ext <;> simp [wire, Wire.modify, pollerOf, worker, s]

@[simp]
theorem wire_logCalls (calls : List SysCall) : (w.logCalls calls).wire x = w.wire x := rfl

@[simp]
theorem wire_log (effect : Effect) : (w.log effect).wire x = w.wire x := rfl

@[simp]
theorem wire_report (stdout : List Report) : { w with stdout := stdout }.wire x = w.wire x := rfl

@[simp]
theorem wire_setMemory (memory : Memory) : (w.setMemory memory).wire x = w.wire x := rfl

@[simp]
theorem wire_setState (state : NetSockState) :
    (w.setState x state).wire x = (w.wire x).modify ({ · with state := state }) :=
  w.wire_modify x rfl rfl

@[simp]
theorem wire_setFsmState (state : NetFsmState) :
    (w.setFsmState x state).wire x =
      (w.wire x).modify fun sock => { sock with fsm := { sock.fsm with state := state } } :=
  w.wire_modify x rfl rfl

/-- Another descriptor. -/
theorem wire_setS (fd : Fd) :
    (w.setS x fd).wire x =
      { w.wire x with
        sock := { w.sock x with s := fd }
        entry := (w.pollerOf x).interest fd
        isOpen := w.fds fd } := by
  have poller : (w.setS x fd).pollerOf x = w.pollerOf x := by
    rw [pollerOf, sock_setS_self]
    rfl
  apply Wire.ext
  · exact sock_setS_self ..
  · change ((w.setS x fd).pollerOf x).interest ((w.setS x fd).sock x).s = _
    rw [poller, sock_setS_self]
  · change w.fds ((w.setS x fd).sock x).s = _
    rw [sock_setS_self]
  · change (w.worker ((w.setS x fd).sock x).worker).tasks = _
    rw [sock_setS_self]
    rfl
  · rfl

@[simp]
theorem wire_setErrnum (errnum : Int) :
    (w.setErrnum x errnum).wire x = (w.wire x).modify ({ · with errnum := errnum }) :=
  w.wire_modify x rfl rfl

@[simp]
theorem wire_execute (name : TaskName) :
    (w.execute ⟨x, name⟩).wire x = (w.wire x).execute x name := by
  have worker : ((w.execute ⟨x, name⟩).sock x).worker = (w.sock x).worker := by simp
  have s : ((w.execute ⟨x, name⟩).sock x).s = (w.sock x).s := by simp
  apply Wire.ext
  · simp [wire, Wire.execute]
  · simp only [wire, pollerOf, worker, s, Wire.execute, worker_execute]
    split_ifs <;> rfl
  · simp only [wire, s, Wire.execute, fds_execute]
  · simp only [wire, worker, Wire.execute, worker_execute]
    by_cases queued : (w.sock x).task name = true
    · simp [queued]
    · simp [queued]
  · simp [wire, Wire.execute]

@[simp]
theorem wire_raise (name : EventName) (type : Int) (srcptr : Pointer) :
    (w.raise x name type srcptr).wire x = (w.wire x).raise x name type srcptr := by
  obtain ⟨sock, trace, others⟩ := w.raise_others x name type srcptr
  have freed : (w.raise x name type srcptr).freed = w.freed := by rw [others]
  apply Wire.ext
  · simp only [wire, Wire.raise, sock_raise_self]
    rfl
  · simp [wire, pollerOf, Wire.raise]
  · simp [wire, Wire.raise]
  · simp [wire, Wire.raise]
  · exact freed

/-- An operation of the poller. -/
theorem wire_setHandle (result : NetPollerHandle × NetPoller Handle) :
    (w.setHandle x result).wire x =
      (w.wire x).store result.1 (result.2.interest (w.sock x).s) := by
  apply Wire.ext <;> simp [wire, setHandle, pollerOf, Wire.store]

@[simp]
theorem wire_addFd : (w.addFd x).wire x = (w.wire x).addFd x := by
  rw [addFd, wire_logCalls, wire_setHandle]
  apply Wire.ext
  · rfl
  · exact NetPoller.interest_ctlAdd _ _ _ _
  · rfl
  · rfl
  · rfl

@[simp]
theorem wire_setOut : (w.setOut x).wire x = (w.wire x).setOut x := by
  rw [setOut, wire_logCalls, wire_setHandle, NetPoller.setOut, NetPoller.setBit]
  by_cases asked : (w.sock x).wfd.events &&& EPOLLOUT ≠ 0
  · have same : (w.wire x).setOut x = w.wire x := if_pos asked
    rw [if_pos asked, same]
    rfl
  · have asks : (w.wire x).setOut x =
        (w.wire x).ask x ((w.sock x).wfd.events ||| EPOLLOUT) := if_neg asked
    rw [if_neg asked, asks]
    exact congrArg _ (NetPoller.interest_ctlMod _ _ _ _)

theorem wire_resetOut {w w' : World} {x : SockId} (reset : w.resetOut x = .ok w') :
    w'.wire x = (w.wire x).resetOut x := by
  obtain ⟨result, resetting, returned⟩ := bind_eq_ok.mp reset
  cases returned
  rw [wire_logCalls, wire_setHandle]
  rw [NetPoller.resetOut, NetPoller.resetBit] at resetting
  split_ifs at resetting with unasked
  · have same : (w.wire x).resetOut x = w.wire x := if_pos unasked
    cases resetting
    rw [same]
    rfl
  · have asks : (w.wire x).resetOut x =
        (w.wire x).ask x ((w.sock x).wfd.events &&& ~~~EPOLLOUT) := if_neg unasked
    dsimp only at resetting
    generalize stores : NetPoller.storeTail _ _ = stored at resetting
    cases stored with
    | error fault => cases resetting
    | ok after =>
        cases resetting
        rw [asks, NetPoller.interest_storeTail stores]
        exact congrArg _ (NetPoller.interest_ctlMod _ _ _ _)

theorem wire_pushMsg (msg : NetMsg) :
    (w.pushMsg x msg).wire x =
      (w.wire x).modify fun sock =>
        { sock with msgBufferQueue := sock.msgBufferQueue ++ [msg] } :=
  w.wire_modify x rfl rfl

end World

/-! ## The cells -/

/-- The descriptor is given up and the error is raised. -/
def Wire.Fails (x : SockId) (v v' : Wire) : Prop :=
  ∃ wfd errnum entry isOpen,
    v' = Wire.raise
      { v with
        sock := { v.sock with wfd := wfd, errnum := errnum, s := -1, state := .done }
        entry := entry
        isOpen := isOpen }
      x .error kNetSockEventTypeError (.sock x)

theorem Wire.Fails.worker {x : SockId} {v v' : Wire} (fails : v.Fails x v') :
    v'.sock.worker = v.sock.worker := by
  obtain ⟨wfd, errnum, entry, isOpen, rfl⟩ := fails
  rfl

/-- Something of the out buffer or of the queue is handed to the kernel. -/
def Wire.Sends (x : SockId) (v v' : Wire) : Prop :=
  (v.sock.isOutBufBusy = true ∨ v.sock.msgBufferQueue ≠ []) ∧
    ∃ sock, SameControl v.sock sock ∧ (v' = { v with sock := sock } ∨
      v' = Wire.raise { v with sock := sock } x .sent kNetSockEventTypeSent (.sock x))

/-- What a transfer leaves alone. -/
structure Wire.Kept (v v' : Wire) : Prop where
  worker : v'.sock.worker = v.sock.worker
  state : v'.sock.state = v.sock.state
  s : v'.sock.s = v.sock.s
  wfd : v'.sock.wfd = v.sock.wfd
  task : v'.sock.task = v.sock.task
  entry : v'.entry = v.entry
  isOpen : v'.isOpen = v.isOpen
  tasks : v'.tasks = v.tasks
  established : v'.sock.event .established = v.sock.event .established
  events : ∀ event ∈ v.sock.ctx.events, event ∈ v'.sock.ctx.events

theorem Wire.Sends.kept {x : SockId} {v v' : Wire} (sends : v.Sends x v') : v.Kept v' := by
  obtain ⟨_, sock, same, rfl | rfl⟩ := sends
  · refine ⟨same.worker, same.state, same.s, same.wfd, same.task, rfl, rfl, rfl, ?_, ?_⟩
    · exact congrFun same.event .established
    · rw [same.ctx]
      exact fun _ => id
  · refine ⟨same.worker, same.state, same.s, same.wfd, same.task, rfl, rfl, rfl, ?_, ?_⟩
    · simp [Wire.raise, same.event]
    · intro event member
      rw [← same.ctx] at member
      rw [Wire.raise]
      dsimp only
      split_ifs
      · exact member
      · exact List.mem_append_left _ member

section Cells

variable {w w' : World} {x : SockId} {sys : Sys}

/-- The end of every path that gives a descriptor up. -/
theorem World.wire_fails {v : Wire} (sock : ∃ wfd errnum state,
      w.sock x = { v.sock with wfd := wfd, errnum := errnum, state := state })
    (tasks : (w.worker v.sock.worker).tasks = v.tasks) (freed : w.freed = v.freed) :
    Wire.Fails x v ((((w.setS x (-1)).setState x .done).raise x .error kNetSockEventTypeError
      (.sock x)).wire x) := by
  obtain ⟨wfd, errnum, state, sock⟩ := sock
  have worker : ((w.setS x (-1)).sock x).worker = v.sock.worker := by
    rw [World.sock_setS_self, sock]
  refine ⟨wfd, errnum, ((w.setS x (-1)).wire x).entry, ((w.setS x (-1)).wire x).isOpen, ?_⟩
  rw [World.wire_raise, World.wire_setState]
  congr 1
  apply Wire.ext
  · simp [World.wire, Wire.modify, sock]
  · rfl
  · rfl
  · change ((w.setS x (-1)).worker ((w.setS x (-1)).sock x).worker).tasks = v.tasks
    rw [worker]
    exact tasks
  · exact freed

theorem World.tasks_close (fd : Fd) (k : WorkerId) :
    ((w.close fd).worker k).tasks = (w.worker k).tasks := rfl

theorem closeAndFail_wire (done : closeAndFail x sys w = .ok w') :
    (w.wire x).Fails x (w'.wire x) := by
  obtain ⟨closed, closing, returned⟩ := bind_eq_ok.mp done
  cases returned
  have kept : closed.sock x = w.sock x ∧
      (closed.worker (w.sock x).worker).tasks = (w.worker (w.sock x).worker).tasks ∧
      closed.freed = w.freed := by
    simp only [World.netCloseFd] at closing
    split_ifs at closing <;> cases closing <;> exact ⟨rfl, rfl, rfl⟩
  obtain ⟨sock, tasks, freed⟩ := kept
  exact World.wire_fails ⟨_, _, _, sock⟩ tasks freed

/-- `RmFd` changes nothing but the poller. -/
theorem World.rmFd_sock (removed : w.rmFd x = .ok w') :
    w'.sock x = w.sock x ∧
      (∀ k, (w'.worker k).tasks = (w.worker k).tasks) ∧ w'.freed = w.freed := by
  obtain ⟨poller, removing, returned⟩ := bind_eq_ok.mp removed
  cases returned
  refine ⟨by simp [World.setHandle], fun k => ?_, rfl⟩
  by_cases own : k = (w.sock x).worker
  · subst own
    simp [World.setHandle]
  · simp [World.setHandle, own]

theorem removeAndFail_wire (done : removeAndFail x sys w = .ok w') :
    (w.wire x).Fails x (w'.wire x) := by
  obtain ⟨removed, removing, failing⟩ := bind_eq_ok.mp done
  obtain ⟨sock, tasks, freed⟩ := World.rmFd_sock removing
  obtain ⟨wfd, errnum, entry, isOpen, result⟩ := closeAndFail_wire failing
  refine ⟨wfd, errnum, entry, isOpen, result.trans ?_⟩
  congr 1
  apply Wire.ext
  · simp [World.wire, sock]
  · rfl
  · rfl
  · change (removed.worker (removed.sock x).worker).tasks = _
    rw [sock, tasks]
    rfl
  · exact freed

theorem connectingFdOut_wire (done : connectingFdOut x sys w = .ok w') :
    w'.wire x = ((((w.wire x).resetOut x).modify ({ · with state := .active })).raise x
        .established kNetSockEventTypeConnected (.sock x)) ∨
      (w.wire x).Fails x (w'.wire x) := by
  obtain ⟨reset, resetting, rest⟩ := bind_eq_ok.mp done
  have begun := World.wire_resetOut resetting
  dsimp only at rest
  split_ifs at rest
  · cases rest
    refine .inl ?_
    rw [World.wire_raise, World.wire_logCalls, World.wire_setState, begun]
  · obtain ⟨removed, removing, closing⟩ := bind_eq_ok.mp rest
    split_ifs at closing
    cases closing
    obtain ⟨sock, tasks, freed⟩ := World.rmFd_sock removing
    obtain ⟨wfd, entry, stored⟩ := (w.wire x).resetOut_store x
    rw [stored] at begun
    have members : reset.sock x = { w.sock x with wfd := wfd } := congrArg Wire.sock begun
    have queue : (reset.worker (reset.sock x).worker).tasks = (w.wire x).tasks :=
      congrArg Wire.tasks begun
    rw [members] at queue
    have unfreed : reset.freed = w.freed := congrArg Wire.freed begun
    refine .inr (World.wire_fails ⟨wfd, sys.soError, .active, ?_⟩ ?_ (freed.trans unfreed))
    · change removed.sock x = _
      rw [sock]
      simp [members, World.wire]
    · change (removed.worker (w.sock x).worker).tasks = _
      rw [tasks]
      exact queue

theorem activeFdOutBusy_wire (done : activeFdOutBusy x sys w = .ok w') :
    ∃ sock, SameControl (w.sock x) sock ∧ (w'.wire x = { w.wire x with sock := sock } ∨
      w'.wire x = Wire.raise { w.wire x with sock := sock } x .sent kNetSockEventTypeSent
        (.sock x)) := by
  have same := sendRaw_sameControl sys.writeHeader sys.writePayload (w.sock x) w.memory
  generalize transferring : (w.sock x).sendRaw sys.writeHeader sys.writePayload w.memory =
    transfer at same
  have sent : (w.applyTransfer x transfer).wire x = { w.wire x with sock := transfer.sock } := by
    rw [World.applyTransfer, World.wire_logCalls, World.wire_setMemory,
      World.wire_modify _ _ same.worker same.s]
    rfl
  simp only [activeFdOutBusy, transferring] at done
  split_ifs at done <;> cases done
  · refine ⟨_, same.trans (SameControl.busy _ false), .inr ?_⟩
    rw [World.wire_raise, World.wire_modify _ _ rfl rfl, sent]
    rfl
  · exact ⟨_, same, .inl sent⟩
  · exact ⟨_, same, .inl sent⟩

theorem activeFdOut_wire (done : activeFdOut x sys w = .ok w') :
    (w.wire x).Sends x (w'.wire x) ∨
      (w.sock x).isOutBufBusy = false ∧ (w.sock x).msgBufferQueue = [] ∧
        w'.wire x = (w.wire x).resetOut x := by
  simp only [activeFdOut] at done
  split_ifs at done with busy
  · exact .inl ⟨.inl busy, activeFdOutBusy_wire done⟩
  · rw [Bool.not_eq_true] at busy
    split at done
    next sock dequeued =>
      have same := (dequeue_sameControl dequeued).trans (SameControl.busy sock true)
      obtain ⟨sent, control, result⟩ := activeFdOutBusy_wire done
      rw [World.wire_modify _ _ same.worker same.s, World.sock_modify_self] at *
      refine .inl ⟨.inr fun empty => ?_, sent, same.trans control, result⟩
      change (w.sock x).msgBufferQueue = [] at empty
      simp only [NetSocket.dequeueNetMsgToBuf, empty] at dequeued
      cases dequeued
    next dequeued =>
      refine .inr ⟨busy, ?_, World.wire_resetOut done⟩
      simp only [NetSocket.dequeueNetMsgToBuf] at dequeued
      split at dequeued
      next empty => exact empty
      next => cases dequeued

end Cells

end Klibmsg
