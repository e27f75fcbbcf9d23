import Klibmsg.Device.Process
import Klibmsg.Socket.Decision
import Klibmsg.Socket.Descriptors

/-!
# Senders, their worker and `Connect`

Threads that call `AsyncSendMsg` on an outbound socket run in step with the thread that connects it
and with its worker.  `AsyncSendMsg` takes two steps, and `Connect` takes one for each of its
assignments and calls.  The rest of the process may do anything that leaves the socket alone.
-/

namespace Klibmsg

/-! ## `Connect`, step by step -/

/-- Where the thread that connects a socket is. -/
inductive ConnectPoint where
  | before
  /-- The socket has been fed `Connect`. -/
  | entered
  /-- `connect()` has returned 0 and the socket is `Active`. -/
  | activated
  /-- `task_connected` has been queued. -/
  | executed
  | returned
deriving DecidableEq, Repr

/-- The next step of `Connect`. -/
def ConnectPoint.step (sys : Sys) (x : SockId) (w : World) :
    ConnectPoint → Option (ConnectPoint × World)
  | before => (fsmAction sys x kNetSockActionConnect w).toOption.map (entered, ·)
  | entered =>
      let w := w.logCalls [.connect (w.sock x).s]
      if sys.connect = 0 then
        if (w.sock x).state = .connecting then
          some (activated, w.setState x .active)
        else
          (fsmAction sys x kNetSockActionDone w).toOption.map (returned, ·)
      else if sys.connect ≠ EINPROGRESS then
        (fsmAction sys x kNetSockActionError (w.setErrnum x sys.connect)).toOption.map (returned, ·)
      else
        some (returned, w.execute ⟨x, .connecting⟩)
  | activated => some (executed, w.execute ⟨x, .connected⟩)
  | executed => some (returned, w.raise x .established kNetSockEventTypeConnected (.sock x))
  | returned => none

/-- `Connect` on its own. -/
def connectSystem (x : SockId) : StepSystem (ConnectPoint × World) Sys where
  step state sys := state.1.step sys x state.2

/-- Without interference the steps make up `Connect`. -/
theorem connectSystem_run {x : SockId} {w : World} (startable : Startable x w) (sys : Sys) :
    (connectSystem x).run (.before, w) (.replicate (if sys.connect = 0 then 4 else 2) sys) =
      (connect sys x w).toOption.map (.returned, ·) := by
  obtain ⟨entering, calls⟩ := startable.connect_eq sys
  have held := startable.dialled
  have running : (w.sock x).fsm.state ≠ .stopping := by
    rw [startable.fsm]
    decide
  have entered : ConnectPoint.step sys x w .before = some (.entered, w.setState x .connecting) := by
    rw [ConnectPoint.step, entering]
    rfl
  have connecting : ((w.dialled x).sock x).state = .connecting := by simp [World.dialled]
  have dialled : ConnectPoint.step sys x (w.setState x .connecting) .entered =
      if sys.connect = 0 then some (.activated, (w.dialled x).setState x .active)
      else if sys.connect ≠ EINPROGRESS then
        (closeAndFail x sys ((w.dialled x).setErrnum x sys.connect)).toOption.map (.returned, ·)
      else some (.returned, (w.dialled x).execute ⟨x, .connecting⟩) := by
    change (if sys.connect = 0 then
      if ((w.dialled x).sock x).state = .connecting then
        some (ConnectPoint.activated, (w.dialled x).setState x .active)
      else (fsmAction sys x kNetSockActionDone (w.dialled x)).toOption.map (.returned, ·)
      else if sys.connect ≠ EINPROGRESS then
        (fsmAction sys x kNetSockActionError
          ((w.dialled x).setErrnum x sys.connect)).toOption.map (.returned, ·)
      else some (.returned, (w.dialled x).execute ⟨x, .connecting⟩)) = _
    have failing : fsmAction sys x kNetSockActionError ((w.dialled x).setErrnum x sys.connect) =
        closeAndFail x sys ((w.dialled x).setErrnum x sys.connect) := by
      have alive : x ∉ ((w.dialled x).setErrnum x sys.connect).freed := startable.alive
      rw [fsmAction_eq (by decide) alive (by simpa [World.dialled] using running),
        World.sock_setErrnum_self, connecting]
      rfl
    rw [if_pos connecting, failing]
  rw [calls]
  split_ifs with succeeds refused
  · rw [if_pos succeeds] at dialled
    simp only [StepSystem.run, connectSystem, List.replicate, entered, dialled, Option.bind_eq_bind,
      Option.bind_some]
    rfl
  · rw [if_neg succeeds, if_pos refused] at dialled
    simp only [StepSystem.run, connectSystem, List.replicate, entered, dialled, Option.bind_eq_bind,
      Option.bind_some, Option.bind_fun_some]
  · rw [if_neg succeeds, if_neg refused] at dialled
    simp only [StepSystem.run, connectSystem, List.replicate, entered, dialled, Option.bind_eq_bind,
      Option.bind_some]
    rfl

/-! ## The system -/

/-- A device with an outbound socket. -/
structure Sending where
  runtime : Runtime
  point : ConnectPoint
  /-- How many calls of `AsyncSendMsg` are between their push and their `Execute`. -/
  callers : Nat

/-- A step of a thread that uses the socket, of the worker of the socket, or of the rest of the
process. -/
inductive SendingLabel where
  | start (sys : Sys)
  | connect (sys : Sys)
  | pushMsg (msg : NetMsg)
  | executeSend
  | poll (k : WorkerId) (pevent : FdEvent)
  | snapshot (k : WorkerId)
  | pop (k : WorkerId)
  | advance (k : WorkerId) (sys : Sys)
  | elsewhere (r : Runtime)

namespace Sending

variable (s : Sending) (x : SockId)

def world : World := s.runtime.world

def setWorld (w : World) : Sending := { s with runtime := { s.runtime with world := w } }

/-- The worker of the socket. -/
def worker : WorkerId := (s.world.sock x).worker

/-- A step of the worker. -/
def work (k : WorkerId) (label : RuntimeLabel DeviceCall) : Option Sending :=
  if k = s.worker x then
    (deviceOwner.step s.runtime label).map fun r => { s with runtime := r }
  else
    none

def step : SendingLabel → Option Sending
  | .start sys => (start sys x s.world).toOption.map fun started => s.setWorld started.2
  | .connect sys =>
      (s.point.step sys x s.world).map fun next => { s.setWorld next.2 with point := next.1 }
  | .pushMsg msg => some { s.setWorld (s.world.pushMsg x msg) with callers := s.callers + 1 }
  | .executeSend =>
      if 0 < s.callers then
        some { s.setWorld (s.world.execute ⟨x, .send⟩) with callers := s.callers - 1 }
      else
        none
  | .poll k pevent => s.work x k (.poll k x pevent)
  | .snapshot k => s.work x k (.snapshot k)
  | .pop k => s.work x k (.pop k)
  | .advance k sys => s.work x k (.advance k sys)
  | .elsewhere r => some { s with runtime := r }

end Sending

/-- The runs of a device with an outbound socket. -/
def sendingSystem (x : SockId) : StepSystem Sending SendingLabel where
  step s := s.step x

/-! ## What is claimed of it -/

/-- An event that a registration asks for. -/
def FdEvent.In (mask : BitVec 32) : FdEvent → Prop
  | fdIn => mask &&& EPOLLIN ≠ 0
  | fdOut => mask &&& EPOLLOUT ≠ 0
  | fdErr => True

/-- The frame is part of a critical section of the socket, or leads to one. -/
def Frame.Concerns (x : SockId) : Frame → Prop
  | enter (.task task) => task.sock = x
  | enter (.fd y _) => y = x
  | enter (.event event) => event.sock = x
  | drain ctx => ctx = x
  | process ctx _ => ctx = x
  | external events => ∃ event ∈ events, event.sock = x

namespace Sending

variable (s : Sending) (x : SockId)

/-- The frames of the worker. -/
def frames : List Frame := (s.runtime.thread (s.worker x)).frames

/-- The tasks of the socket that its worker has taken over or that are queued, in order. -/
def waits : List TaskId :=
  ((s.runtime.thread (s.worker x)).tasks ++ (s.world.worker (s.worker x)).tasks).filter
    (·.sock = x)

/-- The registration of the socket's descriptor. -/
def registration : Option (EpollEvent Handle) :=
  (s.world.pollerOf x).interest (s.world.sock x).s

/-- Something is left to be sent. -/
def Unsent : Prop :=
  (s.world.sock x).msgBufferQueue ≠ [] ∨ (s.world.sock x).isOutBufBusy = true

/-- The poller waits for `EPOLLOUT` on the descriptor. -/
def Armed : Prop :=
  ∃ entry, s.registration x = some entry ∧ entry.data = .sock x ∧ entry.events &&& EPOLLOUT ≠ 0

/-- `task_send` is queued, or the worker has taken it over and not fed it yet. -/
def SendWaits : Prop :=
  ⟨x, .send⟩ ∈ s.waits x ∨ .enter (.task ⟨x, .send⟩) ∈ s.frames x

/-- What `Connected` carries. -/
def connectedPayload : Payload :=
  ⟨kNetDeviceSrcSocketEvent, kNetSockEventTypeConnected, .sock x⟩

/-- `Connected` is still to be delivered. -/
def Announced : Prop :=
  ⟨x, .established⟩ ∈ (s.world.sock x).ctx.events ∧
    (s.world.eventAt ⟨x, .established⟩).payload = connectedPayload x

/-- Between critical sections, once `Connect` has returned, nothing that is left to be sent waits in
vain. -/
def Wakes : Prop :=
  s.runtime.locked x = false → s.point = .returned → (s.world.sock x).state = .active →
    s.Unsent x → s.Armed x ∨ s.SendWaits x ∨ s.Announced x ∨ 0 < s.callers

/-- The worker is inside a critical section of the socket or about to enter one. -/
def Engaged : Prop := ∃ frame ∈ s.frames x, frame.Concerns x

/-- Nothing has happened since the socket was initialised by the device. -/
structure Fresh : Prop where
  socket : ∃ (memory : NetSocket) (addr : SockAddr) (worker : WorkerId),
    s.world.sock x = memory.initialised kNetDeviceSrcSocketEvent addr worker
  waits : s.waits x = []
  apart : ¬s.Engaged x
  registration : s.registration x = none
  alive : x ∉ s.world.freed
  point : s.point = .before
  callers : s.callers = 0

/-- What the operating system does: it hands out new descriptors, which are not registered, connects
no descriptor that is not open, and reports what the registration asks for.  The worker proceeds on
its own only in a critical section of the socket. -/
def Lawful : SendingLabel → Prop
  | .start sys => ∀ fd, sys.socket = .fd fd →
      0 ≤ fd ∧ s.world.fds fd = false ∧ (s.world.pollerOf x).interest fd = none
  | .connect sys =>
      s.point = .entered → (s.world.sock x).s = -1 → sys.connect ≠ 0 ∧ sys.connect ≠ EINPROGRESS
  | .poll _ pevent =>
      ∃ entry, s.registration x = some entry ∧ entry.data = .sock x ∧ pevent.In entry.events
  | .advance _ _ => s.Engaged x ∨ s.frames x = [.external []]
  | _ => True

/-- The rest of the process leaves the socket, its descriptor and its tasks alone, and the worker as
well while it is in a critical section of the socket. -/
structure LeavesAlone (r : Runtime) : Prop where
  sock : r.world.sock x = s.world.sock x
  registration : registration { s with runtime := r } x = s.registration x
  isOpen : r.world.fds (s.world.sock x).s = s.world.fds (s.world.sock x).s
  alive : x ∉ r.world.freed
  waits : waits { s with runtime := r } x = s.waits x
  frames : frames { s with runtime := r } x = s.frames x ∨
    ¬s.Engaged x ∧ ¬Engaged { s with runtime := r } x

/-- What is done elsewhere: the worker runs tasks and descriptor events of other sockets, and other
threads do as they like.  A message for the socket from there is a step of its own. -/
def Undisturbed : SendingLabel → Prop
  | .elsewhere r => s.LeavesAlone x r
  | _ => True

/-- `task_send` waits ahead of `task_connected`. -/
def SendAhead : Prop :=
  ⟨x, .connected⟩ ∈ s.waits x ∧ ⟨x, .send⟩ ∈ (s.waits x).takeWhile (· ≠ ⟨x, .connected⟩)

/-- When `Connect` raises `Connected` itself, `task_send` is not ahead of `task_connected`, or the
worker is not in a critical section of the socket. -/
def InOrder : SendingLabel → Prop
  | .connect _ => s.point = .executed → ¬(s.Engaged x ∧ s.SendAhead x)
  | _ => True

/-! ### Decidability -/

instance (mask : BitVec 32) : ∀ pevent : FdEvent, Decidable (pevent.In mask)
  | .fdIn => inferInstanceAs (Decidable (mask &&& EPOLLIN ≠ 0))
  | .fdOut => inferInstanceAs (Decidable (mask &&& EPOLLOUT ≠ 0))
  | .fdErr => isTrue trivial

instance : ∀ frame : Frame, Decidable (frame.Concerns x)
  | .enter (.task task) => inferInstanceAs (Decidable (task.sock = x))
  | .enter (.fd y _) => inferInstanceAs (Decidable (y = x))
  | .enter (.event event) => inferInstanceAs (Decidable (event.sock = x))
  | .drain ctx => inferInstanceAs (Decidable (ctx = x))
  | .process ctx _ => inferInstanceAs (Decidable (ctx = x))
  | .external events => inferInstanceAs (Decidable (∃ event ∈ events, event.sock = x))

instance : Decidable (s.Engaged x) :=
  inferInstanceAs (Decidable (∃ frame ∈ s.frames x, frame.Concerns x))

instance : Decidable (s.Unsent x) := inferInstanceAs (Decidable (_ ∨ _))

instance : Decidable (s.Armed x) :=
  inferInstanceAs (Decidable (∃ entry ∈ s.registration x,
    entry.data = .sock x ∧ entry.events &&& EPOLLOUT ≠ 0))

instance : Decidable (s.SendWaits x) := inferInstanceAs (Decidable (_ ∨ _))

instance : Decidable (s.Announced x) := inferInstanceAs (Decidable (_ ∧ _))

instance : Decidable (s.Wakes x) := inferInstanceAs (Decidable (_ → _))

instance : ∀ label, Decidable (s.Lawful x label)
  | .start sys =>
      inferInstanceAs (Decidable (∀ fd, sys.socket = .fd fd →
        0 ≤ fd ∧ s.world.fds fd = false ∧ (s.world.pollerOf x).interest fd = none))
  | .connect sys =>
      inferInstanceAs (Decidable (s.point = .entered → (s.world.sock x).s = -1 →
        sys.connect ≠ 0 ∧ sys.connect ≠ EINPROGRESS))
  | .poll _ pevent =>
      inferInstanceAs (Decidable (∃ entry ∈ s.registration x,
        entry.data = .sock x ∧ pevent.In entry.events))
  | .advance _ _ => inferInstanceAs (Decidable (s.Engaged x ∨ s.frames x = [.external []]))
  | .pushMsg _ | .executeSend | .snapshot _ | .pop _ | .elsewhere _ => isTrue trivial

instance : Decidable (s.SendAhead x) := inferInstanceAs (Decidable (_ ∧ _))

instance : ∀ label, Decidable (s.InOrder x label)
  | .connect _ =>
      inferInstanceAs (Decidable (s.point = .executed → ¬(s.Engaged x ∧ s.SendAhead x)))
  | .start _ | .pushMsg _ | .executeSend | .poll _ _ | .snapshot _ | .pop _ | .advance _ _
  | .elsewhere _ => isTrue trivial

end Sending

end Klibmsg
