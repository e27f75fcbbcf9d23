import Klibmsg.Device.Steps
import Klibmsg.Runtime

/-!
# A device and its worker threads

The device is the owner of its sockets: it is fed their events, and it reacts to them with calls of
its own.  Its users call `SendData` and `ReadData`, and operations of its sockets.  Whatever they
do, the tables stay consistent and a shutdown event names a socket of the device.
-/

namespace Klibmsg

open StepSystem

instance (w : World) (x : SockId) : Decidable (w.Known x) := inferInstanceAs (Decidable (_ ∨ _))

/-- What the users of a device call. -/
inductive DeviceCall where
  | socket (op : SocketCall)
  | sendData (srcToken dstToken : Token)
  | readData (srcToken dstToken : Token) (callback : Callback)
deriving DecidableEq, Repr

/-- The call, on sockets of the device. -/
def DeviceCall.run (sys : Sys) : DeviceCall → Action
  | socket op => fun w =>
      if ∀ x ∈ op.sockets, w.Known x then op.run sys w else .error .nullPointer
  | sendData srcToken dstToken => fun w => (·.2) <$> Klibmsg.sendData sys srcToken dstToken w
  | readData srcToken dstToken callback => Klibmsg.readData sys srcToken dstToken callback

/-- The device as the owner of its sockets. -/
def deviceOwner : Owner DeviceCall where
  call := DeviceCall.run
  react := netDeviceFsmHandler

section Calls

variable {w w' : World} {sys : Sys}

theorem sendMsg_steps {msg : NetMsg} (tables : w.Tables) (done : sendMsg sys msg w = .ok w') :
    DeviceSteps w w' := by
  obtain ⟨x, sending⟩ := sendMsg_to done
  exact (sendMsgTo_steps tables sending).1

theorem sendData_steps {srcToken dstToken : Token} {rc : Int} (tables : w.Tables)
    (done : sendData sys srcToken dstToken w = .ok (rc, w')) : DeviceSteps w w' := by
  simp only [sendData] at done
  split_ifs at done
  · cases done
    exact .refl w
  · cases done
    exact .refl w
  · obtain ⟨sent, sending, returned⟩ := bind_eq_ok.mp done
    cases returned
    exact sendMsg_steps tables sending

theorem readData_steps {srcToken dstToken : Token} {callback : Callback} (tables : w.Tables)
    (done : readData sys srcToken dstToken callback w = .ok w') : DeviceSteps w w' := by
  have stored : DeviceStep w (w.modifyDevice (·.emplaceCallback srcToken callback)) :=
    .emplaceCallback w srcToken callback
  exact (Relation.ReflTransGen.single stored).trans (sendMsg_steps (stored.tables tables) done)

theorem parseNetMsg_steps {msg : NetMsg} (tables : w.Tables)
    (done : parseNetMsg sys msg w = .ok w') : DeviceSteps w w' := by
  simp only [parseNetMsg] at done
  split_ifs at done
  · exact sendMsg_steps tables done
  · split at done
    next callback _ =>
      cases done
      exact Relation.ReflTransGen.single (.finishRead w msg.dst callback)
    next =>
      cases done
      exact .refl w

theorem pairListenSocket_steps (done : pairListenSocket sys w = .ok w') : DeviceSteps w w' := by
  have created : DeviceStep w (w.createSocket ⟨0, 0, 0⟩).2 := .createSocket w _
  exact (Relation.ReflTransGen.single created).trans (SocketSteps.device (accept_steps done))

/-- The reaction of the device to an event. -/
theorem netDeviceFsmHandler_steps {payload : Payload} (tables : w.Tables)
    (shutdown : payload.type = kNetSockEventTypeShutdown →
      ∃ x, payload.srcptr = .sock x ∧ w.Known x)
    (done : netDeviceFsmHandler sys payload w = .ok w') : DeviceSteps w w' := by
  simp only [netDeviceFsmHandler] at done
  split_ifs at done with _ isSocket connected received error acceptError accepted isShutdown
  · split at done
    next x _ =>
      split_ifs at done
      cases done
      exact SocketSteps.device ((SocketSteps.refl w).execute)
    next => cases done
  · split at done
    next msg _ => exact parseNetMsg_steps tables done
    next => cases done
  · split at done
    next x _ =>
      obtain ⟨activated, activating, pairing⟩ := bind_eq_ok.mp done
      have active : SocketSteps ⟨w.Known, True⟩ w (activated.execute ⟨x, .recv⟩) :=
        SocketSteps.execute (activate_steps activating)
      exact active.device.trans (pairListenSocket_steps pairing)
    next => cases done
  · obtain ⟨x, pointer, known⟩ := shutdown isShutdown
    rw [pointer] at done
    have deleted : w.deleteSocket x = .ok w' := done
    have owned : x ∈ w.device.sockSets := by
      refine known.resolve_right fun isListener => ?_
      simp [World.deleteSocket, isListener] at deleted
    exact Relation.ReflTransGen.single (.deleteSocket owned deleted)
  · cases done
    exact .refl w
  · cases done
    exact .refl w

theorem DeviceCall.run_steps {op : DeviceCall} (tables : w.Tables)
    (done : op.run sys w = .ok w') : DeviceSteps w w' := by
  cases op with
  | socket op =>
      simp only [DeviceCall.run] at done
      split_ifs at done with known
      exact SocketSteps.device (SocketCall.run_steps known done)
  | sendData srcToken dstToken =>
      obtain ⟨⟨rc, sent⟩, sending, returned⟩ := map_eq_ok.mp done
      cases returned
      exact sendData_steps tables sending
  | readData srcToken dstToken callback => exact readData_steps tables done

end Calls

/-! ## Shutdown events -/

/-- A shutdown that an event object carries names a socket of the device. -/
def World.ShutdownsKnown (w : World) : Prop :=
  ∀ event, (w.eventAt event).payload.type = kNetSockEventTypeShutdown →
    ∃ x, (w.eventAt event).payload.srcptr = .sock x ∧ w.Known x

namespace World.ShutdownsKnown

variable {w w' : World}

/-- Steps that store no shutdown. -/
theorem of_payloads (shutdowns : w.ShutdownsKnown) (grows : DeviceGrows w w')
    (payload : ∀ event, (w'.eventAt event).payload = (w.eventAt event).payload ∨
      (w'.eventAt event).payload.type ≠ kNetSockEventTypeShutdown) : w'.ShutdownsKnown := by
  intro event isShutdown
  obtain same | other := payload event
  · rw [same] at isShutdown ⊢
    obtain ⟨x, pointer, known⟩ := shutdowns event isShutdown
    exact ⟨x, pointer, grows.known known⟩
  · exact absurd isShutdown other

theorem step (shutdowns : w.ShutdownsKnown) (step : DeviceStep w w') : w'.ShutdownsKnown := by
  have grows := step.grows
  cases step with
  | socket step =>
      obtain same | ⟨x, name, type, srcptr, entitled, rfl⟩ |
          ⟨x, dst, name, src, type, srcptr, ordinary, rfl⟩ := step.quiet_or_raised
      · refine shutdowns.of_payloads grows fun event => .inl ?_
        exact congrArg NetFsmEvent.payload
          (congrFun (congrFun (congrArg EventView.event same.view_eq) event.sock) event.name)
      · intro event isShutdown
        rw [eventAt_raise] at isShutdown ⊢
        split at isShutdown
        next here =>
          obtain ⟨rfl, known⟩ := entitled isShutdown
          rw [if_pos here]
          exact ⟨x, by simp [raisedPayload], grows.known known⟩
        next elsewhere =>
          rw [if_neg elsewhere]
          obtain ⟨y, pointer, known⟩ := shutdowns event isShutdown
          exact ⟨y, pointer, grows.known known⟩
      · refine shutdowns.of_payloads grows fun event => ?_
        rw [eventAt_raiseTo]
        split
        · exact .inr ordinary
        · exact .inl rfl
  | createSocket addr =>
      refine shutdowns.of_payloads grows fun event => ?_
      by_cases fresh : event.sock = w.nextSock
      · right
        simp [eventAt, fresh, createSocket, newNetSocket, socketInit, chooseWorker,
          NetSocket.initialised, NetFsmEvent.init, Payload.cleared, kNetSockEventTypeShutdown]
      · left
        simp [eventAt, fresh, createSocket, newNetSocket, socketInit, chooseWorker]
  | emplaceSock token x address known => exact shutdowns.of_payloads grows fun _ => .inl rfl
  | emplaceCallback token callback => exact shutdowns.of_payloads grows fun _ => .inl rfl
  | finishRead token callback =>
      obtain ⟨token2callback, cq, trace, others⟩ := finishRead_others w token callback
      rw [others] at grows ⊢
      exact shutdowns.of_payloads grows fun _ => .inl rfl
  | deleteSocket known deleted =>
      simp only [World.deleteSocket] at deleted
      split_ifs at deleted
      cases deleted
      exact shutdowns.of_payloads grows fun _ => .inl rfl

theorem steps (shutdowns : w.ShutdownsKnown) (steps : DeviceSteps w w') : w'.ShutdownsKnown := by
  induction steps with
  | refl => exact shutdowns
  | tail _ step ih => exact ih.step step

end World.ShutdownsKnown

/-! ## Runs -/

/-- The tables are consistent and shutdown events name sockets of the device. -/
structure World.Consistent (w : World) : Prop where
  tables : w.Tables
  shutdowns : w.ShutdownsKnown

namespace World.Consistent

variable {w w' : World}

theorem steps (consistent : w.Consistent) (steps : DeviceSteps w w') :
    w'.Consistent ∧ DeviceGrows w w' :=
  have moved := steps.tables_grows consistent.tables
  ⟨⟨moved.1, consistent.shutdowns.steps steps⟩, moved.2⟩

theorem shuffled (consistent : w.Consistent) (shuffled : Shuffled w w') :
    w'.Consistent ∧ DeviceGrows w w' := by
  have device := shuffled.device_eq
  have grows : DeviceGrows w w' := by
    refine ⟨?_, ?_, ?_, ?_, ?_, ?_⟩
    iterate 4 rw [device]
    · exact fun member => device ▸ member
    · exact fun freed => .inl (shuffled.freed_eq ▸ freed)
  refine ⟨⟨?_, ?_⟩, grows⟩
  · exact consistent.tables.of_same (by rw [device]) (by rw [device]) (by rw [device])
      shuffled.nextSock_eq shuffled.ipAddr_eq
  · exact consistent.shutdowns.of_payloads grows fun event => .inl (shuffled.payload_eq event)

/-- Clearing the fields of an event. -/
theorem takeEvent (consistent : w.Consistent) (event : EventId) :
    (w.takeEvent event).Consistent ∧ DeviceGrows w (w.takeEvent event) := by
  have grows : DeviceGrows w (w.takeEvent event) := ⟨rfl, rfl, rfl, rfl, id, .inl⟩
  refine ⟨⟨?_, ?_⟩, grows⟩
  · refine consistent.tables.of_same rfl rfl rfl rfl fun x => ?_
    exact (SameDevice.setEvent (w.log _) event _).ipAddr_eq x
  · refine consistent.shutdowns.of_payloads grows fun other => ?_
    rw [World.takeEvent, eventAt_setEvent]
    split
    · exact .inr (by simp [Payload.cleared, kNetSockEventTypeShutdown])
    · exact .inl rfl

theorem process (consistent : w.Consistent) {sys : Sys} {event : EventId}
    (done : deviceOwner.process sys event w = .ok w') : w'.Consistent ∧ DeviceGrows w w' := by
  simp only [Owner.process] at done
  split_ifs at done
  split at done
  next => cases done
  next =>
    obtain ⟨taken, first⟩ := consistent.takeEvent event
    have reacted := netDeviceFsmHandler_steps taken.tables (consistent.shutdowns event) done
    obtain ⟨after, second⟩ := taken.steps reacted
    exact ⟨after, first.trans second⟩

theorem runtimeStep {r r' : Runtime} {label : RuntimeLabel DeviceCall}
    (consistent : r.world.Consistent)
    (step : RuntimeStep deviceOwner r label r') :
    r'.world.Consistent ∧ DeviceGrows r.world r'.world := by
  obtain shuffled | ⟨sys, op, called⟩ | ⟨sys, body, ran⟩ | ⟨sys, event, processed⟩ :=
    step.world_cases
  · exact consistent.shuffled shuffled
  · exact consistent.steps (DeviceCall.run_steps consistent.tables called)
  · cases body with
    | task task => exact consistent.steps (SocketSteps.device (feedTask_steps ran))
    | fd x pevent => exact consistent.steps (SocketSteps.device (feedFd_steps ran))
    | event event => exact consistent.process ran
  · exact consistent.process processed

end World.Consistent

/-- What a run of the device keeps. -/
theorem run_consistent {r r' : Runtime} {labels : List (RuntimeLabel DeviceCall)}
    (consistent : r.world.Consistent) (execution : deviceOwner.system.run r labels = some r') :
    r'.world.Consistent ∧ World.DeviceGrows r.world r'.world := by
  have preserved (before : Runtime) (label : RuntimeLabel DeviceCall) (after : Runtime)
      (kept : before.world.Consistent ∧ World.DeviceGrows r.world before.world)
      (stepped : deviceOwner.system.step before label = some after) :
      after.world.Consistent ∧ World.DeviceGrows r.world after.world := by
    obtain ⟨next, grows⟩ := kept.1.runtimeStep (Owner.step_runtimeStep stepped)
    exact ⟨next, kept.2.trans grows⟩
  exact run_invariant preserved ⟨consistent, .refl _⟩ execution

/-! ## Initialisation -/

/-- A process in which no device has been initialised. -/
structure World.Blank (w : World) : Prop where
  event : ∀ event, (w.eventAt event).payload = .cleared
  token2sock : w.device.token2sock = []
  sockSets : w.device.sockSets = []
  freed : w.freed = []

/-- A device right after `Init`, with the functions that were given to it. -/
structure Runtime.DeviceReady (r : Runtime) (token2Dptr : Token → Address)
    (token2DptrSize : Token → BitVec 64) (token2Ip : Token → SockAddr) : Prop where
  thread : ∀ k, r.thread k = ⟨[], []⟩
  initialised : ∃ (blank : World) (sys : Sys), blank.Blank ∧
    deviceInit sys token2Dptr token2DptrSize token2Ip blank = .ok r.world

/-- Initialising the listening socket of a blank process. -/
theorem World.Blank.socketInit {w : World} (blank : w.Blank) (x : SockId) (src : Int)
    (addr : SockAddr) : (w.socketInit x src addr).Consistent := by
  refine ⟨⟨fun {token y} member => ?_, fun {y} member => ?_⟩, fun event isShutdown => ?_⟩
  · have none : (token, y) ∈ w.device.token2sock := member
    simp [blank.token2sock] at none
  · have none : y ∈ w.device.sockSets := member
    simp [blank.sockSets] at none
  · have cleared : ((w.socketInit x src addr).eventAt event).payload = .cleared := by
      by_cases here : event.sock = x
      · simp [eventAt, here, World.socketInit, chooseWorker, NetSocket.initialised,
          NetFsmEvent.init]
      · simpa [eventAt, here, World.socketInit, chooseWorker] using blank.event event
    rw [cleared] at isShutdown
    exact absurd isShutdown (by decide)

theorem Runtime.DeviceReady.consistent {r : Runtime} {token2Dptr : Token → Address}
    {token2DptrSize : Token → BitVec 64} {token2Ip : Token → SockAddr}
    (ready : r.DeviceReady token2Dptr token2DptrSize token2Ip) :
    r.world.Consistent ∧ r.world.device.token2Ip = token2Ip := by
  obtain ⟨blank, sys, isBlank, done⟩ := ready.initialised
  obtain ⟨⟨rc, started⟩, starting, rest⟩ := bind_eq_ok.mp done
  obtain ⟨⟨rc', bound⟩, binding, rest⟩ := bind_eq_ok.mp rest
  obtain ⟨⟨rc'', listening⟩, listen, pairing⟩ := bind_eq_ok.mp rest
  have configured : (blank.modifyDevice fun device =>
      { device with
        token2Dptr := token2Dptr, token2DptrSize := token2DptrSize,
        token2Ip := token2Ip }).Blank :=
    ⟨isBlank.event, isBlank.token2sock, isBlank.sockSets, isBlank.freed⟩
  obtain ⟨consistent, grows⟩ := (configured.socketInit _ _ _).steps
    ((SocketSteps.device (((start_steps starting).trans (bind_steps binding)).trans
      (listen_steps listen))).trans (pairListenSocket_steps pairing))
  exact ⟨consistent, grows.token2Ip_eq⟩

/-- A device right after `Init` in a process that has done nothing before. -/
def Runtime.initialised (token2Dptr : Token → Address) (token2DptrSize : Token → BitVec 64)
    (token2Ip : Token → SockAddr) : Runtime where
  world :=
    match deviceInit { socket := .fd 3 } token2Dptr token2DptrSize token2Ip default with
    | .ok w => w
    | .error _ => default
  thread _ := ⟨[], []⟩

theorem Runtime.initialised_ready {token2Dptr : Token → Address}
    {token2DptrSize : Token → BitVec 64} {token2Ip : Token → SockAddr}
    (succeeds : (deviceInit { socket := .fd 3 } token2Dptr token2DptrSize token2Ip
      default).isOk = true) :
    (Runtime.initialised token2Dptr token2DptrSize token2Ip).DeviceReady token2Dptr token2DptrSize
      token2Ip where
  thread _ := rfl
  initialised := by
    refine ⟨default, { socket := .fd 3 }, ⟨fun _ => rfl, rfl, rfl, rfl⟩, ?_⟩
    rw [Runtime.initialised]
    split
    next done => exact done
    next fault failed =>
      rw [failed] at succeeds
      cases succeeds

end Klibmsg
