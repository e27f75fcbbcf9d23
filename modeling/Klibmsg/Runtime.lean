import Klibmsg.Library.StepSystem
import Klibmsg.Library.QueueFamily
import Klibmsg.Socket.Steps
import Mathlib.Data.Fintype.Basic

/-!
# Worker threads and critical sections

`NetWorkerRoutine` feeds queued tasks and descriptor events to their owners inside
`NetCtx::ExecuteCriticalSection`, which then drains the internal events of the context and hands
the external ones over once its lock is released.  Every worker thread is a stack of frames, one for
each critical section that it has begun and not left.  Steps of the threads and calls made by other
threads interleave in any order; a call of a public operation is one step.
-/

namespace Klibmsg

/-- The events that a poller reports. -/
inductive FdEvent where
  | fdIn
  | fdOut
  | fdErr
deriving DecidableEq, Repr

/-- The type with which an event is fed to its socket. -/
def FdEvent.type : FdEvent → Int
  | fdIn => kNetWorkerFdIn
  | fdOut => kNetWorkerFdOut
  | fdErr => kNetWorkerFdErr

/-- What runs at the start of a critical section. -/
inductive Body where
  | task (task : TaskId)
  | fd (sock : SockId) (pevent : FdEvent)
  | event (event : EventId)
deriving DecidableEq, Repr

/-- Where a thread is inside `ExecuteCriticalSection`. -/
inductive Frame where
  /-- Waiting for the lock. -/
  | enter (body : Body)
  /-- Holding the lock, before the next `events_.Pop()`. -/
  | drain (ctx : SockId)
  /-- Holding the lock, with an event that was popped and not processed yet. -/
  | process (ctx : SockId) (event : EventId)
  /-- Without the lock, with a copy of the external events. -/
  | external (events : List EventId)
deriving DecidableEq, Repr

/-- The context whose lock a frame holds. -/
def Frame.holds : Frame → Option SockId
  | drain ctx => some ctx
  | process ctx _ => some ctx
  | enter _ => none
  | external _ => none

/-- A worker thread: its snapshot of `tasks_` and its frames. -/
structure Thread where
  tasks : List TaskId
  frames : List Frame
deriving DecidableEq, Repr, Inhabited

/-- The process and its worker threads. -/
structure Runtime where
  world : World
  thread : WorkerId → Thread

instance : Inhabited Runtime := ⟨default, fun _ => ⟨[], []⟩⟩

/-- The machine that owns the sockets, and the calls that its users make.  Every call is given the
answers of the operating system. -/
structure Owner (ω : Type) where
  call : Sys → ω → Action
  react : Sys → Payload → Action

/-- A step of the process. -/
inductive RuntimeLabel (ω : Type) where
  /-- A call from a thread that holds no lock. -/
  | call (sys : Sys) (op : ω)
  /-- A worker turns to a descriptor event of its poller. -/
  | poll (k : WorkerId) (x : SockId) (pevent : FdEvent)
  /-- A worker takes over its queue. -/
  | snapshot (k : WorkerId)
  /-- A worker turns to the next task of its snapshot. -/
  | pop (k : WorkerId)
  /-- A worker proceeds in its innermost critical section. -/
  | advance (k : WorkerId) (sys : Sys)

namespace Runtime

variable {ω : Type}

/-- Some thread holds the lock of the context. -/
def locked (r : Runtime) (ctx : SockId) : Bool :=
  decide (∃ k, ∃ frame ∈ (r.thread k).frames, frame.holds = some ctx)

/-- Replace the frames of a thread. -/
def setFrames (r : Runtime) (k : WorkerId) (frames : List Frame) : Runtime :=
  { r with thread := Function.update r.thread k { r.thread k with frames := frames } }

/-- Replace the snapshot of a thread. -/
def setTasks (r : Runtime) (k : WorkerId) (tasks : List TaskId) : Runtime :=
  { r with thread := Function.update r.thread k { r.thread k with tasks := tasks } }

/-- Go on with the process that an action leaves, if it does not end. -/
def apply (r : Runtime) (outcome : Except Fault World) : Option Runtime :=
  match outcome with
  | .error _ => none
  | .ok w => some { r with world := w }

end Runtime

namespace World

/-- `NetQueue::Pop` marks the item of a task as not queued. -/
def unqueueTask (w : World) (task : TaskId) : World :=
  w.modify task.sock fun sock =>
    { sock with task := Function.update sock.task task.name false }

/-- `NetQueue::Pop` marks the item of an event as not queued. -/
def unqueueEvent (w : World) (event : EventId) : World :=
  w.setEvent event fun stored => { stored with inQueue := false }

/-- The rest of `events_` after a pop. -/
def setEvents (w : World) (ctx : SockId) (events : List EventId) : World :=
  w.setCtx ctx fun queues => { queues with events := events }

/-- `eventsto_.Init()`. -/
def clearEventsto (w : World) (ctx : SockId) : World :=
  w.setCtx ctx fun queues => { queues with eventsto := [] }

/-- Take the queue of a worker. -/
def clearTasks (w : World) (k : WorkerId) : World :=
  w.modifyWorker k fun worker => { worker with tasks := [] }

/-- The fields of an event object are cleared before the owner is fed. -/
def takeEvent (w : World) (event : EventId) : World :=
  (w.log (.deliver event (w.eventAt event).payload)).setEvent event fun stored =>
    { stored with payload := .cleared }

@[simp]
theorem state_setEvent (w : World) (event : EventId) (change : NetFsmEvent → NetFsmEvent)
    (y : SockId) : ((w.setEvent event change).sock y).state = (w.sock y).state := by
  rw [setEvent, state_modify]
  rfl

@[simp]
theorem state_takeEvent (w : World) (event : EventId) (y : SockId) :
    ((w.takeEvent event).sock y).state = (w.sock y).state := by
  rw [takeEvent, state_setEvent]
  rfl

/-- A change that only moves items between queues and marks them. -/
structure Shuffled (w w' : World) : Prop where
  device_eq : w'.device = w.device
  nextSock_eq : w'.nextSock = w.nextSock
  freed_eq : w'.freed = w.freed
  trace_eq : w'.trace = w.trace
  payload_eq : ∀ event, (w'.eventAt event).payload = (w.eventAt event).payload
  ipAddr_eq : ∀ y, (w'.sock y).ipAddr = (w.sock y).ipAddr
  state_eq : ∀ y, (w'.sock y).state = (w.sock y).state

namespace Shuffled

theorem refl (w : World) : Shuffled w w :=
  ⟨rfl, rfl, rfl, rfl, fun _ => rfl, fun _ => rfl, fun _ => rfl⟩

theorem trans {w middle w' : World} (first : Shuffled w middle) (second : Shuffled middle w') :
    Shuffled w w' :=
  ⟨second.device_eq.trans first.device_eq, second.nextSock_eq.trans first.nextSock_eq,
    second.freed_eq.trans first.freed_eq, second.trace_eq.trans first.trace_eq,
    fun event => (second.payload_eq event).trans (first.payload_eq event),
    fun y => (second.ipAddr_eq y).trans (first.ipAddr_eq y),
    fun y => (second.state_eq y).trans (first.state_eq y)⟩

theorem modify (w : World) (x : SockId) (change : NetSocket → NetSocket)
    (event : ∀ name, ((change (w.sock x)).event name).payload = ((w.sock x).event name).payload)
    (ipAddr : (change (w.sock x)).ipAddr = (w.sock x).ipAddr)
    (state : (change (w.sock x)).state = (w.sock x).state) : Shuffled w (w.modify x change) := by
  refine ⟨rfl, rfl, rfl, rfl, fun other => ?_, fun y => ?_, w.state_modify x change state⟩
  · by_cases equal : other.sock = x
    · simp [eventAt, equal, event]
    · simp [eventAt, equal]
  · by_cases equal : y = x
    · subst equal
      simpa using ipAddr
    · simp [equal]

theorem setCtx (w : World) (x : SockId) (change : NetCtx → NetCtx) :
    Shuffled w (w.setCtx x change) := modify w x _ (fun _ => rfl) rfl rfl

theorem setEvents (w : World) (ctx : SockId) (events : List EventId) :
    Shuffled w (w.setEvents ctx events) := setCtx w ctx _

theorem clearEventsto (w : World) (ctx : SockId) : Shuffled w (w.clearEventsto ctx) :=
  setCtx w ctx _

theorem unqueueEvent (w : World) (event : EventId) : Shuffled w (w.unqueueEvent event) := by
  rw [World.unqueueEvent, setEvent]
  refine modify w event.sock _ (fun name => ?_) rfl rfl
  by_cases equal : name = event.name
  · subst equal
    simp
  · simp [equal]

theorem unqueueTask (w : World) (task : TaskId) : Shuffled w (w.unqueueTask task) :=
  modify w task.sock _ (fun _ => rfl) rfl rfl

theorem clearTasks (w : World) (k : WorkerId) : Shuffled w (w.clearTasks k) :=
  ⟨rfl, rfl, rfl, rfl, fun _ => rfl, fun _ => rfl, fun _ => rfl⟩

end Shuffled

end World

namespace Owner

variable {ω : Type} (owner : Owner ω)

/-- `NetFsmEvent::Process`. -/
def process (sys : Sys) (event : EventId) : Action := fun w =>
  if event.sock ∈ w.freed then
    .error .freedMemory
  else
    match (w.eventAt event).fsm with
    | none => .error .nullPointer
    | some _ => owner.react sys (w.eventAt event).payload (w.takeEvent event)

/-- The context of a critical section: the one of the machine that is fed. -/
def context (w : World) : Body → Option SockId
  | .task task => some task.sock
  | .fd x _ => some x
  | .event event => (w.eventAt event).fsm

/-- The function given to `ExecuteCriticalSection`. -/
def runBody (sys : Sys) : Body → Action
  | .task task => feed sys task.sock task.name.src kNetWorkerTaskExecute
  | .fd x pevent => feed sys x kNetSockSrcFd pevent.type
  | .event event => owner.process sys event

/-- One step of the innermost critical section of a thread. -/
def advance (r : Runtime) (k : WorkerId) (sys : Sys) : Option Runtime :=
  match (r.thread k).frames with
  | [] => none
  | .enter body :: rest =>
      match context r.world body with
      | none => none
      | some ctx =>
          if ctx ∈ r.world.freed ∨ r.locked ctx then none
          else (r.setFrames k (.drain ctx :: rest)).apply (owner.runBody sys body r.world)
  | .drain ctx :: rest =>
      if ctx ∈ r.world.freed then none
      else
        match (r.world.sock ctx).ctx.events with
        | event :: events =>
            if event.sock ∈ r.world.freed then none
            else
              some { r.setFrames k (.process ctx event :: rest) with
                world := (r.world.setEvents ctx events).unqueueEvent event }
        | [] =>
            some { r.setFrames k (.external (r.world.sock ctx).ctx.eventsto :: rest) with
              world := r.world.clearEventsto ctx }
  | .process ctx event :: rest =>
      (r.setFrames k (.drain ctx :: rest)).apply (owner.process sys event r.world)
  | .external [] :: rest => some (r.setFrames k rest)
  | .external (event :: events) :: rest =>
      if event.sock ∈ r.world.freed then none
      else
        some { r.setFrames k (.enter (.event event) :: .external events :: rest) with
          world := r.world.unqueueEvent event }

/-- One step of the process. -/
def step (r : Runtime) : RuntimeLabel ω → Option Runtime
  | .call sys op => r.apply (owner.call sys op r.world)
  | .poll k x pevent =>
      if (r.thread k).frames = [] then some (r.setFrames k [.enter (.fd x pevent)]) else none
  | .snapshot k =>
      if (r.thread k).frames = [] ∧ (r.thread k).tasks = [] then
        some { r.setTasks k (r.world.worker k).tasks with world := r.world.clearTasks k }
      else
        none
  | .pop k =>
      match (r.thread k).frames, (r.thread k).tasks with
      | [], task :: tasks =>
          if task.sock ∈ r.world.freed then none
          else
            some { (r.setTasks k tasks).setFrames k [.enter (.task task)] with
              world := r.world.unqueueTask task }
      | _, _ => none
  | .advance k sys => owner.advance r k sys

/-- The runs of the process. -/
def system : StepSystem Runtime (RuntimeLabel ω) where
  step := owner.step

end Owner

/-- What one step of the process can do. -/
inductive RuntimeStep {ω : Type} (owner : Owner ω) (r : Runtime) :
    RuntimeLabel ω → Runtime → Prop
  | call {sys : Sys} {op : ω} {w : World} (called : owner.call sys op r.world = .ok w) :
      RuntimeStep owner r (.call sys op) { r with world := w }
  | poll {k : WorkerId} {x : SockId} {pevent : FdEvent} (idle : (r.thread k).frames = []) :
      RuntimeStep owner r (.poll k x pevent) (r.setFrames k [.enter (.fd x pevent)])
  | snapshot {k : WorkerId} (idle : (r.thread k).frames = []) (empty : (r.thread k).tasks = []) :
      RuntimeStep owner r (.snapshot k)
        { r.setTasks k (r.world.worker k).tasks with world := r.world.clearTasks k }
  | pop {k : WorkerId} {task : TaskId} {tasks : List TaskId} (idle : (r.thread k).frames = [])
      (front : (r.thread k).tasks = task :: tasks) :
      RuntimeStep owner r (.pop k)
        { (r.setTasks k tasks).setFrames k [.enter (.task task)] with
          world := r.world.unqueueTask task }
  | enter {k : WorkerId} {sys : Sys} {body : Body} {ctx : SockId} {rest : List Frame} {w : World}
      (top : (r.thread k).frames = .enter body :: rest)
      (context : Owner.context r.world body = some ctx) (free : r.locked ctx = false)
      (ran : owner.runBody sys body r.world = .ok w) :
      RuntimeStep owner r (.advance k sys)
        { r.setFrames k (.drain ctx :: rest) with world := w }
  | popEvent {k : WorkerId} {sys : Sys} {ctx : SockId} {rest : List Frame} {event : EventId}
      {events : List EventId} (top : (r.thread k).frames = .drain ctx :: rest)
      (front : (r.world.sock ctx).ctx.events = event :: events) :
      RuntimeStep owner r (.advance k sys)
        { r.setFrames k (.process ctx event :: rest) with
          world := (r.world.setEvents ctx events).unqueueEvent event }
  | leave {k : WorkerId} {sys : Sys} {ctx : SockId} {rest : List Frame}
      (top : (r.thread k).frames = .drain ctx :: rest)
      (drained : (r.world.sock ctx).ctx.events = []) :
      RuntimeStep owner r (.advance k sys)
        { r.setFrames k (.external (r.world.sock ctx).ctx.eventsto :: rest) with
          world := r.world.clearEventsto ctx }
  | process {k : WorkerId} {sys : Sys} {ctx : SockId} {event : EventId} {rest : List Frame}
      {w : World} (top : (r.thread k).frames = .process ctx event :: rest)
      (processed : owner.process sys event r.world = .ok w) :
      RuntimeStep owner r (.advance k sys)
        { r.setFrames k (.drain ctx :: rest) with world := w }
  | finish {k : WorkerId} {sys : Sys} {rest : List Frame}
      (top : (r.thread k).frames = .external [] :: rest) :
      RuntimeStep owner r (.advance k sys) (r.setFrames k rest)
  | external {k : WorkerId} {sys : Sys} {event : EventId} {events : List EventId}
      {rest : List Frame}
      (top : (r.thread k).frames = .external (event :: events) :: rest) :
      RuntimeStep owner r (.advance k sys)
        { r.setFrames k (.enter (.event event) :: .external events :: rest) with
          world := r.world.unqueueEvent event }

namespace Owner

variable {ω : Type} {owner : Owner ω}

theorem apply_eq_some {r r' : Runtime} {outcome : Except Fault World} :
    r.apply outcome = some r' ↔ ∃ w, outcome = .ok w ∧ r' = { r with world := w } := by
  cases outcome with
  | error fault => simp [Runtime.apply]
  | ok w => simp [Runtime.apply, eq_comm]

theorem advance_step {r r' : Runtime} {k : WorkerId} {sys : Sys}
    (advanced : owner.advance r k sys = some r') : RuntimeStep owner r (.advance k sys) r' := by
  simp only [advance] at advanced
  split at advanced
  next => cases advanced
  next body rest top =>
    split at advanced
    next => cases advanced
    next ctx context =>
      split_ifs at advanced with blocked
      obtain ⟨w, ran, rfl⟩ := apply_eq_some.mp advanced
      have free : r.locked ctx = false := by
        rw [not_or] at blocked
        simpa using blocked.2
      exact .enter top context free ran
  next ctx rest top =>
    split_ifs at advanced
    split at advanced
    next event events front =>
      split_ifs at advanced
      cases advanced
      exact .popEvent top front
    next drained =>
      cases advanced
      exact .leave top drained
  next ctx event rest top =>
    obtain ⟨w, processed, rfl⟩ := apply_eq_some.mp advanced
    exact .process top processed
  next rest top =>
    cases advanced
    exact .finish top
  next event events rest top =>
    split_ifs at advanced
    cases advanced
    exact .external top

theorem step_runtimeStep {r r' : Runtime} {label : RuntimeLabel ω}
    (stepped : owner.step r label = some r') : RuntimeStep owner r label r' := by
  cases label with
  | call sys op =>
      obtain ⟨w, called, rfl⟩ := apply_eq_some.mp stepped
      exact .call called
  | poll k x pevent =>
      simp only [step] at stepped
      split_ifs at stepped with idle
      cases stepped
      exact .poll idle
  | snapshot k =>
      simp only [step] at stepped
      split_ifs at stepped with ready
      cases stepped
      exact .snapshot ready.1 ready.2
  | pop k =>
      simp only [step] at stepped
      split at stepped
      next task tasks idle front =>
        split_ifs at stepped
        cases stepped
        exact .pop idle front
      next => cases stepped
  | advance k sys => exact advance_step stepped

end Owner

/-- A step moves items between queues, or it is a call, the start of a critical section or the
processing of an event. -/
theorem RuntimeStep.world_cases {ω : Type} {owner : Owner ω} {r r' : Runtime}
    {label : RuntimeLabel ω} (step : RuntimeStep owner r label r') :
    World.Shuffled r.world r'.world ∨ (∃ sys op, owner.call sys op r.world = .ok r'.world) ∨
      (∃ sys body, owner.runBody sys body r.world = .ok r'.world) ∨
      ∃ sys event, owner.process sys event r.world = .ok r'.world := by
  cases step with
  | call called => exact .inr (.inl ⟨_, _, called⟩)
  | poll idle => exact .inl (.refl _)
  | snapshot idle empty => exact .inl (.clearTasks _ _)
  | pop idle front => exact .inl (.unqueueTask _ _)
  | enter top context free ran => exact .inr (.inr (.inl ⟨_, _, ran⟩))
  | popEvent top front => exact .inl ((World.Shuffled.setEvents _ _ _).trans (.unqueueEvent _ _))
  | leave top drained => exact .inl (.clearEventsto _ _)
  | process top processed => exact .inr (.inr (.inr ⟨_, _, processed⟩))
  | finish top => exact .inl (.refl _)
  | external top => exact .inl (.unqueueEvent _ _)

/-! ## Calls on a socket -/

/-- The public operations of a socket, and `Execute` of one of its tasks. -/
inductive SocketCall where
  | start (x : SockId)
  | startFd (x : SockId) (fd : Fd)
  | setSockOpt (x : SockId)
  | bind (x : SockId)
  | listen (x : SockId)
  | accept (x listener : SockId)
  | activate (x : SockId)
  | connect (x : SockId)
  | asyncSendMsg (x : SockId) (msg : NetMsg)
  | execute (task : TaskId)
  | stop (x : SockId)
  | asyncStop (x : SockId)
deriving DecidableEq, Repr

namespace SocketCall

/-- The sockets that a call uses. -/
def sockets : SocketCall → List SockId
  | start x => [x]
  | startFd x _ => [x]
  | setSockOpt x => [x]
  | bind x => [x]
  | listen x => [x]
  | accept x listener => [x, listener]
  | activate x => [x]
  | connect x => [x]
  | asyncSendMsg x _ => [x]
  | execute task => [task.sock]
  | stop x => [x]
  | asyncStop x => [x]

/-- The call, whose result code nobody reads. -/
def code (sys : Sys) : SocketCall → Action
  | start x => fun w => (·.2) <$> Klibmsg.start sys x w
  | startFd x fd => Klibmsg.startFd sys x fd
  | setSockOpt x => fun w => (·.2) <$> Klibmsg.setSockOpt sys x w
  | bind x => fun w => (·.2) <$> Klibmsg.bind sys x w
  | listen x => fun w => (·.2) <$> Klibmsg.listen sys x w
  | accept x listener => Klibmsg.accept sys x listener
  | activate x => Klibmsg.activate sys x
  | connect x => Klibmsg.connect sys x
  | asyncSendMsg x msg => fun w => .ok (w.asyncSendMsg x msg)
  | execute task => fun w => .ok (w.execute task)
  | stop x => Klibmsg.stop sys x
  | asyncStop x => fun w => .ok (w.asyncStop x)

/-- The call, on sockets that exist. -/
def run (sys : Sys) (op : SocketCall) : Action := fun w =>
  if ∃ x ∈ op.sockets, x ∈ w.freed then .error .freedMemory else op.code sys w

theorem run_steps {may : Entitled} {sys : Sys} {op : SocketCall} {w w' : World}
    (allowed : ∀ x ∈ op.sockets, may.stops x) (done : op.run sys w = .ok w') :
    SocketSteps may w w' := by
  simp only [run] at done
  split_ifs at done
  cases op with
  | start x =>
      obtain ⟨⟨rc, started⟩, starting, returned⟩ := map_eq_ok.mp done
      cases returned
      exact start_steps starting
  | startFd x fd => exact startFd_steps done
  | setSockOpt x =>
      obtain ⟨⟨rc, set⟩, setting, returned⟩ := map_eq_ok.mp done
      cases returned
      exact setSockOpt_steps setting
  | bind x =>
      obtain ⟨⟨rc, bound⟩, binding, returned⟩ := map_eq_ok.mp done
      cases returned
      exact bind_steps binding
  | listen x =>
      obtain ⟨⟨rc, listened⟩, listening, returned⟩ := map_eq_ok.mp done
      cases returned
      exact listen_steps listening
  | accept x listener => exact accept_steps done
  | activate x => exact activate_steps done
  | connect x => exact connect_steps (allowed x (List.mem_singleton_self x)) done
  | asyncSendMsg x msg =>
      cases done
      exact asyncSendMsg_steps w x msg
  | execute task =>
      cases done
      exact (SocketSteps.refl w).execute
  | stop x => exact stop_steps (allowed x (List.mem_singleton_self x)) done
  | asyncStop x =>
      cases done
      exact (SocketSteps.refl w).asyncStop (allowed x (List.mem_singleton_self x))

end SocketCall

/-- What is fed to a socket at the start of a critical section entitles it to nothing. -/
theorem feedTask_steps {may : Entitled} {sys : Sys} {task : TaskId} {w w' : World}
    (done : feed sys task.sock task.name.src kNetWorkerTaskExecute w = .ok w') :
    SocketSteps may w w' := by
  refine feed_steps (by decide) (fun isError => absurd isError (by decide)) ?_ done
  intro isAction
  cases name : task.name <;> rw [name] at isAction <;> exact absurd isAction (by decide)

theorem feedFd_steps {may : Entitled} {sys : Sys} {x : SockId} {pevent : FdEvent} {w w' : World}
    (done : feed sys x kNetSockSrcFd pevent.type w = .ok w') : SocketSteps may w w' := by
  refine feed_steps ?_ ?_ (fun isAction => absurd isAction (by decide)) done
  · cases pevent <;> decide
  · intro isError
    cases pevent <;> exact absurd isError (by decide)

/-- An owner that only takes note of its events.  Whatever an owner does in reaction to an event is
a call of its own, which may come at any time. -/
def socketOwner : Owner SocketCall where
  call := SocketCall.run
  react _ _ := fun w => .ok w

/-- Every socket has been initialised and nothing else has happened. -/
structure Runtime.Fresh (r : Runtime) : Prop where
  socket : ∀ x, ∃ (memory : NetSocket) (src : Int) (addr : SockAddr) (worker : WorkerId),
    r.world.sock x = memory.initialised src addr worker
  tasks : ∀ k, (r.world.worker k).tasks = []
  trace : r.world.trace = []
  thread : ∀ k, r.thread k = ⟨[], []⟩

theorem Runtime.fresh_default : (default : Runtime).Fresh where
  socket _ := ⟨default, 0, default, ⟨0, kNetWorkerNum_pos⟩, rfl⟩
  tasks _ := rfl
  trace := rfl
  thread _ := rfl

end Klibmsg
