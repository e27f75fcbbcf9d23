import Klibmsg.Runtime

/-!
# Runs of sockets whose owner takes note of its events

In such a run a step is a call of a public operation, the feeding of a task or of a descriptor event
to a machine, or it only moves items between queues and delivers an event.
-/

namespace Klibmsg

/-- A change that moves tasks and events between queues and delivers events. -/
structure World.Requeues (w w' : World) : Prop where
  sock : ∀ y, ∃ ctx task event,
    w'.sock y = { w.sock y with ctx := ctx, task := task, event := event }
  poller_eq : ∀ k, (w'.worker k).poller = (w.worker k).poller
  device_eq : w'.device = w.device
  fds_eq : w'.fds = w.fds
  memory_eq : w'.memory = w.memory
  nextSock_eq : w'.nextSock = w.nextSock
  freed_eq : w'.freed = w.freed
  stdout_eq : w'.stdout = w.stdout
  trace : ∃ added, w'.trace = w.trace ++ added ∧
    ∀ effect ∈ added, ∃ event payload, effect = .deliver event payload

namespace World.Requeues

variable {w w' w'' : World}

theorem refl (w : World) : Requeues w w where
  sock _ := ⟨_, _, _, rfl⟩
  poller_eq _ := rfl
  device_eq := rfl
  fds_eq := rfl
  memory_eq := rfl
  nextSock_eq := rfl
  freed_eq := rfl
  stdout_eq := rfl
  trace := ⟨[], by simp, by simp⟩

theorem trans (first : Requeues w w') (second : Requeues w' w'') : Requeues w w'' where
  sock y := by
    obtain ⟨_, _, _, middle⟩ := first.sock y
    obtain ⟨ctx, task, event, last⟩ := second.sock y
    exact ⟨ctx, task, event, by rw [last, middle]⟩
  poller_eq k := (second.poller_eq k).trans (first.poller_eq k)
  device_eq := second.device_eq.trans first.device_eq
  fds_eq := second.fds_eq.trans first.fds_eq
  memory_eq := second.memory_eq.trans first.memory_eq
  nextSock_eq := second.nextSock_eq.trans first.nextSock_eq
  freed_eq := second.freed_eq.trans first.freed_eq
  stdout_eq := second.stdout_eq.trans first.stdout_eq
  trace := by
    obtain ⟨added, grown, delivers⟩ := first.trace
    obtain ⟨more, grows, delivered⟩ := second.trace
    refine ⟨added ++ more, by rw [grows, grown, List.append_assoc], fun effect member => ?_⟩
    obtain earlier | later := List.mem_append.mp member
    · exact delivers effect earlier
    · exact delivered effect later

theorem modify (w : World) (x : SockId) (change : NetSocket → NetSocket)
    (queues : ∃ ctx task event,
      change (w.sock x) = { w.sock x with ctx := ctx, task := task, event := event }) :
    Requeues w (w.modify x change) where
  sock y := by
    by_cases equal : y = x
    · subst equal
      simpa using queues
    · exact ⟨_, _, _, by simp [equal]; rfl⟩
  poller_eq _ := rfl
  device_eq := rfl
  fds_eq := rfl
  memory_eq := rfl
  nextSock_eq := rfl
  freed_eq := rfl
  stdout_eq := rfl
  trace := ⟨[], by simp, by simp⟩

theorem unqueueTask (w : World) (task : TaskId) : Requeues w (w.unqueueTask task) :=
  modify w task.sock _ ⟨_, _, _, rfl⟩

theorem setEvent (w : World) (event : EventId) (change : NetFsmEvent → NetFsmEvent) :
    Requeues w (w.setEvent event change) := by
  rw [World.setEvent]
  exact modify w event.sock _ ⟨_, _, _, rfl⟩

theorem setCtx (w : World) (x : SockId) (change : NetCtx → NetCtx) :
    Requeues w (w.setCtx x change) := by
  rw [World.setCtx]
  exact modify w x _ ⟨_, _, _, rfl⟩

theorem unqueueEvent (w : World) (event : EventId) : Requeues w (w.unqueueEvent event) :=
  setEvent w event _

theorem setEvents (w : World) (ctx : SockId) (events : List EventId) :
    Requeues w (w.setEvents ctx events) := setCtx w ctx _

theorem clearEventsto (w : World) (ctx : SockId) : Requeues w (w.clearEventsto ctx) :=
  setCtx w ctx _

theorem clearTasks (w : World) (k : WorkerId) : Requeues w (w.clearTasks k) where
  sock _ := ⟨_, _, _, rfl⟩
  poller_eq other := by
    by_cases equal : other = k
    · subst equal
      simp [World.clearTasks]
    · simp [World.clearTasks, equal]
  device_eq := rfl
  fds_eq := rfl
  memory_eq := rfl
  nextSock_eq := rfl
  freed_eq := rfl
  stdout_eq := rfl
  trace := ⟨[], by simp [World.clearTasks], by simp⟩

theorem takeEvent (w : World) (event : EventId) : Requeues w (w.takeEvent event) where
  sock := (setEvent w event fun stored => { stored with payload := .cleared }).sock
  poller_eq _ := rfl
  device_eq := rfl
  fds_eq := rfl
  memory_eq := rfl
  nextSock_eq := rfl
  freed_eq := rfl
  stdout_eq := rfl
  trace := ⟨[.deliver event (w.eventAt event).payload], rfl, by simp⟩

theorem control (requeues : Requeues w w') (y : SockId) :
    (w'.sock y).state = (w.sock y).state ∧ (w'.sock y).fsm = (w.sock y).fsm ∧
      (w'.sock y).s = (w.sock y).s ∧ (w'.sock y).wfd = (w.sock y).wfd ∧
        (w'.sock y).worker = (w.sock y).worker ∧ (w'.sock y).asock = (w.sock y).asock := by
  obtain ⟨_, _, _, same⟩ := requeues.sock y
  rw [same]
  exact ⟨rfl, rfl, rfl, rfl, rfl, rfl⟩

end World.Requeues

/-- The machine, the source and the type that a critical section feeds; an event is fed to the
owner. -/
def Body.fed : Body → Option (SockId × Int × Int)
  | .task queued => some (queued.sock, queued.name.src, kNetWorkerTaskExecute)
  | .fd x pevent => some (x, kNetSockSrcFd, pevent.type)
  | .event _ => none

theorem Body.fed_not_stop {body : Body} {x : SockId} {src type : Int}
    (fed : body.fed = some (x, src, type)) : ¬(src = kNetFsmAction ∧ type = kNetFsmStop) := by
  rintro ⟨isAction, isStop⟩
  cases body with
  | task queued =>
      cases fed
      exact absurd isStop (by decide)
  | fd x pevent =>
      cases fed
      exact absurd isAction (by decide)
  | event event => cases fed

theorem TaskName.src_ne_action (name : TaskName) : name.src ≠ kNetFsmAction := by
  cases name <;> decide

theorem TaskName.src_eq_stop {name : TaskName} (stops : name.src = kNetSockSrcTaskStop) :
    name = .stop := by
  cases name <;> first | rfl | exact absurd stops (by decide)

theorem Body.fed_not_action {body : Body} {x : SockId} {src type : Int}
    (fed : body.fed = some (x, src, type)) : src ≠ kNetFsmAction := by
  cases body with
  | task queued =>
      cases fed
      exact queued.name.src_ne_action
  | fd y pevent =>
      cases fed
      decide
  | event event => cases fed

theorem Body.fed_stop {body : Body} {x : SockId} {src type : Int}
    (fed : body.fed = some (x, src, type)) (stops : src = kNetSockSrcTaskStop) :
    body = .task ⟨x, .stop⟩ := by
  cases body with
  | task queued =>
      cases fed
      rw [← TaskName.src_eq_stop stops]
  | fd y pevent =>
      cases fed
      exact absurd stops (by decide)
  | event event => cases fed

theorem Body.fed_steps {body : Body} {x : SockId} {src type : Int} {sys : Sys} {w w' : World}
    {may : Entitled} (fed : body.fed = some (x, src, type))
    (done : feed sys x src type w = .ok w') : SocketSteps may w w' := by
  cases body with
  | task queued =>
      cases fed
      exact feedTask_steps done
  | fd y pevent =>
      cases fed
      exact feedFd_steps done
  | event event => cases fed

/-- What a step of such a run does to the process. -/
inductive SocketRunStep (r : Runtime) : RuntimeLabel SocketCall → World → Prop
  | requeue {label : RuntimeLabel SocketCall} {w : World} (requeues : r.world.Requeues w) :
      SocketRunStep r label w
  | call {sys : Sys} {op : SocketCall} {w : World} (called : op.run sys r.world = .ok w) :
      SocketRunStep r (.call sys op) w
  | feed {k : WorkerId} {sys : Sys} {body : Body} {rest : List Frame} {x : SockId}
      {src type : Int} {w : World} (top : (r.thread k).frames = .enter body :: rest)
      (fed : body.fed = some (x, src, type)) (free : r.locked x = false)
      (done : Klibmsg.feed sys x src type r.world = .ok w) : SocketRunStep r (.advance k sys) w

theorem socketOwner_process {sys : Sys} {event : EventId} {w w' : World}
    (done : socketOwner.process sys event w = .ok w') : w.Requeues w' := by
  simp only [Owner.process] at done
  split_ifs at done
  split at done
  next => cases done
  next =>
    cases done
    exact .takeEvent w event

theorem socketOwner_advance {r r' : Runtime} {k : WorkerId} {sys : Sys}
    (advanced : socketOwner.advance r k sys = some r') :
    SocketRunStep r (.advance k sys) r'.world := by
  simp only [Owner.advance] at advanced
  split at advanced
  next => cases advanced
  next body rest top =>
    split at advanced
    next => cases advanced
    next ctx context =>
      split_ifs at advanced with blocked
      obtain ⟨w, ran, rfl⟩ := Owner.apply_eq_some.mp advanced
      rw [not_or] at blocked
      have free : r.locked ctx = false := by simpa using blocked.2
      cases body with
      | task task =>
          cases context
          exact .feed top rfl free ran
      | fd x pevent =>
          cases context
          exact .feed top rfl free ran
      | event event => exact .requeue (socketOwner_process ran)
  next ctx rest top =>
    split_ifs at advanced
    split at advanced
    next event events front =>
      split_ifs at advanced
      cases advanced
      exact .requeue ((World.Requeues.setEvents _ _ _).trans (.unqueueEvent _ _))
    next =>
      cases advanced
      exact .requeue (.clearEventsto _ _)
  next ctx event rest top =>
    obtain ⟨w, processed, rfl⟩ := Owner.apply_eq_some.mp advanced
    exact .requeue (socketOwner_process processed)
  next rest top =>
    cases advanced
    exact .requeue (.refl _)
  next event events rest top =>
    split_ifs at advanced
    cases advanced
    exact .requeue (.unqueueEvent _ _)

/-- The step in which a critical section feeds a machine. -/
theorem socketOwner_feeds {r r' : Runtime} {k : WorkerId} {sys : Sys} {body : Body}
    {rest : List Frame} {x : SockId} {src type : Int}
    (stepped : socketOwner.step r (.advance k sys) = some r')
    (top : (r.thread k).frames = .enter body :: rest) (fed : body.fed = some (x, src, type)) :
    feed sys x src type r.world = .ok r'.world := by
  simp only [Owner.step, Owner.advance, top] at stepped
  cases body with
  | task queued =>
      cases fed
      simp only [Owner.context] at stepped
      split_ifs at stepped
      obtain ⟨w, ran, rfl⟩ := Owner.apply_eq_some.mp stepped
      exact ran
  | fd y pevent =>
      cases fed
      simp only [Owner.context] at stepped
      split_ifs at stepped
      obtain ⟨w, ran, rfl⟩ := Owner.apply_eq_some.mp stepped
      exact ran
  | event event => cases fed

theorem socketOwner_step {r r' : Runtime} {label : RuntimeLabel SocketCall}
    (stepped : socketOwner.step r label = some r') : SocketRunStep r label r'.world := by
  cases label with
  | call sys op =>
      obtain ⟨w, called, rfl⟩ := Owner.apply_eq_some.mp stepped
      exact .call called
  | poll k x pevent =>
      simp only [Owner.step] at stepped
      split_ifs at stepped
      cases stepped
      exact .requeue (.refl _)
  | snapshot k =>
      simp only [Owner.step] at stepped
      split_ifs at stepped
      cases stepped
      exact .requeue (.clearTasks _ _)
  | pop k =>
      simp only [Owner.step] at stepped
      split at stepped
      next task tasks idle front =>
        split_ifs at stepped
        cases stepped
        exact .requeue (.unqueueTask _ _)
      next => cases stepped
  | advance k sys => exact socketOwner_advance stepped

end Klibmsg
