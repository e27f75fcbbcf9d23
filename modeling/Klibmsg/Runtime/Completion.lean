import Klibmsg.Runtime.Stopping
import Klibmsg.Socket.Polls

/-!
# `Stop` completes

From the call of `Stop` on, the socket waits for its stop task or has stopped.  While it waits, only
the stop task changes it, and every task that a worker turns to can be executed.
-/

namespace Klibmsg

open LifeView

/-! ## Tasks that are fed -/

/-- `close` succeeds or fails with an error that `NetCloseFd` tolerates. -/
def Sys.Closes (sys : Sys) : Prop :=
  sys.close = 0 ∨ sys.close = EINTR ∨ sys.close = ETIMEDOUT ∨ sys.close = EWOULDBLOCK ∨
    sys.close = EINPROGRESS ∨ sys.close = ECONNRESET

section Tasks

variable {action : ActionCall} {x : SockId} {sys : Sys} {src type : Int} {w w' : World}
  {feeding : WorkerId → Option Body} {task : TaskId}

theorem CellRun.unchanged {label : NetSockState} (notAction : src ≠ kNetFsmAction)
    (notFd : src ≠ kNetSockSrcFd) (notStop : src ≠ kNetSockSrcTaskStop)
    (run : CellRun action x sys src type label w w') : w' = w := by
  have neither : ¬(src = kNetFsmAction ∨ src = kNetSockSrcFd) := not_or.mpr ⟨notAction, notFd⟩
  cases run with
  | start _ source | listen _ source | connect _ source | beingAccepted _ source
  | started _ source | accepted source | activate _ source | connected source | refused source
  | accept _ source | acceptAgain _ source | acceptDone _ source | cancel source =>
      exact absurd source notAction
  | connectingOut source | connectingErr source | activeError source | acceptIn source =>
      exact absurd source neither
  | activeIn source | activeOut source | activeErr source => exact absurd source notFd
  | removed source | cancelled source => exact absurd source notStop
  | ignored => rfl

/-- A task other than the stop task makes no difference to the life of any socket. -/
theorem feedTask_life (other : task.name ≠ .stop)
    (done : feed sys task.sock task.name.src kNetWorkerTaskExecute w = .ok w') :
    w'.life = w.life := by
  have notAction := task.name.src_ne_action
  have notFd : task.name.src ≠ kNetSockSrcFd := by cases task.name <;> decide
  have notStop : task.name.src ≠ kNetSockSrcTaskStop :=
    fun same => other (TaskName.src_eq_stop same)
  cases feed_run (fun isStop => notAction isStop.1) done with
  | internal name => exact w.life_internalTask task.sock name
  | cell _ _ run => rw [run.unchanged notAction notFd notStop]; rfl
  | released _ _ event => exact absurd event.1 notAction
  | ignored => rfl
  | finished _ _ event => exact absurd event notStop
  | badState => rfl

/-- What a task that is fed can do to the lives of the sockets. -/
theorem feedTask_cases (settled : Settled w.life w.taskView feeding)
    (fedBy : feeding (w.taskView.worker task.sock) = some (.task task))
    (done : feed sys task.sock task.name.src kNetWorkerTaskExecute w = .ok w') :
    task.name ≠ .stop ∧ w'.life = w.life ∨
      task.name = .stop ∧ ∃ u, w.life.Drops task.sock u ∧
        ((w.sock task.sock).state = .removingFd ∧ w'.life = u.setState task.sock .done ∨
          (w.sock task.sock).state = .stopping ∧ w'.life = u.finish task.sock) := by
  by_cases other : task.name ≠ .stop
  · exact .inl ⟨other, feedTask_life other done⟩
  · obtain ⟨y, name⟩ := task
    have stops : name = .stop := not_not.mp other
    subst stops
    have halting : Halting (w.sock y).state := (settled.pending y).mpr (.inr fedBy)
    exact .inr ⟨rfl, (feedStop_life (settled.control y) halting done).2⟩

theorem netCloseFd_ok {fd : Fd} (isOpen : fd ≠ -1 → w.fds fd = true) (closes : sys.Closes)
    (negative : fd = -1 ∨ 0 ≤ fd) : ∃ w', w.netCloseFd sys fd = .ok w' := by
  rw [World.netCloseFd]
  obtain rfl | valid := negative
  · exact ⟨w, rfl⟩
  · have holds : w.fds fd = true := isOpen (by rintro rfl; exact absurd valid (by decide))
    have tolerated : sys.close = 0 ∨ sys.close = EINTR ∨ sys.close = ETIMEDOUT ∨
        sys.close = EWOULDBLOCK ∨ sys.close = EINPROGRESS ∨ sys.close = ECONNRESET := closes
    rw [if_neg (not_lt.mpr valid), if_neg (by rw [holds]; decide), if_pos tolerated]
    exact ⟨_, rfl⟩

theorem netCloseFd_held_ok (owned : w.life.Owned) (x : SockId) (closes : sys.Closes) :
    ∃ w', w.netCloseFd sys (w.sock x).s = .ok w' := by
  refine netCloseFd_ok (owned.isOpen x) closes ?_
  by_cases empty : (w.sock x).s = -1
  · exact .inl empty
  · exact .inr (owned.valid x empty)

theorem closeAndFail_ok (owned : w.life.Owned) (x : SockId) (closes : sys.Closes) :
    ∃ w', closeAndFail x sys w = .ok w' := by
  obtain ⟨closed, closing⟩ := netCloseFd_held_ok owned x closes
  exact ⟨_, bind_eq_ok.mpr ⟨closed, closing, rfl⟩⟩

/-- The states of a running machine from which it is stopped for good. -/
def CanStop (state : NetSockState) : Prop :=
  state = .starting ∨ state = .accepted ∨ state = .listening ∨ state = .acceptingError ∨
    state = .connecting ∨ state = .active ∨ state = .removingFd ∨ state = .done

instance (state : NetSockState) : Decidable (CanStop state) := inferInstanceAs (Decidable (_ ∨ _))

end Tasks

/-! ## From the call of `Stop` on -/

/-- What has become of a socket since `Stop` was called on it. -/
inductive StopPhase (before : LifeView) (x : SockId) (v : LifeView) : Prop
  | waiting (control : v.control x = ⟨.stopping, .stopping, (before.control x).s⟩)
      (stops : v.stops x = before.stops x) : StopPhase before x v
  | stopped (control : v.control x = ⟨.idle, .idle, -1⟩)
      (stops : v.stops x = before.stops x + 1)
      (released : (before.control x).s ≠ -1 → v.fds (before.control x).s = false) :
      StopPhase before x v

section Phases

variable {before v v' : LifeView} {x y : SockId} {sys : Sys} {w w' : World}

theorem LifeView.Drops.stops (drops : v.Drops y v') : v'.stops = v.stops := by
  cases drops <;> rfl

/-- The descriptor that is given up is closed. -/
theorem LifeView.Drops.released (drops : v.Drops y v') (owned : v.Owned)
    (holds : (v.control y).s ≠ -1) :
    v'.fds (v.control y).s = false := by
  cases drops with
  | none negative => exact absurd (owned.valid y holds) (not_le.mpr negative)
  | closed => exact Function.update_self _ _ _

theorem StopPhase.of_same (phase : StopPhase before x v) (control : v'.control x = v.control x)
    (stops : v'.stops x = v.stops x) (fds : ∀ fd, v.fds fd = false → v'.fds fd = false) :
    StopPhase before x v' := by
  cases phase with
  | waiting here count => exact .waiting (control.trans here) (stops.trans count)
  | stopped here count released =>
      exact .stopped (control.trans here) (stops.trans count) fun holds => fds _ (released holds)

/-- A machine that stops: its descriptor is given up first. -/
theorem StopPhase.finish {u : LifeView} (owned : v.Owned)
    (same : (v.control x).s = (before.control x).s) (count : v.stops x = before.stops x)
    (drops : v.Drops x u) : StopPhase before x (u.finish x) := by
  refine .stopped ?_ ?_ fun holds => ?_
  · rw [control_finish, drops.control]
  · change Function.update u.stops x (u.stops x + 1) x = _
    rw [Function.update_self, drops.stops, count]
  · rw [← same] at holds ⊢
    have closed : u.fds (v.control x).s = false := drops.released owned holds
    exact closed

/-- A call of `Stop` begins the phase. -/
theorem StopRun.phase (settled : (w.life.control x).Settled) (owned : w.life.Owned)
    (active : (w.sock x).fsm.state = .active) (can : CanStop (w.sock x).state)
    (run : StopRun x sys w w') : StopPhase w.life x w'.life := by
  have begun : (w.beginStop x).life.control x = ⟨.stopping, (w.sock x).state, (w.sock x).s⟩ := by
    rw [beginStop_life, control_setFsm]
    rfl
  have still : (w.beginStop x).life.Owned := by
    rw [beginStop_life]
    exact owned.same (w.life.s_setFsm x · .stopping) rfl rfl rfl
  have waits (state : NetSockState) {u : World} (life : u.life = (w.beginStop x).life)
      (stopping : state = .stopping) : StopPhase w.life x (u.setState x state).life := by
    subst stopping
    refine .waiting ?_ ?_
    · rw [World.life_setState, life, control_setState, begun]
      rfl
    · rw [World.life_setState, life, beginStop_life]
      rfl
  cases run with
  | inactive fsm => exact absurd active fsm
  | idle _ state => exact absurd can (by rw [state]; decide)
  | pairing _ state => exact absurd can (by rw [state]; decide)
  | done _ state done =>
      have empty : (w.life.control x).s = -1 := settled.done state
      rw [(finish2_life done).2]
      refine .stopped ?_ ?_ fun holds => absurd empty holds
      · rw [control_finish, begun]
        exact congrArg (Control.mk .idle .idle) empty
      · rw [beginStop_life]
        exact Function.update_self _ _ _
  | closed _ _ done =>
      obtain ⟨u, drops, life⟩ := finish1_life done
      rw [life]
      refine StopPhase.finish still ?_ ?_ drops
      · rw [begun]
        rfl
      · rw [beginStop_life]
        rfl
  | removing => exact waits _ rfl rfl
  | running => exact waits _ (asyncStop_life _ x) rfl

/-- A task that is fed keeps the phase; the stop task of the socket ends the waiting. -/
theorem StopPhase.feedTask {feeding : WorkerId → Option Body} {task : TaskId}
    (phase : StopPhase before x w.life) (settled : Settled w.life w.taskView feeding)
    (owned : w.life.Owned)
    (fedBy : feeding (w.taskView.worker task.sock) = some (.task task))
    (done : feed sys task.sock task.name.src kNetWorkerTaskExecute w = .ok w') :
    DescriptorSteps False w.life w'.life ∧ StopPhase before x w'.life ∧
      ((w.sock x).state = .idle ∨ ⟨x, .stop⟩ = task → (w'.sock x).state = .idle) := by
  obtain ⟨other, life⟩ | ⟨stops, u, drops, outcome⟩ := feedTask_cases settled fedBy done
  · refine ⟨.of_eq life, life ▸ phase, ?_⟩
    rintro (idle | rfl)
    · exact (congrArg (fun v : LifeView => (v.control x).state) life).trans idle
    · exact absurd rfl other
  have steps : DescriptorSteps False w.life w'.life := by
    obtain ⟨_, life⟩ | ⟨_, life⟩ := outcome <;> rw [life]
    · exact ((DescriptorSteps.refl _).drop drops).setState _ _
    · exact ((DescriptorSteps.refl _).drop drops).finish _
  refine ⟨steps, ?_⟩
  obtain ⟨y, name⟩ := task
  cases stops
  by_cases own : y = x
  · subst own
    have halting : Halting (w.life.control y).state := (settled.pending y).mpr (.inr fedBy)
    cases phase with
    | stopped control =>
        rw [control] at halting
        exact absurd halting (by simp [Halting])
    | waiting control count =>
        obtain ⟨removing, _⟩ | ⟨_, life⟩ := outcome
        · cases (congrArg Control.state control).symm.trans removing
        · have finished : StopPhase before y (u.finish y) :=
            StopPhase.finish owned (by rw [control]) count drops
          rw [← life] at finished
          refine ⟨finished, fun _ => ?_⟩
          have control := congrArg (fun v : LifeView => (v.control y).state) life
          exact control.trans (by rw [control_finish])
  · have different : x ≠ y := Ne.symm own
    have control : w'.life.control x = w.life.control x := by
      obtain ⟨_, life⟩ | ⟨_, life⟩ := outcome
      · rw [life, control_setState_of_ne _ different, drops.control_of_ne different]
      · rw [life, control_finish_of_ne _ different, drops.control_of_ne different]
    have stops : w'.life.stops x = w.life.stops x := by
      obtain ⟨_, life⟩ | ⟨_, life⟩ := outcome <;> rw [life]
      · exact congrFun (drops.stops) x
      · change Function.update u.stops y _ x = _
        rw [Function.update_of_ne different, drops.stops]
    refine ⟨phase.of_same control stops fun fd => steps.fds_le, ?_⟩
    rintro (idle | same)
    · exact (congrArg Control.state control).trans idle
    · exact absurd (congrArg TaskId.sock same) different

/-- A descriptor event does nothing to a socket that is waiting for its stop task. -/
theorem feedFd_unchanged {pevent : FdEvent} (stopping : (w.sock x).fsm.state = .stopping)
    (state : (w.sock x).state = .stopping)
    (done : feed sys x kNetSockSrcFd pevent.type w = .ok w') : w' = w := by
  have notAction : kNetSockSrcFd ≠ kNetFsmAction := by decide
  cases feed_run (fun isStop => notAction isStop.1) done with
  | internal name _ event => cases name <;> exact absurd event (by decide)
  | cell running => exact absurd stopping running
  | released _ _ event => exact absurd event.1 notAction
  | ignored => rfl
  | finished _ _ event => exact absurd event (by decide)
  | badState _ other => exact absurd state other.1

end Phases

/-! ## Runs -/

/-- `Stop` and what makes a socket send or receive. -/
def SocketCall.Spares (x : SockId) : SocketCall → Prop
  | .stop y => y = x
  | .asyncSendMsg y _ => y = x
  | .execute task => task = ⟨x, .send⟩ ∨ task = ⟨x, .recv⟩
  | _ => False

instance (x : SockId) (op : SocketCall) : Decidable (op.Spares x) :=
  match op with
  | .stop y | .asyncSendMsg y _ => inferInstanceAs (Decidable (y = x))
  | .execute _ => inferInstanceAs (Decidable (_ ∨ _))
  | .start _ | .startFd _ _ | .setSockOpt _ | .bind _ | .listen _ | .accept _ _ | .activate _ |
      .connect _ | .asyncStop _ => isFalse id

theorem SocketCall.Spares.mild {x : SockId} {op : SocketCall} (spares : op.Spares x) : op.Mild := by
  cases op with
  | execute task => obtain rfl | rfl := spares <;> simp [SocketCall.Mild]
  | asyncStop => exact spares
  | _ => trivial

/-- Further calls make no difference to a machine that is not active. -/
theorem SocketCall.Spares.life {x : SockId} {op : SocketCall} {sys : Sys} {w w' : World}
    (spares : op.Spares x) (inactive : (w.sock x).fsm.state ≠ .active)
    (run : CallRun sys w op w') : w'.life = w.life := by
  cases run with
  | asyncSendMsg y msg => rw [World.asyncSendMsg, World.life_execute, World.life_pushMsg]
  | execute task => exact World.life_execute w task
  | stop stopping =>
      cases spares
      cases stopping with
      | inactive => rfl
      | idle active | done active | closed active | pairing active | removing active
      | running active => exact absurd active inactive
  | asks asking => obtain rfl | rfl | rfl := asking <;> exact False.elim spares
  | noSocket | start | startFd | listen | accept | activate | connectDone | connectFails
  | connecting | asyncStop => exact False.elim spares

theorem SocketCall.run_stop {x : SockId} {sys : Sys} {w w' : World}
    (called : (SocketCall.stop x).run sys w = .ok w') : StopRun x sys w w' := by
  rw [SocketCall.run] at called
  split_ifs at called
  exact fsmStop_run called

theorem LifeView.DescriptorStep.frame {v v' : LifeView} (step : DescriptorStep False v v') :
    v'.taken = v.taken ∧ ∀ y, (v'.control y).s = (v.control y).s ∨ (v'.control y).s = -1 := by
  cases step with
  | setState x state => exact ⟨rfl, fun y => .inl (v.s_setState x y state)⟩
  | setFsm x fsm => exact ⟨rfl, fun y => .inl (v.s_setFsm x y fsm)⟩
  | finish x =>
      exact ⟨rfl, fun y => .inl
        (((v.setState x .idle).s_setFsm x y .idle).trans (v.s_setState x y .idle))⟩
  | @drop _ x drops =>
      refine ⟨by cases drops <;> rfl, fun y => ?_⟩
      by_cases own : y = x
      · subst own
        exact .inr (by rw [drops.control])
      · exact .inl (by rw [drops.control_of_ne own])
  | takeOver x fd allowed => exact allowed.elim

/-- Without taking a descriptor over, a socket keeps its descriptor or gives it up. -/
theorem LifeView.DescriptorSteps.frame {v v' : LifeView} (steps : DescriptorSteps False v v') :
    v'.taken = v.taken ∧ ∀ y, (v'.control y).s = (v.control y).s ∨ (v'.control y).s = -1 := by
  induction steps with
  | refl => exact ⟨rfl, fun _ => .inl rfl⟩
  | tail _ step ih =>
      obtain ⟨taken, s⟩ := step.frame
      refine ⟨taken.trans ih.1, fun y => ?_⟩
      obtain same | empty := s y
      · exact (ih.2 y).imp same.trans same.trans
      · exact .inr empty

/-- A descriptor that its socket gives up is closed once more. -/
theorem LifeView.DescriptorSteps.closed_once {v v' : LifeView} {x : SockId} (owned : v.Owned)
    (steps : DescriptorSteps False v v') (holds : (v.control x).s ≠ -1)
    (released : (v'.control x).s = -1) :
    v'.closed (v.control x).s = v.closed (v.control x).s + 1 := by
  obtain ⟨taken, s⟩ := steps.frame
  have unheld (y : SockId) : (v'.control y).s ≠ (v.control x).s := by
    intro same
    obtain kept | empty := s y
    · have own : y = x := owned.unique x y holds (kept.symm.trans same)
      subst own
      exact holds (same.symm.trans released)
    · exact holds (same.symm.trans empty)
  have after := (steps.owned owned).released _ (owned.valid x holds) unheld
  rw [← after, taken]
  exact owned.held x holds

theorem TaskStep.worker {r r' : Runtime} {label : RuntimeLabel SocketCall}
    (step : TaskStep r label r') : r'.world.taskView.worker = r.world.taskView.worker := by
  have executes {v v' : TaskView} (run : v.Executes v') : v'.worker = v.worker := by
    induction run with
    | refl => rfl
    | tail _ step ih =>
        obtain ⟨task, rfl⟩ := step
        exact (TaskView.worker_execute _ task).trans ih
  cases step with
  | @call sys op _ called =>
      have steps : SocketSteps .all r.world r'.world :=
        SocketCall.run_steps (fun _ _ => trivial) called
      exact executes steps.executes
  | poll _ world => rw [world]
  | @snapshot k _ _ world => rw [world, World.taskView_clearTasks]; rfl
  | @pop k task _ _ _ _ world => rw [world, World.taskView_unqueueTask]; rfl
  | feed _ fed _ done =>
      have steps : SocketSteps .all r.world r'.world := Body.fed_steps fed done
      exact executes steps.executes
  | other _ _ tasks => rw [tasks]

/-- A descriptor event comes to the socket, which holds the descriptor.  The poller of the worker
sees to it: once `RmFd` has removed a handle, the rest of the batch and later ones return no event
for it (`Polling.interest_agrees`). -/
def Body.Reaches (x : SockId) (w : World) : Body → Prop
  | .fd y _ => y = x ∧ (w.sock x).s ≠ -1
  | _ => True

instance (x : SockId) (w : World) (body : Body) : Decidable (body.Reaches x w) := by
  cases body <;> dsimp only [Body.Reaches] <;> infer_instance

namespace Runtime

/-- The task that a worker is about to feed. -/
def executing (r : Runtime) (k : WorkerId) : List TaskId :=
  match r.feeding k with
  | some (.task task) => [task]
  | _ => []

/-- The tasks that a worker has not executed yet, in their order. -/
def outstanding (r : Runtime) (k : WorkerId) : List TaskId :=
  r.executing k ++ (r.taken k ++ (r.world.worker k).tasks)

/-- The task that a worker executes in a step. -/
def executes (k : WorkerId) (r : Runtime) : RuntimeLabel SocketCall → List TaskId
  | .advance j _ => if j = k then r.executing k else []
  | _ => []

/-- The events of a descriptor come only to the socket that is being stopped and only as long as it
holds the descriptor; that socket is stopped again and is made to send and to receive, and the
workers execute the tasks of all sockets. -/
def Undisturbed (x : SockId) (r : Runtime) : RuntimeLabel SocketCall → Prop
  | .call _ op => op.Spares x
  | .advance k _ => ∀ body ∈ r.feeding k, body.Reaches x r.world
  | _ => True

instance (x : SockId) (r : Runtime) (label : RuntimeLabel SocketCall) :
    Decidable (Undisturbed x r label) :=
  match label with
  | .call _ op => inferInstanceAs (Decidable (op.Spares x))
  | .advance k _ => inferInstanceAs (Decidable (∀ body ∈ r.feeding k, body.Reaches x r.world))
  | .poll _ _ _ | .snapshot _ | .pop _ => isTrue trivial

/-- What the operating system and the callers of the public operations promise. -/
def Permitted (r : Runtime) (label : RuntimeLabel SocketCall) : Prop :=
  Answered r.world label ∧ StartsUnheld r.world label ∧ MildCall r label

/-- The invariants of a run. -/
structure Sound (r : Runtime) : Prop where
  settles : r.Settles
  owned : r.world.life.Owned
  polls : r.world.Polls

theorem Sound.step {r r' : Runtime} {label : RuntimeLabel SocketCall} (sound : r.Sound)
    (permitted : Permitted r label) (stepped : socketOwner.step r label = some r') : r'.Sound where
  settles := sound.settles.step permitted.2.2 stepped
  owned := (socketOwner_step stepped).owned sound.owned permitted.1 permitted.2.1
  polls := sound.polls.socketRunStep (socketOwner_step stepped)

/-- A state of a run after a call of `Stop` in the state `before`. -/
structure Stops (before : Runtime) (x : SockId) (r : Runtime) : Prop where
  sound : r.Sound
  steps : DescriptorSteps False before.world.life r.world.life
  phase : StopPhase before.world.life x r.world.life
  worker : r.world.taskView.worker x = before.world.taskView.worker x

theorem executes_eq {r : Runtime} {label : RuntimeLabel SocketCall} {k : WorkerId} {task : TaskId}
    (executed : task ∈ r.executes k label) :
    ∃ sys, label = .advance k sys ∧ r.feeding k = some (.task task) := by
  cases label with
  | advance j sys =>
      simp only [executes, executing] at executed
      split_ifs at executed with same
      · subst same
        refine ⟨sys, rfl, ?_⟩
        cases fed : r.feeding j with
        | none => simp [fed] at executed
        | some body =>
            cases body with
            | task other => simpa [fed, eq_comm] using executed
            | fd y pevent => simp [fed] at executed
            | event event => simp [fed] at executed
      · cases executed
  | call | poll | snapshot | pop => cases executed

/-- A step after a call of `Stop`; the execution of the stop task ends the waiting. -/
theorem Stops.step {before r r' : Runtime} {x : SockId} {label : RuntimeLabel SocketCall}
    (stops : before.Stops x r) (undisturbed : Undisturbed x r label)
    (stepped : socketOwner.step r label = some r') :
    before.Stops x r' ∧
      ((r.world.sock x).state = .idle ∨
          ⟨x, .stop⟩ ∈ r.executes (before.world.taskView.worker x) label →
        (r'.world.sock x).state = .idle) := by
  obtain ⟨step, kept⟩ := stops.sound.settles.kept.step stepped
  have settled := stops.sound.settles.settled
  have mild : MildCall r label := by
    cases label with
    | call _ op => exact undisturbed.mild
    | poll | snapshot | pop | advance => trivial
  have summary : DescriptorSteps False r.world.life r'.world.life ∧
      StopPhase before.world.life x r'.world.life ∧
        ((r.world.sock x).state = .idle ∨
            ⟨x, .stop⟩ ∈ r.executes (before.world.taskView.worker x) label →
          (r'.world.sock x).state = .idle) := by
    have same (life : r'.world.life = r.world.life)
        (none : ⟨x, .stop⟩ ∉ r.executes (before.world.taskView.worker x) label) :
        DescriptorSteps False r.world.life r'.world.life ∧
          StopPhase before.world.life x r'.world.life ∧
            ((r.world.sock x).state = .idle ∨
                ⟨x, .stop⟩ ∈ r.executes (before.world.taskView.worker x) label →
              (r'.world.sock x).state = .idle) := by
      refine ⟨.of_eq life, life ▸ stops.phase, ?_⟩
      rintro (idle | executed)
      · exact (congrArg (fun v : LifeView => (v.control x).state) life).trans idle
      · exact absurd executed none
    cases step with
    | call called =>
        refine same (undisturbed.life ?_ (SocketCall.run_callRun called)) List.not_mem_nil
        have phase := stops.phase
        intro active
        cases phase with
        | waiting control => cases (congrArg Control.fsm control).symm.trans active
        | stopped control => cases (congrArg Control.fsm control).symm.trans active
    | poll _ world => exact same (by rw [world]) List.not_mem_nil
    | snapshot _ world =>
        refine same ?_ List.not_mem_nil
        rw [world, (World.Requeues.clearTasks _ _).life_eq]
    | pop _ _ world =>
        refine same ?_ List.not_mem_nil
        rw [world, (World.Requeues.unqueueTask _ _).life_eq]
    | @other k sys _ plain requeues =>
        refine same requeues.life_eq fun executed => ?_
        obtain ⟨_, equal, fed⟩ := executes_eq executed
        cases equal
        rw [plain] at fed
        cases fed
    | @feed k sys body y src type _ fedBy fed free done =>
        cases body with
        | event event => cases fed
        | task task =>
            cases fed
            have home := stops.sound.settles.kept.marked.homed k task fedBy
            have here : r.feeding (r.world.taskView.worker task.sock) = some (.task task) :=
              (congrArg r.feeding home).trans fedBy
            obtain ⟨steps, phase, ends⟩ :=
              stops.phase.feedTask settled stops.sound.owned here done
            refine ⟨steps, phase, fun reached => ends (reached.imp_right fun executed => ?_)⟩
            obtain ⟨_, equal, fed⟩ := executes_eq executed
            cases equal
            rw [fedBy] at fed
            cases fed
            rfl
        | fd z pevent =>
            cases fed
            obtain ⟨rfl, holds⟩ := undisturbed _ fedBy
            have unchanged : r'.world = r.world := by
              have phase := stops.phase
              cases phase with
              | waiting control =>
                  exact feedFd_unchanged (congrArg Control.fsm control)
                    (congrArg Control.state control) done
              | stopped control => exact absurd (congrArg Control.s control) holds
            refine same (by rw [unchanged]) fun executed => ?_
            obtain ⟨_, equal, fed⟩ := executes_eq executed
            cases equal
            rw [fedBy] at fed
            cases fed
  obtain ⟨steps, phase, ends⟩ := summary
  refine ⟨⟨⟨stops.sound.settles.step mild stepped, steps.owned stops.sound.owned,
    stops.sound.polls.socketRunStep (socketOwner_step stepped)⟩, stops.steps.trans steps, phase,
    ?_⟩, ends⟩
  rw [step.worker]
  exact stops.worker

/-- The call of `Stop`. -/
theorem Sound.stop {r stopped : Runtime} {x : SockId} {sys : Sys} (sound : r.Sound)
    (active : (r.world.sock x).fsm.state = .active) (can : CanStop (r.world.sock x).state)
    (stepped : socketOwner.step r (.call sys (.stop x)) = some stopped) : r.Stops x stopped := by
  obtain ⟨step, kept⟩ := sound.settles.kept.step stepped
  have worker := step.worker
  have mild : MildCall r (.call sys (.stop x)) := trivial
  cases step with
  | call called =>
      have run := SocketCall.run_stop called
      have steps : DescriptorSteps False r.world.life stopped.world.life := run.descriptors
      exact ⟨⟨sound.settles.step mild stepped, steps.owned sound.owned,
        sound.polls.socketRunStep (socketOwner_step stepped)⟩, steps,
        run.phase (sound.settles.settled.control x) sound.owned active can, by rw [worker]⟩

/-- The stop task is among the tasks that are executed after `Stop`, unless the socket has stopped
at once. -/
theorem Stops.outstanding {before r : Runtime} {x : SockId} (stops : before.Stops x r) :
    (r.world.sock x).state = .idle ∨
      ⟨x, .stop⟩ ∈ r.outstanding (before.world.taskView.worker x) := by
  have phase := stops.phase
  cases phase with
  | stopped control => exact .inl (congrArg Control.state control)
  | waiting control =>
      refine .inr ?_
      rw [← stops.worker]
      have settled := stops.sound.settles.settled
      have halting : Halting (r.world.life.control x).state := .inr (by rw [control])
      obtain queued | fed := (settled.pending x).mp halting
      · refine List.mem_append_right _ (List.count_pos_iff.mp ?_)
        have once := stops.sound.settles.kept.marked.waits ⟨x, .stop⟩ queued
        exact lt_of_lt_of_eq Nat.zero_lt_one once.symm
      · refine List.mem_append_left _ ?_
        rw [executing, fed]
        exact List.mem_singleton_self _

theorem Stops.feedFd_unchanged {before r r' : Runtime} {x : SockId} {k : WorkerId} {sys : Sys}
    {pevent : FdEvent} (stops : before.Stops x r) (fed : r.feeding k = some (.fd x pevent))
    (holds : (r.world.sock x).s ≠ -1) (stepped : socketOwner.step r (.advance k sys) = some r') :
    r'.world = r.world := by
  have step := (stops.sound.settles.kept.step stepped).1
  have phase := stops.phase
  cases phase with
  | stopped control => exact absurd (congrArg Control.s control) holds
  | waiting control =>
      cases step with
      | other plain =>
          rw [plain] at fed
          cases fed
      | feed fedBy body_fed free done =>
          rw [fedBy] at fed
          cases fed
          cases body_fed
          exact Klibmsg.feedFd_unchanged (congrArg Control.fsm control)
            (congrArg Control.state control) done

theorem Fresh.sound {r : Runtime} (fresh : r.Fresh)
    (negative : ∀ fd, r.world.fds fd = true → 0 ≤ fd) (polls : r.world.Polls) : r.Sound :=
  ⟨fresh.settles, fresh.owned negative, polls⟩

end Runtime

end Klibmsg
