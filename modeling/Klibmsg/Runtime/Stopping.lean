import Klibmsg.Runtime.Backlog
import Klibmsg.Socket.Descriptors

/-!
# Stopping a socket

A socket enters `RemovingFd` or `Stopping` together with its stop task, which nothing else queues,
and leaves it when the task is executed.  Whatever is fed to the sockets, a stop task is therefore
on its way to a socket exactly while the socket is in one of these states, so that every `Stop`
comes to its end once the tasks that are queued by then have been executed.
-/

namespace Klibmsg

open LifeView

/-! ## Stop tasks and states -/

/-- The socket waits for its stop task. -/
def Halting (state : NetSockState) : Prop := state = .removingFd ∨ state = .stopping

/-- What the code keeps of a socket in every run. -/
structure Control.Settled (c : Control) : Prop where
  stopping : c.fsm = .stopping ↔ c.state = .stopping ∨ c.state = .stoppingAccept
  idle : c.state = .idle → c.fsm = .idle
  done : c.state = .done → c.s = -1
  notCancelling : c.state ≠ .cancelling

/-- The stop task is queued or about to be fed. -/
def StopPending (t : TaskView) (feeding : WorkerId → Option Body) (x : SockId) : Prop :=
  t.queued ⟨x, .stop⟩ = true ∨ feeding (t.worker x) = some (.task ⟨x, .stop⟩)

/-- A stop task is on its way, once, exactly to the sockets that wait for it. -/
structure Settled (v : LifeView) (t : TaskView) (feeding : WorkerId → Option Body) : Prop where
  control : ∀ x, (v.control x).Settled
  pending : ∀ x, Halting (v.control x).state ↔ StopPending t feeding x
  once : ∀ x, t.queued ⟨x, .stop⟩ = true → feeding (t.worker x) ≠ some (.task ⟨x, .stop⟩)

/-- The states whose cases do not wait for a stop task. -/
def Passing (label : NetSockState) : Prop :=
  label.position < 6 ∨ 7 < label.position ∧ label.position < 11

instance (label : NetSockState) : Decidable (Passing label) := inferInstanceAs (Decidable (_ ∨ _))

theorem Falls.not_halting {state label : NetSockState} (falls : Falls state label)
    (passing : Passing label) : ¬Halting state := by
  have place : Halting state → state.position = 6 ∨ state.position = 12 := by
    rintro (rfl | rfl)
    · exact .inl rfl
    · exact .inr rfl
  intro halting
  have position := place halting
  obtain ⟨earlier, returns⟩ := falls
  rw [Passing] at passing
  omega

/-- The states to which the cells move a socket that runs on. -/
def Ordinary (state : NetSockState) : Prop :=
  state ≠ .idle ∧ state ≠ .removingFd ∧ state ≠ .done ∧ state ≠ .cancelling ∧ state ≠ .stopping ∧
    state ≠ .stoppingAccept

instance (state : NetSockState) : Decidable (Ordinary state) :=
  inferInstanceAs (Decidable (_ ∧ _))

theorem Ordinary.not_halting {state : NetSockState} (ordinary : Ordinary state) :
    ¬Halting state := by
  rintro (rfl | rfl)
  · exact ordinary.2.1 rfl
  · exact ordinary.2.2.2.2.1 rfl

namespace Settled

variable {v v' : LifeView} {t : TaskView} {feeding : WorkerId → Option Body} {x : SockId}

theorem update (settled : Settled v t feeding)
    (others : ∀ y, y ≠ x → v'.control y = v.control y) (self : (v'.control x).Settled)
    (halting : Halting (v'.control x).state ↔ Halting (v.control x).state) :
    Settled v' t feeding := by
  refine ⟨fun y => ?_, fun y => ?_, settled.once⟩
  · by_cases equal : y = x
    · exact equal ▸ self
    · rw [others y equal]
      exact settled.control y
  · by_cases equal : y = x
    · subst equal
      exact halting.trans (settled.pending y)
    · rw [others y equal]
      exact settled.pending y

/-- Tasks other than stop tasks make no difference. -/
theorem execute (settled : Settled v t feeding) {task : TaskId} (other : task.name ≠ .stop) :
    Settled v (t.execute task) feeding := by
  have same (y : SockId) : (t.execute task).queued ⟨y, .stop⟩ = t.queued ⟨y, .stop⟩ := by
    rw [TaskView.queued_execute]
    have different : (⟨y, .stop⟩ : TaskId) ≠ task := fun equal => other (by rw [← equal])
    simp [different]
  refine ⟨settled.control, fun y => ?_, fun y => ?_⟩
  · rw [StopPending, same, TaskView.worker_execute]
    exact settled.pending y
  · rw [same, TaskView.worker_execute]
    exact settled.once y

/-- A socket that begins to wait for its stop task, which is queued. -/
theorem halt (settled : Settled v t feeding) (others : ∀ y, y ≠ x → v'.control y = v.control y)
    (self : (v'.control x).Settled) (before : ¬Halting (v.control x).state)
    (after : Halting (v'.control x).state) : Settled v' (t.execute ⟨x, .stop⟩) feeding := by
  have absent : feeding (t.worker x) ≠ some (.task ⟨x, .stop⟩) := fun fed =>
    before ((settled.pending x).mpr (.inr fed))
  have same {y : SockId} (equal : y ≠ x) :
      (t.execute ⟨x, .stop⟩).queued ⟨y, .stop⟩ = t.queued ⟨y, .stop⟩ := by
    rw [TaskView.queued_execute]
    simp [equal]
  refine ⟨fun y => ?_, fun y => ?_, fun y => ?_⟩
  · by_cases equal : y = x
    · exact equal ▸ self
    · rw [others y equal]
      exact settled.control y
  · by_cases equal : y = x
    · subst equal
      refine iff_of_true after (.inl ?_)
      rw [TaskView.queued_execute]
      simp
    · rw [others y equal, StopPending, same equal, TaskView.worker_execute]
      exact settled.pending y
  · rw [TaskView.worker_execute]
    by_cases equal : y = x
    · subst equal
      exact fun _ => absent
    · rw [same equal]
      exact settled.once y

theorem setState (settled : Settled v t feeding) (running : (v.control x).fsm ≠ .stopping)
    (before : ¬Halting (v.control x).state) {state : NetSockState} (ordinary : Ordinary state) :
    Settled (v.setState x state) t feeding := by
  have after := ordinary.not_halting
  obtain ⟨notIdle, _, notDone, notCancelling, notStopping, notWaiting⟩ := ordinary
  refine settled.update (fun y other => control_setState_of_ne v other state) ?_ ?_
  · rw [control_setState]
    exact ⟨iff_of_false running (not_or.mpr ⟨notStopping, notWaiting⟩), (absurd · notIdle),
      (absurd · notDone), notCancelling⟩
  · rw [control_setState]
    exact iff_of_false after before

/-- A socket that gives up its descriptor. -/
theorem fail (settled : Settled v t feeding) (running : (v.control x).fsm ≠ .stopping)
    (before : ¬Halting (v.control x).state)
    (failed : ∃ u, v.Drops x u ∧ v' = u.setState x .done) : Settled v' t feeding := by
  obtain ⟨u, drops, rfl⟩ := failed
  refine settled.update (x := x) (fun y other => ?_) ?_ ?_
  · rw [control_setState_of_ne u other, drops.control_of_ne other]
  · rw [control_setState, drops.control]
    exact ⟨iff_of_false running (by simp), by rintro ⟨⟩, fun _ => rfl, by rintro ⟨⟩⟩
  · rw [control_setState]
    exact iff_of_false (by simp [Halting]) before

/-- A socket that takes over a descriptor. -/
theorem takeOver (settled : Settled v t feeding) (notDone : (v.control x).state ≠ .done)
    (others : ∀ y, y ≠ x → v'.control y = v.control y) {s : Fd}
    (self : v'.control x = { v.control x with s := s }) : Settled v' t feeding := by
  refine settled.update (x := x) others ?_ ?_
  · rw [self]
    have before := settled.control x
    exact ⟨before.stopping, before.idle, (absurd · notDone), before.notCancelling⟩
  · rw [self]

/-- A machine that stops at once. -/
theorem finish {u : LifeView} (settled : Settled v t feeding)
    (before : ¬Halting (v.control x).state) (others : ∀ y, y ≠ x → u.control y = v.control y) :
    Settled (u.finish x) t feeding := by
  refine settled.update (x := x) (fun y other => ?_) ?_ ?_
  · rw [control_finish_of_ne u other, others y other]
  · rw [control_finish]
    exact ⟨by simp, fun _ => rfl, by rintro ⟨⟩, by rintro ⟨⟩⟩
  · rw [control_finish]
    exact iff_of_false (by simp [Halting]) before

/-- Workers that turn to something other than a stop task. -/
theorem of_feeding {feeding' : WorkerId → Option Body} (settled : Settled v t feeding)
    (same : ∀ y, feeding' (t.worker y) = some (.task ⟨y, .stop⟩) ↔
      feeding (t.worker y) = some (.task ⟨y, .stop⟩)) : Settled v t feeding' := by
  refine ⟨settled.control, fun y => ?_, fun y => ?_⟩
  · rw [settled.pending y, StopPending, StopPending, same]
  · rw [ne_eq, same]
    exact settled.once y

end Settled

/-! ## The cells -/

section Cells

variable {action : ActionCall} {x : SockId} {sys : Sys} {src type : Int} {w w' : World}
  {label : NetSockState} {feeding : WorkerId → Option Body}

theorem CellRun.settled (settled : Settled w.life w.taskView feeding)
    (running : (w.sock x).fsm.state ≠ .stopping) (falls : Falls (w.sock x).state label)
    (notStop : src ≠ kNetSockSrcTaskStop)
    (notCancel : ¬(src = kNetFsmAction ∧ type = kNetSockActionCancel))
    (run : CellRun action x sys src type label w w') : Settled w'.life w'.taskView feeding := by
  have passed (passing : Passing label) : ¬Halting (w.life.control x).state :=
    falls.not_halting passing
  cases run with
  | start | listen | connect | beingAccepted | accept | acceptAgain | acceptDone =>
      rw [World.life_setState, World.taskView_setState]
      exact settled.setState running (passed (by decide)) (by decide)
  | started | activate =>
      rw [World.life_setState, World.life_addFd, World.taskView_setState, World.taskView_addFd]
      exact settled.setState running (passed (by decide)) (by decide)
  | accepted source event done =>
      cases done
      rw [World.life_raise _ _ _ _ (by decide), World.life_setState, World.taskView_raise,
        World.taskView_setState]
      exact settled.setState running (passed (by decide)) (by decide)
  | connected source event done =>
      cases done
      rw [World.life_raise _ _ _ _ (by decide), World.life_execute, World.life_setState,
        World.taskView_raise, World.taskView_execute, World.taskView_setState]
      exact (settled.setState running (passed (by decide)) (by decide)).execute (by simp)
  | refused source event done =>
      rw [closeAndFail_taskView done]
      exact settled.fail running (passed (by decide)) (closeAndFail_life done)
  | connectingErr source event done | activeErr source event done =>
      rw [removeAndFail_taskView done]
      exact settled.fail running (passed (by decide)) (removeAndFail_life done)
  | removed source | cancelled source => exact absurd source notStop
  | connectingOut source event done =>
      rw [connectingFdOut_taskView done]
      obtain active | failed := connectingFdOut_life done
      · rw [active]
        exact settled.setState running (passed (by decide)) (by decide)
      · exact settled.fail running (passed (by decide)) failed
  | activeIn source event done =>
      rw [activeFdIn_taskView done, activeFdIn_life done]
      exact settled
  | activeOut source event done =>
      rw [activeFdOut_taskView done, activeFdOut_life done]
      exact settled
  | activeError source event done =>
      cases done
      rw [asyncStop_life, World.life_setState, World.taskView_asyncStop, World.taskView_setState]
      refine settled.halt (fun y other => control_setState_of_ne _ other _) ?_
        (passed (by decide)) ?_
      · rw [control_setState]
        exact ⟨iff_of_false running (by simp), by rintro ⟨⟩, by rintro ⟨⟩, by rintro ⟨⟩⟩
      · rw [control_setState]
        exact .inl rfl
  | cancel source event => exact absurd ⟨source, event⟩ notCancel
  | acceptIn source event done =>
      rw [acceptingFdIn_taskView done]
      obtain ⟨_, same | failed⟩ | ⟨y, fd, _, _, waiting, _, taken⟩ := acceptingFdIn_life done
      · rw [same]
        exact settled
      · rw [failed]
        exact settled.setState running (passed (by decide)) (by decide)
      · have different : x ≠ y := by
          rintro rfl
          obtain isIdle | isWaiting := waiting
          · exact absurd falls (by rw [isIdle]; decide)
          · exact absurd falls (by rw [isWaiting]; decide)
        have before : ¬Halting (w.life.control y).state := by
          rintro (removing | stopping)
          · exact absurd (waiting.imp removing.symm.trans removing.symm.trans) (by simp)
          · exact absurd (waiting.imp stopping.symm.trans stopping.symm.trans) (by simp)
        have runs : (w.life.control y).fsm ≠ .stopping := by
          intro stopping
          obtain state | state := (settled.control y).stopping.mp stopping
          · exact absurd (waiting.imp state.symm.trans state.symm.trans) (by simp)
          · exact absurd (waiting.imp state.symm.trans state.symm.trans) (by simp)
        have notDone : (w.life.control y).state ≠ .done := by
          intro state
          exact absurd (waiting.imp state.symm.trans state.symm.trans) (by simp)
        have took : Settled (w.life.takeOver y fd) w.taskView feeding :=
          settled.takeOver notDone (fun z other => control_takeOver_of_ne _ other fd)
            (control_takeOver _ y fd)
        have accepted :
            Settled ((w.life.takeOver y fd).setState y .accepted) w.taskView feeding := by
          refine took.setState ?_ ?_ (by decide)
          · rw [control_takeOver]
            exact runs
          · rw [control_takeOver]
            exact before
        rw [taken]
        refine accepted.setState ?_ ?_ (by decide)
        · rw [control_setState_of_ne _ different, control_takeOver_of_ne _ different]
          exact running
        · rw [control_setState_of_ne _ different, control_takeOver_of_ne _ different]
          exact passed (by decide)
  | ignored => exact settled

theorem FedRun.settled (settled : Settled w.life w.taskView feeding)
    (notStop : src ≠ kNetSockSrcTaskStop)
    (notCancel : ¬(src = kNetFsmAction ∧ type = kNetSockActionCancel))
    (run : FedRun action x sys src type w w') : Settled w'.life w'.taskView feeding := by
  cases run with
  | internal name =>
      rw [World.life_internalTask, World.taskView_internalTask]
      exact settled
  | @cell _ lines _ running falls run _ =>
      exact CellRun.settled (w := { w with stdout := w.stdout ++ lines }) settled running falls
        notStop notCancel run
  | released stopping state _ done =>
      rw [(finish2_life done).2, finish2_taskView done]
      refine settled.finish ?_ fun _ _ => rfl
      rintro (removing | stops)
      · cases removing.symm.trans state
      · cases stops.symm.trans state
  | ignored => exact settled
  | finished _ _ event => exact absurd event notStop
  | badState => exact settled

/-- What the stop task does to a socket that waits for it. -/
theorem feedStop_life (settled : (w.life.control x).Settled) (halting : Halting (w.sock x).state)
    (done : feed sys x kNetSockSrcTaskStop kNetWorkerTaskExecute w = .ok w') :
    w'.taskView = w.taskView ∧ ∃ u, w.life.Drops x u ∧
      ((w.sock x).state = .removingFd ∧ w'.life = u.setState x .done ∨
        (w.sock x).state = .stopping ∧ w'.life = u.finish x) := by
  have plain : ¬(kNetSockSrcTaskStop = kNetFsmAction ∧ kNetWorkerTaskExecute = kNetFsmStop) := by
    decide
  obtain removing | stopping := halting
  · have running : (w.sock x).fsm.state ≠ .stopping := by
      intro stops
      obtain state | state := settled.stopping.mp stops
      · cases removing.symm.trans state
      · cases removing.symm.trans state
    simp only [feed, feedWithin] at done
    split_ifs at done
    have internal : internalTasks x kNetSockSrcTaskStop kNetWorkerTaskExecute = none := rfl
    simp only [netSocketHandler, internal, removing] at done
    have removed : removeAndFail x sys w = .ok w' := done
    obtain ⟨u, drops, life⟩ := removeAndFail_life removed
    exact ⟨removeAndFail_taskView removed, u, drops, .inl ⟨removing, life⟩⟩
  · have stops : (w.sock x).fsm.state = .stopping := settled.stopping.mpr (.inl stopping)
    cases feed_run plain done with
    | internal name other event => cases name <;> first | exact absurd rfl other | cases event
    | cell running => exact absurd stops running
    | released _ state => cases stopping.symm.trans state
    | ignored _ _ event => exact absurd rfl event
    | finished _ _ _ removing done =>
        obtain ⟨u, drops, life⟩ := finish1_life done
        rw [World.life_rmFd removing] at drops
        exact ⟨(finish1_taskView done).trans (World.taskView_rmFd removing), u, drops,
          .inr ⟨stopping, life⟩⟩
    | badState _ other => exact absurd stopping other.1

/-- Executing a stop task. -/
theorem feedStop_settled (settled : Settled w.life w.taskView feeding)
    (fedBy : feeding (w.taskView.worker x) = some (.task ⟨x, .stop⟩))
    (done : feed sys x kNetSockSrcTaskStop kNetWorkerTaskExecute w = .ok w') :
    Settled w'.life w'.taskView (Function.update feeding (w.taskView.worker x) none) := by
  have halting : Halting (w.life.control x).state := (settled.pending x).mpr (.inr fedBy)
  obtain ⟨tasks, u, drops, outcome⟩ := feedStop_life (settled.control x) halting done
  have others : ∀ y, y ≠ x → w'.life.control y = w.life.control y := by
    intro y other
    obtain ⟨_, life⟩ | ⟨_, life⟩ := outcome
    · rw [life, control_setState_of_ne _ other, drops.control_of_ne other]
    · rw [life, control_finish_of_ne _ other, drops.control_of_ne other]
  have self : (w'.life.control x).Settled ∧ ¬Halting (w'.life.control x).state := by
    obtain ⟨state, life⟩ | ⟨_, life⟩ := outcome
    · have running : (w.life.control x).fsm ≠ .stopping := by
        intro stops
        obtain other | other := (settled.control x).stopping.mp stops
        · cases state.symm.trans other
        · cases state.symm.trans other
      rw [life, control_setState, drops.control]
      exact ⟨⟨iff_of_false running (by simp), by rintro ⟨⟩, fun _ => rfl, by rintro ⟨⟩⟩,
        by simp [Halting]⟩
    · rw [life, control_finish]
      exact ⟨⟨by simp, fun _ => rfl, by rintro ⟨⟩, by rintro ⟨⟩⟩, by simp [Halting]⟩
  have unqueued : w.taskView.queued ⟨x, .stop⟩ ≠ true := fun queued => settled.once x queued fedBy
  have still {y : SockId} (other : y ≠ x) :
      Function.update feeding (w.taskView.worker x) none (w.taskView.worker y) =
          some (.task ⟨y, .stop⟩) ↔
        feeding (w.taskView.worker y) = some (.task ⟨y, .stop⟩) := by
    by_cases same : w.taskView.worker y = w.taskView.worker x
    · rw [same, Function.update_self, fedBy]
      exact iff_of_false (by rintro ⟨⟩) fun equal => by
        cases equal
        exact other rfl
    · rw [Function.update_of_ne same]
  rw [tasks]
  refine ⟨fun y => ?_, fun y => ?_, fun y queued => ?_⟩
  · by_cases equal : y = x
    · exact equal ▸ self.1
    · rw [others y equal]
      exact settled.control y
  · by_cases equal : y = x
    · subst equal
      refine iff_of_false self.2 ?_
      rintro (queued | fed)
      · exact unqueued queued
      · rw [Function.update_self] at fed
        cases fed
    · rw [others y equal, settled.pending y, StopPending, StopPending, still equal]
  · by_cases equal : y = x
    · subst equal
      exact absurd queued unqueued
    · rw [ne_eq, still equal]
      exact settled.once y queued

theorem StartRun.settled (settled : Settled w.life w.taskView feeding) (run : StartRun x w w') :
    Settled w'.life w'.taskView feeding := by
  have fsm_idle (idle : (w.sock x).isIdle) : (w.life.control x).fsm = .idle := by
    rw [NetSocket.isIdle, Bool.and_eq_true] at idle
    exact of_decide_eq_true idle.1
  cases run with
  | started idle state =>
      rw [World.life_setFsmState, World.life_setState, World.taskView_setFsmState,
        World.taskView_setState]
      refine settled.update (x := x) (fun y other => ?_) ?_ ?_
      · rw [control_setFsm_of_ne _ other, control_setState_of_ne _ other]
      · rw [control_setFsm, control_setState]
        exact ⟨by simp, by rintro ⟨⟩, by rintro ⟨⟩, by rintro ⟨⟩⟩
      · rw [control_setFsm, control_setState]
        exact iff_of_false (by simp [Halting]) fun halting => by
          obtain other | other := halting
          · cases state.symm.trans other
          · cases state.symm.trans other
  | reported idle state stdout =>
      rw [World.life_setFsmState, World.life_report, World.taskView_setFsmState,
        World.taskView_report]
      have before := settled.control x
      refine settled.update (x := x) (fun y other => control_setFsm_of_ne _ other _) ?_ ?_
      · rw [control_setFsm]
        refine ⟨iff_of_false (by rintro ⟨⟩) fun stops => ?_, fun isIdle => absurd isIdle state,
          before.done, before.notCancelling⟩
        cases (fsm_idle idle).symm.trans (before.stopping.mpr stops)
      · rw [control_setFsm]

theorem StopRun.settled (settled : Settled w.life w.taskView feeding) (run : StopRun x sys w w') :
    Settled w'.life w'.taskView feeding := by
  have others : ∀ y, y ≠ x → (w.beginStop x).life.control y = w.life.control y := by
    intro y other
    rw [beginStop_life, control_setFsm_of_ne _ other]
  have state_eq {state : NetSockState} (same : (w.sock x).state = state) :
      (w.life.control x).state = state := same
  cases run with
  | inactive => exact settled
  | idle fsm state => cases fsm.symm.trans ((settled.control x).idle state)
  | done fsm state done =>
      rw [(finish2_life done).2, finish2_taskView done, World.taskView_beginStop]
      refine settled.finish ?_ others
      rw [state_eq state]
      simp [Halting]
  | closed fsm state done =>
      obtain ⟨u, drops, life⟩ := finish1_life done
      rw [life, finish1_taskView done, World.taskView_beginStop]
      refine settled.finish ?_ fun y other => ?_
      · rintro (equal | equal)
        · obtain same | same | same | same := state <;> cases equal.symm.trans same
        · obtain same | same | same | same := state <;> cases equal.symm.trans same
      · rw [drops.control_of_ne other, others y other]
  | pairing fsm state =>
      rw [World.life_setState, World.life_netFsmBadState, beginStop_life, World.taskView_setState,
        World.taskView_netFsmBadState, World.taskView_beginStop]
      refine settled.update (x := x) (fun y other => ?_) ?_ ?_
      · rw [control_setState_of_ne _ other, control_setFsm_of_ne _ other]
      · rw [control_setState, control_setFsm]
        exact ⟨by simp, by rintro ⟨⟩, by rintro ⟨⟩, by rintro ⟨⟩⟩
      · rw [control_setState, state_eq state]
        simp [Halting]
  | removing fsm state =>
      rw [World.life_setState, beginStop_life, World.taskView_setState, World.taskView_beginStop]
      refine settled.update (x := x) (fun y other => ?_) ?_ ?_
      · rw [control_setState_of_ne _ other, control_setFsm_of_ne _ other]
      · rw [control_setState, control_setFsm]
        exact ⟨by simp, by rintro ⟨⟩, by rintro ⟨⟩, by rintro ⟨⟩⟩
      · rw [control_setState, state_eq state]
        simp [Halting]
  | running fsm state =>
      have active : (w.life.control x).fsm ≠ .stopping := fun stops => by cases fsm.symm.trans stops
      have before : ¬Halting (w.life.control x).state := by
        rintro (equal | equal)
        · obtain same | same | same | same := state <;> cases equal.symm.trans same
        · exact active ((settled.control x).stopping.mpr (.inl equal))
      rw [World.life_setState, asyncStop_life, beginStop_life, World.taskView_setState,
        World.taskView_asyncStop, World.taskView_beginStop]
      refine settled.halt (fun y other => ?_) ?_ before ?_
      · rw [control_setState_of_ne _ other, control_setFsm_of_ne _ other]
      · rw [control_setState, control_setFsm]
        exact ⟨by simp, by rintro ⟨⟩, by rintro ⟨⟩, by rintro ⟨⟩⟩
      · rw [control_setState]
        exact .inr rfl

end Cells

/-! ## Runs -/

/-- `AsyncStop` is left to the machines. -/
def SocketCall.Mild : SocketCall → Prop
  | .asyncStop _ => False
  | .execute task => task.name ≠ .stop
  | _ => True

instance (op : SocketCall) : Decidable op.Mild :=
  match op with
  | .asyncStop _ => isFalse id
  | .execute _ => inferInstanceAs (Decidable (_ ≠ _))
  | .start _ | .startFd _ _ | .setSockOpt _ | .bind _ | .listen _ | .accept _ _ | .activate _ |
      .connect _ | .asyncSendMsg _ _ | .stop _ => isTrue trivial

section Steps

variable {sys : Sys} {w w' : World} {feeding : WorkerId → Option Body} {x : SockId}

theorem SysCall.lifeless_of_plain {call : SysCall} (plain : call.isPlain = true) :
    (Effect.sys call).isLifeless = true := by
  cases call <;> first | rfl | cases plain

theorem initFromFd_settled (settled : Settled w.life w.taskView feeding) {s : Fd}
    (done : w.initFromFd sys x s = .ok w') : Settled w'.life w'.taskView feeding := by
  obtain ⟨state, _, _, life⟩ := initFromFd_life done
  rw [World.taskView_initFromFd done, life]
  refine settled.takeOver (x := x) ?_ (fun y other => control_setS_of_ne _ other s)
    (control_setS _ x s)
  intro isDone
  exact absurd (state.imp isDone.symm.trans isDone.symm.trans) (by simp)

theorem CallRun.settled {op : SocketCall} (settled : Settled w.life w.taskView feeding)
    (mild : op.Mild) (run : CallRun sys w op w') : Settled w'.life w'.taskView feeding := by
  have action : kNetFsmAction ≠ kNetSockSrcTaskStop := by decide
  have called {v : World} (kept : Settled v.life v.taskView feeding) {calls : List SysCall}
      (plain : ∀ call ∈ calls, call.isPlain = true) :
      Settled (v.logCalls calls).life (v.logCalls calls).taskView feeding := by
    rw [World.life_logCalls _ fun call member => SysCall.lifeless_of_plain (plain call member),
      World.taskView_logCalls]
    exact kept
  cases run with
  | noSocket => exact called settled (by simp [SysCall.isPlain])
  | @start x fd initialised _ answer initialising starting =>
      have opened : Settled ((w.logCalls [.socket]).openFd fd).life
          ((w.logCalls [.socket]).openFd fd).taskView feeding :=
        have before : Settled (w.logCalls [.socket]).life (w.logCalls [.socket]).taskView feeding :=
          called settled (by simp [SysCall.isPlain])
        ⟨before.control, before.pending, before.once⟩
      exact starting.settled (initFromFd_settled opened initialising)
  | startFd initialising starting fed =>
      exact fed.settled (starting.settled (initFromFd_settled settled initialising)) action
        (by decide)
  | asks _ plain => exact called settled plain
  | listen _ fed =>
      exact fed.settled (called settled (by simp [SysCall.isPlain])) action (by decide)
  | @accept x listener begun accepting starting fed mine theirs =>
      have first : Settled begun.life begun.taskView feeding := by
        cases starting with
        | begins starting fed => exact fed.settled (starting.settled settled) action (by decide)
        | busy => exact settled
      have second := fed.settled first action (by decide)
      rw [World.life_execute, World.life_setAsock, World.life_setAsock, World.taskView_execute,
        World.taskView_setAsock, World.taskView_setAsock]
      exact second.execute (by simp)
  | activate fed => exact fed.settled settled action (by decide)
  | connectDone fed answer finishing =>
      have connecting := fed.settled settled action (by decide)
      exact finishing.settled (called connecting (by simp [SysCall.isPlain])) action (by decide)
  | connectFails fed answer failing =>
      refine failing.settled ?_ action (by decide)
      rw [World.life_setErrnum, World.taskView_setErrnum]
      exact called (fed.settled settled action (by decide)) (by simp [SysCall.isPlain])
  | connecting fed answer =>
      rw [World.life_execute, World.taskView_execute]
      exact (called (fed.settled settled action (by decide)) (by simp [SysCall.isPlain])).execute
        (by simp)
  | asyncSendMsg x msg =>
      rw [World.asyncSendMsg, World.life_execute, World.life_pushMsg, World.taskView_execute,
        World.taskView_pushMsg]
      exact settled.execute (by simp)
  | execute task =>
      rw [World.life_execute, World.taskView_execute]
      exact settled.execute mild
  | stop stopping => exact stopping.settled settled
  | asyncStop => exact mild.elim

end Steps

namespace Runtime

/-- A stop task is on its way exactly to the sockets that wait for it. -/
structure Settles (r : Runtime) : Prop where
  kept : r.Kept
  settled : Settled r.world.life r.world.taskView r.feeding

/-- Only calls that leave `AsyncStop` to the machines. -/
def MildCall : Runtime → RuntimeLabel SocketCall → Prop
  | _, .call _ op => op.Mild
  | _, _ => True

instance (r : Runtime) (label : RuntimeLabel SocketCall) : Decidable (MildCall r label) :=
  match label with
  | .call _ op => inferInstanceAs (Decidable op.Mild)
  | .poll _ _ _ | .snapshot _ | .pop _ | .advance _ _ => isTrue trivial

theorem Settles.step {r r' : Runtime} {label : RuntimeLabel SocketCall} (settles : r.Settles)
    (mild : MildCall r label) (stepped : socketOwner.step r label = some r') : r'.Settles := by
  obtain ⟨step, kept⟩ := settles.kept.step stepped
  refine ⟨kept, ?_⟩
  have settled := settles.settled
  have marked := settles.kept.marked
  have turns {k : WorkerId} {body : Option Body} (idle : ∀ y, r.feeding k ≠ some (.task ⟨y, .stop⟩))
      (other : ∀ y, body ≠ some (.task ⟨y, .stop⟩)) :
      Settled r.world.life r.world.taskView (Function.update r.feeding k body) := by
    refine settled.of_feeding fun y => ?_
    by_cases equal : r.world.taskView.worker y = k
    · rw [equal, Function.update_self]
      exact iff_of_false (other y) (idle y)
    · rw [Function.update_of_ne equal]
  cases step with
  | call called feeding taken =>
      rw [feeding]
      exact (SocketCall.run_callRun called).settled settled mild
  | poll idle world feeding taken =>
      rw [world, feeding]
      exact turns (fun y => by rw [idle]; rintro ⟨⟩) (by rintro _ ⟨⟩)
  | @snapshot k _ empty world feeding taken =>
      have requeues := World.Requeues.clearTasks r.world k
      rw [world, feeding, requeues.life_eq, World.taskView_clearTasks]
      exact ⟨settled.control, settled.pending, settled.once⟩
  | @pop k task tasks _ idle front world feeding taken =>
      have requeues := World.Requeues.unqueueTask r.world task
      rw [world, feeding, requeues.life_eq, World.taskView_unqueueTask]
      obtain ⟨home, queued⟩ := marked.waiting k task (by simp [front])
      have still (y : SockId) (other : ⟨y, .stop⟩ ≠ task) :
          (r.world.taskView.unqueue task).queued ⟨y, .stop⟩ = r.world.taskView.queued ⟨y, .stop⟩ :=
        Function.update_of_ne other _ _
      refine ⟨settled.control, fun y => ?_, fun y mark => ?_⟩
      · rw [settled.pending y]
        by_cases equal : (⟨y, .stop⟩ : TaskId) = task
        · subst equal
          refine iff_of_true (.inl queued) (.inr ?_)
          change Function.update r.feeding k _ (r.world.taskView.worker y) = _
          rw [show r.world.taskView.worker y = k from home, Function.update_self]
        · rw [StopPending, StopPending, still y equal]
          refine or_congr_right ?_
          change r.feeding (r.world.taskView.worker y) = _ ↔
            Function.update r.feeding k _ (r.world.taskView.worker y) = _
          by_cases here : r.world.taskView.worker y = k
          · rw [here, idle, Function.update_self]
            exact iff_of_false (by rintro ⟨⟩) fun same => equal (by cases same; rfl)
          · rw [Function.update_of_ne here]
      · by_cases equal : (⟨y, .stop⟩ : TaskId) = task
        · subst equal
          change Function.update r.world.taskView.queued _ false _ = true at mark
          rw [Function.update_self] at mark
          cases mark
        · rw [still y equal] at mark
          change Function.update r.feeding k _ (r.world.taskView.worker y) ≠ _
          by_cases here : r.world.taskView.worker y = k
          · rw [here, Function.update_self]
            exact fun same => equal (by cases same; rfl)
          · rw [Function.update_of_ne here]
            exact settled.once y mark
  | @feed k sys body x src type _ fedBy fed free done feeding taken =>
      rw [feeding]
      by_cases stops : body = .task ⟨x, .stop⟩
      · subst stops
        cases fed
        have home : r.world.taskView.worker x = k := marked.homed k ⟨x, .stop⟩ fedBy
        subst home
        exact feedStop_settled settled fedBy done
      · have idle (y : SockId) : r.feeding k ≠ some (.task ⟨y, .stop⟩) := by
          rw [fedBy]
          intro same
          cases same
          cases fed
          exact stops rfl
        have turned : Settled r.world.life r.world.taskView (Function.update r.feeding k none) :=
          turns idle (by rintro _ ⟨⟩)
        exact (feed_run (Body.fed_not_stop fed) done).settled turned
          (fun isStop => stops (Body.fed_stop fed isStop))
          fun isCancel => Body.fed_not_action fed isCancel.1
  | other plain requeues tasks feeding taken =>
      rw [feeding, tasks, requeues.life_eq]
      exact settled

theorem Fresh.settles {r : Runtime} (fresh : r.Fresh) : r.Settles := by
  have initial (x : SockId) : r.world.life.control x = ⟨.idle, .idle, -1⟩ := by
    obtain ⟨memory, src, addr, worker, initialised⟩ := fresh.socket x
    change (r.world.sock x).control = _
    rw [initialised]
    rfl
  have unmarked (task : TaskId) : r.world.taskView.queued task = false := by
    obtain ⟨memory, src, addr, worker, initialised⟩ := fresh.socket task.sock
    change (r.world.sock task.sock).task task.name = false
    rw [initialised]
    rfl
  refine ⟨fresh.kept, fun x => ?_, fun x => ?_, fun x queued => ?_⟩
  · rw [initial]
    exact ⟨by simp, fun _ => rfl, by rintro ⟨⟩, by rintro ⟨⟩⟩
  · rw [initial]
    refine iff_of_false (by simp [Halting]) ?_
    rintro (queued | fed)
    · rw [unmarked] at queued
      cases queued
    · rw [Runtime.feeding, fresh.thread] at fed
      cases fed
  · rw [unmarked] at queued
    cases queued

end Runtime

end Klibmsg
