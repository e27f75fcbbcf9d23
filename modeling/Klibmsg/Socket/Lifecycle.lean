import Klibmsg.Socket.Descriptors

/-!
# The two states of a socket and its descriptor

As long as only expected events are fed, the state of a socket determines the state of its machine
and whether it holds a descriptor.  There is one exception: `Accept` pairs a listener with a socket
whose machine it does not start when that machine is not idle, and when the socket has become idle
before the connection arrives, the listener moves it to `Accepted` while its machine stays idle.
-/

namespace Klibmsg

open LifeView

/-! ## Sockets in their states -/

/-- The machine is not being stopped; nor is it idle, when `strict`. -/
def Control.Running (strict : Prop) (c : Control) : Prop :=
  c.fsm ≠ .stopping ∧ (strict → c.fsm ≠ .idle)

/-- What a socket is like in each state.  A socket that is not idle has a machine that is not idle
either, when `strict`. -/
def Control.Regular (strict : Prop) (c : Control) : Prop :=
  match c.state with
  | .idle => c.fsm = .idle ∧ c.s = -1
  | .beingAccepted => c.fsm = .active ∧ c.s = -1
  | .done => c.Running strict ∧ c.s = -1
  | .stopping => c.fsm = .stopping ∧ c.s ≠ -1
  | .cancelling | .stoppingAccept => False
  | .starting | .accepted | .connecting | .active | .removingFd | .listening | .accepting |
      .acceptingError => c.Running strict ∧ c.s ≠ -1

/-- Every socket is regular. -/
def LifeView.Regular (strict : Prop) (v : LifeView) : Prop := ∀ x, (v.control x).Regular strict

section Regular

variable {strict : Prop} {v v' : LifeView} {x : SockId}

theorem LifeView.Regular.update (regular : v.Regular strict)
    (others : ∀ y, y ≠ x → v'.control y = v.control y) (self : (v'.control x).Regular strict) :
    v'.Regular strict := by
  intro y
  by_cases equal : y = x
  · exact equal ▸ self
  · rw [others y equal]
    exact regular y

theorem LifeView.Regular.setState (regular : v.Regular strict) {state : NetSockState}
    (self : ({ v.control x with state := state } : Control).Regular strict) :
    (v.setState x state).Regular strict :=
  regular.update (fun _ other => control_setState_of_ne v other state)
    (by rwa [control_setState])

/-- A socket that gives up its descriptor. -/
theorem LifeView.Regular.fail (regular : v.Regular strict) (running : (v.control x).Running strict)
    (failed : ∃ u, v.Drops x u ∧ v' = u.setState x .done) : v'.Regular strict := by
  obtain ⟨u, drops, rfl⟩ := failed
  refine regular.update (x := x) (fun y other => ?_) ?_
  · rw [control_setState_of_ne u other, drops.control_of_ne other]
  · rw [control_setState, drops.control]
    exact ⟨running, rfl⟩

/-- A socket whose machine has stopped. -/
theorem LifeView.Regular.finish {u : LifeView} (regular : v.Regular strict)
    (others : ∀ y, y ≠ x → u.control y = v.control y) (closed : (u.control x).s = -1)
    (done : v' = u.finish x) : v'.Regular strict := by
  subst done
  refine regular.update (x := x) (fun y other => ?_) ?_
  · rw [control_finish_of_ne _ other, others y other]
  · rw [control_finish]
    exact ⟨rfl, closed⟩

end Regular

/-! ## Feeding a machine -/

/-- Control is at `FdIn` of `ACCEPTING`, `accept4` returns a descriptor, and the socket that is
paired with the listener is idle. -/
def World.AcceptsIdle (w : World) (sys : Sys) (x : SockId) (src type : Int) : Prop :=
  src = kNetSockSrcFd ∧ type = kNetWorkerFdIn ∧ (w.sock x).state = .accepting ∧
    ∃ y fd, (w.sock x).asock = some y ∧ sys.accept4 = .fd fd ∧ (w.sock y).state = .idle

section Feeding

variable {strict : Prop} {w w' : World} {x : SockId} {sys : Sys} {src type : Int}

theorem accepting_listed (listed : Listed .accepting src type) (isIn : type = kNetWorkerFdIn) :
    src = kNetSockSrcFd := by
  subst isIn
  obtain ⟨_, isDone | isCancel⟩ | ⟨isFd, _⟩ := listed
  · exact absurd isDone (by decide)
  · exact absurd isCancel (by decide)
  · exact isFd

/-- The actions that leave a socket in an irregular state, from which the operation that feeds them
goes on. -/
def Provisional (state : NetSockState) (src type : Int) : Prop :=
  src = kNetFsmAction ∧ (type = kNetFsmStart ∨ type = kNetSockActionBeingAccepted ∨
    type = kNetSockActionCancel ∨ type = kNetSockActionDone ∧ state = .beingAccepted)

theorem not_provisional {state : NetSockState} (plain : type ≠ kNetFsmStart ∧
    type ≠ kNetSockActionBeingAccepted ∧ type ≠ kNetSockActionCancel ∧ type ≠ kNetSockActionDone) :
    ¬Provisional state src type := by
  rintro ⟨_, isStart | isBeing | isCancel | ⟨isDone, _⟩⟩
  · exact plain.1 isStart
  · exact plain.2.1 isBeing
  · exact plain.2.2.1 isCancel
  · exact plain.2.2.2 isDone

theorem Control.regular_iff {c : Control} {state : NetSockState} (same : c.state = state) :
    c.Regular strict ↔ ({ c with state := state } : Control).Regular strict := by
  rw [← same]

theorem Control.Regular.at {c : Control} (regular : c.Regular strict) {state : NetSockState}
    (same : c.state = state) : ({ c with state := state } : Control).Regular strict :=
  (Control.regular_iff same).mp regular

theorem CellRun.regular {label : NetSockState} (regular : w.life.Regular strict)
    (state : (w.sock x).state = label) (listed : Listed label src type)
    (final : ¬Provisional label src type) (kernel : sys.Kernel w.fds)
    (allowed : strict → ¬w.AcceptsIdle sys x src type)
    (run : CellRun (nestedAction sys) x sys src type label w w') : w'.life.Regular strict := by
  have here : ({ w.life.control x with state := label } : Control).Regular strict :=
    (regular x).at state
  cases run with
  | start _ source event => exact absurd ⟨listed.1, .inl event⟩ final
  | beingAccepted _ source event => exact absurd ⟨listed.1, .inr (.inl event)⟩ final
  | accepted source event done => exact absurd ⟨listed.1, .inr (.inr (.inr ⟨event, rfl⟩))⟩ final
  | listen | connect | accept | acceptAgain | acceptDone =>
      rw [World.life_setState]
      exact regular.setState here
  | started | activate =>
      rw [World.life_setState, World.life_addFd]
      exact regular.setState here
  | connected source event done =>
      cases done
      simp only [World.life_raise, World.life_execute, World.life_setState, ne_eq, reduceCtorEq,
        not_false_eq_true]
      exact regular.setState here
  | activeError source event done =>
      cases done
      rw [asyncStop_life, World.life_setState]
      exact regular.setState here
  | refused source event done => exact regular.fail here.1 (closeAndFail_life done)
  | connectingErr source event done | activeErr source event done | removed source event done =>
      exact regular.fail here.1 (removeAndFail_life done)
  | connectingOut source event done =>
      obtain active | failed := connectingFdOut_life done
      · rw [active]
        exact regular.setState here
      · exact regular.fail here.1 failed
  | activeIn source event done => rwa [activeFdIn_life done]
  | activeOut source event done => rwa [activeFdOut_life done]
  | cancel source event done =>
      have isAction : src = kNetFsmAction := by
        subst event
        obtain ⟨isAction, _⟩ | ⟨_, isIn⟩ := listed
        · exact isAction
        · exact absurd isIn (by decide)
      exact absurd ⟨isAction, .inr (.inr (.inl event))⟩ final
  | acceptIn source event done =>
      obtain ⟨_, same | failed⟩ | ⟨y, fd, paired, answer, accepted, empty, taken⟩ :=
        acceptingFdIn_life done
      · rwa [same]
      · rw [failed]
        exact regular.setState here
      · have valid := (kernel.accept4 fd answer).1
        have different : x ≠ y := by
          rintro rfl
          rw [state] at accepted
          simp at accepted
        have running : ({ w.life.control y with s := fd } : Control).Running strict := by
          obtain isIdle | waiting := accepted
          · have idle := (regular y).at isIdle
            refine ⟨fun stopping => (by cases idle.1.symm.trans stopping), fun strictly => ?_⟩
            exact absurd ⟨accepting_listed listed event, event, state, y, fd, paired,
              answer, isIdle⟩
              (allowed strictly)
          · have active := (regular y).at waiting
            exact ⟨fun stopping => (by cases active.1.symm.trans stopping),
              fun _ idle => (by cases active.1.symm.trans idle)⟩
        have middle : ((w.life.takeOver y fd).setState y .accepted).Regular strict := by
          refine regular.update (x := y) (fun z other => ?_) ?_
          · rw [control_setState_of_ne _ other, control_takeOver_of_ne _ other]
          · rw [control_setState, control_takeOver]
            refine ⟨running, fun none => ?_⟩
            change fd = -1 at none
            exact absurd valid (by rw [none]; decide)
        rw [taken]
        refine middle.setState ?_
        rw [control_setState_of_ne _ different, control_takeOver_of_ne _ different]
        exact here
  | cancelled => exact here.elim
  | ignored => exact regular

theorem ExpectedRun.regular (regular : w.life.Regular strict)
    (final : ¬Provisional (w.sock x).state src type) (kernel : sys.Kernel w.fds)
    (allowed : strict → ¬w.AcceptsIdle sys x src type)
    (run : ExpectedRun (nestedAction sys) x sys src type w w') : w'.life.Regular strict := by
  cases run with
  | internal name => rwa [World.life_internalTask]
  | cell running listed run => exact run.regular regular rfl listed final kernel allowed
  | released stopping state _ done => exact ((regular x).at state).elim
  | ignored => exact regular
  | finished stopping state event removing done =>
      obtain ⟨u, drops, finished⟩ := finish1_life done
      rw [World.life_rmFd removing] at drops
      exact regular.finish (fun y other => drops.control_of_ne other)
        (congrArg Control.s drops.control) finished

theorem StopRun.regular (regular : w.life.Regular strict) (quiet : w'.stdout = w.stdout)
    (run : StopRun x sys w w') : w'.life.Regular strict := by
  have others : ∀ y, y ≠ x → (w.beginStop x).life.control y = w.life.control y := by
    intro y other
    rw [beginStop_life, control_setFsm_of_ne _ other]
  have stopping : ∀ state, (w.sock x).state = state →
      ({ w.life.control x with state := state } : Control).Regular strict :=
    fun state same => (regular x).at same
  cases run with
  | inactive => exact regular
  | idle fsm state => cases (stopping .idle state).1.symm.trans fsm
  | done fsm state done =>
      refine regular.finish others ?_ (finish2_life done).2
      rw [beginStop_life, control_setFsm]
      exact (stopping .done state).2
  | closed fsm state done =>
      obtain ⟨u, drops, finished⟩ := finish1_life done
      refine regular.finish (fun y other => ?_) (congrArg Control.s drops.control) finished
      rw [drops.control_of_ne other, others y other]
  | pairing => 
      change w.stdout ++ [_] = w.stdout at quiet
      simp at quiet
  | removing fsm state =>
      have here := stopping .removingFd state
      rw [World.life_setState, beginStop_life]
      refine regular.update (x := x) (fun y other => ?_) ?_
      · rw [control_setState_of_ne _ other, control_setFsm_of_ne _ other]
      · rw [control_setState, control_setFsm]
        exact ⟨rfl, here.2⟩
  | running fsm state =>
      have holds : (w.sock x).s ≠ -1 := by
        obtain state | state | state | state := state
        · exact (stopping .connecting state).2
        · exact (stopping .active state).2
        · exact (stopping .stopping state).2
        · exact (stopping .stoppingAccept state).elim
      rw [World.life_setState, asyncStop_life, beginStop_life]
      refine regular.update (x := x) (fun y other => ?_) ?_
      · rw [control_setState_of_ne _ other, control_setFsm_of_ne _ other]
      · rw [control_setState, control_setFsm]
        exact ⟨rfl, holds⟩

end Feeding

/-! ## The public operations -/

section Operations

variable {strict : Prop} {w middle w' : World} {x : SockId} {sys : Sys} {type : Int}

/-- Of two pieces of code that print nothing, neither prints. -/
theorem quiet_split (first : w.stdout <+: middle.stdout) (second : middle.stdout <+: w'.stdout)
    (quiet : w'.stdout = w.stdout) :
    middle.stdout = w.stdout ∧ w'.stdout = middle.stdout := by
  rw [quiet] at second
  have same : middle.stdout = w.stdout :=
    second.eq_of_length (le_antisymm second.length_le first.length_le)
  exact ⟨same, quiet.trans same.symm⟩

theorem fsmAction_stdout (done : fsmAction sys x type w = .ok w') : w.stdout <+: w'.stdout := by
  have steps : SocketSteps .all w w' :=
    fsmAction_steps (fun _ => trivial) (fun _ _ => trivial) done
  exact steps.stdout_grows

theorem listed_start {state : NetSockState} (listed : Listed state kNetFsmAction kNetFsmStart) :
    state = .idle ∨ state = .done := by
  cases state <;> revert listed <;> decide

/-- `Start`, when nothing is reported. -/
theorem fsmStart_expected (done : fsmStart sys x w = .ok w') (quiet : w'.stdout = w.stdout) :
    (w.sock x).fsm.state = .idle ∧
      ((w.sock x).state = .idle ∧ w' = (w.setState x .starting).setFsmState x .active ∨
        (w.sock x).state = .done ∧ w' = w.setFsmState x .active) := by
  obtain ⟨isIdle, outcome⟩ := fsmStart_outcome done
  have idle : (w.sock x).fsm.state = .idle := by
    rw [NetSocket.isIdle, Bool.and_eq_true] at isIdle
    exact of_decide_eq_true isIdle.1
  refine ⟨idle, ?_⟩
  obtain ⟨state, rfl⟩ | ⟨state, stdout, rfl⟩ := outcome
  · exact .inl ⟨state, rfl⟩
  · have printed : stdout = w.stdout := quiet
    subst printed
    refine .inr ⟨?_, rfl⟩
    simp only [fsmStart, isIdle, if_true] at done
    obtain ⟨started, starting, returned⟩ := bind_eq_ok.mp done
    change Except.ok (started.setFsmState x .active) = _ at returned
    have same := congrArg World.stdout (Except.ok.inj returned)
    change started.stdout = w.stdout at same
    have running : (w.sock x).fsm.state ≠ .stopping := by simp [idle]
    cases (netSocketHandler_run running starting).expected nestedAction_steps same with
    | internal name other event => cases name <;> exact absurd event (by decide)
    | cell _ listed _ => exact (listed_start listed).resolve_left state
    | released stopping => exact absurd stopping running
    | ignored stopping => exact absurd stopping running
    | finished stopping => exact absurd stopping running

/-- A regular socket that takes over a descriptor and starts is idle. -/
theorem takeOver_start {initialised : World} {fd : Fd} (regular : w.life.Regular strict)
    (unused : (w.sock x).state = .idle ∨ (w.sock x).state = .beingAccepted)
    (same : initialised.life = w.life.takeOver x fd) (valid : 0 ≤ fd)
    (done : fsmStart sys x initialised = .ok w') (quiet : w'.stdout = initialised.stdout) :
    (w.sock x).state = .idle ∧
      w'.life = ((w.life.takeOver x fd).setState x .starting).setFsm x .active ∧
        w'.life.Regular strict := by
  have control : (initialised.sock x).control = { (w.sock x).control with s := fd } := by
    have equal : initialised.life.control x = (w.life.takeOver x fd).control x :=
      congrArg (fun v : LifeView => v.control x) same
    rwa [control_takeOver] at equal
  have state : (initialised.sock x).state = (w.sock x).state := congrArg Control.state control
  obtain ⟨_, ⟨isIdle, rfl⟩ | ⟨isDone, rfl⟩⟩ := fsmStart_expected done quiet
  · have life : ((initialised.setState x .starting).setFsmState x .active).life =
        ((w.life.takeOver x fd).setState x .starting).setFsm x .active := by
      rw [World.life_setFsmState, World.life_setState, same]
    refine ⟨state ▸ isIdle, life, ?_⟩
    rw [life]
    refine regular.update (x := x) (fun y other => ?_) ?_
    · rw [control_setFsm_of_ne _ other, control_setState_of_ne _ other,
        control_takeOver_of_ne _ other]
    · rw [control_setFsm, control_setState, control_takeOver]
      refine ⟨⟨by rintro ⟨⟩, by rintro _ ⟨⟩⟩, fun none => ?_⟩
      change fd = -1 at none
      exact absurd valid (by rw [none]; decide)
  · rw [state] at isDone
    simp [isDone] at unused

theorem start_regular {rc : Int} (regular : w.life.Regular strict) (kernel : sys.Kernel w.fds)
    (done : start sys x w = .ok (rc, w')) (quiet : w'.stdout = w.stdout) :
    w'.life.Regular strict := by
  have called : (w.logCalls [.socket]).life = w.life :=
    w.life_logCalls (by simp [Effect.isLifeless])
  simp only [start] at done
  split at done
  next =>
    cases done
    rwa [called]
  next fd answer =>
    obtain ⟨initialised, initialising, rest⟩ := bind_eq_ok.mp done
    obtain ⟨started, starting, returned⟩ := bind_eq_ok.mp rest
    cases returned
    obtain ⟨unused, _, _, taken⟩ := initFromFd_life initialising
    have same : initialised.life = w.life.takeOver x fd := by
      rw [taken, World.life_openFd, called]
      rfl
    have before : initialised.stdout = w.stdout := by
      simp only [World.initFromFd] at initialising
      split_ifs at initialising
      cases initialising
      rfl
    exact (takeOver_start regular unused same (kernel.socket fd answer).1 starting
      (quiet.trans before.symm)).2.2

/-- `StartFd`, when nothing is reported. -/
theorem startFd_expected {fd : Fd} (regular : w.life.Regular strict)
    (opened : sys.fcntl = 0 → 0 ≤ fd ∧ w.fds fd = true)
    (done : startFd sys x fd w = .ok w') (quiet : w'.stdout = w.stdout) :
    0 ≤ fd ∧ (w.sock x).s = -1 ∧
      w'.life =
          (((w.life.takeOver x fd).setState x .starting).setFsm x .active).setState x .active ∧
        w'.life.Regular strict := by
  obtain ⟨initialised, initialising, rest⟩ := bind_eq_ok.mp done
  obtain ⟨started, starting, adding⟩ := bind_eq_ok.mp rest
  obtain ⟨unused, empty, answer, taken⟩ := initFromFd_life initialising
  obtain ⟨valid, isOpen⟩ := opened answer
  have same : initialised.life = w.life.takeOver x fd := by
    rw [taken, takeOver_of_open _ _ isOpen]
  have before : initialised.stdout = w.stdout := by
    simp only [World.initFromFd] at initialising
    split_ifs at initialising
    cases initialising
    rfl
  have begins : SocketSteps .all initialised started := fsmStart_follows _ _ starting
  have begun : initialised.stdout <+: started.stdout := begins.stdout_grows
  obtain ⟨first, second⟩ := quiet_split begun (fsmAction_stdout adding) (quiet.trans before.symm)
  obtain ⟨_, life, started_regular⟩ := takeOver_start regular unused same valid starting first
  have control : started.life.control x = _ := congrArg (fun v : LifeView => v.control x) life
  rw [control_setFsm, control_setState, control_takeOver] at control
  have state : (started.sock x).state = .starting := congrArg Control.state control
  have running : (started.sock x).fsm.state ≠ .stopping := by
    have fsm : (started.sock x).fsm.state = .active := congrArg Control.fsm control
    simp [fsm]
  have switched := fsmAction_switch running adding
  rw [state] at switched
  cases switched
  have active : ((started.addFd x).setState x .active).life =
      (((w.life.takeOver x fd).setState x .starting).setFsm x .active).setState x .active := by
    rw [World.life_setState, World.life_addFd, life]
  have here := (started_regular x).at state
  refine ⟨valid, empty, active, ?_⟩
  rw [World.life_setState, World.life_addFd]
  exact started_regular.setState here

/-- The first part of `Accept`, when nothing is reported. -/
theorem acceptStart_regular (regular : w.life.Regular strict)
    (done : acceptStart sys x w = .ok w') (quiet : w'.stdout = w.stdout) :
    w'.life.Regular strict := by
  simp only [acceptStart] at done
  split_ifs at done with isIdle
  · obtain ⟨started, starting, acting⟩ := bind_eq_ok.mp done
    have begins : SocketSteps .all w started := fsmStart_follows _ _ starting
    have begun : w.stdout <+: started.stdout := begins.stdout_grows
    obtain ⟨first, second⟩ := quiet_split begun (fsmAction_stdout acting) quiet
    obtain ⟨idle, ⟨state, rfl⟩ | ⟨state, rfl⟩⟩ := fsmStart_expected starting first
    · have switched := fsmAction_switch (x := x) (by simp) acting
      rw [show ((((w.setState x .starting).setFsmState x .active)).sock x).state = .starting
        by simp]
        at switched
      cases switched
      rw [World.life_setState, World.life_setFsmState, World.life_setState]
      refine regular.update (x := x) (fun y other => ?_) ?_
      · rw [control_setState_of_ne _ other, control_setFsm_of_ne _ other,
          control_setState_of_ne _ other]
      · rw [control_setState, control_setFsm, control_setState]
        exact ⟨rfl, ((regular x).at state).2⟩
    · have switched := fsmAction_switch (x := x) (by simp) acting
      rw [show ((w.setFsmState x .active).sock x).state = .done by simpa using state] at switched
      cases switched
      rw [World.life_setFsmState]
      refine regular.update (x := x) (fun y other => control_setFsm_of_ne _ other _) ?_
      rw [control_setFsm]
      have isDone : ({ w.life.control x with fsm := .active } : Control).state = .done := state
      rw [Control.regular_iff isDone]
      exact ⟨⟨by rintro ⟨⟩, by rintro _ ⟨⟩⟩, ((regular x).at state).2⟩
  · cases done
    exact regular

/-- An action other than the provisional ones. -/
theorem fsmAction_regular (regular : w.life.Regular strict) (kernel : sys.Kernel w.fds)
    (final : ¬Provisional (w.sock x).state kNetFsmAction type)
    (done : fsmAction sys x type w = .ok w') (quiet : w'.stdout = w.stdout) :
    w'.life.Regular strict :=
  (fsmAction_expected done quiet).regular regular final kernel
    fun _ accepts => absurd accepts.1 (by decide)

theorem listen_regular {rc : Int} (regular : w.life.Regular strict) (kernel : sys.Kernel w.fds)
    (done : listen sys x w = .ok (rc, w')) (quiet : w'.stdout = w.stdout) :
    w'.life.Regular strict := by
  have called : (w.logCalls [.listen (w.sock x).s]).life.Regular strict := by
    rwa [World.life_logCalls _ (by simp [Effect.isLifeless])]
  simp only [listen] at done
  split_ifs at done
  · obtain ⟨listening, fed, returned⟩ := bind_eq_ok.mp done
    cases returned
    exact fsmAction_regular called kernel (not_provisional (by decide)) fed quiet
  · cases done
    exact called

theorem acceptPair_life {listener : SockId} (done : acceptPair x listener w = .ok w') :
    w'.life = w.life ∧ w'.stdout = w.stdout := by
  simp only [acceptPair] at done
  split_ifs at done
  cases done
  exact ⟨by simp, by rw [World.stdout_execute]; rfl⟩

theorem acceptStart_fds (done : acceptStart sys x w = .ok w') :
    DescriptorSteps False w.life w'.life := by
  simp only [acceptStart] at done
  split_ifs at done
  · obtain ⟨started, starting, acting⟩ := bind_eq_ok.mp done
    exact (fsmStart_descriptors starting).trans (fsmAction_descriptors (by decide) acting)
  · cases done
    exact .refl _

theorem Sys.Kernel.after {fds fds' : Fd → Bool} (kernel : sys.Kernel fds)
    (fewer : ∀ fd, fds fd = false → fds' fd = false) : sys.Kernel fds' :=
  ⟨fun fd answer => ⟨(kernel.socket fd answer).1, fewer fd (kernel.socket fd answer).2⟩,
    fun fd answer => ⟨(kernel.accept4 fd answer).1, fewer fd (kernel.accept4 fd answer).2⟩⟩

theorem accept_regular {listener : SockId} (regular : w.life.Regular strict)
    (kernel : sys.Kernel w.fds) (done : accept sys x listener w = .ok w')
    (quiet : w'.stdout = w.stdout) : w'.life.Regular strict := by
  obtain ⟨started, starting, rest⟩ := bind_eq_ok.mp done
  obtain ⟨accepting, fed, pairing⟩ := bind_eq_ok.mp rest
  obtain ⟨life, stdout⟩ := acceptPair_life pairing
  have begins : SocketSteps .all w started := acceptStart_follows _ _ starting
  have begun : w.stdout <+: started.stdout := begins.stdout_grows
  obtain ⟨first, second⟩ := quiet_split begun (fsmAction_stdout fed) (stdout.symm.trans quiet)
  have still := kernel.after fun fd isClosed => (acceptStart_fds starting).fds_le isClosed
  rw [life]
  exact fsmAction_regular (acceptStart_regular regular starting first) still
    (not_provisional (by decide)) fed second

/-- After `Connect`, a regular socket is not waiting to be accepted. -/
theorem connect_not_waiting (done : fsmAction sys x kNetSockActionConnect w = .ok w')
    (quiet : w'.stdout = w.stdout) : (w'.sock x).state ≠ .beingAccepted := by
  cases fsmAction_expected done quiet with
  | internal name other event => cases name <;> exact absurd event (by decide)
  | cell running listed run =>
      have expects : (w.sock x).state = .starting ∨ (w.sock x).state = .done := by
        cases state : (w.sock x).state <;> rw [state] at listed <;> revert listed <;> decide
      obtain ⟨stdout, ⟨_, rfl⟩ | ⟨_, rfl⟩⟩ := connect_switch (fsmAction_switch running done)
      · simp
      · obtain state | state := expects <;> simp [state]
  | released stopping state _ done =>
      have state := congrArg (fun v : LifeView => (v.control x).state) (finish2_life done).2
      change (w'.sock x).state = _ at state
      rw [state, control_finish]
      rintro ⟨⟩
  | ignored stopping state => simp [state]
  | finished _ _ event => exact absurd event (by decide)

theorem connect_regular (regular : w.life.Regular strict) (kernel : sys.Kernel w.fds)
    (done : connect sys x w = .ok w') (quiet : w'.stdout = w.stdout) :
    w'.life.Regular strict := by
  obtain ⟨connecting, fed, rest⟩ := bind_eq_ok.mp done
  have begun := fsmAction_stdout fed
  have called : (connecting.logCalls [.connect (connecting.sock x).s]).life = connecting.life :=
    World.life_logCalls _ (by simp [Effect.isLifeless])
  have still := kernel.after fun fd isClosed =>
    (fsmAction_descriptors (by decide) fed).fds_le isClosed
  have connect (first : connecting.stdout = w.stdout) : connecting.life.Regular strict :=
    fsmAction_regular regular kernel (not_provisional (by decide)) fed first
  dsimp only at rest
  split_ifs at rest
  · have finished := fsmAction_stdout rest
    change connecting.stdout <+: w'.stdout at finished
    obtain ⟨first, second⟩ := quiet_split begun finished quiet
    have before : (connecting.logCalls [.connect (connecting.sock x).s]).life.Regular strict := by
      rw [called]
      exact connect first
    refine fsmAction_regular before still ?_ rest second
    rintro ⟨_, isStart | isBeing | isCancel | ⟨_, waiting⟩⟩
    · exact absurd isStart (by decide)
    · exact absurd isBeing (by decide)
    · exact absurd isCancel (by decide)
    · have notWaiting := connect_not_waiting fed first
      exact notWaiting waiting
  · have finished := fsmAction_stdout rest
    change connecting.stdout <+: w'.stdout at finished
    obtain ⟨first, second⟩ := quiet_split begun finished quiet
    have before : ((connecting.logCalls [.connect (connecting.sock x).s]).setErrnum x
        sys.connect).life.Regular strict := by
      rw [World.life_setErrnum, called]
      exact connect first
    exact fsmAction_regular before still (not_provisional (by decide)) rest second
  · cases rest
    rw [World.life_execute, called]
    refine connect ?_
    rw [World.stdout_execute] at quiet
    exact quiet

end Operations

/-! ## Runs -/

/-- The answers of the system are possible, and the step reports nothing: everything that it feeds
to a handler is an internal task or listed. -/
def Lawful (r : Runtime) (label : RuntimeLabel SocketCall) : Prop :=
  Answered r.world label ∧
    ∀ r', socketOwner.step r label = some r' → r'.world.stdout = r.world.stdout

instance (r : Runtime) (label : RuntimeLabel SocketCall) : Decidable (Lawful r label) :=
  match stepped : socketOwner.step r label with
  | none =>
      decidable_of_iff (Answered r.world label)
        ⟨fun answered => ⟨answered, fun _ enabled => nomatch stepped.symm.trans enabled⟩, And.left⟩
  | some next =>
      decidable_of_iff (Answered r.world label ∧ next.world.stdout = r.world.stdout)
        ⟨fun both => ⟨both.1, fun _ enabled =>
          Option.some.inj (stepped.symm.trans enabled) ▸ both.2⟩,
          fun lawful => ⟨lawful.1, lawful.2 next stepped⟩⟩

/-- `StartFd` is given a descriptor that no socket holds, and no connection is accepted into an
idle socket. -/
def Unstrayed (r : Runtime) : RuntimeLabel SocketCall → Prop
  | .call sys op => StartsUnheld r.world (.call sys op)
  | .advance k sys => ∀ body rest x src type, (r.thread k).frames = .enter body :: rest →
      body.fed = some (x, src, type) → ¬r.world.AcceptsIdle sys x src type
  | _ => True

theorem Unstrayed.unheld {r : Runtime} {label : RuntimeLabel SocketCall}
    (unstrayed : Unstrayed r label) : StartsUnheld r.world label := by
  cases label with
  | call sys op => exact unstrayed
  | poll | snapshot | pop | advance => trivial

/-- The states of a socket agree with each other and with its descriptor, and every descriptor has
one owner, is open while it is held, and is closed once. -/
structure World.Lifecycle (w : World) : Prop where
  idle : ∀ x, (w.sock x).fsm.state = .idle ↔ (w.sock x).state = .idle
  stopping : ∀ x, (w.sock x).fsm.state = .stopping ↔
    (w.sock x).state = .stopping ∨ (w.sock x).state = .stoppingAccept
  closed : ∀ x, (w.sock x).s = -1 ↔ (w.sock x).state = .idle ∨ (w.sock x).state = .beingAccepted ∨
    (w.sock x).state = .stoppingAccept ∨ (w.sock x).state = .done
  one_owner : ∀ x y, (w.sock x).s ≠ -1 → (w.sock y).s = (w.sock x).s → y = x
  held_open : ∀ x, (w.sock x).s ≠ -1 → w.fds (w.sock x).s = true
  held_unclosed : ∀ x, (w.sock x).s ≠ -1 →
    w.trace.count (.sys (.fcntl (w.sock x).s)) = w.trace.count (.sys (.close (w.sock x).s)) + 1
  closed_once : ∀ fd, 0 ≤ fd → (∀ x, (w.sock x).s ≠ fd) →
    w.trace.count (.sys (.fcntl fd)) = w.trace.count (.sys (.close fd))

theorem Control.Regular.stopping_iff {strict : Prop} {c : Control} (regular : c.Regular strict) :
    c.fsm = .stopping ↔ c.state = .stopping ∨ c.state = .stoppingAccept := by
  obtain ⟨fsm, state, s⟩ := c
  cases state <;> simp_all [Control.Regular, Control.Running]

theorem Control.Regular.closed_iff {strict : Prop} {c : Control} (regular : c.Regular strict) :
    c.s = -1 ↔ c.state = .idle ∨ c.state = .beingAccepted ∨ c.state = .stoppingAccept ∨
      c.state = .done := by
  obtain ⟨fsm, state, s⟩ := c
  cases state <;> simp_all [Control.Regular]

theorem Control.Regular.idle_iff {c : Control} (regular : c.Regular True) :
    c.fsm = .idle ↔ c.state = .idle := by
  obtain ⟨fsm, state, s⟩ := c
  cases state <;> simp_all [Control.Regular, Control.Running]

theorem World.Lifecycle.of_regular {w : World} (regular : w.life.Regular True)
    (owned : w.life.Owned) : w.Lifecycle where
  idle x := (regular x).idle_iff
  stopping x := (regular x).stopping_iff
  closed x := (regular x).closed_iff
  one_owner := owned.unique
  held_open := owned.isOpen
  held_unclosed := owned.held
  closed_once := owned.released

theorem fed_not_provisional {body : Body} {x : SockId} {src type : Int} {state : NetSockState}
    (fed : body.fed = some (x, src, type)) : ¬Provisional state src type := by
  rintro ⟨isAction, _⟩
  cases body with
  | task queued =>
      cases fed
      cases name : queued.name <;> rw [name] at isAction <;> exact absurd isAction (by decide)
  | fd x pevent =>
      cases fed
      exact absurd isAction (by decide)
  | event event => cases fed

section Steps

variable {strict : Prop} {w w' : World} {sys : Sys} {op : SocketCall}

theorem SocketCall.run_regular (regular : w.life.Regular strict)
    (answered : Answered w (.call sys op)) (done : op.run sys w = .ok w')
    (quiet : w'.stdout = w.stdout) : w'.life.Regular strict := by
  obtain ⟨kernel, opened⟩ := answered
  simp only [SocketCall.run] at done
  split_ifs at done
  cases op with
  | start x =>
      obtain ⟨⟨rc, started⟩, starting, returned⟩ := map_eq_ok.mp done
      cases returned
      exact start_regular regular kernel starting quiet
  | startFd x fd => exact (startFd_expected regular (opened x fd rfl) done quiet).2.2.2
  | setSockOpt x =>
      obtain ⟨⟨rc, set⟩, setting, returned⟩ := map_eq_ok.mp done
      cases returned
      simp only [Klibmsg.setSockOpt] at setting
      split_ifs at setting
      cases setting
      rwa [World.life_logCalls _ (by simp [Effect.isLifeless])]
  | bind x =>
      obtain ⟨⟨rc, bound⟩, binding, returned⟩ := map_eq_ok.mp done
      cases returned
      simp only [Klibmsg.bind] at binding
      split_ifs at binding
      cases binding
      rwa [World.life_logCalls _ (by simp [Effect.isLifeless])]
  | listen x =>
      obtain ⟨⟨rc, listened⟩, listening, returned⟩ := map_eq_ok.mp done
      cases returned
      exact listen_regular regular kernel listening quiet
  | accept x listener => exact accept_regular regular kernel done quiet
  | activate x =>
      have acted : fsmAction sys x kNetSockActionActivate w = .ok w' := done
      exact fsmAction_regular regular kernel (not_provisional (by decide)) acted quiet
  | connect x => exact connect_regular regular kernel done quiet
  | asyncSendMsg x msg =>
      cases done
      rwa [World.asyncSendMsg, World.life_execute, World.life_pushMsg]
  | execute task =>
      cases done
      rwa [World.life_execute]
  | stop x => exact (fsmStop_run done).regular regular quiet
  | asyncStop x =>
      cases done
      rwa [asyncStop_life]

theorem SocketRunStep.regular {r : Runtime} {label : RuntimeLabel SocketCall}
    (regular : r.world.life.Regular strict) (answered : Answered r.world label)
    (quiet : w.stdout = r.world.stdout) (allowed : strict → Unstrayed r label)
    (step : SocketRunStep r label w) : w.life.Regular strict := by
  cases step with
  | requeue requeues => rwa [requeues.life_eq]
  | call called => exact SocketCall.run_regular regular answered called quiet
  | feed top fed free done =>
      exact (feed_expected (Body.fed_not_stop fed) done quiet).regular regular
        (fed_not_provisional fed) answered
        fun strictly => allowed strictly _ _ _ _ _ top fed

/-- A connection that is accepted into an idle socket leaves its machine idle. -/
theorem accepts_idle {x : SockId} {src type : Int} (regular : w.life.Regular True)
    (done : feed sys x src type w = .ok w') (quiet : w'.stdout = w.stdout)
    (accepts : w.AcceptsIdle sys x src type) : ¬w'.Lifecycle := by
  obtain ⟨rfl, rfl, state, y, fd, paired, answer, isIdle⟩ := accepts
  have here := (regular x).at state
  intro kept
  cases feed_expected (by decide) done quiet with
  | internal name other event => cases name <;> exact absurd event (by decide)
  | released stopping => exact here.1.1 stopping
  | ignored stopping => exact here.1.1 stopping
  | finished stopping => exact here.1.1 stopping
  | cell running listed run =>
      rw [state] at run
      cases run with
      | acceptDone _ source event => exact absurd event (by decide)
      | cancel event => exact absurd event (by decide)
      | ignored _ returns => simp at returns
      | acceptIn source event done =>
          have different : y ≠ x := by
            rintro rfl
            cases isIdle.symm.trans state
          obtain ⟨⟨errno, fails⟩, _⟩ | ⟨z, fd', paired', answer', _, _, taken⟩ :=
            acceptingFdIn_life done
          · rw [answer] at fails
            cases fails
          · cases paired.symm.trans paired'
            have control := congrArg (fun v : LifeView => v.control y) taken
            change (w'.sock y).control = _ at control
            rw [control_setState_of_ne _ different, control_setState, control_takeOver] at control
            have fsm : (w'.sock y).fsm.state = .idle :=
              (congrArg Control.fsm control).trans ((regular y).at isIdle).1
            have state' : (w'.sock y).state = .accepted := congrArg Control.state control
            cases ((kept.idle y).mp fsm).symm.trans state'

/-- A step that starts a socket on a descriptor of another leaves the descriptor with two owners,
and a connection that is accepted into an idle socket leaves its machine idle. -/
theorem step_strays {r r' : Runtime} {label : RuntimeLabel SocketCall}
    (regular : r.world.life.Regular True) (answered : Answered r.world label)
    (stepped : socketOwner.step r label = some r') (quiet : r'.world.stdout = r.world.stdout)
    (kept : r'.world.Lifecycle) : Unstrayed r label := by
  cases label with
  | poll | snapshot | pop => trivial
  | call sys op =>
      rintro x fd rfl y same
      obtain ⟨w, called, rfl⟩ := Owner.apply_eq_some.mp stepped
      simp only [socketOwner, SocketCall.run] at called
      split_ifs at called
      obtain ⟨valid, empty, life, _⟩ :=
        startFd_expected regular (answered.2 x fd rfl) called quiet
      have different : y ≠ x := by
        rintro rfl
        rw [empty] at same
        exact absurd valid (by rw [← same]; decide)
      have control : w.life.control x = _ := congrArg (fun v : LifeView => v.control x) life
      have others : w.life.control y = _ := congrArg (fun v : LifeView => v.control y) life
      rw [control_setState, control_setFsm, control_setState, control_takeOver] at control
      rw [control_setState_of_ne _ different, control_setFsm_of_ne _ different,
        control_setState_of_ne _ different, control_takeOver_of_ne _ different] at others
      have mine : (w.sock x).s = fd := congrArg Control.s control
      have theirs : (w.sock y).s = fd := (congrArg Control.s others).trans same
      refine different (kept.one_owner x y ?_ (theirs.trans mine.symm))
      rw [mine]
      exact ne_of_gt (lt_of_lt_of_le (by decide) valid)
  | advance k sys =>
      intro body rest x src type top fed accepts
      exact accepts_idle regular (socketOwner_feeds stepped top fed) quiet accepts kept

end Steps

/-- Initially every socket is idle. -/
theorem Runtime.Fresh.regular {r : Runtime} (fresh : r.Fresh) (strict : Prop) :
    r.world.life.Regular strict := by
  intro x
  obtain ⟨memory, src, addr, worker, initialised⟩ := fresh.socket x
  change (r.world.sock x).control.Regular strict
  rw [initialised]
  exact ⟨rfl, rfl⟩

/-- In a run in which only expected events are fed, the states agree with each other and with the
descriptors, and every descriptor has one owner and is closed once, exactly as long as `StartFd` is
given descriptors of no socket and no connection is accepted into an idle socket. -/
theorem lifecycle_iff {initial final : Runtime} {labels : List (RuntimeLabel SocketCall)}
    (fresh : initial.Fresh) (negative : ∀ fd, initial.world.fds fd = true → 0 ≤ fd)
    (lawful : socketOwner.system.Guarded Lawful initial labels)
    (execution : socketOwner.system.run initial labels = some final) :
    socketOwner.system.Always (fun r => r.world.Lifecycle) initial labels ↔
      socketOwner.system.Guarded Unstrayed initial labels := by
  refine StepSystem.always_iff_guarded_of_lawful
    (fun r (kept : r.world.life.Regular True ∧ r.world.life.Owned) => .of_regular kept.1 kept.2)
    (fun r label r' kept lawful stepped => ?_) ⟨fresh.regular True, fresh.owned negative⟩ lawful
    execution
  have step := socketOwner_step stepped
  have quiet := lawful.2 r' stepped
  exact ⟨fun unstrayed => ⟨step.regular kept.1 lawful.1 quiet fun _ => unstrayed,
      step.owned kept.2 lawful.1 unstrayed.unheld⟩,
    step_strays kept.1 lawful.1 stepped quiet⟩

/-- A socket that was started and stopped, whose owner has not been fed `Stopped` yet, is given to a
listener for its next connection, and the connection arrives. -/
def acceptIntoIdle : List (RuntimeLabel SocketCall) :=
  [.call { socket := .fd 3 } (.start 0), .call {} (.listen 0), .call { socket := .fd 4 } (.start 1),
    .call {} (.stop 1), .call {} (.accept 1 0), .snapshot 0, .pop 0, .advance 0 {}, .advance 0 {},
    .advance 0 {}, .poll 0 0 .fdIn, .advance 0 { accept4 := .fd 5 }]

theorem acceptIntoIdle_lawful : socketOwner.system.Guarded Lawful default acceptIntoIdle := by
  decide +kernel

theorem acceptIntoIdle_run : ∃ r, socketOwner.system.run default acceptIntoIdle = some r ∧
    (r.world.sock 1).fsm.state = .idle ∧ (r.world.sock 1).state = .accepted := by
  have facts : (socketOwner.system.run default acceptIntoIdle).any (fun r =>
      decide ((r.world.sock 1).fsm.state = .idle ∧ (r.world.sock 1).state = .accepted)) = true := by
    decide +kernel
  obtain ⟨r, execution, fact⟩ := Option.any_eq_true _ _ |>.mp facts
  exact ⟨r, execution, of_decide_eq_true fact⟩

theorem lifecycle_iff_acceptIntoIdle :
    socketOwner.system.Always (fun r => r.world.Lifecycle) default acceptIntoIdle ↔
      socketOwner.system.Guarded Unstrayed default acceptIntoIdle := by
  obtain ⟨r, execution, _⟩ := acceptIntoIdle_run
  exact lifecycle_iff Runtime.fresh_default (by rintro _ ⟨⟩) acceptIntoIdle_lawful execution

theorem accepted_while_idle :
    ∃ final, socketOwner.system.run default acceptIntoIdle = some final ∧
      (default : Runtime).Fresh ∧ socketOwner.system.Guarded Lawful default acceptIntoIdle ∧
        ¬final.world.Lifecycle := by
  obtain ⟨r, execution, fsm, state⟩ := acceptIntoIdle_run
  refine ⟨r, execution, Runtime.fresh_default, acceptIntoIdle_lawful, fun kept => ?_⟩
  cases ((kept.idle 1).mp fsm).symm.trans state

end Klibmsg
