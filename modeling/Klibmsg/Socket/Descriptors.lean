import Klibmsg.Socket.LifeView
import Klibmsg.Runtime.Sockets

/-!
# Ownership of descriptors

A socket takes over a descriptor only when it holds none, and it gives a descriptor up only by
closing it.  Whatever is fed to the sockets in whatever order, every descriptor that a socket holds
is therefore open, held by no other socket and not closed yet, and every other descriptor has been
closed as often as it was taken over.
-/

namespace Klibmsg

namespace LifeView

/-- What the code may do with descriptors.  The proposition says whether it may take one over. -/
inductive DescriptorStep (takes : Prop) : LifeView → LifeView → Prop
  | setState (v : LifeView) (x : SockId) (state : NetSockState) :
      DescriptorStep takes v (v.setState x state)
  | setFsm (v : LifeView) (x : SockId) (fsm : NetFsmState) : DescriptorStep takes v (v.setFsm x fsm)
  | finish (v : LifeView) (x : SockId) : DescriptorStep takes v (v.finish x)
  | drop {v v' : LifeView} {x : SockId} (drops : v.Drops x v') : DescriptorStep takes v v'
  | takeOver (v : LifeView) (x : SockId) (fd : Fd) (allowed : takes)
      (empty : (v.control x).s = -1) (valid : 0 ≤ fd)
      (free : v.fds fd = false ∨ ∀ y, (v.control y).s ≠ fd) :
      DescriptorStep takes v (v.takeOver x fd)

/-- A sequence of such steps. -/
def DescriptorSteps (takes : Prop) : LifeView → LifeView → Prop :=
  Relation.ReflTransGen (DescriptorStep takes)

/-- Every descriptor that a socket holds is its own. -/
structure Owned (v : LifeView) : Prop where
  valid : ∀ x, (v.control x).s ≠ -1 → 0 ≤ (v.control x).s
  isOpen : ∀ x, (v.control x).s ≠ -1 → v.fds (v.control x).s = true
  unique : ∀ x y, (v.control x).s ≠ -1 → (v.control y).s = (v.control x).s → y = x
  held : ∀ x, (v.control x).s ≠ -1 → v.taken (v.control x).s = v.closed (v.control x).s + 1
  released : ∀ fd, 0 ≤ fd → (∀ x, (v.control x).s ≠ fd) → v.taken fd = v.closed fd
  negative : ∀ fd, v.fds fd = true → 0 ≤ fd

theorem Owned.same {v v' : LifeView} (owned : v.Owned)
    (s : ∀ y, (v'.control y).s = (v.control y).s) (fds : v'.fds = v.fds)
    (taken : v'.taken = v.taken) (closed : v'.closed = v.closed) : v'.Owned where
  valid x := by rw [s]; exact owned.valid x
  isOpen x := by rw [s, fds]; exact owned.isOpen x
  unique x y := by rw [s, s]; exact owned.unique x y
  held x := by rw [s, taken, closed]; exact owned.held x
  released fd valid free := by
    rw [taken, closed]
    exact owned.released fd valid fun x => s x ▸ free x
  negative fd := by rw [fds]; exact owned.negative fd

theorem s_setState (v : LifeView) (x y : SockId) (state : NetSockState) :
    ((v.setState x state).control y).s = (v.control y).s := by
  by_cases equal : y = x
  · subst equal
    rw [control_setState]
  · rw [control_setState_of_ne v equal]

theorem s_setFsm (v : LifeView) (x y : SockId) (fsm : NetFsmState) :
    ((v.setFsm x fsm).control y).s = (v.control y).s := by
  by_cases equal : y = x
  · subst equal
    rw [control_setFsm]
  · rw [control_setFsm_of_ne v equal]

theorem Owned.drop {v v' : LifeView} {x : SockId} (owned : v.Owned) (drops : v.Drops x v') :
    v'.Owned := by
  cases drops with
  | none negative =>
      have empty : (v.control x).s = -1 := by
        by_contra holds
        exact absurd (owned.valid x holds) (not_le.mpr negative)
      refine owned.same (fun y => ?_) rfl rfl rfl
      by_cases equal : y = x
      · subst equal
        rw [control_setS, empty]
      · rw [control_setS_of_ne v equal]
  | closed isOpen =>
      have holds : (v.control x).s ≠ -1 := by
        intro empty
        exact absurd (owned.negative _ isOpen) (by rw [empty]; decide)
      have other {y : SockId} (different : y ≠ x) :
          (((v.close (v.control x).s).setS x (-1)).control y) = v.control y :=
        control_setS_of_ne (v.close _) different _
      have self : (((v.close (v.control x).s).setS x (-1)).control x).s = -1 := by
        rw [control_setS]
      have apart {y : SockId} (different : y ≠ x) : (v.control y).s ≠ (v.control x).s :=
        fun same => different (owned.unique x y holds same)
      have rest {y : SockId}
          (holder : (((v.close (v.control x).s).setS x (-1)).control y).s ≠ -1) : y ≠ x := by
        rintro rfl
        exact holder self
      refine ⟨fun y holder => ?_, fun y holder => ?_, fun y z holder same => ?_,
        fun y holder => ?_, fun fd valid free => ?_, fun fd isOpen' => ?_⟩
      · have different := rest holder
        rw [other different] at holder ⊢
        exact owned.valid y holder
      · have different := rest holder
        rw [other different] at holder ⊢
        change Function.update v.fds _ false _ = true
        rw [Function.update_of_ne (apart different)]
        exact owned.isOpen y holder
      · have different := rest holder
        have z_different : z ≠ x := by
          rintro rfl
          rw [self] at same
          exact holder same.symm
        rw [other different, other z_different] at same
        rw [other different] at holder
        exact owned.unique y z holder same
      · have different := rest holder
        rw [other different] at holder ⊢
        change v.taken _ = Function.update v.closed _ _ _ + 1
        rw [Function.update_of_ne (apart different)]
        exact owned.held y holder
      · change v.taken fd = Function.update v.closed _ _ fd
        by_cases equal : fd = (v.control x).s
        · subst equal
          rw [Function.update_self]
          exact owned.held x holds
        · rw [Function.update_of_ne equal]
          refine owned.released fd valid fun y => ?_
          by_cases same : y = x
          · subst same
            exact Ne.symm equal
          · exact other same ▸ free y
      · change Function.update v.fds _ false fd = true at isOpen'
        by_cases equal : fd = (v.control x).s
        · subst equal
          rw [Function.update_self] at isOpen'
          cases isOpen'
        · rw [Function.update_of_ne equal] at isOpen'
          exact owned.negative fd isOpen'

theorem Owned.takeOver {v : LifeView} {x : SockId} {fd : Fd} (owned : v.Owned)
    (empty : (v.control x).s = -1) (valid : 0 ≤ fd)
    (free : v.fds fd = false ∨ ∀ y, (v.control y).s ≠ fd) : (v.takeOver x fd).Owned := by
  have unheld : ∀ y, (v.control y).s ≠ fd := by
    intro y same
    obtain isClosed | unheld := free
    · have isOpen := owned.isOpen y
        (by rw [same]; exact ne_of_gt (lt_of_lt_of_le (by decide) valid))
      rw [same, isClosed] at isOpen
      cases isOpen
    · exact unheld y same
  have self : ((v.takeOver x fd).control x).s = fd := by rw [control_takeOver]
  have other {y : SockId} (different : y ≠ x) : (v.takeOver x fd).control y = v.control y :=
    control_takeOver_of_ne v different fd
  refine ⟨fun y holder => ?_, fun y holder => ?_, fun y z holder same => ?_, fun y holder => ?_,
    fun other_fd other_valid none => ?_, fun other_fd isOpen => ?_⟩
  · by_cases equal : y = x
    · subst equal
      rwa [self]
    · rw [other equal] at holder ⊢
      exact owned.valid y holder
  · change Function.update v.fds fd true _ = true
    by_cases equal : y = x
    · subst equal
      rw [self, Function.update_self]
    · rw [other equal] at holder ⊢
      rw [Function.update_of_ne (unheld y)]
      exact owned.isOpen y holder
  · by_cases y_equal : y = x <;> by_cases z_equal : z = x
    · rw [y_equal, z_equal]
    · subst y_equal
      rw [self, other z_equal] at same
      exact absurd same (unheld z)
    · subst z_equal
      rw [self, other y_equal] at same
      exact absurd same.symm (unheld y)
    · rw [other y_equal, other z_equal] at same
      rw [other y_equal] at holder
      exact owned.unique y z holder same
  · change Function.update v.taken fd _ _ = v.closed _ + 1
    by_cases equal : y = x
    · subst equal
      rw [self, Function.update_self]
      exact congrArg (· + 1) (owned.released fd valid unheld)
    · rw [other equal] at holder ⊢
      rw [Function.update_of_ne (unheld y)]
      exact owned.held y holder
  · change Function.update v.taken fd _ _ = v.closed _
    have different : other_fd ≠ fd := fun equal => none x (self.trans equal.symm)
    rw [Function.update_of_ne different]
    refine owned.released other_fd other_valid fun y => ?_
    by_cases equal : y = x
    · subst equal
      rw [empty]
      rintro rfl
      exact absurd other_valid (by decide)
    · exact other equal ▸ none y
  · change Function.update v.fds fd true other_fd = true at isOpen
    by_cases equal : other_fd = fd
    · rw [equal]
      exact valid
    · rw [Function.update_of_ne equal] at isOpen
      exact owned.negative other_fd isOpen

theorem DescriptorStep.owned {takes : Prop} {v v' : LifeView} (step : DescriptorStep takes v v')
    (owned : v.Owned) : v'.Owned := by
  cases step with
  | setState x state => exact owned.same (v.s_setState x · state) rfl rfl rfl
  | setFsm x fsm => exact owned.same (v.s_setFsm x · fsm) rfl rfl rfl
  | finish x =>
      refine owned.same (fun y => ?_) rfl rfl rfl
      exact ((v.setState x .idle).s_setFsm x y .idle).trans (v.s_setState x y .idle)
  | drop drops => exact owned.drop drops
  | takeOver x fd allowed empty valid free => exact owned.takeOver empty valid free

/-- A step that takes nothing over opens nothing. -/
theorem DescriptorStep.fds_le {v v' : LifeView} (step : DescriptorStep False v v') {fd : Fd}
    (isClosed : v.fds fd = false) : v'.fds fd = false := by
  cases step with
  | setState | setFsm | finish => exact isClosed
  | drop drops =>
      cases drops with
      | none => exact isClosed
      | closed =>
          change Function.update v.fds _ false fd = false
          rw [Function.update_apply]
          split
          · rfl
          · exact isClosed
  | takeOver x fd allowed => exact allowed.elim

namespace DescriptorSteps

variable {takes : Prop} {v v' v'' : LifeView} {x : SockId}

theorem refl (v : LifeView) : DescriptorSteps takes v v := Relation.ReflTransGen.refl

theorem of_eq (same : v' = v) : DescriptorSteps takes v v' := by
  rw [same]
  exact refl v

theorem trans (first : DescriptorSteps takes v v') (second : DescriptorSteps takes v' v'') :
    DescriptorSteps takes v v'' := Relation.ReflTransGen.trans first second

theorem setState (steps : DescriptorSteps takes v v') (x : SockId) (state : NetSockState) :
    DescriptorSteps takes v (v'.setState x state) := steps.tail (.setState v' x state)

theorem setFsm (steps : DescriptorSteps takes v v') (x : SockId) (fsm : NetFsmState) :
    DescriptorSteps takes v (v'.setFsm x fsm) := steps.tail (.setFsm v' x fsm)

theorem finish (steps : DescriptorSteps takes v v') (x : SockId) :
    DescriptorSteps takes v (v'.finish x) := steps.tail (.finish v' x)

theorem drop (steps : DescriptorSteps takes v v') (drops : v'.Drops x v'') :
    DescriptorSteps takes v v'' := steps.tail (.drop drops)

theorem weaken {more : Prop} (weaker : takes → more) (steps : DescriptorSteps takes v v') :
    DescriptorSteps more v v' := by
  induction steps with
  | refl => exact refl v
  | tail _ step ih =>
      refine ih.tail ?_
      cases step with
      | setState x state => exact .setState _ x state
      | setFsm x fsm => exact .setFsm _ x fsm
      | finish x => exact .finish _ x
      | drop drops => exact .drop drops
      | takeOver x fd allowed empty valid free =>
          exact .takeOver _ x fd (weaker allowed) empty valid free

/-- Ownership is never lost. -/
theorem owned (steps : DescriptorSteps takes v v') (owned : v.Owned) : v'.Owned := by
  induction steps with
  | refl => exact owned
  | tail _ step ih => exact step.owned ih

theorem fds_le (steps : DescriptorSteps False v v') {fd : Fd} (isClosed : v.fds fd = false) :
    v'.fds fd = false := by
  induction steps with
  | refl => exact isClosed
  | tail _ step ih => exact step.fds_le ih

end DescriptorSteps

theorem takeOver_of_open (v : LifeView) (x : SockId) {fd : Fd} (isOpen : v.fds fd = true) :
    v.takeOver x fd = (v.setS x fd).take fd := by
  have same : Function.update v.fds fd true = v.fds := by
    rw [Function.update_eq_self_iff]
    exact isOpen.symm
  rw [takeOver, openFd, same]

end LifeView

open LifeView

/-- What the kernel promises about the descriptors that it hands out. -/
structure Sys.Kernel (sys : Sys) (fds : Fd → Bool) : Prop where
  socket : ∀ fd, sys.socket = .fd fd → 0 ≤ fd ∧ fds fd = false
  accept4 : ∀ fd, sys.accept4 = .fd fd → 0 ≤ fd ∧ fds fd = false

instance decidableReply (reply : FdReply) (p : Fd → Prop) [DecidablePred p] :
    Decidable (∀ fd, reply = .fd fd → p fd) :=
  match reply with
  | .fails _ => isTrue nofun
  | .fd fd => decidable_of_iff (p fd) ⟨fun holds _ same => FdReply.fd.inj same ▸ holds, (· fd rfl)⟩

instance (sys : Sys) (fds : Fd → Bool) : Decidable (sys.Kernel fds) :=
  decidable_of_iff
    ((∀ fd, sys.socket = .fd fd → 0 ≤ fd ∧ fds fd = false) ∧
      ∀ fd, sys.accept4 = .fd fd → 0 ≤ fd ∧ fds fd = false)
    ⟨fun both => ⟨both.1, both.2⟩, fun kernel => ⟨kernel.socket, kernel.accept4⟩⟩

section Cells

variable {action : ActionCall} {x : SockId} {sys : Sys} {src type : Int} {w w' : World}
  {takes : Prop}

theorem dropped {v : LifeView} {state : NetSockState}
    (done : ∃ u, w.life.Drops x u ∧ v = u.setState x state) : DescriptorSteps takes w.life v := by
  obtain ⟨u, drops, rfl⟩ := done
  exact ((DescriptorSteps.refl _).drop drops).setState x state

/-- Only an event of the type `FdIn`, which is also the type of the action `Accept`, makes the code
take over a descriptor. -/
def OwnsDescriptors (sys : Sys) (action : ActionCall) : Prop :=
  ∀ y type w w', (type = kNetWorkerFdIn → sys.Kernel w.fds) → action y type w = .ok w' →
    DescriptorSteps (type = kNetWorkerFdIn) w.life w'.life

theorem CellRun.descriptors {label : NetSockState}
    (kernel : type = kNetWorkerFdIn → sys.Kernel w.fds) (nested : OwnsDescriptors sys action)
    (run : CellRun action x sys src type label w w') :
    DescriptorSteps (type = kNetWorkerFdIn) w.life w'.life := by
  have unchanged : DescriptorSteps (type = kNetWorkerFdIn) w.life w.life := .refl _
  cases run with
  | start | listen | connect | beingAccepted | accept | acceptAgain | acceptDone =>
      rw [World.life_setState]
      exact unchanged.setState x _
  | started | activate =>
      rw [World.life_setState, World.life_addFd]
      exact unchanged.setState x _
  | accepted source event done | connected source event done | activeError source event done =>
      cases done
      simp only [World.life_raise, World.life_execute, World.life_setState, asyncStop_life,
        ne_eq, reduceCtorEq, not_false_eq_true]
      exact unchanged.setState x _
  | cancel source event done =>
      cases done
      rw [World.life_execute, World.life_setState]
      exact unchanged.setState x _
  | refused source event done => exact dropped (closeAndFail_life done)
  | connectingErr source event done | activeErr source event done | removed source event done =>
      exact dropped (removeAndFail_life done)
  | connectingOut source event done =>
      obtain active | failed := connectingFdOut_life done
      · rw [active]
        exact unchanged.setState x _
      · exact dropped failed
  | activeIn source event done => exact .of_eq (activeFdIn_life done)
  | activeOut source event done => exact .of_eq (activeFdOut_life done)
  | acceptIn source event done =>
      obtain ⟨_, same | failed⟩ | ⟨y, fd, _, answer, _, empty, taken⟩ := acceptingFdIn_life done
      · exact .of_eq same
      · rw [failed]
        exact unchanged.setState x _
      · rw [taken]
        obtain ⟨valid, free⟩ := (kernel event).accept4 fd answer
        have takes := unchanged.tail (.takeOver w.life y fd event empty valid (.inl free))
        exact (DescriptorSteps.setState takes y _).setState x _
  | cancelled source event done =>
      obtain ⟨removed, removing, rest⟩ := bind_eq_ok.mp done
      dsimp only at rest
      split at rest
      next => cases rest
      next y paired =>
        have listening : DescriptorSteps (type = kNetWorkerFdIn) w.life
            (removed.setState x .listening).life := by
          rw [World.life_setState, World.life_rmFd removing]
          exact unchanged.setState x _
        have finished := nested y _ _ _ (fun equal => absurd equal (by decide)) rest
        exact listening.trans (finished.weaken fun equal => absurd equal (by decide))
  | ignored => exact unchanged

theorem finish2_descriptors (done : finish2 x w = .ok w') :
    DescriptorSteps takes w.life w'.life := by
  rw [(finish2_life done).2]
  exact (DescriptorSteps.refl _).finish x

theorem finish1_descriptors (done : finish1 x sys w = .ok w') :
    DescriptorSteps takes w.life w'.life := by
  obtain ⟨u, drops, same⟩ := finish1_life done
  rw [same]
  exact ((DescriptorSteps.refl _).drop drops).finish x

theorem FedRun.descriptors (kernel : type = kNetWorkerFdIn → sys.Kernel w.fds)
    (nested : OwnsDescriptors sys action) (run : FedRun action x sys src type w w') :
    DescriptorSteps (type = kNetWorkerFdIn) w.life w'.life := by
  cases run with
  | internal name => exact .of_eq (w.life_internalTask x name)
  | @cell _ lines _ _ _ run _ =>
      exact CellRun.descriptors (w := { w with stdout := w.stdout ++ lines }) kernel nested run
  | released _ _ _ done => exact finish2_descriptors done
  | ignored => exact .refl _
  | finished _ _ _ removing done =>
      rw [← World.life_rmFd removing]
      exact finish1_descriptors done
  | badState => exact .refl _

theorem actionWithin_descriptors (depth : Nat) : OwnsDescriptors sys (actionWithin sys depth) := by
  induction depth with
  | zero =>
      intro y type w w' _ done
      cases (check_eq_ok.mp done).2
  | succ depth ih =>
      intro y type w w' kernel done
      obtain ⟨positive, fed⟩ := check_eq_ok.mp done
      refine FedRun.descriptors kernel ih (feedWithin_run (fun isStop => ?_) fed)
      rw [isStop.2] at positive
      exact absurd positive (by decide)

theorem feed_descriptors (kernel : sys.Kernel w.fds)
    (notStop : ¬(src = kNetFsmAction ∧ type = kNetFsmStop))
    (done : feed sys x src type w = .ok w') :
    DescriptorSteps (type = kNetWorkerFdIn) w.life w'.life :=
  FedRun.descriptors (fun _ => kernel) (actionWithin_descriptors 1) (feed_run notStop done)

/-- An action other than `Accept`. -/
theorem fsmAction_descriptors (other : type ≠ kNetWorkerFdIn)
    (done : fsmAction sys x type w = .ok w') : DescriptorSteps False w.life w'.life :=
  (FedRun.descriptors (fun equal => absurd equal other) (actionWithin_descriptors 1)
    (fsmAction_run done)).weaken fun equal => absurd equal other

theorem fsmStart_life (done : fsmStart sys x w = .ok w') :
    (w.sock x).isIdle ∧ ((w.sock x).state = .idle ∧
        w'.life = (w.life.setState x .starting).setFsm x .active ∨
      (w.sock x).state ≠ .idle ∧ w'.life = w.life.setFsm x .active) := by
  obtain ⟨isIdle, ⟨state, rfl⟩ | ⟨state, stdout, rfl⟩⟩ := fsmStart_outcome done
  · exact ⟨isIdle, .inl ⟨state, by simp⟩⟩
  · exact ⟨isIdle, .inr ⟨state, by rw [World.life_setFsmState, World.life_report]⟩⟩

theorem fsmStart_descriptors (done : fsmStart sys x w = .ok w') :
    DescriptorSteps takes w.life w'.life := by
  obtain ⟨_, ⟨_, same⟩ | ⟨_, same⟩⟩ := fsmStart_life done <;> rw [same]
  · exact ((DescriptorSteps.refl _).setState x _).setFsm x _
  · exact (DescriptorSteps.refl _).setFsm x _

theorem StopRun.descriptors (run : StopRun x sys w w') : DescriptorSteps takes w.life w'.life := by
  have begun : DescriptorSteps takes w.life (w.beginStop x).life := by
    rw [beginStop_life]
    exact (DescriptorSteps.refl _).setFsm x _
  cases run with
  | inactive => exact .refl _
  | idle => exact begun
  | done _ _ done => exact begun.trans (finish2_descriptors done)
  | closed _ _ done => exact begun.trans (finish1_descriptors done)
  | pairing | removing =>
      rw [World.life_setState]
      exact begun.setState x _
  | running =>
      rw [World.life_setState, asyncStop_life]
      exact begun.setState x _

end Cells

/-! ## The public operations -/

section Operations

variable {x : SockId} {sys : Sys} {w w' : World}

theorem start_descriptors {rc : Int} (kernel : sys.Kernel w.fds)
    (done : start sys x w = .ok (rc, w')) : DescriptorSteps True w.life w'.life := by
  have called : (w.logCalls [.socket]).life = w.life :=
    w.life_logCalls (by simp [Effect.isLifeless])
  simp only [start] at done
  split at done
  next =>
    cases done
    exact .of_eq called
  next fd answer =>
    obtain ⟨initialised, initialising, rest⟩ := bind_eq_ok.mp done
    obtain ⟨started, starting, returned⟩ := bind_eq_ok.mp rest
    cases returned
    obtain ⟨_, empty, _, taken⟩ := initFromFd_life initialising
    obtain ⟨valid, free⟩ := kernel.socket fd answer
    have taking : initialised.life = w.life.takeOver x fd := by
      rw [taken, World.life_openFd, called]
      rfl
    have takes : DescriptorSteps True w.life initialised.life := by
      rw [taking]
      exact (DescriptorSteps.refl _).tail (.takeOver _ x fd trivial empty valid (.inl free))
    exact takes.trans (fsmStart_descriptors starting)

theorem startFd_descriptors {fd : Fd} (opened : sys.fcntl = 0 → 0 ≤ fd ∧ w.fds fd = true)
    (unheld : ∀ y, (w.sock y).s ≠ fd) (done : startFd sys x fd w = .ok w') :
    DescriptorSteps True w.life w'.life := by
  obtain ⟨initialised, initialising, rest⟩ := bind_eq_ok.mp done
  obtain ⟨started, starting, adding⟩ := bind_eq_ok.mp rest
  obtain ⟨_, empty, answer, taken⟩ := initFromFd_life initialising
  obtain ⟨valid, isOpen⟩ := opened answer
  have takes : DescriptorSteps True w.life initialised.life := by
    rw [taken, ← takeOver_of_open _ _ isOpen]
    exact (DescriptorSteps.refl _).tail (.takeOver _ x fd trivial empty valid (.inr unheld))
  exact (takes.trans (fsmStart_descriptors starting)).trans
    ((fsmAction_descriptors (by decide) adding).weaken (by rintro ⟨⟩))

theorem accept_descriptors {listener : SockId} (kernel : sys.Kernel w.fds)
    (done : accept sys x listener w = .ok w') : DescriptorSteps True w.life w'.life := by
  obtain ⟨started, starting, rest⟩ := bind_eq_ok.mp done
  obtain ⟨accepting, fed, pairing⟩ := bind_eq_ok.mp rest
  have first : DescriptorSteps False w.life started.life := by
    simp only [acceptStart] at starting
    split_ifs at starting
    · obtain ⟨middle, begun, acting⟩ := bind_eq_ok.mp starting
      exact (fsmStart_descriptors begun).trans (fsmAction_descriptors (by decide) acting)
    · cases starting
      exact .refl _
  have still : sys.Kernel started.fds :=
    ⟨fun fd answer => ⟨(kernel.socket fd answer).1, first.fds_le (kernel.socket fd answer).2⟩,
      fun fd answer => ⟨(kernel.accept4 fd answer).1, first.fds_le (kernel.accept4 fd answer).2⟩⟩
  have second : DescriptorSteps True started.life accepting.life :=
    (FedRun.descriptors (fun _ => still) (actionWithin_descriptors 1) (fsmAction_run fed)).weaken
      fun _ => trivial
  have last : w'.life = accepting.life := by
    simp only [acceptPair] at pairing
    split_ifs at pairing
    cases pairing
    simp
  rw [last]
  exact (first.weaken (by rintro ⟨⟩)).trans second

theorem connect_descriptors (done : connect sys x w = .ok w') :
    DescriptorSteps True w.life w'.life := by
  obtain ⟨connecting, fed, rest⟩ := bind_eq_ok.mp done
  have called : (connecting.logCalls [.connect (connecting.sock x).s]).life = connecting.life :=
    World.life_logCalls _ (by simp [Effect.isLifeless])
  have first : DescriptorSteps True w.life connecting.life :=
    (fsmAction_descriptors (by decide) fed).weaken (by rintro ⟨⟩)
  dsimp only at rest
  split_ifs at rest
  · have second := fsmAction_descriptors (by decide) rest
    rw [called] at second
    exact first.trans (second.weaken (by rintro ⟨⟩))
  · have second := fsmAction_descriptors (by decide) rest
    rw [World.life_setErrnum, called] at second
    exact first.trans (second.weaken (by rintro ⟨⟩))
  · cases rest
    rw [World.life_execute, called]
    exact first

theorem listen_descriptors {rc : Int} (done : listen sys x w = .ok (rc, w')) :
    DescriptorSteps True w.life w'.life := by
  have called : (w.logCalls [.listen (w.sock x).s]).life = w.life :=
    w.life_logCalls (by simp [Effect.isLifeless])
  simp only [listen] at done
  split_ifs at done
  · obtain ⟨listening, fed, returned⟩ := bind_eq_ok.mp done
    cases returned
    have steps := fsmAction_descriptors (by decide) fed
    rw [called] at steps
    exact steps.weaken (by rintro ⟨⟩)
  · cases done
    exact .of_eq called

end Operations

/-! ## Runs -/

/-- The answers of the system are possible ones: new descriptors were not open, and `fcntl` succeeds
on open descriptors only. -/
def Answered (w : World) : RuntimeLabel SocketCall → Prop
  | .call sys op => sys.Kernel w.fds ∧
      ∀ x fd, op = .startFd x fd → sys.fcntl = 0 → 0 ≤ fd ∧ w.fds fd = true
  | .advance _ sys => sys.Kernel w.fds
  | _ => True

instance decidableStartFd (op : SocketCall) (p : Fd → Prop) [DecidablePred p] :
    Decidable (∀ x fd, op = .startFd x fd → p fd) :=
  match op with
  | .startFd x fd =>
      decidable_of_iff (p fd)
        ⟨fun holds _ _ same => (SocketCall.startFd.inj same).2 ▸ holds, (· x fd rfl)⟩
  | .start _ | .setSockOpt _ | .bind _ | .listen _ | .accept _ _ | .activate _ | .connect _ |
      .asyncSendMsg _ _ | .execute _ | .stop _ | .asyncStop _ => isTrue nofun

instance (w : World) (label : RuntimeLabel SocketCall) : Decidable (Answered w label) :=
  match label with
  | .call _ _ => inferInstanceAs (Decidable (_ ∧ _))
  | .advance _ sys => inferInstanceAs (Decidable (sys.Kernel w.fds))
  | .poll _ _ _ | .snapshot _ | .pop _ => isTrue trivial

theorem World.Requeues.life_eq {w w' : World} (requeues : w.Requeues w') : w'.life = w.life := by
  obtain ⟨added, grown, delivers⟩ := requeues.trace
  refine World.life_trace (fun y => ?_) requeues.fds_eq grown fun effect member => ?_
  · obtain ⟨_, _, _, same⟩ := requeues.sock y
    rw [same]
    rfl
  · obtain ⟨event, payload, rfl⟩ := delivers effect member
    rfl

/-- `StartFd` is given a descriptor that no socket holds. -/
def StartsUnheld (w : World) : RuntimeLabel SocketCall → Prop
  | .call _ op => ∀ x fd, op = .startFd x fd → ∀ y, (w.sock y).s ≠ fd
  | _ => True

theorem SocketCall.run_descriptors {sys : Sys} {op : SocketCall} {w w' : World}
    (answered : Answered w (.call sys op)) (unheld : StartsUnheld w (.call sys op))
    (done : op.run sys w = .ok w') : DescriptorSteps True w.life w'.life := by
  obtain ⟨kernel, opened⟩ := answered
  simp only [SocketCall.run] at done
  split_ifs at done
  cases op with
  | start x =>
      obtain ⟨⟨rc, started⟩, starting, returned⟩ := map_eq_ok.mp done
      cases returned
      exact start_descriptors kernel starting
  | startFd x fd => exact startFd_descriptors (opened x fd rfl) (unheld x fd rfl) done
  | setSockOpt x =>
      obtain ⟨⟨rc, set⟩, setting, returned⟩ := map_eq_ok.mp done
      cases returned
      simp only [Klibmsg.setSockOpt] at setting
      split_ifs at setting
      cases setting
      exact .of_eq (w.life_logCalls (by simp [Effect.isLifeless]))
  | bind x =>
      obtain ⟨⟨rc, bound⟩, binding, returned⟩ := map_eq_ok.mp done
      cases returned
      simp only [Klibmsg.bind] at binding
      split_ifs at binding
      cases binding
      exact .of_eq (w.life_logCalls (by simp [Effect.isLifeless]))
  | listen x =>
      obtain ⟨⟨rc, listened⟩, listening, returned⟩ := map_eq_ok.mp done
      cases returned
      exact listen_descriptors listening
  | accept x listener => exact accept_descriptors kernel done
  | activate x =>
      have acted : fsmAction sys x kNetSockActionActivate w = .ok w' := done
      exact (fsmAction_descriptors (by decide) acted).weaken (by rintro ⟨⟩)
  | connect x => exact connect_descriptors done
  | asyncSendMsg x msg =>
      cases done
      exact .of_eq (by rw [World.asyncSendMsg, World.life_execute, World.life_pushMsg])
  | execute task =>
      cases done
      exact .of_eq (w.life_execute task)
  | stop x => exact (fsmStop_run done).descriptors
  | asyncStop x =>
      cases done
      exact .of_eq (asyncStop_life w x)

/-- Every step of a run keeps the ownership of descriptors, whatever is fed. -/
theorem SocketRunStep.owned {r : Runtime} {label : RuntimeLabel SocketCall} {w : World}
    (owned : r.world.life.Owned) (answered : Answered r.world label)
    (unheld : StartsUnheld r.world label) (step : SocketRunStep r label w) : w.life.Owned := by
  cases step with
  | requeue requeues => rwa [requeues.life_eq]
  | call called => exact (SocketCall.run_descriptors answered unheld called).owned owned
  | feed top fed free done =>
      exact (feed_descriptors answered (Body.fed_not_stop fed) done).owned owned

/-- Initially nothing is held. -/
theorem Runtime.Fresh.owned {r : Runtime} (fresh : r.Fresh)
    (negative : ∀ fd, r.world.fds fd = true → 0 ≤ fd) : r.world.life.Owned := by
  have empty : ∀ x, (r.world.life.control x).s = -1 := by
    intro x
    obtain ⟨memory, src, addr, worker, initialised⟩ := fresh.socket x
    change (r.world.sock x).s = -1
    rw [initialised]
    rfl
  refine ⟨fun x holds => absurd (empty x) holds, fun x holds => absurd (empty x) holds,
    fun x y holds => absurd (empty x) holds, fun x holds => absurd (empty x) holds,
    fun fd _ _ => ?_, negative⟩
  simp [World.life, fresh.trace]

end Klibmsg
