import Klibmsg.Socket.Effects
import Klibmsg.Socket.Inert

/-!
# Starting and connecting from any state

`SendMsg` starts and connects a socket whose machine is idle, without looking at the state of the
socket or at what `Start` returns.  This file says what the four actions involved do in every state.
-/

namespace Klibmsg

variable {w w' : World} {x : SockId} {sys : Sys} {type : Int}

/-- The queues of messages are left alone. -/
def World.SameQueues (w w' : World) : Prop :=
  ∀ y, (w'.sock y).msgBufferQueue = (w.sock y).msgBufferQueue

theorem World.SameQueues.trans {middle : World} (first : SameQueues w middle)
    (second : SameQueues middle w') : SameQueues w w' := fun y => (second y).trans (first y)

namespace World

theorem sameQueues_modify (w : World) (x : SockId) (change : NetSocket → NetSocket)
    (same : (change (w.sock x)).msgBufferQueue = (w.sock x).msgBufferQueue) :
    SameQueues w (w.modify x change) := by
  intro y
  by_cases equal : y = x
  · subst equal
    simpa using same
  · simp [equal]

theorem sameQueues_execute (w : World) (task : TaskId) : SameQueues w (w.execute task) := by
  intro y
  obtain ⟨x, name⟩ := task
  by_cases equal : y = x
  · subst equal
    simp
  · rw [sock_execute_of_ne _ equal]

theorem sameQueues_raise (w : World) (x : SockId) (name : EventName) (type : Int)
    (srcptr : Pointer) : SameQueues w (w.raise x name type srcptr) := by
  intro y
  by_cases equal : y = x
  · subst equal
    simp
  · rw [sock_raise_of_ne _ equal]

theorem sameQueues_netCloseFd {fd : Fd} (closed : w.netCloseFd sys fd = .ok w') :
    SameQueues w w' := by
  simp only [netCloseFd] at closed
  split_ifs at closed <;> cases closed <;> exact fun _ => rfl

end World

/-! ## The actions -/

/-- An action that is fed to a machine which is not stopping goes to the switch. -/
theorem fsmAction_switch (running : (w.sock x).fsm.state ≠ .stopping)
    (done : fsmAction sys x type w = .ok w') :
    stateSwitch (nestedAction sys) x sys kNetFsmAction type (w.sock x).state w = .ok w' := by
  obtain ⟨_, fed⟩ := check_eq_ok.mp done
  simp only [feed, feedWithin] at fed
  split_ifs at fed
  exact fed

/-- `Start`, fed to a socket in any state. -/
theorem fsmStart_outcome (done : fsmStart sys x w = .ok w') :
    (w.sock x).isIdle ∧ ((w.sock x).state = .idle ∧
        w' = (w.setState x .starting).setFsmState x .active ∨
      (w.sock x).state ≠ .idle ∧
        ∃ stdout, w' = { w with stdout := stdout }.setFsmState x .active) := by
  simp only [fsmStart] at done
  split_ifs at done with idle
  obtain ⟨started, starting, returned⟩ := bind_eq_ok.mp done
  cases returned
  refine ⟨idle, ?_⟩
  change stateSwitch (nestedAction sys) x sys kNetFsmAction kNetFsmStart (w.sock x).state w =
    .ok started at starting
  by_cases isIdle : (w.sock x).state = .idle
  · rw [isIdle] at starting
    cases starting
    exact .inl ⟨isIdle, rfl⟩
  · refine .inr ⟨isIdle, ?_⟩
    have only : OnlyReports w (stateSwitch (nestedAction sys) x sys kNetFsmAction kNetFsmStart
        (w.sock x).state w) := by
      cases state : (w.sock x).state with
      | idle => exact absurd state isIdle
      | done => exact harmless_ok w
      | starting | beingAccepted | accepted | connecting | active | removingFd | listening |
          accepting | acceptingError | cancelling | stopping | stoppingAccept =>
        exact (stateSwitch_onlyReports_iff w state (by decide)).mpr (by decide)
    obtain ⟨stdout, reported⟩ := only
    cases starting.symm.trans reported
    exact ⟨stdout, rfl⟩

/-- `Connect`, fed to a socket in any state. -/
theorem connect_switch
    (done : stateSwitch (nestedAction sys) x sys kNetFsmAction kNetSockActionConnect
      (w.sock x).state w = .ok w') :
    ∃ stdout, ((w.sock x).state = .idle ∨ (w.sock x).state = .starting) ∧
        w' = { w with stdout := stdout }.setState x .connecting ∨
      ((w.sock x).state ≠ .idle ∧ (w.sock x).state ≠ .starting) ∧
        w' = { w with stdout := stdout } := by
  by_cases fresh : (w.sock x).state = .idle ∨ (w.sock x).state = .starting
  · refine ⟨w'.stdout, .inl ⟨fresh, ?_⟩⟩
    obtain state | state := fresh <;> rw [state] at done <;> cases done <;> rfl
  · have only : OnlyReports w (stateSwitch (nestedAction sys) x sys kNetFsmAction
        kNetSockActionConnect (w.sock x).state w) := by
      cases state : (w.sock x).state with
      | idle | starting => exact absurd (by simp [state]) fresh
      | done => exact harmless_ok w
      | beingAccepted | accepted | connecting | active | removingFd | listening |
          accepting | acceptingError | cancelling | stopping | stoppingAccept =>
        exact (stateSwitch_onlyReports_iff w state (by decide)).mpr (by decide)
    obtain ⟨stdout, reported⟩ := only
    cases done.symm.trans reported
    exact ⟨stdout, .inr ⟨not_or.mp fresh, rfl⟩⟩

theorem World.sameQueues_of_only (only : OnlyReports w (.ok w')) : World.SameQueues w w' := by
  intro y
  rw [only.sock_eq]

theorem beingAcceptedDone_queues (done : beingAcceptedDone x w = .ok w') :
    World.SameQueues w w' := by
  cases done
  exact (w.sameQueues_modify x _ rfl).trans (World.sameQueues_raise _ _ _ _ _)

theorem connectingDone_queues (done : connectingDone x w = .ok w') : World.SameQueues w w' := by
  cases done
  exact ((w.sameQueues_modify x _ rfl).trans (World.sameQueues_execute _ _)).trans
    (World.sameQueues_raise _ _ _ _ _)

theorem closeAndFail_queues (done : closeAndFail x sys w = .ok w') : World.SameQueues w w' := by
  obtain ⟨closed, closing, returned⟩ := bind_eq_ok.mp done
  cases returned
  exact (((World.sameQueues_netCloseFd closing).trans (closed.sameQueues_modify x _ rfl)).trans
    (World.sameQueues_modify _ x _ rfl)).trans (World.sameQueues_raise _ _ _ _ _)

theorem activeError_queues (done : activeError x w = .ok w') : World.SameQueues w w' := by
  cases done
  exact ((w.sameQueues_modify x _ rfl).trans (World.sameQueues_execute _ _)).trans
    (World.sameQueues_raise _ _ _ _ _)

/-- `Done`, fed to a socket in any state but the first two. -/
theorem done_switch (notIdle : (w.sock x).state ≠ .idle)
    (notStarting : (w.sock x).state ≠ .starting)
    (done : stateSwitch (nestedAction sys) x sys kNetFsmAction kNetSockActionDone
      (w.sock x).state w = .ok w') :
    World.SameQueues w w' ∧
      ((w.sock x).state = .connecting → (w'.sock x).state = .active) ∧
      ((w.sock x).state = .beingAccepted → (w'.sock x).state = .accepted) := by
  cases state : (w.sock x).state with
  | idle => exact absurd state notIdle
  | starting => exact absurd state notStarting
  | beingAccepted =>
      rw [state] at done
      have completed : beingAcceptedDone x w = .ok w' := done
      refine ⟨beingAcceptedDone_queues completed, by rintro ⟨⟩, fun _ => ?_⟩
      cases completed
      simp
  | accepted =>
      rw [state] at done
      have passes : Passes (stateSwitch (nestedAction sys) x sys kNetFsmAction kNetSockActionDone
          .accepted) (connectingDone x) := caseAccepted_passes _ (by decide)
      obtain ⟨lines, passed⟩ := passes w
      have queues := connectingDone_queues (passed.symm.trans done)
      exact ⟨fun y => queues y, by rintro ⟨⟩, by rintro ⟨⟩⟩
  | connecting =>
      rw [state] at done
      have completed : connectingDone x w = .ok w' := done
      refine ⟨connectingDone_queues completed, fun _ => ?_, by rintro ⟨⟩⟩
      cases completed
      simp
  | accepting =>
      rw [state] at done
      cases done
      exact ⟨w.sameQueues_modify x _ rfl, by rintro ⟨⟩, by rintro ⟨⟩⟩
  | listening =>
      rw [state] at done
      have only : OnlyReports w (stateSwitch (nestedAction sys) x sys kNetFsmAction
          kNetSockActionDone .listening w) := listening_done state
      rw [done] at only
      exact ⟨World.sameQueues_of_only only, by rintro ⟨⟩, by rintro ⟨⟩⟩
  | done =>
      rw [state] at done
      cases done
      exact ⟨fun _ => rfl, by rintro ⟨⟩, by rintro ⟨⟩⟩
  | active | removingFd | acceptingError | cancelling | stopping | stoppingAccept =>
      have only : OnlyReports w (stateSwitch (nestedAction sys) x sys kNetFsmAction
          kNetSockActionDone _ w) :=
        (stateSwitch_onlyReports_iff w state (by decide)).mpr (by decide)
      rw [← state, done] at only
      exact ⟨World.sameQueues_of_only only, by rintro ⟨⟩, by rintro ⟨⟩⟩

/-- `Error`, fed to a socket in any state but the first two. -/
theorem error_switch (notIdle : (w.sock x).state ≠ .idle)
    (notStarting : (w.sock x).state ≠ .starting)
    (done : stateSwitch (nestedAction sys) x sys kNetFsmAction kNetSockActionError
      (w.sock x).state w = .ok w') :
    World.SameQueues w w' ∧ (w'.sock x).state ≠ .connecting ∧ (w'.sock x).state ≠ .active := by
  have failed {reported : World} (failing : closeAndFail x sys reported = .ok w') :
      (w'.sock x).state = .done := by
    obtain ⟨closed, closing, returned⟩ := bind_eq_ok.mp failing
    cases returned
    simp
  cases state : (w.sock x).state with
  | idle => exact absurd state notIdle
  | starting => exact absurd state notStarting
  | beingAccepted =>
      rw [state] at done
      have passes : Passes (stateSwitch (nestedAction sys) x sys kNetFsmAction kNetSockActionError
          .beingAccepted) (closeAndFail x sys) :=
        (caseBeingAccepted_passes _ (by decide)).trans (caseAccepted_passes _ (by decide))
      obtain ⟨lines, passed⟩ := passes w
      have failing := passed.symm.trans done
      have queues := closeAndFail_queues failing
      exact ⟨fun y => queues y, by simp [failed failing]⟩
  | accepted =>
      rw [state] at done
      have passes : Passes (stateSwitch (nestedAction sys) x sys kNetFsmAction kNetSockActionError
          .accepted) (closeAndFail x sys) := caseAccepted_passes _ (by decide)
      obtain ⟨lines, passed⟩ := passes w
      have failing := passed.symm.trans done
      have queues := closeAndFail_queues failing
      exact ⟨fun y => queues y, by simp [failed failing]⟩
  | connecting =>
      rw [state] at done
      have failing : closeAndFail x sys w = .ok w' := done
      exact ⟨closeAndFail_queues failing, by simp [failed failing]⟩
  | active =>
      rw [state] at done
      have removing : activeError x w = .ok w' := done
      refine ⟨activeError_queues removing, ?_⟩
      cases removing
      simp [World.asyncStop]
  | removingFd | done =>
      rw [state] at done
      cases done
      exact ⟨fun _ => rfl, by simp [state]⟩
  | listening | accepting | acceptingError | cancelling | stopping | stoppingAccept =>
      have only : OnlyReports w (stateSwitch (nestedAction sys) x sys kNetFsmAction
          kNetSockActionError _ w) :=
        (stateSwitch_onlyReports_iff w state (by decide)).mpr (by decide)
      rw [← state, done] at only
      refine ⟨World.sameQueues_of_only only, ?_⟩
      rw [only.sock_eq]
      simp [state]

/-! ## The operations -/

/-- The socket is connected or about to be. -/
def NetSocket.CanSend (sock : NetSocket) : Prop := sock.state = .connecting ∨ sock.state = .active

instance (sock : NetSocket) : Decidable sock.CanSend := inferInstanceAs (Decidable (_ ∨ _))

/-- `connect()` made the connection or has begun to make it. -/
def Sys.Connects (sys : Sys) : Prop := sys.connect = 0 ∨ sys.connect = EINPROGRESS

instance (sys : Sys) : Decidable sys.Connects := inferInstanceAs (Decidable (_ ∨ _))

/-- What `Connect` does to a socket in any state. -/
structure ConnectOutcome (sys : Sys) (x : SockId) (w w' : World) : Prop where
  queues : World.SameQueues w w'
  fails : ¬sys.Connects → ¬(w'.sock x).CanSend
  connects : (w.sock x).state = .idle ∨ (w.sock x).state = .starting → sys.Connects →
    (w'.sock x).CanSend
  accepted : (w.sock x).state = .beingAccepted → ¬(w'.sock x).CanSend

theorem connect_outcome (running : (w.sock x).fsm.state ≠ .stopping)
    (done : connect sys x w = .ok w') : ConnectOutcome sys x w w' := by
  obtain ⟨middle, fed, rest⟩ := bind_eq_ok.mp done
  obtain ⟨stdout, moved⟩ := connect_switch (fsmAction_switch running fed)
  have fsm : (middle.sock x).fsm = (w.sock x).fsm := by
    obtain ⟨_, rfl⟩ | ⟨_, rfl⟩ := moved <;> simp
  have queues : World.SameQueues w middle := by
    obtain ⟨_, rfl⟩ | ⟨_, rfl⟩ := moved
    · exact World.sameQueues_modify { w with stdout := stdout } x _ rfl
    · exact fun _ => rfl
  have notIdle : (middle.sock x).state ≠ .idle := by
    obtain ⟨_, rfl⟩ | ⟨other, rfl⟩ := moved
    · simp
    · exact other.1
  have notStarting : (middle.sock x).state ≠ .starting := by
    obtain ⟨_, rfl⟩ | ⟨other, rfl⟩ := moved
    · simp
    · exact other.2
  have fresh : (w.sock x).state = .idle ∨ (w.sock x).state = .starting →
      (middle.sock x).state = .connecting := by
    intro isFresh
    obtain ⟨_, rfl⟩ | ⟨other, rfl⟩ := moved
    · simp
    · exact absurd isFresh (not_or.mpr other)
  have waiting : (w.sock x).state = .beingAccepted →
      (middle.sock x).state = .beingAccepted := by
    intro isAccepted
    obtain ⟨other, rfl⟩ | ⟨_, rfl⟩ := moved
    · simp [isAccepted] at other
    · exact isAccepted
  dsimp only at rest
  split_ifs at rest with connected failed
  · have switched := fsmAction_switch (x := x) (fsm ▸ running) rest
    obtain ⟨same, active, accepted⟩ :=
      done_switch (w := middle.logCalls [.connect (middle.sock x).s]) notIdle notStarting switched
    refine ⟨queues.trans same, fun refused => absurd (.inl connected) refused,
      fun isFresh _ => .inr (active (fresh isFresh)), fun isAccepted => ?_⟩
    simp [NetSocket.CanSend, accepted (waiting isAccepted)]
  · have same := World.sameQueues_modify (middle.logCalls [.connect (middle.sock x).s]) x
      (fun sock => { sock with errnum := sys.connect }) rfl
    have kept : ((middle.logCalls [.connect (middle.sock x).s]).setErrnum x
        sys.connect).sock x = { middle.sock x with errnum := sys.connect } := by simp
    have switched := fsmAction_switch (x := x) (by rw [kept]; exact fsm ▸ running) rest
    obtain ⟨after, neither⟩ := error_switch (by rw [kept]; exact notIdle)
      (by rw [kept]; exact notStarting) switched
    exact ⟨(queues.trans same).trans after, fun _ => not_or.mpr neither,
      fun _ connects => absurd (connects.resolve_left connected) failed,
      fun _ => not_or.mpr neither⟩
  · cases rest
    have inProgress : sys.connect = EINPROGRESS := not_not.mp failed
    refine ⟨queues.trans (World.sameQueues_execute _ _),
      fun refused => absurd (.inr inProgress) refused, fun isFresh _ => ?_, fun isAccepted => ?_⟩
    · simp [NetSocket.CanSend, fresh isFresh]
    · simp [NetSocket.CanSend, waiting isAccepted]

/-- What `Start` does to a socket whose machine is idle. -/
theorem start_outcome {rc : Int} (done : start sys x w = .ok (rc, w')) :
    World.SameQueues w w' ∧
      ((∃ errno, sys.socket = .fails errno) ∧ w'.sock = w.sock ∨
        (∃ fd, sys.socket = .fd fd) ∧ (w'.sock x).fsm.state = .active ∧
          ((w.sock x).state = .idle ∧ (w'.sock x).state = .starting ∨
            (w.sock x).state = .beingAccepted ∧ (w'.sock x).state = .beingAccepted)) := by
  simp only [start] at done
  split at done
  next errno answer =>
    cases done
    exact ⟨fun _ => rfl, .inl ⟨⟨errno, answer⟩, rfl⟩⟩
  next fd answer =>
    obtain ⟨initialised, initialising, rest⟩ := bind_eq_ok.mp done
    obtain ⟨started, starting, returned⟩ := bind_eq_ok.mp rest
    cases returned
    simp only [World.initFromFd] at initialising
    split_ifs at initialising with badState
    cases initialising
    have initial : ((((w.logCalls [.socket]).openFd fd).setS x fd).logCalls [.fcntl fd]).sock x =
        { w.sock x with s := fd } := by simp
    have queues : World.SameQueues w
        ((((w.logCalls [.socket]).openFd fd).setS x fd).logCalls [.fcntl fd]) :=
      World.sameQueues_modify _ x (fun sock => { sock with s := fd }) rfl
    obtain ⟨_, outcome⟩ := fsmStart_outcome starting
    rw [initial] at outcome
    have allowed : (w.sock x).state ≠ .idle → (w.sock x).state = .beingAccepted := fun notIdle =>
      not_not.mp fun other => badState ⟨notIdle, other⟩
    obtain ⟨isIdle, rfl⟩ | ⟨notIdle, stdout, rfl⟩ := outcome
    · refine ⟨(queues.trans (World.sameQueues_modify _ x _ rfl)).trans
        (World.sameQueues_modify _ x _ rfl), .inr ⟨⟨fd, answer⟩, by simp, .inl ⟨isIdle, by simp⟩⟩⟩
    · refine ⟨queues.trans fun y => World.sameQueues_modify
          { ((((w.logCalls [.socket]).openFd fd).setS x fd).logCalls [.fcntl fd]) with
            stdout := stdout } x _ rfl y,
        .inr ⟨⟨fd, answer⟩, by simp, .inr ⟨allowed notIdle, ?_⟩⟩⟩
      simpa using allowed notIdle

end Klibmsg
