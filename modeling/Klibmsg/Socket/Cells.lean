import Klibmsg.Socket.Connecting

/-!
# The cell that an event runs

However many `default` labels control falls through, an event runs at most one cell of the tables,
and when nothing is reported on the way it is a cell of the current state.  `CellRun` lists the
cells and `FedRun` everything that feeding a machine can do.
-/

namespace Klibmsg

/-- The code at the labels of the switches, from the state of the process in which control is at
the label to the one in which the handler returns.  The index is the state whose case has the
label; `ignored` stands for the labels that only return and for the end of the switch. -/
inductive CellRun (action : ActionCall) (x : SockId) (sys : Sys) (src type : Int) :
    NetSockState → World → World → Prop
  | start (w : World) (source : src = kNetFsmAction) (event : type = kNetFsmStart) :
      CellRun action x sys src type .idle w (w.setState x .starting)
  | listen (w : World) (source : src = kNetFsmAction) (event : type = kNetSockActionListen) :
      CellRun action x sys src type .starting w (w.setState x .listening)
  | connect (w : World) (source : src = kNetFsmAction) (event : type = kNetSockActionConnect) :
      CellRun action x sys src type .starting w (w.setState x .connecting)
  | beingAccepted (w : World) (source : src = kNetFsmAction)
      (event : type = kNetSockActionBeingAccepted) :
      CellRun action x sys src type .starting w (w.setState x .beingAccepted)
  | started (w : World) (source : src = kNetFsmAction) (event : type = kNetSockActionStarted) :
      CellRun action x sys src type .starting w ((w.addFd x).setState x .active)
  | accepted {w w' : World} (source : src = kNetFsmAction) (event : type = kNetSockActionDone)
      (done : beingAcceptedDone x w = .ok w') : CellRun action x sys src type .beingAccepted w w'
  | activate (w : World) (source : src = kNetFsmAction) (event : type = kNetSockActionActivate) :
      CellRun action x sys src type .accepted w ((w.addFd x).setState x .active)
  | connected {w w' : World} (source : src = kNetFsmAction) (event : type = kNetSockActionDone)
      (done : connectingDone x w = .ok w') : CellRun action x sys src type .connecting w w'
  | refused {w w' : World} (source : src = kNetFsmAction) (event : type = kNetSockActionError)
      (done : closeAndFail x sys w = .ok w') : CellRun action x sys src type .connecting w w'
  | connectingOut {w w' : World} (source : src = kNetFsmAction ∨ src = kNetSockSrcFd)
      (event : type = kNetWorkerFdOut) (done : connectingFdOut x sys w = .ok w') :
      CellRun action x sys src type .connecting w w'
  | connectingErr {w w' : World} (source : src = kNetFsmAction ∨ src = kNetSockSrcFd)
      (event : type = kNetWorkerFdErr) (done : removeAndFail x sys w = .ok w') :
      CellRun action x sys src type .connecting w w'
  | activeIn {w w' : World} (source : src = kNetSockSrcFd) (event : type = kNetWorkerFdIn)
      (done : activeFdIn x sys w = .ok w') : CellRun action x sys src type .active w w'
  | activeOut {w w' : World} (source : src = kNetSockSrcFd) (event : type = kNetWorkerFdOut)
      (done : activeFdOut x sys w = .ok w') : CellRun action x sys src type .active w w'
  | activeErr {w w' : World} (source : src = kNetSockSrcFd) (event : type = kNetWorkerFdErr)
      (done : removeAndFail x sys w = .ok w') : CellRun action x sys src type .active w w'
  | activeError {w w' : World} (source : src = kNetFsmAction ∨ src = kNetSockSrcFd)
      (event : type = kNetSockActionError) (done : activeError x w = .ok w') :
      CellRun action x sys src type .active w w'
  | removed {w w' : World} (source : src = kNetSockSrcTaskStop)
      (event : type = kNetWorkerTaskExecute) (done : removeAndFail x sys w = .ok w') :
      CellRun action x sys src type .removingFd w w'
  | accept (w : World) (source : src = kNetFsmAction) (event : type = kNetSockActionAccept) :
      CellRun action x sys src type .listening w (w.setState x .accepting)
  | acceptAgain (w : World) (source : src = kNetFsmAction) (event : type = kNetSockActionAccept) :
      CellRun action x sys src type .acceptingError w (w.setState x .accepting)
  | acceptDone (w : World) (source : src = kNetFsmAction) (event : type = kNetSockActionDone) :
      CellRun action x sys src type .accepting w (w.setState x .listening)
  | cancel {w w' : World} (source : src = kNetFsmAction) (event : type = kNetSockActionCancel)
      (done : acceptingCancel x w = .ok w') : CellRun action x sys src type .accepting w w'
  | acceptIn {w w' : World} (source : src = kNetFsmAction ∨ src = kNetSockSrcFd)
      (event : type = kNetWorkerFdIn) (done : acceptingFdIn x sys w = .ok w') :
      CellRun action x sys src type .accepting w w'
  | cancelled {w w' : World} (source : src = kNetSockSrcTaskStop)
      (event : type = kNetWorkerTaskExecute) (done : cancellingStop action x w = .ok w') :
      CellRun action x sys src type .cancelling w w'
  | ignored {label : NetSockState} (w : World)
      (returns : label = .removingFd ∨ label = .done ∨ label = .cancelling ∨ label = .stopping) :
      CellRun action x sys src type label w w

/-- The place of the case of a state in the source. -/
def NetSockState.position : NetSockState → Nat
  | idle => 0
  | starting => 1
  | beingAccepted => 2
  | accepted => 3
  | connecting => 4
  | active => 5
  | removingFd => 6
  | done => 7
  | listening => 8
  | accepting => 9
  | acceptingError => 10
  | cancelling => 11
  | stopping => 12
  | stoppingAccept => 12

/-- Control runs from the case of the first state to the case of the second, or stays; it never
passes the `return` of `Done`. -/
def Falls (state label : NetSockState) : Prop :=
  state.position ≤ label.position ∧ (7 < label.position → 7 < state.position)

instance (state label : NetSockState) : Decidable (Falls state label) :=
  inferInstanceAs (Decidable (_ ∧ _))

theorem Falls.refl (state : NetSockState) : Falls state state := ⟨le_rfl, id⟩

theorem Falls.trans {first second third : NetSockState} (left : Falls first second)
    (right : Falls second third) : Falls first third :=
  ⟨left.1.trans right.1, left.2 ∘ right.2⟩

/-! ## Through the switches -/

/-- Every successful run of the code, which stands at the label of a state, takes one cell, after
some reports. -/
def TakesCell (action : ActionCall) (x : SockId) (sys : Sys) (src type : Int)
    (state : NetSockState) (code : Action) : Prop :=
  ∀ w w', code w = .ok w' → ∃ lines label, Falls state label ∧
    CellRun action x sys src type label { w with stdout := w.stdout ++ lines } w'

/-- As `TakesCell`; when nothing is reported, the cell belongs to the state, which lists the
event. -/
def TakesOwnCell (action : ActionCall) (x : SockId) (sys : Sys) (src type : Int)
    (state : NetSockState) (code : Action) : Prop :=
  ∀ w w', code w = .ok w' → ∃ lines label, Falls state label ∧
    CellRun action x sys src type label { w with stdout := w.stdout ++ lines } w' ∧
      (lines = [] → label = state ∧ Listed state src type)

section Switches

variable {action : ActionCall} {x : SockId} {sys : Sys} {src type : Int}
  {state below : NetSockState} {code : Action} {w w' : World}

theorem TakesOwnCell.takes (own : TakesOwnCell action x sys src type state code) :
    TakesCell action x sys src type state code := by
  intro w w' done
  obtain ⟨lines, label, falls, run, _⟩ := own w w' done
  exact ⟨lines, label, falls, run⟩

/-- A cell of the state itself, at which control arrives without a report. -/
theorem takes_here (run : CellRun action x sys src type state w w')
    (listed : Listed state src type) :
    ∃ lines label, Falls state label ∧
      CellRun action x sys src type label { w with stdout := w.stdout ++ lines } w' ∧
        (lines = [] → label = state ∧ Listed state src type) := by
  refine ⟨[], state, .refl state, ?_, fun _ => ⟨rfl, listed⟩⟩
  simpa using run

theorem TakesCell.after_report (takes : TakesCell action x sys src type below code)
    (falls : Falls state below) {line : Report} {more : List Report}
    (done : code { w with stdout := w.stdout ++ [line] ++ more } = .ok w') :
    ∃ lines label, Falls state label ∧
      CellRun action x sys src type label { w with stdout := w.stdout ++ lines } w' ∧
        (lines = [] → label = state ∧ Listed state src type) := by
  obtain ⟨rest, label, further, run⟩ := takes _ _ done
  refine ⟨line :: (more ++ rest), label, falls.trans further, ?_, by rintro ⟨⟩⟩
  simpa using run

theorem TakesCell.after_one (takes : TakesCell action x sys src type below code)
    (falls : Falls state below) {line : Report}
    (done : code { w with stdout := w.stdout ++ [line] } = .ok w') :
    ∃ lines label, Falls state label ∧
      CellRun action x sys src type label { w with stdout := w.stdout ++ lines } w' ∧
        (lines = [] → label = state ∧ Listed state src type) := by
  obtain ⟨rest, label, further, run⟩ := takes _ _ done
  refine ⟨line :: rest, label, falls.trans further, ?_, by rintro ⟨⟩⟩
  simpa using run

theorem TakesCell.after_reports (takes : TakesCell action x sys src type below code)
    (falls : Falls state below) {line more : Report}
    (done : code { w with stdout := w.stdout ++ [line] ++ [more] } = .ok w') :
    ∃ lines label, Falls state label ∧
      CellRun action x sys src type label { w with stdout := w.stdout ++ lines } w' := by
  obtain ⟨rest, label, further, run⟩ := takes _ _ done
  refine ⟨line :: more :: rest, label, falls.trans further, ?_⟩
  simpa using run

theorem caseIdle_takes (takes : TakesCell action x sys src type .starting code) :
    TakesOwnCell action x sys src type .idle (caseIdle x src type code) := by
  intro w w' done
  simp only [caseIdle] at done
  split_ifs at done with isAction isStart
  · cases done
    exact takes_here (.start w isAction isStart) ⟨isAction, isStart⟩
  · exact takes.after_report (by decide) done
  · exact takes.after_one (by decide) done

theorem caseStarting_takes (takes : TakesCell action x sys src type .beingAccepted code) :
    TakesOwnCell action x sys src type .starting (caseStarting x src type code) := by
  intro w w' done
  simp only [caseStarting] at done
  split_ifs at done with isAction isListen isConnect isBeing isStarted
  · cases done
    exact takes_here (.listen w isAction isListen) ⟨isAction, .inl isListen⟩
  · cases done
    exact takes_here (.connect w isAction isConnect) ⟨isAction, .inr (.inl isConnect)⟩
  · cases done
    exact takes_here (.beingAccepted w isAction isBeing) ⟨isAction, .inr (.inr (.inl isBeing))⟩
  · cases done
    exact takes_here (.started w isAction isStarted) ⟨isAction, .inr (.inr (.inr isStarted))⟩
  · exact takes.after_report (by decide) done
  · exact takes.after_one (by decide) done

theorem caseBeingAccepted_takes (takes : TakesCell action x sys src type .accepted code) :
    TakesOwnCell action x sys src type .beingAccepted (caseBeingAccepted x src type code) := by
  intro w w' done
  simp only [caseBeingAccepted] at done
  split_ifs at done with isAction isDone
  · exact takes_here (.accepted isAction isDone done) ⟨isAction, isDone⟩
  · exact takes.after_report (by decide) done
  · exact takes.after_one (by decide) done

theorem caseAccepted_takes (takes : TakesCell action x sys src type .connecting code) :
    TakesOwnCell action x sys src type .accepted (caseAccepted x src type code) := by
  intro w w' done
  simp only [caseAccepted] at done
  split_ifs at done with isAction isActivate
  · cases done
    exact takes_here (.activate w isAction isActivate) ⟨isAction, isActivate⟩
  · exact takes.after_report (by decide) done
  · exact takes.after_one (by decide) done

theorem caseConnectingFd_takes (takes : TakesCell action x sys src type .active code)
    (source : src = kNetFsmAction ∨ src = kNetSockSrcFd) :
    TakesCell action x sys src type .connecting (caseConnectingFd x sys src type code) := by
  intro w w' done
  simp only [caseConnectingFd] at done
  split_ifs at done with isOut isErr
  · exact ⟨[], _, .refl _, .connectingOut source isOut (by simpa using done)⟩
  · exact ⟨[], _, .refl _, .connectingErr source isErr (by simpa using done)⟩
  · exact takes.after_reports (by decide) done

theorem caseConnecting_takes (takes : TakesCell action x sys src type .active code) :
    TakesOwnCell action x sys src type .connecting (caseConnecting x sys src type code) := by
  intro w w' done
  simp only [caseConnecting] at done
  split_ifs at done with isAction isDone isError isFd
  · exact takes_here (.connected isAction isDone done) (.inl ⟨isAction, .inl isDone⟩)
  · exact takes_here (.refused isAction isError done) (.inl ⟨isAction, .inr isError⟩)
  · exact (caseConnectingFd_takes takes (.inl isAction)).after_one (by decide) done
  · simp only [caseConnectingFd] at done
    split_ifs at done with isOut isErr
    · exact takes_here (.connectingOut (.inr isFd) isOut done) (.inr ⟨isFd, .inl isOut⟩)
    · exact takes_here (.connectingErr (.inr isFd) isErr done) (.inr ⟨isFd, .inr isErr⟩)
    · exact takes.after_report (by decide) done
  · exact takes.after_one (by decide) done

theorem caseActiveAction_takes (takes : TakesCell action x sys src type .removingFd code)
    (source : src = kNetFsmAction ∨ src = kNetSockSrcFd) :
    TakesCell action x sys src type .active (caseActiveAction x src type code) := by
  intro w w' done
  simp only [caseActiveAction] at done
  split_ifs at done with isError
  · exact ⟨[], _, .refl _, .activeError source isError (by simpa using done)⟩
  · exact takes.after_reports (by decide) done

theorem caseActive_takes (takes : TakesCell action x sys src type .removingFd code) :
    TakesOwnCell action x sys src type .active (caseActive x sys src type code) := by
  intro w w' done
  simp only [caseActive] at done
  split_ifs at done with isFd isIn isOut isErr isAction
  · exact takes_here (.activeIn isFd isIn done) (.inl ⟨isFd, .inl isIn⟩)
  · exact takes_here (.activeOut isFd isOut done) (.inl ⟨isFd, .inr (.inl isOut)⟩)
  · exact takes_here (.activeErr isFd isErr done) (.inl ⟨isFd, .inr (.inr isErr)⟩)
  · exact (caseActiveAction_takes takes (.inr isFd)).after_one (by decide) done
  · simp only [caseActiveAction] at done
    split_ifs at done with isError
    · exact takes_here (.activeError (.inl isAction) isError done) (.inr ⟨isAction, isError⟩)
    · exact takes.after_report (by decide) done
  · exact takes.after_one (by decide) done

theorem caseRemovingFd_takes (takes : TakesCell action x sys src type .done code) :
    TakesOwnCell action x sys src type .removingFd (caseRemovingFd x sys src type code) := by
  intro w w' done
  simp only [caseRemovingFd] at done
  split_ifs at done with isStop isExecute isFd isAction isError
  · exact takes_here (.removed isStop isExecute done) (.inl ⟨isStop, isExecute⟩)
  · cases done
    exact ⟨_, .removingFd, .refl _, .ignored _ (by simp), by rintro ⟨⟩⟩
  · cases done
    exact takes_here (.ignored w (by simp)) (.inr (.inl isFd))
  · cases done
    exact takes_here (.ignored w (by simp)) (.inr (.inr ⟨isAction, isError⟩))
  · exact takes.after_report (by decide) done
  · exact takes.after_one (by decide) done

theorem caseDone_takes : TakesOwnCell action x sys src type .done caseDone := by
  intro w w' done
  cases done
  exact takes_here (.ignored w (by simp)) trivial

theorem caseListening_takes (takes : TakesCell action x sys src type .accepting code) :
    TakesOwnCell action x sys src type .listening (caseListening x src type code) := by
  intro w w' done
  simp only [caseListening] at done
  split_ifs at done with isAction isAccept
  · cases done
    exact takes_here (.accept w isAction isAccept) ⟨isAction, isAccept⟩
  · exact takes.after_report (by decide) done
  · exact takes.after_one (by decide) done

theorem caseAcceptingFd_takes (takes : TakesCell action x sys src type .acceptingError code)
    (source : src = kNetFsmAction ∨ src = kNetSockSrcFd) :
    TakesCell action x sys src type .accepting (caseAcceptingFd x sys src type code) := by
  intro w w' done
  simp only [caseAcceptingFd] at done
  split_ifs at done with isIn
  · exact ⟨[], _, .refl _, .acceptIn source isIn (by simpa using done)⟩
  · exact takes.after_reports (by decide) done

theorem caseAccepting_takes (takes : TakesCell action x sys src type .acceptingError code) :
    TakesOwnCell action x sys src type .accepting (caseAccepting x sys src type code) := by
  intro w w' done
  simp only [caseAccepting] at done
  split_ifs at done with isAction isDone isCancel isFd
  · cases done
    exact takes_here (.acceptDone w isAction isDone) (.inl ⟨isAction, .inl isDone⟩)
  · exact takes_here (.cancel isAction isCancel done) (.inl ⟨isAction, .inr isCancel⟩)
  · exact (caseAcceptingFd_takes takes (.inl isAction)).after_one (by decide) done
  · simp only [caseAcceptingFd] at done
    split_ifs at done with isIn
    · exact takes_here (.acceptIn (.inr isFd) isIn done) (.inr ⟨isFd, isIn⟩)
    · exact takes.after_report (by decide) done
  · exact takes.after_one (by decide) done

theorem caseAcceptingError_takes (takes : TakesCell action x sys src type .cancelling code) :
    TakesOwnCell action x sys src type .acceptingError (caseAcceptingError x src type code) := by
  intro w w' done
  simp only [caseAcceptingError] at done
  split_ifs at done with isAction isAccept
  · cases done
    exact takes_here (.acceptAgain w isAction isAccept) ⟨isAction, isAccept⟩
  · exact takes.after_report (by decide) done
  · exact takes.after_one (by decide) done

theorem caseCancellingFd_takes (takes : TakesCell action x sys src type .stopping code) :
    TakesCell action x sys src type .cancelling (caseCancellingFd x src type code) := by
  intro w w' done
  simp only [caseCancellingFd] at done
  split_ifs at done with isIn
  · cases done
    exact ⟨[], .cancelling, .refl _, by simpa using CellRun.ignored w (by simp)⟩
  · exact takes.after_reports (by decide) done

theorem caseCancelling_takes (takes : TakesCell action x sys src type .stopping code) :
    TakesOwnCell action x sys src type .cancelling (caseCancelling action x src type code) := by
  intro w w' done
  simp only [caseCancelling] at done
  split_ifs at done with isStop isExecute isFd
  · exact takes_here (.cancelled isStop isExecute done) (.inl ⟨isStop, isExecute⟩)
  · exact (caseCancellingFd_takes takes).after_one (by decide) done
  · simp only [caseCancellingFd] at done
    split_ifs at done with isIn
    · cases done
      exact takes_here (.ignored w (by simp)) (.inr ⟨isFd, isIn⟩)
    · exact takes.after_report (by decide) done
  · exact takes.after_one (by decide) done

theorem caseDefault_takes (falls : Falls state .stopping) :
    TakesOwnCell action x sys src type state (caseDefault x src type) := by
  intro w w' done
  cases done
  exact ⟨_, .stopping, falls, .ignored _ (by simp), by rintro ⟨⟩⟩

theorem stateSwitch_takes (state : NetSockState) :
    TakesOwnCell action x sys src type state (stateSwitch action x sys src type state) := by
  have atRemovingFd : TakesOwnCell action x sys src type .removingFd
      (caseRemovingFd x sys src type caseDone) :=
    caseRemovingFd_takes caseDone_takes.takes
  have atActive : TakesOwnCell action x sys src type .active (caseActive x sys src type _) :=
    caseActive_takes atRemovingFd.takes
  have atConnecting :
      TakesOwnCell action x sys src type .connecting (caseConnecting x sys src type _) :=
    caseConnecting_takes atActive.takes
  have atAccepted : TakesOwnCell action x sys src type .accepted (caseAccepted x src type _) :=
    caseAccepted_takes atConnecting.takes
  have atBeingAccepted :
      TakesOwnCell action x sys src type .beingAccepted (caseBeingAccepted x src type _) :=
    caseBeingAccepted_takes atAccepted.takes
  have atStarting : TakesOwnCell action x sys src type .starting (caseStarting x src type _) :=
    caseStarting_takes atBeingAccepted.takes
  have atDefault : TakesOwnCell action x sys src type .stopping (caseDefault x src type) :=
    caseDefault_takes (by decide)
  have atCancelling :
      TakesOwnCell action x sys src type .cancelling (caseCancelling action x src type _) :=
    caseCancelling_takes atDefault.takes
  have atAcceptingError :
      TakesOwnCell action x sys src type .acceptingError (caseAcceptingError x src type _) :=
    caseAcceptingError_takes atCancelling.takes
  have atAccepting :
      TakesOwnCell action x sys src type .accepting (caseAccepting x sys src type _) :=
    caseAccepting_takes atAcceptingError.takes
  cases state with
  | idle => exact caseIdle_takes atStarting.takes
  | starting => exact atStarting
  | beingAccepted => exact atBeingAccepted
  | accepted => exact atAccepted
  | connecting => exact atConnecting
  | active => exact atActive
  | removingFd => exact atRemovingFd
  | done => exact caseDone_takes
  | listening => exact caseListening_takes atAccepting.takes
  | accepting => exact atAccepting
  | acceptingError => exact atAcceptingError
  | cancelling => exact atCancelling
  | stopping => exact atDefault
  | stoppingAccept => exact caseDefault_takes (by decide)

end Switches

/-! ## Feeding a machine -/

/-- What an internal task does once its type has been checked. -/
def World.internalTask (w : World) (x : SockId) : TaskName → World
  | .send => w.setOut x
  | .recv => w.setIn x
  | .connected => w.addFd x
  | .connecting => (w.addFd x).setOut x
  | .accept => (w.addFd x).setIn x
  | .stop => w

/-- What feeding a machine anything but the request to stop does. -/
inductive FedRun (action : ActionCall) (x : SockId) (sys : Sys) (src type : Int) (w : World) :
    World → Prop
  | internal (name : TaskName) (other : name ≠ .stop) (event : src = name.src) :
      FedRun action x sys src type w (w.internalTask x name)
  | cell {w' : World} {lines : List Report} {label : NetSockState}
      (running : (w.sock x).fsm.state ≠ .stopping) (falls : Falls (w.sock x).state label)
      (run : CellRun action x sys src type label { w with stdout := w.stdout ++ lines } w')
      (listed : lines = [] → label = (w.sock x).state ∧ Listed (w.sock x).state src type) :
      FedRun action x sys src type w w'
  | released {w' : World} (stopping : (w.sock x).fsm.state = .stopping)
      (state : (w.sock x).state = .stoppingAccept)
      (event : src = kNetFsmAction ∧ type = kNetSockActionDone) (done : finish2 x w = .ok w') :
      FedRun action x sys src type w w'
  | ignored (stopping : (w.sock x).fsm.state = .stopping) (state : (w.sock x).state = .stopping)
      (event : src ≠ kNetSockSrcTaskStop) : FedRun action x sys src type w w
  | finished {removed w' : World} (stopping : (w.sock x).fsm.state = .stopping)
      (state : (w.sock x).state = .stopping) (event : src = kNetSockSrcTaskStop)
      (removing : w.rmFd x = .ok removed) (done : finish1 x sys removed = .ok w') :
      FedRun action x sys src type w w'
  | badState (stopping : (w.sock x).fsm.state = .stopping)
      (other : (w.sock x).state ≠ .stopping ∧ (w.sock x).state ≠ .stoppingAccept) :
      FedRun action x sys src type w (w.netFsmBadState x src type)

section Feeding

variable {action : ActionCall} {x : SockId} {sys : Sys} {src type : Int} {w w' : World}

theorem internalTasks_eq_some {task : Action} (internal : internalTasks x src type = some task) :
    ∃ name : TaskName, name ≠ .stop ∧ src = name.src ∧
      ∀ w w', task w = .ok w' → w' = w.internalTask x name := by
  have checked {code : World → World} {w w' : World}
      (done : check (type = kNetWorkerTaskExecute) (fun w => .ok (code w)) w = .ok w') :
      w' = code w := by
    obtain ⟨_, ran⟩ := check_eq_ok.mp done
    exact (Except.ok.inj ran).symm
  simp only [internalTasks] at internal
  split_ifs at internal with isSend isRecv isConnected isConnecting isAccept <;> cases internal
  · exact ⟨.send, by decide, isSend, fun _ _ => checked⟩
  · exact ⟨.recv, by decide, isRecv, fun _ _ => checked⟩
  · exact ⟨.connected, by decide, isConnected, fun _ _ => checked⟩
  · exact ⟨.connecting, by decide, isConnecting, fun _ _ => checked⟩
  · exact ⟨.accept, by decide, isAccept, fun _ _ => checked⟩

theorem netSocketHandler_run (running : (w.sock x).fsm.state ≠ .stopping)
    (done : netSocketHandler action x sys src type w = .ok w') :
    FedRun action x sys src type w w' := by
  cases internal : internalTasks x src type with
  | some task =>
      simp only [netSocketHandler, internal] at done
      obtain ⟨name, other, event, ran⟩ := internalTasks_eq_some internal
      rw [ran w w' done]
      exact .internal name other event
  | none =>
      simp only [netSocketHandler, internal] at done
      obtain ⟨lines, label, falls, run, listed⟩ := stateSwitch_takes _ w w' done
      exact .cell running falls run listed

theorem netSocketShutdownHandler_run (stopping : (w.sock x).fsm.state = .stopping)
    (notStop : ¬(src = kNetFsmAction ∧ type = kNetFsmStop))
    (done : netSocketShutdownHandler action x sys src type w = .ok w') :
    FedRun action x sys src type w w' := by
  cases internal : internalTasks x src type with
  | some task =>
      simp only [netSocketShutdownHandler, internal] at done
      obtain ⟨name, other, event, ran⟩ := internalTasks_eq_some internal
      rw [ran w w' done]
      exact .internal name other event
  | none =>
      simp only [netSocketShutdownHandler, internal] at done
      rw [if_neg notStop] at done
      split_ifs at done with isWaiting isStopping event
      · obtain ⟨event, released⟩ := check_eq_ok.mp done
        exact .released stopping isWaiting event released
      · cases done
        exact .ignored stopping isStopping event
      · obtain ⟨removed, removing, finishing⟩ := bind_eq_ok.mp (check_eq_ok.mp done).2
        exact .finished stopping isStopping (not_not.mp event) removing finishing
      · cases done
        exact .badState stopping ⟨isStopping, isWaiting⟩

/-- The action that a handler feeds when `depth` handlers may still run. -/
def actionWithin (sys : Sys) (depth : Nat) : ActionCall := fun y type =>
  check (0 < type) (feedWithin sys depth y kNetFsmAction type)

theorem feedWithin_run {depth : Nat} (notStop : ¬(src = kNetFsmAction ∧ type = kNetFsmStop))
    (done : feedWithin sys (depth + 1) x src type w = .ok w') :
    FedRun (actionWithin sys depth) x sys src type w w' := by
  simp only [feedWithin] at done
  split_ifs at done with freed stopping
  · exact netSocketShutdownHandler_run stopping notStop done
  · exact netSocketHandler_run stopping done

theorem feed_run (notStop : ¬(src = kNetFsmAction ∧ type = kNetFsmStop))
    (done : feed sys x src type w = .ok w') : FedRun (nestedAction sys) x sys src type w w' :=
  feedWithin_run notStop done

theorem fsmAction_run (done : fsmAction sys x type w = .ok w') :
    FedRun (nestedAction sys) x sys kNetFsmAction type w w' := by
  obtain ⟨positive, fed⟩ := check_eq_ok.mp done
  refine feed_run (fun isStop => ?_) fed
  rw [isStop.2] at positive
  exact absurd positive (by decide)

theorem nestedAction_run (done : nestedAction sys x type w = .ok w') :
    FedRun (actionWithin sys 0) x sys kNetFsmAction type w w' := by
  obtain ⟨positive, fed⟩ := check_eq_ok.mp done
  refine feedWithin_run (fun isStop => ?_) fed
  rw [isStop.2] at positive
  exact absurd positive (by decide)

end Feeding

/-! ## Feeding without a report -/

/-- What feeding a machine anything but the request to stop does when nothing is reported. -/
inductive ExpectedRun (action : ActionCall) (x : SockId) (sys : Sys) (src type : Int) (w : World) :
    World → Prop
  | internal (name : TaskName) (other : name ≠ .stop) (event : src = name.src) :
      ExpectedRun action x sys src type w (w.internalTask x name)
  | cell {w' : World} (running : (w.sock x).fsm.state ≠ .stopping)
      (listed : Listed (w.sock x).state src type)
      (run : CellRun action x sys src type (w.sock x).state w w') :
      ExpectedRun action x sys src type w w'
  | released {w' : World} (stopping : (w.sock x).fsm.state = .stopping)
      (state : (w.sock x).state = .stoppingAccept)
      (event : src = kNetFsmAction ∧ type = kNetSockActionDone) (done : finish2 x w = .ok w') :
      ExpectedRun action x sys src type w w'
  | ignored (stopping : (w.sock x).fsm.state = .stopping) (state : (w.sock x).state = .stopping)
      (event : src ≠ kNetSockSrcTaskStop) : ExpectedRun action x sys src type w w
  | finished {removed w' : World} (stopping : (w.sock x).fsm.state = .stopping)
      (state : (w.sock x).state = .stopping) (event : src = kNetSockSrcTaskStop)
      (removing : w.rmFd x = .ok removed) (done : finish1 x sys removed = .ok w') :
      ExpectedRun action x sys src type w w'

section Expected

variable {action : ActionCall} {x : SockId} {sys : Sys} {src type : Int} {w w' : World}

theorem CellRun.steps {label : NetSockState} (nested : StepsOf .all action)
    (run : CellRun action x sys src type label w w') : SocketSteps .all w w' := by
  have unchanged : SocketSteps .all w w := .refl w
  cases run with
  | start | listen | connect | beingAccepted | accept | acceptAgain | acceptDone =>
      exact unchanged.setState (by decide)
  | started | activate => exact unchanged.addFd.setState (by decide)
  | accepted _ event done => exact beingAcceptedDone_steps done
  | connected _ event done => exact connectingDone_steps done
  | refused _ event done => exact closeAndFail_steps done
  | connectingOut _ event done => exact connectingFdOut_steps done
  | connectingErr _ _ done | activeErr _ _ done | removed _ _ done =>
      exact removeAndFail_steps done
  | activeIn _ event done => exact activeFdIn_steps done
  | activeOut _ event done => exact activeFdOut_steps done
  | activeError _ event done => exact activeError_steps trivial done
  | cancel _ event done => exact acceptingCancel_steps trivial done
  | acceptIn _ event done => exact acceptingFdIn_steps done
  | cancelled _ _ done => exact cancellingStop_steps nested done
  | ignored => exact unchanged

/-- A report would stay in the output. -/
theorem CellRun.no_reports {label : NetSockState} {lines : List Report}
    (nested : StepsOf .all action)
    (run : CellRun action x sys src type label { w with stdout := w.stdout ++ lines } w')
    (quiet : w'.stdout = w.stdout) : lines = [] := by
  have grown : w.stdout ++ lines <+: w'.stdout := (run.steps nested).stdout_grows
  rw [quiet] at grown
  have shorter := grown.length_le
  rw [List.length_append] at shorter
  exact List.length_eq_zero_iff.mp (by omega)

theorem FedRun.expected (nested : StepsOf .all action) (run : FedRun action x sys src type w w')
    (quiet : w'.stdout = w.stdout) : ExpectedRun action x sys src type w w' := by
  cases run with
  | internal name other event => exact .internal name other event
  | cell running falls run listed =>
      have none := run.no_reports nested quiet
      subst none
      obtain ⟨rfl, lists⟩ := listed rfl
      exact .cell running lists (by simpa using run)
  | released stopping state event done => exact .released stopping state event done
  | ignored stopping state event => exact .ignored stopping state event
  | finished stopping state event removing done =>
      exact .finished stopping state event removing done
  | badState => exact absurd quiet (by simp [World.netFsmBadState])

theorem feed_expected (notStop : ¬(src = kNetFsmAction ∧ type = kNetFsmStop))
    (done : feed sys x src type w = .ok w') (quiet : w'.stdout = w.stdout) :
    ExpectedRun (nestedAction sys) x sys src type w w' :=
  (feed_run notStop done).expected nestedAction_steps quiet

theorem fsmAction_expected (done : fsmAction sys x type w = .ok w')
    (quiet : w'.stdout = w.stdout) :
    ExpectedRun (nestedAction sys) x sys kNetFsmAction type w w' :=
  (fsmAction_run done).expected nestedAction_steps quiet

end Expected

/-! ## Stopping a machine -/

/-- The process in which the shutdown handler is fed the request to stop. -/
def World.beginStop (w : World) (x : SockId) : World :=
  (w.setFsmState x .stopping).setErrnum x 0

/-- What `Stop` does. -/
inductive StopRun (x : SockId) (sys : Sys) (w : World) : World → Prop
  | inactive (fsm : (w.sock x).fsm.state ≠ .active) : StopRun x sys w w
  | idle (fsm : (w.sock x).fsm.state = .active) (state : (w.sock x).state = .idle) :
      StopRun x sys w (w.beginStop x)
  | done {w' : World} (fsm : (w.sock x).fsm.state = .active) (state : (w.sock x).state = .done)
      (done : finish2 x (w.beginStop x) = .ok w') : StopRun x sys w w'
  | closed {w' : World} (fsm : (w.sock x).fsm.state = .active)
      (state : (w.sock x).state = .starting ∨ (w.sock x).state = .accepted ∨
        (w.sock x).state = .acceptingError ∨ (w.sock x).state = .listening)
      (done : finish1 x sys (w.beginStop x) = .ok w') : StopRun x sys w w'
  | pairing (fsm : (w.sock x).fsm.state = .active) (state : (w.sock x).state = .beingAccepted) :
      StopRun x sys w
        (((w.beginStop x).netFsmBadState x kNetFsmAction kNetSockActionCancel).setState x
          .stoppingAccept)
  | removing (fsm : (w.sock x).fsm.state = .active) (state : (w.sock x).state = .removingFd) :
      StopRun x sys w ((w.beginStop x).setState x .stopping)
  | running (fsm : (w.sock x).fsm.state = .active)
      (state : (w.sock x).state = .connecting ∨ (w.sock x).state = .active ∨
        (w.sock x).state = .stopping ∨ (w.sock x).state = .stoppingAccept) :
      StopRun x sys w (((w.beginStop x).asyncStop x).setState x .stopping)

section Stopping

variable {x : SockId} {sys : Sys} {w w' : World}

@[simp]
theorem World.sock_beginStop_self (w : World) (x : SockId) :
    (w.beginStop x).sock x =
      { w.sock x with fsm := { (w.sock x).fsm with state := .stopping }, errnum := 0 } := by
  simp [World.beginStop]

/-- A machine that is being stopped reports `Cancel` and does nothing. -/
theorem nestedAction_cancel (state : (w.sock x).state = .beingAccepted)
    (stopping : (w.sock x).fsm.state = .stopping)
    (done : nestedAction sys x kNetSockActionCancel w = .ok w') :
    w' = w.netFsmBadState x kNetFsmAction kNetSockActionCancel := by
  cases nestedAction_run done with
  | internal name other event => cases name <;> exact absurd event (by decide)
  | cell running falls run listed => exact absurd stopping running
  | released _ waiting _ _ => rw [state] at waiting; cases waiting
  | ignored _ isStopping _ => rw [state] at isStopping; cases isStopping
  | finished _ isStopping _ _ _ => rw [state] at isStopping; cases isStopping
  | badState => rfl

theorem fsmStop_run (done : fsmStop sys x w = .ok w') : StopRun x sys w w' := by
  simp only [fsmStop] at done
  split_ifs at done with fsm
  · cases done
    exact .inactive fsm
  · have active : (w.sock x).fsm.state = .active := not_not.mp fsm
    change shutdownStop (nestedAction sys) x sys (w.setFsmState x .stopping) = .ok w' at done
    have same : ((w.setFsmState x .stopping).sock x).state = (w.sock x).state := by simp
    simp only [shutdownStop] at done
    split_ifs at done with refused
    rw [same] at refused
    change _ = Except.ok w' at done
    cases state : (w.sock x).state with
    | idle =>
        simp only [same, state] at done
        cases done
        exact .idle active state
    | done =>
        simp only [same, state] at done
        exact .done active state done
    | starting | accepted | acceptingError | listening =>
        simp only [same, state] at done
        exact .closed active (by simp [state]) done
    | beingAccepted =>
        simp only [same, state] at done
        obtain ⟨cancelled, cancelling, returned⟩ := bind_eq_ok.mp done
        cases returned
        rw [nestedAction_cancel (by simpa using state) (by simp) cancelling]
        exact .pairing active state
    | removingFd =>
        simp only [same, state] at done
        cases done
        exact .removing active state
    | connecting | active | stopping | stoppingAccept =>
        simp only [same, state] at done
        cases done
        exact .running active (by simp [state])
    | accepting | cancelling => simp [state] at refused

end Stopping

end Klibmsg
