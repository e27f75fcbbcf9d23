import Klibmsg.Socket.Steps
import Mathlib.Data.List.Induction

/-!
# Unexpected events

A `default` label of the nested switches reports the event and lets control run into the labels
below it.  `Listed` is the table that the switches spell out, and `Cell` is what the code of a
case does once control is at its label, whichever state control came from.  An unlisted event is
inert exactly when no cell below the label of the current state takes it.
-/

namespace Klibmsg

/-- The pairs of source and type that the switch of a state lists. -/
def Listed : NetSockState → Int → Int → Prop
  | .idle, src, type => src = kNetFsmAction ∧ type = kNetFsmStart
  | .starting, src, type =>
      src = kNetFsmAction ∧ (type = kNetSockActionListen ∨ type = kNetSockActionConnect ∨
        type = kNetSockActionBeingAccepted ∨ type = kNetSockActionStarted)
  | .beingAccepted, src, type => src = kNetFsmAction ∧ type = kNetSockActionDone
  | .accepted, src, type => src = kNetFsmAction ∧ type = kNetSockActionActivate
  | .connecting, src, type =>
      src = kNetFsmAction ∧ (type = kNetSockActionDone ∨ type = kNetSockActionError) ∨
        src = kNetSockSrcFd ∧ (type = kNetWorkerFdOut ∨ type = kNetWorkerFdErr)
  | .active, src, type =>
      src = kNetSockSrcFd ∧
          (type = kNetWorkerFdIn ∨ type = kNetWorkerFdOut ∨ type = kNetWorkerFdErr) ∨
        src = kNetFsmAction ∧ type = kNetSockActionError
  | .removingFd, src, type =>
      src = kNetSockSrcTaskStop ∧ type = kNetWorkerTaskExecute ∨ src = kNetSockSrcFd ∨
        src = kNetFsmAction ∧ type = kNetSockActionError
  | .done, _, _ => True
  | .listening, src, type => src = kNetFsmAction ∧ type = kNetSockActionAccept
  | .accepting, src, type =>
      src = kNetFsmAction ∧ (type = kNetSockActionDone ∨ type = kNetSockActionCancel) ∨
        src = kNetSockSrcFd ∧ type = kNetWorkerFdIn
  | .acceptingError, src, type => src = kNetFsmAction ∧ type = kNetSockActionAccept
  | .cancelling, src, type =>
      src = kNetSockSrcTaskStop ∧ type = kNetWorkerTaskExecute ∨
        src = kNetSockSrcFd ∧ type = kNetWorkerFdIn
  | .stopping, _, _ => False
  | .stoppingAccept, _, _ => False

instance (state : NetSockState) (src type : Int) : Decidable (Listed state src type) := by
  cases state <;> dsimp only [Listed] <;> infer_instance

/-- The events that the code of a case takes once control is at its label, with the labels inside
the case that run into each other.  Events on which that code only returns are left out. -/
def Cell : NetSockState → Int → Int → Prop
  | .connecting, src, type =>
      src = kNetFsmAction ∧ (type = kNetSockActionDone ∨ type = kNetSockActionError) ∨
        (src = kNetFsmAction ∨ src = kNetSockSrcFd) ∧
          (type = kNetWorkerFdOut ∨ type = kNetWorkerFdErr)
  | .active, src, type =>
      src = kNetSockSrcFd ∧
          (type = kNetWorkerFdIn ∨ type = kNetWorkerFdOut ∨ type = kNetWorkerFdErr) ∨
        (src = kNetFsmAction ∨ src = kNetSockSrcFd) ∧ type = kNetSockActionError
  | .removingFd, src, type => src = kNetSockSrcTaskStop ∧ type = kNetWorkerTaskExecute
  | .accepting, src, type =>
      src = kNetFsmAction ∧ (type = kNetSockActionDone ∨ type = kNetSockActionCancel) ∨
        (src = kNetFsmAction ∨ src = kNetSockSrcFd) ∧ type = kNetWorkerFdIn
  | .cancelling, src, type => src = kNetSockSrcTaskStop ∧ type = kNetWorkerTaskExecute
  | state, src, type => Listed state src type

instance (state : NetSockState) (src type : Int) : Decidable (Cell state src type) := by
  cases state <;> dsimp only [Cell] <;> infer_instance

/-- An event that is not listed in the current state and that a cell below takes.  `Done` that
runs from `Listening` into `Accepting` assigns the state that the socket already has. -/
def RunsOtherCell : NetSockState → Int → Int → Prop
  | .idle, src, type =>
      Cell .starting src type ∨ Cell .beingAccepted src type ∨ Cell .accepted src type ∨
        Cell .connecting src type ∨ Cell .active src type ∨ Cell .removingFd src type
  | .starting, src, type =>
      Cell .beingAccepted src type ∨ Cell .accepted src type ∨ Cell .connecting src type ∨
        Cell .active src type ∨ Cell .removingFd src type
  | .beingAccepted, src, type =>
      Cell .accepted src type ∨ Cell .connecting src type ∨ Cell .active src type ∨
        Cell .removingFd src type
  | .accepted, src, type =>
      Cell .connecting src type ∨ Cell .active src type ∨ Cell .removingFd src type
  | .connecting, src, type =>
      Cell .connecting src type ∨ Cell .active src type ∨ Cell .removingFd src type
  | .active, src, type => Cell .active src type ∨ Cell .removingFd src type
  | .listening, src, type =>
      Cell .accepting src type ∧ type ≠ kNetSockActionDone ∨ Cell .cancelling src type
  | .accepting, src, type => Cell .accepting src type ∨ Cell .cancelling src type
  | .acceptingError, src, type => Cell .cancelling src type
  | _, _, _ => False

instance (state : NetSockState) (src type : Int) : Decidable (RunsOtherCell state src type) := by
  cases state <;> dsimp only [RunsOtherCell] <;> infer_instance

/-- Nothing happens except that reports are printed. -/
def OnlyReports (w : World) (outcome : Except Fault World) : Prop :=
  ∃ stdout, outcome = .ok { w with stdout := stdout }

/-- In every state of the process the action only reports. -/
def Harmless (action : Action) : Prop := ∀ w, OnlyReports w (action w)

/-- Every successful run of the action makes the trace longer. -/
def Logs (action : Action) : Prop :=
  ∀ w w', action w = .ok w' → w.trace.length < w'.trace.length

/-- The action reports and continues with other code. -/
def Passes (action following : Action) : Prop :=
  ∀ w, ∃ lines, action w = following { w with stdout := w.stdout ++ lines }

theorem OnlyReports.sock_eq {w w' : World} (only : OnlyReports w (.ok w')) :
    w'.sock = w.sock := by
  obtain ⟨stdout, equal⟩ := only
  cases equal
  rfl

theorem OnlyReports.trace_eq {w w' : World} (only : OnlyReports w (.ok w')) :
    w'.trace = w.trace := by
  obtain ⟨stdout, equal⟩ := only
  cases equal
  rfl

theorem OnlyReports.ok {w : World} {outcome : Except Fault World}
    (only : OnlyReports w outcome) : ∃ w', outcome = .ok w' ∧ OnlyReports w (.ok w') := by
  obtain ⟨stdout, rfl⟩ := only
  exact ⟨_, rfl, stdout, rfl⟩

/-- Reports printed before do not matter. -/
theorem OnlyReports.after {w w' : World} {outcome : Except Fault World}
    (only : OnlyReports w (.ok w')) : OnlyReports w' outcome ↔ OnlyReports w outcome := by
  obtain ⟨stdout, equal⟩ := only
  cases equal
  exact Iff.rfl

theorem harmless_ok : Harmless fun w => .ok w := fun w => ⟨w.stdout, rfl⟩

theorem Logs.not_onlyReports {action : Action} (logs : Logs action) (w : World) :
    ¬OnlyReports w (action w) := by
  intro only
  obtain ⟨w', outcome, reports⟩ := only.ok
  have longer := logs w w' outcome
  rw [reports.trace_eq] at longer
  exact lt_irrefl _ longer

theorem Passes.harmless {action following : Action} (passes : Passes action following)
    (harmless : Harmless following) : Harmless action := by
  intro w
  obtain ⟨lines, outcome⟩ := passes w
  obtain ⟨stdout, reported⟩ := harmless { w with stdout := w.stdout ++ lines }
  exact ⟨stdout, outcome.trans reported⟩

theorem Passes.logs {action following : Action} (passes : Passes action following)
    (logs : Logs following) : Logs action := by
  intro w w' outcome
  obtain ⟨lines, passed⟩ := passes w
  have continued := passed.symm.trans outcome
  exact logs { w with stdout := w.stdout ++ lines } w' continued

theorem Passes.trans {action middle following : Action} (first : Passes action middle)
    (second : Passes middle following) : Passes action following := by
  intro w
  obtain ⟨lines, outcome⟩ := first w
  obtain ⟨more, passed⟩ := second { w with stdout := w.stdout ++ lines }
  exact ⟨lines ++ more, by rw [outcome, passed, List.append_assoc]⟩

/-! ## Cells make the trace longer -/

section Cells

variable {w w' : World} {x : SockId} {sys : Sys} {src type : Int}

theorem rmFd_logs (removed : w.rmFd x = .ok w') : w.trace.length < w'.trace.length := by
  obtain ⟨poller, _, returned⟩ := bind_eq_ok.mp removed
  cases returned
  simp

theorem addAndActivate_logs : Logs (addAndActivate x) := by
  intro w w' done
  cases done
  simp

theorem beingAcceptedDone_logs : Logs (beingAcceptedDone x) := by
  intro w w' done
  cases done
  simp

theorem connectingDone_logs : Logs (connectingDone x) := by
  intro w w' done
  cases done
  simp

theorem closeAndFail_logs : Logs (closeAndFail x sys) := by
  intro w w' done
  obtain ⟨closed, closing, returned⟩ := bind_eq_ok.mp done
  cases returned
  have steps : SocketSteps ⟨fun _ => False, False⟩ w closed :=
    (SocketSteps.refl w).netCloseFd closing
  have grown := steps.grows.length_le
  simp only [World.trace_raise, World.trace_setState, World.trace_setS, List.length_append,
    List.length_singleton]
  omega

theorem removeAndFail_logs : Logs (removeAndFail x sys) := by
  intro w w' done
  obtain ⟨removed, removing, failing⟩ := bind_eq_ok.mp done
  exact (rmFd_logs removing).trans (closeAndFail_logs _ _ failing)

theorem connectingFdOut_logs : Logs (connectingFdOut x sys) := by
  intro w w' done
  obtain ⟨reset, resetting, rest⟩ := bind_eq_ok.mp done
  have steps : SocketSteps ⟨fun _ => False, False⟩ w reset :=
    (SocketSteps.refl w).resetOut resetting
  have grown := steps.grows.length_le
  dsimp only at rest
  split_ifs at rest
  · cases rest
    simp at grown ⊢
    omega
  · obtain ⟨removed, removing, closing⟩ := bind_eq_ok.mp rest
    have shorter := rmFd_logs removing
    split_ifs at closing
    cases closing
    simp at shorter ⊢
    omega

/-- `RecvRaw` reads, or it completes a message. -/
theorem recvRaw_calls (token2Dptr : Token → Address) (header payload : ReadReply)
    (sock : NetSocket) (memory : Memory) :
    (sock.recvRaw token2Dptr header payload memory).calls ≠ [] ∨
      (sock.recvRaw token2Dptr header payload memory).rc = 0 := by
  unfold NetSocket.recvRaw NetSocket.recvPayload NetSocket.recvFinish
  dsimp only
  split_ifs <;> simp

theorem activeFdIn_logs : Logs (activeFdIn x sys) := by
  intro w w' done
  have reads := recvRaw_calls w.device.token2Dptr sys.readHeader sys.readPayload (w.sock x)
    w.memory
  simp only [activeFdIn] at done
  split_ifs at done with completed again reset <;> cases done
  · simp [World.applyTransfer]
  · have called := List.length_pos_iff.mpr (reads.resolve_right completed)
    simpa [World.applyTransfer] using called
  · have called := List.length_pos_iff.mpr (reads.resolve_right completed)
    simpa [World.applyTransfer] using called

theorem activeError_logs : Logs (activeError x) := by
  intro w w' done
  cases done
  simp [World.asyncStop]

theorem acceptingCancel_logs : Logs (acceptingCancel x) := by
  intro w w' done
  cases done
  simp

theorem acceptingFdIn_logs : Logs (acceptingFdIn x sys) := by
  intro w w' done
  simp only [acceptingFdIn] at done
  split at done
  next errno _ =>
    split_ifs at done
    · cases done
      simp
    · obtain ⟨removed, removing, returned⟩ := bind_eq_ok.mp done
      cases returned
      have shorter := rmFd_logs removing
      simp at shorter ⊢
      omega
  next s _ =>
    split_ifs at done
    have steps : SocketSteps ⟨fun _ => False, False⟩ _ w' := acceptingNewFd_steps done
    have grown := steps.grows.length_le
    simp at grown
    omega

theorem cancellingStop_logs : Logs (cancellingStop (nestedAction sys) x) := by
  intro w w' done
  obtain ⟨removed, removing, rest⟩ := bind_eq_ok.mp done
  dsimp only at rest
  split at rest
  next => cases rest
  next y _ =>
    have steps : SocketSteps ⟨fun _ => False, False⟩ _ w' :=
      nestedAction_steps y _ _ _ (by decide) (fun isCancel => absurd isCancel (by decide)) rest
    exact (rmFd_logs removing).trans_le steps.grows.length_le

end Cells

/-! ## Where control goes after a `default` -/

section Labels

variable {x : SockId} {sys : Sys} {src type : Int}

theorem reports_source (w : World) (following : Action) :
    ∃ lines, following (w.netFsmBadSource x src type) =
      following { w with stdout := w.stdout ++ lines } := ⟨_, rfl⟩

theorem reports_action (w : World) (following : Action) :
    ∃ lines, following (w.netFsmBadAction x src type) =
      following { w with stdout := w.stdout ++ lines } := ⟨_, rfl⟩

theorem reports_both (w : World) (following : Action) :
    ∃ lines, following ((w.netFsmBadAction x src type).netFsmBadSource x src type) =
      following { w with stdout := w.stdout ++ lines } := by
  refine ⟨[⟨"Unexpected action", (w.sock x).state, src, type⟩,
    ⟨"Unexpected source", (w.sock x).state, src, type⟩], ?_⟩
  simp [World.netFsmBadAction, World.netFsmBadSource, World.kLibMsgFsmError]

theorem caseIdle_passes (following : Action) (outside : ¬Listed .idle src type) :
    Passes (caseIdle x src type following) following := by
  intro w
  simp only [Listed, not_and] at outside
  simp only [caseIdle]
  split_ifs with action start
  · exact absurd start (outside action)
  · exact reports_both w following
  · exact reports_source w following

theorem caseStarting_passes (following : Action) (outside : ¬Cell .starting src type) :
    Passes (caseStarting x src type following) following := by
  intro w
  simp only [Cell, Listed, not_and, not_or] at outside
  simp only [caseStarting]
  split_ifs with action listens connects accepted started
  · exact absurd listens (outside action).1
  · exact absurd connects (outside action).2.1
  · exact absurd accepted (outside action).2.2.1
  · exact absurd started (outside action).2.2.2
  · exact reports_both w following
  · exact reports_source w following

theorem caseBeingAccepted_passes (following : Action) (outside : ¬Cell .beingAccepted src type) :
    Passes (caseBeingAccepted x src type following) following := by
  intro w
  simp only [Cell, Listed, not_and] at outside
  simp only [caseBeingAccepted]
  split_ifs with action done
  · exact absurd done (outside action)
  · exact reports_both w following
  · exact reports_source w following

theorem caseBeingAccepted_logs (following : Action) (inside : Cell .beingAccepted src type) :
    Logs (caseBeingAccepted x src type following) := by
  intro w w' done
  obtain ⟨rfl, rfl⟩ := inside
  exact beingAcceptedDone_logs w w' done

theorem caseAccepted_passes (following : Action) (outside : ¬Cell .accepted src type) :
    Passes (caseAccepted x src type following) following := by
  intro w
  simp only [Cell, Listed, not_and] at outside
  simp only [caseAccepted]
  split_ifs with action activates
  · exact absurd activates (outside action)
  · exact reports_both w following
  · exact reports_source w following

theorem caseAccepted_logs (following : Action) (inside : Cell .accepted src type) :
    Logs (caseAccepted x src type following) := by
  intro w w' done
  obtain ⟨rfl, rfl⟩ := inside
  exact addAndActivate_logs w w' done

theorem caseConnectingFd_passes (following : Action) (notOut : type ≠ kNetWorkerFdOut)
    (notErr : type ≠ kNetWorkerFdErr) :
    Passes (caseConnectingFd x sys src type following) following := by
  intro w
  simp only [caseConnectingFd, if_neg notOut, if_neg notErr]
  exact reports_both w following

theorem caseConnectingFd_logs (following : Action)
    (inside : type = kNetWorkerFdOut ∨ type = kNetWorkerFdErr) :
    Logs (caseConnectingFd x sys src type following) := by
  intro w w' done
  simp only [caseConnectingFd] at done
  split_ifs at done with out err
  · exact connectingFdOut_logs w w' done
  · exact removeAndFail_logs w w' done
  · exact absurd inside (not_or.mpr ⟨out, err⟩)

/-- The first report of the action label, before the label of the descriptor events. -/
theorem caseConnecting_enters (following : Action) (action : src = kNetFsmAction)
    (notDone : type ≠ kNetSockActionDone) (notError : type ≠ kNetSockActionError) :
    Passes (caseConnecting x sys src type following)
      (caseConnectingFd x sys src type following) := by
  intro w
  simp only [caseConnecting, if_pos action, if_neg notDone, if_neg notError]
  exact reports_action w _

theorem caseConnecting_passes (following : Action) (outside : ¬Cell .connecting src type) :
    Passes (caseConnecting x sys src type following) following := by
  simp only [Cell, not_or, not_and] at outside
  by_cases action : src = kNetFsmAction
  · obtain ⟨notDone, notError⟩ := outside.1 action
    obtain ⟨notOut, notErr⟩ := outside.2 (.inl action)
    exact (caseConnecting_enters following action notDone notError).trans
      (caseConnectingFd_passes following notOut notErr)
  · intro w
    simp only [caseConnecting, if_neg action]
    split_ifs with fd
    · obtain ⟨notOut, notErr⟩ := outside.2 (.inr fd)
      exact caseConnectingFd_passes following notOut notErr w
    · exact reports_source w following

theorem caseConnecting_logs (following : Action) (inside : Cell .connecting src type) :
    Logs (caseConnecting x sys src type following) := by
  rcases inside with ⟨rfl, rfl | rfl⟩ | ⟨rfl | rfl, fdType⟩
  · exact fun w w' done => connectingDone_logs w w' done
  · exact fun w w' done => closeAndFail_logs w w' done
  · refine (caseConnecting_enters following rfl ?_ ?_).logs
      (caseConnectingFd_logs following fdType)
    · rcases fdType with rfl | rfl <;> decide
    · rcases fdType with rfl | rfl <;> decide
  · exact fun w w' done => caseConnectingFd_logs following fdType w w' done

theorem caseActiveAction_passes (following : Action) (notError : type ≠ kNetSockActionError) :
    Passes (caseActiveAction x src type following) following := by
  intro w
  simp only [caseActiveAction, if_neg notError]
  exact reports_both w following

theorem caseActive_passes (following : Action) (outside : ¬Cell .active src type) :
    Passes (caseActive x sys src type following) following := by
  intro w
  simp only [Cell, not_or, not_and] at outside
  simp only [caseActive]
  split_ifs with fd fdIn fdOut fdErr action
  · exact absurd fdIn (outside.1 fd).1
  · exact absurd fdOut (outside.1 fd).2.1
  · exact absurd fdErr (outside.1 fd).2.2
  · have entered : Passes
        (fun w => caseActiveAction x src type following (w.netFsmBadAction x src type))
        (caseActiveAction x src type following) := fun w => reports_action w _
    exact entered.trans (caseActiveAction_passes following (outside.2 (.inr fd))) w
  · exact caseActiveAction_passes following (outside.2 (.inl action)) w
  · exact reports_source w following

/-- An `FdOut` reaches the code of `Active` from no earlier label. -/
theorem caseActive_logs (following : Action) (inside : Cell .active src type)
    (notOut : src = kNetSockSrcFd → type ≠ kNetWorkerFdOut) :
    Logs (caseActive x sys src type following) := by
  intro w w' done
  simp only [caseActive, caseActiveAction] at done
  rcases inside with ⟨rfl, rfl | rfl | rfl⟩ | ⟨rfl | rfl, rfl⟩
  · exact activeFdIn_logs w w' done
  · exact absurd rfl (notOut rfl)
  · exact removeAndFail_logs w w' done
  · exact activeError_logs w w' done
  · exact activeError_logs (w.netFsmBadAction x kNetSockSrcFd kNetSockActionError) w' done

theorem caseRemovingFd_harmless (outside : ¬Cell .removingFd src type) :
    Harmless (caseRemovingFd x sys src type caseDone) := by
  intro w
  simp only [Cell, not_and] at outside
  simp only [caseRemovingFd]
  split_ifs with stop execute
  · exact absurd execute (outside stop)
  · exact ⟨_, rfl⟩
  · exact harmless_ok w
  · exact harmless_ok w
  · exact ⟨_, rfl⟩
  · exact ⟨_, rfl⟩

theorem caseRemovingFd_logs (following : Action) (inside : Cell .removingFd src type) :
    Logs (caseRemovingFd x sys src type following) := by
  intro w w' done
  obtain ⟨rfl, rfl⟩ := inside
  exact removeAndFail_logs w w' done

theorem caseListening_passes (following : Action) (outside : ¬Listed .listening src type) :
    Passes (caseListening x src type following) following := by
  intro w
  simp only [Listed, not_and] at outside
  simp only [caseListening]
  split_ifs with action accepts
  · exact absurd accepts (outside action)
  · exact reports_both w following
  · exact reports_source w following

/-- The first report of the action label, before the label of the descriptor events. -/
theorem caseAccepting_enters (following : Action) (action : src = kNetFsmAction)
    (notDone : type ≠ kNetSockActionDone) (notCancel : type ≠ kNetSockActionCancel) :
    Passes (caseAccepting x sys src type following)
      (caseAcceptingFd x sys src type following) := by
  intro w
  simp only [caseAccepting, if_pos action, if_neg notDone, if_neg notCancel]
  exact reports_action w _

theorem caseAcceptingFd_passes (following : Action) (notIn : type ≠ kNetWorkerFdIn) :
    Passes (caseAcceptingFd x sys src type following) following := by
  intro w
  simp only [caseAcceptingFd, if_neg notIn]
  exact reports_both w following

theorem caseAccepting_passes (following : Action) (outside : ¬Cell .accepting src type) :
    Passes (caseAccepting x sys src type following) following := by
  simp only [Cell, not_or, not_and] at outside
  by_cases action : src = kNetFsmAction
  · obtain ⟨notDone, notCancel⟩ := outside.1 action
    exact (caseAccepting_enters following action notDone notCancel).trans
      (caseAcceptingFd_passes following (outside.2 (.inl action)))
  · intro w
    simp only [caseAccepting, if_neg action]
    split_ifs with fd
    · exact caseAcceptingFd_passes following (outside.2 (.inr fd)) w
    · exact reports_source w following

theorem caseAccepting_logs (following : Action) (inside : Cell .accepting src type)
    (notDone : src = kNetFsmAction → type ≠ kNetSockActionDone) :
    Logs (caseAccepting x sys src type following) := by
  rcases inside with ⟨rfl, rfl | rfl⟩ | ⟨rfl | rfl, rfl⟩
  · exact absurd rfl (notDone rfl)
  · exact fun w w' done => acceptingCancel_logs w w' done
  · exact (caseAccepting_enters following rfl (by decide) (by decide)).logs
      fun w w' done => acceptingFdIn_logs w w' done
  · exact fun w w' done => acceptingFdIn_logs w w' done

theorem caseAcceptingError_passes (following : Action)
    (outside : ¬Listed .acceptingError src type) :
    Passes (caseAcceptingError x src type following) following := by
  intro w
  simp only [Listed, not_and] at outside
  simp only [caseAcceptingError]
  split_ifs with action accepts
  · exact absurd accepts (outside action)
  · exact reports_both w following
  · exact reports_source w following

theorem caseCancelling_harmless (action : ActionCall) (outside : ¬Cell .cancelling src type) :
    Harmless (caseCancelling action x src type (caseDefault x src type)) := by
  have reported : Harmless (caseDefault x src type) := fun w => ⟨_, rfl⟩
  have atFd : Harmless (caseCancellingFd x src type (caseDefault x src type)) := by
    intro w
    simp only [caseCancellingFd]
    split_ifs
    · exact harmless_ok w
    · have entered : Passes
          (fun w => caseDefault x src type
            ((w.netFsmBadAction x src type).netFsmBadSource x src type))
          (caseDefault x src type) := fun w => reports_both w _
      exact entered.harmless reported w
  intro w
  simp only [Cell, not_and] at outside
  simp only [caseCancelling]
  split_ifs with stop execute
  · exact absurd execute (outside stop)
  · have entered : Passes
        (fun w => caseCancellingFd x src type (caseDefault x src type)
          (w.netFsmBadAction x src type))
        (caseCancellingFd x src type (caseDefault x src type)) := fun w => reports_action w _
    exact entered.harmless atFd w
  · exact atFd w
  · have entered : Passes
        (fun w => caseDefault x src type (w.netFsmBadSource x src type))
        (caseDefault x src type) := fun w => reports_source w _
    exact entered.harmless reported w

theorem caseCancelling_logs (following : Action) (inside : Cell .cancelling src type) :
    Logs (caseCancelling (nestedAction sys) x src type following) := by
  intro w w' done
  obtain ⟨rfl, rfl⟩ := inside
  exact cancellingStop_logs w w' done

/-- Whether an action that depends on the event alone reports or does something. -/
structure Decided (into : Prop) (action : Action) : Prop where
  harmless : ¬into → Harmless action
  logs : into → Logs action

theorem Decided.iff {into : Prop} {action : Action} (decided : Decided into action) (w : World) :
    OnlyReports w (action w) ↔ ¬into :=
  ⟨fun only inside => (decided.logs inside).not_onlyReports w only,
    fun outside => decided.harmless outside w⟩

theorem Decided.after {into : Prop} {action following : Action} (decided : Decided into following)
    (passes : Passes action following) : Decided into action :=
  ⟨fun outside => passes.harmless (decided.harmless outside),
    fun inside => passes.logs (decided.logs inside)⟩

/-- A label that takes some events and lets the others run into the next label. -/
theorem Decided.above {cell into : Prop} {action following : Action}
    (decided : Decided into following) (passes : ¬cell → Passes action following)
    (logs : cell → Logs action) : Decided (cell ∨ into) action := by
  by_cases inside : cell
  · exact ⟨fun outside => absurd (.inl inside) outside, fun _ => logs inside⟩
  · have same := decided.after (passes inside)
    exact ⟨fun outside => same.harmless fun into => outside (.inr into),
      fun runs => same.logs (runs.resolve_left inside)⟩

end Labels

/-! ## Entering the switch at the label of a state -/

section Switch

variable {x : SockId} {sys : Sys} {src type : Int}

theorem fromRemovingFd :
    Decided (Cell .removingFd src type)
      (stateSwitch (nestedAction sys) x sys src type .removingFd) :=
  ⟨caseRemovingFd_harmless, caseRemovingFd_logs caseDone⟩

theorem fromActive (notOut : src = kNetSockSrcFd → type ≠ kNetWorkerFdOut) :
    Decided (Cell .active src type ∨ Cell .removingFd src type)
      (stateSwitch (nestedAction sys) x sys src type .active) :=
  fromRemovingFd.above (caseActive_passes _) fun inside => caseActive_logs _ inside notOut

theorem fromConnecting :
    Decided (Cell .connecting src type ∨ Cell .active src type ∨ Cell .removingFd src type)
      (stateSwitch (nestedAction sys) x sys src type .connecting) := by
  by_cases inside : Cell .connecting src type
  · exact ⟨fun outside => absurd (.inl inside) outside, fun _ => caseConnecting_logs _ inside⟩
  · have notOut : src = kNetSockSrcFd → type ≠ kNetWorkerFdOut := fun fd isOut =>
      inside (.inr ⟨.inr fd, .inl isOut⟩)
    exact (fromActive notOut).above (caseConnecting_passes _) fun cell => absurd cell inside

theorem fromAccepted :
    Decided (Cell .accepted src type ∨ Cell .connecting src type ∨ Cell .active src type ∨
        Cell .removingFd src type)
      (stateSwitch (nestedAction sys) x sys src type .accepted) :=
  fromConnecting.above (caseAccepted_passes _) (caseAccepted_logs _)

theorem fromBeingAccepted :
    Decided (Cell .beingAccepted src type ∨ Cell .accepted src type ∨
        Cell .connecting src type ∨ Cell .active src type ∨ Cell .removingFd src type)
      (stateSwitch (nestedAction sys) x sys src type .beingAccepted) :=
  fromAccepted.above (caseBeingAccepted_passes _) (caseBeingAccepted_logs _)

theorem fromCancelling :
    Decided (Cell .cancelling src type)
      (stateSwitch (nestedAction sys) x sys src type .cancelling) :=
  ⟨caseCancelling_harmless _, caseCancelling_logs _⟩

theorem fromAccepting (notDone : src = kNetFsmAction → type ≠ kNetSockActionDone) :
    Decided (Cell .accepting src type ∨ Cell .cancelling src type)
      (stateSwitch (nestedAction sys) x sys src type .accepting) := by
  by_cases inside : Cell .accepting src type
  · exact ⟨fun outside => absurd (.inl inside) outside,
      fun _ => caseAccepting_logs _ inside notDone⟩
  · have notAccept : ¬Listed .acceptingError src type := by
      rintro ⟨rfl, rfl⟩
      exact inside (.inr ⟨.inl rfl, rfl⟩)
    exact (fromCancelling.after (caseAcceptingError_passes _ notAccept)).above
      (caseAccepting_passes _) fun cell => absurd cell inside

/-- The cells of `Starting` all leave `Idle`. -/
theorem caseStarting_moves {following : Action} {w w' : World} (inside : Cell .starting src type)
    (done : caseStarting x src type following w = .ok w') : (w'.sock x).state ≠ .idle := by
  obtain ⟨rfl, rfl | rfl | rfl | rfl⟩ := inside <;> cases done <;>
    simp [World.setState, World.addFd]

theorem idle_onlyReports_iff {w : World} (state : (w.sock x).state = .idle)
    (unlisted : ¬Listed .idle src type) :
    OnlyReports w (stateSwitch (nestedAction sys) x sys src type .idle w) ↔
      ¬RunsOtherCell .idle src type := by
  have enters : Passes (stateSwitch (nestedAction sys) x sys src type .idle)
      (stateSwitch (nestedAction sys) x sys src type .starting) := caseIdle_passes _ unlisted
  by_cases inside : Cell .starting src type
  · refine iff_of_false (fun only => ?_) fun outside => outside (.inl inside)
    obtain ⟨lines, passed⟩ := enters w
    obtain ⟨w', outcome, reports⟩ := only.ok
    have moved := caseStarting_moves inside (passed.symm.trans outcome)
    rw [reports.sock_eq] at moved
    exact moved state
  · have starts : Passes (stateSwitch (nestedAction sys) x sys src type .starting)
        (stateSwitch (nestedAction sys) x sys src type .beingAccepted) :=
      caseStarting_passes _ inside
    have decided := (fromBeingAccepted.after starts).after enters
    exact (decided.iff w).trans (not_congr (or_iff_right inside).symm)

/-- `Done` that arrives in `Listening` assigns the state again. -/
theorem listening_done {w : World} (state : (w.sock x).state = .listening) :
    OnlyReports w (stateSwitch (nestedAction sys) x sys kNetFsmAction kNetSockActionDone
      .listening w) := by
  have assigned (reported : World) (same : (reported.sock x).state = .listening) :
      stateSwitch (nestedAction sys) x sys kNetFsmAction kNetSockActionDone .accepting
        reported = .ok reported := by
    change Except.ok (reported.setState x .listening) = _
    simp [World.setState, World.modify, ← same]
  have enters : Passes
      (stateSwitch (nestedAction sys) x sys kNetFsmAction kNetSockActionDone .listening)
      (stateSwitch (nestedAction sys) x sys kNetFsmAction kNetSockActionDone .accepting) :=
    caseListening_passes _ (by decide)
  obtain ⟨lines, passed⟩ := enters w
  exact ⟨_, passed.trans (assigned _ state)⟩

theorem listening_onlyReports_iff {w : World} (state : (w.sock x).state = .listening)
    (unlisted : ¬Listed .listening src type) :
    OnlyReports w (stateSwitch (nestedAction sys) x sys src type .listening w) ↔
      ¬RunsOtherCell .listening src type := by
  by_cases done : src = kNetFsmAction ∧ type = kNetSockActionDone
  · obtain ⟨rfl, rfl⟩ := done
    exact iff_of_true (listening_done state) (by decide)
  · have notDone : src = kNetFsmAction → type ≠ kNetSockActionDone := fun action isDone =>
      done ⟨action, isDone⟩
    have other : Cell .accepting src type → type ≠ kNetSockActionDone := by
      rintro (⟨action, _⟩ | ⟨_, rfl⟩)
      · exact notDone action
      · decide
    have enters : Passes (stateSwitch (nestedAction sys) x sys src type .listening)
        (stateSwitch (nestedAction sys) x sys src type .accepting) :=
      caseListening_passes _ unlisted
    exact (((fromAccepting notDone).after enters).iff w).trans
      (not_congr (or_congr_left ⟨fun inside => ⟨inside, other inside⟩, And.left⟩))

/-- An event that the current state does not list, at the label of that state. -/
theorem stateSwitch_onlyReports_iff (w : World) {state : NetSockState}
    (current : (w.sock x).state = state) (unlisted : ¬Listed state src type) :
    OnlyReports w (stateSwitch (nestedAction sys) x sys src type state w) ↔
      ¬RunsOtherCell state src type := by
  cases state with
  | idle => exact idle_onlyReports_iff current unlisted
  | starting => exact (fromBeingAccepted.after (caseStarting_passes _ unlisted)).iff w
  | beingAccepted => exact (fromAccepted.after (caseBeingAccepted_passes _ unlisted)).iff w
  | accepted => exact (fromConnecting.after (caseAccepted_passes _ unlisted)).iff w
  | connecting => exact fromConnecting.iff w
  | active =>
      exact (fromActive fun fd isOut => unlisted (.inl ⟨fd, .inr (.inl isOut)⟩)).iff w
  | removingFd =>
      exact iff_of_true (fromRemovingFd.harmless (fun inside => unlisted (.inl inside)) w) id
  | done => exact absurd trivial unlisted
  | listening => exact listening_onlyReports_iff current unlisted
  | accepting =>
      exact (fromAccepting fun action isDone => unlisted (.inl ⟨action, .inl isDone⟩)).iff w
  | acceptingError =>
      exact (fromCancelling.after (caseAcceptingError_passes _ unlisted)).iff w
  | cancelling =>
      exact iff_of_true (fromCancelling.harmless (fun inside => unlisted (.inl inside)) w) id
  | stopping => exact iff_of_true ⟨_, rfl⟩ id
  | stoppingAccept => exact iff_of_true ⟨_, rfl⟩ id

end Switch

/-! ## Sequences of unexpected events -/

/-- An event as it is fed to the handler, with the answers to the calls that it may cause. -/
structure FedEvent where
  sys : Sys
  src : Int
  type : Int

namespace FedEvent

/-- Run the handler on the event. -/
def feed (event : FedEvent) (x : SockId) : Action :=
  netSocketHandler (nestedAction event.sys) x event.sys event.src event.type

/-- The event is no internal task, and the switch of the state does not list it. -/
def Unexpected (event : FedEvent) (x : SockId) (state : NetSockState) : Prop :=
  internalTasks x event.src event.type = none ∧ ¬Listed state event.src event.type

end FedEvent

/-- Run the handler on one event after the other. -/
def feedAll (x : SockId) (events : List FedEvent) : Action := fun w =>
  events.foldlM (fun w event => event.feed x w) w

theorem feedAll_concat_ok {x : SockId} {events : List FedEvent} {event : FedEvent} {w w' : World}
    (fed : feedAll x events w = .ok w') : feedAll x (events ++ [event]) w = event.feed x w' := by
  simp only [feedAll] at fed
  simp only [feedAll, List.foldlM_append, fed, List.foldlM_cons, List.foldlM_nil, bind_pure]
  rfl

theorem FedEvent.feed_onlyReports_iff {event : FedEvent} {x : SockId} {w : World}
    (unexpected : event.Unexpected x (w.sock x).state) :
    OnlyReports w (event.feed x w) ↔ ¬RunsOtherCell (w.sock x).state event.src event.type := by
  simp only [FedEvent.feed, netSocketHandler, unexpected.1]
  exact stateSwitch_onlyReports_iff w rfl unexpected.2

/-- Feeding unexpected events one after the other only ever prints reports exactly when none of
them runs into a cell of another state. -/
theorem unexpected_inert_iff (w : World) (x : SockId) (events : List FedEvent)
    (unexpected : ∀ event ∈ events, event.Unexpected x (w.sock x).state) :
    (∀ fed, fed <+: events → OnlyReports w (feedAll x fed w)) ↔
      ∀ event ∈ events, ¬RunsOtherCell (w.sock x).state event.src event.type := by
  induction events using List.reverseRecOn with
  | nil =>
      have nothing : OnlyReports w (feedAll x [] w) := harmless_ok w
      simpa using nothing
  | append_singleton events event ih =>
      have earlier := ih fun other member =>
        unexpected other (List.mem_append_left _ member)
      have last : (∀ fed, fed <+: events → OnlyReports w (feedAll x fed w)) →
          (OnlyReports w (feedAll x (events ++ [event]) w) ↔
            ¬RunsOtherCell (w.sock x).state event.src event.type) := by
        intro inert
        obtain ⟨w', outcome, reports⟩ := (inert events List.prefix_rfl).ok
        rw [feedAll_concat_ok outcome, ← reports.after, ← reports.sock_eq]
        apply FedEvent.feed_onlyReports_iff
        rw [reports.sock_eq]
        exact unexpected event (by simp)
      simp only [List.prefix_concat_iff, List.mem_append, List.mem_singleton]
      constructor
      · rintro inert other (member | rfl)
        · exact earlier.mp (fun fed before => inert fed (.inr before)) other member
        · exact (last fun fed before => inert fed (.inr before)).mp (inert _ (.inl rfl))
      · rintro outside fed (rfl | before)
        · refine (last (earlier.mpr fun other member => outside other (.inl member))).mpr ?_
          exact outside event (.inr rfl)
        · exact earlier.mpr (fun other member => outside other (.inl member)) fed before

/-- Socket 1 is in the middle of a message and has another one queued. -/
def sendingWorld : World :=
  (default : World).modify 1 fun sock =>
    { sock with
      fsm := { sock.fsm with state := .active }
      state := .active
      s := 5
      outOffset := 7
      isOutBufBusy := true
      msgBufferQueue := [.new] }

/-- Two actions and an event that an active socket does not expect. -/
def strayEvents : List FedEvent :=
  [⟨{}, kNetFsmAction, kNetSockActionListen⟩, ⟨{}, kNetSockSrcFd, kNetSockActionActivate⟩,
    ⟨{}, kNetFsmAction, kNetSockActionConnect⟩]

/-- No cell below `Active` takes them. -/
theorem unexpected_inert_sending :
    ((∀ fed, fed <+: strayEvents → OnlyReports sendingWorld (feedAll 1 fed sendingWorld)) ↔
        ∀ event ∈ strayEvents, ¬RunsOtherCell .active event.src event.type) ∧
      (∀ event ∈ strayEvents, ¬RunsOtherCell .active event.src event.type) ∧
      ∃ w', feedAll 1 strayEvents sendingWorld = .ok w' ∧ w'.stdout.length = 11 := by
  have state : (sendingWorld.sock 1).state = .active := by simp [sendingWorld]
  have unexpected : ∀ event ∈ strayEvents, event.Unexpected 1 .active := by
    have unlisted : ∀ event ∈ strayEvents, ¬Listed .active event.src event.type := by decide
    intro event member
    refine ⟨?_, unlisted event member⟩
    simp only [strayEvents, List.mem_cons, List.not_mem_nil, or_false] at member
    obtain rfl | rfl | rfl := member <;> rfl
  have decided := unexpected_inert_iff sendingWorld 1 strayEvents (state.symm ▸ unexpected)
  rw [state] at decided
  exact ⟨decided, by decide, _, rfl, rfl⟩

/-- Connecting is unexpected in `Idle` as well, but it runs the cell of `Starting`. -/
theorem unexpected_connect_leaves_idle :
    (⟨{}, kNetFsmAction, kNetSockActionConnect⟩ : FedEvent).Unexpected 1
        ((default : World).sock 1).state ∧
      (∃ w', feedAll 1 [⟨{}, kNetFsmAction, kNetSockActionConnect⟩] default = .ok w' ∧
        (w'.sock 1).state = .connecting) ∧
      ¬OnlyReports default (feedAll 1 [⟨{}, kNetFsmAction, kNetSockActionConnect⟩] default) := by
  have moved : ∃ w', feedAll 1 [⟨{}, kNetFsmAction, kNetSockActionConnect⟩] default = .ok w' ∧
      (w'.sock 1).state = .connecting := ⟨_, rfl, rfl⟩
  refine ⟨⟨rfl, show ¬Listed .idle kNetFsmAction kNetSockActionConnect by decide⟩, moved, ?_⟩
  intro only
  obtain ⟨w', outcome, state⟩ := moved
  rw [outcome] at only
  rw [only.sock_eq] at state
  exact absurd state (show NetSockState.idle ≠ .connecting by decide)

end Klibmsg
