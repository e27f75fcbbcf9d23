import Klibmsg.Runtime.Transfers
import Klibmsg.Socket.Inert

/-!
# What a step raises

Which event objects a call or a critical section raises follows from the states of the machines that
it feeds and from the answers of the operating system.  The announcements of transfers are left out
here: none of them is ever raised while it is in flight.
-/

namespace Klibmsg

open StepSystem QueueFamily

/-! ## The table -/

/-- The labels to which control can run from the case of a state, this one first. -/
def NetSockState.labels : NetSockState → List NetSockState
  | idle => [idle, starting, beingAccepted, accepted, connecting, active, removingFd]
  | starting => [starting, beingAccepted, accepted, connecting, active, removingFd]
  | beingAccepted => [beingAccepted, accepted, connecting, active, removingFd]
  | accepted => [accepted, connecting, active, removingFd]
  | connecting => [connecting, active, removingFd]
  | active => [active, removingFd]
  | removingFd => [removingFd]
  | listening => [listening, accepting, acceptingError, cancelling]
  | accepting => [accepting, acceptingError, cancelling]
  | acceptingError => [acceptingError, cancelling]
  | cancelling => [cancelling]
  | done => []
  | stopping => []
  | stoppingAccept => []

/-- What `Done` raises, fed to a socket. -/
def NetSocket.doneRaises (sock : NetSocket) (x : SockId) : List EventId :=
  if sock.fsm.state = .stopping then
    if sock.state = .stoppingAccept then [⟨x, .stopped⟩] else []
  else if sock.state ∈ [.idle, .starting, .beingAccepted, .accepted, .connecting] then
    [⟨x, .established⟩]
  else
    []

/-- What an answer of `accept4` makes a listener raise. -/
def Sys.acceptRaises (sys : Sys) (x : SockId) (asock : Option SockId) : List EventId :=
  match sys.accept4 with
  | .fails errno => if errno = ECONNABORTED then [] else [⟨x, .error⟩]
  | .fd _ => asock.toList.map (⟨·, .established⟩)

/-- What the code at a label raises, once it takes the event. -/
def World.cellRaises (w : World) (x : SockId) (sys : Sys) (type : Int) :
    NetSockState → List EventId
  | .beingAccepted => [⟨x, .established⟩]
  | .connecting =>
      if type = kNetSockActionDone ∨ type = kNetWorkerFdOut ∧ sys.soError = 0 then
        [⟨x, .established⟩]
      else
        [⟨x, .error⟩]
  | .active => if type = kNetWorkerFdErr ∨ type = kNetSockActionError then [⟨x, .error⟩] else []
  | .removingFd => [⟨x, .error⟩]
  | .accepting => if type = kNetWorkerFdIn then sys.acceptRaises x (w.sock x).asock else []
  | .cancelling =>
      match (w.sock x).asock with
      | none => []
      | some y => ((w.setState x .listening).sock y).doneRaises y
  | _ => []

/-- What the first of some labels that takes the event raises. -/
def World.labelsRaise (w : World) (x : SockId) (sys : Sys) (src type : Int)
    (labels : List NetSockState) : List EventId :=
  match labels.find? fun label => decide (Cell label src type) with
  | none => []
  | some label => w.cellRaises x sys type label

/-- What feeding a socket raises. -/
def World.feedRaises (w : World) (x : SockId) (sys : Sys) (src type : Int) : List EventId :=
  if (w.sock x).fsm.state = .stopping then
    if (w.sock x).state = .stoppingAccept ∧ src = kNetFsmAction ∧ type = kNetSockActionDone ∨
        (w.sock x).state = .stopping ∧ src = kNetSockSrcTaskStop then
      [⟨x, .stopped⟩]
    else
      []
  else
    w.labelsRaise x sys src type (w.sock x).state.labels

/-- What `Stop` raises. -/
def NetSocket.stopRaises (sock : NetSocket) (x : SockId) : List EventId :=
  if sock.fsm.state ≠ .active then
    []
  else
    match sock.state with
    | .idle => []
    | .beingAccepted => []
    | .removingFd => []
    | .done => [⟨x, .stopped⟩]
    | .starting => [⟨x, .stopped⟩]
    | .accepted => [⟨x, .stopped⟩]
    | .acceptingError => [⟨x, .stopped⟩]
    | .listening => [⟨x, .stopped⟩]
    | _ => [⟨x, .error⟩]

/-- A socket on which `Connect` has been called. -/
def World.connecting (w : World) (x : SockId) : World :=
  if (w.sock x).fsm.state ≠ .stopping ∧
      ((w.sock x).state = .idle ∨ (w.sock x).state = .starting) then
    w.setState x .connecting
  else
    w

/-- What a public operation raises. -/
def SocketCall.raises (sys : Sys) (w : World) : SocketCall → List EventId
  | start _ => []
  | startFd _ _ => []
  | setSockOpt _ => []
  | bind _ => []
  | listen _ => []
  | accept x listener =>
      (if (w.sock x).isIdle ∧ (w.sock x).state ≠ .idle then
        w.labelsRaise x sys kNetFsmAction kNetSockActionBeingAccepted (w.sock x).state.labels
      else
        []) ++
      w.feedRaises listener sys kNetFsmAction kNetSockActionAccept
  | activate x => w.feedRaises x sys kNetFsmAction kNetSockActionActivate
  | connect x =>
      if sys.connect = 0 then
        (w.connecting x).feedRaises x sys kNetFsmAction kNetSockActionDone
      else if sys.connect ≠ EINPROGRESS then
        (w.connecting x).feedRaises x sys kNetFsmAction kNetSockActionError
      else
        []
  | asyncSendMsg _ _ => []
  | execute _ => []
  | stop x => (w.sock x).stopRaises x
  | asyncStop x => [⟨x, .error⟩]

/-- What a step of the process raises. -/
def Runtime.raises (r : Runtime) : RuntimeLabel SocketCall → List EventId
  | .call sys op => op.raises sys r.world
  | .advance k sys =>
      match (r.thread k).frames with
      | .enter (.task task) :: _ =>
          r.world.feedRaises task.sock sys task.name.src kNetWorkerTaskExecute
      | .enter (.fd x pevent) :: _ => r.world.feedRaises x sys kNetSockSrcFd pevent.type
      | _ => []
  | _ => []

/-! ## The trace -/

/-- The events raised in a part of the trace, without the announcements of transfers. -/
def notices (trace : List Effect) : List EventId :=
  (raisedIn trace).filter fun event => !event.isTransfer

section Trace

@[simp]
theorem notices_append (left right : List Effect) :
    notices (left ++ right) = notices left ++ notices right := by
  simp [notices]

@[simp]
theorem notices_nil : notices [] = [] := rfl

@[simp]
theorem notices_sys (call : SysCall) (rest : List Effect) :
    notices (.sys call :: rest) = notices rest := rfl

@[simp]
theorem notices_calls (calls : List SysCall) : notices (calls.map .sys) = [] := by
  induction calls with
  | nil => rfl
  | cons call calls ih => exact ih

@[simp]
theorem notices_deliver (event : EventId) (payload : Payload) (rest : List Effect) :
    notices (.deliver event payload :: rest) = notices rest := rfl

@[simp]
theorem notices_execute (task : TaskId) (rest : List Effect) :
    notices (.execute task :: rest) = notices rest := rfl

@[simp]
theorem notices_raise (event : EventId) (payload : Payload) (rest : List Effect) :
    notices (.raise event payload :: rest) =
      if event.isTransfer then notices rest else event :: notices rest := by
  cases transfer : event.isTransfer with
  | true => simp [notices, raisedIn, Effect.raisedEvent, transfer]
  | false => simp [notices, raisedIn, Effect.raisedEvent, transfer]

theorem notices_rmFd {w w' : World} {x : SockId} (removed : w.rmFd x = .ok w') :
    notices w'.trace = notices w.trace := by
  obtain ⟨poller, _, returned⟩ := bind_eq_ok.mp removed
  cases returned
  simp

theorem notices_resetOut {w w' : World} {x : SockId} (reset : w.resetOut x = .ok w') :
    notices w'.trace = notices w.trace := by
  obtain ⟨result, _, returned⟩ := bind_eq_ok.mp reset
  cases returned
  simp

theorem notices_netCloseFd {w w' : World} {sys : Sys} {fd : Fd}
    (closed : w.netCloseFd sys fd = .ok w') : notices w'.trace = notices w.trace := by
  simp only [World.netCloseFd] at closed
  split_ifs at closed
  · cases closed
    rfl
  · cases closed
    simp

end Trace

/-! ## The code at the labels -/

/-- Every successful run of the code raises these events. -/
def Notes (raises : World → List EventId) (code : Action) : Prop :=
  ∀ w w', code w = .ok w' → notices w'.trace = notices w.trace ++ raises w

section Cells

variable {action : ActionCall} {x : SockId} {sys : Sys} {src type : Int} {w w' : World}

theorem closeAndFail_notes : Notes (fun _ => [⟨x, .error⟩]) (closeAndFail x sys) := by
  intro w w' done
  obtain ⟨closed, closing, returned⟩ := bind_eq_ok.mp done
  cases returned
  simp [EventId.isTransfer, notices_netCloseFd closing]

theorem removeAndFail_notes : Notes (fun _ => [⟨x, .error⟩]) (removeAndFail x sys) := by
  intro w w' done
  obtain ⟨removed, removing, rest⟩ := bind_eq_ok.mp done
  rw [closeAndFail_notes _ _ rest, notices_rmFd removing]

theorem connectingFdOut_notes :
    Notes (fun _ => if sys.soError = 0 then [⟨x, .established⟩] else [⟨x, .error⟩])
      (connectingFdOut x sys) := by
  intro w w' done
  obtain ⟨reset, resetting, rest⟩ := bind_eq_ok.mp done
  have before := notices_resetOut resetting
  dsimp only at rest
  split_ifs at rest ⊢
  · cases rest
    simp [EventId.isTransfer, before]
  · obtain ⟨removed, removing, rest⟩ := bind_eq_ok.mp rest
    have after := notices_rmFd removing
    split_ifs at rest
    cases rest
    simpa [EventId.isTransfer, before] using after

theorem initFromFd_notices {fd : Fd} (done : w.initFromFd sys x fd = .ok w') :
    notices w'.trace = notices w.trace := by
  simp only [World.initFromFd] at done
  split_ifs at done
  cases done
  simp

theorem Sys.acceptRaises_fails {errno : Int} {asock : Option SockId}
    (answer : sys.accept4 = .fails errno) :
    sys.acceptRaises x asock = if errno = ECONNABORTED then [] else [⟨x, .error⟩] := by
  simp only [Sys.acceptRaises, answer]

theorem Sys.acceptRaises_fd {fd : Fd} {asock : Option SockId} (answer : sys.accept4 = .fd fd) :
    sys.acceptRaises x asock = asock.toList.map (⟨·, .established⟩) := by
  simp only [Sys.acceptRaises, answer]

theorem acceptingFdIn_notes :
    Notes (fun w => sys.acceptRaises x (w.sock x).asock) (acceptingFdIn x sys) := by
  intro w w' done
  simp only [acceptingFdIn] at done
  split at done
  next errno answer =>
    simp only [Sys.acceptRaises_fails answer]
    split_ifs at done ⊢
    · cases done
      simp
    · obtain ⟨removed, removing, returned⟩ := bind_eq_ok.mp done
      have before := notices_rmFd removing
      cases returned
      simpa [EventId.isTransfer] using before
  next fd answer =>
    simp only [Sys.acceptRaises_fd answer]
    split_ifs at done
    simp only [acceptingNewFd] at done
    split at done
    next => cases done
    next y paired =>
      have partner : (w.sock x).asock = some y := paired
      split_ifs at done
      · cases done
      obtain ⟨initialised, initialising, rest⟩ := bind_eq_ok.mp done
      obtain ⟨removed, removing, returned⟩ := bind_eq_ok.mp rest
      have before := initFromFd_notices initialising
      have after := notices_rmFd removing
      cases returned
      simpa [EventId.isTransfer, before, partner] using after

theorem activeFdIn_notes : Notes (fun _ => []) (activeFdIn x sys) := by
  intro w w' done
  simp only [activeFdIn] at done
  split_ifs at done <;> cases done <;> simp [World.applyTransfer, EventId.isTransfer]

theorem activeFdOutBusy_notes : Notes (fun _ => []) (activeFdOutBusy x sys) := by
  intro w w' done
  simp only [activeFdOutBusy] at done
  split_ifs at done <;> cases done <;> simp [World.applyTransfer, EventId.isTransfer]

theorem activeFdOut_notes : Notes (fun _ => []) (activeFdOut x sys) := by
  intro w w' done
  simp only [activeFdOut] at done
  split_ifs at done
  · exact activeFdOutBusy_notes _ _ done
  · split at done
    next sock dequeued => exact (activeFdOutBusy_notes _ _ done).trans (by simp)
    next => simpa using notices_resetOut done

theorem activeError_notes : Notes (fun _ => [⟨x, .error⟩]) (activeError x) := by
  intro w w' done
  cases done
  simp [World.asyncStop, EventId.isTransfer]

/-- The stopped socket is announced at the end of every stop. -/
theorem finish2_notes : Notes (fun _ => [⟨x, .stopped⟩]) (finish2 x) := by
  intro w w' done
  simp only [finish2, World.stopped] at done
  split_ifs at done
  cases done
  simp [EventId.isTransfer]

theorem finish1_notes : Notes (fun _ => [⟨x, .stopped⟩]) (finish1 x sys) := by
  intro w w' done
  obtain ⟨closed, closing, rest⟩ := bind_eq_ok.mp done
  rw [finish2_notes _ _ rest]
  simp [notices_netCloseFd closing]

end Cells

/-! ## Through the switch -/

section Switch

variable {action : ActionCall} {x : SockId} {sys : Sys} {src type : Int}
  {raises : World → List EventId} {code following : Action} {label : NetSockState}
  {labels : List NetSockState}

/-- Reports raise nothing. -/
theorem Notes.after (notes : Notes raises following) (passes : Passes code following)
    (blind : ∀ w stdout, raises { w with stdout := stdout } = raises w) : Notes raises code := by
  intro w w' done
  obtain ⟨lines, passed⟩ := passes w
  rw [notes _ _ (passed.symm.trans done), blind]

theorem Harmless.notes (harmless : Harmless code) : Notes (fun _ => []) code := by
  intro w w' done
  obtain ⟨stdout, outcome⟩ := harmless w
  cases done.symm.trans outcome
  simp

theorem cellRaises_report (x : SockId) (sys : Sys) (type : Int) (label : NetSockState) (w : World)
    (stdout : List Report) :
    ({ w with stdout := stdout } : World).cellRaises x sys type label =
      w.cellRaises x sys type label := by
  cases label <;> rfl

theorem labelsRaise_report (x : SockId) (sys : Sys) (src type : Int) (labels : List NetSockState)
    (w : World) (stdout : List Report) :
    ({ w with stdout := stdout } : World).labelsRaise x sys src type labels =
      w.labelsRaise x sys src type labels := by
  simp only [World.labelsRaise, cellRaises_report]

theorem labelsRaise_taken (w : World) (x : SockId) (sys : Sys) (labels : List NetSockState)
    (takes : Cell label src type) :
    w.labelsRaise x sys src type (label :: labels) = w.cellRaises x sys type label := by
  rw [World.labelsRaise, List.find?_cons_of_pos (by simpa using takes)]

theorem labelsRaise_passed (w : World) (x : SockId) (sys : Sys) (labels : List NetSockState)
    (passes : ¬Cell label src type) :
    w.labelsRaise x sys src type (label :: labels) = w.labelsRaise x sys src type labels := by
  rw [World.labelsRaise, List.find?_cons_of_neg (by simpa using passes), World.labelsRaise]

/-- A label that takes some events and lets the others run into the next label. -/
theorem Notes.above
    (below : Notes (fun w => w.labelsRaise x sys src type labels) following)
    (passes : ¬Cell label src type → Passes code following)
    (here : Cell label src type → Notes (fun w => w.cellRaises x sys type label) code) :
    Notes (fun w => w.labelsRaise x sys src type (label :: labels)) code := by
  by_cases takes : Cell label src type
  · simp only [labelsRaise_taken _ _ _ _ takes]
    exact here takes
  · simp only [labelsRaise_passed _ _ _ _ takes]
    exact below.after (passes takes) fun w stdout =>
      labelsRaise_report x sys src type labels w stdout

/-- The last label. -/
theorem Notes.last (harmless : ¬Cell label src type → Harmless code)
    (here : Cell label src type → Notes (fun w => w.cellRaises x sys type label) code) :
    Notes (fun w => w.labelsRaise x sys src type [label]) code := by
  by_cases takes : Cell label src type
  · simp only [labelsRaise_taken _ _ _ _ takes]
    exact here takes
  · simp only [labelsRaise_passed _ _ _ _ takes]
    exact (harmless takes).notes

theorem caseIdle_notes (here : Cell .idle src type) :
    Notes (fun w => w.cellRaises x sys type .idle) (caseIdle x src type following) := by
  obtain ⟨rfl, rfl⟩ := here
  intro w w' done
  cases done
  simp [World.cellRaises]

theorem caseStarting_notes (here : Cell .starting src type) :
    Notes (fun w => w.cellRaises x sys type .starting) (caseStarting x src type following) := by
  intro w w' done
  obtain ⟨rfl, rfl | rfl | rfl | rfl⟩ := here <;> cases done <;> simp [World.cellRaises]

theorem caseBeingAccepted_notes (here : Cell .beingAccepted src type) :
    Notes (fun w => w.cellRaises x sys type .beingAccepted)
      (caseBeingAccepted x src type following) := by
  obtain ⟨rfl, rfl⟩ := here
  intro w w' done
  cases done
  simp [World.cellRaises, EventId.isTransfer]

theorem caseAccepted_notes (here : Cell .accepted src type) :
    Notes (fun w => w.cellRaises x sys type .accepted) (caseAccepted x src type following) := by
  obtain ⟨rfl, rfl⟩ := here
  intro w w' done
  cases done
  simp [World.cellRaises]

theorem caseConnectingFd_notes (here : type = kNetWorkerFdOut ∨ type = kNetWorkerFdErr) :
    Notes (fun w => w.cellRaises x sys type .connecting)
      (caseConnectingFd x sys src type following) := by
  intro w w' done
  simp only [caseConnectingFd] at done
  split_ifs at done with isOut isErr
  · rw [connectingFdOut_notes _ _ done]
    have other : type ≠ kNetSockActionDone := by
      rw [isOut]
      decide
    simp [World.cellRaises, isOut, isOut ▸ other]
  · rw [removeAndFail_notes _ _ done]
    have other : type ≠ kNetSockActionDone := by
      rw [isErr]
      decide
    simp [World.cellRaises, other, isOut]
  · exact absurd here (not_or.mpr ⟨isOut, isErr⟩)

theorem caseConnecting_notes (here : Cell .connecting src type) :
    Notes (fun w => w.cellRaises x sys type .connecting)
      (caseConnecting x sys src type following) := by
  rcases here with ⟨rfl, rfl | rfl⟩ | ⟨rfl | rfl, fdType⟩
  · intro w w' done
    cases done
    simp [World.cellRaises, EventId.isTransfer]
  · exact fun w w' done => closeAndFail_notes w w' done
  · refine (caseConnectingFd_notes fdType).after (caseConnecting_enters following rfl ?_ ?_)
      fun w stdout => rfl
    · rcases fdType with rfl | rfl <;> decide
    · rcases fdType with rfl | rfl <;> decide
  · exact fun w w' done => caseConnectingFd_notes fdType w w' done

theorem caseActive_notes (here : Cell .active src type) :
    Notes (fun w => w.cellRaises x sys type .active) (caseActive x sys src type following) := by
  rcases here with ⟨rfl, rfl | rfl | rfl⟩ | ⟨rfl | rfl, rfl⟩
  · exact fun w w' done => activeFdIn_notes w w' done
  · exact fun w w' done => activeFdOut_notes w w' done
  · exact fun w w' done => removeAndFail_notes w w' done
  · exact fun w w' done => activeError_notes w w' done
  · exact fun w w' done => activeError_notes
      (w.netFsmBadAction x kNetSockSrcFd kNetSockActionError) w' done

theorem caseRemovingFd_notes (here : Cell .removingFd src type) :
    Notes (fun w => w.cellRaises x sys type .removingFd)
      (caseRemovingFd x sys src type following) := by
  obtain ⟨rfl, rfl⟩ := here
  exact fun w w' done => removeAndFail_notes w w' done

theorem caseListening_notes (here : Cell .listening src type) :
    Notes (fun w => w.cellRaises x sys type .listening) (caseListening x src type following) := by
  obtain ⟨rfl, rfl⟩ := here
  intro w w' done
  cases done
  simp [World.cellRaises]

theorem caseAccepting_notes (here : Cell .accepting src type) :
    Notes (fun w => w.cellRaises x sys type .accepting)
      (caseAccepting x sys src type following) := by
  rcases here with ⟨rfl, rfl | rfl⟩ | ⟨rfl | rfl, rfl⟩
  · intro w w' done
    cases done
    simp [World.cellRaises, kNetSockActionDone, kNetWorkerFdIn, kNetPollerIn]
  · intro w w' done
    cases done
    simp [World.cellRaises, kNetSockActionCancel, kNetWorkerFdIn, kNetPollerIn]
  · exact fun w w' done => acceptingFdIn_notes
      (w.netFsmBadAction x kNetFsmAction kNetWorkerFdIn) w' done
  · exact fun w w' done => acceptingFdIn_notes w w' done

theorem caseAcceptingError_notes (here : Cell .acceptingError src type) :
    Notes (fun w => w.cellRaises x sys type .acceptingError)
      (caseAcceptingError x src type following) := by
  obtain ⟨rfl, rfl⟩ := here
  intro w w' done
  cases done
  simp [World.cellRaises]

/-- What the action that `Cancelling` feeds to the paired socket raises. -/
def ReleaseNotes (action : ActionCall) : Prop :=
  ∀ y, Notes (fun w => (w.sock y).doneRaises y) (action y kNetSockActionDone)

theorem doneRaises_congr {sock sock' : NetSocket} (y : SockId) (state : sock'.state = sock.state)
    (fsm : sock'.fsm.state = sock.fsm.state) : sock'.doneRaises y = sock.doneRaises y := by
  rw [NetSocket.doneRaises, NetSocket.doneRaises, state, fsm]

theorem caseCancelling_notes (nested : ReleaseNotes action) (here : Cell .cancelling src type) :
    Notes (fun w => w.cellRaises x sys type .cancelling)
      (caseCancelling action x src type following) := by
  obtain ⟨rfl, rfl⟩ := here
  intro w w' done
  obtain ⟨removed, removing, rest⟩ := bind_eq_ok.mp done
  have before := notices_rmFd removing
  obtain ⟨poller, _, returned⟩ := bind_eq_ok.mp removing
  cases returned
  dsimp only at rest
  split at rest
  next => cases rest
  next y paired =>
    have partner : (w.sock x).asock = some y := by simpa [World.setHandle] using paired
    rw [nested y _ _ rest]
    simp only [World.cellRaises, partner]
    rw [World.trace_setState, before, doneRaises_congr y]
    · by_cases own : y = x
      · simp [own]
      · rw [World.sock_setState_of_ne _ own, World.sock_setState_of_ne _ own]
        exact congrArg NetSocket.state (Function.update_of_ne own _ _)
    · by_cases own : y = x
      · simp [own, World.setHandle]
      · rw [World.sock_setState_of_ne _ own, World.sock_setState_of_ne _ own]
        exact congrArg (fun sock : NetSocket => sock.fsm.state) (Function.update_of_ne own _ _)

/-- What entering the switch at the case of a state raises. -/
theorem stateSwitch_notes (nested : ReleaseNotes action) (state : NetSockState) :
    Notes (fun w => w.labelsRaise x sys src type state.labels)
      (stateSwitch action x sys src type state) := by
  have atRemovingFd : Notes (fun w => w.labelsRaise x sys src type NetSockState.removingFd.labels)
      (stateSwitch action x sys src type .removingFd) :=
    .last caseRemovingFd_harmless caseRemovingFd_notes
  have atActive : Notes (fun w => w.labelsRaise x sys src type NetSockState.active.labels)
      (stateSwitch action x sys src type .active) :=
    atRemovingFd.above (caseActive_passes _) caseActive_notes
  have atConnecting : Notes (fun w => w.labelsRaise x sys src type NetSockState.connecting.labels)
      (stateSwitch action x sys src type .connecting) :=
    atActive.above (caseConnecting_passes _) caseConnecting_notes
  have atAccepted : Notes (fun w => w.labelsRaise x sys src type NetSockState.accepted.labels)
      (stateSwitch action x sys src type .accepted) :=
    atConnecting.above (caseAccepted_passes _) caseAccepted_notes
  have atBeingAccepted :
      Notes (fun w => w.labelsRaise x sys src type NetSockState.beingAccepted.labels)
        (stateSwitch action x sys src type .beingAccepted) :=
    atAccepted.above (caseBeingAccepted_passes _) caseBeingAccepted_notes
  have atStarting : Notes (fun w => w.labelsRaise x sys src type NetSockState.starting.labels)
      (stateSwitch action x sys src type .starting) :=
    atBeingAccepted.above (caseStarting_passes _) caseStarting_notes
  have atCancelling : Notes (fun w => w.labelsRaise x sys src type NetSockState.cancelling.labels)
      (stateSwitch action x sys src type .cancelling) :=
    .last (caseCancelling_harmless action) (caseCancelling_notes nested)
  have atAcceptingError :
      Notes (fun w => w.labelsRaise x sys src type NetSockState.acceptingError.labels)
        (stateSwitch action x sys src type .acceptingError) :=
    atCancelling.above (caseAcceptingError_passes _) caseAcceptingError_notes
  have atAccepting : Notes (fun w => w.labelsRaise x sys src type NetSockState.accepting.labels)
      (stateSwitch action x sys src type .accepting) :=
    atAcceptingError.above (caseAccepting_passes _) caseAccepting_notes
  have nothing : Harmless (caseDefault x src type) := fun w => ⟨_, rfl⟩
  cases state with
  | idle => exact atStarting.above (caseIdle_passes _) caseIdle_notes
  | starting => exact atStarting
  | beingAccepted => exact atBeingAccepted
  | accepted => exact atAccepted
  | connecting => exact atConnecting
  | active => exact atActive
  | removingFd => exact atRemovingFd
  | done => exact Harmless.notes harmless_ok
  | listening => exact atAccepting.above (caseListening_passes _) caseListening_notes
  | accepting => exact atAccepting
  | acceptingError => exact atAcceptingError
  | cancelling => exact atCancelling
  | stopping => exact nothing.notes
  | stoppingAccept => exact nothing.notes

end Switch

/-! ## Feeding and stopping a machine -/

section Feeding

variable {action : ActionCall} {x : SockId} {sys : Sys} {src type : Int} {w w' : World}

/-- No label of the switch takes an internal task. -/
theorem labelsRaise_internal {name : TaskName} (other : name ≠ .stop) (state : NetSockState) :
    w.labelsRaise x sys name.src type state.labels = [] := by
  have none : (state.labels.find? fun label => decide (Cell label name.src type)) = none := by
    rw [List.find?_eq_none]
    intro label member
    rw [decide_eq_true_eq]
    cases name with
    | stop => exact absurd rfl other
    | _ =>
        cases label <;>
          simp [Cell, Listed, TaskName.src, kNetFsmAction, kNetSockSrcFd, kNetSockSrcTaskStop,
            kNetSockSrcTaskSend, kNetSockSrcTaskRecv, kNetSockSrcTaskConnected,
            kNetSockSrcTaskConnecting, kNetSockSrcTaskAccept]
        cases state <;> simp [NetSockState.labels] at member
  rw [World.labelsRaise, none]

theorem feedRaises_internal {name : TaskName} (other : name ≠ .stop) :
    w.feedRaises x sys name.src type = [] := by
  rw [World.feedRaises, labelsRaise_internal other, ite_eq_right_iff]
  intro stopping
  rw [if_neg]
  rintro (⟨_, isAction, _⟩ | ⟨_, isStop⟩)
  · exact absurd isAction name.src_ne_action
  · exact other (TaskName.src_eq_stop isStop)

theorem notices_internalTask (w : World) (x : SockId) (name : TaskName) :
    notices (w.internalTask x name).trace = notices w.trace := by
  cases name <;> simp [World.internalTask, World.setOut, World.setIn]

theorem netSocketHandler_notes (nested : ReleaseNotes action)
    (running : (w.sock x).fsm.state ≠ .stopping)
    (done : netSocketHandler action x sys src type w = .ok w') :
    notices w'.trace = notices w.trace ++ w.feedRaises x sys src type := by
  cases internal : internalTasks x src type with
  | some task =>
      simp only [netSocketHandler, internal] at done
      obtain ⟨name, other, rfl, ran⟩ := internalTasks_eq_some internal
      rw [ran w w' done, notices_internalTask, feedRaises_internal other, List.append_nil]
  | none =>
      simp only [netSocketHandler, internal] at done
      rw [stateSwitch_notes nested _ w w' done, World.feedRaises, if_neg running]

theorem netSocketShutdownHandler_notes (stopping : (w.sock x).fsm.state = .stopping)
    (notStop : ¬(src = kNetFsmAction ∧ type = kNetFsmStop))
    (done : netSocketShutdownHandler action x sys src type w = .ok w') :
    notices w'.trace = notices w.trace ++ w.feedRaises x sys src type := by
  cases internal : internalTasks x src type with
  | some task =>
      simp only [netSocketShutdownHandler, internal] at done
      obtain ⟨name, other, rfl, ran⟩ := internalTasks_eq_some internal
      rw [ran w w' done, notices_internalTask, feedRaises_internal other, List.append_nil]
  | none =>
      simp only [netSocketShutdownHandler, internal] at done
      rw [if_neg notStop] at done
      rw [World.feedRaises, if_pos stopping]
      split_ifs at done with isWaiting isStopping event
      · obtain ⟨event, released⟩ := check_eq_ok.mp done
        rw [if_pos (.inl ⟨isWaiting, event⟩)]
        exact finish2_notes _ _ released
      · cases done
        rw [if_neg, List.append_nil]
        rintro (⟨other, _⟩ | ⟨_, stops⟩)
        · exact isWaiting other
        · exact event stops
      · obtain ⟨removed, removing, finishing⟩ := bind_eq_ok.mp (check_eq_ok.mp done).2
        rw [if_pos (.inr ⟨isStopping, not_not.mp event⟩), finish1_notes _ _ finishing,
          notices_rmFd removing]
      · cases done
        rw [if_neg, List.append_nil]
        · rfl
        · rintro (⟨other, _⟩ | ⟨other, _⟩)
          · exact isWaiting other
          · exact isStopping other

theorem feedWithin_notes {depth : Nat} (nested : ReleaseNotes (actionWithin sys depth))
    (notStop : ¬(src = kNetFsmAction ∧ type = kNetFsmStop))
    (done : feedWithin sys (depth + 1) x src type w = .ok w') :
    notices w'.trace = notices w.trace ++ w.feedRaises x sys src type := by
  simp only [feedWithin] at done
  split_ifs at done with freed stopping
  · exact netSocketShutdownHandler_notes stopping notStop done
  · exact netSocketHandler_notes nested stopping done

/-- The row of the table for `Done`. -/
theorem feedRaises_done (w : World) (x : SockId) (sys : Sys) :
    w.feedRaises x sys kNetFsmAction kNetSockActionDone = (w.sock x).doneRaises x := by
  have taken (state : NetSockState) :
      w.labelsRaise x sys kNetFsmAction kNetSockActionDone state.labels =
        if state ∈ [.idle, .starting, .beingAccepted, .accepted, .connecting] then
          [⟨x, .established⟩]
        else
          [] := by
    cases state <;> rfl
  have other : ¬((w.sock x).state = .stopping ∧ kNetFsmAction = kNetSockSrcTaskStop) := fun both =>
    absurd both.2 (by decide)
  rw [World.feedRaises, NetSocket.doneRaises, taken]
  simp only [other, or_false, and_true]

theorem releaseNotes_within (sys : Sys) (depth : Nat) : ReleaseNotes (actionWithin sys depth) := by
  induction depth with
  | zero =>
      intro y w w' done
      obtain ⟨_, fed⟩ := check_eq_ok.mp done
      cases fed
  | succ depth ih =>
      intro y w w' done
      obtain ⟨_, fed⟩ := check_eq_ok.mp done
      rw [feedWithin_notes ih (by decide) fed, feedRaises_done]

theorem feed_notes (notStop : ¬(src = kNetFsmAction ∧ type = kNetFsmStop))
    (done : feed sys x src type w = .ok w') :
    notices w'.trace = notices w.trace ++ w.feedRaises x sys src type :=
  feedWithin_notes (releaseNotes_within sys 1) notStop done

theorem fsmAction_notes (done : fsmAction sys x type w = .ok w') :
    notices w'.trace = notices w.trace ++ w.feedRaises x sys kNetFsmAction type := by
  obtain ⟨positive, fed⟩ := check_eq_ok.mp done
  refine feed_notes (fun isStop => ?_) fed
  rw [isStop.2] at positive
  exact absurd positive (by decide)

theorem StopRun.notes (run : StopRun x sys w w') :
    notices w'.trace = notices w.trace ++ (w.sock x).stopRaises x := by
  rw [NetSocket.stopRaises]
  cases run with
  | inactive fsm => simp [fsm]
  | idle fsm state | pairing fsm state | removing fsm state =>
      rw [if_neg (not_not.mpr fsm), state]
      exact (List.append_nil _).symm
  | done fsm state finishing =>
      rw [if_neg (not_not.mpr fsm), state]
      have raised := finish2_notes _ _ finishing
      exact raised
  | closed fsm state finishing =>
      rw [if_neg (not_not.mpr fsm)]
      have raised := finish1_notes _ _ finishing
      obtain state | state | state | state := state <;> rw [state] <;> exact raised
  | running fsm state =>
      rw [if_neg (not_not.mpr fsm)]
      obtain state | state | state | state := state <;> rw [state] <;>
        simp [World.asyncStop, EventId.isTransfer, World.beginStop]

end Feeding

/-! ## The public operations -/

section Calls

variable {op : SocketCall} {x listener : SockId} {sys : Sys} {type : Int} {w w' : World}

theorem feedRaises_silent (w : World) (x : SockId) (sys : Sys)
    (silent : type = kNetSockActionStarted ∨ type = kNetSockActionListen ∨
      type = kNetSockActionConnect ∨ type = kNetSockActionActivate) :
    w.feedRaises x sys kNetFsmAction type = [] := by
  have running (state : NetSockState) :
      w.labelsRaise x sys kNetFsmAction type state.labels = [] := by
    obtain rfl | rfl | rfl | rfl := silent <;> cases state <;> rfl
  rw [World.feedRaises, running, ite_eq_right_iff, ite_eq_right_iff]
  rintro _ (⟨_, _, isDone⟩ | ⟨_, isStop⟩)
  · rw [isDone] at silent
    exact absurd silent (by decide)
  · exact absurd isStop (by decide)

/-- The row of the table for `Error`. -/
theorem feedRaises_error (w : World) (x : SockId) (sys : Sys) :
    w.feedRaises x sys kNetFsmAction kNetSockActionError =
      if (w.sock x).fsm.state ≠ .stopping ∧
          (w.sock x).state ∈
            [.idle, .starting, .beingAccepted, .accepted, .connecting, .active] then
        [⟨x, .error⟩]
      else
        [] := by
  rw [World.feedRaises]
  by_cases stopping : (w.sock x).fsm.state = .stopping
  · rw [if_pos stopping, if_neg, if_neg fun running => running.1 stopping]
    rintro (⟨_, _, isDone⟩ | ⟨_, isStop⟩)
    · exact absurd isDone (by decide)
    · exact absurd isStop (by decide)
  · rw [if_neg stopping]
    simp only [ne_eq, stopping, not_false_eq_true, true_and]
    cases (w.sock x).state <;> rfl

/-- The row of the table for `Accept`. -/
theorem feedRaises_accept (w : World) (x : SockId) (sys : Sys) :
    w.feedRaises x sys kNetFsmAction kNetSockActionAccept =
      if (w.sock x).fsm.state ≠ .stopping ∧ (w.sock x).state = .accepting then
        sys.acceptRaises x (w.sock x).asock
      else
        [] := by
  rw [World.feedRaises]
  by_cases stopping : (w.sock x).fsm.state = .stopping
  · rw [if_pos stopping, if_neg, if_neg fun running => running.1 stopping]
    rintro (⟨_, _, isDone⟩ | ⟨_, isStop⟩)
    · exact absurd isDone (by decide)
    · exact absurd isStop (by decide)
  · rw [if_neg stopping]
    simp only [ne_eq, stopping, not_false_eq_true, true_and]
    cases (w.sock x).state <;> rfl

theorem StartRun.notices_eq (run : StartRun x w w') : notices w'.trace = notices w.trace := by
  cases run <;> simp

/-- Connecting, from any state, raises nothing at first. -/
theorem connect_control (done : fsmAction sys x kNetSockActionConnect w = .ok w') :
    notices w'.trace = notices w.trace ∧
      (w'.sock x).state = ((w.connecting x).sock x).state ∧
        (w'.sock x).fsm.state = ((w.connecting x).sock x).fsm.state := by
  refine ⟨?_, ?_⟩
  · rw [fsmAction_notes done, feedRaises_silent _ _ _ (by decide), List.append_nil]
  rw [World.connecting]
  by_cases stopping : (w.sock x).fsm.state = .stopping
  · rw [if_neg fun running => running.1 stopping]
    cases fsmAction_run done with
    | internal name other isAction => exact absurd isAction.symm name.src_ne_action
    | cell running => exact absurd stopping running
    | released stopping state event => exact absurd event.2 (by decide)
    | finished stopping state event => exact absurd event (by decide)
    | ignored => exact ⟨rfl, rfl⟩
    | badState => exact ⟨rfl, rfl⟩
  · obtain ⟨stdout, ⟨fresh, rfl⟩ | ⟨used, rfl⟩⟩ := connect_switch (fsmAction_switch stopping done)
    · rw [if_pos ⟨stopping, fresh⟩]
      simp
    · rw [if_neg fun both => not_or.mpr used both.2]
      exact ⟨rfl, rfl⟩

theorem connect_notes (done : connect sys x w = .ok w') :
    notices w'.trace = notices w.trace ++ (SocketCall.connect x).raises sys w := by
  obtain ⟨begun, beginning, rest⟩ := bind_eq_ok.mp done
  obtain ⟨before, state, fsm⟩ := connect_control beginning
  simp only [SocketCall.raises]
  dsimp only at rest
  split_ifs at rest ⊢
  · rw [fsmAction_notes rest, feedRaises_done, feedRaises_done]
    rw [← doneRaises_congr x state fsm]
    simp [before]
  · rw [fsmAction_notes rest, feedRaises_error, feedRaises_error]
    simp [before, state, fsm]
  · cases rest
    simp [before]

theorem World.sock_resetOut (reset : w.resetOut x = .ok w') :
    ∃ wfd, w'.sock = Function.update w.sock x { w.sock x with wfd := wfd } := by
  obtain ⟨result, _, returned⟩ := bind_eq_ok.mp reset
  cases returned
  exact ⟨result.1, rfl⟩

theorem World.sock_rmFd (removed : w.rmFd x = .ok w') : w'.sock = w.sock := by
  obtain ⟨poller, _, returned⟩ := bind_eq_ok.mp removed
  cases returned
  exact Function.update_eq_self x w.sock

/-- What decides whether `Accept` makes a listener call `accept4`, and for which socket. -/
structure SameListener (y : SockId) (w w' : World) : Prop where
  asock_eq : (w'.sock y).asock = (w.sock y).asock
  accepting_iff : (w'.sock y).fsm.state ≠ .stopping ∧ (w'.sock y).state = .accepting ↔
    (w.sock y).fsm.state ≠ .stopping ∧ (w.sock y).state = .accepting

namespace SameListener

variable {y : SockId} {w'' : World}

theorem trans (first : SameListener y w w') (second : SameListener y w' w'') :
    SameListener y w w'' :=
  ⟨second.asock_eq.trans first.asock_eq, second.accepting_iff.trans first.accepting_iff⟩

theorem of_sock_eq (same : w'.sock y = w.sock y) : SameListener y w w' :=
  ⟨by rw [same], by rw [same]⟩

theorem of_startRun (run : StartRun x w w') (y : SockId) : SameListener y w w' := by
  by_cases own : y = x
  · subst own
    cases run with
    | started idle state => exact ⟨by simp, by simp [state]⟩
    | reported idle state stdout =>
        have fsm : (w.sock y).fsm.state = .idle := by
          simp only [NetSocket.isIdle, Bool.and_eq_true, decide_eq_true_eq] at idle
          exact idle.1
        exact ⟨by simp, by simp [fsm]⟩
  · refine of_sock_eq ?_
    cases run with
    | started idle state =>
        rw [World.sock_setFsmState_of_ne _ own, World.sock_setState_of_ne _ own]
    | reported idle state stdout => exact World.sock_setFsmState_of_ne _ own _

/-- A socket whose state is, and stays, another one. -/
theorem of_states (asock : (w'.sock y).asock = (w.sock y).asock)
    (before : (w.sock y).state ≠ .accepting) (after : (w'.sock y).state ≠ .accepting) :
    SameListener y w w' :=
  ⟨asock, iff_of_false (fun both => after both.2) fun both => before both.2⟩

theorem of_connectingFdOut (done : connectingFdOut x sys w = .ok w')
    (before : (w.sock x).state ≠ .accepting) (y : SockId) : SameListener y w w' := by
  obtain ⟨reset, resetting, rest⟩ := bind_eq_ok.mp done
  obtain ⟨wfd, socks⟩ := World.sock_resetOut resetting
  by_cases own : y = x
  · subst own
    refine of_states ?_ before ?_
    all_goals
      dsimp only at rest
      split_ifs at rest
      · cases rest
        simp [socks]
      · obtain ⟨removed, removing, rest⟩ := bind_eq_ok.mp rest
        have kept := World.sock_rmFd removing
        split_ifs at rest
        cases rest
        simp [kept, socks, World.close]
  · refine of_sock_eq ?_
    dsimp only at rest
    split_ifs at rest
    · cases rest
      rw [World.sock_raise_of_ne _ own]
      simp [World.sock_setState_of_ne _ own, socks, own]
    · obtain ⟨removed, removing, rest⟩ := bind_eq_ok.mp rest
      have kept := World.sock_rmFd removing
      split_ifs at rest
      cases rest
      rw [World.sock_raise_of_ne _ own, World.sock_setState_of_ne _ own,
        World.sock_setS_of_ne _ own]
      simp [World.close, kept, World.sock_setErrnum_of_ne _ own, World.sock_setState_of_ne _ own,
        socks, own]

theorem of_fed (running : (w.sock x).fsm.state ≠ .stopping)
    (fed : FedRun (nestedAction sys) x sys kNetFsmAction kNetSockActionBeingAccepted w w')
    (y : SockId) : SameListener y w w' := by
  cases fed with
  | internal name other isAction => exact absurd isAction.symm name.src_ne_action
  | released stopping => exact absurd stopping running
  | ignored stopping => exact absurd stopping running
  | finished stopping => exact absurd stopping running
  | badState stopping => exact absurd stopping running
  | @cell w' lines label running falls run listed =>
      cases run
      case beingAccepted =>
        by_cases own : y = x
        · subst own
          refine of_states (by simp) (fun accepting => ?_) (by simp)
          rw [accepting] at falls
          exact absurd falls (by decide)
        · exact of_sock_eq (World.sock_setState_of_ne _ own _)
      case connectingOut source event done =>
        have reported : SameListener y w { w with stdout := w.stdout ++ lines } := of_sock_eq rfl
        refine reported.trans (of_connectingFdOut done (fun accepting => ?_) y)
        rw [show (w.sock x).state = .accepting from accepting] at falls
        exact absurd falls (by decide)
      case activeOut source event done => exact absurd source (by decide)
      case ignored => exact of_sock_eq rfl
      all_goals exact absurd ‹kNetSockActionBeingAccepted = _› (by decide)

end SameListener

theorem acceptStart_notes (done : acceptStart sys x w = .ok w') :
    (notices w'.trace = notices w.trace ++
      if (w.sock x).isIdle ∧ (w.sock x).state ≠ .idle then
        w.labelsRaise x sys kNetFsmAction kNetSockActionBeingAccepted (w.sock x).state.labels
      else
        []) ∧
      ∀ y, SameListener y w w' := by
  simp only [acceptStart] at done
  split_ifs at done with idle
  · obtain ⟨started, starting, feeding⟩ := bind_eq_ok.mp done
    have run := fsmStart_run starting
    have running : (started.sock x).fsm.state ≠ .stopping := by cases run <;> simp
    refine ⟨?_, fun y => (SameListener.of_startRun run y).trans
      (SameListener.of_fed running (fsmAction_run feeding) y)⟩
    rw [fsmAction_notes feeding, run.notices_eq, World.feedRaises, if_neg running]
    congr 1
    cases run with
    | started _ state =>
        rw [if_neg fun both => both.2 state]
        simp only [World.sock_setFsmState_self, World.sock_setState_self]
        rfl
    | reported _ state stdout =>
        rw [if_pos ⟨idle, state⟩]
        simp only [World.sock_setFsmState_self]
        cases (w.sock x).state <;> rfl
  · cases done
    rw [if_neg fun both => idle both.1, List.append_nil]
    exact ⟨rfl, fun y => .of_sock_eq rfl⟩

theorem accept_notes (done : accept sys x listener w = .ok w') :
    notices w'.trace = notices w.trace ++ (SocketCall.accept x listener).raises sys w := by
  obtain ⟨begun, starting, rest⟩ := bind_eq_ok.mp done
  obtain ⟨accepting, feeding, pairing⟩ := bind_eq_ok.mp rest
  obtain ⟨before, same⟩ := acceptStart_notes starting
  have fed := fsmAction_notes feeding
  rw [feedRaises_accept] at fed
  simp only [(same listener).accepting_iff, (same listener).asock_eq] at fed
  simp only [acceptPair] at pairing
  split_ifs at pairing
  cases pairing
  rw [SocketCall.raises, feedRaises_accept, ← List.append_assoc, ← before, ← fed]
  simp

/-- A public operation raises what the table says, but for the announcements of transfers. -/
theorem SocketCall.run_notes (done : op.run sys w = .ok w') :
    notices w'.trace = notices w.trace ++ op.raises sys w := by
  simp only [SocketCall.run] at done
  split_ifs at done
  cases op with
  | start x =>
      obtain ⟨⟨rc, started⟩, starting, returned⟩ := map_eq_ok.mp done
      cases returned
      simp only [Klibmsg.start] at starting
      split at starting
      next => cases starting; simp [SocketCall.raises]
      next =>
        obtain ⟨initialised, initialising, rest⟩ := bind_eq_ok.mp starting
        obtain ⟨begun, beginning, returned⟩ := bind_eq_ok.mp rest
        cases returned
        rw [(fsmStart_run beginning).notices_eq, initFromFd_notices initialising]
        simp [SocketCall.raises]
  | startFd x fd =>
      obtain ⟨initialised, initialising, rest⟩ := bind_eq_ok.mp done
      obtain ⟨begun, beginning, adding⟩ := bind_eq_ok.mp rest
      rw [fsmAction_notes adding, feedRaises_silent _ _ _ (by decide),
        (fsmStart_run beginning).notices_eq, initFromFd_notices initialising]
      rfl
  | setSockOpt x =>
      obtain ⟨⟨rc, set⟩, setting, returned⟩ := map_eq_ok.mp done
      cases returned
      simp only [Klibmsg.setSockOpt] at setting
      split_ifs at setting
      cases setting
      simp [SocketCall.raises]
  | bind x =>
      obtain ⟨⟨rc, bound⟩, binding, returned⟩ := map_eq_ok.mp done
      cases returned
      simp only [Klibmsg.bind] at binding
      split_ifs at binding
      cases binding
      simp [SocketCall.raises]
  | listen x =>
      obtain ⟨⟨rc, listened⟩, listening, returned⟩ := map_eq_ok.mp done
      cases returned
      simp only [Klibmsg.listen] at listening
      split_ifs at listening
      · obtain ⟨fed, feeding, returned⟩ := bind_eq_ok.mp listening
        cases returned
        rw [fsmAction_notes feeding, feedRaises_silent _ _ _ (by decide)]
        simp [SocketCall.raises]
      · cases listening
        simp [SocketCall.raises]
  | accept x listener => exact accept_notes done
  | activate x => exact fsmAction_notes done
  | connect x => exact connect_notes done
  | asyncSendMsg x msg =>
      cases done
      simp [SocketCall.raises, World.asyncSendMsg, World.pushMsg]
  | execute task =>
      cases done
      simp [SocketCall.raises]
  | stop x => exact (fsmStop_run done).notes
  | asyncStop x =>
      cases done
      simp [SocketCall.raises, World.asyncStop, EventId.isTransfer]

end Calls

/-- A step of the process raises what the table says, but for the announcements of transfers. -/
theorem RuntimeStep.notes {r r' : Runtime} {label : RuntimeLabel SocketCall}
    (step : RuntimeStep socketOwner r label r') :
    notices r'.world.trace = notices r.world.trace ++ r.raises label := by
  cases step with
  | call called => exact SocketCall.run_notes called
  | poll | snapshot | pop => exact (List.append_nil _).symm
  | @enter k sys body ctx rest w top context free ran =>
      simp only [Runtime.raises, top]
      cases body with
      | task task =>
          exact feed_notes (fun isStop => absurd isStop.1 task.name.src_ne_action) ran
      | fd x pevent => exact feed_notes (fun isStop => absurd isStop.1 (by decide)) ran
      | event event =>
          obtain rfl := socketOwner_takes ran
          simp [World.takeEvent, World.setEvent]
  | popEvent top | leave top | finish top | external top =>
      simp only [Runtime.raises, top]
      exact (List.append_nil _).symm
  | process top processed =>
      obtain rfl := socketOwner_takes processed
      simp [Runtime.raises, top, World.takeEvent, World.setEvent]

end Klibmsg
