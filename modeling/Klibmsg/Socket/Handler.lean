import Klibmsg.Socket.Raw

/-!
# The state machine of a socket

`NetSocketHandler` is a switch over the state whose cases are switches over source and type.  No
`default` label of it breaks or returns: after the report, control runs into the next label.  Each
case of the outer switch is therefore a function of the code that follows it, and the handler is
their composition in source order.

A handler may feed an action to a machine, its own or that of the paired socket.  The handlers take
that call as an argument, and `feedWithin` closes the recursion.
-/

namespace Klibmsg

/-- A nested call of `NetFsm::Action`. -/
abbrev ActionCall := SockId → Int → Action

/-! ## Cells of the tables -/

namespace World

/-- `NetFsmBadAction`. -/
def netFsmBadAction (w : World) (x : SockId) (src type : Int) : World :=
  w.kLibMsgFsmError "Unexpected action" (w.sock x).state src type

/-- `NetFsmBadSource`. -/
def netFsmBadSource (w : World) (x : SockId) (src type : Int) : World :=
  w.kLibMsgFsmError "Unexpected source" (w.sock x).state src type

/-- `NetFsmBadState`. -/
def netFsmBadState (w : World) (x : SockId) (src type : Int) : World :=
  w.kLibMsgFsmError "Unexpected state" (w.sock x).state src type

/-- `NetSocket::AsyncStop`. -/
def asyncStop (w : World) (x : SockId) : World :=
  (w.execute ⟨x, .stop⟩).raise x .error kNetSockEventTypeShutdown (.sock x)

/-- `NetFsm::Stopped`. -/
def stopped (w : World) (x : SockId) (type : Int) : Except Fault World :=
  if (w.sock x).fsm.state = .stopping then
    .ok ((w.raise x .stopped type .null).modify x fun sock =>
      { sock with fsm := { sock.fsm with state := .idle } })
  else
    .error .check

/-- `NetSocket::InitFromFd`. -/
def initFromFd (w : World) (sys : Sys) (x : SockId) (s : Fd) : Except Fault World :=
  if (w.sock x).state ≠ .idle ∧ (w.sock x).state ≠ .beingAccepted then
    .error .check
  else if (w.sock x).s ≠ -1 then
    .error .check
  else
    let w := (w.setS x s).logCalls [.fcntl s]
    if sys.fcntl = 0 then .ok w else .error .check

end World

/-- `BEINGACCEPTED`, `Done`. -/
def beingAcceptedDone (x : SockId) : Action := fun w =>
  .ok ((w.setState x .accepted).raise x .established kNetSockEventTypeAccepted (.sock x))

/-- `STARTING`, `Started`, and `ACCEPTED`, `Activate`. -/
def addAndActivate (x : SockId) : Action := fun w =>
  .ok ((w.addFd x).setState x .active)

/-- `CONNECTING`, `Done`. -/
def connectingDone (x : SockId) : Action := fun w =>
  .ok (((w.setState x .active).execute ⟨x, .connected⟩).raise x .established
    kNetSockEventTypeConnected (.sock x))

/-- `NetCloseFd`, `s_ = -1`, state `DONE` and the error event. -/
def closeAndFail (x : SockId) (sys : Sys) : Action := fun w => do
  let w ← w.netCloseFd sys (w.sock x).s
  return ((w.setS x (-1)).setState x .done).raise x .error kNetSockEventTypeError (.sock x)

/-- The file descriptor is removed from the poller and closed, and the error is raised: the code of
the `FdErr` cells and of `REMOVINGFD` on its stop task. -/
def removeAndFail (x : SockId) (sys : Sys) : Action := fun w => do
  let w ← w.rmFd x
  closeAndFail x sys w

/-- `CONNECTING`, `FdOut`. -/
def connectingFdOut (x : SockId) (sys : Sys) : Action := fun w => do
  let w ← w.resetOut x
  let w := (w.setState x .active).logCalls [.getsockopt (w.sock x).s]
  if sys.soError = 0 then
    return w.raise x .established kNetSockEventTypeConnected (.sock x)
  else
    let w ← (w.setErrnum x sys.soError).rmFd x
    if w.closeSucceeds sys (w.sock x).s then
      let w := w.close (w.sock x).s
      return ((w.setS x (-1)).setState x .done).raise x .error kNetSockEventTypeError (.sock x)
    else
      .error .check

/-- Take over what `SendRaw` or `RecvRaw` did. -/
def World.applyTransfer (w : World) (x : SockId) (transfer : Transfer) : World :=
  ((w.modify x fun _ => transfer.sock).setMemory transfer.memory).logCalls transfer.calls

/-- `ACTIVE`, `FdIn`. -/
def activeFdIn (x : SockId) (sys : Sys) : Action := fun w =>
  let transfer :=
    (w.sock x).recvRaw w.device.token2Dptr sys.readHeader sys.readPayload w.memory
  let w := w.applyTransfer x transfer
  if transfer.rc = 0 then
    .ok (w.raise x .received kNetSockEventTypeReceived (.msg (w.sock x).inMsg))
  else if transfer.rc = -EAGAIN then
    .ok w
  else if transfer.rc = -ECONNRESET then
    .ok w
  else
    .error .check

/-- `ACTIVE`, `FdOut`, once the out buffer holds a message. -/
def activeFdOutBusy (x : SockId) (sys : Sys) : Action := fun w =>
  let transfer := (w.sock x).sendRaw sys.writeHeader sys.writePayload w.memory
  let w := w.applyTransfer x transfer
  if transfer.rc = 0 then
    .ok ((w.modify x fun sock => { sock with isOutBufBusy := false }).raise x .sent
      kNetSockEventTypeSent (.sock x))
  else if transfer.rc = -EAGAIN then
    .ok w
  else if transfer.rc = -ECONNRESET then
    .ok w
  else
    .error .check

/-- `ACTIVE`, `FdOut`. -/
def activeFdOut (x : SockId) (sys : Sys) : Action := fun w =>
  if (w.sock x).isOutBufBusy then
    activeFdOutBusy x sys w
  else
    match (w.sock x).dequeueNetMsgToBuf with
    | some sock => activeFdOutBusy x sys (w.modify x fun _ => { sock with isOutBufBusy := true })
    | none => w.resetOut x

/-- `ACTIVE`, `Error`. -/
def activeError (x : SockId) : Action := fun w =>
  .ok ((w.setState x .removingFd).asyncStop x)

/-- `ACCEPTING`, `Cancel`. -/
def acceptingCancel (x : SockId) : Action := fun w =>
  .ok ((w.setState x .cancelling).execute ⟨x, .stop⟩)

/-- `ACCEPTING`, `FdIn`, when `accept4` returned a descriptor. -/
def acceptingNewFd (x : SockId) (sys : Sys) (s : Fd) : Action := fun w =>
  match (w.sock x).asock with
  | none => .error .nullPointer
  | some y => do
      if y ∈ w.freed then .error .freedMemory
      let w ← (w.openFd s).initFromFd sys y s
      let w := w.setState y .accepted
      let w :=
        w.raiseTo x y .established kNetDeviceSrcSocketEvent kNetSockEventTypeAccepted (.sock y)
      let w ← ((w.setAsock y none).setAsock x none).rmFd x
      return w.setState x .listening

/-- `ACCEPTING`, `FdIn`. -/
def acceptingFdIn (x : SockId) (sys : Sys) : Action := fun w =>
  let w := w.logCalls [.accept4 (w.sock x).s]
  match sys.accept4 with
  | .fails errno =>
      if errno = ECONNABORTED then
        .ok w
      else if errno = ENFILE ∨ errno = EMFILE ∨ errno = ENOBUFS ∨ errno = ENOMEM then do
        let w ← ((w.setErrnum x errno).setState x .acceptingError).rmFd x
        return w.raise x .error kNetSockEventTypeAcceptError (.sock x)
      else
        .error .check
  | .fd s => if 0 < s then acceptingNewFd x sys s w else .error .check

/-- `CANCELLING` on its stop task. -/
def cancellingStop (action : ActionCall) (x : SockId) : Action := fun w => do
  let w ← w.rmFd x
  let w := w.setState x .listening
  match (w.sock x).asock with
  | none => .error .nullPointer
  | some y => action y kNetSockActionDone w

/-! ## The cases of the outer switch -/

/-- `case kNetSockStateIdle`. -/
def caseIdle (x : SockId) (src type : Int) (following : Action) : Action := fun w =>
  if src = kNetFsmAction then
    if type = kNetFsmStart then
      .ok (w.setState x .starting)
    else
      following ((w.netFsmBadAction x src type).netFsmBadSource x src type)
  else
    following (w.netFsmBadSource x src type)

/-- `case kNetSockStateStarting`. -/
def caseStarting (x : SockId) (src type : Int) (following : Action) : Action := fun w =>
  if src = kNetFsmAction then
    if type = kNetSockActionListen then
      .ok (w.setState x .listening)
    else if type = kNetSockActionConnect then
      .ok (w.setState x .connecting)
    else if type = kNetSockActionBeingAccepted then
      .ok (w.setState x .beingAccepted)
    else if type = kNetSockActionStarted then
      addAndActivate x w
    else
      following ((w.netFsmBadAction x src type).netFsmBadSource x src type)
  else
    following (w.netFsmBadSource x src type)

/-- `case kNetSockStateBeingAccepted`. -/
def caseBeingAccepted (x : SockId) (src type : Int) (following : Action) : Action := fun w =>
  if src = kNetFsmAction then
    if type = kNetSockActionDone then
      beingAcceptedDone x w
    else
      following ((w.netFsmBadAction x src type).netFsmBadSource x src type)
  else
    following (w.netFsmBadSource x src type)

/-- `case kNetSockStateAccepted`. -/
def caseAccepted (x : SockId) (src type : Int) (following : Action) : Action := fun w =>
  if src = kNetFsmAction then
    if type = kNetSockActionActivate then
      addAndActivate x w
    else
      following ((w.netFsmBadAction x src type).netFsmBadSource x src type)
  else
    following (w.netFsmBadSource x src type)

/-- The label `kNetSockSrcFd` of `case kNetSockStateConnecting`. -/
def caseConnectingFd (x : SockId) (sys : Sys) (src type : Int) (following : Action) : Action :=
  fun w =>
    if type = kNetWorkerFdOut then
      connectingFdOut x sys w
    else if type = kNetWorkerFdErr then
      removeAndFail x sys w
    else
      following ((w.netFsmBadAction x src type).netFsmBadSource x src type)

/-- `case kNetSockStateConnecting`: the actions run into the label of the descriptor events. -/
def caseConnecting (x : SockId) (sys : Sys) (src type : Int) (following : Action) : Action :=
  fun w =>
    if src = kNetFsmAction then
      if type = kNetSockActionDone then
        connectingDone x w
      else if type = kNetSockActionError then
        closeAndFail x sys w
      else
        caseConnectingFd x sys src type following (w.netFsmBadAction x src type)
    else if src = kNetSockSrcFd then
      caseConnectingFd x sys src type following w
    else
      following (w.netFsmBadSource x src type)

/-- The label `kNetFsmAction` of `case kNetSockStateActive`. -/
def caseActiveAction (x : SockId) (src type : Int) (following : Action) : Action := fun w =>
  if type = kNetSockActionError then
    activeError x w
  else
    following ((w.netFsmBadAction x src type).netFsmBadSource x src type)

/-- `case kNetSockStateActive`: the descriptor events run into the label of the actions. -/
def caseActive (x : SockId) (sys : Sys) (src type : Int) (following : Action) : Action := fun w =>
  if src = kNetSockSrcFd then
    if type = kNetWorkerFdIn then
      activeFdIn x sys w
    else if type = kNetWorkerFdOut then
      activeFdOut x sys w
    else if type = kNetWorkerFdErr then
      removeAndFail x sys w
    else
      caseActiveAction x src type following (w.netFsmBadAction x src type)
  else if src = kNetFsmAction then
    caseActiveAction x src type following w
  else
    following (w.netFsmBadSource x src type)

/-- `case kNetSockStateRemovingFd`: the stop task runs into the label of the ignored events. -/
def caseRemovingFd (x : SockId) (sys : Sys) (src type : Int) (following : Action) : Action :=
  fun w =>
    if src = kNetSockSrcTaskStop then
      if type = kNetWorkerTaskExecute then
        removeAndFail x sys w
      else
        .ok (w.netFsmBadAction x src type)
    else if src = kNetSockSrcFd then
      .ok w
    else if src = kNetFsmAction then
      if type = kNetSockActionError then
        .ok w
      else
        following ((w.netFsmBadAction x src type).netFsmBadSource x src type)
    else
      following (w.netFsmBadSource x src type)

/-- `case kNetSockStateDone`. -/
def caseDone : Action := fun w => .ok w

/-- `case kNetSockStateListening`. -/
def caseListening (x : SockId) (src type : Int) (following : Action) : Action := fun w =>
  if src = kNetFsmAction then
    if type = kNetSockActionAccept then
      .ok (w.setState x .accepting)
    else
      following ((w.netFsmBadAction x src type).netFsmBadSource x src type)
  else
    following (w.netFsmBadSource x src type)

/-- The label `kNetSockSrcFd` of `case kNetSockStateAccepting`. -/
def caseAcceptingFd (x : SockId) (sys : Sys) (src type : Int) (following : Action) : Action :=
  fun w =>
    if type = kNetWorkerFdIn then
      acceptingFdIn x sys w
    else
      following ((w.netFsmBadAction x src type).netFsmBadSource x src type)

/-- `case kNetSockStateAccepting`: the actions run into the label of the descriptor events. -/
def caseAccepting (x : SockId) (sys : Sys) (src type : Int) (following : Action) : Action :=
  fun w =>
    if src = kNetFsmAction then
      if type = kNetSockActionDone then
        .ok (w.setState x .listening)
      else if type = kNetSockActionCancel then
        acceptingCancel x w
      else
        caseAcceptingFd x sys src type following (w.netFsmBadAction x src type)
    else if src = kNetSockSrcFd then
      caseAcceptingFd x sys src type following w
    else
      following (w.netFsmBadSource x src type)

/-- `case kNetSockStateAcceptingError`. -/
def caseAcceptingError (x : SockId) (src type : Int) (following : Action) : Action := fun w =>
  if src = kNetFsmAction then
    if type = kNetSockActionAccept then
      .ok (w.setState x .accepting)
    else
      following ((w.netFsmBadAction x src type).netFsmBadSource x src type)
  else
    following (w.netFsmBadSource x src type)

/-- The label `kNetSockSrcFd` of `case kNetSockStateCancelling`. -/
def caseCancellingFd (x : SockId) (src type : Int) (following : Action) : Action := fun w =>
  if type = kNetWorkerFdIn then
    .ok w
  else
    following ((w.netFsmBadAction x src type).netFsmBadSource x src type)

/-- `case kNetSockStateCancelling`: the stop task runs into the label of the descriptor events. -/
def caseCancelling (action : ActionCall) (x : SockId) (src type : Int) (following : Action) :
    Action := fun w =>
  if src = kNetSockSrcTaskStop then
    if type = kNetWorkerTaskExecute then
      cancellingStop action x w
    else
      caseCancellingFd x src type following (w.netFsmBadAction x src type)
  else if src = kNetSockSrcFd then
    caseCancellingFd x src type following w
  else
    following (w.netFsmBadSource x src type)

/-- The `default` of the outer switch. -/
def caseDefault (x : SockId) (src type : Int) : Action := fun w =>
  .ok (w.netFsmBadState x src type)

/-! ## The handlers -/

/-- `NetSocket::InternalTasks`; `none` stands for the result 0. -/
def internalTasks (x : SockId) (src type : Int) : Option Action :=
  if src = kNetSockSrcTaskSend then
    some (check (type = kNetWorkerTaskExecute) fun w => .ok (w.setOut x))
  else if src = kNetSockSrcTaskRecv then
    some (check (type = kNetWorkerTaskExecute) fun w => .ok (w.setIn x))
  else if src = kNetSockSrcTaskConnected then
    some (check (type = kNetWorkerTaskExecute) fun w => .ok (w.addFd x))
  else if src = kNetSockSrcTaskConnecting then
    some (check (type = kNetWorkerTaskExecute) fun w => .ok ((w.addFd x).setOut x))
  else if src = kNetSockSrcTaskAccept then
    some (check (type = kNetWorkerTaskExecute) fun w => .ok ((w.addFd x).setIn x))
  else
    none

/-- The outer switch of `NetSocketHandler`, entered at the case of `state`. -/
def stateSwitch (action : ActionCall) (x : SockId) (sys : Sys) (src type : Int) :
    NetSockState → Action :=
  let atRemovingFd := caseRemovingFd x sys src type caseDone
  let atActive := caseActive x sys src type atRemovingFd
  let atConnecting := caseConnecting x sys src type atActive
  let atAccepted := caseAccepted x src type atConnecting
  let atBeingAccepted := caseBeingAccepted x src type atAccepted
  let atStarting := caseStarting x src type atBeingAccepted
  let atIdle := caseIdle x src type atStarting
  let atDefault := caseDefault x src type
  let atCancelling := caseCancelling action x src type atDefault
  let atAcceptingError := caseAcceptingError x src type atCancelling
  let atAccepting := caseAccepting x sys src type atAcceptingError
  let atListening := caseListening x src type atAccepting
  fun
  | .idle => atIdle
  | .starting => atStarting
  | .beingAccepted => atBeingAccepted
  | .accepted => atAccepted
  | .connecting => atConnecting
  | .active => atActive
  | .removingFd => atRemovingFd
  | .done => caseDone
  | .listening => atListening
  | .accepting => atAccepting
  | .acceptingError => atAcceptingError
  | .cancelling => atCancelling
  | .stopping => atDefault
  | .stoppingAccept => atDefault

/-- `NetSocketHandler`. -/
def netSocketHandler (action : ActionCall) (x : SockId) (sys : Sys) (src type : Int) : Action :=
  match internalTasks x src type with
  | some task => task
  | none => fun w => stateSwitch action x sys src type (w.sock x).state w

/-- Label `finish2` of `NetSocketShutdownHandler`. -/
def finish2 (x : SockId) : Action := fun w =>
  (w.setState x .idle).stopped x kNetSockEventTypeStopped

/-- Label `finish1` of `NetSocketShutdownHandler`. -/
def finish1 (x : SockId) (sys : Sys) : Action := fun w => do
  let w ← w.netCloseFd sys (w.sock x).s
  finish2 x (w.setS x (-1))

/-- `NetSocketShutdownHandler` on the stop action. -/
def shutdownStop (action : ActionCall) (x : SockId) (sys : Sys) : Action := fun w =>
  let state := (w.sock x).state
  if state = .accepting ∨ state = .cancelling then
    .error .check
  else
    let w := w.setErrnum x 0
    match state with
    | .idle => .ok w
    | .done => finish2 x w
    | .starting | .accepted | .acceptingError | .listening => finish1 x sys w
    | .beingAccepted => do
        let w ← action x kNetSockActionCancel w
        return w.setState x .stoppingAccept
    | .removingFd => .ok (w.setState x .stopping)
    | _ => .ok ((w.asyncStop x).setState x .stopping)

/-- `NetSocketShutdownHandler`. -/
def netSocketShutdownHandler (action : ActionCall) (x : SockId) (sys : Sys) (src type : Int) :
    Action :=
  match internalTasks x src type with
  | some task => task
  | none => fun w =>
      if src = kNetFsmAction ∧ type = kNetFsmStop then
        shutdownStop action x sys w
      else if (w.sock x).state = .stoppingAccept then
        check (src = kNetFsmAction ∧ type = kNetSockActionDone) (finish2 x) w
      else if (w.sock x).state = .stopping then
        if src ≠ kNetSockSrcTaskStop then
          .ok w
        else
          check (type = kNetWorkerTaskExecute)
            (fun w => do
              let w ← w.rmFd x
              finish1 x sys w)
            w
      else
        .ok (w.netFsmBadState x src type)

/-! ## Feeding a machine -/

/-- `NetFsm::Feed` with at most `depth` handlers on the stack. -/
def feedWithin (sys : Sys) : Nat → SockId → Int → Int → Action
  | 0, _, _, _ => fun _ => .error .outOfBounds
  | depth + 1, x, src, type =>
      let action : ActionCall := fun y actionType =>
        check (0 < actionType) (feedWithin sys depth y kNetFsmAction actionType)
      fun w =>
        if x ∈ w.freed then
          .error .freedMemory
        else if (w.sock x).fsm.state = .stopping then
          netSocketShutdownHandler action x sys src type w
        else
          netSocketHandler action x sys src type w

/-- `NetFsm::Feed`.  An action fed by a handler feeds no further action, so two levels are all
that is ever used. -/
def feed (sys : Sys) : SockId → Int → Int → Action := feedWithin sys 2

/-- `NetFsm::Action`. -/
def fsmAction (sys : Sys) (x : SockId) (type : Int) : Action :=
  check (0 < type) (feed sys x kNetFsmAction type)

/-- The action that a handler running at the top of the stack feeds. -/
def nestedAction (sys : Sys) : ActionCall := fun y type =>
  check (0 < type) (feedWithin sys 1 y kNetFsmAction type)

/-! ## The public operations of `NetFsm` -/

/-- `NetFsm::IsIdle`. -/
def NetSocket.isIdle (sock : NetSocket) : Bool :=
  sock.fsm.state = .idle && !(sock.event .stopped).inQueue

/-- `NetFsm::Start`. -/
def fsmStart (sys : Sys) (x : SockId) : Action := fun w => do
  if (w.sock x).isIdle then
    let w ← netSocketHandler (nestedAction sys) x sys kNetFsmAction kNetFsmStart w
    return w.modify x fun sock => { sock with fsm := { sock.fsm with state := .active } }
  else
    .error .check

/-- `NetFsm::Stop`. -/
def fsmStop (sys : Sys) (x : SockId) : Action := fun w =>
  if (w.sock x).fsm.state ≠ .active then
    .ok w
  else
    netSocketShutdownHandler (nestedAction sys) x sys kNetFsmAction kNetFsmStop
      (w.modify x fun sock => { sock with fsm := { sock.fsm with state := .stopping } })

end Klibmsg
