import Klibmsg.Device
import Mathlib.Logic.Relation

/-!
# What a piece of socket code can do

Every cell of the tables, and so every handler, is a sequence of the elementary steps listed by
`SocketStep`.  A property that each elementary step keeps is kept by every handler; the last
sections state this for what events depend on, for the trace and for the state `Cancelling`.
-/

namespace Klibmsg

theorem bind_eq_ok {α β : Type} {first : Except Fault α} {next : α → Except Fault β} {result : β} :
    first >>= next = .ok result ↔ ∃ value, first = .ok value ∧ next value = .ok result := by
  cases first with
  | error fault => simp [Bind.bind, Except.bind]
  | ok value => simp [Bind.bind, Except.bind]

theorem map_eq_ok {α β : Type} {f : α → β} {outcome : Except Fault α} {result : β} :
    f <$> outcome = .ok result ↔ ∃ value, outcome = .ok value ∧ f value = result := by
  cases outcome <;> simp [Functor.map, Except.map]

theorem ok_of_toOption {α : Type} {outcome : Except Fault α} {result : α}
    (some : outcome.toOption = .some result) : outcome = .ok result := by
  cases outcome with
  | error fault => cases some
  | ok value => exact congrArg _ (Option.some.inj some)

theorem check_eq_ok {condition : Prop} [Decidable condition] {action : Action} {w w' : World} :
    check condition action w = .ok w' ↔ condition ∧ action w = .ok w' := by
  by_cases holds : condition <;> simp [check, holds]

/-- Raised and delivered events and sent callbacks; the other effects concern no event. -/
def Effect.isLoud : Effect → Bool
  | raise _ _ => true
  | deliver _ _ => true
  | sendCallback _ => true
  | sys _ => false
  | execute _ => false

/-- The part of the process that events and routing depend on. -/
structure EventView where
  event : SockId → EventName → NetFsmEvent
  ctx : SockId → NetCtx
  ipAddr : SockId → SockAddr
  device : NetDevice
  nextSock : SockId
  freed : List SockId
  loud : List Effect

namespace World

/-- Forget everything that no event depends on. -/
def view (w : World) : EventView where
  event x := (w.sock x).event
  ctx x := (w.sock x).ctx
  ipAddr x := (w.sock x).ipAddr
  device := w.device
  nextSock := w.nextSock
  freed := w.freed
  loud := w.trace.filter Effect.isLoud

@[simp]
theorem view_logCalls (w : World) (calls : List SysCall) : (w.logCalls calls).view = w.view := by
  have quiet : (calls.map Effect.sys).filter Effect.isLoud = [] := by
    simp [List.filter_eq_nil_iff, Effect.isLoud]
  simp [view, quiet]

@[simp]
theorem view_kLibMsgFsmError (w : World) (errStr : String) (state : NetSockState)
    (src type : Int) : (w.kLibMsgFsmError errStr state src type).view = w.view := rfl

@[simp]
theorem view_setMemory (w : World) (memory : Memory) : (w.setMemory memory).view = w.view := rfl

@[simp]
theorem view_openFd (w : World) (fd : Fd) : (w.openFd fd).view = w.view := rfl

@[simp]
theorem view_modifyWorker (w : World) (k : WorkerId) (change : NetWorker → NetWorker) :
    (w.modifyWorker k change).view = w.view := rfl

/-- A change of a socket that keeps its events, its context and its address. -/
theorem view_modify (w : World) (x : SockId) (change : NetSocket → NetSocket)
    (event : (change (w.sock x)).event = (w.sock x).event)
    (ctx : (change (w.sock x)).ctx = (w.sock x).ctx)
    (ipAddr : (change (w.sock x)).ipAddr = (w.sock x).ipAddr) :
    (w.modify x change).view = w.view := by
  have kept {β : Type} (field : NetSocket → β)
      (same : field (change (w.sock x)) = field (w.sock x)) :
      (fun y => field (Function.update w.sock x (change (w.sock x)) y)) =
        fun y => field (w.sock y) := by
    funext y
    by_cases equal : y = x
    · subst equal
      simpa using same
    · simp [Function.update_of_ne equal]
  simp only [view, modify_sock, modify_device, modify_nextSock, modify_freed, modify_trace,
    kept NetSocket.event event, kept NetSocket.ctx ctx, kept NetSocket.ipAddr ipAddr]

@[simp]
theorem view_setState (w : World) (x : SockId) (state : NetSockState) :
    (w.setState x state).view = w.view := view_modify w x _ rfl rfl rfl

@[simp]
theorem view_setErrnum (w : World) (x : SockId) (errnum : Int) :
    (w.setErrnum x errnum).view = w.view := view_modify w x _ rfl rfl rfl

@[simp]
theorem view_setS (w : World) (x : SockId) (s : Fd) : (w.setS x s).view = w.view :=
  view_modify w x _ rfl rfl rfl

@[simp]
theorem view_setAsock (w : World) (x : SockId) (asock : Option SockId) :
    (w.setAsock x asock).view = w.view := view_modify w x _ rfl rfl rfl

@[simp]
theorem view_log_execute (w : World) (task : TaskId) :
    (w.log (.execute task)).view = w.view := by
  simp [view, Effect.isLoud]

@[simp]
theorem view_execute (w : World) (task : TaskId) : (w.execute task).view = w.view := by
  rw [execute]
  split
  · simp
  · rw [view_modifyWorker, view_modify _ _ _ rfl rfl rfl, view_log_execute]

@[simp]
theorem view_setHandle (w : World) (x : SockId) (result : NetPollerHandle × NetPoller Handle) :
    (w.setHandle x result).view = w.view := by
  rw [setHandle, view_modify _ _ _ rfl rfl rfl, view_modifyWorker]

@[simp]
theorem view_addFd (w : World) (x : SockId) : (w.addFd x).view = w.view := by simp [addFd]

@[simp]
theorem view_setIn (w : World) (x : SockId) : (w.setIn x).view = w.view := by simp [setIn]

@[simp]
theorem view_setOut (w : World) (x : SockId) : (w.setOut x).view = w.view := by simp [setOut]

@[simp]
theorem view_close (w : World) (fd : Fd) : (w.close fd).view = w.view := by
  rw [close, view_logCalls]
  rfl

@[simp]
theorem view_pushMsg (w : World) (x : SockId) (msg : NetMsg) : (w.pushMsg x msg).view = w.view :=
  view_modify w x _ rfl rfl rfl

@[simp]
theorem trace_setState (w : World) (x : SockId) (state : NetSockState) :
    (w.setState x state).trace = w.trace := rfl

@[simp]
theorem trace_setErrnum (w : World) (x : SockId) (errnum : Int) :
    (w.setErrnum x errnum).trace = w.trace := rfl

@[simp]
theorem trace_setS (w : World) (x : SockId) (s : Fd) : (w.setS x s).trace = w.trace := rfl

@[simp]
theorem trace_setAsock (w : World) (x : SockId) (asock : Option SockId) :
    (w.setAsock x asock).trace = w.trace := rfl

@[simp]
theorem trace_setHandle (w : World) (x : SockId)
    (result : NetPollerHandle × NetPoller Handle) : (w.setHandle x result).trace = w.trace := rfl

@[simp]
theorem trace_addFd (w : World) (x : SockId) :
    (w.addFd x).trace = w.trace ++ [.sys (.epollCtl .add (w.sock x).s)] := rfl

@[simp]
theorem trace_close (w : World) (fd : Fd) :
    (w.close fd).trace = w.trace ++ [.sys (.close fd)] := rfl

@[simp]
theorem trace_execute (w : World) (task : TaskId) :
    (w.execute task).trace = w.trace ++ [.execute task] := by
  rw [execute]
  split <;> rfl

@[simp]
theorem trace_ctxRaise (w : World) (x : SockId) (event : EventId) :
    (w.ctxRaise x event).trace = w.trace := by
  rw [ctxRaise]
  split <;> rfl

@[simp]
theorem trace_ctxRaiseTo (w : World) (x : SockId) (event : EventId) :
    (w.ctxRaiseTo x event).trace = w.trace := by
  rw [ctxRaiseTo]
  split <;> rfl

@[simp]
theorem stdout_raise (w : World) (x : SockId) (name : EventName) (type : Int)
    (srcptr : Pointer) : (w.raise x name type srcptr).stdout = w.stdout := by
  rw [raise, ctxRaise]
  generalize (World.eventAt _ _).inQueue = queued
  cases queued <;> rfl

@[simp]
theorem stdout_raiseTo (w : World) (x dst : SockId) (name : EventName) (src type : Int)
    (srcptr : Pointer) : (w.raiseTo x dst name src type srcptr).stdout = w.stdout := by
  rw [raiseTo, ctxRaiseTo]
  generalize (World.eventAt _ _).inQueue = queued
  cases queued <;> rfl

/-- The payload that `Raise` stores. -/
def raisedPayload (w : World) (x : SockId) (type : Int) (srcptr : Pointer) : Payload :=
  ⟨(w.sock x).fsm.src, type, if srcptr = .null then (w.sock x).fsm.srcptr else srcptr⟩

@[simp]
theorem trace_raise (w : World) (x : SockId) (name : EventName) (type : Int)
    (srcptr : Pointer) :
    (w.raise x name type srcptr).trace =
      w.trace ++ [.raise ⟨x, name⟩ (w.raisedPayload x type srcptr)] := by
  rw [raise, trace_ctxRaise]
  rfl

@[simp]
theorem trace_raiseTo (w : World) (x dst : SockId) (name : EventName) (src type : Int)
    (srcptr : Pointer) :
    (w.raiseTo x dst name src type srcptr).trace =
      w.trace ++ [.raise ⟨dst, name⟩ ⟨src, type, srcptr⟩] := by
  rw [raiseTo, trace_ctxRaiseTo]
  rfl

/-- Assign the state of the machine of a socket. -/
def setFsmState (w : World) (x : SockId) (state : NetFsmState) : World :=
  w.modify x fun sock => { sock with fsm := { sock.fsm with state := state } }

@[simp]
theorem trace_setFsmState (w : World) (x : SockId) (state : NetFsmState) :
    (w.setFsmState x state).trace = w.trace := rfl

/-! ### The states of the sockets -/

/-- A change of a socket that keeps its state. -/
theorem state_modify (w : World) (x : SockId) (change : NetSocket → NetSocket)
    (same : (change (w.sock x)).state = (w.sock x).state) (y : SockId) :
    ((w.modify x change).sock y).state = (w.sock y).state := by
  by_cases equal : y = x
  · subst equal
    simpa using same
  · simp [Function.update_of_ne equal]

theorem state_setState (w : World) (x : SockId) (state : NetSockState) (y : SockId) :
    ((w.setState x state).sock y).state = if y = x then state else (w.sock y).state := by
  by_cases equal : y = x
  · subst equal
    simp [setState]
  · simp [setState, equal]

@[simp]
theorem state_setHandle (w : World) (x y : SockId)
    (result : NetPollerHandle × NetPoller Handle) :
    ((w.setHandle x result).sock y).state = (w.sock y).state :=
  state_modify _ x _ rfl y

@[simp]
theorem state_execute (w : World) (task : TaskId) (y : SockId) :
    ((w.execute task).sock y).state = (w.sock y).state := by
  rw [execute]
  split
  · rfl
  · exact state_modify (w.log (.execute task)) task.sock
      (fun sock => { sock with task := Function.update sock.task task.name true }) rfl y

@[simp]
theorem state_ctxRaise (w : World) (x : SockId) (event : EventId) (y : SockId) :
    ((w.ctxRaise x event).sock y).state = (w.sock y).state := by
  rw [ctxRaise]
  split
  · rfl
  · exact (state_modify _ x _ rfl y).trans (state_modify w event.sock _ rfl y)

@[simp]
theorem state_ctxRaiseTo (w : World) (x : SockId) (event : EventId) (y : SockId) :
    ((w.ctxRaiseTo x event).sock y).state = (w.sock y).state := by
  rw [ctxRaiseTo]
  split
  · rfl
  · exact (state_modify _ x _ rfl y).trans (state_modify w event.sock _ rfl y)

@[simp]
theorem state_raise (w : World) (x : SockId) (name : EventName) (type : Int)
    (srcptr : Pointer) (y : SockId) :
    ((w.raise x name type srcptr).sock y).state = (w.sock y).state := by
  rw [raise, state_ctxRaise]
  exact state_modify _ x _ rfl y

@[simp]
theorem state_raiseTo (w : World) (x dst : SockId) (name : EventName) (src type : Int)
    (srcptr : Pointer) (y : SockId) :
    ((w.raiseTo x dst name src type srcptr).sock y).state = (w.sock y).state := by
  rw [raiseTo, state_ctxRaiseTo]
  exact state_modify _ dst _ rfl y

/-! ### Event objects -/

theorem eventAt_setEvent (w : World) (event other : EventId)
    (change : NetFsmEvent → NetFsmEvent) :
    (w.setEvent event change).eventAt other =
      if other = event then change (w.eventAt event) else w.eventAt other := by
  obtain ⟨x, name⟩ := event
  obtain ⟨y, name'⟩ := other
  by_cases sock : y = x
  · subst sock
    by_cases same : name' = name
    · subst same
      simp [setEvent, eventAt]
    · simp [setEvent, eventAt, same]
  · simp [setEvent, eventAt, sock]

@[simp]
theorem eventAt_setCtx (w : World) (x : SockId) (change : NetCtx → NetCtx) (event : EventId) :
    (w.setCtx x change).eventAt event = w.eventAt event := by
  by_cases equal : event.sock = x
  · subst equal
    simp [setCtx, eventAt]
  · simp [setCtx, eventAt, equal]

@[simp]
theorem ctx_setEvent (w : World) (event : EventId) (change : NetFsmEvent → NetFsmEvent)
    (y : SockId) : ((w.setEvent event change).sock y).ctx = (w.sock y).ctx := by
  by_cases equal : y = event.sock
  · subst equal
    simp [setEvent]
  · simp [setEvent, equal]

theorem ctx_setCtx (w : World) (x y : SockId) (change : NetCtx → NetCtx) :
    ((w.setCtx x change).sock y).ctx =
      if y = x then change (w.sock x).ctx else (w.sock y).ctx := by
  by_cases equal : y = x
  · subst equal
    simp [setCtx]
  · simp [setCtx, equal]

theorem eventAt_ctxRaise (w : World) (x : SockId) (event other : EventId) :
    (w.ctxRaise x event).eventAt other =
      if other = event then { w.eventAt event with inQueue := true } else w.eventAt other := by
  rw [ctxRaise]
  split
  · next queued =>
      split
      · next same =>
          subst same
          rw [← queued]
      · rfl
  · rw [eventAt_setCtx, eventAt_setEvent]

theorem eventAt_ctxRaiseTo (w : World) (x : SockId) (event other : EventId) :
    (w.ctxRaiseTo x event).eventAt other =
      if other = event then { w.eventAt event with inQueue := true } else w.eventAt other := by
  rw [ctxRaiseTo]
  split
  · next queued =>
      split
      · next same =>
          subst same
          rw [← queued]
      · rfl
  · rw [eventAt_setCtx, eventAt_setEvent]

theorem eventAt_raise {w : World} {x : SockId} {name : EventName} {type : Int} {srcptr : Pointer}
    (other : EventId) :
    (w.raise x name type srcptr).eventAt other =
      if other = ⟨x, name⟩ then ⟨some x, w.raisedPayload x type srcptr, true⟩
      else w.eventAt other := by
  rw [raise]
  rw [eventAt_ctxRaise, eventAt_setEvent, eventAt_setEvent, if_pos rfl]
  split <;> rfl

theorem eventAt_raiseTo {w : World} {x dst : SockId} {name : EventName} {src type : Int}
    {srcptr : Pointer} (other : EventId) :
    (w.raiseTo x dst name src type srcptr).eventAt other =
      if other = ⟨dst, name⟩ then ⟨some dst, ⟨src, type, srcptr⟩, true⟩
      else w.eventAt other := by
  rw [raiseTo]
  rw [eventAt_ctxRaiseTo, eventAt_setEvent, eventAt_setEvent, if_pos rfl]
  split <;> rfl

end World

/-! ## Transfers keep the events -/

/-- A transfer changes buffers and offsets only. -/
structure SameControl (sock sock' : NetSocket) : Prop where
  event : sock'.event = sock.event
  ctx : sock'.ctx = sock.ctx
  ipAddr : sock'.ipAddr = sock.ipAddr
  fsm : sock'.fsm = sock.fsm
  state : sock'.state = sock.state
  s : sock'.s = sock.s
  wfd : sock'.wfd = sock.wfd
  worker : sock'.worker = sock.worker
  task : sock'.task = sock.task
  asock : sock'.asock = sock.asock
  errnum : sock'.errnum = sock.errnum

theorem SameControl.trans {first second third : NetSocket} (left : SameControl first second)
    (right : SameControl second third) : SameControl first third :=
  ⟨right.event.trans left.event, right.ctx.trans left.ctx, right.ipAddr.trans left.ipAddr,
    right.fsm.trans left.fsm, right.state.trans left.state, right.s.trans left.s,
    right.wfd.trans left.wfd, right.worker.trans left.worker, right.task.trans left.task,
    right.asock.trans left.asock, right.errnum.trans left.errnum⟩

theorem SameControl.busy (sock : NetSocket) (busy : Bool) :
    SameControl sock { sock with isOutBufBusy := busy } :=
  ⟨rfl, rfl, rfl, rfl, rfl, rfl, rfl, rfl, rfl, rfl, rfl⟩

theorem recvRaw_sameControl (token2Dptr : Token → Address) (header payload : ReadReply)
    (sock : NetSocket) (memory : Memory) :
    SameControl sock (sock.recvRaw token2Dptr header payload memory).sock := by
  unfold NetSocket.recvRaw NetSocket.recvPayload NetSocket.recvFinish
  dsimp only
  split_ifs <;> exact ⟨rfl, rfl, rfl, rfl, rfl, rfl, rfl, rfl, rfl, rfl, rfl⟩

theorem sendRaw_sameControl (header payload : WriteReply) (sock : NetSocket) (memory : Memory) :
    SameControl sock (sock.sendRaw header payload memory).sock := by
  unfold NetSocket.sendRaw NetSocket.sendPayload NetSocket.sendFinish
  dsimp only
  split_ifs <;> exact ⟨rfl, rfl, rfl, rfl, rfl, rfl, rfl, rfl, rfl, rfl, rfl⟩

theorem dequeue_sameControl {sock sock' : NetSocket}
    (dequeued : sock.dequeueNetMsgToBuf = some sock') : SameControl sock sock' := by
  unfold NetSocket.dequeueNetMsgToBuf at dequeued
  split at dequeued <;> cases dequeued
  exact ⟨rfl, rfl, rfl, rfl, rfl, rfl, rfl, rfl, rfl, rfl, rfl⟩

/-! ## Elementary steps -/

/-- What the code that is run is entitled to: raising the shutdown of some sockets, and moving a
listener to `Cancelling`. -/
structure Entitled where
  stops : SockId → Prop
  cancels : Prop

/-- The right to everything. -/
def Entitled.all : Entitled := ⟨fun _ => True, True⟩

/-- An elementary step of socket code.  A shutdown event names the socket that raises it. -/
inductive SocketStep (may : Entitled) : World → World → Prop
  | modify (w : World) (x : SockId) (change : NetSocket → NetSocket)
      (same : SameControl (w.sock x) (change (w.sock x))) : SocketStep may w (w.modify x change)
  | setState (w : World) (x : SockId) (state : NetSockState)
      (cancels : state = .cancelling → may.cancels) : SocketStep may w (w.setState x state)
  | setFsmState (w : World) (x : SockId) (state : NetFsmState) :
      SocketStep may w (w.setFsmState x state)
  | setErrnum (w : World) (x : SockId) (errnum : Int) : SocketStep may w (w.setErrnum x errnum)
  | setS (w : World) (x : SockId) (s : Fd) : SocketStep may w (w.setS x s)
  | setAsock (w : World) (x : SockId) (asock : Option SockId) :
      SocketStep may w (w.setAsock x asock)
  | setMemory (w : World) (memory : Memory) : SocketStep may w (w.setMemory memory)
  | logCalls (w : World) (calls : List SysCall) : SocketStep may w (w.logCalls calls)
  | report (w : World) (lines : List Report) :
      SocketStep may w { w with stdout := w.stdout ++ lines }
  | openFd (w : World) (fd : Fd) : SocketStep may w (w.openFd fd)
  | close (w : World) (fd : Fd) : SocketStep may w (w.close fd)
  | execute (w : World) (task : TaskId) : SocketStep may w (w.execute task)
  | addFd (w : World) (x : SockId) : SocketStep may w (w.addFd x)
  | setIn (w : World) (x : SockId) : SocketStep may w (w.setIn x)
  | setOut (w : World) (x : SockId) : SocketStep may w (w.setOut x)
  | rmFd {w w' : World} {x : SockId} (removed : w.rmFd x = .ok w') : SocketStep may w w'
  | resetOut {w w' : World} {x : SockId} (reset : w.resetOut x = .ok w') : SocketStep may w w'
  | raise (w : World) (x : SockId) (name : EventName) (type : Int) (srcptr : Pointer)
      (shutdown : type = kNetSockEventTypeShutdown → srcptr = .sock x ∧ may.stops x) :
      SocketStep may w (w.raise x name type srcptr)
  | raiseTo (w : World) (x dst : SockId) (name : EventName) (src type : Int) (srcptr : Pointer)
      (ordinary : type ≠ kNetSockEventTypeShutdown) :
      SocketStep may w (w.raiseTo x dst name src type srcptr)

/-- A sequence of elementary steps. -/
def SocketSteps (may : Entitled) : World → World → Prop := Relation.ReflTransGen (SocketStep may)

namespace SocketSteps

variable {may : Entitled} {w w' w'' : World} {x : SockId}

theorem refl (w : World) : SocketSteps may w w := Relation.ReflTransGen.refl

theorem trans (first : SocketSteps may w w') (second : SocketSteps may w' w'') :
    SocketSteps may w w'' := Relation.ReflTransGen.trans first second

theorem modify (steps : SocketSteps may w w') {change : NetSocket → NetSocket}
    (same : SameControl (w'.sock x) (change (w'.sock x))) :
    SocketSteps may w (w'.modify x change) := steps.tail (.modify w' x change same)

theorem setState (steps : SocketSteps may w w') {state : NetSockState}
    (other : state ≠ .cancelling) : SocketSteps may w (w'.setState x state) :=
  steps.tail (.setState w' x state fun equal => absurd equal other)

theorem setFsmState (steps : SocketSteps may w w') {state : NetFsmState} :
    SocketSteps may w (w'.setFsmState x state) := steps.tail (.setFsmState w' x state)

theorem setErrnum (steps : SocketSteps may w w') {errnum : Int} :
    SocketSteps may w (w'.setErrnum x errnum) := steps.tail (.setErrnum w' x errnum)

theorem setS (steps : SocketSteps may w w') {s : Fd} : SocketSteps may w (w'.setS x s) :=
  steps.tail (.setS w' x s)

theorem setAsock (steps : SocketSteps may w w') {asock : Option SockId} :
    SocketSteps may w (w'.setAsock x asock) := steps.tail (.setAsock w' x asock)

theorem setMemory (steps : SocketSteps may w w') {memory : Memory} :
    SocketSteps may w (w'.setMemory memory) := steps.tail (.setMemory w' memory)

theorem logCalls (steps : SocketSteps may w w') {calls : List SysCall} :
    SocketSteps may w (w'.logCalls calls) := steps.tail (.logCalls w' calls)

theorem report (steps : SocketSteps may w w') {lines : List Report} :
    SocketSteps may w { w' with stdout := w'.stdout ++ lines } := steps.tail (.report w' lines)

theorem openFd (steps : SocketSteps may w w') {fd : Fd} : SocketSteps may w (w'.openFd fd) :=
  steps.tail (.openFd w' fd)

theorem close (steps : SocketSteps may w w') {fd : Fd} : SocketSteps may w (w'.close fd) :=
  steps.tail (.close w' fd)

theorem execute (steps : SocketSteps may w w') {task : TaskId} :
    SocketSteps may w (w'.execute task) := steps.tail (.execute w' task)

theorem addFd (steps : SocketSteps may w w') : SocketSteps may w (w'.addFd x) :=
  steps.tail (.addFd w' x)

theorem setIn (steps : SocketSteps may w w') : SocketSteps may w (w'.setIn x) :=
  steps.tail (.setIn w' x)

theorem setOut (steps : SocketSteps may w w') : SocketSteps may w (w'.setOut x) :=
  steps.tail (.setOut w' x)

theorem rmFd (steps : SocketSteps may w w') (removed : w'.rmFd x = .ok w'') :
    SocketSteps may w w'' := steps.tail (.rmFd removed)

theorem resetOut (steps : SocketSteps may w w') (reset : w'.resetOut x = .ok w'') :
    SocketSteps may w w'' := steps.tail (.resetOut reset)

/-- A raise of an event other than the shutdown. -/
theorem raise (steps : SocketSteps may w w') {name : EventName} {type : Int} {srcptr : Pointer}
    (ordinary : type ≠ kNetSockEventTypeShutdown) :
    SocketSteps may w (w'.raise x name type srcptr) :=
  steps.tail (.raise w' x name type srcptr fun shuts => absurd shuts ordinary)

theorem raiseTo (steps : SocketSteps may w w') {dst : SockId} {name : EventName}
    {src type : Int} {srcptr : Pointer} (ordinary : type ≠ kNetSockEventTypeShutdown) :
    SocketSteps may w (w'.raiseTo x dst name src type srcptr) :=
  steps.tail (.raiseTo w' x dst name src type srcptr ordinary)

theorem asyncStop (steps : SocketSteps may w w') (allowed : may.stops x) :
    SocketSteps may w (w'.asyncStop x) :=
  steps.execute.tail (.raise _ x _ _ _ fun _ => ⟨rfl, allowed⟩)

theorem netCloseFd {sys : Sys} {fd : Fd} (steps : SocketSteps may w w')
    (closed : w'.netCloseFd sys fd = .ok w'') : SocketSteps may w w'' := by
  simp only [World.netCloseFd] at closed
  split_ifs at closed <;> cases closed
  · exact steps
  · exact steps.close

theorem initFromFd {sys : Sys} {s : Fd} (steps : SocketSteps may w w')
    (initialised : w'.initFromFd sys x s = .ok w'') : SocketSteps may w w'' := by
  simp only [World.initFromFd] at initialised
  split_ifs at initialised
  cases initialised
  exact steps.setS.logCalls

theorem applyTransfer (steps : SocketSteps may w w') {transfer : Transfer}
    (same : SameControl (w'.sock x) transfer.sock) :
    SocketSteps may w (w'.applyTransfer x transfer) :=
  (steps.modify same).setMemory.logCalls

theorem stopped {type : Int} (steps : SocketSteps may w w')
    (ordinary : type ≠ kNetSockEventTypeShutdown) (done : w'.stopped x type = .ok w'') :
    SocketSteps may w w'' := by
  simp only [World.stopped] at done
  split_ifs at done
  cases done
  exact (steps.raise ordinary).setFsmState

end SocketSteps

/-! ## The cells -/

section Cells

variable {may : Entitled} {w w' : World} {x : SockId} {sys : Sys}

theorem beingAcceptedDone_steps (done : beingAcceptedDone x w = .ok w') :
    SocketSteps may w w' := by
  cases done
  exact ((SocketSteps.refl w).setState (by decide)).raise (by decide)

theorem addAndActivate_steps (done : addAndActivate x w = .ok w') : SocketSteps may w w' := by
  cases done
  exact (SocketSteps.refl w).addFd.setState (by decide)

theorem connectingDone_steps (done : connectingDone x w = .ok w') : SocketSteps may w w' := by
  cases done
  exact ((SocketSteps.refl w).setState (by decide)).execute.raise (by decide)

theorem closeAndFail_steps (done : closeAndFail x sys w = .ok w') : SocketSteps may w w' := by
  obtain ⟨closed, closing, returned⟩ := bind_eq_ok.mp done
  cases returned
  exact (((SocketSteps.refl w).netCloseFd closing).setS.setState (by decide)).raise (by decide)

theorem removeAndFail_steps (done : removeAndFail x sys w = .ok w') : SocketSteps may w w' := by
  obtain ⟨removed, removing, failing⟩ := bind_eq_ok.mp done
  exact ((SocketSteps.refl w).rmFd removing).trans (closeAndFail_steps failing)

theorem connectingFdOut_steps (done : connectingFdOut x sys w = .ok w') :
    SocketSteps may w w' := by
  obtain ⟨reset, resetting, rest⟩ := bind_eq_ok.mp done
  have active : SocketSteps may w
      ((reset.setState x .active).logCalls [.getsockopt (reset.sock x).s]) :=
    (((SocketSteps.refl w).resetOut resetting).setState (by decide)).logCalls
  dsimp only at rest
  split_ifs at rest with connected
  · cases rest
    exact active.raise (by decide)
  · obtain ⟨removed, removing, closing⟩ := bind_eq_ok.mp rest
    split_ifs at closing
    cases closing
    exact (((active.setErrnum.rmFd removing).close).setS.setState (by decide)).raise (by decide)

theorem activeFdIn_steps (done : activeFdIn x sys w = .ok w') : SocketSteps may w w' := by
  have received := ((SocketSteps.refl w : SocketSteps may w w)).applyTransfer
    (recvRaw_sameControl w.device.token2Dptr sys.readHeader sys.readPayload (w.sock x) w.memory)
  simp only [activeFdIn] at done
  split_ifs at done <;> cases done
  · exact received.raise (by decide)
  · exact received
  · exact received

theorem activeFdOutBusy_steps (done : activeFdOutBusy x sys w = .ok w') :
    SocketSteps may w w' := by
  have sent := ((SocketSteps.refl w : SocketSteps may w w)).applyTransfer
    (sendRaw_sameControl sys.writeHeader sys.writePayload (w.sock x) w.memory)
  simp only [activeFdOutBusy] at done
  split_ifs at done <;> cases done
  · exact (sent.modify (SameControl.busy _ false)).raise (by decide)
  · exact sent
  · exact sent

theorem activeFdOut_steps (done : activeFdOut x sys w = .ok w') : SocketSteps may w w' := by
  simp only [activeFdOut] at done
  split_ifs at done
  · exact activeFdOutBusy_steps done
  · split at done
    next sock dequeued =>
      have same := (dequeue_sameControl dequeued).trans (SameControl.busy sock true)
      exact ((SocketSteps.refl w).modify same).trans (activeFdOutBusy_steps done)
    next => exact (SocketSteps.refl w).resetOut done

theorem activeError_steps (allowed : may.stops x) (done : activeError x w = .ok w') :
    SocketSteps may w w' := by
  cases done
  exact ((SocketSteps.refl w).setState (by decide)).asyncStop allowed

theorem acceptingCancel_steps (allowed : may.cancels) (done : acceptingCancel x w = .ok w') :
    SocketSteps may w w' := by
  cases done
  have cancelling : SocketSteps may w (w.setState x .cancelling) :=
    (SocketSteps.refl w).tail (.setState w x _ fun _ => allowed)
  exact cancelling.execute

theorem acceptingNewFd_steps {s : Fd} (done : acceptingNewFd x sys s w = .ok w') :
    SocketSteps may w w' := by
  simp only [acceptingNewFd] at done
  split at done
  next => cases done
  next y _ =>
    split_ifs at done
    · cases done
    obtain ⟨accepted, accepting, rest⟩ := bind_eq_ok.mp done
    obtain ⟨removed, removing, returned⟩ := bind_eq_ok.mp rest
    cases returned
    have raised : SocketSteps may w
        ((accepted.setState y .accepted).raiseTo x y .established kNetDeviceSrcSocketEvent
          kNetSockEventTypeAccepted (.sock y)) :=
      (((SocketSteps.refl w).openFd.initFromFd accepting).setState (by decide)).raiseTo (by decide)
    exact (raised.setAsock.setAsock.rmFd removing).setState (by decide)

theorem acceptingFdIn_steps (done : acceptingFdIn x sys w = .ok w') : SocketSteps may w w' := by
  simp only [acceptingFdIn] at done
  split at done
  next errno _ =>
    split_ifs at done
    · cases done
      exact (SocketSteps.refl w).logCalls
    · obtain ⟨removed, removing, returned⟩ := bind_eq_ok.mp done
      cases returned
      exact (((SocketSteps.refl w).logCalls.setErrnum.setState (by decide)).rmFd removing).raise
        (by decide)
  next s _ =>
    split_ifs at done
    exact (SocketSteps.refl w).logCalls.trans (acceptingNewFd_steps done)

/-- A nested action does what the handler that feeds it is entitled to.  Only a machine that is
being stopped is ever fed `Cancel`. -/
def StepsOf (may : Entitled) (action : ActionCall) : Prop :=
  ∀ y type w w', type ≠ kNetSockActionError →
    (type = kNetSockActionCancel → (w.sock y).fsm.state = .stopping) →
    action y type w = .ok w' → SocketSteps may w w'

theorem cancellingStop_steps {action : ActionCall} (nested : StepsOf may action)
    (done : cancellingStop action x w = .ok w') : SocketSteps may w w' := by
  obtain ⟨removed, removing, rest⟩ := bind_eq_ok.mp done
  dsimp only at rest
  split at rest
  next => cases rest
  next y _ =>
    have listening : SocketSteps may w (removed.setState x .listening) :=
      ((SocketSteps.refl w).rmFd removing).setState (by decide)
    exact listening.trans
      (nested y _ _ _ (by decide) (fun isCancel => absurd isCancel (by decide)) rest)

end Cells

/-! ## The switches -/

/-- Every successful run of an action is a sequence of elementary steps. -/
def Follows (may : Entitled) (action : Action) : Prop :=
  ∀ w w', action w = .ok w' → SocketSteps may w w'

section Switches

variable {may : Entitled} {x : SockId} {sys : Sys} {src type : Int}

theorem Follows.after_report {following : Action} (follows : Follows may following)
    {w w' : World} {lines : List Report}
    (done : following { w with stdout := w.stdout ++ lines } = .ok w') : SocketSteps may w w' :=
  (SocketSteps.refl w).report.trans (follows _ _ done)

theorem Follows.after_reports {following : Action} (follows : Follows may following)
    {w w' : World} {lines more : List Report}
    (done : following { w with stdout := w.stdout ++ lines ++ more } = .ok w') :
    SocketSteps may w w' :=
  (SocketSteps.refl w).report.report.trans (follows _ _ done)

theorem caseIdle_follows {following : Action} (follows : Follows may following) :
    Follows may (caseIdle x src type following) := by
  intro w w' done
  simp only [caseIdle] at done
  split_ifs at done
  · cases done
    exact (SocketSteps.refl w).setState (by decide)
  · exact follows.after_reports done
  · exact follows.after_report done

theorem caseStarting_follows {following : Action} (follows : Follows may following) :
    Follows may (caseStarting x src type following) := by
  intro w w' done
  simp only [caseStarting] at done
  split_ifs at done
  · cases done
    exact (SocketSteps.refl w).setState (by decide)
  · cases done
    exact (SocketSteps.refl w).setState (by decide)
  · cases done
    exact (SocketSteps.refl w).setState (by decide)
  · exact addAndActivate_steps done
  · exact follows.after_reports done
  · exact follows.after_report done

theorem caseBeingAccepted_follows {following : Action} (follows : Follows may following) :
    Follows may (caseBeingAccepted x src type following) := by
  intro w w' done
  simp only [caseBeingAccepted] at done
  split_ifs at done
  · exact beingAcceptedDone_steps done
  · exact follows.after_reports done
  · exact follows.after_report done

theorem caseAccepted_follows {following : Action} (follows : Follows may following) :
    Follows may (caseAccepted x src type following) := by
  intro w w' done
  simp only [caseAccepted] at done
  split_ifs at done
  · exact addAndActivate_steps done
  · exact follows.after_reports done
  · exact follows.after_report done

theorem caseConnectingFd_follows {following : Action} (follows : Follows may following) :
    Follows may (caseConnectingFd x sys src type following) := by
  intro w w' done
  simp only [caseConnectingFd] at done
  split_ifs at done
  · exact connectingFdOut_steps done
  · exact removeAndFail_steps done
  · exact follows.after_reports done

theorem caseConnecting_follows {following : Action} (follows : Follows may following) :
    Follows may (caseConnecting x sys src type following) := by
  intro w w' done
  simp only [caseConnecting] at done
  split_ifs at done
  · exact connectingDone_steps done
  · exact closeAndFail_steps done
  · exact (caseConnectingFd_follows follows).after_report done
  · exact caseConnectingFd_follows follows _ _ done
  · exact follows.after_report done

theorem caseActiveAction_follows {following : Action} (follows : Follows may following)
    (allowed : type = kNetSockActionError → may.stops x) :
    Follows may (caseActiveAction x src type following) := by
  intro w w' done
  simp only [caseActiveAction] at done
  split_ifs at done with isError
  · exact activeError_steps (allowed isError) done
  · exact follows.after_reports done

theorem caseActive_follows {following : Action} (follows : Follows may following)
    (allowed : type = kNetSockActionError → may.stops x) :
    Follows may (caseActive x sys src type following) := by
  intro w w' done
  simp only [caseActive] at done
  split_ifs at done
  · exact activeFdIn_steps done
  · exact activeFdOut_steps done
  · exact removeAndFail_steps done
  · exact (caseActiveAction_follows follows allowed).after_report done
  · exact caseActiveAction_follows follows allowed _ _ done
  · exact follows.after_report done

theorem caseRemovingFd_follows {following : Action} (follows : Follows may following) :
    Follows may (caseRemovingFd x sys src type following) := by
  intro w w' done
  simp only [caseRemovingFd] at done
  split_ifs at done
  · exact removeAndFail_steps done
  · cases done
    exact (SocketSteps.refl w).report
  · cases done
    exact SocketSteps.refl w
  · cases done
    exact SocketSteps.refl w
  · exact follows.after_reports done
  · exact follows.after_report done

theorem caseDone_follows : Follows may caseDone := by
  intro w w' done
  cases done
  exact SocketSteps.refl w

theorem caseListening_follows {following : Action} (follows : Follows may following) :
    Follows may (caseListening x src type following) := by
  intro w w' done
  simp only [caseListening] at done
  split_ifs at done
  · cases done
    exact (SocketSteps.refl w).setState (by decide)
  · exact follows.after_reports done
  · exact follows.after_report done

theorem caseAcceptingFd_follows {following : Action} (follows : Follows may following) :
    Follows may (caseAcceptingFd x sys src type following) := by
  intro w w' done
  simp only [caseAcceptingFd] at done
  split_ifs at done
  · exact acceptingFdIn_steps done
  · exact follows.after_reports done

theorem caseAccepting_follows {following : Action} (follows : Follows may following)
    (allowed : src = kNetFsmAction → type = kNetSockActionCancel → may.cancels) :
    Follows may (caseAccepting x sys src type following) := by
  intro w w' done
  simp only [caseAccepting] at done
  split_ifs at done with isAction isDone isCancel
  · cases done
    exact (SocketSteps.refl w).setState (by decide)
  · exact acceptingCancel_steps (allowed isAction isCancel) done
  · exact (caseAcceptingFd_follows follows).after_report done
  · exact caseAcceptingFd_follows follows _ _ done
  · exact follows.after_report done

theorem caseAcceptingError_follows {following : Action} (follows : Follows may following) :
    Follows may (caseAcceptingError x src type following) := by
  intro w w' done
  simp only [caseAcceptingError] at done
  split_ifs at done
  · cases done
    exact (SocketSteps.refl w).setState (by decide)
  · exact follows.after_reports done
  · exact follows.after_report done

theorem caseCancellingFd_follows {following : Action} (follows : Follows may following) :
    Follows may (caseCancellingFd x src type following) := by
  intro w w' done
  simp only [caseCancellingFd] at done
  split_ifs at done
  · cases done
    exact SocketSteps.refl w
  · exact follows.after_reports done

theorem caseCancelling_follows {action : ActionCall} {following : Action}
    (nested : StepsOf may action) (follows : Follows may following) :
    Follows may (caseCancelling action x src type following) := by
  intro w w' done
  simp only [caseCancelling] at done
  split_ifs at done
  · exact cancellingStop_steps nested done
  · exact (caseCancellingFd_follows follows).after_report done
  · exact caseCancellingFd_follows follows _ _ done
  · exact follows.after_report done

theorem caseDefault_follows : Follows may (caseDefault x src type) := by
  intro w w' done
  cases done
  exact (SocketSteps.refl w).report

theorem stateSwitch_follows {action : ActionCall} (nested : StepsOf may action)
    (errorAllowed : type = kNetSockActionError → may.stops x)
    (cancelAllowed : src = kNetFsmAction → type = kNetSockActionCancel → may.cancels)
    (state : NetSockState) : Follows may (stateSwitch action x sys src type state) := by
  have atRemovingFd : Follows may (caseRemovingFd x sys src type caseDone) :=
    caseRemovingFd_follows caseDone_follows
  have atActive : Follows may (caseActive x sys src type _) :=
    caseActive_follows atRemovingFd errorAllowed
  have atConnecting : Follows may (caseConnecting x sys src type _) :=
    caseConnecting_follows atActive
  have atAccepted : Follows may (caseAccepted x src type _) :=
    caseAccepted_follows atConnecting
  have atBeingAccepted : Follows may (caseBeingAccepted x src type _) :=
    caseBeingAccepted_follows atAccepted
  have atStarting : Follows may (caseStarting x src type _) :=
    caseStarting_follows atBeingAccepted
  have atCancelling : Follows may (caseCancelling action x src type (caseDefault x src type)) :=
    caseCancelling_follows nested caseDefault_follows
  have atAcceptingError : Follows may (caseAcceptingError x src type _) :=
    caseAcceptingError_follows atCancelling
  have atAccepting : Follows may (caseAccepting x sys src type _) :=
    caseAccepting_follows atAcceptingError cancelAllowed
  cases state with
  | idle => exact caseIdle_follows atStarting
  | starting => exact atStarting
  | beingAccepted => exact atBeingAccepted
  | accepted => exact atAccepted
  | connecting => exact atConnecting
  | active => exact atActive
  | removingFd => exact atRemovingFd
  | done => exact caseDone_follows
  | listening => exact caseListening_follows atAccepting
  | accepting => exact atAccepting
  | acceptingError => exact atAcceptingError
  | cancelling => exact atCancelling
  | stopping => exact caseDefault_follows
  | stoppingAccept => exact caseDefault_follows

theorem internalTasks_follows {task : Action} (internal : internalTasks x src type = some task) :
    Follows may task := by
  intro w w' done
  simp only [internalTasks] at internal
  split_ifs at internal <;> cases internal <;> obtain ⟨_, done⟩ := check_eq_ok.mp done <;>
    cases done
  · exact (SocketSteps.refl w).setOut
  · exact (SocketSteps.refl w).setIn
  · exact (SocketSteps.refl w).addFd
  · exact (SocketSteps.refl w).addFd.setOut
  · exact (SocketSteps.refl w).addFd.setIn

theorem netSocketHandler_follows {action : ActionCall} (nested : StepsOf may action)
    (errorAllowed : type = kNetSockActionError → may.stops x)
    (cancelAllowed : src = kNetFsmAction → type = kNetSockActionCancel → may.cancels) :
    Follows may (netSocketHandler action x sys src type) := by
  intro w w' done
  cases internal : internalTasks x src type with
  | some task =>
      simp only [netSocketHandler, internal] at done
      exact internalTasks_follows internal _ _ done
  | none =>
      simp only [netSocketHandler, internal] at done
      exact stateSwitch_follows nested errorAllowed cancelAllowed _ _ _ done

theorem finish2_follows : Follows may (finish2 x) := by
  intro w w' done
  exact ((SocketSteps.refl w).setState (by decide)).stopped (by decide) done

theorem finish1_follows : Follows may (finish1 x sys) := by
  intro w w' done
  obtain ⟨closed, closing, rest⟩ := bind_eq_ok.mp done
  exact ((SocketSteps.refl w).netCloseFd closing).setS.trans (finish2_follows _ _ rest)

/-- Stopping a machine, in the state in which `Stop` has put it. -/
theorem shutdownStop_steps {action : ActionCall} (nested : StepsOf may action)
    (allowed : may.stops x) {w w' : World} (stopping : (w.sock x).fsm.state = .stopping)
    (done : shutdownStop action x sys w = .ok w') : SocketSteps may w w' := by
  have cleared : SocketSteps may w (w.setErrnum x 0) := (SocketSteps.refl w).setErrnum
  simp only [shutdownStop] at done
  split_ifs at done
  cases state : (w.sock x).state with
  | idle =>
      simp only [state] at done
      cases done
      exact cleared
  | done =>
      simp only [state] at done
      exact cleared.trans (finish2_follows _ _ done)
  | starting | accepted | acceptingError | listening =>
      simp only [state] at done
      exact cleared.trans (finish1_follows _ _ done)
  | beingAccepted =>
      simp only [state] at done
      obtain ⟨cancelled, cancelling, returned⟩ := bind_eq_ok.mp done
      cases returned
      have same : ((w.setErrnum x 0).sock x).fsm.state = .stopping := by
        simpa [World.setErrnum] using stopping
      exact (cleared.trans (nested x _ _ _ (by decide) (fun _ => same) cancelling)).setState
        (by decide)
  | removingFd =>
      simp only [state] at done
      cases done
      exact cleared.setState (by decide)
  | connecting | active | accepting | cancelling | stopping | stoppingAccept =>
      simp only [state] at done
      cases done
      exact (cleared.asyncStop allowed).setState (by decide)

theorem netSocketShutdownHandler_steps {action : ActionCall} (nested : StepsOf may action)
    (allowed : src = kNetFsmAction → type = kNetFsmStop → may.stops x) {w w' : World}
    (stopping : (w.sock x).fsm.state = .stopping)
    (done : netSocketShutdownHandler action x sys src type w = .ok w') : SocketSteps may w w' := by
  cases internal : internalTasks x src type with
  | some task =>
      simp only [netSocketShutdownHandler, internal] at done
      exact internalTasks_follows internal _ _ done
  | none =>
      simp only [netSocketShutdownHandler, internal] at done
      split_ifs at done with isStop
      · exact shutdownStop_steps nested (allowed isStop.1 isStop.2) stopping done
      · exact finish2_follows _ _ (check_eq_ok.mp done).2
      · cases done
        exact SocketSteps.refl w
      · obtain ⟨removed, removing, rest⟩ := bind_eq_ok.mp (check_eq_ok.mp done).2
        exact ((SocketSteps.refl w).rmFd removing).trans (finish1_follows _ _ rest)
      · cases done
        exact (SocketSteps.refl w).report

/-- Feeding a machine any event but the stop request. -/
theorem feedWithin_steps (depth : Nat) (notStop : type ≠ kNetFsmStop)
    (errorAllowed : type = kNetSockActionError → may.stops x) {w w' : World}
    (cancelAllowed : src = kNetFsmAction → type = kNetSockActionCancel →
      (w.sock x).fsm.state ≠ .stopping → may.cancels)
    (done : feedWithin sys depth x src type w = .ok w') : SocketSteps may w w' := by
  induction depth generalizing x src type w w' with
  | zero => cases done
  | succ depth ih =>
      have nested : StepsOf may fun y actionType =>
          check (0 < actionType) (feedWithin sys depth y kNetFsmAction actionType) := by
        intro y actionType before after notError stopping fed
        obtain ⟨positive, fed⟩ := check_eq_ok.mp fed
        refine ih ?_ (fun isError => absurd isError notError)
          (fun _ isCancel running => absurd (stopping isCancel) running) fed
        intro isStop
        rw [isStop] at positive
        exact absurd positive (by decide)
      simp only [feedWithin] at done
      split_ifs at done with freed stopping
      · exact netSocketShutdownHandler_steps nested (fun _ isStop => absurd isStop notStop)
          stopping done
      · exact netSocketHandler_follows nested errorAllowed
          (fun isAction isCancel => cancelAllowed isAction isCancel stopping) _ _ done

theorem feed_steps (notStop : type ≠ kNetFsmStop)
    (errorAllowed : type = kNetSockActionError → may.stops x) {w w' : World}
    (cancelAllowed : src = kNetFsmAction → type = kNetSockActionCancel →
      (w.sock x).fsm.state ≠ .stopping → may.cancels)
    (done : feed sys x src type w = .ok w') : SocketSteps may w w' :=
  feedWithin_steps 2 notStop errorAllowed cancelAllowed done

theorem fsmAction_steps (errorAllowed : type = kNetSockActionError → may.stops x) {w w' : World}
    (cancelAllowed : type = kNetSockActionCancel → (w.sock x).fsm.state ≠ .stopping →
      may.cancels)
    (done : fsmAction sys x type w = .ok w') : SocketSteps may w w' := by
  obtain ⟨positive, fed⟩ := check_eq_ok.mp done
  refine feed_steps ?_ errorAllowed (fun _ => cancelAllowed) fed
  intro isStop
  rw [isStop] at positive
  exact absurd positive (by decide)

theorem nestedAction_steps : StepsOf may (nestedAction sys) := by
  intro y type w w' notError stopping done
  obtain ⟨positive, fed⟩ := check_eq_ok.mp done
  refine feedWithin_steps 1 ?_ (fun isError => absurd isError notError)
    (fun _ isCancel running => absurd (stopping isCancel) running) fed
  intro isStop
  rw [isStop] at positive
  exact absurd positive (by decide)

theorem fsmStart_follows : Follows may (fsmStart sys x) := by
  intro w w' done
  simp only [fsmStart] at done
  split_ifs at done
  obtain ⟨started, starting, returned⟩ := bind_eq_ok.mp done
  cases returned
  have handled : SocketSteps may w started :=
    netSocketHandler_follows nestedAction_steps (fun isError => absurd isError (by decide))
      (fun _ isCancel => absurd isCancel (by decide)) _ _ starting
  exact handled.setFsmState

theorem fsmStop_follows (allowed : may.stops x) : Follows may (fsmStop sys x) := by
  intro w w' done
  simp only [fsmStop] at done
  split_ifs at done
  · cases done
    exact SocketSteps.refl w
  · have stopping : SocketSteps may w (w.setFsmState x .stopping) :=
      (SocketSteps.refl w).setFsmState
    exact stopping.trans (netSocketShutdownHandler_steps nestedAction_steps (fun _ _ => allowed)
      (by simp [World.setFsmState]) done)

/-- An action that is neither `Error` nor `Cancel` needs no entitlement. -/
theorem fsmAction_plain_steps (notError : type ≠ kNetSockActionError)
    (notCancel : type ≠ kNetSockActionCancel) {w w' : World}
    (done : fsmAction sys x type w = .ok w') : SocketSteps may w w' :=
  fsmAction_steps (fun isError => absurd isError notError)
    (fun isCancel => absurd isCancel notCancel) done

end Switches

/-! ## The public operations -/

section Operations

variable {may : Entitled} {w w' : World} {x : SockId} {sys : Sys}

theorem start_steps {rc : Int} (done : start sys x w = .ok (rc, w')) : SocketSteps may w w' := by
  simp only [start] at done
  split at done
  next => cases done; exact (SocketSteps.refl w).logCalls
  next s _ =>
    obtain ⟨opened, opening, rest⟩ := bind_eq_ok.mp done
    obtain ⟨started, starting, returned⟩ := bind_eq_ok.mp rest
    cases returned
    exact ((SocketSteps.refl w).logCalls.openFd.initFromFd opening).trans
      (fsmStart_follows _ _ starting)

theorem startFd_steps {fd : Fd} (done : startFd sys x fd w = .ok w') : SocketSteps may w w' := by
  obtain ⟨opened, opening, rest⟩ := bind_eq_ok.mp done
  obtain ⟨started, starting, adding⟩ := bind_eq_ok.mp rest
  exact (((SocketSteps.refl w).initFromFd opening).trans (fsmStart_follows _ _ starting)).trans
    (fsmAction_plain_steps (by decide) (by decide) adding)

theorem setSockOpt_steps {rc : Int} (done : setSockOpt sys x w = .ok (rc, w')) :
    SocketSteps may w w' := by
  simp only [setSockOpt] at done
  split_ifs at done
  cases done
  exact (SocketSteps.refl w).logCalls

theorem bind_steps {rc : Int} (done : Klibmsg.bind sys x w = .ok (rc, w')) :
    SocketSteps may w w' := by
  simp only [Klibmsg.bind] at done
  split_ifs at done
  cases done
  exact (SocketSteps.refl w).logCalls

theorem listen_steps {rc : Int} (done : listen sys x w = .ok (rc, w')) : SocketSteps may w w' := by
  simp only [listen] at done
  split_ifs at done
  · obtain ⟨listening, fed, returned⟩ := bind_eq_ok.mp done
    cases returned
    exact (SocketSteps.refl w).logCalls.trans
      (fsmAction_plain_steps (by decide) (by decide) fed)
  · cases done
    exact (SocketSteps.refl w).logCalls

theorem acceptStart_follows : Follows may (acceptStart sys x) := by
  intro w w' done
  simp only [acceptStart] at done
  split_ifs at done
  · obtain ⟨started, starting, fed⟩ := bind_eq_ok.mp done
    exact (fsmStart_follows _ _ starting).trans
      (fsmAction_plain_steps (by decide) (by decide) fed)
  · cases done
    exact SocketSteps.refl w

theorem acceptPair_follows {listener : SockId} : Follows may (acceptPair x listener) := by
  intro w w' done
  simp only [acceptPair] at done
  split_ifs at done
  cases done
  exact (SocketSteps.refl w).setAsock.setAsock.execute

theorem accept_steps {listener : SockId} (done : accept sys x listener w = .ok w') :
    SocketSteps may w w' := by
  obtain ⟨started, starting, rest⟩ := bind_eq_ok.mp done
  obtain ⟨accepting, fed, pairing⟩ := bind_eq_ok.mp rest
  exact ((acceptStart_follows _ _ starting).trans
    (fsmAction_plain_steps (by decide) (by decide) fed)).trans (acceptPair_follows _ _ pairing)

theorem activate_steps (done : activate sys x w = .ok w') : SocketSteps may w w' :=
  fsmAction_plain_steps (by decide) (by decide) done

theorem stop_steps (allowed : may.stops x) (done : stop sys x w = .ok w') :
    SocketSteps may w w' := fsmStop_follows allowed _ _ done

theorem connect_steps (allowed : may.stops x) (done : connect sys x w = .ok w') :
    SocketSteps may w w' := by
  obtain ⟨connecting, fed, rest⟩ := bind_eq_ok.mp done
  have called : SocketSteps may w (connecting.logCalls [.connect (connecting.sock x).s]) :=
    (SocketSteps.trans (fsmAction_plain_steps (by decide) (by decide) fed)
      (SocketSteps.refl connecting)).logCalls
  dsimp only at rest
  split_ifs at rest
  · exact called.trans (fsmAction_plain_steps (by decide) (by decide) rest)
  · exact called.setErrnum.trans
      (fsmAction_steps (fun _ => allowed) (fun isCancel => absurd isCancel (by decide)) rest)
  · cases rest
    exact called.execute

theorem asyncSendMsg_steps (w : World) (x : SockId) (msg : NetMsg) :
    SocketSteps may w (w.asyncSendMsg x msg) := by
  have pushed : SocketSteps may w (w.pushMsg x msg) :=
    (SocketSteps.refl w).modify ⟨rfl, rfl, rfl, rfl, rfl, rfl, rfl, rfl, rfl, rfl, rfl⟩
  exact pushed.execute

end Operations

/-! ## What the steps keep -/

/-- The effects between two states of the process. -/
def World.since (w' w : World) : List Effect := w'.trace.drop w.trace.length

theorem World.since_append {w w' : World} {added : List Effect}
    (grown : w'.trace = w.trace ++ added) : w'.since w = added := by
  rw [World.since, grown, List.drop_left]

theorem World.since_spec {w w' : World} (grows : w.trace <+: w'.trace) :
    w'.trace = w.trace ++ w'.since w := by
  obtain ⟨added, grown⟩ := grows
  rw [World.since_append grown.symm, grown]

/-- A change that no event depends on and that forgets nothing of the trace. -/
structure World.Quiet (w w' : World) : Prop where
  view_eq : w'.view = w.view
  grows : w.trace <+: w'.trace

/-- Of the elementary steps, only the two raises concern an event. -/
theorem SocketStep.quiet_or_raised {may : Entitled} {w w' : World} (step : SocketStep may w w') :
    World.Quiet w w' ∨
      (∃ x name type srcptr,
        (type = kNetSockEventTypeShutdown → srcptr = .sock x ∧ may.stops x) ∧
          w' = w.raise x name type srcptr) ∨
      ∃ x dst name src type srcptr, type ≠ kNetSockEventTypeShutdown ∧
        w' = w.raiseTo x dst name src type srcptr := by
  cases step with
  | modify x change same => exact .inl ⟨w.view_modify x _ same.event same.ctx same.ipAddr, by simp⟩
  | setFsmState x state => exact .inl ⟨w.view_modify x _ rfl rfl rfl, by simp⟩
  | setState x state _ => exact .inl ⟨by simp, by simp⟩
  | setErrnum x errnum => exact .inl ⟨by simp, by simp⟩
  | setS x s => exact .inl ⟨by simp, by simp⟩
  | setAsock x asock => exact .inl ⟨by simp, by simp⟩
  | setMemory memory => exact .inl ⟨by simp, by simp⟩
  | logCalls calls => exact .inl ⟨by simp, by simp⟩
  | report lines => exact .inl ⟨rfl, List.prefix_rfl⟩
  | openFd fd => exact .inl ⟨by simp, by simp⟩
  | close fd => exact .inl ⟨by simp, by simp⟩
  | execute task => exact .inl ⟨by simp, by simp⟩
  | addFd x => exact .inl ⟨by simp, by simp⟩
  | setIn x => exact .inl ⟨by simp, by simp [World.setIn]⟩
  | setOut x => exact .inl ⟨by simp, by simp [World.setOut]⟩
  | rmFd removed =>
      obtain ⟨poller, _, returned⟩ := bind_eq_ok.mp removed
      cases returned
      exact .inl ⟨by simp, by simp⟩
  | resetOut reset =>
      obtain ⟨result, _, returned⟩ := bind_eq_ok.mp reset
      cases returned
      exact .inl ⟨by simp, by simp⟩
  | raise x name type srcptr shutdown =>
      exact .inr (.inl ⟨x, name, type, srcptr, shutdown, rfl⟩)
  | raiseTo x dst name src type srcptr ordinary =>
      exact .inr (.inr ⟨x, dst, name, src, type, srcptr, ordinary, rfl⟩)

/-- Nothing leaves the trace. -/
theorem SocketSteps.grows {may : Entitled} {w w' : World} (steps : SocketSteps may w w') :
    w.trace <+: w'.trace := by
  induction steps with
  | refl => exact List.prefix_rfl
  | tail _ step ih =>
      refine ih.trans ?_
      obtain same | ⟨x, name, type, srcptr, _, rfl⟩ | ⟨x, dst, name, src, type, srcptr, _, rfl⟩ :=
        step.quiet_or_raised
      · exact same.grows
      · simp
      · simp

/-- Of the elementary steps, only the reports print. -/
theorem SocketStep.stdout_grows {may : Entitled} {w w' : World} (step : SocketStep may w w') :
    w.stdout <+: w'.stdout := by
  cases step with
  | report lines => exact List.prefix_append _ _
  | rmFd removed =>
      obtain ⟨poller, _, returned⟩ := bind_eq_ok.mp removed
      cases returned
      exact List.prefix_rfl
  | resetOut reset =>
      obtain ⟨result, _, returned⟩ := bind_eq_ok.mp reset
      cases returned
      exact List.prefix_rfl
  | execute task =>
      rw [World.execute]
      split <;> exact List.prefix_rfl
  | raise x name type srcptr _ => simp
  | raiseTo x dst name src type srcptr _ => simp
  | modify | setState | setFsmState | setErrnum | setS | setAsock | setMemory | logCalls | openFd |
      close | addFd | setIn | setOut => exact List.prefix_rfl

/-- Nothing that was printed is taken back. -/
theorem SocketSteps.stdout_grows {may : Entitled} {w w' : World} (steps : SocketSteps may w w') :
    w.stdout <+: w'.stdout := by
  induction steps with
  | refl => exact List.prefix_rfl
  | tail _ step ih => exact ih.trans step.stdout_grows

/-- Of the elementary steps, only the assignment of a state changes one. -/
theorem SocketStep.state_eq_or {may : Entitled} {w w' : World} (step : SocketStep may w w')
    (y : SockId) :
    (w'.sock y).state = (w.sock y).state ∨
      ((w'.sock y).state = .cancelling → may.cancels) := by
  cases step with
  | setState x state cancels =>
      rw [World.state_setState]
      split
      · exact .inr cancels
      · exact .inl rfl
  | modify x change same => exact .inl (w.state_modify x _ same.state y)
  | setFsmState x _ => exact .inl (w.state_modify x _ rfl y)
  | setErrnum x _ => exact .inl (w.state_modify x _ rfl y)
  | setS x _ => exact .inl (w.state_modify x _ rfl y)
  | setAsock x _ => exact .inl (w.state_modify x _ rfl y)
  | setMemory _ => exact .inl rfl
  | logCalls _ => exact .inl rfl
  | report _ => exact .inl rfl
  | openFd _ => exact .inl rfl
  | close _ => exact .inl rfl
  | execute task => exact .inl (w.state_execute task y)
  | addFd x => exact .inl (w.state_setHandle x y _)
  | setIn x => exact .inl (w.state_setHandle x y _)
  | setOut x => exact .inl (w.state_setHandle x y _)
  | rmFd removed =>
      obtain ⟨poller, _, returned⟩ := bind_eq_ok.mp removed
      cases returned
      exact .inl (w.state_setHandle _ y _)
  | resetOut reset =>
      obtain ⟨result, _, returned⟩ := bind_eq_ok.mp reset
      cases returned
      exact .inl (w.state_setHandle _ y _)
  | raise x name type srcptr _ => exact .inl (w.state_raise x name type srcptr y)
  | raiseTo x dst name src type srcptr _ =>
      exact .inl (w.state_raiseTo x dst name src type srcptr y)

/-- Without the right to cancel, no socket moves to `Cancelling`. -/
theorem SocketSteps.not_cancelling {may : Entitled} {w w' : World}
    (steps : SocketSteps may w w') (no_cancel : ¬may.cancels) {y : SockId}
    (before : (w.sock y).state ≠ .cancelling) : (w'.sock y).state ≠ .cancelling := by
  induction steps with
  | refl => exact before
  | tail _ step ih =>
      obtain same | cancels := step.state_eq_or y
      · exact same ▸ ih
      · exact fun cancelling => no_cancel (cancels cancelling)

end Klibmsg
