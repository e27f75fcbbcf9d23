import Klibmsg.Socket.Cells

/-!
# The life cycle of the sockets

A `LifeView` keeps of a process only what the life cycle of its sockets consists of: the two state
variables and the descriptor of every socket, how often it has stopped, and which descriptors are
open, were taken over and were closed.  Each cell of the tables is translated to the few operations
that it makes on this view.
-/

namespace Klibmsg

/-- The part of a socket that its life cycle consists of. -/
structure Control where
  fsm : NetFsmState
  state : NetSockState
  s : Fd
deriving DecidableEq, Repr

/-- The life cycles of the sockets and the use of the descriptors. -/
@[ext]
structure LifeView where
  control : SockId → Control
  fds : Fd → Bool
  /-- How often a socket has taken over the descriptor. -/
  taken : Fd → Nat
  /-- How often the descriptor has been closed. -/
  closed : Fd → Nat
  /-- How often the stopped event of the socket has been raised. -/
  stops : SockId → Nat

namespace LifeView

def setState (v : LifeView) (x : SockId) (state : NetSockState) : LifeView :=
  { v with control := Function.update v.control x { v.control x with state := state } }

def setFsm (v : LifeView) (x : SockId) (fsm : NetFsmState) : LifeView :=
  { v with control := Function.update v.control x { v.control x with fsm := fsm } }

def setS (v : LifeView) (x : SockId) (s : Fd) : LifeView :=
  { v with control := Function.update v.control x { v.control x with s := s } }

def openFd (v : LifeView) (fd : Fd) : LifeView :=
  { v with fds := Function.update v.fds fd true }

def take (v : LifeView) (fd : Fd) : LifeView :=
  { v with taken := Function.update v.taken fd (v.taken fd + 1) }

def close (v : LifeView) (fd : Fd) : LifeView :=
  { v with
    fds := Function.update v.fds fd false
    closed := Function.update v.closed fd (v.closed fd + 1) }

/-- The machine of the socket has stopped. -/
def finish (v : LifeView) (x : SockId) : LifeView :=
  { (v.setState x .idle).setFsm x .idle with
    stops := Function.update v.stops x (v.stops x + 1) }

end LifeView

/-- How often the stopped event of a socket has been raised. -/
def stoppedCount (trace : List Effect) (x : SockId) : Nat :=
  trace.countP fun
    | .raise event _ => event = ⟨x, .stopped⟩
    | _ => false

/-- The part of a socket that its life cycle consists of. -/
def NetSocket.control (sock : NetSocket) : Control := ⟨sock.fsm.state, sock.state, sock.s⟩

theorem SameControl.control_eq {sock sock' : NetSocket} (same : SameControl sock sock') :
    sock'.control = sock.control := by
  simp [NetSocket.control, same.fsm, same.state, same.s]

/-- The effect is not part of a life cycle. -/
def Effect.isLifeless : Effect → Bool
  | .sys (.fcntl _) => false
  | .sys (.close _) => false
  | .raise event _ => event.name ≠ .stopped
  | _ => true

/-- A call that moves bytes. -/
def SysCall.isTransfer : SysCall → Bool
  | read _ _ _ _ => true
  | write _ _ _ _ _ => true
  | _ => false

theorem recvRaw_transfers (token2Dptr : Token → Address) (header payload : ReadReply)
    (sock : NetSocket) (memory : Memory) :
    ∀ call ∈ (sock.recvRaw token2Dptr header payload memory).calls, call.isTransfer = true := by
  unfold NetSocket.recvRaw NetSocket.recvPayload NetSocket.recvFinish
  dsimp only
  split_ifs <;> simp [SysCall.isTransfer]

theorem sendRaw_transfers (header payload : WriteReply) (sock : NetSocket) (memory : Memory) :
    ∀ call ∈ (sock.sendRaw header payload memory).calls, call.isTransfer = true := by
  unfold NetSocket.sendRaw NetSocket.sendPayload NetSocket.sendFinish
  dsimp only
  split_ifs <;> simp [SysCall.isTransfer]

namespace World

/-- The life cycles of a process. -/
def life (w : World) : LifeView where
  control x := (w.sock x).control
  fds := w.fds
  taken fd := w.trace.count (.sys (.fcntl fd))
  closed fd := w.trace.count (.sys (.close fd))
  stops := stoppedCount w.trace

variable (w : World)

theorem life_modify (x : SockId) (change : NetSocket → NetSocket) :
    (w.modify x change).life =
      { w.life with
        control := Function.update w.life.control x (change (w.sock x)).control } := by
  refine LifeView.ext ?_ rfl rfl rfl rfl
  funext y
  by_cases equal : y = x
  · subst equal
    simp [life]
  · simp [life, equal]

/-- A change of a socket that keeps its life cycle. -/
theorem life_modify_same {x : SockId} {change : NetSocket → NetSocket}
    (same : (change (w.sock x)).control = (w.sock x).control) :
    (w.modify x change).life = w.life := by
  rw [life_modify, same]
  have unchanged : Function.update w.life.control x (w.sock x).control = w.life.control :=
    Function.update_eq_self x w.life.control
  rw [unchanged]

@[simp]
theorem life_setState (x : SockId) (state : NetSockState) :
    (w.setState x state).life = w.life.setState x state := w.life_modify x _

@[simp]
theorem life_setFsmState (x : SockId) (fsm : NetFsmState) :
    (w.setFsmState x fsm).life = w.life.setFsm x fsm := w.life_modify x _

@[simp]
theorem life_setS (x : SockId) (s : Fd) : (w.setS x s).life = w.life.setS x s :=
  w.life_modify x _

@[simp]
theorem life_setErrnum (x : SockId) (errnum : Int) : (w.setErrnum x errnum).life = w.life :=
  w.life_modify_same rfl

@[simp]
theorem life_setAsock (x : SockId) (asock : Option SockId) : (w.setAsock x asock).life = w.life :=
  w.life_modify_same rfl

theorem stoppedCount_append (left right : List Effect) (x : SockId) :
    stoppedCount (left ++ right) x = stoppedCount left x + stoppedCount right x := by
  rw [stoppedCount, stoppedCount, stoppedCount, List.countP_append]

/-- Effects that are no part of a life cycle. -/
theorem life_trace {w w' : World} {added : List Effect}
    (sock : ∀ y, (w'.sock y).control = (w.sock y).control) (fds : w'.fds = w.fds)
    (grown : w'.trace = w.trace ++ added)
    (other : ∀ effect ∈ added, effect.isLifeless = true) : w'.life = w.life := by
  refine LifeView.ext (funext sock) fds ?_ ?_ ?_
  · funext fd
    have none : added.count (.sys (.fcntl fd)) = 0 :=
      List.count_eq_zero.mpr fun member => by cases other _ member
    simp only [life, grown, List.count_append, none, Nat.add_zero]
  · funext fd
    have none : added.count (.sys (.close fd)) = 0 :=
      List.count_eq_zero.mpr fun member => by cases other _ member
    simp only [life, grown, List.count_append, none, Nat.add_zero]
  · funext x
    have none : stoppedCount added x = 0 := by
      refine List.countP_eq_zero.mpr fun effect member => ?_
      have inert := other effect member
      cases effect with
      | raise event payload =>
          simp only [decide_eq_true_eq]
          rintro rfl
          cases inert
      | sys | execute | deliver | sendCallback => simp
    simp only [life, grown, stoppedCount_append, none, Nat.add_zero]

theorem life_log {effect : Effect} (other : effect.isLifeless = true) :
    (w.log effect).life = w.life :=
  life_trace (fun _ => rfl) rfl rfl (by simpa using other)

theorem life_logCalls {calls : List SysCall}
    (other : ∀ call ∈ calls, (Effect.sys call).isLifeless = true) :
    (w.logCalls calls).life = w.life := by
  refine life_trace (fun _ => rfl) rfl rfl fun effect member => ?_
  obtain ⟨call, called, rfl⟩ := List.mem_map.mp member
  exact other call called

@[simp]
theorem life_openFd (fd : Fd) : (w.openFd fd).life = w.life.openFd fd := rfl

@[simp]
theorem life_modifyWorker (k : WorkerId) (change : NetWorker → NetWorker) :
    (w.modifyWorker k change).life = w.life := rfl

@[simp]
theorem life_setMemory (memory : Memory) : (w.setMemory memory).life = w.life := rfl

@[simp]
theorem life_report (stdout : List Report) : { w with stdout := stdout }.life = w.life := rfl

@[simp]
theorem life_netFsmBadState (x : SockId) (src type : Int) :
    (w.netFsmBadState x src type).life = w.life := rfl

@[simp]
theorem life_setHandle (x : SockId) (result : NetPollerHandle × NetPoller Handle) :
    (w.setHandle x result).life = w.life := by
  rw [setHandle, life_modify_same _ rfl]
  rfl

theorem life_setHandle_log (x : SockId) (result : NetPollerHandle × NetPoller Handle)
    {calls : List SysCall}
    (ctl : ∀ call ∈ calls, ∃ op fd, call = .epollCtl op fd) :
    ((w.setHandle x result).logCalls calls).life = w.life := by
  rw [life_logCalls, life_setHandle]
  intro call member
  obtain ⟨op, other, rfl⟩ := ctl call member
  rfl

@[simp]
theorem life_addFd (x : SockId) : (w.addFd x).life = w.life :=
  w.life_setHandle_log x _ (by simp)

@[simp]
theorem life_setIn (x : SockId) : (w.setIn x).life = w.life :=
  w.life_setHandle_log x _ (by split_ifs <;> simp)

@[simp]
theorem life_setOut (x : SockId) : (w.setOut x).life = w.life :=
  w.life_setHandle_log x _ (by split_ifs <;> simp)

theorem life_rmFd {w w' : World} {x : SockId} (removed : w.rmFd x = .ok w') :
    w'.life = w.life := by
  obtain ⟨poller, _, returned⟩ := bind_eq_ok.mp removed
  cases returned
  exact w.life_setHandle_log x _ (by simp)

theorem life_resetOut {w w' : World} {x : SockId} (reset : w.resetOut x = .ok w') :
    w'.life = w.life := by
  obtain ⟨result, _, returned⟩ := bind_eq_ok.mp reset
  cases returned
  exact w.life_setHandle_log x _ (by split_ifs <;> simp)

@[simp]
theorem life_internalTask (x : SockId) (name : TaskName) :
    (w.internalTask x name).life = w.life := by
  cases name <;> simp [internalTask]

@[simp]
theorem life_execute (task : TaskId) : (w.execute task).life = w.life := by
  rw [execute]
  split
  · exact w.life_log rfl
  · rw [life_modifyWorker, life_modify_same _ rfl]
    exact w.life_log rfl

theorem life_setEvent (event : EventId) (change : NetFsmEvent → NetFsmEvent) :
    (w.setEvent event change).life = w.life := w.life_modify_same rfl

theorem life_setCtx (x : SockId) (change : NetCtx → NetCtx) : (w.setCtx x change).life = w.life :=
  w.life_modify_same rfl

theorem life_ctxRaise (x : SockId) (event : EventId) : (w.ctxRaise x event).life = w.life := by
  rw [ctxRaise]
  split
  · rfl
  · rw [life_setCtx, life_setEvent]

theorem life_ctxRaiseTo (x : SockId) (event : EventId) :
    (w.ctxRaiseTo x event).life = w.life := by
  rw [ctxRaiseTo]
  split
  · rfl
  · rw [life_setCtx, life_setEvent]

@[simp]
theorem life_raise (x : SockId) {name : EventName} (type : Int) (srcptr : Pointer)
    (other : name ≠ .stopped) : (w.raise x name type srcptr).life = w.life := by
  rw [raise, life_ctxRaise, life_setEvent, life_log _ (by simpa [Effect.isLifeless] using other)]

@[simp]
theorem life_raiseTo (x dst : SockId) {name : EventName} (src type : Int) (srcptr : Pointer)
    (other : name ≠ .stopped) : (w.raiseTo x dst name src type srcptr).life = w.life := by
  rw [raiseTo, life_ctxRaiseTo, life_setEvent,
    life_log _ (by simpa [Effect.isLifeless] using other)]

/-- The stopped event is raised. -/
theorem life_stopped (x : SockId) (type : Int) :
    (((w.setState x .idle).raise x .stopped type .null).setFsmState x .idle).life =
      w.life.finish x := by
  have raised (v : World) : (v.raise x .stopped type .null).life =
      { v.life with stops := Function.update v.life.stops x (v.life.stops x + 1) } := by
    rw [raise, life_ctxRaise, life_setEvent]
    refine LifeView.ext rfl rfl ?_ ?_ ?_
    · funext fd
      simp [life, List.count_append]
    · funext fd
      simp [life, List.count_append]
    · funext y
      by_cases equal : y = x
      · subst equal
        simp [life, stoppedCount]
      · have different : x ≠ y := Ne.symm equal
        simp [life, stoppedCount, equal, different]
  rw [life_setFsmState, raised, life_setState]
  rfl

@[simp]
theorem life_close (fd : Fd) : (w.close fd).life = w.life.close fd := by
  refine LifeView.ext rfl rfl ?_ ?_ ?_
  · funext other
    simp [life, LifeView.close, List.count_append]
  · funext other
    by_cases equal : other = fd
    · subst equal
      simp [life, LifeView.close, List.count_append]
    · have different : fd ≠ other := Ne.symm equal
      simp [life, LifeView.close, List.count_append, List.count_singleton, equal, different]
  · funext y
    simp [life, LifeView.close, stoppedCount]

/-- The socket takes over the descriptor. -/
theorem life_fcntl (x : SockId) (fd : Fd) :
    ((w.setS x fd).logCalls [.fcntl fd]).life = (w.life.setS x fd).take fd := by
  refine LifeView.ext ?_ rfl ?_ ?_ ?_
  · rw [← life_setS]
    rfl
  · funext other
    by_cases equal : other = fd
    · subst equal
      simp [life, LifeView.take, LifeView.setS, setS, List.count_append]
    · have different : fd ≠ other := Ne.symm equal
      simp [life, LifeView.take, LifeView.setS, setS, List.count_append, List.count_singleton,
        equal, different]
  · funext other
    simp [life, LifeView.take, LifeView.setS, setS, List.count_append]
  · funext y
    simp [life, LifeView.take, LifeView.setS, setS, stoppedCount]

@[simp]
theorem life_pushMsg (x : SockId) (msg : NetMsg) : (w.pushMsg x msg).life = w.life :=
  w.life_modify_same rfl

theorem life_applyTransfer {x : SockId} {transfer : Transfer}
    (same : SameControl (w.sock x) transfer.sock)
    (transfers : ∀ call ∈ transfer.calls, call.isTransfer = true) :
    (w.applyTransfer x transfer).life = w.life := by
  rw [applyTransfer, life_logCalls, life_setMemory, life_modify_same _ same.control_eq]
  intro call member
  have moves := transfers call member
  cases call <;> first | rfl | cases moves

end World

/-! ## The cells on the life cycles -/

namespace LifeView

/-- The descriptor of the socket is given up: closed, unless there is none. -/
inductive Drops (v : LifeView) (x : SockId) : LifeView → Prop
  | none (negative : (v.control x).s < 0) : Drops v x (v.setS x (-1))
  | closed (isOpen : v.fds (v.control x).s = true) :
      Drops v x ((v.close (v.control x).s).setS x (-1))

/-- The socket takes over a descriptor. -/
def takeOver (v : LifeView) (x : SockId) (fd : Fd) : LifeView :=
  ((v.openFd fd).setS x fd).take fd

@[simp]
theorem control_setState (v : LifeView) (x : SockId) (state : NetSockState) :
    (v.setState x state).control x = { v.control x with state := state } := by simp [setState]

theorem control_setState_of_ne (v : LifeView) {x y : SockId} (other : y ≠ x)
    (state : NetSockState) : (v.setState x state).control y = v.control y := by
  simp [setState, other]

@[simp]
theorem control_setFsm (v : LifeView) (x : SockId) (fsm : NetFsmState) :
    (v.setFsm x fsm).control x = { v.control x with fsm := fsm } := by simp [setFsm]

theorem control_setFsm_of_ne (v : LifeView) {x y : SockId} (other : y ≠ x) (fsm : NetFsmState) :
    (v.setFsm x fsm).control y = v.control y := by simp [setFsm, other]

@[simp]
theorem control_setS (v : LifeView) (x : SockId) (s : Fd) :
    (v.setS x s).control x = { v.control x with s := s } := by simp [setS]

theorem control_setS_of_ne (v : LifeView) {x y : SockId} (other : y ≠ x) (s : Fd) :
    (v.setS x s).control y = v.control y := by simp [setS, other]

@[simp]
theorem control_takeOver (v : LifeView) (x : SockId) (fd : Fd) :
    (v.takeOver x fd).control x = { v.control x with s := fd } := control_setS (v.openFd fd) x fd

theorem control_takeOver_of_ne (v : LifeView) {x y : SockId} (other : y ≠ x) (fd : Fd) :
    (v.takeOver x fd).control y = v.control y := control_setS_of_ne (v.openFd fd) other fd

@[simp]
theorem control_finish (v : LifeView) (x : SockId) :
    (v.finish x).control x = { v.control x with fsm := .idle, state := .idle } := by
  change ((v.setState x .idle).setFsm x .idle).control x = _
  rw [control_setFsm, control_setState]

theorem control_finish_of_ne (v : LifeView) {x y : SockId} (other : y ≠ x) :
    (v.finish x).control y = v.control y := by
  change ((v.setState x .idle).setFsm x .idle).control y = _
  rw [control_setFsm_of_ne _ other, control_setState_of_ne _ other]

variable {v v' : LifeView} {x : SockId}

theorem Drops.control (drops : v.Drops x v') :
    v'.control x = { v.control x with s := -1 } := by
  cases drops with
  | none => exact control_setS v x _
  | closed => exact control_setS (v.close _) x _

theorem Drops.control_of_ne (drops : v.Drops x v') {y : SockId} (other : y ≠ x) :
    v'.control y = v.control y := by
  cases drops with
  | none => exact control_setS_of_ne v other _
  | closed => exact control_setS_of_ne (v.close _) other _

end LifeView

section Cells

variable {w w' : World} {x : SockId} {sys : Sys}

theorem netCloseFd_life (closed : w.netCloseFd sys (w.sock x).s = .ok w') :
    w.life.Drops x (w'.setS x (-1)).life := by
  simp only [World.netCloseFd] at closed
  split_ifs at closed with negative isOpen <;> cases closed
  · rw [World.life_setS]
    exact .none negative
  · rw [World.life_setS, World.life_close]
    rw [Bool.not_eq_false] at isOpen
    exact .closed isOpen

theorem closeAndFail_life (done : closeAndFail x sys w = .ok w') :
    ∃ v, w.life.Drops x v ∧ w'.life = v.setState x .done := by
  obtain ⟨closed, closing, returned⟩ := bind_eq_ok.mp done
  cases returned
  exact ⟨_, netCloseFd_life closing, by simp⟩

theorem removeAndFail_life (done : removeAndFail x sys w = .ok w') :
    ∃ v, w.life.Drops x v ∧ w'.life = v.setState x .done := by
  obtain ⟨removed, removing, failing⟩ := bind_eq_ok.mp done
  rw [← World.life_rmFd removing]
  exact closeAndFail_life failing

theorem connectingFdOut_life (done : connectingFdOut x sys w = .ok w') :
    w'.life = w.life.setState x .active ∨
      ∃ v, w.life.Drops x v ∧ w'.life = v.setState x .done := by
  obtain ⟨reset, resetting, rest⟩ := bind_eq_ok.mp done
  have active : ((reset.setState x .active).logCalls [.getsockopt (reset.sock x).s]).life =
      w.life.setState x .active := by
    rw [World.life_logCalls _ (by simp [Effect.isLifeless]), World.life_setState,
      World.life_resetOut resetting]
  dsimp only at rest
  split_ifs at rest with connected
  · cases rest
    exact .inl ((World.life_raise _ _ _ _ (by decide)).trans active)
  · obtain ⟨removed, removing, closing⟩ := bind_eq_ok.mp rest
    split_ifs at closing with closes
    cases closing
    have before : removed.life = w.life.setState x .active :=
      ((World.life_rmFd removing).trans (World.life_setErrnum _ _ _)).trans active
    have same : (w.life.control x).s = (removed.sock x).s := by
      have control : removed.life.control x = (w.life.setState x .active).control x :=
        congrArg (fun v : LifeView => v.control x) before
      rw [LifeView.control_setState] at control
      exact (congrArg Control.s control).symm
    have fds : removed.fds = w.fds := congrArg LifeView.fds before
    refine .inr ⟨_, .closed ?_, ?_⟩
    · rw [same]
      exact (congrFun fds _).symm.trans closes.1
    · rw [World.life_raise _ _ _ _ (by decide)]
      simp only [World.life_setState, World.life_setS, World.life_close, before, same]
      simp [LifeView.setState, LifeView.setS, LifeView.close]

theorem activeFdIn_life (done : activeFdIn x sys w = .ok w') : w'.life = w.life := by
  have received := w.life_applyTransfer
    (recvRaw_sameControl w.device.token2Dptr sys.readHeader sys.readPayload (w.sock x) w.memory)
    (recvRaw_transfers _ _ _ _ _)
  simp only [activeFdIn] at done
  split_ifs at done <;> cases done
  · exact (World.life_raise _ _ _ _ (by decide)).trans received
  · exact received
  · exact received

theorem activeFdOutBusy_life (done : activeFdOutBusy x sys w = .ok w') : w'.life = w.life := by
  have sent := w.life_applyTransfer
    (sendRaw_sameControl sys.writeHeader sys.writePayload (w.sock x) w.memory)
    (sendRaw_transfers _ _ _ _)
  simp only [activeFdOutBusy] at done
  split_ifs at done <;> cases done
  · exact ((World.life_raise _ _ _ _ (by decide)).trans (World.life_modify_same _ rfl)).trans sent
  · exact sent
  · exact sent

theorem activeFdOut_life (done : activeFdOut x sys w = .ok w') : w'.life = w.life := by
  simp only [activeFdOut] at done
  split_ifs at done
  · exact activeFdOutBusy_life done
  · split at done
    next sock dequeued =>
      have same := (dequeue_sameControl dequeued).trans (SameControl.busy sock true)
      rw [activeFdOutBusy_life done, World.life_modify_same _ same.control_eq]
    next => exact World.life_resetOut done

theorem initFromFd_life {s : Fd} (done : w.initFromFd sys x s = .ok w') :
    ((w.sock x).state = .idle ∨ (w.sock x).state = .beingAccepted) ∧ (w.sock x).s = -1 ∧
      sys.fcntl = 0 ∧ w'.life = (w.life.setS x s).take s := by
  simp only [World.initFromFd] at done
  split_ifs at done with badState used answer
  cases done
  exact ⟨not_and_or.mp badState |>.imp not_not.mp not_not.mp, not_not.mp used, answer,
    w.life_fcntl x s⟩

/-- What a new connection does to the listener and to the socket that is paired with it. -/
theorem acceptingFdIn_life (done : acceptingFdIn x sys w = .ok w') :
    (∃ errno, sys.accept4 = .fails errno) ∧
        (w'.life = w.life ∨ w'.life = w.life.setState x .acceptingError) ∨
      ∃ y fd, (w.sock x).asock = some y ∧ sys.accept4 = .fd fd ∧
        ((w.sock y).state = .idle ∨ (w.sock y).state = .beingAccepted) ∧ (w.sock y).s = -1 ∧
          w'.life = ((w.life.takeOver y fd).setState y .accepted).setState x .listening := by
  have called : (w.logCalls [.accept4 (w.sock x).s]).life = w.life :=
    w.life_logCalls (by simp [Effect.isLifeless])
  simp only [acceptingFdIn] at done
  split at done
  next errno answer =>
    refine .inl ⟨⟨errno, answer⟩, ?_⟩
    split_ifs at done
    · cases done
      exact .inl called
    · obtain ⟨removed, removing, returned⟩ := bind_eq_ok.mp done
      cases returned
      refine .inr ?_
      rw [World.life_raise _ _ _ _ (by decide), World.life_rmFd removing, World.life_setState,
        World.life_setErrnum, called]
  next fd answer =>
    split_ifs at done with positive
    simp only [acceptingNewFd] at done
    split at done
    next => cases done
    next y paired =>
      split_ifs at done
      · cases done
      obtain ⟨accepted, accepting, rest⟩ := bind_eq_ok.mp done
      obtain ⟨removed, removing, returned⟩ := bind_eq_ok.mp rest
      cases returned
      obtain ⟨state, empty, _, taken⟩ := initFromFd_life accepting
      refine .inr ⟨y, fd, paired, answer, state, empty, ?_⟩
      rw [World.life_setState, World.life_rmFd removing, World.life_setAsock, World.life_setAsock,
        World.life_raiseTo _ _ _ _ _ _ (by decide), World.life_setState, taken, World.life_openFd,
        called]
      rfl

theorem finish2_life (done : finish2 x w = .ok w') :
    (w.sock x).fsm.state = .stopping ∧ w'.life = w.life.finish x := by
  simp only [finish2, World.stopped] at done
  split_ifs at done with stopping
  cases done
  refine ⟨by simpa using stopping, ?_⟩
  exact w.life_stopped x _

theorem finish1_life (done : finish1 x sys w = .ok w') :
    ∃ v, w.life.Drops x v ∧ w'.life = v.finish x := by
  obtain ⟨closed, closing, rest⟩ := bind_eq_ok.mp done
  exact ⟨_, netCloseFd_life closing, (finish2_life rest).2⟩

theorem beginStop_life (w : World) (x : SockId) :
    (w.beginStop x).life = w.life.setFsm x .stopping := by
  rw [World.beginStop, World.life_setErrnum, World.life_setFsmState]

theorem asyncStop_life (w : World) (x : SockId) : (w.asyncStop x).life = w.life := by
  rw [World.asyncStop, World.life_raise _ _ _ _ (by decide), World.life_execute]

end Cells

end Klibmsg
