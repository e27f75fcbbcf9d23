import Klibmsg.Socket.Steps

/-!
# What the elementary steps do to the sockets

Each operation on the process changes one or two sockets.  These lemmas say what the changed socket
is afterwards and that the others are left alone, so that later proofs never unfold an operation.
-/

namespace Klibmsg
namespace World

variable (w : World) {x y : SockId}

@[simp]
theorem sock_modify_self (x : SockId) (change : NetSocket → NetSocket) :
    (w.modify x change).sock x = change (w.sock x) := by simp

theorem sock_modify_of_ne (other : y ≠ x) (change : NetSocket → NetSocket) :
    (w.modify x change).sock y = w.sock y := by simp [other]

/-! ## Assignments -/

@[simp]
theorem sock_setState_self (x : SockId) (state : NetSockState) :
    (w.setState x state).sock x = { w.sock x with state := state } := sock_modify_self w x _

theorem sock_setState_of_ne (other : y ≠ x) (state : NetSockState) :
    (w.setState x state).sock y = w.sock y := sock_modify_of_ne w other _

@[simp]
theorem sock_setErrnum_self (x : SockId) (errnum : Int) :
    (w.setErrnum x errnum).sock x = { w.sock x with errnum := errnum } := sock_modify_self w x _

theorem sock_setErrnum_of_ne (other : y ≠ x) (errnum : Int) :
    (w.setErrnum x errnum).sock y = w.sock y := sock_modify_of_ne w other _

@[simp]
theorem sock_setS_self (x : SockId) (s : Fd) :
    (w.setS x s).sock x = { w.sock x with s := s } := sock_modify_self w x _

theorem sock_setS_of_ne (other : y ≠ x) (s : Fd) : (w.setS x s).sock y = w.sock y :=
  sock_modify_of_ne w other _

@[simp]
theorem sock_setAsock_self (x : SockId) (asock : Option SockId) :
    (w.setAsock x asock).sock x = { w.sock x with asock := asock } := sock_modify_self w x _

theorem sock_setAsock_of_ne (other : y ≠ x) (asock : Option SockId) :
    (w.setAsock x asock).sock y = w.sock y := sock_modify_of_ne w other _

@[simp]
theorem sock_setFsmState_self (x : SockId) (state : NetFsmState) :
    (w.setFsmState x state).sock x =
      { w.sock x with fsm := { (w.sock x).fsm with state := state } } := sock_modify_self w x _

theorem sock_setFsmState_of_ne (other : y ≠ x) (state : NetFsmState) :
    (w.setFsmState x state).sock y = w.sock y := sock_modify_of_ne w other _

/-! ## Tasks -/

@[simp]
theorem sock_execute_self (x : SockId) (name : TaskName) :
    (w.execute ⟨x, name⟩).sock x =
      { w.sock x with task := Function.update (w.sock x).task name true } := by
  rw [execute]
  split
  next queued =>
    have same : Function.update (w.sock x).task name true = (w.sock x).task := by
      rw [Function.update_eq_self_iff]
      exact queued.symm
    rw [same]
    rfl
  next => simp

theorem sock_execute_of_ne {task : TaskId} (other : y ≠ task.sock) :
    (w.execute task).sock y = w.sock y := by
  rw [execute]
  split
  next => rfl
  next => simp [other]

@[simp]
theorem fds_execute (task : TaskId) : (w.execute task).fds = w.fds := by
  rw [execute]
  split <;> rfl

@[simp]
theorem device_execute (task : TaskId) : (w.execute task).device = w.device := by
  rw [execute]
  split <;> rfl

@[simp]
theorem memory_execute (task : TaskId) : (w.execute task).memory = w.memory := by
  rw [execute]
  split <;> rfl

@[simp]
theorem freed_execute (task : TaskId) : (w.execute task).freed = w.freed := by
  rw [execute]
  split <;> rfl

@[simp]
theorem stdout_execute (task : TaskId) : (w.execute task).stdout = w.stdout := by
  rw [execute]
  split <;> rfl

/-- The queue of the worker grows by the task when the task was not queued. -/
theorem worker_execute (task : TaskId) (k : WorkerId) :
    (w.execute task).worker k =
      if (w.sock task.sock).task task.name = false ∧ k = (w.sock task.sock).worker then
        { w.worker k with tasks := (w.worker k).tasks ++ [task] }
      else w.worker k := by
  simp only [execute, log_sock]
  by_cases queued : (w.sock task.sock).task task.name = true
  · rw [if_pos queued, if_neg (by simp [queued])]
    rfl
  · rw [if_neg queued]
    rw [Bool.not_eq_true] at queued
    by_cases own : k = (w.sock task.sock).worker
    · subst own
      simp [queued]
    · simp [own]

/-! ## Events -/

@[simp]
theorem sock_setEvent_self (x : SockId) (name : EventName) (change : NetFsmEvent → NetFsmEvent) :
    (w.setEvent ⟨x, name⟩ change).sock x =
      { w.sock x with
        event := Function.update (w.sock x).event name (change ((w.sock x).event name)) } :=
  sock_modify_self w x _

theorem sock_setEvent_of_ne {event : EventId} (other : y ≠ event.sock)
    (change : NetFsmEvent → NetFsmEvent) : (w.setEvent event change).sock y = w.sock y :=
  sock_modify_of_ne w other _

@[simp]
theorem sock_setCtx_self (x : SockId) (change : NetCtx → NetCtx) :
    (w.setCtx x change).sock x = { w.sock x with ctx := change (w.sock x).ctx } :=
  sock_modify_self w x _

theorem sock_setCtx_of_ne (other : y ≠ x) (change : NetCtx → NetCtx) :
    (w.setCtx x change).sock y = w.sock y := sock_modify_of_ne w other _

/-- Raising an event fills in the event object and queues it when it was not queued. -/
@[simp]
theorem sock_raise_self (x : SockId) (name : EventName) (type : Int) (srcptr : Pointer) :
    (w.raise x name type srcptr).sock x =
      { w.sock x with
        event := Function.update (w.sock x).event name
          ⟨some x, w.raisedPayload x type srcptr, true⟩
        ctx :=
          if ((w.sock x).event name).inQueue then (w.sock x).ctx
          else { (w.sock x).ctx with events := (w.sock x).ctx.events ++ [⟨x, name⟩] } } := by
  cases queued : ((w.sock x).event name).inQueue with
  | false => simp [raise, ctxRaise, eventAt, queued, raisedPayload]
  | true => simp [raise, ctxRaise, eventAt, queued, raisedPayload]

theorem sock_ctxRaise_of_ne {event : EventId} (other : y ≠ x) (own : y ≠ event.sock) :
    (w.ctxRaise x event).sock y = w.sock y := by
  rw [ctxRaise]
  split
  next => rfl
  next => rw [sock_setCtx_of_ne _ other, sock_setEvent_of_ne _ own]

theorem sock_raise_of_ne (other : y ≠ x) (name : EventName) (type : Int) (srcptr : Pointer) :
    (w.raise x name type srcptr).sock y = w.sock y := by
  rw [raise, sock_ctxRaise_of_ne _ other other, sock_setEvent_of_ne _ other]
  rfl

/-- Queueing an event changes the sockets only. -/
theorem ctxRaise_others (x : SockId) (event : EventId) :
    ∃ sock, w.ctxRaise x event = { w with sock := sock } := by
  rw [ctxRaise]
  split
  · exact ⟨_, rfl⟩
  · exact ⟨_, rfl⟩

/-- Raising an event changes the sockets and the trace only. -/
theorem raise_others (x : SockId) (name : EventName) (type : Int) (srcptr : Pointer) :
    ∃ sock trace, w.raise x name type srcptr = { w with sock := sock, trace := trace } := by
  rw [raise]
  obtain ⟨sock, others⟩ := ctxRaise_others ((w.log _).setEvent ⟨x, name⟩ _) x ⟨x, name⟩
  exact ⟨sock, _, others⟩

@[simp]
theorem fds_raise (x : SockId) (name : EventName) (type : Int) (srcptr : Pointer) :
    (w.raise x name type srcptr).fds = w.fds := by
  obtain ⟨sock, trace, others⟩ := w.raise_others x name type srcptr
  rw [others]

@[simp]
theorem worker_raise (x : SockId) (name : EventName) (type : Int) (srcptr : Pointer) :
    (w.raise x name type srcptr).worker = w.worker := by
  obtain ⟨sock, trace, others⟩ := w.raise_others x name type srcptr
  rw [others]

end World
end Klibmsg
