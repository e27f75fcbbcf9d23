import Klibmsg.Socket.Calls
import Klibmsg.Socket.LifeView

/-!
# The tasks that the code queues

`World.taskView` is the part of the process that `NetWorker::Execute` works on: the marks of the
tasks, the queues of the workers and the worker of every socket.  The code changes it in a few cells
only: `Execute` is called on the way into and out of `Connecting`, and by `AsyncStop`.
-/

namespace Klibmsg

/-- The tasks of a process. -/
@[ext]
structure TaskView where
  worker : SockId → WorkerId
  /-- The item of the task is in a queue. -/
  queued : TaskId → Bool
  queue : WorkerId → List TaskId

namespace TaskView

/-- `NetWorker::Execute`. -/
def execute (v : TaskView) (task : TaskId) : TaskView :=
  if v.queued task then
    v
  else
    { v with
      queued := Function.update v.queued task true
      queue := Function.update v.queue (v.worker task.sock)
        (v.queue (v.worker task.sock) ++ [task]) }

/-- `NetQueue::Pop` of a task. -/
def unqueue (v : TaskView) (task : TaskId) : TaskView :=
  { v with queued := Function.update v.queued task false }

/-- A worker takes over its queue. -/
def clear (v : TaskView) (k : WorkerId) : TaskView :=
  { v with queue := Function.update v.queue k [] }

theorem worker_execute (v : TaskView) (task : TaskId) : (v.execute task).worker = v.worker := by
  rw [execute]
  split <;> rfl

theorem queued_execute (v : TaskView) (task other : TaskId) :
    (v.execute task).queued other = (v.queued other || decide (other = task)) := by
  rw [execute]
  split
  next queued =>
    by_cases equal : other = task
    · simp [equal, queued]
    · simp [equal]
  next =>
    by_cases equal : other = task
    · simp [equal]
    · simp [equal]

end TaskView

namespace World

/-- The tasks of the process. -/
def taskView (w : World) : TaskView where
  worker x := (w.sock x).worker
  queued task := (w.sock task.sock).task task.name
  queue k := (w.worker k).tasks

variable (w : World)

/-- A change of a socket that keeps its tasks and its worker. -/
theorem taskView_modify {x : SockId} {change : NetSocket → NetSocket}
    (task : (change (w.sock x)).task = (w.sock x).task)
    (worker : (change (w.sock x)).worker = (w.sock x).worker) :
    (w.modify x change).taskView = w.taskView := by
  refine TaskView.ext ?_ ?_ rfl
  · funext y
    by_cases equal : y = x
    · subst equal
      simpa [taskView] using worker
    · simp [taskView, equal]
  · funext other
    by_cases equal : other.sock = x
    · simp [taskView, equal, task]
    · simp [taskView, equal]

@[simp]
theorem taskView_setState (x : SockId) (state : NetSockState) :
    (w.setState x state).taskView = w.taskView := w.taskView_modify rfl rfl

@[simp]
theorem taskView_setFsmState (x : SockId) (fsm : NetFsmState) :
    (w.setFsmState x fsm).taskView = w.taskView := w.taskView_modify rfl rfl

@[simp]
theorem taskView_setErrnum (x : SockId) (errnum : Int) :
    (w.setErrnum x errnum).taskView = w.taskView := w.taskView_modify rfl rfl

@[simp]
theorem taskView_setS (x : SockId) (s : Fd) : (w.setS x s).taskView = w.taskView :=
  w.taskView_modify rfl rfl

@[simp]
theorem taskView_setAsock (x : SockId) (asock : Option SockId) :
    (w.setAsock x asock).taskView = w.taskView := w.taskView_modify rfl rfl

@[simp]
theorem taskView_pushMsg (x : SockId) (msg : NetMsg) : (w.pushMsg x msg).taskView = w.taskView :=
  w.taskView_modify rfl rfl

@[simp]
theorem taskView_logCalls (calls : List SysCall) : (w.logCalls calls).taskView = w.taskView := rfl

@[simp]
theorem taskView_log (effect : Effect) : (w.log effect).taskView = w.taskView := rfl

@[simp]
theorem taskView_openFd (fd : Fd) : (w.openFd fd).taskView = w.taskView := rfl

@[simp]
theorem taskView_setMemory (memory : Memory) : (w.setMemory memory).taskView = w.taskView := rfl

@[simp]
theorem taskView_close (fd : Fd) : (w.close fd).taskView = w.taskView := rfl

@[simp]
theorem taskView_report (stdout : List Report) :
    { w with stdout := stdout }.taskView = w.taskView := rfl

@[simp]
theorem taskView_netFsmBadState (x : SockId) (src type : Int) :
    (w.netFsmBadState x src type).taskView = w.taskView := rfl

@[simp]
theorem taskView_setHandle (x : SockId) (result : NetPollerHandle × NetPoller Handle) :
    (w.setHandle x result).taskView = w.taskView := by
  rw [setHandle, taskView_modify]
  · refine TaskView.ext rfl rfl (funext fun k => ?_)
    by_cases equal : k = (w.sock x).worker
    · subst equal
      simp [taskView]
    · simp [taskView, equal]
  · rfl
  · rfl

@[simp]
theorem taskView_addFd (x : SockId) : (w.addFd x).taskView = w.taskView := by
  rw [addFd, taskView_logCalls, taskView_setHandle]

@[simp]
theorem taskView_setIn (x : SockId) : (w.setIn x).taskView = w.taskView := by
  rw [setIn, taskView_logCalls, taskView_setHandle]

@[simp]
theorem taskView_setOut (x : SockId) : (w.setOut x).taskView = w.taskView := by
  rw [setOut, taskView_logCalls, taskView_setHandle]

theorem taskView_rmFd {w w' : World} {x : SockId} (removed : w.rmFd x = .ok w') :
    w'.taskView = w.taskView := by
  obtain ⟨poller, _, returned⟩ := bind_eq_ok.mp removed
  cases returned
  rw [taskView_logCalls, taskView_setHandle]

theorem taskView_resetOut {w w' : World} {x : SockId} (reset : w.resetOut x = .ok w') :
    w'.taskView = w.taskView := by
  obtain ⟨result, _, returned⟩ := bind_eq_ok.mp reset
  cases returned
  rw [taskView_logCalls, taskView_setHandle]

@[simp]
theorem taskView_internalTask (x : SockId) (name : TaskName) :
    (w.internalTask x name).taskView = w.taskView := by
  cases name <;> simp [internalTask]

theorem taskView_setEvent (event : EventId) (change : NetFsmEvent → NetFsmEvent) :
    (w.setEvent event change).taskView = w.taskView := w.taskView_modify rfl rfl

theorem taskView_setCtx (x : SockId) (change : NetCtx → NetCtx) :
    (w.setCtx x change).taskView = w.taskView := w.taskView_modify rfl rfl

theorem taskView_unqueueEvent (event : EventId) : (w.unqueueEvent event).taskView = w.taskView :=
  w.taskView_setEvent event _

theorem taskView_setEvents (ctx : SockId) (events : List EventId) :
    (w.setEvents ctx events).taskView = w.taskView := w.taskView_setCtx ctx _

theorem taskView_clearEventsto (ctx : SockId) : (w.clearEventsto ctx).taskView = w.taskView :=
  w.taskView_setCtx ctx _

theorem taskView_ctxRaise (x : SockId) (event : EventId) :
    (w.ctxRaise x event).taskView = w.taskView := by
  rw [ctxRaise]
  split
  · rfl
  · rw [taskView_setCtx, taskView_setEvent]

theorem taskView_ctxRaiseTo (x : SockId) (event : EventId) :
    (w.ctxRaiseTo x event).taskView = w.taskView := by
  rw [ctxRaiseTo]
  split
  · rfl
  · rw [taskView_setCtx, taskView_setEvent]

@[simp]
theorem taskView_raise (x : SockId) (name : EventName) (type : Int) (srcptr : Pointer) :
    (w.raise x name type srcptr).taskView = w.taskView := by
  rw [raise, taskView_ctxRaise, taskView_setEvent, taskView_log]

@[simp]
theorem taskView_raiseTo (x dst : SockId) (name : EventName) (src type : Int) (srcptr : Pointer) :
    (w.raiseTo x dst name src type srcptr).taskView = w.taskView := by
  rw [raiseTo, taskView_ctxRaiseTo, taskView_setEvent, taskView_log]

@[simp]
theorem taskView_execute (task : TaskId) : (w.execute task).taskView = w.taskView.execute task := by
  have mark :
      ((w.log (.execute task)).sock task.sock).task task.name = w.taskView.queued task := rfl
  rw [execute, TaskView.execute]
  rw [mark]
  split
  · rfl
  · refine TaskView.ext ?_ ?_ ?_
    · funext y
      by_cases equal : y = task.sock
      · subst equal
        simp [taskView]
      · simp [taskView, equal]
    · funext other
      by_cases sock : other.sock = task.sock
      · by_cases name : other.name = task.name
        · have equal : other = task := by
            obtain ⟨x, first⟩ := other
            obtain ⟨y, second⟩ := task
            simp_all
          simp [taskView, equal]
        · have different : other ≠ task := fun same => name (congrArg TaskId.name same)
          simp [taskView, sock, name, different]
      · have different : other ≠ task := fun same => sock (congrArg TaskId.sock same)
        simp [taskView, sock, different]
    · funext k
      by_cases equal : k = (w.sock task.sock).worker
      · subst equal
        simp [taskView]
      · simp [taskView, equal]

@[simp]
theorem taskView_asyncStop (x : SockId) :
    (w.asyncStop x).taskView = w.taskView.execute ⟨x, .stop⟩ := by
  rw [asyncStop, taskView_raise, taskView_execute]

@[simp]
theorem taskView_beginStop (x : SockId) : (w.beginStop x).taskView = w.taskView := by
  rw [beginStop, taskView_setErrnum, taskView_setFsmState]

theorem taskView_netCloseFd {w w' : World} {sys : Sys} {fd : Fd}
    (closed : w.netCloseFd sys fd = .ok w') : w'.taskView = w.taskView := by
  simp only [netCloseFd] at closed
  split_ifs at closed <;> cases closed <;> rfl

theorem taskView_initFromFd {w w' : World} {sys : Sys} {x : SockId} {s : Fd}
    (done : w.initFromFd sys x s = .ok w') : w'.taskView = w.taskView := by
  simp only [initFromFd] at done
  split_ifs at done
  cases done
  rw [taskView_logCalls, taskView_setS]

theorem taskView_applyTransfer {x : SockId} {transfer : Transfer}
    (same : SameControl (w.sock x) transfer.sock) :
    (w.applyTransfer x transfer).taskView = w.taskView := by
  rw [applyTransfer, taskView_logCalls, taskView_setMemory,
    taskView_modify _ same.task same.worker]

theorem taskView_unqueueTask (task : TaskId) :
    (w.unqueueTask task).taskView = w.taskView.unqueue task := by
  refine TaskView.ext ?_ ?_ rfl
  · funext y
    by_cases equal : y = task.sock
    · subst equal
      simp [taskView, unqueueTask, TaskView.unqueue]
    · simp [taskView, unqueueTask, TaskView.unqueue, equal]
  · funext other
    by_cases sock : other.sock = task.sock
    · by_cases name : other.name = task.name
      · have equal : other = task := by
          obtain ⟨x, first⟩ := other
          obtain ⟨y, second⟩ := task
          simp_all
        simp [taskView, unqueueTask, TaskView.unqueue, equal]
      · have different : other ≠ task := fun same => name (congrArg TaskId.name same)
        simp [taskView, unqueueTask, TaskView.unqueue, sock, name, different]
    · have different : other ≠ task := fun same => sock (congrArg TaskId.sock same)
      simp [taskView, unqueueTask, TaskView.unqueue, sock, different]

theorem taskView_clearTasks (k : WorkerId) : (w.clearTasks k).taskView = w.taskView.clear k := by
  refine TaskView.ext rfl rfl (funext fun other => ?_)
  by_cases equal : other = k
  · subst equal
    simp [taskView, clearTasks, TaskView.clear]
  · simp [taskView, clearTasks, TaskView.clear, equal]

end World

/-! ## The cells -/

section Cells

variable {action : ActionCall} {x : SockId} {sys : Sys} {src type : Int} {w w' : World}
  {label : NetSockState}

theorem closeAndFail_taskView (done : closeAndFail x sys w = .ok w') :
    w'.taskView = w.taskView := by
  obtain ⟨closed, closing, returned⟩ := bind_eq_ok.mp done
  cases returned
  rw [World.taskView_raise, World.taskView_setState, World.taskView_setS,
    World.taskView_netCloseFd closing]

theorem removeAndFail_taskView (done : removeAndFail x sys w = .ok w') :
    w'.taskView = w.taskView := by
  obtain ⟨removed, removing, failing⟩ := bind_eq_ok.mp done
  rw [closeAndFail_taskView failing, World.taskView_rmFd removing]

theorem connectingFdOut_taskView (done : connectingFdOut x sys w = .ok w') :
    w'.taskView = w.taskView := by
  obtain ⟨reset, resetting, rest⟩ := bind_eq_ok.mp done
  dsimp only at rest
  split_ifs at rest
  · cases rest
    rw [World.taskView_raise, World.taskView_logCalls, World.taskView_setState,
      World.taskView_resetOut resetting]
  · obtain ⟨removed, removing, closing⟩ := bind_eq_ok.mp rest
    split_ifs at closing
    cases closing
    simp [World.taskView_rmFd removing, World.taskView_resetOut resetting]

theorem activeFdIn_taskView (done : activeFdIn x sys w = .ok w') : w'.taskView = w.taskView := by
  have received := w.taskView_applyTransfer
    (recvRaw_sameControl w.device.token2Dptr sys.readHeader sys.readPayload (w.sock x) w.memory)
  simp only [activeFdIn] at done
  split_ifs at done <;> cases done
  · rw [World.taskView_raise, received]
  · exact received
  · exact received

theorem activeFdOutBusy_taskView (done : activeFdOutBusy x sys w = .ok w') :
    w'.taskView = w.taskView := by
  have sent := w.taskView_applyTransfer
    (sendRaw_sameControl sys.writeHeader sys.writePayload (w.sock x) w.memory)
  simp only [activeFdOutBusy] at done
  split_ifs at done <;> cases done
  · rw [World.taskView_raise, World.taskView_modify _ rfl rfl, sent]
  · exact sent
  · exact sent

theorem activeFdOut_taskView (done : activeFdOut x sys w = .ok w') : w'.taskView = w.taskView := by
  simp only [activeFdOut] at done
  split_ifs at done
  · exact activeFdOutBusy_taskView done
  · split at done
    next sock dequeued =>
      have same := (dequeue_sameControl dequeued).trans (SameControl.busy sock true)
      rw [activeFdOutBusy_taskView done, World.taskView_modify _ same.task same.worker]
    next => exact World.taskView_resetOut done

theorem acceptingFdIn_taskView (done : acceptingFdIn x sys w = .ok w') :
    w'.taskView = w.taskView := by
  simp only [acceptingFdIn] at done
  split at done
  next errno _ =>
    split_ifs at done
    · cases done
      rfl
    · obtain ⟨removed, removing, returned⟩ := bind_eq_ok.mp done
      cases returned
      rw [World.taskView_raise, World.taskView_rmFd removing, World.taskView_setState,
        World.taskView_setErrnum, World.taskView_logCalls]
  next fd _ =>
    split_ifs at done
    simp only [acceptingNewFd] at done
    split at done
    next => cases done
    next y _ =>
      split_ifs at done
      · cases done
      obtain ⟨accepted, accepting, rest⟩ := bind_eq_ok.mp done
      obtain ⟨removed, removing, returned⟩ := bind_eq_ok.mp rest
      cases returned
      rw [World.taskView_setState, World.taskView_rmFd removing, World.taskView_setAsock,
        World.taskView_setAsock, World.taskView_raiseTo, World.taskView_setState,
        World.taskView_initFromFd accepting, World.taskView_openFd, World.taskView_logCalls]

theorem finish2_taskView (done : finish2 x w = .ok w') : w'.taskView = w.taskView := by
  simp only [finish2, World.stopped] at done
  split_ifs at done
  cases done
  change (World.setFsmState _ x .idle).taskView = _
  rw [World.taskView_setFsmState, World.taskView_raise, World.taskView_setState]

theorem finish1_taskView (done : finish1 x sys w = .ok w') : w'.taskView = w.taskView := by
  obtain ⟨closed, closing, rest⟩ := bind_eq_ok.mp done
  rw [finish2_taskView rest, World.taskView_setS, World.taskView_netCloseFd closing]

end Cells

end Klibmsg
