import Klibmsg.Runtime.Sockets
import Klibmsg.Socket.TaskView

/-!
# The tasks on their way through a worker

A task waits in the queue of its worker or in the worker's snapshot, and is fed to its socket in a
critical section of the worker.  The mark of its item says whether it waits.  `TaskStep` describes a
step of a run by what it does to the tasks and to the descriptor events that are about to be fed.
-/

namespace Klibmsg

/-- The task or descriptor event that a frame is about to feed. -/
def Frame.feeds : Frame → Option Body
  | enter (.task task) => some (.task task)
  | enter (.fd x pevent) => some (.fd x pevent)
  | _ => none

/-- The task or descriptor event that a thread with these frames is about to feed. -/
def feedingOf : List Frame → Option Body
  | [frame] => frame.feeds
  | _ => none

theorem feedingOf_plain {frames : List Frame} (plain : ∀ frame ∈ frames, frame.feeds = none) :
    feedingOf frames = none := by
  cases frames with
  | nil => rfl
  | cons frame rest =>
      cases rest with
      | nil => exact plain frame (List.mem_singleton_self frame)
      | cons => rfl

namespace Runtime

/-- What a worker is about to feed. -/
def feeding (r : Runtime) (k : WorkerId) : Option Body := feedingOf (r.thread k).frames

/-- The snapshot of a worker. -/
def taken (r : Runtime) (k : WorkerId) : List TaskId := (r.thread k).tasks

/-- A frame that is about to feed a task or a descriptor event is the only one of its thread. -/
def Rooted (r : Runtime) : Prop :=
  ∀ k, ∀ frame ∈ (r.thread k).frames, frame.feeds ≠ none → (r.thread k).frames = [frame]

end Runtime

/-- What a step of a run does to tasks and descriptor events. -/
inductive TaskStep (r : Runtime) : RuntimeLabel SocketCall → Runtime → Prop
  | call {sys : Sys} {op : SocketCall} {r' : Runtime}
      (called : op.run sys r.world = .ok r'.world) (feeding : r'.feeding = r.feeding)
      (taken : r'.taken = r.taken) : TaskStep r (.call sys op) r'
  | poll {k : WorkerId} {x : SockId} {pevent : FdEvent} {r' : Runtime}
      (idle : r.feeding k = none) (world : r'.world = r.world)
      (feeding : r'.feeding = Function.update r.feeding k (some (.fd x pevent)))
      (taken : r'.taken = r.taken) : TaskStep r (.poll k x pevent) r'
  | snapshot {k : WorkerId} {r' : Runtime} (empty : r.taken k = [])
      (world : r'.world = r.world.clearTasks k) (feeding : r'.feeding = r.feeding)
      (taken : r'.taken = Function.update r.taken k (r.world.taskView.queue k)) :
      TaskStep r (.snapshot k) r'
  | pop {k : WorkerId} {task : TaskId} {tasks : List TaskId} {r' : Runtime}
      (idle : r.feeding k = none) (front : r.taken k = task :: tasks)
      (world : r'.world = r.world.unqueueTask task)
      (feeding : r'.feeding = Function.update r.feeding k (some (.task task)))
      (taken : r'.taken = Function.update r.taken k tasks) : TaskStep r (.pop k) r'
  | feed {k : WorkerId} {sys : Sys} {body : Body} {x : SockId} {src type : Int} {r' : Runtime}
      (fedBy : r.feeding k = some body) (fed : body.fed = some (x, src, type))
      (free : r.locked x = false) (done : Klibmsg.feed sys x src type r.world = .ok r'.world)
      (feeding : r'.feeding = Function.update r.feeding k none) (taken : r'.taken = r.taken) :
      TaskStep r (.advance k sys) r'
  | other {k : WorkerId} {sys : Sys} {r' : Runtime} (plain : r.feeding k = none)
      (requeues : r.world.Requeues r'.world) (tasks : r'.world.taskView = r.world.taskView)
      (feeding : r'.feeding = r.feeding) (taken : r'.taken = r.taken) :
      TaskStep r (.advance k sys) r'

section Frames

variable {r : Runtime} {k : WorkerId} {frames rest : List Frame}

@[simp]
theorem Runtime.feeding_setFrames (r : Runtime) (k : WorkerId) (frames : List Frame) :
    (r.setFrames k frames).feeding = Function.update r.feeding k (feedingOf frames) := by
  funext j
  by_cases equal : j = k
  · subst equal
    simp [Runtime.feeding, Runtime.setFrames]
  · simp [Runtime.feeding, Runtime.setFrames, equal]

@[simp]
theorem Runtime.taken_setFrames (r : Runtime) (k : WorkerId) (frames : List Frame) :
    (r.setFrames k frames).taken = r.taken := by
  funext j
  by_cases equal : j = k
  · subst equal
    simp [Runtime.taken, Runtime.setFrames]
  · simp [Runtime.taken, Runtime.setFrames, equal]

@[simp]
theorem Runtime.feeding_setTasks (r : Runtime) (k : WorkerId) (tasks : List TaskId) :
    (r.setTasks k tasks).feeding = r.feeding := by
  funext j
  by_cases equal : j = k
  · subst equal
    simp [Runtime.feeding, Runtime.setTasks]
  · simp [Runtime.feeding, Runtime.setTasks, equal]

@[simp]
theorem Runtime.taken_setTasks (r : Runtime) (k : WorkerId) (tasks : List TaskId) :
    (r.setTasks k tasks).taken = Function.update r.taken k tasks := by
  funext j
  by_cases equal : j = k
  · subst equal
    simp [Runtime.taken, Runtime.setTasks]
  · simp [Runtime.taken, Runtime.setTasks, equal]

theorem Runtime.Rooted.setFrames (rooted : r.Rooted)
    (alone : ∀ frame ∈ frames, frame.feeds ≠ none → frames = [frame]) :
    (r.setFrames k frames).Rooted := by
  intro j frame member feeds
  by_cases equal : j = k
  · subst equal
    rw [show ((r.setFrames j frames).thread j).frames = frames by simp [Runtime.setFrames]]
      at member ⊢
    exact alone frame member feeds
  · rw [show ((r.setFrames k frames).thread j).frames = (r.thread j).frames by
      simp [Runtime.setFrames, equal]] at member ⊢
    exact rooted j frame member feeds

theorem Runtime.Rooted.setTasks (rooted : r.Rooted) (tasks : List TaskId) :
    (r.setTasks k tasks).Rooted := by
  intro j frame member feeds
  have same : ((r.setTasks k tasks).thread j).frames = (r.thread j).frames := by
    by_cases equal : j = k
    · subst equal
      simp [Runtime.setTasks]
    · simp [Runtime.setTasks, equal]
  rw [same] at member ⊢
  exact rooted j frame member feeds

/-- Below a frame that feeds nothing, no frame feeds anything. -/
theorem Runtime.Rooted.plain {old : Frame} (rooted : r.Rooted)
    (top : (r.thread k).frames = old :: rest) (nothing : old.feeds = none) :
    ∀ frame ∈ old :: rest, frame.feeds = none := by
  intro frame member
  by_contra feeds
  have alone := rooted k frame (top ▸ member) feeds
  rw [top, List.cons.injEq] at alone
  rw [alone.1] at nothing
  exact feeds nothing

/-- A thread that goes on with frames that feed nothing. -/
theorem Runtime.Rooted.goOn {old : Frame} (rooted : r.Rooted) (new : List Frame)
    (top : (r.thread k).frames = old :: rest) (nothing : old.feeds = none)
    (still : ∀ frame ∈ new, frame.feeds = none) :
    r.feeding k = none ∧ (r.setFrames k (new ++ rest)).feeding = r.feeding ∧
      (r.setFrames k (new ++ rest)).Rooted := by
  have below := rooted.plain top nothing
  have before : r.feeding k = none := by
    rw [Runtime.feeding, top]
    exact feedingOf_plain below
  have after : ∀ frame ∈ new ++ rest, frame.feeds = none := by
    intro frame member
    obtain fresh | kept := List.mem_append.mp member
    · exact still frame fresh
    · exact below frame (List.mem_cons_of_mem old kept)
  refine ⟨before, ?_, rooted.setFrames fun frame member feeds => absurd (after frame member) feeds⟩
  rw [Runtime.feeding_setFrames, feedingOf_plain after, Function.update_eq_self_iff]
  exact before.symm

end Frames

theorem socketOwner_process_taskView {sys : Sys} {event : EventId} {w w' : World}
    (done : socketOwner.process sys event w = .ok w') : w'.taskView = w.taskView := by
  simp only [Owner.process] at done
  split_ifs at done
  split at done
  next => cases done
  next =>
    cases done
    exact World.taskView_setEvent _ _ _

theorem RuntimeStep.taskStep {r r' : Runtime} {label : RuntimeLabel SocketCall}
    (rooted : r.Rooted) (step : RuntimeStep socketOwner r label r') :
    TaskStep r label r' ∧ r'.Rooted := by
  cases step with
  | call called => exact ⟨.call called rfl rfl, rooted⟩
  | @poll k x pevent idle =>
      have before : r.feeding k = none := by rw [Runtime.feeding, idle]; rfl
      exact ⟨.poll before rfl (Runtime.feeding_setFrames r k _) (Runtime.taken_setFrames r k _),
        rooted.setFrames (by simp)⟩
  | @snapshot k idle empty =>
      exact ⟨.snapshot empty rfl (Runtime.feeding_setTasks r k _) (Runtime.taken_setTasks r k _),
        rooted.setTasks _⟩
  | @pop k task tasks idle front =>
      have before : r.feeding k = none := by rw [Runtime.feeding, idle]; rfl
      refine ⟨.pop before front rfl ?_ ?_, (rooted.setTasks tasks).setFrames (by simp)⟩
      · exact (Runtime.feeding_setFrames _ k _).trans (by rw [Runtime.feeding_setTasks]; rfl)
      · exact (Runtime.taken_setFrames _ k _).trans (Runtime.taken_setTasks r k tasks)
  | @enter k sys body ctx rest w top context free ran =>
      cases body with
      | event event =>
          obtain ⟨before, feeding, kept⟩ :=
            rooted.goOn [.drain ctx] top rfl (by simp [Frame.feeds])
          exact ⟨.other before (socketOwner_process ran) (socketOwner_process_taskView ran) feeding
            (Runtime.taken_setFrames r k _), kept⟩
      | task task =>
          have alone : rest = [] := by
            have single := rooted k (.enter (.task task)) (by simp [top]) (by simp [Frame.feeds])
            rw [top] at single
            exact (List.cons.inj single).2
          subst alone
          cases context
          have before : r.feeding k = some (.task task) := by rw [Runtime.feeding, top]; rfl
          exact ⟨.feed before rfl free ran (Runtime.feeding_setFrames r k _)
            (Runtime.taken_setFrames r k _), rooted.setFrames (by simp [Frame.feeds])⟩
      | fd x pevent =>
          have alone : rest = [] := by
            have single := rooted k (.enter (.fd x pevent)) (by simp [top]) (by simp [Frame.feeds])
            rw [top] at single
            exact (List.cons.inj single).2
          subst alone
          cases context
          have before : r.feeding k = some (.fd ctx pevent) := by rw [Runtime.feeding, top]; rfl
          exact ⟨.feed before rfl free ran (Runtime.feeding_setFrames r k _)
            (Runtime.taken_setFrames r k _), rooted.setFrames (by simp [Frame.feeds])⟩
  | @popEvent k sys ctx rest event events top front =>
      obtain ⟨before, feeding, kept⟩ :=
        rooted.goOn [.process ctx event] top rfl (by simp [Frame.feeds])
      refine ⟨.other before ((World.Requeues.setEvents _ _ _).trans (.unqueueEvent _ _)) ?_ feeding
        (Runtime.taken_setFrames r k _), kept⟩
      exact (World.taskView_unqueueEvent _ _).trans (World.taskView_setEvents _ _ _)
  | @leave k sys ctx rest top drained =>
      obtain ⟨before, feeding, kept⟩ :=
        rooted.goOn [.external (r.world.sock ctx).ctx.eventsto] top rfl
          (by simp [Frame.feeds])
      exact ⟨.other before (.clearEventsto _ _) (World.taskView_clearEventsto _ _) feeding
        (Runtime.taken_setFrames r k _), kept⟩
  | @process k sys ctx event rest w top processed =>
      obtain ⟨before, feeding, kept⟩ :=
        rooted.goOn [.drain ctx] top rfl (by simp [Frame.feeds])
      exact ⟨.other before (socketOwner_process processed)
        (socketOwner_process_taskView processed) feeding (Runtime.taken_setFrames r k _), kept⟩
  | @finish k sys rest top =>
      obtain ⟨before, feeding, kept⟩ := rooted.goOn [] top rfl (by simp)
      exact ⟨.other before (.refl _) rfl feeding (Runtime.taken_setFrames r k _), kept⟩
  | @external k sys event events rest top =>
      obtain ⟨before, feeding, kept⟩ :=
        rooted.goOn [.enter (.event event), .external events] top rfl
          (by simp [Frame.feeds])
      exact ⟨.other before (.unqueueEvent _ _) (World.taskView_unqueueEvent _ _) feeding
        (Runtime.taken_setFrames r k _), kept⟩

/-! ## Marks and queues -/

/-- The code calls `Execute` any number of times. -/
def TaskView.Executes : TaskView → TaskView → Prop :=
  Relation.ReflTransGen fun v v' => ∃ task, v' = v.execute task

theorem SocketStep.executes {may : Entitled} {w w' : World} (step : SocketStep may w w') :
    w.taskView.Executes w'.taskView := by
  have same {v v' : TaskView} (equal : v' = v) : v.Executes v' := by
    rw [equal]
    exact .refl
  cases step with
  | modify x change kept => exact same (w.taskView_modify kept.task kept.worker)
  | setState | setFsmState | setErrnum | setS | setAsock | setMemory | logCalls | report | openFd |
      close | addFd | setIn | setOut => exact same (by simp)
  | execute task => exact .single ⟨task, w.taskView_execute task⟩
  | rmFd removed => exact same (World.taskView_rmFd removed)
  | resetOut reset => exact same (World.taskView_resetOut reset)
  | raise => exact same (w.taskView_raise _ _ _ _)
  | raiseTo => exact same (w.taskView_raiseTo _ _ _ _ _ _)

theorem SocketSteps.executes {may : Entitled} {w w' : World} (steps : SocketSteps may w w') :
    w.taskView.Executes w'.taskView := by
  induction steps with
  | refl => exact .refl
  | tail _ step ih => exact ih.trans step.executes

/-- A task waits at the worker of its socket, once, exactly when its item is marked; a task that is
being fed is fed by that worker. -/
structure Marked (v : TaskView) (taken : WorkerId → List TaskId)
    (feeding : WorkerId → Option Body) : Prop where
  waits : ∀ task, v.queued task = true →
    (taken (v.worker task.sock) ++ v.queue (v.worker task.sock)).count task = 1
  waiting : ∀ k task, task ∈ taken k ++ v.queue k → v.worker task.sock = k ∧ v.queued task = true
  homed : ∀ k task, feeding k = some (.task task) → v.worker task.sock = k

namespace Marked

variable {v v' : TaskView} {taken : WorkerId → List TaskId} {feeding : WorkerId → Option Body}

theorem execute (marked : Marked v taken feeding) (task : TaskId) :
    Marked (v.execute task) taken feeding := by
  by_cases queued : v.queued task = true
  · rw [TaskView.execute, if_pos queued]
    exact marked
  · rw [TaskView.execute, if_neg queued]
    have absent (k : WorkerId) : task ∉ taken k ++ v.queue k :=
      fun member => queued (marked.waiting k task member).2
    refine ⟨fun other mark => ?_, fun k other member => ?_, marked.homed⟩
    · change Function.update v.queued task true other = true at mark
      change (taken (v.worker other.sock) ++ Function.update v.queue (v.worker task.sock)
        (v.queue (v.worker task.sock) ++ [task]) (v.worker other.sock)).count other = 1
      by_cases equal : other = task
      · subst equal
        rw [Function.update_self, ← List.append_assoc, List.count_append,
          List.count_eq_zero.mpr (absent _), List.count_singleton_self]
      · rw [Function.update_of_ne equal] at mark
        by_cases here : v.worker other.sock = v.worker task.sock
        · rw [← here, Function.update_self, ← List.append_assoc, List.count_append,
            marked.waits other mark, List.count_singleton, if_neg (by simpa using Ne.symm equal)]
        · rw [Function.update_of_ne here]
          exact marked.waits other mark
    · change v.worker other.sock = k ∧ Function.update v.queued task true other = true
      have origin : other ∈ taken k ++ v.queue k ∨ other = task ∧ k = v.worker task.sock := by
        change other ∈ taken k ++ Function.update v.queue _ _ k at member
        by_cases here : k = v.worker task.sock
        · subst here
          rw [Function.update_self, ← List.append_assoc, List.mem_append,
            List.mem_singleton] at member
          exact member.imp_right fun same => ⟨same, rfl⟩
        · rw [Function.update_of_ne here] at member
          exact .inl member
      obtain old | ⟨rfl, rfl⟩ := origin
      · obtain ⟨home, mark⟩ := marked.waiting k other old
        have different : other ≠ task := by
          rintro rfl
          exact absent k old
        rw [Function.update_of_ne different]
        exact ⟨home, mark⟩
      · rw [Function.update_self]
        exact ⟨rfl, rfl⟩

theorem executes (marked : Marked v taken feeding) (executes : v.Executes v') :
    Marked v' taken feeding := by
  induction executes with
  | refl => exact marked
  | tail _ step ih =>
      obtain ⟨task, rfl⟩ := step
      exact ih.execute task

theorem snapshot (marked : Marked v taken feeding) {k : WorkerId} (empty : taken k = []) :
    Marked (v.clear k) (Function.update taken k (v.queue k)) feeding := by
  have same (j : WorkerId) :
      Function.update taken k (v.queue k) j ++ (v.clear k).queue j = taken j ++ v.queue j := by
    by_cases equal : j = k
    · subst equal
      simp [TaskView.clear, empty]
    · simp [TaskView.clear, equal]
  refine ⟨fun task mark => ?_, fun j task member => ?_, marked.homed⟩
  · rw [same]
    exact marked.waits task mark
  · rw [same] at member
    exact marked.waiting j task member

theorem pop (marked : Marked v taken feeding) {k : WorkerId} {task : TaskId} {tasks : List TaskId}
    (front : taken k = task :: tasks) :
    Marked (v.unqueue task) (Function.update taken k tasks)
      (Function.update feeding k (some (.task task))) := by
  obtain ⟨home, queued⟩ := marked.waiting k task (by simp [front])
  have once := marked.waits task queued
  rw [home, front, List.cons_append, List.count_cons_self] at once
  have gone : task ∉ tasks ++ v.queue k := List.count_eq_zero.mp (by omega)
  refine ⟨fun other mark => ?_, fun j other member => ?_, fun j other fed => ?_⟩
  · change Function.update v.queued task false other = true at mark
    change (Function.update taken k tasks (v.worker other.sock) ++
      v.queue (v.worker other.sock)).count other = 1
    have different : other ≠ task := by
      rintro rfl
      rw [Function.update_self] at mark
      cases mark
    rw [Function.update_of_ne different] at mark
    have before := marked.waits other mark
    by_cases here : v.worker other.sock = k
    · rw [here, front, List.cons_append, List.count_cons_of_ne (Ne.symm different)] at before
      rw [here, Function.update_self]
      exact before
    · rw [Function.update_of_ne here]
      exact before
  · change v.worker other.sock = j ∧ Function.update v.queued task false other = true
    change other ∈ Function.update taken k tasks j ++ v.queue j at member
    have different : other ≠ task := by
      rintro rfl
      by_cases here : j = k
      · subst here
        rw [Function.update_self] at member
        exact gone member
      · rw [Function.update_of_ne here] at member
        exact here ((marked.waiting j other member).1.symm.trans home)
    rw [Function.update_of_ne different]
    by_cases here : j = k
    · subst here
      rw [Function.update_self] at member
      exact marked.waiting j other (by rw [front]; exact List.mem_cons_of_mem task member)
    · rw [Function.update_of_ne here] at member
      exact marked.waiting j other member
  · change v.worker other.sock = j
    by_cases here : j = k
    · subst here
      rw [Function.update_self] at fed
      cases fed
      exact home
    · rw [Function.update_of_ne here] at fed
      exact marked.homed j other fed

/-- A worker that turns to a descriptor event or has fed what it was about to feed. -/
theorem feed (marked : Marked v taken feeding) {k : WorkerId} {body : Option Body}
    (other : ∀ task, body ≠ some (.task task)) :
    Marked v taken (Function.update feeding k body) := by
  refine ⟨marked.waits, marked.waiting, fun j task fed => ?_⟩
  by_cases here : j = k
  · subst here
    rw [Function.update_self] at fed
    exact absurd fed (other task)
  · rw [Function.update_of_ne here] at fed
    exact marked.homed j task fed

end Marked

namespace Runtime

/-- Marks, queues and frames fit together. -/
structure Kept (r : Runtime) : Prop where
  rooted : r.Rooted
  marked : Marked r.world.taskView r.taken r.feeding

theorem Kept.step {r r' : Runtime} {label : RuntimeLabel SocketCall} (kept : r.Kept)
    (step : socketOwner.step r label = some r') : TaskStep r label r' ∧ r'.Kept := by
  obtain ⟨taskStep, rooted⟩ := (Owner.step_runtimeStep step).taskStep kept.rooted
  refine ⟨taskStep, rooted, ?_⟩
  have marked := kept.marked
  cases taskStep with
  | call called feeding taken =>
      rw [feeding, taken]
      have steps : SocketSteps .all r.world r'.world :=
        SocketCall.run_steps (fun _ _ => trivial) called
      exact marked.executes steps.executes
  | poll idle world feeding taken =>
      rw [feeding, taken, world]
      exact marked.feed (by simp)
  | snapshot empty world feeding taken =>
      rw [feeding, taken, world, World.taskView_clearTasks]
      exact marked.snapshot empty
  | pop idle front world feeding taken =>
      rw [feeding, taken, world, World.taskView_unqueueTask]
      exact marked.pop front
  | @feed k sys body x src type _ fedBy fed free done feeding taken =>
      rw [feeding, taken]
      have steps : SocketSteps .all r.world r'.world := Body.fed_steps fed done
      exact (marked.feed (by simp)).executes steps.executes
  | other plain requeues tasks feeding taken =>
      rw [feeding, taken, tasks]
      exact marked

theorem Fresh.kept {r : Runtime} (fresh : r.Fresh) : r.Kept := by
  have frames (k : WorkerId) : (r.thread k).frames = [] := by rw [fresh.thread]
  refine ⟨fun k frame member => ?_, fun task mark => ?_, fun k task member => ?_,
    fun k task fed => ?_⟩
  · rw [frames k] at member
    exact absurd member (List.not_mem_nil)
  · obtain ⟨memory, src, addr, worker, initialised⟩ := fresh.socket task.sock
    change (r.world.sock task.sock).task task.name = true at mark
    rw [initialised] at mark
    cases mark
  · have empty : r.taken k ++ r.world.taskView.queue k = [] := by
      change (r.thread k).tasks ++ (r.world.worker k).tasks = []
      rw [fresh.thread, fresh.tasks]
      rfl
    rw [empty] at member
    exact absurd member (List.not_mem_nil)
  · rw [Runtime.feeding, frames k] at fed
    cases fed

end Runtime

end Klibmsg
