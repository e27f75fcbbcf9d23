import Klibmsg.Runtime.Linking
import Mathlib.Data.List.TakeWhile

/-!
# No send wakeup is lost

As long as the descriptor is not registered, a queued `task_send` must stay behind the task that
registers it.  Once it is registered, a `task_send` arms it.
-/

namespace Klibmsg

open StepSystem

/-! ## The invariant -/

namespace Outbound

variable (x : SockId) (o : Outbound)

/-- Something is left to be sent. -/
def Unsent : Prop := o.wire.sock.msgBufferQueue ≠ [] ∨ o.wire.sock.isOutBufBusy = true

/-- `Connected` waits in the queue of the context. -/
def Announced : Prop :=
  ⟨x, .established⟩ ∈ o.wire.sock.ctx.events ∧
    (o.wire.sock.event .established).payload = Sending.connectedPayload x

/-- `Connected` is still to be processed. -/
def Pending : Prop :=
  o.Announced x ∨ o.frames = [.process x ⟨x, .established⟩] ∧
    (o.wire.sock.event .established).payload = Sending.connectedPayload x

/-- A queued `task_send` is going to arm the descriptor, or it is armed. -/
def SendDue : Prop :=
  o.Flies x .connected ∧ ⟨x, .send⟩ ∈ o.waits x ∧ ¬o.SendAhead x ∨
    ¬o.Flies x .connected ∧ (o.wire.sock.wfd.events &&& EPOLLOUT ≠ 0 ∨ o.Flies x .send)

/-- Nothing waits in vain.  As long as the descriptor is not registered, `task_send` must come
after the task that registers it, which it does as soon as `Connected` has been processed. -/
structure Woken : Prop where
  safe : o.Flies x .connected → ¬o.SendAhead x ∨ ¬o.Engaged x ∧ o.Announced x
  due : o.Unsent → o.Pending x ∨ 0 < o.callers ∨ o.SendDue x

/-- The invariant. -/
structure Keeps : Prop where
  place : Place x o.frames
  tasks : o.Tasks x
  calm : o.wire.Calm x
  link : o.Link x
  woken : o.wire.sock.state = .active → o.point = .returned → o.Woken x

end Outbound

/-! ## A step -/

namespace Outbound

variable {x : SockId} {o o' : Outbound}

theorem not_engaged_of_idle (idle : o.frames = []) : ¬o.Engaged x := by
  rintro ⟨frame, member, -⟩
  rw [idle] at member
  cases member

/-- `task_send` is not ahead of a task that does not wait, nor does it get ahead by waiting anew. -/
theorem SendAhead.of_executes (executes : Executes x .send o o') (ahead : o'.SendAhead x) :
    o.SendAhead x := by
  obtain ⟨connected, earlier⟩ := ahead
  have waiting : ⟨x, .connected⟩ ∈ o.waits x :=
    ((executes.mem _).mp connected).resolve_right (by simp)
  have present : ⟨x, .send⟩ ∈ o.waits x := by
    by_contra absent
    rw [executes.waits, if_neg absent] at earlier
    rw [List.takeWhile_append] at earlier
    split_ifs at earlier with whole
    · rw [← (List.takeWhile_prefix _).eq_of_length whole] at waiting
      simpa using List.mem_takeWhile_imp waiting
    · exact absent (List.takeWhile_subset _ earlier)
  rw [executes.waits, if_pos present] at earlier
  exact ⟨waiting, earlier⟩

theorem sendAhead_iff (waits : o'.waits x = o.waits x) : o'.SendAhead x ↔ o.SendAhead x := by
  rw [SendAhead, SendAhead, waits]

/-- Raising `Connected` for the first time announces it. -/
theorem announced_raise {v : Wire} (silent : (v.sock.event .established).inQueue = false)
    (src : v.sock.fsm.src = kNetDeviceSrcSocketEvent)
    (raised : o.wire = v.raise x .established kNetSockEventTypeConnected (.sock x)) :
    o.Announced x := by
  rw [Announced, raised]
  refine ⟨?_, ?_⟩
  · simp [Wire.raise, silent]
  · simp [Wire.raise, src, Sending.connectedPayload]

/-- Once the socket is `Active`, `task_connecting` has been fed. -/
theorem Link.not_connecting (link : o.Link x) (active : o.wire.sock.state = .active) :
    ¬o.Flies x .connecting := by
  cases link with
  | queued _ _ _ other => exact other
  | linked _ _ apart | opened _ _ _ apart => exact apart.connecting
  | idle _ state | dialled _ state | dialling _ state | done state => cases state.symm.trans active

namespace Woken

/-- A waiting `task_send` is enough. -/
theorem of_send (safe : o.Flies x .connected → ¬o.SendAhead x ∨ ¬o.Engaged x ∧ o.Announced x)
    (waiting : ⟨x, .send⟩ ∈ o.waits x) : o.Woken x := by
  refine ⟨safe, fun _ => ?_⟩
  by_cases flies : o.Flies x .connected
  · obtain behind | ⟨-, announced⟩ := safe flies
    · exact .inr (.inr (.inl ⟨flies, waiting, behind⟩))
    · exact .inl (.inl announced)
  · exact .inr (.inr (.inr ⟨flies, .inr (.inl waiting)⟩))

/-- So is the event. -/
theorem of_announced (safe : o.Flies x .connected → ¬o.SendAhead x ∨ ¬o.Engaged x)
    (announced : o.Announced x) : o.Woken x :=
  ⟨fun flies => (safe flies).imp_right (⟨·, announced⟩), fun _ => .inl (.inl announced)⟩

/-- A step that leaves the tasks and the handle alone. -/
theorem same (woken : o.Woken x) (waits : o'.waits x = o.waits x)
    (flies : ∀ name, o'.Flies x name ↔ o.Flies x name) (unsent : o'.Unsent → o.Unsent)
    (pending : o.Pending x → o'.Pending x) (callers : o.callers ≤ o'.callers)
    (wfd : o'.wire.sock.wfd = o.wire.sock.wfd)
    (place : o.Engaged x ∨ ¬o'.Engaged x ∧ (o.Announced x → o'.Announced x)) : o'.Woken x where
  safe connected := by
    rw [sendAhead_iff waits]
    obtain behind | ⟨outside, announced⟩ := woken.safe ((flies _).mp connected)
    · exact .inl behind
    · obtain ⟨free, kept⟩ := place.resolve_left outside
      exact .inr ⟨free, kept announced⟩
  due left := by
    obtain waiting | waiting | waiting := woken.due (unsent left)
    · exact .inl (pending waiting)
    · exact .inr (.inl (waiting.trans_le callers))
    · refine .inr (.inr ?_)
      rwa [SendDue, flies, flies, sendAhead_iff waits, waits, wfd]

/-- The worker turns to the first task. -/
theorem pop (woken : o.Woken x) (tasks : o.Tasks x) (link : o.Link x)
    (active : o.wire.sock.state = .active) {task : TaskId} {rest : List TaskId}
    (own : task.sock = x) (idle : o.frames = []) (front : o.waits x = task :: rest)
    (waits : o'.waits x = rest)
    (frames : o'.frames = [.enter (.task task)]) (callers : o'.callers = o.callers)
    (unsent : o'.Unsent → o.Unsent) (announced : o.Announced x → o'.Announced x)
    (wfd : o'.wire.sock.wfd = o.wire.sock.wfd) : o'.Woken x := by
  have nodup := tasks.nodup
  rw [front, List.nodup_cons] at nodup
  have flies (name : TaskName) : o'.Flies x name ↔ o.Flies x name := by
    simp only [Flies, waits, front, frames, idle, List.mem_cons, List.cons.injEq,
      Frame.enter.injEq, Body.task.injEq, and_true]
    rw [eq_comm (a := task)]
    tauto
  have head (connected : o.Flies x .connected) :
      task = ⟨x, .connected⟩ ∨ task = ⟨x, .send⟩ := by
    obtain connecting | other | other := tasks.only task (by simp [front])
    · have here : o.Flies x .connecting := by
        refine .inl ?_
        rw [front, ← connecting, ← own]
        exact List.mem_cons_self
      exact absurd here (link.not_connecting active)
    · exact .inl (by rw [← own, ← other])
    · exact .inr (by rw [← own, ← other])
  -- No task waits twice, so that what is popped is not among the rest.
  have behind (connected : o.Flies x .connected) : ¬o'.SendAhead x := by
    rintro ⟨member, earlier⟩
    rw [waits] at member earlier
    obtain rfl | rfl := head connected
    · exact nodup.1 member
    · exact nodup.1 (List.takeWhile_subset _ earlier)
  refine ⟨fun connected => .inl (behind ((flies _).mp connected)), fun left => ?_⟩
  obtain (waiting | ⟨inside, -⟩) | waiting | ⟨connected, waiting, ordered⟩ | waiting :=
    woken.due (unsent left)
  · exact .inl (.inl (announced waiting))
  · rw [idle] at inside
    cases inside
  · exact .inr (.inl (callers ▸ waiting))
  · refine .inr (.inr (.inl ⟨(flies _).mpr connected, ?_, behind connected⟩))
    rw [waits]
    obtain rfl | rfl := head connected
    · rw [front] at waiting
      exact List.mem_of_ne_of_mem (by simp) waiting
    · refine absurd ⟨?_, ?_⟩ ordered
      · obtain member | held := connected
        · exact member
        · rw [idle] at held
          cases held
      · simp [front]
  · refine .inr (.inr (.inr ?_))
    rwa [flies, flies, wfd]

/-- `task_connected` has been fed. -/
theorem fedConnected (woken : o.Woken x) (tasks : o.Tasks x)
    (held : o.frames = [.enter (.task ⟨x, .connected⟩)]) :
    Woken x { o with frames := [.drain x], wire := o.wire.addFd x } := by
  have fed : ¬Flies x { o with frames := [.drain x], wire := o.wire.addFd x } .connected :=
    tasks.fed held (by decide) rfl rfl
  refine ⟨fun flies => absurd flies fed, fun left => ?_⟩
  obtain (waiting | ⟨inside, -⟩) | waiting | ⟨-, waiting, -⟩ | ⟨none, -⟩ := woken.due left
  · exact .inl (.inl waiting)
  · rw [held] at inside
    cases inside
  · exact .inr (.inl waiting)
  · exact .inr (.inr (.inr ⟨fed, .inr (.inl waiting)⟩))
  · exact absurd (.inr held) none

/-- `task_send` has been fed. -/
theorem fedSend (woken : o.Woken x) (held : o.frames = [.enter (.task ⟨x, .send⟩)]) :
    Woken x { o with frames := [.drain x], wire := o.wire.setOut x } := by
  obtain ⟨wfd, entry, stored⟩ := o.wire.setOut_store x
  have armed : wfd.events &&& EPOLLOUT ≠ 0 := by
    have asked : (o.wire.setOut x).sock.wfd.events &&& EPOLLOUT ≠ 0 := Wire.armed_setOut
    rwa [stored] at asked
  have flies :
      Flies x { o with frames := [.drain x], wire := o.wire.store wfd entry } .connected ↔
        o.Flies x .connected := flies_drain held (by rintro ⟨⟩) rfl
  rw [stored]
  refine ⟨fun connected => ?_, fun left => ?_⟩
  · refine (woken.safe (flies.mp connected)).imp_right fun outside => absurd ?_ outside.1
    exact engaged_of_frames held rfl
  · obtain (waiting | ⟨inside, -⟩) | waiting | ⟨connected, waiting⟩ | ⟨none, -⟩ := woken.due left
    · exact .inl (.inl waiting)
    · rw [held] at inside
      cases inside
    · exact .inr (.inl waiting)
    · exact .inr (.inr (.inl ⟨flies.mpr connected, waiting⟩))
    · exact .inr (.inr (.inr ⟨fun connected => none (flies.mp connected), .inl armed⟩))

end Woken

/-- Nothing is to register a descriptor whose events are fed. -/
theorem Link.not_flies (link : o.Link x) (active : o.wire.sock.state = .active)
    {pevent : FdEvent} (held : o.frames = [.enter (.fd x pevent)]) : ¬o.Flies x .connected := by
  obtain ⟨-, apart, -⟩ | ⟨done, -⟩ := link.holdsFd held
  · exact apart.connected
  · rw [active] at done
    cases done

/-- The wakeup after a step. -/
theorem Keeps.woken_move (keeps : o.Keeps x) (move : Move x o o')
    (active : o'.wire.sock.state = .active) (returned : o'.point = .returned) : o'.Woken x := by
  obtain ⟨place, tasks, calm, link, woken⟩ := keeps
  cases move with
  | same => exact woken active returned
  | start | enter => cases active
  | activate | execute => cases returned
  | dial here =>
      obtain ⟨connecting, -⟩ := link.entered here
      cases connecting.symm.trans active
  | refuse _ fails | fail _ fails =>
      obtain ⟨wfd, errnum, entry, isOpen, rfl⟩ := fails
      cases active
  | ignore _ done => cases done.symm.trans active
  | announce here ordered =>
      have silent : o.Silent := by
        cases link with
        | queued _ raised | linked _ raised =>
            exact (raised.resolve_right (by rw [here]; rintro ⟨⟩)).2
        | done state => cases state.symm.trans active
        | idle point | dialled point | dialling point => rw [here] at point; cases point
        | opened place => simp [here] at place
      refine .of_announced (fun _ => ?_) (announced_raise silent calm.src rfl)
      exact (not_and_or.mp ordered).symm
  | push msg =>
      have before := woken active returned
      exact ⟨before.safe, fun _ => .inr (.inl (Nat.succ_pos _))⟩
  | send waiting =>
      have executes : Executes x .send o
          { o with callers := o.callers - 1, wire := o.wire.execute x .send } :=
        tasks.executes rfl rfl rfl rfl fun _ => id
      refine .of_send (fun flies => ?_) ((executes.mem _).mpr (.inr rfl))
      have before := ((flies_of_executes executes rfl _).mp flies).resolve_right (by decide)
      exact ((woken active returned).safe before).imp_left (mt (SendAhead.of_executes executes))
  | @poll pevent entry idle registered asked =>
      have none : ¬o.Flies x .connected := by
        cases link with
        | linked _ _ apart => exact apart.connected
        | queued _ _ _ _ _ absent => rw [absent] at registered; cases registered
        | idle _ state | dialled _ state | dialling _ state | done state =>
            rw [active] at state
            cases state
        | opened _ _ _ apart => exact apart.connected
      have flies (name : TaskName) :
          Flies x { o with frames := [.enter (.fd x pevent)] } name ↔ o.Flies x name := by
        simp [Flies, waits, idle]
      refine ⟨fun connected => absurd ((flies _).mp connected) none, fun left => ?_⟩
      obtain (waiting | ⟨inside, -⟩) | waiting | due := (woken active returned).due left
      · exact .inl (.inl waiting)
      · rw [idle] at inside
        cases inside
      · exact .inr (.inl waiting)
      · refine .inr (.inr ?_)
        rw [SendDue, flies, flies]
        exact due
  | snapshot idle empty =>
      have kept : waits x { o with taken := o.wire.tasks, wire := { o.wire with tasks := [] } } =
          o.waits x := by simp [waits, empty]
      refine (woken active returned).same kept (fun name => ?_) id id le_rfl rfl
        (.inr ⟨not_engaged_of_idle idle, id⟩)
      rw [Flies, Flies, kept]
  | @pop task rest idle front own =>
      have first : o.waits x = task :: (rest ++ o.wire.tasks).filter (·.sock = x) := by
        simp [waits, front, own]
      exact (woken active returned).pop tasks link active own idle first rfl rfl rfl id id rfl
  | @task name held =>
      have state : o.wire.sock.state = .active := by
        obtain rfl | rfl | rfl := place.known held
        · obtain ⟨wfd, entry, stored⟩ := (o.wire.addFd x).setOut_store x
          change ((o.wire.addFd x).setOut x).sock.state = .active at active
          rwa [stored] at active
        · exact active
        · obtain ⟨wfd, entry, stored⟩ := o.wire.setOut_store x
          change (o.wire.setOut x).sock.state = .active at active
          rwa [stored] at active
      obtain rfl | rfl | rfl := place.known held
      · exact absurd (.inr held) (link.not_connecting state)
      · exact (woken state returned).fedConnected tasks held
      · exact (woken state returned).fedSend held
  | connects held connecting =>
      obtain ⟨wfd, entry, stored⟩ := o.wire.resetOut_store x
      obtain ⟨_, apart, _, ⟨_, _, silent⟩ | ⟨state, _⟩⟩ | ⟨state, _⟩ := link.holdsFd held
      · rw [stored]
        refine .of_announced (fun connected => absurd ?_ apart.connected) (announced_raise
          (v := (o.wire.store wfd entry).modify ({ · with state := .active })) silent calm.src rfl)
        exact (flies_drain held (by rintro ⟨⟩) rfl).mp connected
      · cases connecting.symm.trans state
      · cases connecting.symm.trans state
  | @write v held state sends =>
      have kept := sends.kept
      have flies (name : TaskName) :
          Flies x { o with frames := [.drain x], wire := v } name ↔ o.Flies x name :=
        flies_drain held (by rintro ⟨⟩) kept.tasks
      refine (woken state returned).same (by simp [waits, kept.tasks]) flies
        (fun _ => sends.1.symm) ?_ le_rfl kept.wfd
        (.inl (engaged_of_frames held rfl))
      rintro (⟨raised, payload⟩ | ⟨inside, -⟩)
      · refine .inl ⟨kept.events _ raised, ?_⟩
        change (v.sock.event .established).payload = _
        rw [kept.established]
        exact payload
      · rw [held] at inside
        cases inside
  | rest held state free empty =>
      obtain ⟨wfd, entry, stored⟩ := o.wire.resetOut_store x
      rw [stored]
      refine ⟨fun connected => absurd ?_ (link.not_flies state held), fun left => ?_⟩
      · exact (flies_drain held (by rintro ⟨⟩) rfl).mp connected
      · rcases left with left | left
        · exact absurd empty left
        · cases free.symm.trans left
  | @popEvent event events inside front =>
      have payload : ((o.wire.popEvent event events).sock.event .established).payload =
          (o.wire.sock.event .established).payload := by
        change (Function.update o.wire.sock.event event.name _ .established).payload = _
        rw [Function.update_apply]
        split_ifs with same
        · rw [same]
        · rfl
      refine (woken active returned).same rfl (fun name => ?_) id ?_ le_rfl rfl
        (.inl (engaged_of_frames inside rfl))
      · simp [Flies, waits, inside, Wire.popEvent, Wire.modify]
      · rintro (⟨raised, carried⟩ | ⟨held, -⟩)
        · rw [front, List.mem_cons] at raised
          obtain rfl | later := raised
          · exact .inr ⟨rfl, payload.trans carried⟩
          · exact .inl ⟨later, payload.trans carried⟩
        · rw [inside] at held
          cases held
  | leave inside drained =>
      refine (woken active returned).same rfl (fun name => ?_) id ?_ le_rfl rfl
        (.inl (engaged_of_frames inside rfl))
      · simp [Flies, waits, inside, Wire.modify]
      · rintro (announced | ⟨held, -⟩)
        · exact .inl announced
        · rw [inside] at held
          cases held
  | @process event inside other =>
      refine (woken active returned).same rfl (fun name => ?_) id ?_ le_rfl rfl
        (.inl (engaged_of_frames inside rfl))
      · exact flies_drain inside (by rintro ⟨⟩) rfl
      · rintro (⟨raised, carried⟩ | ⟨held, carried⟩)
        · refine .inl ⟨raised, ?_⟩
          have different : .established ≠ event.name := by
            intro same
            rw [← same, carried] at other
            exact other rfl
          change (Function.update o.wire.sock.event event.name _ .established).payload = _
          rw [Function.update_of_ne different]
          exact carried
        · cases inside.symm.trans held
          rw [carried] at other
          exact absurd rfl other
  | @wake event inside connected =>
      have executes : Executes x .send o
          { o with frames := [.drain x], wire := (o.wire.takeEvent event).execute x .send } := by
        have same : (o.wire.takeEvent event).sock.task = o.wire.sock.task := rfl
        exact tasks.executes rfl same rfl rfl (by rintro _ ⟨⟩)
      refine .of_send (fun flies => .inl fun ahead => ?_) ((executes.mem _).mpr (.inr rfl))
      obtain waiting | ⟨⟨⟩⟩ := flies
      have before := ((executes.mem _).mp waiting).resolve_right (by simp)
      obtain behind | ⟨outside, -⟩ := (woken active returned).safe (.inl before)
      · exact behind (.of_executes executes ahead)
      · exact outside (engaged_of_frames inside rfl)
  | elsewhere point callers sock _ _ _ kept frames =>
      rw [sock] at active
      have announced : o.Announced x → o'.Announced x := by
        rw [Announced, Announced, sock]
        exact id
      refine (woken active (point ▸ returned)).same kept (fun _ => flies_elsewhere kept frames) ?_
        ?_ callers.ge (by rw [sock]) ?_
      · rw [Unsent, Unsent, sock]
        exact id
      · rintro (waiting | ⟨inside, carried⟩)
        · exact .inl (announced waiting)
        · obtain same | ⟨away, -⟩ := frames
          · exact .inr ⟨same.trans inside, by rw [sock, carried]⟩
          · exact absurd (engaged_of_frames inside rfl) away
      · obtain same | ⟨-, away⟩ := frames
        · by_cases engaged : o.Engaged x
          · exact .inl engaged
          · exact .inr ⟨by rwa [Engaged, same], announced⟩
        · exact .inr ⟨away, announced⟩

/-- The invariant is preserved. -/
theorem Keeps.move (keeps : o.Keeps x) (move : Move x o o') : o'.Keeps x where
  place := keeps.place.move keeps.tasks keeps.calm move
  tasks := keeps.tasks.move keeps.place keeps.link move
  calm := calm_move keeps.calm move
  link := keeps.link.move keeps.place keeps.tasks move
  woken := keeps.woken_move move

end Outbound

/-! ## The steps of the device -/

namespace World

variable (w : World) (x : SockId)

theorem wire_internalTask {name : TaskName}
    (known : name = .connecting ∨ name = .connected ∨ name = .send) :
    (w.internalTask x name).wire x = (w.wire x).internalTask x name := by
  obtain rfl | rfl | rfl := known
  · exact (wire_setOut _ x).trans (congrArg (Wire.setOut · x) (w.wire_addFd x))
  · exact w.wire_addFd x
  · exact w.wire_setOut x

theorem wire_clearTasks :
    (w.clearTasks (w.sock x).worker).wire x = { w.wire x with tasks := [] } := by
  apply Wire.ext <;> simp [wire, clearTasks, pollerOf]

theorem wire_unqueueTask {task : TaskId} (own : task.sock = x) :
    (w.unqueueTask task).wire x = (w.wire x).modify fun sock =>
      { sock with task := Function.update sock.task task.name false } := by
  subst own
  exact w.wire_modify _ rfl rfl

/-- The mark of a task of another socket. -/
theorem wire_unqueueTask_of_ne {task : TaskId} (other : task.sock ≠ x) :
    (w.unqueueTask task).wire x = w.wire x := by
  have kept : (w.unqueueTask task).sock x = w.sock x := Function.update_of_ne other.symm _ _
  rw [wire, pollerOf, kept]
  rfl

theorem wire_popEvent {event : EventId} (own : event.sock = x) (events : List EventId) :
    ((w.setEvents x events).unqueueEvent event).wire x =
      (w.wire x).popEvent event events := by
  subst own
  rw [setEvents, setCtx, unqueueEvent, setEvent]
  exact (wire_modify _ _ rfl rfl).trans (congrArg (Wire.modify · _) (w.wire_modify _ rfl rfl))

theorem wire_clearEventsto :
    (w.clearEventsto x).wire x =
      (w.wire x).modify fun sock => { sock with ctx := { sock.ctx with eventsto := [] } } := by
  rw [clearEventsto, setCtx]
  exact w.wire_modify x rfl rfl

theorem wire_takeEvent {event : EventId} (own : event.sock = x) :
    (w.takeEvent event).wire x = (w.wire x).takeEvent event := by
  subst own
  rw [takeEvent, setEvent]
  exact wire_modify _ _ rfl rfl

end World

section Feeding

variable {w w' : World} {x : SockId} {sys : Sys}

/-- A descriptor event of a socket that does not ask for `EPOLLIN`. -/
theorem feed_fd_wire {pevent : FdEvent} (calm : (w.wire x).Calm x) (out : pevent ≠ .fdIn)
    (done : feed sys x kNetSockSrcFd pevent.type w = .ok w') :
    ((w.sock x).state = .connecting →
        pevent = .fdOut ∧ w'.wire x = ((((w.wire x).resetOut x).modify
          ({ · with state := .active })).raise x .established kNetSockEventTypeConnected
            (.sock x)) ∨
          (w.wire x).Fails x (w'.wire x)) ∧
      ((w.sock x).state = .active →
        pevent = .fdOut ∧ ((w.wire x).Sends x (w'.wire x) ∨
            (w.sock x).isOutBufBusy = false ∧ (w.sock x).msgBufferQueue = [] ∧
              w'.wire x = (w.wire x).resetOut x) ∨
          (w.wire x).Fails x (w'.wire x)) := by
  rw [feed_fd_eq sys _ calm.alive calm.running] at done
  refine ⟨fun state => ?_, fun state => ?_⟩
  · rw [state] at done
    cases pevent with
    | fdIn => exact absurd rfl out
    | fdOut => exact (connectingFdOut_wire done).imp_left (⟨rfl, ·⟩)
    | fdErr => exact .inr (removeAndFail_wire done)
  · rw [state] at done
    cases pevent with
    | fdIn => exact absurd rfl out
    | fdOut => exact .inl ⟨rfl, activeFdOut_wire done⟩
    | fdErr => exact .inr (removeAndFail_wire done)

/-- A socket that is done ignores its descriptor. -/
theorem feed_fd_done {pevent : FdEvent} (calm : (w.wire x).Calm x)
    (state : (w.sock x).state = .done)
    (done : feed sys x kNetSockSrcFd pevent.type w = .ok w') : w' = w := by
  rw [feed_fd_eq sys _ calm.alive calm.running, state] at done
  cases done
  rfl

/-- The device processes an event of the socket. -/
theorem process_wire {event : EventId} (calm : (w.wire x).Calm x) (own : event.sock = x)
    (done : deviceOwner.process sys event w = .ok w') :
    (w.eventAt event).payload.type ≠ kNetSockEventTypeConnected ∧
        w'.wire x = (w.wire x).takeEvent event ∨
      (w.eventAt event).payload.type = kNetSockEventTypeConnected ∧
        w'.wire x = ((w.wire x).takeEvent event).execute x .send := by
  have carried : (w.eventAt event).payload.Outbound x := by
    subst own
    exact calm.payloads event.name
  have taken := w.wire_takeEvent x own
  simp only [Owner.process] at done
  split_ifs at done
  split at done
  · cases done
  change netDeviceFsmHandler sys (w.eventAt event).payload (w.takeEvent event) = .ok w' at done
  obtain cleared | ⟨type, payload, rfl | rfl | rfl⟩ := carried
  · rw [cleared] at done ⊢
    cases done
    exact .inl ⟨by decide, taken⟩
  · rw [payload] at done ⊢
    have alive : x ∉ (w.takeEvent event).freed := calm.alive
    change (if x ∈ (w.takeEvent event).freed then _ else _) = _ at done
    rw [if_neg alive] at done
    cases done
    exact .inr ⟨rfl, by rw [World.wire_execute, taken]⟩
  · have other : kNetSockEventTypeSent ≠ kNetSockEventTypeConnected := by decide
    rw [payload] at done ⊢
    cases done
    exact .inl ⟨other, taken⟩
  · rw [payload] at done
    cases done

end Feeding

section Starting

variable {w w' : World} {x : SockId} {sys : Sys}

/-- `Start` of a socket that is not being accepted. -/
theorem start_wire {rc : Int} (usual : (w.sock x).state ≠ .beingAccepted)
    (lawful : ∀ fd, sys.socket = .fd fd →
      0 ≤ fd ∧ w.fds fd = false ∧ (w.pollerOf x).interest fd = none)
    (done : start sys x w = .ok (rc, w')) :
    w'.wire x = w.wire x ∨ (w.sock x).state = .idle ∧ ∃ fd : Fd, 0 ≤ fd ∧
      w'.wire x = { w.wire x with
        sock := { w.sock x with
          s := fd, state := .starting, fsm := { (w.sock x).fsm with state := .active } }
        entry := none
        isOpen := true } := by
  simp only [start] at done
  split at done
  next => cases done; exact .inl rfl
  next fd answer =>
    obtain ⟨initialised, initialising, rest⟩ := bind_eq_ok.mp done
    obtain ⟨started, starting, returned⟩ := bind_eq_ok.mp rest
    cases returned
    obtain ⟨nonneg, -, unregistered⟩ := lawful fd answer
    simp only [World.initFromFd] at initialising
    split_ifs at initialising with wrong taken unblocked
    cases initialising
    have state : (w.sock x).state = .idle := by
      by_contra other
      exact wrong ⟨other, usual⟩
    refine .inr ⟨state, fd, nonneg, ?_⟩
    obtain ⟨-, ⟨-, rfl⟩ | ⟨other, -⟩⟩ := fsmStart_outcome starting
    · have isOpen : (w.openFd fd).fds fd = true := Function.update_self _ _ _
      rw [World.wire_setFsmState, World.wire_setState, World.wire_logCalls, World.wire_setS]
      change Wire.modify (Wire.modify { w.wire x with
        sock := { w.sock x with s := fd }
        entry := (w.pollerOf x).interest fd
        isOpen := (w.openFd fd).fds fd } _) _ = _
      rw [unregistered, isOpen]
      rfl
    · exact absurd (by simpa using state) other

/-- The action of `Connect`, with the slip that an idle socket takes it as well. -/
theorem connect_wire (calm : (w.wire x).Calm x)
    (states : (w.sock x).state = .idle ∨ (w.sock x).state = .starting)
    (done : fsmAction sys x kNetSockActionConnect w = .ok w') :
    w'.wire x = (w.wire x).modify ({ · with state := .connecting }) := by
  rw [fsmAction_eq (by decide) calm.alive calm.running] at done
  obtain state | state := states
  · rw [state] at done
    cases done
    rw [World.wire_setState]
    rfl
  · rw [state] at done
    cases done
    exact World.wire_setState ..

/-- The action of a `Connect` that fails. -/
theorem connectFails_wire (calm : (w.wire x).Calm x) (state : (w.sock x).state = .connecting)
    (done : fsmAction sys x kNetSockActionError w = .ok w') : (w.wire x).Fails x (w'.wire x) := by
  rw [fsmAction_eq (by decide) calm.alive calm.running, state] at done
  exact closeAndFail_wire done

end Starting

namespace Sending

variable {s s' : Sending} {x : SockId}

/-- The outbound socket after a step that leaves its worker alone. -/
theorem outbound_eq (s s' : Sending) {v : Wire} (wire : s'.world.wire x = v)
    (worker : v.sock.worker = s.worker x) {thread : Thread}
    (turned : s'.runtime.thread (s.worker x) = thread) :
    s'.outbound x = ⟨s'.point, s'.callers, thread.frames, thread.tasks, v⟩ := by
  have same : s'.worker x = s.worker x := (congrArg (·.sock.worker) wire).trans worker
  rw [outbound, frames, same, turned, wire]

/-- A step of the worker. -/
theorem move_turned {r : Runtime} {thread : Thread} {v : Wire}
    (turned : r.thread (s.worker x) = thread) (wire : r.world.wire x = v)
    (worker : v.sock.worker = s.worker x)
    (move : Move x (s.outbound x)
      { s.outbound x with frames := thread.frames, taken := thread.tasks, wire := v }) :
    Move x (s.outbound x) (Sending.outbound { s with runtime := r } x) := by
  rw [outbound_eq s { s with runtime := r } wire worker turned]
  exact move

/-- A step that only replaces its frames. -/
theorem move_setFrames {r : Runtime} {frames : List Frame} {v : Wire}
    (thread : r.thread = (s.runtime.setFrames (s.worker x) frames).thread)
    (wire : r.world.wire x = v) (worker : v.sock.worker = s.worker x)
    (move : Move x (s.outbound x) { s.outbound x with frames := frames, wire := v }) :
    Move x (s.outbound x) (Sending.outbound { s with runtime := r } x) := by
  have turned : r.thread (s.worker x) =
      { s.runtime.thread (s.worker x) with frames := frames } := by
    rw [thread]
    exact Function.update_self _ _ _
  exact move_turned turned wire worker move

/-- The worker proceeds. -/
theorem advance_move {sys : Sys} {r : Runtime} (keeps : (s.outbound x).Keeps x)
    (lawful : s.Lawful x (.advance (s.worker x) sys))
    (step : RuntimeStep deviceOwner s.runtime (.advance (s.worker x) sys) r) :
    Move x (s.outbound x) (Sending.outbound { s with runtime := r } x) := by
  obtain ⟨place, tasks, calm, link, -⟩ := keeps
  -- Away from the socket it only leaves.
  have busy {frames : List Frame} (held : s.frames x = frames) (other : frames ≠ [.external []]) :
      ¬∀ frame ∈ frames, ¬frame.Concerns x := by
    subst held
    obtain ⟨frame, member, concerns⟩ := lawful.resolve_right other
    exact fun free => free frame member concerns
  cases step with
  | @enter _ _ body ctx rest w top context free ran =>
      have held : (s.outbound x).frames = .enter body :: rest := top
      rw [held] at place
      cases place with
      | away free => exact absurd free (busy held (by rintro ⟨⟩))
      | @task name known =>
          cases context
          have alive : x ∉ s.world.freed := calm.alive
          have other : name ≠ .stop := by obtain rfl | rfl | rfl := known <;> decide
          change feed sys x name.src kNetWorkerTaskExecute s.world = .ok w at ran
          rw [feed_task alive other] at ran
          cases ran
          exact move_setFrames rfl (s.world.wire_internalTask x known)
            (Wire.worker_internalTask _ x name) (.task held)
      | fd pevent =>
          cases context
          change feed sys x kNetSockSrcFd pevent.type s.world = .ok w at ran
          obtain ⟨noIn, -, -, states⟩ | ⟨state, -⟩ := link.holdsFd held
          · have out : pevent ≠ .fdIn := by
              rintro rfl
              exact noIn held
            obtain ⟨connecting, active⟩ := feed_fd_wire calm out ran
            obtain ⟨state, -⟩ | ⟨state, -⟩ := states
            · obtain ⟨rfl, connects⟩ | fails := connecting state
              · exact move_setFrames rfl connects (Wire.worker_resetOut _ x) (.connects held state)
              · exact move_setFrames rfl rfl fails.worker (.fail held fails)
            · obtain ⟨rfl, sends | ⟨free, empty, rests⟩⟩ | fails := active state
              · exact move_setFrames rfl rfl sends.kept.worker (.write held state sends)
              · exact move_setFrames rfl rests (Wire.worker_resetOut _ x)
                  (.rest held state free empty)
              · exact move_setFrames rfl rfl fails.worker (.fail held fails)
          · cases feed_fd_done calm state ran
            exact move_setFrames rfl rfl rfl (.ignore held state)
  | @popEvent _ _ ctx rest event events top front =>
      have held : (s.outbound x).frames = .drain ctx :: rest := top
      rw [held] at place
      cases place with
      | away free => exact absurd free (busy held (by rintro ⟨⟩))
      | drain =>
          have queue : (s.outbound x).wire.sock.ctx.events = event :: events := front
          have own := calm.events event (by simp [queue])
          exact move_setFrames rfl (s.world.wire_popEvent x own events) rfl (.popEvent held front)
  | @leave _ _ ctx rest top drained =>
      have held : (s.outbound x).frames = .drain ctx :: rest := top
      rw [held] at place
      cases place with
      | away free => exact absurd free (busy held (by rintro ⟨⟩))
      | drain =>
          have empty : (s.runtime.world.sock x).ctx.eventsto = [] := calm.eventsto
          rw [empty]
          exact move_setFrames rfl (s.world.wire_clearEventsto x) rfl (.leave held drained)
  | @process _ _ ctx event rest w top processed =>
      have held : (s.outbound x).frames = .process ctx event :: rest := top
      rw [held] at place
      cases place with
      | away free => exact absurd free (busy held (by rintro ⟨⟩))
      | process own =>
          have carried : ((s.outbound x).wire.sock.event event.name).payload =
              (s.world.eventAt event).payload := by rw [World.eventAt, own]; rfl
          obtain ⟨other, taken⟩ | ⟨connected, woken⟩ := process_wire calm own processed
          · exact move_setFrames rfl taken rfl (.process held (by rw [carried]; exact other))
          · exact move_setFrames rfl woken rfl (.wake held (by rw [carried]; exact connected))
  | @finish _ _ rest top =>
      have held : (s.outbound x).frames = .external [] :: rest := top
      rw [held] at place
      cases place with
      | away free =>
          have outside : ¬(s.outbound x).Engaged x := by
            rintro ⟨frame, member, concerns⟩
            exact free frame (held ▸ member) concerns
          have left : ¬Outbound.Engaged x { s.outbound x with frames := rest } := by
            rintro ⟨frame, member, concerns⟩
            exact free frame (List.mem_cons_of_mem _ member) concerns
          exact move_setFrames rfl rfl rfl
            (.elsewhere rfl rfl rfl rfl rfl calm.alive rfl (.inr ⟨outside, left⟩))
  | @external _ _ event events rest top =>
      have held : (s.outbound x).frames = .external (event :: events) :: rest := top
      rw [held] at place
      cases place with
      | away free => exact absurd free (busy held (by rintro ⟨⟩))

/-- A step that leaves the threads alone. -/
theorem move_setWorld {point : ConnectPoint} {callers : Nat} {w : World} {v : Wire}
    (wire : w.wire x = v) (worker : v.sock.worker = s.worker x)
    (move : Move x (s.outbound x)
      { s.outbound x with point := point, callers := callers, wire := v }) :
    Move x (s.outbound x)
      (Sending.outbound { s.setWorld w with point := point, callers := callers } x) := by
  rw [outbound_eq s { s.setWorld w with point := point, callers := callers } wire worker rfl]
  exact move

/-- The thread that connects the socket proceeds. -/
theorem connect_move {sys : Sys} {point : ConnectPoint} {w : World}
    (keeps : (s.outbound x).Keeps x) (lawful : s.Lawful x (.connect sys))
    (ordered : s.InOrder x (.connect sys)) (next : s.point.step sys x s.world = some (point, w)) :
    Move x (s.outbound x) (Sending.outbound { s.setWorld w with point := point } x) := by
  obtain ⟨-, -, calm, link, -⟩ := keeps
  cases here : s.point with
  | before =>
      rw [here] at next
      obtain ⟨entering, ran, returned⟩ := Option.map_eq_some_iff.mp next
      cases returned
      have states := link.before here
      exact move_setWorld (connect_wire calm states (ok_of_toOption ran)) rfl (.enter here states)
  | entered =>
      obtain ⟨state, -⟩ := link.entered here
      have connecting : ((s.world.logCalls [.connect (s.world.sock x).s]).sock x).state =
          .connecting := state
      rw [here] at next
      simp only [ConnectPoint.step, if_pos connecting] at next
      have valid (answer : sys.connect = 0 ∨ sys.connect = EINPROGRESS) :
          (s.outbound x).wire.sock.s ≠ -1 := by
        intro missing
        obtain ⟨failing, hard⟩ := lawful here missing
        exact answer.elim failing hard
      split_ifs at next with succeeds refused
      · cases next
        exact move_setWorld (World.wire_setState _ x .active) rfl
          (.activate here (valid (.inl succeeds)))
      · obtain ⟨failed, ran, returned⟩ := Option.map_eq_some_iff.mp next
        cases returned
        have noted := (s.world.logCalls [.connect (s.world.sock x).s]).wire_setErrnum x sys.connect
        have still : Wire.Calm x ((((s.world.logCalls [.connect (s.world.sock x).s]).setErrnum x
            sys.connect)).wire x) := by
          rw [noted]
          exact calm.same rfl rfl rfl rfl
        have fails := connectFails_wire still (by simpa using connecting) (ok_of_toOption ran)
        rw [noted] at fails
        obtain ⟨wfd, errnum, entry, isOpen, result⟩ := fails
        exact move_setWorld result rfl (.refuse here ⟨wfd, errnum, entry, isOpen, rfl⟩)
      · cases next
        exact move_setWorld (World.wire_execute _ x .connecting) rfl
          (.dial here (valid (.inr (not_not.mp refused))))
  | activated =>
      rw [here] at next
      cases next
      exact move_setWorld (s.world.wire_execute x .connected) rfl (.execute here)
  | executed =>
      rw [here] at next
      cases next
      exact move_setWorld (s.world.wire_raise x .established _ _) rfl
        (.announce here (ordered here))
  | returned =>
      rw [here] at next
      cases next

theorem work_eq_some {k : WorkerId} {label : RuntimeLabel DeviceCall}
    (worked : s.work x k label = some s') :
    k = s.worker x ∧ ∃ r, deviceOwner.step s.runtime label = some r ∧
      { s with runtime := r } = s' := by
  simp only [work] at worked
  split_ifs at worked with own
  exact ⟨own, Option.map_eq_some_iff.mp worked⟩

/-- What is done elsewhere. -/
theorem LeavesAlone.move {r : Runtime} (leaves : s.LeavesAlone x r) :
    Move x (s.outbound x) (Sending.outbound { s with runtime := r } x) := by
  refine .elsewhere rfl rfl leaves.sock leaves.registration ?_ leaves.alive leaves.waits
    leaves.frames
  change r.world.fds (r.world.sock x).s = s.world.fds (s.world.sock x).s
  rw [leaves.sock, leaves.isOpen]

/-- A step of the system is a move. -/
theorem step_move {label : SendingLabel} (keeps : (s.outbound x).Keeps x)
    (lawful : s.Lawful x label) (undisturbed : s.Undisturbed x label) (ordered : s.InOrder x label)
    (stepped : s.step x label = some s') :
    Move x (s.outbound x) (s'.outbound x) := by
  cases label with
  | start sys =>
      obtain ⟨⟨rc, w⟩, started, rfl⟩ := Option.map_eq_some_iff.mp stepped
      have usual : (s.world.sock x).state ≠ .beingAccepted := keeps.link.not_beingAccepted
      obtain same | ⟨idle, fd, nonneg, opened⟩ :=
        start_wire usual lawful (ok_of_toOption started)
      · exact move_setWorld same rfl .same
      · exact move_setWorld opened rfl (.start idle nonneg)
  | connect sys =>
      obtain ⟨⟨point, w⟩, next, rfl⟩ := Option.map_eq_some_iff.mp stepped
      exact connect_move keeps lawful ordered next
  | pushMsg msg =>
      cases stepped
      exact move_setWorld (s.world.wire_pushMsg x msg) rfl (.push msg)
  | executeSend =>
      simp only [step] at stepped
      split_ifs at stepped with waiting
      cases stepped
      exact move_setWorld (s.world.wire_execute x .send) rfl (.send waiting)
  | poll k pevent =>
      obtain ⟨rfl, r, worked, rfl⟩ := work_eq_some stepped
      obtain ⟨entry, registered, -, asked⟩ := lawful
      cases Owner.step_runtimeStep worked with
      | poll idle => exact move_setFrames rfl rfl rfl (.poll idle registered asked)
  | snapshot k =>
      obtain ⟨rfl, r, worked, rfl⟩ := work_eq_some stepped
      cases Owner.step_runtimeStep worked with
      | snapshot idle empty =>
          exact move_turned (Function.update_self _ _ _) (s.world.wire_clearTasks x) rfl
            (.snapshot idle empty)
  | pop k =>
      obtain ⟨rfl, r, worked, rfl⟩ := work_eq_some stepped
      cases Owner.step_runtimeStep worked with
      | @pop _ task tasks idle front =>
          have taken : (s.outbound x).taken = task :: tasks := front
          have turned : ((s.runtime.setTasks (s.worker x) tasks).setFrames (s.worker x)
              [.enter (.task task)]).thread (s.worker x) = ⟨tasks, [.enter (.task task)]⟩ := by
            simp [Runtime.setFrames, Runtime.setTasks]
          by_cases own : task.sock = x
          · exact move_turned turned (s.world.wire_unqueueTask x own) rfl (.pop idle taken own)
          · refine move_turned turned (s.world.wire_unqueueTask_of_ne x own) rfl
              (.elsewhere rfl rfl rfl rfl rfl keeps.calm.alive ?_
                (.inr ⟨Outbound.not_engaged_of_idle idle, ?_⟩))
            · rw [Outbound.waits, Outbound.waits, taken, List.cons_append]
              exact (List.filter_cons_of_neg (by simpa using own)).symm
            · simpa [Outbound.Engaged, Frame.Concerns] using own
  | advance k sys =>
      obtain ⟨rfl, r, worked, rfl⟩ := work_eq_some stepped
      exact advance_move keeps lawful (Owner.step_runtimeStep worked)
  | elsewhere r =>
      cases stepped
      exact undisturbed.move

theorem Fresh.keeps (fresh : s.Fresh x) : (s.outbound x).Keeps x := by
  obtain ⟨memory, addr, worker, initialised⟩ := fresh.socket
  have sock : (s.outbound x).wire.sock =
      memory.initialised kNetDeviceSrcSocketEvent addr worker := initialised
  have waits : (s.outbound x).waits x = [] := fresh.waits
  have outside : ¬(s.outbound x).Engaged x := fresh.apart
  have none (name : TaskName) : ¬(s.outbound x).Flies x name := by
    rintro (waiting | held)
    · rw [waits] at waiting
      cases waiting
    · exact outside (Outbound.engaged_of_frames held rfl)
  refine ⟨.away fun frame member concerns => outside ⟨frame, member, concerns⟩,
    ⟨fun name => ?_, ?_, ?_, ?_⟩, ⟨?_, ?_, fresh.alive, ?_, ?_, ?_⟩,
    .idle fresh.point ?_ ?_ fresh.registration ⟨none _, none _⟩ ?_ ?_, ?_⟩
  · simp [sock, waits, NetSocket.initialised]
  · simp [waits]
  · simp [waits]
  · simp [waits]
  · simp [sock, NetSocket.initialised]
  · simp [sock, NetSocket.initialised]
  · simp [sock, NetSocket.initialised]
  · simp [sock, NetSocket.initialised]
  · simp [sock, NetSocket.initialised, NetFsmEvent.init, Payload.Outbound]
  · simp [sock, NetSocket.initialised]
  · simp [sock, NetSocket.initialised]
  · simp [Outbound.Silent, sock, NetSocket.initialised, NetFsmEvent.init]
  · exact fun pevent held => outside (Outbound.engaged_of_frames held rfl)
  · simp [sock, NetSocket.initialised]

/-- The invariant says that nothing waits in vain. -/
theorem wakes_of_keeps (keeps : (s.outbound x).Keeps x) : s.Wakes x := by
  intro unlocked returned active unsent
  obtain ⟨-, -, -, link, woken⟩ := keeps
  have sends (flies : (s.outbound x).Flies x .send) : s.SendWaits x := by
    refine flies.imp_right fun held => ?_
    have frames : s.frames x = [.enter (.task ⟨x, .send⟩)] := held
    rw [frames]
    exact List.mem_singleton_self _
  obtain (announced | ⟨inside, -⟩) | waiting | ⟨-, waiting, -⟩ | ⟨apart, armed | flies⟩ :=
    (woken active returned).due unsent
  · exact .inr (.inr (.inl announced))
  · have locked : s.runtime.locked x = true := by
      rw [Runtime.locked, decide_eq_true_eq]
      have frames : (s.runtime.thread (s.worker x)).frames = [.process x ⟨x, .established⟩] :=
        inside
      exact ⟨s.worker x, _, frames ▸ List.mem_singleton_self _, rfl⟩
    rw [unlocked] at locked
    cases locked
  · exact .inr (.inr (.inr waiting))
  · exact .inr (.inl (.inl waiting))
  · have registered := link.registered active returned apart
    exact .inl ⟨_, registered.entry, rfl, armed⟩
  · exact .inr (.inl (sends flies))

/-- No send wakeup is lost unless `Connected` is processed while `task_send` waits ahead of the
task that registers the descriptor. -/
theorem wakeup_kept {labels : List SendingLabel} (fresh : s.Fresh x)
    (lawful : (sendingSystem x).Guarded (fun state => state.Lawful x) s labels)
    (undisturbed : (sendingSystem x).Guarded (fun state => state.Undisturbed x) s labels)
    (ordered : (sendingSystem x).Guarded (fun state => state.InOrder x) s labels) :
    (sendingSystem x).Always (fun state => state.Wakes x) s labels := by
  have kept (before : Sending) (label : SendingLabel) (after : Sending)
      (keeps : (before.outbound x).Keeps x)
      (allowed : (before.Lawful x label ∧ before.Undisturbed x label) ∧ before.InOrder x label)
      (stepped : (sendingSystem x).step before label = some after) :
      (after.outbound x).Keeps x :=
    keeps.move (step_move keeps allowed.1.1 allowed.1.2 allowed.2 stepped)
  have always := always_of_guarded kept fresh.keeps ((lawful.and undisturbed).and ordered)
  exact fun earlier state before execution =>
    wakes_of_keeps (always earlier state before execution)

/-! ### Runs -/

/-- The device has initialised socket 0 for a message that it is about to send. -/
def initial : Sending where
  runtime := { (default : Runtime) with
    world := (default : World).socketInit 0 kNetDeviceSrcSocketEvent default }
  point := .before
  callers := 0

theorem fresh_initial : initial.Fresh 0 where
  socket := ⟨_, _, _, rfl⟩
  waits := rfl
  apart := by decide
  registration := rfl
  alive := by decide
  point := rfl
  callers := rfl

/-- The worker goes through a critical section and drains the given number of events. -/
def drains (events : Nat) : List SendingLabel := .replicate (3 + 2 * events) (.advance 0 {})

/-- `connect()` succeeds at once. -/
def connects : List SendingLabel :=
  [.connect {}, .connect { connect := 0 }, .connect {}, .connect {}]

/-- A message is queued before the socket connects, and the worker is idle meanwhile.  It writes
nothing when it may. -/
def connectsIdle : List SendingLabel :=
  [.start { socket := .fd 3 }, .pushMsg .new, .executeSend] ++ connects ++
    [.snapshot 0, .pop 0] ++ drains 1 ++ [.pop 0] ++ drains 0 ++
    [.snapshot 0, .pop 0] ++ drains 0 ++ [.poll 0 .fdOut] ++ drains 0

/-- The descriptor stays armed for what the worker could not write. -/
theorem wakeup_kept_idle :
    ∃ final, (sendingSystem 0).run initial connectsIdle = some final ∧
      (final.runtime.locked 0 = false ∧ final.point = .returned ∧
        (final.world.sock 0).state = .active ∧ final.Unsent 0 ∧ final.Armed 0) ∧
      final.Wakes 0 := by
  have computed : ((sendingSystem 0).run initial connectsIdle).any (fun final =>
      decide (final.runtime.locked 0 = false ∧ final.point = .returned ∧
        (final.world.sock 0).state = .active ∧ final.Unsent 0 ∧ final.Armed 0)) = true := by
    decide +kernel
  obtain ⟨final, execution, reached⟩ := (Option.any_eq_true _ _).mp computed
  have lawful : (sendingSystem 0).Guarded (fun state => state.Lawful 0) initial connectsIdle := by
    decide +kernel
  have undisturbed : (sendingSystem 0).Guarded (fun state => state.Undisturbed 0) initial
      connectsIdle := by
    refine guarded_of_forall (fun label member state => ?_) initial
    cases label with
    | elsewhere r => simp [connectsIdle, connects, drains] at member
    | _ => trivial
  have ordered : (sendingSystem 0).Guarded (fun state => state.InOrder 0) initial connectsIdle := by
    decide +kernel
  exact ⟨final, execution, of_decide_eq_true reached,
    wakeup_kept fresh_initial lawful undisturbed ordered connectsIdle final (List.prefix_refl _)
      execution⟩

/-- Here the worker is about to feed `task_send` and another one waits while the socket connects.
The event of `Connect` is processed in that critical section, and its `task_send` is not queued a
second time. -/
def connectsBusy : List SendingLabel :=
  [.start { socket := .fd 3 }, .pushMsg .new, .executeSend, .snapshot 0, .pop 0, .pushMsg .new,
    .executeSend] ++ connects ++ drains 1 ++ [.snapshot 0, .pop 0] ++ drains 0 ++
    [.pop 0] ++ drains 0

/-- Both messages stay behind: the descriptor has been registered without `EPOLLOUT`, and nothing
waits any more. -/
theorem wakeup_lost :
    initial.Fresh 0 ∧
      (sendingSystem 0).Guarded (fun state => state.Lawful 0) initial connectsBusy ∧
      (sendingSystem 0).Guarded (fun state => state.Undisturbed 0) initial connectsBusy ∧
      (∃ final, (sendingSystem 0).run initial connectsBusy = some final ∧
        (final.world.sock 0).msgBufferQueue.length = 2 ∧
        final.registration 0 = some ⟨0, .sock 0⟩ ∧ final.waits 0 = [] ∧ ¬final.Wakes 0) ∧
      ¬(sendingSystem 0).Always (fun state => state.Wakes 0) initial connectsBusy := by
  have computed : ((sendingSystem 0).run initial connectsBusy).any (fun final =>
      decide ((final.world.sock 0).msgBufferQueue.length = 2 ∧
        final.registration 0 = some ⟨0, .sock 0⟩ ∧ final.waits 0 = [] ∧
        ¬final.Wakes 0)) = true := by
    decide +kernel
  obtain ⟨final, execution, reached⟩ := (Option.any_eq_true _ _).mp computed
  obtain ⟨queue, registered, waits, lost⟩ := of_decide_eq_true reached
  have undisturbed : (sendingSystem 0).Guarded (fun state => state.Undisturbed 0) initial
      connectsBusy := by
    refine guarded_of_forall (fun label member state => ?_) initial
    cases label with
    | elsewhere r => simp [connectsBusy, connects, drains] at member
    | _ => trivial
  refine ⟨fresh_initial, by decide +kernel, undisturbed,
    ⟨final, execution, queue, registered, waits, lost⟩, fun always => lost ?_⟩
  exact always connectsBusy final (List.prefix_refl _) execution

end Sending

end Klibmsg
