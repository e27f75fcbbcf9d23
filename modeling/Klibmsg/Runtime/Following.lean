import Klibmsg.Runtime.Raising

/-!
# What follows a raise

An event that is raised stays in flight until a thread drains the context that it was raised in, or
has been handed over to the machine that it was raised to.  A thread that is there needs no help
from the others: its own next steps deliver the events that it finds.  The owner therefore gets
every event, as long as no step raises one that is still in flight.
-/

namespace Klibmsg

open StepSystem QueueFamily

/-! ## The raises of a step -/

section Raises

variable {r r' : Runtime} {label : RuntimeLabel SocketCall}

theorem Runtime.absent_iff_filter {events : List EventId} (select : EventId → Bool) :
    r.Absent events ↔
      r.Absent (events.filter select) ∧ r.Absent (events.filter fun event => !select event) := by
  constructor
  · intro absent
    have part (select : EventId → Bool) : r.Absent (events.filter select) :=
      ⟨absent.nodup.filter _, fun event member =>
        absent.outside event (List.mem_of_mem_filter member)⟩
    exact ⟨part _, part _⟩
  · intro both
    constructor
    · rw [List.nodup_iff_count_le_one]
      intro event
      cases chosen : select event with
      | true =>
          rw [← List.count_filter (p := select) chosen]
          exact List.nodup_iff_count_le_one.mp both.1.nodup event
      | false =>
          have other : (!select event) = true := by simp [chosen]
          rw [← List.count_filter (p := fun event => !select event) other]
          exact List.nodup_iff_count_le_one.mp both.2.nodup event
    · intro event member
      cases chosen : select event with
      | true => exact both.1.outside event (List.mem_filter.mpr ⟨member, chosen⟩)
      | false => exact both.2.outside event (List.mem_filter.mpr ⟨member, by simp [chosen]⟩)

/-- Nothing that happened is taken back. -/
theorem RuntimeStep.grows (step : RuntimeStep socketOwner r label r') :
    r.world.trace <+: r'.world.trace := by
  cases step with
  | call called =>
      have steps : SocketSteps .all r.world _ := SocketCall.run_steps (fun _ _ => trivial) called
      exact steps.grows
  | @enter k sys body ctx rest w top context free ran =>
      cases body with
      | task task =>
          have steps : SocketSteps .all r.world w := feedTask_steps ran
          exact steps.grows
      | fd x pevent =>
          have steps : SocketSteps .all r.world w := feedFd_steps ran
          exact steps.grows
      | event event =>
          obtain rfl := socketOwner_takes ran
          exact List.prefix_append _ _
  | process top processed =>
      obtain rfl := socketOwner_takes processed
      exact List.prefix_append _ _
  | poll | snapshot | pop | popEvent | leave | finish | external => exact List.prefix_rfl

theorem transfers_takeEvent (w : World) (event : EventId) :
    transfers (w.takeEvent event).trace = transfers w.trace := by
  simp [World.takeEvent, World.setEvent, transfers, raisedIn, Effect.raisedEvent]

/-- A step announces one transfer at most, and from a context that nobody is inside. -/
theorem RuntimeStep.announces (step : RuntimeStep socketOwner r label r') :
    transfers r'.world.trace = transfers r.world.trace ∨
      ∃ event : EventId, event.isTransfer = true ∧ r.locked event.sock = false ∧
        transfers r'.world.trace = transfers r.world.trace ++ [event] := by
  have fed {sys : Sys} (body : Body) {x : SockId} {src type : Int} {w : World}
      (fed : body.fed = some (x, src, type)) (free : r.locked x = false)
      (ran : feed sys x src type r.world = .ok w) :
      transfers w.trace = transfers r.world.trace ∨
        ∃ event : EventId, event.isTransfer = true ∧ r.locked event.sock = false ∧
          transfers w.trace = transfers r.world.trace ++ [event] := by
    obtain same | ⟨_, middle, name, kind, srcptr, _, before, transfer, rfl⟩ :=
      (feed_run (Body.fed_not_stop fed) ran).announces (unannounced_nested sys)
    · exact .inl same
    · exact .inr ⟨⟨x, name⟩, transfer, free, by simp [transfer, before]⟩
  cases step with
  | call called => exact .inl (SocketCall.run_callRun called).unannounced
  | @enter k sys body ctx rest w top context free ran =>
      cases body with
      | task task =>
          cases context
          exact fed (.task task) rfl free ran
      | fd x pevent =>
          cases context
          exact fed (.fd _ pevent) rfl free ran
      | event event =>
          obtain rfl := socketOwner_takes ran
          exact .inl (transfers_takeEvent _ _)
  | process top processed =>
      obtain rfl := socketOwner_takes processed
      exact .inl (transfers_takeEvent _ _)
  | poll | snapshot | pop | popEvent | leave | finish | external => exact .inl rfl

/-- Whether a step overwrites an event is decided by the raises of the table. -/
theorem RuntimeStep.absent_iff (step : RuntimeStep socketOwner r label r')
    (announced : ∀ event, event.isTransfer = true → Announced event r) :
    r.Absent (raisedIn (r'.world.since r.world)) ↔ r.Absent (r.raises label) := by
  have grown := World.since_spec step.grows
  have noted : notices (r'.world.since r.world) = r.raises label := by
    have notes := step.notes
    rw [grown, notices_append] at notes
    exact List.append_cancel_left notes
  have said : r.Absent (transfers (r'.world.since r.world)) := by
    obtain same | ⟨event, transfer, free, said⟩ := step.announces
    · rw [grown, transfers_append, List.append_right_eq_self] at same
      rw [same]
      exact ⟨List.nodup_nil, by rintro _ ⟨⟩⟩
    · rw [grown, transfers_append] at said
      rw [List.append_cancel_left said]
      refine ⟨List.nodup_singleton event, fun other member => ?_⟩
      obtain rfl := List.mem_singleton.mp member
      obtain ⟨_, nowhere, _⟩ := (announced other transfer).settled_of_free free
      rintro ⟨place, here⟩
      exact List.count_eq_zero.mp (nowhere place) here
  rw [Runtime.absent_iff_filter EventId.isTransfer]
  constructor
  · intro both
    rw [← noted]
    exact both.2
  · intro absent
    rw [← noted] at absent
    exact ⟨said, absent⟩

end Raises

/-! ## Where a raised event goes -/

/-- An event that was raised knows its machine. -/
def World.Addressed (w : World) : Prop :=
  ∀ event, raisesOf event w.trace ≠ [] → (w.eventAt event).fsm = some event.sock

theorem raisesOf_takeEvent (w : World) (event other : EventId) :
    raisesOf other (w.takeEvent event).trace = raisesOf other w.trace := by
  simp [World.takeEvent, World.setEvent, raisesOf, Effect.raiseOf]

namespace World.Addressed

variable {w w' : World}

theorem of_quiet (addressed : w.Addressed) (quiet : World.Quiet w w') : w'.Addressed := by
  intro event raised
  have stored : w'.eventAt event = w.eventAt event :=
    congrFun (congrFun (congrArg EventView.event quiet.view_eq) event.sock) event.name
  have same : raisesOf event w'.trace = raisesOf event w.trace :=
    quiet.filterMap_eq fun effect silent => by cases effect <;> first | rfl | cases silent
  rw [stored]
  exact addressed event (same ▸ raised)

theorem of_raise (addressed : w.Addressed) {event : EventId} {payload : Payload} {queued : Bool}
    (stored : ∀ other, w'.eventAt other =
      if other = event then ⟨some event.sock, payload, queued⟩ else w.eventAt other)
    (grown : w'.trace = w.trace ++ [.raise event payload]) : w'.Addressed := by
  intro other raised
  rw [stored]
  split
  next same => rw [same]
  next different =>
    refine addressed other ?_
    simpa [grown, raisesOf, Effect.raiseOf, Ne.symm different] using raised

theorem of_steps {may : Entitled} (addressed : w.Addressed) (steps : SocketSteps may w w') :
    w'.Addressed := by
  induction steps with
  | refl => exact addressed
  | tail _ step ih =>
      obtain quiet | ⟨x, name, type, srcptr, _, rfl⟩ | ⟨x, dst, name, src, type, srcptr, _, rfl⟩ :=
        step.quiet_or_raised
      · exact ih.of_quiet quiet
      · exact ih.of_raise World.eventAt_raise (World.trace_raise _ _ _ _ _)
      · exact ih.of_raise World.eventAt_raiseTo (World.trace_raiseTo _ _ _ _ _ _ _)

/-- Only a raise changes the machine of an event. -/
theorem of_fsm (addressed : w.Addressed)
    (fsm : ∀ event, (w'.eventAt event).fsm = (w.eventAt event).fsm)
    (raises : ∀ event, raisesOf event w'.trace = raisesOf event w.trace) : w'.Addressed := by
  intro event raised
  rw [fsm]
  exact addressed event (raises event ▸ raised)

theorem unqueueEvent (addressed : w.Addressed) (event : EventId) :
    (w.unqueueEvent event).Addressed := by
  refine addressed.of_fsm (fun other => ?_) fun _ => rfl
  rw [World.unqueueEvent, World.eventAt_setEvent]
  split
  next same => rw [same]
  next => rfl

theorem setEvents (addressed : w.Addressed) (ctx : SockId) (events : List EventId) :
    (w.setEvents ctx events).Addressed :=
  addressed.of_fsm (fun other => by rw [World.setEvents, World.eventAt_setCtx]) fun _ => rfl

theorem clearEventsto (addressed : w.Addressed) (ctx : SockId) :
    (w.clearEventsto ctx).Addressed :=
  addressed.of_fsm (fun other => by rw [World.clearEventsto, World.eventAt_setCtx]) fun _ => rfl

theorem takeEvent (addressed : w.Addressed) (event : EventId) : (w.takeEvent event).Addressed := by
  refine addressed.of_fsm (fun other => ?_) (raisesOf_takeEvent w event)
  rw [World.takeEvent, World.eventAt_setEvent]
  split
  next same => rw [same]; rfl
  next => rfl

end World.Addressed

/-- Socket code deletes no socket. -/
theorem SocketSteps.freed_eq {may : Entitled} {w w' : World} (steps : SocketSteps may w w') :
    w'.freed = w.freed := by
  induction steps with
  | refl => rfl
  | tail _ step ih =>
      rw [← ih]
      obtain quiet | ⟨x, name, type, srcptr, _, rfl⟩ | ⟨x, dst, name, src, type, srcptr, _, rfl⟩ :=
        step.quiet_or_raised
      · exact congrArg EventView.freed quiet.view_eq
      · obtain ⟨sock, trace, others⟩ := World.raise_others _ x name type srcptr
        rw [others]
      · rw [World.raiseTo, World.ctxRaiseTo]
        split <;> rfl

/-- What is known of the process as long as no event is overwritten. -/
structure Runtime.Orderly (r : Runtime) : Prop where
  locking : r.Locking
  announced : ∀ event, event.isTransfer = true → Announced event r
  addressed : r.world.Addressed
  alive : r.world.freed = []
  delivers : Delivers r.world r.thread

namespace Runtime.Orderly

variable {r r' : Runtime} {label : RuntimeLabel SocketCall} {k : WorkerId} {ctx : SockId}
  {event : EventId} {rest : List Frame} {sys : Sys}

theorem of_fresh (fresh : r.Fresh) (alive : r.world.freed = []) : r.Orderly where
  locking := .of_idle fun k => congrArg Thread.frames (fresh.thread k)
  announced event _ := .of_fresh fresh event
  addressed event raised := by simp [fresh.trace, raisesOf] at raised
  alive := alive
  delivers := fresh.delivers

/-- Every step keeps all of it, unless it overwrites an event. -/
theorem step (orderly : r.Orderly) (step : RuntimeStep socketOwner r label r')
    (delivers : Delivers r'.world r'.thread) : r'.Orderly := by
  have code {w' : World} (steps : SocketSteps .all r.world w') :
      w'.Addressed ∧ w'.freed = [] :=
    ⟨orderly.addressed.of_steps steps, steps.freed_eq.trans orderly.alive⟩
  have same : r'.world.Addressed ∧ r'.world.freed = [] := by
    cases step with
    | call called => exact code (SocketCall.run_steps (fun _ _ => trivial) called)
    | poll | finish => exact ⟨orderly.addressed, orderly.alive⟩
    | snapshot =>
        exact ⟨orderly.addressed.of_quiet ⟨r.world.view_modifyWorker _ _, List.prefix_rfl⟩,
          orderly.alive⟩
    | @pop k task tasks idle front =>
        have quiet : World.Quiet r.world (r.world.unqueueTask task) :=
          ⟨r.world.view_modify _ _ rfl rfl rfl, List.prefix_rfl⟩
        exact ⟨orderly.addressed.of_quiet quiet, orderly.alive⟩
    | @enter k sys body ctx rest w top context free ran =>
        cases body with
        | task task => exact code (feedTask_steps ran)
        | fd x pevent => exact code (feedFd_steps ran)
        | event event =>
            obtain rfl := socketOwner_takes ran
            exact ⟨orderly.addressed.takeEvent event, orderly.alive⟩
    | popEvent => exact ⟨(orderly.addressed.setEvents _ _).unqueueEvent _, orderly.alive⟩
    | leave => exact ⟨orderly.addressed.clearEventsto _, orderly.alive⟩
    | process top processed =>
        obtain rfl := socketOwner_takes processed
        exact ⟨orderly.addressed.takeEvent _, orderly.alive⟩
    | external => exact ⟨orderly.addressed.unqueueEvent _, orderly.alive⟩
  exact ⟨orderly.locking.step step, fun event transfer =>
    (orderly.announced event transfer).step orderly.locking transfer step, same.1, same.2, delivers⟩

/-- An event that is under way knows its machine. -/
theorem fsm_eq (orderly : r.Orderly) (flying : r.InFlight event) :
    (r.world.eventAt event).fsm = some event.sock :=
  orderly.addressed event (by rw [orderly.delivers.waiting flying]; simp)

theorem deliveries_le (orderly : r.Orderly) (event : EventId) :
    (deliveriesOf event r.world.trace).length ≤ (raisesOf event r.world.trace).length := by
  by_cases flying : r.InFlight event
  · rw [orderly.delivers.waiting flying, List.length_append]
    omega
  · rw [orderly.delivers.settled flying]

/-! ## Draining -/

theorem popEvent_step (orderly : r.Orderly) {events : List EventId} (sys : Sys)
    (top : (r.thread k).frames = .drain ctx :: rest)
    (front : (r.world.sock ctx).ctx.events = event :: events) :
    socketOwner.step r (.advance k sys) =
      some { r.setFrames k (.process ctx event :: rest) with
        world := (r.world.setEvents ctx events).unqueueEvent event } := by
  simp only [Owner.step, Owner.advance, top, front, orderly.alive, List.not_mem_nil, if_false]

theorem process_ok (orderly : r.Orderly) (sys : Sys) (flying : r.InFlight event) :
    socketOwner.process sys event r.world = .ok (r.world.takeEvent event) := by
  simp only [Owner.process, orderly.alive, List.not_mem_nil, if_false, orderly.fsm_eq flying]
  rfl

theorem process_step (orderly : r.Orderly) (sys : Sys)
    (top : (r.thread k).frames = .process ctx event :: rest) :
    socketOwner.step r (.advance k sys) =
      some { r.setFrames k (.drain ctx :: rest) with world := r.world.takeEvent event } := by
  have flying : r.InFlight event := ⟨.thread k, by simp [places, top, Frame.held]⟩
  simp only [Owner.step, Owner.advance, top, orderly.process_ok sys flying]
  rfl

/-- The owner is fed everything that was raised of an event once a thread takes it. -/
theorem deliveriesOf_takeEvent (orderly : r.Orderly) (flying : r.InFlight event) :
    deliveriesOf event (r.world.takeEvent event).trace = raisesOf event r.world.trace := by
  rw [orderly.delivers.waiting flying]
  simp [World.takeEvent, World.setEvent, deliveriesOf, Effect.deliveryOf]

/-- Later steps take no delivery back, and what is complete stays complete. -/
theorem deliveriesOf_later (orderly : r'.Orderly) {labels : List (RuntimeLabel SocketCall)}
    (execution : socketOwner.system.run r labels = some r')
    (raises : raisesOf event r'.world.trace = raisesOf event r.world.trace)
    (complete : deliveriesOf event r.world.trace = raisesOf event r.world.trace) :
    deliveriesOf event r'.world.trace = raisesOf event r.world.trace := by
  have further (before : Runtime) (label : RuntimeLabel SocketCall) (after : Runtime)
      (grown : r.world.trace <+: before.world.trace)
      (stepped : socketOwner.system.step before label = some after) :
      r.world.trace <+: after.world.trace :=
    grown.trans (Owner.step_runtimeStep stepped).grows
  have kept : deliveriesOf event r.world.trace <+: deliveriesOf event r'.world.trace :=
    (run_invariant further List.prefix_rfl execution).filterMap _
  have limit := orderly.deliveries_le event
  rw [raises, ← complete] at limit
  rw [← kept.eq_of_length_le limit, complete]

/-- A thread that drains a context delivers the events that are queued there, by two steps of its
own for each of them. -/
theorem drains (sys : Sys) (events : List EventId) (orderly : r.Orderly)
    (top : (r.thread k).frames = .drain ctx :: rest)
    (front : (r.world.sock ctx).ctx.events = events) :
    ∃ r', socketOwner.system.run r (List.replicate (2 * events.length) (.advance k sys)) =
        some r' ∧
      r'.Orderly ∧ (r'.thread k).frames = .drain ctx :: rest ∧
      (r'.world.sock ctx).ctx = ⟨[], (r.world.sock ctx).ctx.eventsto⟩ ∧
      (∀ event, raisesOf event r'.world.trace = raisesOf event r.world.trace) ∧
      ∀ event ∈ events, deliveriesOf event r'.world.trace = raisesOf event r.world.trace := by
  induction events generalizing r with
  | nil => exact ⟨r, rfl, orderly, top, by rw [← front], fun _ => rfl, by rintro _ ⟨⟩⟩
  | cons event events ih =>
      have popping := orderly.popEvent_step sys top front
      have popped := orderly.step (Owner.step_runtimeStep popping)
        (orderly.delivers.popEvent top front)
      have turned : ((r.setFrames k (.process ctx event :: rest)).thread k).frames =
          .process ctx event :: rest := by simp [Runtime.setFrames]
      have processing := popped.process_step sys turned
      have flying : Runtime.InFlight { r.setFrames k (.process ctx event :: rest) with
          world := (r.world.setEvents ctx events).unqueueEvent event } event :=
        ⟨.thread k, by simp [places, turned, Frame.held]⟩
      have processed := popped.step (Owner.step_runtimeStep processing)
        (popped.delivers.processed turned rfl rfl rfl rfl (popped.process_ok sys flying)).2
      have complete := popped.deliveriesOf_takeEvent flying
      have queues : ((((r.world.setEvents ctx events).unqueueEvent event).takeEvent event).sock
          ctx).ctx = ⟨events, (r.world.sock ctx).ctx.eventsto⟩ := by
        simp [World.takeEvent, World.unqueueEvent, World.setEvents]
      have external : ((((r.world.setEvents ctx events).unqueueEvent event).takeEvent event).sock
          ctx).ctx.eventsto = (r.world.sock ctx).ctx.eventsto := by rw [queues]
      obtain ⟨r', execution, orderly', top', emptied, raises, delivered⟩ :=
        ih processed (by simp [Runtime.setFrames]) (congrArg NetCtx.events queues)
      have same := raisesOf_takeEvent ((r.world.setEvents ctx events).unqueueEvent event) event
      refine ⟨r', ?_, orderly', top', ?_, fun other => (raises other).trans (same other),
        fun other member => ?_⟩
      · rw [List.length_cons, Nat.mul_succ, List.replicate_succ, List.replicate_succ]
        exact run_cons_eq_some.mpr ⟨_, popping, run_cons_eq_some.mpr ⟨_, processing, execution⟩⟩
      · exact emptied.trans (congrArg (NetCtx.mk []) external)
      · obtain rfl | later := List.mem_cons.mp member
        · exact (orderly'.deliveriesOf_later execution (raises other)
            (complete.trans (same other).symm)).trans (same other)
        · exact (delivered other later).trans (same other)

/-- A thread feeds the owner the event that it is about to process. -/
theorem processes (sys : Sys) (orderly : r.Orderly)
    (top : (r.thread k).frames = .process ctx event :: rest) :
    ∃ r', socketOwner.step r (.advance k sys) = some r' ∧
      deliveriesOf event r'.world.trace = raisesOf event r.world.trace :=
  ⟨_, orderly.process_step sys top,
    orderly.deliveriesOf_takeEvent ⟨.thread k, by simp [places, top, Frame.held]⟩⟩

/-- So it does when it enters the context of an event that was handed over. -/
theorem enters (sys : Sys) (orderly : r.Orderly)
    (top : (r.thread k).frames = .enter (.event event) :: rest)
    (free : r.locked event.sock = false) :
    ∃ r', socketOwner.step r (.advance k sys) = some r' ∧
      deliveriesOf event r'.world.trace = raisesOf event r.world.trace := by
  have flying : r.InFlight event := ⟨.thread k, by simp [places, top, Frame.held]⟩
  refine ⟨{ r.setFrames k (.drain event.sock :: rest) with world := r.world.takeEvent event }, ?_,
    orderly.deliveriesOf_takeEvent flying⟩
  simp only [Owner.step, Owner.advance, top, Owner.context, orderly.fsm_eq flying,
    orderly.alive, free, List.not_mem_nil, Bool.false_eq_true, or_self, if_false, Owner.runBody,
    orderly.process_ok sys flying]
  rfl

/-- A thread turns to the events that were handed over to it. -/
theorem turns (sys : Sys) (orderly : r.Orderly) {events : List EventId}
    (top : (r.thread k).frames = .external (event :: events) :: rest) :
    ∃ r', socketOwner.step r (.advance k sys) = some r' ∧ r'.Orderly ∧
      (r'.thread k).frames = .enter (.event event) :: .external events :: rest ∧
      r'.world.trace = r.world.trace := by
  have turning : socketOwner.step r (.advance k sys) =
      some { r.setFrames k (.enter (.event event) :: .external events :: rest) with
        world := r.world.unqueueEvent event } := by
    simp only [Owner.step, Owner.advance, top, orderly.alive, List.not_mem_nil, if_false]
  exact ⟨_, turning, orderly.step (Owner.step_runtimeStep turning) (orderly.delivers.external top),
    by simp [Runtime.setFrames], rfl⟩

/-- A thread that has emptied the queue of a context leaves it with the external events. -/
theorem leaves (sys : Sys) (orderly : r.Orderly) {eventsto : List EventId}
    (top : (r.thread k).frames = .drain ctx :: rest)
    (emptied : (r.world.sock ctx).ctx = ⟨[], eventsto⟩) :
    ∃ r', socketOwner.step r (.advance k sys) = some r' ∧
      (r'.thread k).frames = .external eventsto :: rest ∧ r'.world.trace = r.world.trace := by
  refine ⟨{ r.setFrames k (.external eventsto :: rest) with world := r.world.clearEventsto ctx },
    ?_, by simp [Runtime.setFrames], rfl⟩
  simp only [Owner.step, Owner.advance, top, orderly.alive, List.not_mem_nil, if_false, emptied]

end Runtime.Orderly

/-! ## Runs -/

/-- The owner is fed the raises of every event, in order and as they were made.  What is in flight
is delivered as soon as a thread drains the context that it was raised in, and what was handed over
as soon as the context of its own machine is free. -/
structure Runtime.Delivered (r : Runtime) : Prop extends r.Accounted where
  /-- A thread that drains a context delivers the events queued there and leaves it, on its own. -/
  drained : ∀ k sys ctx rest, (r.thread k).frames = .drain ctx :: rest →
    ∃ r', socketOwner.system.run r (List.replicate (2 * (r.world.sock ctx).ctx.events.length + 1)
        (.advance k sys)) = some r' ∧
      (r'.thread k).frames = .external (r.world.sock ctx).ctx.eventsto :: rest ∧
      ∀ event ∈ (r.world.sock ctx).ctx.events,
        deliveriesOf event r'.world.trace = raisesOf event r.world.trace
  processed : ∀ k sys ctx event rest, (r.thread k).frames = .process ctx event :: rest →
    ∃ r', socketOwner.step r (.advance k sys) = some r' ∧
      deliveriesOf event r'.world.trace = raisesOf event r.world.trace
  /-- A thread turns to the next event that was handed over to it. -/
  turned : ∀ k sys event events rest,
    (r.thread k).frames = .external (event :: events) :: rest →
      ∃ r', socketOwner.step r (.advance k sys) = some r' ∧
        (r'.thread k).frames = .enter (.event event) :: .external events :: rest
  entered : ∀ k sys event rest, (r.thread k).frames = .enter (.event event) :: rest →
    r.locked event.sock = false →
      ∃ r', socketOwner.step r (.advance k sys) = some r' ∧
        deliveriesOf event r'.world.trace = raisesOf event r.world.trace

/-- By the states of the machines and the answers of the operating system, a step raises no event
twice and none that is in flight before it. -/
def RaisesAbsent (r : Runtime) (label : RuntimeLabel SocketCall) : Prop :=
  r.Absent (r.raises label)

theorem Runtime.Orderly.delivered {r : Runtime} (orderly : r.Orderly) : r.Delivered where
  toAccounted := orderly.delivers.accounted
  drained k sys ctx rest top := by
    obtain ⟨middle, draining, orderly', top', emptied, raises, delivered⟩ :=
      orderly.drains sys _ top rfl
    obtain ⟨r', leaving, left, same⟩ := orderly'.leaves sys top' emptied
    refine ⟨r', ?_, left, fun event member => ?_⟩
    · rw [List.replicate_succ']
      exact run_concat_eq_some.mpr ⟨middle, draining, leaving⟩
    · rw [same]
      exact delivered event member
  processed k sys ctx event rest top := orderly.processes sys top
  turned k sys event events rest top := by
    obtain ⟨r', turning, _, frames, _⟩ := orderly.turns sys top
    exact ⟨r', turning, frames⟩
  entered k sys event rest top free := orderly.enters sys top free

/-- In every run, each raise is delivered once and as it was made if and only if no step raises an
event twice or while it is in flight. -/
theorem delivered_iff_raises_absent {initial final : Runtime}
    {labels : List (RuntimeLabel SocketCall)} (fresh : initial.Fresh)
    (alive : initial.world.freed = [])
    (execution : socketOwner.system.run initial labels = some final) :
    socketOwner.system.Always Runtime.Delivered initial labels ↔
      socketOwner.system.Guarded RaisesAbsent initial labels := by
  refine always_iff_guarded (fun _ orderly => Runtime.Orderly.delivered orderly) ?_
    (.of_fresh fresh alive) execution
  intro before label after orderly stepped
  have step := Owner.step_runtimeStep stepped
  have decided := step.absent_iff orderly.announced
  obtain ⟨kept, needed⟩ := orderly.delivers.step step
  exact ⟨fun absent => orderly.step step (kept (decided.mpr absent)), fun delivered =>
    decided.mp (needed delivered.toAccounted)⟩

/-- Socket 1 is started and stopped, and no task is queued. -/
def stoppedLabels : List (RuntimeLabel SocketCall) :=
  [.call { socket := .fd 3 } (.start 1), .call {} (.stop 1)]

/-- A message is sent nevertheless, and its task makes a worker drain the context. -/
def drainedLabels : List (RuntimeLabel SocketCall) :=
  stoppedLabels ++ [.call {} (.asyncSendMsg 1 .new)] ++ executeTask

/-- The stop is announced to the owner when a worker next drains the context, and not before. -/
theorem delivered_iff_raises_absent_stopped :
    ∃ stopped final, socketOwner.system.run default stoppedLabels = some stopped ∧
      socketOwner.system.run default drainedLabels = some final ∧
      raisesOf ⟨1, .stopped⟩ stopped.world.trace = [⟨0, kNetSockEventTypeStopped, .null⟩] ∧
      deliveriesOf ⟨1, .stopped⟩ stopped.world.trace = [] ∧
      deliveriesOf ⟨1, .stopped⟩ final.world.trace = [⟨0, kNetSockEventTypeStopped, .null⟩] ∧
      (socketOwner.system.Always Runtime.Delivered default drainedLabels ↔
        socketOwner.system.Guarded RaisesAbsent default drainedLabels) := by
  have concrete : ∃ stopped final, socketOwner.system.run default stoppedLabels = some stopped ∧
      socketOwner.system.run default drainedLabels = some final ∧
      raisesOf ⟨1, .stopped⟩ stopped.world.trace = [⟨0, kNetSockEventTypeStopped, .null⟩] ∧
      deliveriesOf ⟨1, .stopped⟩ stopped.world.trace = [] ∧
      deliveriesOf ⟨1, .stopped⟩ final.world.trace = [⟨0, kNetSockEventTypeStopped, .null⟩] :=
    ⟨_, _, rfl, rfl, rfl, rfl, rfl⟩
  obtain ⟨stopped, final, stopping, execution, raises, waiting, delivered⟩ := concrete
  exact ⟨stopped, final, stopping, execution, raises, waiting, delivered,
    delivered_iff_raises_absent Runtime.fresh_default rfl execution⟩

/-- The connection is refused, and the user stops the socket before any worker has drained its
context. -/
def refusedLabels : List (RuntimeLabel SocketCall) :=
  [.call { socket := .fd 3 } (.start 1), .call { connect := ECONNRESET } (.connect 1),
    .call {} (.asyncStop 1)] ++ executeTask

/-- The error is never delivered: the shutdown has taken its place. -/
theorem error_overwritten_by_shutdown :
    ∃ final, socketOwner.system.run default refusedLabels = some final ∧
      raisesOf ⟨1, .error⟩ final.world.trace =
        [⟨0, kNetSockEventTypeError, .sock 1⟩, ⟨0, kNetSockEventTypeShutdown, .sock 1⟩] ∧
      deliveriesOf ⟨1, .error⟩ final.world.trace = [⟨0, kNetSockEventTypeShutdown, .sock 1⟩] ∧
      ¬socketOwner.system.Always Runtime.Delivered default refusedLabels := by
  have concrete : ∃ final, socketOwner.system.run default refusedLabels = some final ∧
      raisesOf ⟨1, .error⟩ final.world.trace =
        [⟨0, kNetSockEventTypeError, .sock 1⟩, ⟨0, kNetSockEventTypeShutdown, .sock 1⟩] ∧
      deliveriesOf ⟨1, .error⟩ final.world.trace = [⟨0, kNetSockEventTypeShutdown, .sock 1⟩] :=
    ⟨_, rfl, rfl, rfl⟩
  obtain ⟨final, execution, raises, deliveries⟩ := concrete
  refine ⟨final, execution, raises, deliveries, fun always => ?_⟩
  have delivered := always refusedLabels final List.prefix_rfl execution
  by_cases flying : final.InFlight ⟨1, .error⟩
  · have equal := delivered.waiting _ flying
    rw [raises, deliveries] at equal
    simp [kNetSockEventTypeError, kNetSockEventTypeShutdown] at equal
  · have equal := delivered.settled _ flying
    rw [raises, deliveries] at equal
    simp at equal

end Klibmsg
