import Klibmsg.Runtime

/-!
# Raised events and their delivery

`Raise` overwrites the fields of an event object before the queue ignores an item that is queued
already, and `Process` reads the fields some steps after the item was popped.  A raise of an object
that is in flight therefore destroys the earlier one.  As long as no step does that, the deliveries
of every object are its raises, in order, without the one that is in flight.
-/

namespace Klibmsg

open StepSystem QueueFamily

/-- The payload, when the effect raises the event. -/
def Effect.raiseOf (event : EventId) : Effect → Option Payload
  | raise other payload => if other = event then some payload else none
  | _ => none

/-- The payload, when the effect delivers the event. -/
def Effect.deliveryOf (event : EventId) : Effect → Option Payload
  | deliver other payload => if other = event then some payload else none
  | _ => none

/-- The event, when the effect raises one. -/
def Effect.raisedEvent : Effect → Option EventId
  | raise event _ => some event
  | _ => none

/-- The raises of an event, in order. -/
def raisesOf (event : EventId) (trace : List Effect) : List Payload :=
  trace.filterMap (Effect.raiseOf event)

/-- The deliveries of an event to the owner, in order. -/
def deliveriesOf (event : EventId) (trace : List Effect) : List Payload :=
  trace.filterMap (Effect.deliveryOf event)

/-- The events that are raised in a part of the trace, in order. -/
def raisedIn (trace : List Effect) : List EventId := trace.filterMap Effect.raisedEvent

/-- The lists that hold events on their way to the owner. -/
inductive Place where
  | events (ctx : SockId)
  | eventsto (ctx : SockId)
  | thread (k : WorkerId)
deriving DecidableEq

/-- The events that a frame has taken out of the queues of a context. -/
def Frame.held : Frame → List EventId
  | enter (.event event) => [event]
  | enter _ => []
  | drain _ => []
  | process _ event => [event]
  | external events => events

/-- The event that a frame has popped and not processed. -/
def Frame.popped : Frame → List EventId
  | enter (.event event) => [event]
  | enter _ => []
  | drain _ => []
  | process _ event => [event]
  | external _ => []

/-- Some thread has popped the event and not processed it. -/
def Popped (thread : WorkerId → Thread) (event : EventId) : Prop :=
  ∃ k, ∃ frame ∈ (thread k).frames, event ∈ frame.popped

/-- The events at every place. -/
def places (w : World) (thread : WorkerId → Thread) : Place → List EventId
  | .events ctx => (w.sock ctx).ctx.events
  | .eventsto ctx => (w.sock ctx).ctx.eventsto
  | .thread k => (thread k).frames.flatMap Frame.held

/-- The event is queued, or popped and not processed. -/
def Runtime.InFlight (r : Runtime) (event : EventId) : Prop :=
  Present (places r.world r.thread) event

section Places

variable (w : World) (thread : WorkerId → Thread)

@[simp]
theorem places_setEvent (event : EventId) (change : NetFsmEvent → NetFsmEvent) :
    places (w.setEvent event change) thread = places w thread := by
  funext place
  cases place <;> simp [places]

/-- Changing the internal events of a context. -/
theorem places_setCtx_events (x : SockId) {change : NetCtx → NetCtx}
    (same : (change (w.sock x).ctx).eventsto = (w.sock x).ctx.eventsto) :
    places (w.setCtx x change) thread =
      Function.update (places w thread) (.events x) (change (w.sock x).ctx).events := by
  funext place
  cases place with
  | events y =>
      by_cases equal : y = x
      · subst equal
        simp [places, World.ctx_setCtx]
      · rw [Function.update_of_ne (by simpa using equal)]
        simp [places, World.ctx_setCtx, equal]
  | eventsto y =>
      rw [Function.update_of_ne (by simp)]
      simp only [places, World.ctx_setCtx]
      split
      · next equal => rw [same, equal]
      · rfl
  | thread k => rw [Function.update_of_ne (by simp)]; rfl

/-- Changing the external events of a context. -/
theorem places_setCtx_eventsto (x : SockId) {change : NetCtx → NetCtx}
    (same : (change (w.sock x).ctx).events = (w.sock x).ctx.events) :
    places (w.setCtx x change) thread =
      Function.update (places w thread) (.eventsto x) (change (w.sock x).ctx).eventsto := by
  funext place
  cases place with
  | eventsto y =>
      by_cases equal : y = x
      · subst equal
        simp [places, World.ctx_setCtx]
      · rw [Function.update_of_ne (by simpa using equal)]
        simp [places, World.ctx_setCtx, equal]
  | events y =>
      rw [Function.update_of_ne (by simp)]
      simp only [places, World.ctx_setCtx]
      split
      · next equal => rw [same, equal]
      · rfl
  | thread k => rw [Function.update_of_ne (by simp)]; rfl

end Places

/-! ## Traces -/

section Traces

variable {event : EventId} (left right : List Effect)

@[simp]
theorem raisesOf_append :
    raisesOf event (left ++ right) = raisesOf event left ++ raisesOf event right :=
  List.filterMap_append

@[simp]
theorem deliveriesOf_append :
    deliveriesOf event (left ++ right) = deliveriesOf event left ++ deliveriesOf event right :=
  List.filterMap_append

@[simp]
theorem raisedIn_append : raisedIn (left ++ right) = raisedIn left ++ raisedIn right :=
  List.filterMap_append

/-- Only loud effects concern an event. -/
theorem filterMap_loud {β : Type} {select : Effect → Option β}
    (silent : ∀ effect, effect.isLoud = false → select effect = none) (trace : List Effect) :
    (trace.filter Effect.isLoud).filterMap select = trace.filterMap select := by
  induction trace with
  | nil => rfl
  | cons effect trace ih =>
      cases loud : effect.isLoud with
      | true => rw [List.filter_cons_of_pos loud, List.filterMap_cons, List.filterMap_cons, ih]
      | false => simp [loud, ih, silent effect loud]

theorem World.Quiet.filterMap_eq {β : Type} {select : Effect → Option β} {w w' : World}
    (quiet : Quiet w w') (silent : ∀ effect, effect.isLoud = false → select effect = none) :
    w'.trace.filterMap select = w.trace.filterMap select := by
  have loud : w'.trace.filter Effect.isLoud = w.trace.filter Effect.isLoud :=
    congrArg EventView.loud quiet.view_eq
  rw [← filterMap_loud silent, loud, filterMap_loud silent]

theorem raisesOf_length (trace : List Effect) :
    (raisesOf event trace).length = (raisedIn trace).count event := by
  induction trace with
  | nil => rfl
  | cons effect trace ih =>
      rw [← List.singleton_append, raisesOf_append, raisedIn_append, List.length_append,
        List.count_append, ih]
      congr 1
      cases effect with
      | raise other payload =>
          by_cases same : other = event
          · simp [raisesOf, raisedIn, Effect.raiseOf, Effect.raisedEvent, same]
          · simp [raisesOf, raisedIn, Effect.raiseOf, Effect.raisedEvent, same]
      | sys _ | execute _ | deliver _ _ | sendCallback _ => rfl

end Traces

/-! ## What a raise does -/

section Raise

variable {w : World} {x dst : SockId} {name : EventName} {src type : Int} {srcptr : Pointer}

theorem places_raise (thread : WorkerId → Thread)
    (free : (w.eventAt ⟨x, name⟩).inQueue = false) :
    places (w.raise x name type srcptr) thread =
      Function.update (places w thread) (.events x)
        (places w thread (.events x) ++ [⟨x, name⟩]) := by
  have unqueued (payload : Payload) :
      (((w.log (.raise ⟨x, name⟩ payload)).setEvent ⟨x, name⟩ fun stored =>
        { stored with fsm := some x, payload := payload }).eventAt ⟨x, name⟩).inQueue = false := by
    rw [World.eventAt_setEvent, if_pos rfl]
    exact free
  rw [World.raise]
  rw [World.ctxRaise, unqueued, if_neg Bool.false_ne_true, places_setCtx_events _ _ _ rfl,
    places_setEvent, places_setEvent]
  simp only [World.ctx_setEvent]
  rfl

theorem places_raiseTo (thread : WorkerId → Thread)
    (free : (w.eventAt ⟨dst, name⟩).inQueue = false) :
    places (w.raiseTo x dst name src type srcptr) thread =
      Function.update (places w thread) (.eventsto x)
        (places w thread (.eventsto x) ++ [⟨dst, name⟩]) := by
  have unqueued (payload : Payload) :
      (((w.log (.raise ⟨dst, name⟩ payload)).setEvent ⟨dst, name⟩ fun stored =>
        { stored with fsm := some dst, payload := payload }).eventAt ⟨dst, name⟩).inQueue =
        false := by
    rw [World.eventAt_setEvent, if_pos rfl]
    exact free
  rw [World.raiseTo]
  rw [World.ctxRaiseTo, unqueued, if_neg Bool.false_ne_true, places_setCtx_eventsto _ _ _ rfl,
    places_setEvent, places_setEvent]
  simp only [World.ctx_setEvent]
  rfl

end Raise

/-! ## The invariant -/

theorem World.Quiet.places_eq {w w' : World} (same : Quiet w w')
    (thread : WorkerId → Thread) : places w' thread = places w thread := by
  have ctx (x : SockId) : (w'.sock x).ctx = (w.sock x).ctx :=
    congrFun (congrArg EventView.ctx same.view_eq) x
  funext place
  cases place <;> simp [places, ctx]

theorem Frame.held_of_popped {frame : Frame} {event : EventId} (taken : event ∈ frame.popped) :
    event ∈ frame.held := by
  cases frame with
  | enter body => cases body <;> exact taken
  | drain ctx => cases taken
  | process ctx other => exact taken
  | external events => cases taken

theorem Popped.present {thread : WorkerId → Thread} {event : EventId}
    (taken : Popped thread event) (w : World) : Present (places w thread) event := by
  obtain ⟨k, frame, member, popped⟩ := taken
  exact ⟨.thread k, List.mem_flatMap.mpr ⟨frame, member, Frame.held_of_popped popped⟩⟩

/-- No event is at two places, a queued item is at one of them, and the deliveries of an event are
its raises without the one that is in flight. -/
structure Delivers (w : World) (thread : WorkerId → Thread) : Prop where
  separate : Separate (places w thread)
  marked : ∀ {event}, (w.eventAt event).inQueue = true → Present (places w thread) event
  popped : ∀ {event}, Popped thread event → (w.eventAt event).inQueue = false
  waiting : ∀ {event}, Present (places w thread) event →
    raisesOf event w.trace = deliveriesOf event w.trace ++ [(w.eventAt event).payload]
  settled : ∀ {event}, ¬Present (places w thread) event →
    raisesOf event w.trace = deliveriesOf event w.trace

namespace Delivers

variable {w w' : World} {thread thread' : WorkerId → Thread}

/-- Moving events between places, and taking marks off, loses nothing. -/
theorem moved (delivers : Delivers w thread) (separate : Separate (places w' thread'))
    (present : ∀ event, Present (places w' thread') event ↔ Present (places w thread) event)
    (marks : ∀ event, (w'.eventAt event).inQueue = true → (w.eventAt event).inQueue = true)
    (popped : ∀ event, Popped thread' event → (w'.eventAt event).inQueue = false)
    (payload : ∀ event, (w'.eventAt event).payload = (w.eventAt event).payload)
    (raises : ∀ event, raisesOf event w'.trace = raisesOf event w.trace)
    (deliveries : ∀ event, deliveriesOf event w'.trace = deliveriesOf event w.trace) :
    Delivers w' thread' where
  separate := separate
  marked queued := (present _).mpr (delivers.marked (marks _ queued))
  popped := popped _
  waiting here := by
    rw [raises, deliveries, payload]
    exact delivers.waiting ((present _).mp here)
  settled gone := by
    rw [raises, deliveries]
    exact delivers.settled fun here => gone ((present _).mpr here)

/-- A step that concerns no event. -/
theorem quiet (delivers : Delivers w thread) (same : World.Quiet w w')
    (held : places w' thread' = places w' thread)
    (popped : ∀ event, Popped thread' event → Popped thread event) : Delivers w' thread' := by
  have eventAt (event : EventId) : w'.eventAt event = w.eventAt event :=
    congrFun (congrFun (congrArg EventView.event same.view_eq) event.sock) event.name
  have placed : places w' thread' = places w thread := by rw [held, same.places_eq]
  refine delivers.moved (placed ▸ delivers.separate) (fun event => by rw [placed])
    (fun event queued => eventAt event ▸ queued)
    (fun event taken => eventAt event ▸ delivers.popped (popped event taken))
    (fun event => by rw [eventAt])
    (fun event => same.filterMap_eq ?_) (fun event => same.filterMap_eq ?_)
  · intro effect silent
    cases effect <;> first | rfl | cases silent
  · intro effect silent
    cases effect <;> first | rfl | cases silent

/-- A raise of an event that is not in flight. -/
theorem raised (delivers : Delivers w thread) {event : EventId} {payload : Payload}
    {place : Place} {owner : Option SockId} (absent : ¬Present (places w thread) event)
    (pushed : places w' thread = Function.update (places w thread) place
      (places w thread place ++ [event]))
    (stored : ∀ other, w'.eventAt other =
      if other = event then ⟨owner, payload, true⟩ else w.eventAt other)
    (grown : w'.trace = w.trace ++ [.raise event payload]) : Delivers w' thread where
  separate := pushed ▸ delivers.separate.push absent place
  marked {other} queued := by
    rw [pushed, present_update_push]
    rw [stored] at queued
    split at queued
    next same => exact .inr same
    next => exact .inl (delivers.marked queued)
  popped {other} taken := by
    have different : other ≠ event := by
      rintro rfl
      exact absent (taken.present w)
    rw [stored, if_neg different]
    exact delivers.popped taken
  waiting {other} here := by
    rw [pushed, present_update_push] at here
    rw [grown, raisesOf_append, deliveriesOf_append, stored]
    by_cases same : other = event
    · subst same
      rw [delivers.settled absent, if_pos rfl]
      simp [raisesOf, deliveriesOf, Effect.raiseOf, Effect.deliveryOf]
    · rw [delivers.waiting (here.resolve_right same), if_neg same]
      simp [raisesOf, deliveriesOf, Effect.raiseOf, Effect.deliveryOf, Ne.symm same]
  settled {other} gone := by
    rw [pushed, present_update_push, not_or] at gone
    rw [grown, raisesOf_append, deliveriesOf_append, delivers.settled gone.1]
    simp [raisesOf, deliveriesOf, Effect.raiseOf, Effect.deliveryOf, Ne.symm gone.2]

/-- An event leaves the place at whose front it is, and its owner is fed. -/
theorem delivered (delivers : Delivers w thread) {event : EventId} {place : Place}
    {rest : List EventId} (front : places w thread place = event :: rest)
    (unmarked : (w.eventAt event).inQueue = false)
    (dropped : places (w.takeEvent event) thread' = Function.update (places w thread) place rest)
    (popped : ∀ other, Popped thread' other → Popped thread other) :
    Delivers (w.takeEvent event) thread' := by
  have present (other : EventId) : Present (places (w.takeEvent event) thread') other ↔
      Present (places w thread) other ∧ other ≠ event := by
    rw [dropped, present_update_drop delivers.separate front]
  have grown : (w.takeEvent event).trace =
      w.trace ++ [.deliver event (w.eventAt event).payload] := rfl
  have stored (other : EventId) : (w.takeEvent event).eventAt other =
      if other = event then { w.eventAt event with payload := .cleared }
      else w.eventAt other := by
    rw [World.takeEvent, World.eventAt_setEvent]
    rfl
  have mark (other : EventId) :
      ((w.takeEvent event).eventAt other).inQueue = (w.eventAt other).inQueue := by
    rw [stored]
    split
    next same => rw [same]
    next => rfl
  refine ⟨dropped ▸ delivers.separate.drop front, fun {other} queued => ?_,
    fun {other} taken => ?_, fun {other} here => ?_, fun {other} gone => ?_⟩
  · rw [mark] at queued
    refine (present other).mpr ⟨delivers.marked queued, ?_⟩
    rintro rfl
    exact Bool.false_ne_true (unmarked.symm.trans queued)
  · rw [mark]
    exact delivers.popped (popped other taken)
  · obtain ⟨here, different⟩ := (present other).mp here
    rw [grown, raisesOf_append, deliveriesOf_append, stored, if_neg different,
      delivers.waiting here]
    simp [raisesOf, deliveriesOf, Effect.raiseOf, Effect.deliveryOf, Ne.symm different]
  · rw [present, not_and, not_not] at gone
    rw [grown, raisesOf_append, deliveriesOf_append]
    by_cases same : other = event
    · subst same
      have here : Present (places w thread) other := ⟨place, by simp [front]⟩
      rw [delivers.waiting here]
      simp [raisesOf, deliveriesOf, Effect.raiseOf, Effect.deliveryOf]
    · rw [delivers.settled fun here => same (gone here)]
      simp [raisesOf, deliveriesOf, Effect.raiseOf, Effect.deliveryOf, Ne.symm same]

/-- Socket code that raises no event twice, and none that is in flight. -/
theorem steps {may : Entitled} (delivers : Delivers w thread) (run : SocketSteps may w w')
    {raises : List EventId} (raised : raisedIn w'.trace = raisedIn w.trace ++ raises)
    (nodup : raises.Nodup) (absent : ∀ event ∈ raises, ¬Present (places w thread) event) :
    Delivers w' thread ∧ ∀ event, Present (places w' thread) event →
      Present (places w thread) event ∨ event ∈ raises := by
  induction run generalizing raises with
  | refl => exact ⟨delivers, fun _ here => .inl here⟩
  | @tail middle last before step ih =>
      obtain ⟨added, grown⟩ := SocketSteps.grows before
      have early : raisedIn middle.trace = raisedIn w.trace ++ raisedIn added := by
        rw [← grown, raisedIn_append]
      have pushes {event : EventId} {payload : Payload}
          (last_eq : last.trace = middle.trace ++ [.raise event payload]) :
          raises = raisedIn added ++ [event] := by
        rw [last_eq, raisedIn_append, early, List.append_assoc] at raised
        exact (List.append_cancel_left raised).symm
      have raise {event : EventId} {payload : Payload} {place : Place} {owner : Option SockId}
          (pushed : (middle.eventAt event).inQueue = false → places last thread =
            Function.update (places middle thread) place (places middle thread place ++ [event]))
          (stored : ∀ other, last.eventAt other =
            if other = event then ⟨owner, payload, true⟩ else middle.eventAt other)
          (last_eq : last.trace = middle.trace ++ [.raise event payload]) :
          Delivers last thread ∧ ∀ other, Present (places last thread) other →
            Present (places w thread) other ∨ other ∈ raises := by
        obtain rfl := pushes last_eq
        rw [List.nodup_append] at nodup
        obtain ⟨kept, origin⟩ := ih early nodup.1 fun other member =>
          absent other (List.mem_append_left _ member)
        have outside : ¬Present (places middle thread) event := by
          intro here
          obtain old | now := origin event here
          · exact absent event (by simp) old
          · exact nodup.2.2 event now event (by simp) rfl
        have free : (middle.eventAt event).inQueue = false := by
          rw [← Bool.not_eq_true]
          exact fun queued => outside (kept.marked queued)
        refine ⟨kept.raised outside (pushed free) stored last_eq, fun other here => ?_⟩
        rw [pushed free, present_update_push] at here
        obtain old | rfl := here
        · exact (origin other old).imp_right (List.mem_append_left _)
        · exact .inr (by simp)
      obtain same | ⟨x, name, type, srcptr, _, rfl⟩ | ⟨x, dst, name, src, type, srcptr, _, rfl⟩ :=
        step.quiet_or_raised
      · have silent : raisedIn last.trace = raisedIn middle.trace := by
          refine same.filterMap_eq fun effect quiet => ?_
          cases effect <;> first | rfl | cases quiet
        rw [silent, early] at raised
        obtain rfl := List.append_cancel_left raised
        obtain ⟨kept, origin⟩ := ih early nodup absent
        refine ⟨kept.quiet same rfl fun _ => id, fun event here => origin event ?_⟩
        exact same.places_eq thread ▸ here
      · exact raise (places_raise thread) World.eventAt_raise (World.trace_raise _ _ _ _ _)
      · exact raise (places_raiseTo thread) World.eventAt_raiseTo
          (World.trace_raiseTo _ _ _ _ _ _ _)

end Delivers

/-! ## The steps of the process -/

section Threads

variable {r : Runtime} {k : WorkerId}

theorem places_setFrames (w : World) (frames : List Frame) :
    places w (r.setFrames k frames).thread =
      Function.update (places w r.thread) (.thread k) (frames.flatMap Frame.held) := by
  funext place
  cases place with
  | events ctx => rw [Function.update_of_ne (by simp)]; rfl
  | eventsto ctx => rw [Function.update_of_ne (by simp)]; rfl
  | thread j =>
      by_cases equal : j = k
      · subst equal
        simp [places, Runtime.setFrames]
      · rw [Function.update_of_ne (by simpa using equal)]
        simp [places, Runtime.setFrames, equal]

theorem places_setFrames_same (w : World) {frames : List Frame}
    (held : frames.flatMap Frame.held = (r.thread k).frames.flatMap Frame.held) :
    places w (r.setFrames k frames).thread = places w r.thread := by
  rw [places_setFrames, held]
  exact Function.update_eq_self _ _

/-- Replacing the first frames of a thread takes events only into the new ones. -/
theorem popped_setFrames (frames : List Frame) {rest : List Frame} {event : EventId}
    (tail : ∀ frame ∈ rest, frame ∈ (r.thread k).frames)
    (taken : Popped (r.setFrames k (frames ++ rest)).thread event) :
    (∃ frame ∈ frames, event ∈ frame.popped) ∨ Popped r.thread event := by
  obtain ⟨j, frame, member, popped⟩ := taken
  by_cases equal : j = k
  · subst equal
    simp only [Runtime.setFrames, Function.update_self, List.mem_append] at member
    obtain new | old := member
    · exact .inl ⟨frame, new, popped⟩
    · exact .inr ⟨j, frame, tail frame old, popped⟩
  · simp only [Runtime.setFrames, Function.update_of_ne equal] at member
    exact .inr ⟨j, frame, member, popped⟩

theorem popped_of_plain {frames rest : List Frame} {event : EventId}
    (plain : ∀ frame ∈ frames, frame.popped = [])
    (tail : ∀ frame ∈ rest, frame ∈ (r.thread k).frames)
    (taken : Popped (r.setFrames k (frames ++ rest)).thread event) : Popped r.thread event := by
  refine (popped_setFrames frames tail taken).resolve_left ?_
  rintro ⟨frame, member, popped⟩
  rw [plain frame member] at popped
  cases popped

@[simp]
theorem places_setTasks (w : World) (tasks : List TaskId) :
    places w (r.setTasks k tasks).thread = places w r.thread := by
  funext place
  cases place with
  | events ctx => rfl
  | eventsto ctx => rfl
  | thread j =>
      by_cases equal : j = k
      · subst equal
        simp [places, Runtime.setTasks]
      · simp [places, Runtime.setTasks, equal]

theorem popped_setTasks {tasks : List TaskId} {event : EventId} :
    Popped (r.setTasks k tasks).thread event ↔ Popped r.thread event := by
  refine exists_congr fun j => ?_
  by_cases equal : j = k
  · subst equal
    simp [Runtime.setTasks]
  · simp [Runtime.setTasks, equal]

end Threads

theorem inQueue_unqueueEvent (w : World) (event other : EventId) :
    ((w.unqueueEvent event).eventAt other).inQueue =
      (!decide (other = event) && (w.eventAt other).inQueue) := by
  rw [World.unqueueEvent, World.eventAt_setEvent]
  by_cases same : other = event <;> simp [same]

theorem payload_unqueueEvent (w : World) (event other : EventId) :
    ((w.unqueueEvent event).eventAt other).payload = (w.eventAt other).payload := by
  rw [World.unqueueEvent, World.eventAt_setEvent]
  by_cases same : other = event <;> simp [same]

namespace Delivers

variable {r r' : Runtime}

/-- A thread takes a block of events from the front of a queue. -/
theorem handedOver (k : WorkerId) {w' : World} {thread' : WorkerId → Thread} {place : Place}
    {block rest : List EventId} (delivers : Delivers r.world r.thread)
    (queue : place ≠ .thread k) (front : places r.world r.thread place = block ++ rest)
    (placed : places w' thread' = move (places r.world r.thread) place (.thread k) block rest)
    (marks : ∀ event, (w'.eventAt event).inQueue = true → (r.world.eventAt event).inQueue = true)
    (popped : ∀ event, Popped thread' event → (w'.eventAt event).inQueue = false)
    (payload : ∀ event, (w'.eventAt event).payload = (r.world.eventAt event).payload)
    (trace : w'.trace = r.world.trace) : Delivers w' thread' :=
  delivers.moved (placed ▸ delivers.separate.move queue front)
    (fun event => by rw [placed]; exact present_move queue front) marks popped payload
    (fun event => by rw [trace]) (fun event => by rw [trace])

/-- A context hands its next internal event to the thread that drains it. -/
theorem popEvent {k : WorkerId} {ctx : SockId} {rest : List Frame} {event : EventId}
    {events : List EventId} (delivers : Delivers r.world r.thread)
    (top : (r.thread k).frames = .drain ctx :: rest)
    (front : (r.world.sock ctx).ctx.events = event :: events) :
    Delivers ((r.world.setEvents ctx events).unqueueEvent event)
      (r.setFrames k (.process ctx event :: rest)).thread := by
  have source : places r.world r.thread (.events ctx) = [event] ++ events := front
  refine delivers.handedOver k (by simp) source ?_ ?_ ?_ ?_ rfl
  · rw [World.unqueueEvent, places_setEvent, places_setFrames, World.setEvents,
      places_setCtx_events _ _ _ rfl, move]
    congr 1
    simp [places, top, Frame.held]
  · intro other queued
    rw [inQueue_unqueueEvent] at queued
    simpa [World.setEvents] using (Bool.and_eq_true_iff.mp queued).2
  · intro other taken
    rw [inQueue_unqueueEvent]
    have tail : ∀ frame ∈ rest, frame ∈ (r.thread k).frames := by simp +contextual [top]
    obtain ⟨frame, member, popped⟩ | before :=
      popped_setFrames [.process ctx event] tail taken
    · obtain rfl := List.mem_singleton.mp member
      rw [List.mem_singleton.mp popped]
      simp
    · simp [World.setEvents, delivers.popped before]
  · intro other
    rw [payload_unqueueEvent]
    simp [World.setEvents]

/-- A thread takes the external events of the context that it leaves. -/
theorem leave {k : WorkerId} {ctx : SockId} {rest : List Frame}
    (delivers : Delivers r.world r.thread) (top : (r.thread k).frames = .drain ctx :: rest) :
    Delivers (r.world.clearEventsto ctx)
      (r.setFrames k (.external (r.world.sock ctx).ctx.eventsto :: rest)).thread := by
  have source : places r.world r.thread (.eventsto ctx) = (r.world.sock ctx).ctx.eventsto ++ [] :=
    (List.append_nil _).symm
  refine delivers.handedOver k (by simp) source ?_ ?_ ?_ ?_ rfl
  · rw [places_setFrames, World.clearEventsto, places_setCtx_eventsto _ _ _ rfl, move]
    congr 1
    simp [places, top, Frame.held]
  · intro other queued
    simpa [World.clearEventsto] using queued
  · intro other taken
    have tail : ∀ frame ∈ rest, frame ∈ (r.thread k).frames := by simp +contextual [top]
    obtain ⟨frame, member, popped⟩ | before :=
      popped_setFrames [.external (r.world.sock ctx).ctx.eventsto] tail taken
    · obtain rfl := List.mem_singleton.mp member
      cases popped
    · simp [World.clearEventsto, delivers.popped before]
  · intro other
    simp [World.clearEventsto]

/-- A thread turns to the next of its external events. -/
theorem external {k : WorkerId} {event : EventId} {events : List EventId} {rest : List Frame}
    (delivers : Delivers r.world r.thread)
    (top : (r.thread k).frames = .external (event :: events) :: rest) :
    Delivers (r.world.unqueueEvent event)
      (r.setFrames k (.enter (.event event) :: .external events :: rest)).thread := by
  have placed : places (r.world.unqueueEvent event)
      (r.setFrames k (.enter (.event event) :: .external events :: rest)).thread =
      places r.world r.thread := by
    rw [World.unqueueEvent, places_setEvent, places_setFrames_same]
    simp [top, Frame.held]
  refine delivers.moved (placed ▸ delivers.separate) (fun other => by rw [placed]) ?_ ?_
    (payload_unqueueEvent _ _) (fun _ => rfl) (fun _ => rfl)
  · intro other queued
    rw [inQueue_unqueueEvent] at queued
    exact (Bool.and_eq_true_iff.mp queued).2
  · intro other taken
    rw [inQueue_unqueueEvent]
    have tail : ∀ frame ∈ rest, frame ∈ (r.thread k).frames := by simp +contextual [top]
    obtain ⟨frame, member, popped⟩ | before :=
      popped_setFrames [.enter (.event event), .external events] tail taken
    · obtain rfl | rfl : frame = .enter (.event event) ∨ frame = .external events := by
        simpa using member
      · rw [List.mem_singleton.mp popped]
        simp
      · cases popped
    · simp [delivers.popped before]

/-- The owner is fed an event that a thread has popped. -/
theorem processed {k : WorkerId} {sys : Sys} {event : EventId} {frame next : Frame}
    {rest : List Frame} {w' : World} (delivers : Delivers r.world r.thread)
    (top : (r.thread k).frames = frame :: rest) (held : frame.held = [event])
    (taken : frame.popped = [event]) (empty : next.held = []) (none : next.popped = [])
    (done : socketOwner.process sys event r.world = .ok w') :
    raisedIn (w'.since r.world) = [] ∧ Delivers w' (r.setFrames k (next :: rest)).thread := by
  have outcome : w' = r.world.takeEvent event := by
    simp only [Owner.process] at done
    split_ifs at done
    split at done
    next => cases done
    next => exact (Except.ok.inj done).symm
  subst outcome
  have front : places r.world r.thread (.thread k) = event :: rest.flatMap Frame.held := by
    simp [places, top, held]
  have unmarked : (r.world.eventAt event).inQueue = false :=
    delivers.popped ⟨k, frame, by simp [top], by simp [taken]⟩
  have grown : (r.world.takeEvent event).trace =
      r.world.trace ++ [.deliver event (r.world.eventAt event).payload] := rfl
  refine ⟨by rw [World.since_append grown]; rfl, delivers.delivered front unmarked ?_ ?_⟩
  · rw [World.takeEvent, places_setEvent, places_setFrames]
    simp only [List.flatMap_cons, empty, List.nil_append]
    rfl
  · intro other before
    have tail : ∀ frame ∈ rest, frame ∈ (r.thread k).frames := by simp +contextual [top]
    obtain ⟨new, member, popped⟩ | old := popped_setFrames [next] tail before
    · obtain rfl := List.mem_singleton.mp member
      rw [none] at popped
      cases popped
    · exact old

end Delivers

/-- A step in which a thread runs socket code, and no event changes its place. -/
structure RunsSocketCode (r r' : Runtime) : Prop where
  steps : SocketSteps ⟨fun _ => True, False⟩ r.world r'.world
  held : ∀ w, places w r'.thread = places w r.thread
  popped : ∀ event, Popped r'.thread event → Popped r.thread event

/-- Frames that hold no event run socket code. -/
theorem runsSocketCode_setFrames {r : Runtime} {k : WorkerId} (before frames : List Frame)
    {rest : List Frame} {w' : World} (steps : SocketSteps ⟨fun _ => True, False⟩ r.world w')
    (top : (r.thread k).frames = before ++ rest) (old : before.flatMap Frame.held = [])
    (held : frames.flatMap Frame.held = []) (plain : ∀ frame ∈ frames, frame.popped = []) :
    RunsSocketCode r { r.setFrames k (frames ++ rest) with world := w' } where
  steps := steps
  held w := places_setFrames_same w (by simp [top, old, held])
  popped _ := popped_of_plain plain (by simp +contextual [top])

/-- A step runs socket code, or it raises nothing and keeps the invariant. -/
theorem runtimeStep_cases {r r' : Runtime} {label : RuntimeLabel SocketCall}
    (delivers : Delivers r.world r.thread)
    (step : RuntimeStep socketOwner r label r') :
    RunsSocketCode r r' ∨
      raisedIn (r'.world.since r.world) = [] ∧ Delivers r'.world r'.thread := by
  have silent {w' : World} (same : w'.trace = r.world.trace) :
      raisedIn (w'.since r.world) = [] := by
    rw [World.since_append (same.trans (List.append_nil _).symm)]
    rfl
  have plain {frame : Frame} (none : frame.popped = []) :
      ∀ other ∈ [frame], other.popped = [] := by simpa using none
  cases step with
  | @call sys op w called =>
      exact .inl ⟨SocketCall.run_steps (fun _ _ => trivial) called, fun _ => rfl, fun _ => id⟩
  | @poll k x pevent idle =>
      exact .inl (runsSocketCode_setFrames [] [.enter (.fd x pevent)] (.refl _) idle rfl rfl
        (plain rfl))
  | @snapshot k idle empty =>
      exact .inr ⟨silent rfl, delivers.quiet ⟨r.world.view_modifyWorker _ _, List.prefix_rfl⟩
        (places_setTasks _ _) fun event => popped_setTasks.mp⟩
  | @pop k task tasks idle front =>
      have idle' : ((r.setTasks k tasks).thread k).frames = [] := by
        simpa [Runtime.setTasks] using idle
      have same : World.Quiet r.world (r.world.unqueueTask task) :=
        ⟨r.world.view_modify _ _ rfl rfl rfl, List.prefix_rfl⟩
      refine .inr ⟨silent rfl, delivers.quiet same ?_ fun event taken => ?_⟩
      · exact (places_setFrames_same _ (by simp [idle', Frame.held])).trans (places_setTasks _ _)
      · exact popped_setTasks.mp (popped_of_plain (plain rfl) (by simp) taken)
  | @enter k sys body ctx rest w top context free ran =>
      cases body with
      | task task =>
          exact .inl (runsSocketCode_setFrames [.enter (.task task)] [.drain ctx]
            (feedTask_steps ran)
            top rfl rfl (plain rfl))
      | fd x pevent =>
          exact .inl (runsSocketCode_setFrames [.enter (.fd x pevent)] [.drain ctx]
            (feedFd_steps ran)
            top rfl rfl (plain rfl))
      | event event => exact .inr (delivers.processed top rfl rfl rfl rfl ran)
  | popEvent top front => exact .inr ⟨silent rfl, delivers.popEvent top front⟩
  | leave top drained => exact .inr ⟨silent rfl, delivers.leave top⟩
  | process top processed => exact .inr (delivers.processed top rfl rfl rfl rfl processed)
  | @finish k sys rest top =>
      exact .inl (runsSocketCode_setFrames [.external []] [] (.refl _) top rfl rfl (by rintro _ ⟨⟩))
  | external top => exact .inr ⟨silent rfl, delivers.external top⟩

/-! ## Runs -/

/-- The owner was fed the raises of every event, in order and as they were made, but for the one
that is in flight. -/
structure Runtime.Accounted (r : Runtime) : Prop where
  waiting : ∀ event, r.InFlight event →
    raisesOf event r.world.trace =
      deliveriesOf event r.world.trace ++ [(r.world.eventAt event).payload]
  settled : ∀ event, ¬r.InFlight event →
    raisesOf event r.world.trace = deliveriesOf event r.world.trace

/-- None of the events occurs twice, and none of them is in flight. -/
structure Runtime.Absent (r : Runtime) (events : List EventId) : Prop where
  nodup : events.Nodup
  outside : ∀ event ∈ events, ¬r.InFlight event

theorem Delivers.accounted {r : Runtime} (delivers : Delivers r.world r.thread) : r.Accounted :=
  ⟨fun _ => delivers.waiting, fun _ => delivers.settled⟩

theorem Runtime.Fresh.delivers {r : Runtime} (fresh : r.Fresh) : Delivers r.world r.thread := by
  have empty (place : Place) : places r.world r.thread place = [] := by
    cases place with
    | thread k => simp [places, fresh.thread k]
    | events x | eventsto x =>
        obtain ⟨memory, src, addr, worker, equal⟩ := fresh.socket x
        simp [places, equal, NetSocket.initialised]
  have absent {event : EventId} : ¬Present (places r.world r.thread) event := by
    rintro ⟨place, member⟩
    simp [empty place] at member
  have unmarked (event : EventId) : (r.world.eventAt event).inQueue = false := by
    obtain ⟨memory, src, addr, worker, equal⟩ := fresh.socket event.sock
    simp [World.eventAt, equal, NetSocket.initialised, NetFsmEvent.init]
  refine ⟨.of_empty empty, fun queued => ?_, fun _ => unmarked _, fun here => absurd here absent,
    fun _ => ?_⟩
  · simp [unmarked] at queued
  · simp [fresh.trace, raisesOf, deliveriesOf]

/-- Socket code feeds no owner. -/
theorem SocketSteps.deliveriesOf_eq {may : Entitled} {w w' : World} (steps : SocketSteps may w w')
    (event : EventId) : deliveriesOf event w'.trace = deliveriesOf event w.trace := by
  induction steps with
  | refl => rfl
  | tail _ step ih =>
      rw [← ih]
      obtain same | ⟨x, name, type, srcptr, _, rfl⟩ | ⟨x, dst, name, src, type, srcptr, _, rfl⟩ :=
        step.quiet_or_raised
      · refine same.filterMap_eq fun effect silent => ?_
        cases effect <;> first | rfl | cases silent
      · simp [deliveriesOf, Effect.deliveryOf]
      · simp [deliveriesOf, Effect.deliveryOf]

theorem raisedIn_since {w w' : World} (grows : w.trace <+: w'.trace) :
    raisedIn w'.trace = raisedIn w.trace ++ raisedIn (w'.since w) := by
  conv_lhs => rw [World.since_spec grows]
  exact raisedIn_append _ _

/-- An event has at most one raise more than deliveries. -/
theorem Runtime.Accounted.bound {r : Runtime} (accounted : r.Accounted) (event : EventId) :
    (raisesOf event r.world.trace).length ≤ (deliveriesOf event r.world.trace).length + 1 := by
  by_cases flying : r.InFlight event
  · rw [accounted.waiting event flying, List.length_append]
    simp
  · rw [accounted.settled event flying]
    omega

/-- A step keeps the invariant exactly when it overwrites no event. -/
theorem Delivers.step {r r' : Runtime} {label : RuntimeLabel SocketCall}
    (delivers : Delivers r.world r.thread) (step : RuntimeStep socketOwner r label r') :
    (r.Absent (raisedIn (r'.world.since r.world)) → Delivers r'.world r'.thread) ∧
      (r'.Accounted → r.Absent (raisedIn (r'.world.since r.world))) := by
  obtain code | ⟨silent, kept⟩ := runtimeStep_cases delivers step
  · have raised := raisedIn_since code.steps.grows
    constructor
    · intro absent
      have moved := (delivers.steps code.steps raised absent.nodup absent.outside).1
      exact moved.quiet ⟨rfl, List.prefix_rfl⟩ (code.held r'.world) code.popped
    · intro accounted
      have count (event : EventId) :
          (raisesOf event r'.world.trace).length = (raisesOf event r.world.trace).length +
            (raisedIn (r'.world.since r.world)).count event := by
        rw [raisesOf_length, raised, List.count_append, ← raisesOf_length]
      have bound (event : EventId) := code.steps.deliveriesOf_eq event ▸ accounted.bound event
      constructor
      · rw [List.nodup_iff_count_le_one]
        intro event
        have above : (deliveriesOf event r.world.trace).length ≤
            (raisesOf event r.world.trace).length := by
          by_cases flying : r.InFlight event
          · rw [delivers.waiting flying, List.length_append]
            omega
          · rw [delivers.settled flying]
        have limit := bound event
        rw [count] at limit
        omega
      · intro event member flying
        have once := List.count_pos_iff.mpr member
        have limit := bound event
        rw [count, delivers.waiting flying, List.length_append, List.length_singleton] at limit
        omega
  · refine ⟨fun _ => kept, fun _ => ?_⟩
    rw [silent]
    exact ⟨List.nodup_nil, by rintro _ ⟨⟩⟩

end Klibmsg
