import Klibmsg.Runtime.Delivery
import Klibmsg.Runtime.Locks
import Klibmsg.Runtime.Sockets
import Klibmsg.Socket.Calls

/-!
# Events raised while their context is held

A socket announces a message that it has received or sent from inside a critical section of its own
context, and the section is not left before the internal events of the context are processed.  The
two event objects are therefore never overwritten, whoever calls what in the meantime.
-/

namespace Klibmsg

open StepSystem QueueFamily

/-- The events that announce a received or a sent message. -/
def EventId.isTransfer (event : EventId) : Bool :=
  match event.name with
  | .sent => true
  | .received => true
  | _ => false

/-- The announcements in a part of the trace. -/
def transfers (trace : List Effect) : List EventId := (raisedIn trace).filter EventId.isTransfer

section Trace

@[simp]
theorem transfers_append (left right : List Effect) :
    transfers (left ++ right) = transfers left ++ transfers right := by
  simp [transfers]

@[simp]
theorem transfers_nil : transfers [] = [] := rfl

@[simp]
theorem transfers_sys (call : SysCall) (rest : List Effect) :
    transfers (.sys call :: rest) = transfers rest := rfl

@[simp]
theorem transfers_calls (calls : List SysCall) : transfers (calls.map .sys) = [] := by
  induction calls with
  | nil => rfl
  | cons call calls ih => exact ih

@[simp]
theorem transfers_execute (task : TaskId) (rest : List Effect) :
    transfers (.execute task :: rest) = transfers rest := rfl

@[simp]
theorem transfers_raise (event : EventId) (payload : Payload) (rest : List Effect) :
    transfers (.raise event payload :: rest) =
      if event.isTransfer then event :: transfers rest else transfers rest := by
  cases transfer : event.isTransfer with
  | true => simp [transfers, raisedIn, Effect.raisedEvent, transfer]
  | false => simp [transfers, raisedIn, Effect.raisedEvent, transfer]

theorem transfers_rmFd {w w' : World} {x : SockId} (removed : w.rmFd x = .ok w') :
    transfers w'.trace = transfers w.trace := by
  obtain ⟨poller, _, returned⟩ := bind_eq_ok.mp removed
  cases returned
  simp

theorem transfers_resetOut {w w' : World} {x : SockId} (reset : w.resetOut x = .ok w') :
    transfers w'.trace = transfers w.trace := by
  obtain ⟨result, _, returned⟩ := bind_eq_ok.mp reset
  cases returned
  simp

theorem transfers_netCloseFd {w w' : World} {sys : Sys} {fd : Fd}
    (closed : w.netCloseFd sys fd = .ok w') : transfers w'.trace = transfers w.trace := by
  simp only [World.netCloseFd] at closed
  split_ifs at closed
  · cases closed
    rfl
  · cases closed
    simp

end Trace

/-! ## What announces a transfer -/

section Cells

variable {action : ActionCall} {x : SockId} {sys : Sys} {src type : Int} {label : NetSockState}
  {w w' : World}

theorem transfers_closeAndFail (done : closeAndFail x sys w = .ok w') :
    transfers w'.trace = transfers w.trace := by
  obtain ⟨closed, closing, returned⟩ := bind_eq_ok.mp done
  cases returned
  simp [EventId.isTransfer, transfers_netCloseFd closing]

theorem transfers_removeAndFail (done : removeAndFail x sys w = .ok w') :
    transfers w'.trace = transfers w.trace := by
  obtain ⟨removed, removing, rest⟩ := bind_eq_ok.mp done
  exact (transfers_closeAndFail rest).trans (transfers_rmFd removing)

theorem transfers_connectingFdOut (done : connectingFdOut x sys w = .ok w') :
    transfers w'.trace = transfers w.trace := by
  obtain ⟨reset, resetting, rest⟩ := bind_eq_ok.mp done
  have before := transfers_resetOut resetting
  dsimp only at rest
  split_ifs at rest
  · cases rest
    simp [EventId.isTransfer, before]
  · obtain ⟨removed, removing, rest⟩ := bind_eq_ok.mp rest
    have after := transfers_rmFd removing
    split_ifs at rest
    cases rest
    simpa [EventId.isTransfer, before] using after

theorem transfers_initFromFd {fd : Fd} (done : w.initFromFd sys x fd = .ok w') :
    transfers w'.trace = transfers w.trace := by
  simp only [World.initFromFd] at done
  split_ifs at done
  cases done
  simp

theorem transfers_acceptingFdIn (done : acceptingFdIn x sys w = .ok w') :
    transfers w'.trace = transfers w.trace := by
  simp only [acceptingFdIn] at done
  split at done
  next errno answer =>
    split_ifs at done
    · cases done
      simp
    · obtain ⟨removed, removing, returned⟩ := bind_eq_ok.mp done
      have before := transfers_rmFd removing
      cases returned
      simpa [EventId.isTransfer] using before
  next fd answer =>
    split_ifs at done
    simp only [acceptingNewFd] at done
    split at done
    next => cases done
    next y paired =>
      split_ifs at done
      · cases done
      obtain ⟨initialised, initialising, rest⟩ := bind_eq_ok.mp done
      obtain ⟨removed, removing, returned⟩ := bind_eq_ok.mp rest
      have before := transfers_initFromFd initialising
      have after := transfers_rmFd removing
      cases returned
      simpa [EventId.isTransfer, before] using after

/-- The last thing that a transfer does is to announce that it is complete. -/
def Announces (x : SockId) (w w' : World) : Prop :=
  ∃ middle name type srcptr, SocketSteps .all w middle ∧
    transfers middle.trace = transfers w.trace ∧ (⟨x, name⟩ : EventId).isTransfer = true ∧
      w' = middle.raise x name type srcptr

theorem activeFdIn_announces (done : activeFdIn x sys w = .ok w') :
    transfers w'.trace = transfers w.trace ∨ Announces x w w' := by
  have received := (SocketSteps.refl w : SocketSteps .all w w).applyTransfer
    (recvRaw_sameControl w.device.token2Dptr sys.readHeader sys.readPayload (w.sock x) w.memory)
  simp only [activeFdIn] at done
  split_ifs at done <;> cases done
  · exact .inr ⟨_, .received, _, _, received, by simp [World.applyTransfer], rfl, rfl⟩
  · exact .inl (by simp [World.applyTransfer])
  · exact .inl (by simp [World.applyTransfer])

theorem activeFdOutBusy_announces (done : activeFdOutBusy x sys w = .ok w') :
    transfers w'.trace = transfers w.trace ∨ Announces x w w' := by
  have sent := (SocketSteps.refl w : SocketSteps .all w w).applyTransfer
    (sendRaw_sameControl sys.writeHeader sys.writePayload (w.sock x) w.memory)
  simp only [activeFdOutBusy] at done
  split_ifs at done <;> cases done
  · exact .inr ⟨_, .sent, _, _, sent.modify (SameControl.busy _ false),
      by simp [World.applyTransfer], rfl, rfl⟩
  · exact .inl (by simp [World.applyTransfer])
  · exact .inl (by simp [World.applyTransfer])

theorem activeFdOut_announces (done : activeFdOut x sys w = .ok w') :
    transfers w'.trace = transfers w.trace ∨ Announces x w w' := by
  simp only [activeFdOut] at done
  split_ifs at done
  · exact activeFdOutBusy_announces done
  · split at done
    next sock dequeued =>
      obtain same | ⟨middle, name, type, srcptr, steps, same, transfer, raised⟩ :=
        activeFdOutBusy_announces done
      · exact .inl (by simpa using same)
      · refine .inr ⟨middle, name, type, srcptr, ?_, by simpa using same, transfer, raised⟩
        have same := (dequeue_sameControl dequeued).trans (SameControl.busy sock true)
        exact ((SocketSteps.refl w).modify same).trans steps
    next => exact .inl (transfers_resetOut done)

theorem transfers_finish2 (done : finish2 x w = .ok w') :
    transfers w'.trace = transfers w.trace := by
  simp only [finish2, World.stopped] at done
  split_ifs at done
  cases done
  simp [EventId.isTransfer]

theorem transfers_finish1 (done : finish1 x sys w = .ok w') :
    transfers w'.trace = transfers w.trace := by
  obtain ⟨closed, closing, rest⟩ := bind_eq_ok.mp done
  have before := transfers_netCloseFd closing
  simpa [before] using transfers_finish2 rest

/-- A nested action announces nothing. -/
def Unannounced (action : ActionCall) : Prop :=
  ∀ y type w w', action y type w = .ok w' → transfers w'.trace = transfers w.trace

/-- Only the descriptor events of an active socket announce a transfer. -/
theorem CellRun.announces (nested : Unannounced action)
    (run : CellRun action x sys src type label w w') :
    transfers w'.trace = transfers w.trace ∨ src = kNetSockSrcFd ∧ Announces x w w' := by
  cases run with
  | start | listen | connect | beingAccepted | accept | acceptAgain | acceptDone | ignored =>
      exact .inl rfl
  | started | activate => exact .inl (by simp)
  | accepted _ _ done | connected _ _ done | activeError _ _ done | cancel _ _ done =>
      cases done
      exact .inl (by simp [EventId.isTransfer, World.asyncStop])
  | refused _ _ done => exact .inl (transfers_closeAndFail done)
  | connectingOut _ _ done => exact .inl (transfers_connectingFdOut done)
  | connectingErr _ _ done | activeErr _ _ done | removed _ _ done =>
      exact .inl (transfers_removeAndFail done)
  | activeIn source _ done => exact (activeFdIn_announces done).imp_right fun said => ⟨source, said⟩
  | activeOut source _ done =>
      exact (activeFdOut_announces done).imp_right fun said => ⟨source, said⟩
  | acceptIn _ _ done => exact .inl (transfers_acceptingFdIn done)
  | cancelled _ _ done =>
      obtain ⟨removed, removing, rest⟩ := bind_eq_ok.mp done
      have before := transfers_rmFd removing
      dsimp only at rest
      split at rest
      next => cases rest
      next y paired => exact .inl ((nested _ _ _ _ rest).trans before)

theorem transfers_internalTask (w : World) (x : SockId) (name : TaskName) :
    transfers (w.internalTask x name).trace = transfers w.trace := by
  cases name <;> simp [World.internalTask, World.setOut, World.setIn]

theorem FedRun.announces (nested : Unannounced action) (run : FedRun action x sys src type w w') :
    transfers w'.trace = transfers w.trace ∨ src = kNetSockSrcFd ∧ Announces x w w' := by
  cases run with
  | internal name other event => exact .inl (transfers_internalTask w x name)
  | cell running falls run listed =>
      obtain same | ⟨source, middle, name, kind, srcptr, steps, said⟩ := run.announces nested
      · exact .inl same
      · exact .inr ⟨source, middle, name, kind, srcptr,
          (SocketSteps.refl w).report.trans steps, said⟩
  | released _ _ _ done => exact .inl (transfers_finish2 done)
  | ignored => exact .inl rfl
  | finished _ _ _ removing done =>
      exact .inl ((transfers_finish1 done).trans (transfers_rmFd removing))
  | badState => exact .inl rfl

theorem unannounced_within (sys : Sys) (depth : Nat) : Unannounced (actionWithin sys depth) := by
  induction depth with
  | zero =>
      intro y type w w' done
      obtain ⟨_, fed⟩ := check_eq_ok.mp done
      cases fed
  | succ depth ih =>
      intro y type w w' done
      obtain ⟨positive, fed⟩ := check_eq_ok.mp done
      have notStop : ¬(kNetFsmAction = kNetFsmAction ∧ type = kNetFsmStop) := by
        rintro ⟨_, rfl⟩
        exact absurd positive (by decide)
      obtain same | ⟨source, _⟩ := (feedWithin_run notStop fed).announces ih
      · exact same
      · exact absurd source (by decide)

theorem unannounced_nested (sys : Sys) : Unannounced (nestedAction sys) := unannounced_within sys 1

/-- An action that is fed from outside announces nothing. -/
theorem FedRun.unannounced (run : FedRun (nestedAction sys) x sys kNetFsmAction type w w') :
    transfers w'.trace = transfers w.trace := by
  obtain same | ⟨source, _⟩ := run.announces (unannounced_nested sys)
  · exact same
  · exact absurd source (by decide)

theorem StartRun.unannounced (run : StartRun x w w') :
    transfers w'.trace = transfers w.trace := by
  cases run with
  | started => rfl
  | reported => rfl

theorem StopRun.unannounced (run : StopRun x sys w w') :
    transfers w'.trace = transfers w.trace := by
  cases run with
  | inactive | idle | pairing | removing => rfl
  | done _ _ finishing => exact (transfers_finish2 finishing).trans rfl
  | closed _ _ finishing => exact (transfers_finish1 finishing).trans rfl
  | running => simp [World.asyncStop, EventId.isTransfer, World.beginStop]

/-- No public operation announces a transfer. -/
theorem CallRun.unannounced {op : SocketCall} (run : CallRun sys w op w') :
    transfers w'.trace = transfers w.trace := by
  cases run with
  | noSocket answer => simp
  | start answer initialising starting =>
      rw [starting.unannounced, transfers_initFromFd initialising]
      simp
  | startFd initialising starting fed =>
      rw [fed.unannounced, starting.unannounced, transfers_initFromFd initialising]
  | asks asking plain => simp
  | listen state fed =>
      rw [fed.unannounced]
      simp
  | @accept x listener begun accepting starting fed mine theirs =>
      have before : transfers begun.trace = transfers w.trace := by
        cases starting with
        | begins starting fed => exact fed.unannounced.trans starting.unannounced
        | busy used => rfl
      simpa [fed.unannounced] using before
  | activate fed => exact fed.unannounced
  | connectDone fed answer finishing =>
      rw [finishing.unannounced]
      simpa using fed.unannounced
  | connectFails fed answer failing =>
      rw [failing.unannounced]
      simpa using fed.unannounced
  | connecting fed answer => simpa using fed.unannounced
  | asyncSendMsg x msg =>
      simp only [World.asyncSendMsg, World.trace_execute, transfers_append, transfers_execute,
        transfers_nil, List.append_nil]
      rfl
  | execute task => simp
  | stop stopping => exact stopping.unannounced
  | asyncStop x => simp [World.asyncStop, EventId.isTransfer]

end Cells

/-! ## Steps that do not concern an event -/

/-- The event object, the queues that it is in and what became of it are as before. -/
structure SameEvent (event : EventId) (w w' : World) : Prop where
  eventAt_eq : w'.eventAt event = w.eventAt event
  raises_eq : raisesOf event w'.trace = raisesOf event w.trace
  deliveries_eq : deliveriesOf event w'.trace = deliveriesOf event w.trace
  count_eq : ∀ thread place,
    (places w' thread place).count event = (places w thread place).count event

namespace SameEvent

variable {event : EventId} {w w' w'' : World}

theorem refl (event : EventId) (w : World) : SameEvent event w w :=
  ⟨rfl, rfl, rfl, fun _ _ => rfl⟩

theorem trans (first : SameEvent event w w') (second : SameEvent event w' w'') :
    SameEvent event w w'' :=
  ⟨second.eventAt_eq.trans first.eventAt_eq, second.raises_eq.trans first.raises_eq,
    second.deliveries_eq.trans first.deliveries_eq,
    fun thread place => (second.count_eq thread place).trans (first.count_eq thread place)⟩

theorem of_quiet (quiet : World.Quiet w w') : SameEvent event w w' where
  eventAt_eq := congrFun (congrFun (congrArg EventView.event quiet.view_eq) event.sock) event.name
  raises_eq := quiet.filterMap_eq fun effect silent => by
    cases effect <;> first | rfl | cases silent
  deliveries_eq := quiet.filterMap_eq fun effect silent => by
    cases effect <;> first | rfl | cases silent
  count_eq thread _ := by rw [quiet.places_eq thread]

/-- Another event is put into a queue. -/
theorem of_push {other : EventId} (different : other ≠ event) {payload : Payload}
    (eventAt : w'.eventAt event = w.eventAt event)
    (trace : w'.trace = w.trace ++ [.raise other payload])
    (pushed : ∀ thread, places w' thread = places w thread ∨ ∃ place, places w' thread =
      Function.update (places w thread) place (places w thread place ++ [other])) :
    SameEvent event w w' := by
  refine ⟨eventAt, ?_, ?_, fun thread place => ?_⟩
  · simp [trace, raisesOf, Effect.raiseOf, different]
  · simp [trace, deliveriesOf, Effect.deliveryOf]
  · obtain same | ⟨queue, same⟩ := pushed thread
    · rw [same]
    · rw [same, Function.update_apply]
      split_ifs with equal
      · subst equal
        rw [List.count_append, List.count_singleton, beq_false_of_ne different]
        rfl
      · rfl

theorem raise {x : SockId} {name : EventName} (different : (⟨x, name⟩ : EventId) ≠ event)
    (type : Int) (srcptr : Pointer) : SameEvent event w (w.raise x name type srcptr) := by
  refine of_push different ?_ (w.trace_raise x name type srcptr) fun thread => ?_
  · rw [World.eventAt_raise, if_neg (Ne.symm different)]
  · cases queued : (w.eventAt ⟨x, name⟩).inQueue with
    | false => exact .inr ⟨_, places_raise thread queued⟩
    | true =>
        refine .inl ?_
        rw [World.raise, World.ctxRaise, World.eventAt_setEvent, if_pos rfl]
        change places (if (w.eventAt ⟨x, name⟩).inQueue then _ else _) thread = _
        rw [queued, if_pos rfl, places_setEvent]
        rfl

theorem raiseTo {x dst : SockId} {name : EventName} (different : (⟨dst, name⟩ : EventId) ≠ event)
    (src type : Int) (srcptr : Pointer) :
    SameEvent event w (w.raiseTo x dst name src type srcptr) := by
  refine of_push different ?_ (w.trace_raiseTo x dst name src type srcptr) fun thread => ?_
  · rw [World.eventAt_raiseTo, if_neg (Ne.symm different)]
  · cases queued : (w.eventAt ⟨dst, name⟩).inQueue with
    | false => exact .inr ⟨_, places_raiseTo thread queued⟩
    | true =>
        refine .inl ?_
        rw [World.raiseTo, World.ctxRaiseTo, World.eventAt_setEvent, if_pos rfl]
        change places (if (w.eventAt ⟨dst, name⟩).inQueue then _ else _) thread = _
        rw [queued, if_pos rfl, places_setEvent]
        rfl

/-- Socket code that does not raise the event leaves it alone. -/
theorem of_steps {may : Entitled} (steps : SocketSteps may w w')
    (unraised : (raisedIn w'.trace).count event = (raisedIn w.trace).count event) :
    SameEvent event w w' := by
  induction steps with
  | refl => exact .refl event w
  | @tail middle last before step ih =>
      have grown : (raisedIn w.trace).count event ≤ (raisedIn middle.trace).count event := by
        rw [raisedIn_since (SocketSteps.grows before), List.count_append]
        exact Nat.le_add_right _ _
      have raised {other : EventId} {payload : Payload}
          (last_eq : last.trace = middle.trace ++ [.raise other payload]) :
          other ≠ event ∧ (raisedIn middle.trace).count event = (raisedIn w.trace).count event := by
        have counted : (raisedIn last.trace).count event =
            (raisedIn middle.trace).count event + [other].count event := by
          rw [last_eq, raisedIn_append, List.count_append]
          rfl
        rw [unraised] at counted
        refine ⟨?_, by omega⟩
        rintro rfl
        rw [List.count_singleton_self] at counted
        omega
      obtain quiet | ⟨x, name, type, srcptr, _, rfl⟩ | ⟨x, dst, name, src, type, srcptr, _, rfl⟩ :=
        step.quiet_or_raised
      · have same : SameEvent event middle last := of_quiet quiet
        refine (ih ?_).trans same
        rw [← raisesOf_length, ← same.raises_eq, raisesOf_length, unraised]
      · obtain ⟨different, early⟩ := raised (middle.trace_raise x name type srcptr)
        exact (ih early).trans (raise different type srcptr)
      · obtain ⟨different, early⟩ := raised (middle.trace_raiseTo x dst name src type srcptr)
        exact (ih early).trans (raiseTo different src type srcptr)

/-- Socket code that announces no transfer leaves the announcements alone. -/
theorem of_transfers {may : Entitled} (steps : SocketSteps may w w')
    (transfer : event.isTransfer = true) (same : transfers w'.trace = transfers w.trace) :
    SameEvent event w w' := by
  have counted (trace : List Effect) :
      (raisedIn trace).count event = (transfers trace).count event :=
    (List.count_filter transfer).symm
  refine of_steps steps ?_
  rw [counted, same, counted]

theorem setEvent {other : EventId} (different : event ≠ other)
    (change : NetFsmEvent → NetFsmEvent) : SameEvent event w (w.setEvent other change) where
  eventAt_eq := by rw [World.eventAt_setEvent, if_neg different]
  raises_eq := rfl
  deliveries_eq := rfl
  count_eq thread _ := by rw [places_setEvent]

theorem unqueueEvent {other : EventId} (different : event ≠ other) :
    SameEvent event w (w.unqueueEvent other) := setEvent different _

theorem takeEvent {other : EventId} (different : event ≠ other) :
    SameEvent event w (w.takeEvent other) where
  eventAt_eq := by
    rw [World.takeEvent, World.eventAt_setEvent, if_neg different]
    rfl
  raises_eq := by
    change raisesOf event (w.trace ++ [.deliver other (w.eventAt other).payload]) = _
    simp [raisesOf, Effect.raiseOf]
  deliveries_eq := by
    change deliveriesOf event (w.trace ++ [.deliver other (w.eventAt other).payload]) = _
    simp [deliveriesOf, Effect.deliveryOf, Ne.symm different]
  count_eq thread _ := by
    rw [World.takeEvent, places_setEvent]
    rfl

/-- The internal queue of a context changes, but not in the event. -/
theorem setEvents {ctx : SockId} {events : List EventId}
    (count : events.count event = (w.sock ctx).ctx.events.count event) :
    SameEvent event w (w.setEvents ctx events) where
  eventAt_eq := w.eventAt_setCtx ctx _ event
  raises_eq := rfl
  deliveries_eq := rfl
  count_eq thread place := by
    rw [World.setEvents, places_setCtx_events _ _ _ rfl, Function.update_apply]
    split_ifs with equal
    · rw [equal]
      exact count
    · rfl

theorem clearEventsto {ctx : SockId} (count : (w.sock ctx).ctx.eventsto.count event = 0) :
    SameEvent event w (w.clearEventsto ctx) where
  eventAt_eq := w.eventAt_setCtx ctx _ event
  raises_eq := rfl
  deliveries_eq := rfl
  count_eq thread place := by
    rw [World.clearEventsto, places_setCtx_eventsto _ _ _ rfl, Function.update_apply]
    split_ifs with equal
    · rw [equal]
      exact count.symm
    · rfl

end SameEvent

/-! ## Where an announcement is -/

/-- An announcement is nowhere, in the internal queue of its own context while a thread holds that
context, or popped by a thread that holds it. -/
inductive Announced (event : EventId) (r : Runtime) : Prop
  | settled (unmarked : (r.world.eventAt event).inQueue = false)
      (nowhere : ∀ place, (places r.world r.thread place).count event = 0)
      (equal : raisesOf event r.world.trace = deliveriesOf event r.world.trace)
  | queued (k : WorkerId) (holds : r.Holds k event.sock)
      (once : ∀ place, (places r.world r.thread place).count event =
        if place = .events event.sock then 1 else 0)
      (waiting : raisesOf event r.world.trace =
        deliveriesOf event r.world.trace ++ [(r.world.eventAt event).payload])
  | popped (k : WorkerId) (rest : List Frame)
      (top : (r.thread k).frames = .process event.sock event :: rest)
      (unmarked : (r.world.eventAt event).inQueue = false)
      (once : ∀ place, (places r.world r.thread place).count event =
        if place = .thread k then 1 else 0)
      (waiting : raisesOf event r.world.trace =
        deliveriesOf event r.world.trace ++ [(r.world.eventAt event).payload])

namespace Announced

variable {event : EventId} {r r' : Runtime} {k : WorkerId} {w' : World} {frames : List Frame}

/-- A thread that holds the announcement is about to process it. -/
theorem top_of_held (announced : Announced event r)
    (held : 0 < (places r.world r.thread (.thread k)).count event) :
    ∃ rest, (r.thread k).frames = .process event.sock event :: rest := by
  cases announced with
  | settled unmarked nowhere equal => simp [nowhere] at held
  | queued j holds once waiting => simp [once] at held
  | popped j rest top unmarked once waiting =>
      rw [once] at held
      split_ifs at held with own
      · cases own
        exact ⟨rest, top⟩
      · cases held

/-- It is in no queue but the internal one of its own context. -/
theorem own_of_events (announced : Announced event r) {ctx : SockId}
    (queued : 0 < (places r.world r.thread (.events ctx)).count event) : ctx = event.sock := by
  cases announced with
  | settled unmarked nowhere equal => simp [nowhere] at queued
  | queued j holds once waiting =>
      rw [once] at queued
      split_ifs at queued with own
      · cases own
        rfl
      · cases queued
  | popped j rest top unmarked once waiting => simp [once] at queued

theorem not_external (announced : Announced event r) (ctx : SockId) :
    (places r.world r.thread (.eventsto ctx)).count event = 0 := by
  cases announced with
  | settled unmarked nowhere equal => exact nowhere _
  | queued j holds once waiting => simp [once]
  | popped j rest top unmarked once waiting => simp [once]

/-- While nobody holds its context, everything has been delivered. -/
theorem settled_of_free (announced : Announced event r) (free : r.locked event.sock = false) :
    (r.world.eventAt event).inQueue = false ∧
      (∀ place, (places r.world r.thread place).count event = 0) ∧
        raisesOf event r.world.trace = deliveriesOf event r.world.trace := by
  have unheld (j : WorkerId) (holds : r.Holds j event.sock) : False := by
    rw [Runtime.locked_iff.mpr ⟨j, holds⟩] at free
    cases free
  cases announced with
  | settled unmarked nowhere equal => exact ⟨unmarked, nowhere, equal⟩
  | queued j holds once waiting => exact (unheld j holds).elim
  | popped j rest top unmarked once waiting =>
      exact (unheld j ⟨.process event.sock event, by simp [top], rfl⟩).elim

/-- A step that does not concern the announcement. -/
theorem carried (announced : Announced event r) (same : SameEvent event r.world r'.world)
    (count : ∀ place, (places r'.world r'.thread place).count event =
      (places r'.world r.thread place).count event)
    (held : 0 < (places r.world r.thread (.events event.sock)).count event →
      ∀ k, r.Holds k event.sock → ∃ j, r'.Holds j event.sock)
    (stays : ∀ k rest, (r.thread k).frames = .process event.sock event :: rest →
      (r'.thread k).frames = .process event.sock event :: rest) : Announced event r' := by
  have counted (place : Place) : (places r'.world r'.thread place).count event =
      (places r.world r.thread place).count event :=
        (count place).trans (same.count_eq r.thread place)
  have equal_eq : raisesOf event r'.world.trace = raisesOf event r.world.trace ∧
      deliveriesOf event r'.world.trace = deliveriesOf event r.world.trace :=
    ⟨same.raises_eq, same.deliveries_eq⟩
  cases announced with
  | settled unmarked nowhere equal =>
      exact .settled (by rw [same.eventAt_eq, unmarked]) (fun place => by rw [counted, nowhere])
        (by rw [equal_eq.1, equal_eq.2, equal])
  | queued j holds once waiting =>
      obtain ⟨holder, holds⟩ := held (by simp [once]) j holds
      exact .queued holder holds (fun place => by rw [counted, once])
        (by rw [equal_eq.1, equal_eq.2, same.eventAt_eq, waiting])
  | popped j rest top unmarked once waiting =>
      exact .popped j rest (stays j rest top) (by rw [same.eventAt_eq, unmarked])
        (fun place => by rw [counted, once])
        (by rw [equal_eq.1, equal_eq.2, same.eventAt_eq, waiting])

/-- The threads stay where they are. -/
theorem still (announced : Announced event r) (same : SameEvent event r.world r'.world)
    (frames : ∀ k, (r'.thread k).frames = (r.thread k).frames) : Announced event r' := by
  refine announced.carried same (fun place => ?_) (fun _ k holds => ⟨k, ?_⟩) (fun k rest top => ?_)
  · cases place with
    | events ctx => rfl
    | eventsto ctx => rfl
    | thread k => simp [places, frames]
  · simpa [Runtime.Holds, frames] using holds
  · rw [frames, top]

/-- A thread moves on in a way that does not concern the announcement. -/
theorem moves (announced : Announced event r) (same : SameEvent event r.world w')
    (held : (frames.flatMap Frame.held).count event =
      ((r.thread k).frames.flatMap Frame.held).count event)
    (other : ∀ rest, (r.thread k).frames ≠ .process event.sock event :: rest)
    (keeps : 0 < (places r.world r.thread (.events event.sock)).count event →
      r.Holds k event.sock → ∃ frame ∈ frames, frame.holds = some event.sock)
    (thread : r'.thread = (r.setFrames k frames).thread) (world : r'.world = w') :
    Announced event r' := by
  refine announced.carried (world ▸ same) (fun place => ?_) (fun queued j holds => ?_)
    (fun j rest top => ?_)
  · rw [thread, places_setFrames, Function.update_apply]
    split_ifs with equal
    · rw [equal, held]
      rfl
    · rfl
  · by_cases equal : j = k
    · subst equal
      obtain ⟨frame, member, frame_holds⟩ := keeps queued holds
      exact ⟨j, frame, by simpa [thread, Runtime.setFrames] using member, frame_holds⟩
    · obtain ⟨frame, member, frame_holds⟩ := holds
      exact ⟨j, frame, by simpa [thread, Runtime.setFrames, equal] using member, frame_holds⟩
  · have equal : j ≠ k := by
      rintro rfl
      exact other rest top
    simpa [thread, Runtime.setFrames, equal] using top

/-- A thread whose innermost frame does not process the announcement holds no copy of it. -/
theorem unheld (announced : Announced event r) {frame : Frame} {rest : List Frame}
    (frames : (r.thread k).frames = frame :: rest)
    (other : frame ≠ .process event.sock event) :
    ((r.thread k).frames.flatMap Frame.held).count event = 0 := by
  rw [← Nat.le_zero, ← Nat.not_lt]
  intro held
  obtain ⟨below, top⟩ := announced.top_of_held held
  rw [frames] at top
  exact other (List.cons.inj top).1

/-- Socket code raises the announcement while no other thread is in its context. -/
theorem raised (announced : Announced event r) (free : r.locked event.sock = false)
    {middle : World} (before : SameEvent event r.world middle) {type : Int} {srcptr : Pointer}
    (world : r'.world = middle.raise event.sock event.name type srcptr)
    (same : ∀ place, (places middle r'.thread place).count event =
      (places middle r.thread place).count event)
    (holds : r'.Holds k event.sock) : Announced event r' := by
  obtain ⟨unmarked, nowhere, equal⟩ := announced.settled_of_free free
  have unqueued : (middle.eventAt ⟨event.sock, event.name⟩).inQueue = false := by
    change (middle.eventAt event).inQueue = false
    rw [before.eventAt_eq, unmarked]
  refine .queued k holds (fun place => ?_) ?_
  · rw [world, places_raise r'.thread unqueued, Function.update_apply]
    split_ifs with own
    · have one : [event].count event = 1 := by simp
      rw [List.count_append, same, before.count_eq, nowhere, Nat.zero_add]
      exact one
    · rw [same, before.count_eq, nowhere]
  · have raised : raisesOf event [.raise ⟨event.sock, event.name⟩
        (middle.raisedPayload event.sock type srcptr)] =
          [middle.raisedPayload event.sock type srcptr] := by
      simp [raisesOf, Effect.raiseOf]
    have undelivered : deliveriesOf event [.raise ⟨event.sock, event.name⟩
        (middle.raisedPayload event.sock type srcptr)] = [] := rfl
    rw [world, World.trace_raise, World.eventAt_raise, if_pos rfl, raisesOf_append,
      deliveriesOf_append, before.raises_eq, before.deliveries_eq, equal, raised, undelivered,
      List.append_nil]

/-- The thread that has popped the announcement processes it. -/
theorem processed (announced : Announced event r) {rest : List Frame}
    (top : (r.thread k).frames = .process event.sock event :: rest) {ctx : SockId}
    (thread : r'.thread = (r.setFrames k (.drain ctx :: rest)).thread)
    (world : r'.world = r.world.takeEvent event) : Announced event r' := by
  have here : 0 < (places r.world r.thread (.thread k)).count event := by
    simp [places, top, Frame.held]
  cases announced with
  | settled unmarked nowhere equal => simp [nowhere] at here
  | queued j holds once waiting => simp [once] at here
  | popped j below _ unmarked once waiting =>
      have own : k = j := by
        rw [once] at here
        split_ifs at here with same
        · cases same
          rfl
        · cases here
      subst own
      have stored : (r'.world.eventAt event).inQueue = false := by
        rw [world, World.takeEvent, World.eventAt_setEvent, if_pos rfl]
        exact unmarked
      have trace : r'.world.trace =
          r.world.trace ++ [.deliver event (r.world.eventAt event).payload] := by
        rw [world]
        rfl
      refine .settled stored (fun place => ?_) ?_
      · have held := once (.thread k)
        simp only [places, top, List.flatMap_cons, Frame.held, List.count_append,
          List.count_singleton_self, if_true] at held
        rw [thread, world, World.takeEvent, places_setEvent, places_setFrames,
          Function.update_apply]
        split_ifs with equal
        · simp only [List.flatMap_cons, Frame.held, List.nil_append]
          omega
        · have none := once place
          rwa [if_neg equal] at none
      · rw [trace, raisesOf_append, deliveriesOf_append, waiting]
        simp [raisesOf, deliveriesOf, Effect.raiseOf, Effect.deliveryOf]

/-- The announcement comes to the front of the internal queue of its context. -/
theorem popped_front (announced : Announced event r) {rest : List Frame} {events : List EventId}
    (top : (r.thread k).frames = .drain event.sock :: rest)
    (front : (r.world.sock event.sock).ctx.events = event :: events)
    (thread : r'.thread = (r.setFrames k (.process event.sock event :: rest)).thread)
    (world : r'.world = (r.world.setEvents event.sock events).unqueueEvent event) :
    Announced event r' := by
  have here : 0 < (places r.world r.thread (.events event.sock)).count event := by
    simp [places, front]
  cases announced with
  | settled unmarked nowhere equal => simp [nowhere] at here
  | popped j below _ unmarked once waiting => simp [once] at here
  | queued j holds once waiting =>
      have single := once (.events event.sock)
      simp only [places, front, List.count_cons_self, if_true] at single
      have unheld := once (.thread k)
      simp only [places, top, List.flatMap_cons, Frame.held, List.nil_append, reduceCtorEq,
        if_false] at unheld
      have payload : (r'.world.eventAt event).payload = (r.world.eventAt event).payload := by
        rw [world, payload_unqueueEvent]
        exact congrArg NetFsmEvent.payload (r.world.eventAt_setCtx event.sock _ event)
      refine .popped k rest (by simp [thread, Runtime.setFrames]) ?_ (fun place => ?_) ?_
      · rw [world, inQueue_unqueueEvent]
        simp
      · rw [thread, world, World.unqueueEvent, places_setEvent, places_setFrames,
          Function.update_apply]
        split_ifs with own
        · simp only [List.flatMap_cons, Frame.held, List.count_append, List.count_singleton_self,
            unheld]
        · rw [World.setEvents, places_setCtx_events _ _ _ rfl, Function.update_apply]
          split_ifs with queue
          · exact Nat.succ.inj single
          · have none := once place
            rwa [if_neg queue] at none
      · rw [payload, world]
        exact waiting

/-- A critical section feeds a machine. -/
theorem fed (announced : Announced event r) (transfer : event.isTransfer = true) {sys : Sys}
    {body : Body} {ctx : SockId} {src type : Int} {rest : List Frame}
    (top : (r.thread k).frames = .enter body :: rest) (fed : body.fed = some (ctx, src, type))
    (free : r.locked ctx = false) (done : feed sys ctx src type r.world = .ok w')
    (thread : r'.thread = (r.setFrames k (.drain ctx :: rest)).thread) (world : r'.world = w') :
    Announced event r' := by
  have plain : Frame.held (.enter body) = [] := by
    cases body with
    | task task => rfl
    | fd x pevent => rfl
    | event other => cases fed
  have held : ((.drain ctx :: rest).flatMap Frame.held) =
      (r.thread k).frames.flatMap Frame.held := by
    rw [top, List.flatMap_cons, List.flatMap_cons, plain]
    rfl
  have elsewhere (same : SameEvent event r.world w') : Announced event r' := by
    refine announced.moves same (congrArg (List.count event) held) (by simp [top]) ?_ thread world
    rintro _ ⟨frame, member, holds⟩
    rw [top] at member
    obtain rfl | below := List.mem_cons.mp member
    · cases holds
    · exact ⟨frame, List.mem_cons_of_mem _ below, holds⟩
  obtain same | ⟨_, middle, name, kind, srcptr, steps, same, announces, raised⟩ :=
    (feed_run (Body.fed_not_stop fed) done).announces (unannounced_nested sys)
  · exact elsewhere (.of_transfers (Body.fed_steps fed done : SocketSteps .all _ _) transfer same)
  · have before := SameEvent.of_transfers steps transfer same
    by_cases equal : (⟨ctx, name⟩ : EventId) = event
    · subst equal
      refine announced.raised (k := k) free before (world.trans raised) (fun place => ?_) ?_
      · rw [thread, places_setFrames_same _ held]
      · exact ⟨.drain ctx, by simp [thread, Runtime.setFrames], rfl⟩
    · exact elsewhere (before.trans (raised ▸ .raise equal kind srcptr))

end Announced

theorem socketOwner_takes {sys : Sys} {event : EventId} {w w' : World}
    (done : socketOwner.process sys event w = .ok w') : w' = w.takeEvent event := by
  simp only [Owner.process] at done
  split_ifs at done
  split at done
  next => cases done
  next => exact (Except.ok.inj done).symm

namespace Announced

variable {event : EventId} {r r' : Runtime} {k : WorkerId}

/-- A thread takes the next event of the context that it drains. -/
theorem popEvent (announced : Announced event r) (locking : r.Locking) {ctx : SockId}
    {rest : List Frame} {other : EventId} {events : List EventId}
    (top : (r.thread k).frames = .drain ctx :: rest)
    (front : (r.world.sock ctx).ctx.events = other :: events)
    (thread : r'.thread = (r.setFrames k (.process ctx other :: rest)).thread)
    (world : r'.world = (r.world.setEvents ctx events).unqueueEvent other) :
    Announced event r' := by
  by_cases equal : other = event
  · subst equal
    obtain rfl : ctx = other.sock := announced.own_of_events (by simp [places, front])
    exact announced.popped_front top front thread world
  · have kept : SameEvent event r.world ((r.world.setEvents ctx events).unqueueEvent other) := by
      have dropped : SameEvent event r.world (r.world.setEvents ctx events) :=
        .setEvents (by rw [front, List.count_cons_of_ne equal])
      exact dropped.trans (.unqueueEvent (Ne.symm equal))
    refine announced.moves kept ?_ (by simp [top]) ?_ thread world
    · simp [top, Frame.held, List.count_cons_of_ne equal]
    · intro _ holds
      have own := locking.single holds ⟨.drain ctx, by simp [top], rfl⟩
      exact ⟨.process ctx other, by simp, congrArg some own.symm⟩

theorem step {label : RuntimeLabel SocketCall} (announced : Announced event r)
    (locking : r.Locking) (transfer : event.isTransfer = true)
    (step : RuntimeStep socketOwner r label r') : Announced event r' := by
  cases step with
  | @call sys op w called =>
      have steps : SocketSteps .all r.world w := SocketCall.run_steps (fun _ _ => trivial) called
      exact announced.still
        (.of_transfers steps transfer (SocketCall.run_callRun called).unannounced) fun _ => rfl
  | @poll k x pevent idle =>
      refine announced.moves (.refl event r.world) ?_ (by simp [idle]) ?_ rfl rfl
      · simp [idle, Frame.held]
      · rintro _ ⟨frame, member, _⟩
        simp [idle] at member
  | @snapshot k idle empty =>
      refine announced.still (.of_quiet ⟨r.world.view_modifyWorker _ _, List.prefix_rfl⟩)
        fun j => ?_
      by_cases equal : j = k
      · subst equal
        simp [Runtime.setTasks]
      · simp [Runtime.setTasks, equal]
  | @pop k task tasks idle front =>
      have same : World.Quiet r.world (r.world.unqueueTask task) :=
        ⟨r.world.view_modify _ _ rfl rfl rfl, List.prefix_rfl⟩
      have turned : Announced event
          { r.setTasks k tasks with world := r.world.unqueueTask task } := by
        refine announced.still (.of_quiet same) fun j => ?_
        by_cases equal : j = k
        · subst equal
          simp [Runtime.setTasks]
        · simp [Runtime.setTasks, equal]
      refine @moves _ _ _ k _ [.enter (.task task)] turned (.refl event _) ?_ ?_ ?_ rfl rfl
      · simp [Runtime.setTasks, idle, Frame.held]
      · simp [Runtime.setTasks, idle]
      · rintro _ ⟨frame, member, _⟩
        simp [Runtime.setTasks, idle] at member
  | @enter k sys body ctx rest w top context free ran =>
      cases body with
      | task task =>
          cases context
          exact announced.fed transfer top rfl free ran rfl rfl
      | fd x pevent =>
          cases context
          exact announced.fed transfer top rfl free ran rfl rfl
      | event other =>
          have different : event ≠ other := by
            rintro rfl
            have empty := announced.unheld top (by simp)
            simp [top, Frame.held] at empty
          obtain rfl := socketOwner_takes ran
          refine announced.moves (.takeEvent different) ?_ (by simp [top]) ?_ rfl rfl
          · simp [top, Frame.held, Ne.symm different]
          · rintro _ ⟨frame, member, holds⟩
            rw [top] at member
            obtain rfl | below := List.mem_cons.mp member
            · cases holds
            · exact ⟨frame, List.mem_cons_of_mem _ below, holds⟩
  | @popEvent k sys ctx rest other events top front =>
      exact announced.popEvent locking top front rfl rfl
  | @leave k sys ctx rest top drained =>
      have external := announced.not_external ctx
      refine announced.moves (.clearEventsto external) ?_ (by simp [top]) ?_ rfl rfl
      · have copied : (r.world.sock ctx).ctx.eventsto.count event = 0 := external
        simp [top, Frame.held, copied]
      · intro queued holds
        obtain rfl := locking.single holds ⟨.drain ctx, by simp [top], rfl⟩
        simp [places, drained] at queued
  | @process k sys ctx other rest w top processed =>
      obtain rfl := socketOwner_takes processed
      by_cases equal : other = event
      · subst equal
        obtain ⟨below, same⟩ := announced.top_of_held (k := k) (by simp [places, top, Frame.held])
        obtain ⟨frame_eq, rfl⟩ := List.cons.inj (top.symm.trans same)
        exact announced.processed same rfl rfl
      · refine announced.moves (.takeEvent (Ne.symm equal)) ?_ ?_ ?_ rfl rfl
        · simp [top, Frame.held, equal]
        · intro below same
          exact equal (Frame.process.inj (List.cons.inj (top.symm.trans same)).1).2
        · rintro _ ⟨frame, member, holds⟩
          rw [top] at member
          obtain rfl | below := List.mem_cons.mp member
          · exact ⟨.drain ctx, by simp, holds⟩
          · exact ⟨frame, List.mem_cons_of_mem _ below, holds⟩
  | @finish k sys rest top =>
      refine announced.moves (.refl event r.world) ?_ (by simp [top]) ?_ rfl rfl
      · simp [top, Frame.held]
      · rintro _ ⟨frame, member, holds⟩
        rw [top] at member
        obtain rfl | below := List.mem_cons.mp member
        · cases holds
        · exact ⟨frame, below, holds⟩
  | @external k sys other events rest top =>
      have different : event ≠ other := by
        rintro rfl
        have empty := announced.unheld top (by simp)
        simp [top, Frame.held] at empty
      refine announced.moves (.unqueueEvent different) ?_ (by simp [top]) ?_ rfl rfl
      · simp [top, Frame.held, Ne.symm different]
      · rintro _ ⟨frame, member, holds⟩
        rw [top] at member
        obtain rfl | below := List.mem_cons.mp member
        · cases holds
        · exact ⟨frame, by simp [below], holds⟩

theorem of_fresh (fresh : r.Fresh) (event : EventId) : Announced event r := by
  have delivers := fresh.delivers
  have absent : ¬Present (places r.world r.thread) event := by
    rintro ⟨place, member⟩
    cases place with
    | thread k => simp [places, fresh.thread k] at member
    | events x | eventsto x =>
        obtain ⟨memory, src, addr, worker, equal⟩ := fresh.socket x
        simp [places, equal, NetSocket.initialised] at member
  refine .settled ?_ (fun place => ?_) (delivers.settled absent)
  · rw [← Bool.not_eq_true]
    exact fun queued => absent (delivers.marked queued)
  · exact List.count_eq_zero.mpr fun member => absent ⟨place, member⟩

end Announced

/-- The announcements of transfers and what became of them. -/
structure Runtime.TransfersDelivered (r : Runtime) : Prop where
  /-- An announcement that is under way is the last one, and a thread is inside its context. -/
  waiting : ∀ event, event.isTransfer = true → r.InFlight event →
    (∃ k, r.Holds k event.sock) ∧ raisesOf event r.world.trace =
      deliveriesOf event r.world.trace ++ [(r.world.eventAt event).payload]
  /-- Once the context is left, its owner was fed every announcement, in order and unchanged. -/
  settled : ∀ event, event.isTransfer = true → r.locked event.sock = false →
    ¬r.InFlight event ∧ raisesOf event r.world.trace = deliveriesOf event r.world.trace

theorem Runtime.TransfersDelivered.of_announced {r : Runtime}
    (announced : ∀ event, event.isTransfer = true → Announced event r) : r.TransfersDelivered where
  waiting event transfer flying := by
    obtain ⟨place, member⟩ := flying
    cases announced event transfer with
    | settled unmarked nowhere equal =>
        exact absurd member (List.count_eq_zero.mp (nowhere place))
    | queued k holds once waiting => exact ⟨⟨k, holds⟩, waiting⟩
    | popped k rest top unmarked once waiting =>
        exact ⟨⟨k, .process event.sock event, by simp [top], rfl⟩, waiting⟩
  settled event transfer free := by
    obtain ⟨_, nowhere, equal⟩ := (announced event transfer).settled_of_free free
    refine ⟨?_, equal⟩
    rintro ⟨place, member⟩
    exact List.count_eq_zero.mp (nowhere place) member

/-- In every run, whatever is called at any time, the owner of a socket is fed each announcement of
a received or a sent message, once, in order and as it was raised, before the context of the socket
is left. -/
theorem transfers_delivered {initial final : Runtime} {labels : List (RuntimeLabel SocketCall)}
    (fresh : initial.Fresh) (execution : socketOwner.system.run initial labels = some final) :
    final.TransfersDelivered := by
  refine .of_announced fun event transfer => ?_
  have start : initial.Locking ∧ Announced event initial :=
    ⟨.of_idle fun k => congrArg Thread.frames (fresh.thread k), .of_fresh fresh event⟩
  have kept (before : Runtime) (label : RuntimeLabel SocketCall) (after : Runtime)
      (both : before.Locking ∧ Announced event before)
      (stepped : socketOwner.system.step before label = some after) :
      after.Locking ∧ Announced event after :=
    have step := Owner.step_runtimeStep stepped
    ⟨both.1.step step, both.2.step both.1 transfer step⟩
  exact (run_invariant kept start execution).2

/-- The first worker executes its next task and feeds the owner of the socket one event. -/
def executeTask : List (RuntimeLabel SocketCall) :=
  [.snapshot 0, .pop 0, .advance 0 {}, .advance 0 {}, .advance 0 {}]

/-- Socket 1 connects at once; its worker executes the queued task and feeds the owner. -/
def connectedLabels : List (RuntimeLabel SocketCall) :=
  [.call { socket := .fd 3 } (.start 1), .call { connect := 0 } (.connect 1)] ++ executeTask

/-- Socket 1 connects and sends a message.  It is stopped before its owner is told so. -/
def sendsOne : List (RuntimeLabel SocketCall) :=
  connectedLabels ++ [.advance 0 {}, .advance 0 {}, .call {} (.asyncSendMsg 1 .new)] ++
    executeTask ++ [.poll 0 1 .fdOut,
      .advance 0 { writeHeader := .accepts 31, writePayload := .accepts 31 }, .call {} (.stop 1)]

theorem transfers_delivered_stopped :
    ∃ final, socketOwner.system.run default sendsOne = some final ∧
      raisesOf ⟨1, .sent⟩ final.world.trace = [⟨0, kNetSockEventTypeSent, .sock 1⟩] ∧
      deliveriesOf ⟨1, .sent⟩ final.world.trace = [] ∧ (∃ k, final.Holds k 1) ∧
      final.TransfersDelivered := by
  have concrete : ∃ final, socketOwner.system.run default sendsOne = some final ∧
      raisesOf ⟨1, .sent⟩ final.world.trace = [⟨0, kNetSockEventTypeSent, .sock 1⟩] ∧
      deliveriesOf ⟨1, .sent⟩ final.world.trace = [] := by
    have computed : (socketOwner.system.run default sendsOne).any (fun final =>
        decide (raisesOf ⟨1, .sent⟩ final.world.trace = [⟨0, kNetSockEventTypeSent, .sock 1⟩]) &&
          decide (deliveriesOf ⟨1, .sent⟩ final.world.trace = [])) = true := by
      decide +kernel
    obtain ⟨final, execution, facts⟩ := (Option.any_eq_true _ _).mp computed
    rw [Bool.and_eq_true, decide_eq_true_eq, decide_eq_true_eq] at facts
    exact ⟨final, execution, facts⟩
  obtain ⟨final, execution, raises, deliveries⟩ := concrete
  have delivered := transfers_delivered Runtime.fresh_default execution
  have locked : final.locked 1 = true := by
    rw [← Bool.not_eq_false]
    intro free
    have equal := (delivered.settled ⟨1, .sent⟩ rfl free).2
    rw [raises, deliveries] at equal
    cases equal
  exact ⟨final, execution, raises, deliveries, Runtime.locked_iff.mp locked, delivered⟩

end Klibmsg
