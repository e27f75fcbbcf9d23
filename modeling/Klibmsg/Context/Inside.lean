import Klibmsg.Context.Log

/-!
# Inside a critical section

Between taking and releasing the lock, the two queues of the context hold the events that wait, and
no event that was queued on entry changes.  Proper calls, taking an event off and processing it keep
this, and the loop for the internal events leaves no internal event behind.
-/

namespace Klibmsg
namespace Context

variable {σ γ φ ε π : Type}

/-- All contexts are left: their locks are free and their queues are empty. -/
def Idle (s : State σ γ φ ε π) : Prop := ∀ ctx, s.ctx ctx = .init

/-- The fields of an item are those stored in its event object, and its machine has an owner. -/
structure Machines.Intact (machines : Machines σ γ φ ε π) (s : State σ γ φ ε π)
    (item : Item φ ε π) : Prop where
  stored : s.event item.event = item.fields
  owned : (machines.ownerOf item).isSome = true

theorem Machines.Intact.target {machines : Machines σ γ φ ε π} {s : State σ γ φ ε π}
    {item : Item φ ε π} (intact : machines.Intact s item) :
    ∃ fsm owner, item.fields.fsm = some fsm ∧ (machines.fsm fsm).owner = some owner := by
  obtain ⟨owner, owned⟩ := Option.isSome_iff_exists.mp intact.owned
  obtain ⟨fsm, target, found⟩ := Option.bind_eq_some_iff.mp owned
  exact ⟨fsm, owner, target, found⟩

/-- Inside a section of a context that was entered in another state: the queues hold the items that
wait, and the event objects that were in a queue on entry are as they were. -/
structure Inside [DecidableEq γ] (machines : Machines σ γ φ ε π) (entry : State σ γ φ ε π) (ctx : γ)
    (events eventsto : List (Item φ ε π)) (s : State σ γ φ ε π) : Prop where
  events_holds : NetQueue.Holds s.next (s.ctx ctx).events (events.map Item.event)
  eventsto_holds : NetQueue.Holds s.next (s.ctx ctx).eventsto (eventsto.map Item.event)
  disjoint : ∀ item ∈ events, ∀ other ∈ eventsto, item.event ≠ other.event
  intact : ∀ item ∈ events ++ eventsto, machines.Intact s item
  own : ∀ item ∈ events ++ eventsto, entry.next item.event = .absent
  locked : (s.ctx ctx).locked = true
  elsewhere : ∀ other, other ≠ ctx → s.ctx other = .init
  kept : ∀ event, entry.next event ≠ .absent →
    s.next event = entry.next event ∧ s.event event = entry.event event

namespace Inside

variable [DecidableEq γ] {machines : Machines σ γ φ ε π} {entry s : State σ γ φ ε π} {ctx : γ}
  {events eventsto : List (Item φ ε π)}

theorem note (inside : Inside machines entry ctx events eventsto s) (logged : Entry γ φ ε π) :
    Inside machines entry ctx events eventsto (s.note logged) where
  __ := inside
  intact item member := ⟨(inside.intact item member).stored, (inside.intact item member).owned⟩

theorem write (inside : Inside machines entry ctx events eventsto s) (memory : σ) :
    Inside machines entry ctx events eventsto { s with memory := memory } where
  __ := inside
  intact item member := ⟨(inside.intact item member).stored, (inside.intact item member).owned⟩

theorem marked (inside : Inside machines entry ctx events eventsto s) {item : Item φ ε π}
    (member : item ∈ events ++ eventsto) : s.next item.event ≠ .absent := by
  obtain here | there := List.mem_append.mp member
  · exact inside.events_holds.marked (List.mem_map_of_mem here)
  · exact inside.eventsto_holds.marked (List.mem_map_of_mem there)

/-- An event that is in no queue was in no queue on entry. -/
theorem unmarked_entry (inside : Inside machines entry ctx events eventsto s) {event : ε}
    (absent : s.next event = .absent) : entry.next event = .absent := by
  by_contra marked
  exact marked ((inside.kept event marked).1.symm.trans absent)

/-- The context whose lock is held is the one of the section. -/
theorem running (inside : Inside machines entry ctx events eventsto s) {other : γ}
    (held : (s.ctx other).locked = true) : other = ctx := by
  by_contra different
  rw [inside.elsewhere other different] at held
  cases held

variable [DecidableEq ε]

/-- The fields of an event in no queue may change. -/
theorem setEvent (inside : Inside machines entry ctx events eventsto s) {event : ε}
    (absent : s.next event = .absent) (fields : NetFsmEvent φ π) :
    Inside machines entry ctx events eventsto (s.setEvent event fields) where
  __ := inside
  intact item member := by
    have intact := inside.intact item member
    refine ⟨(Function.update_of_ne ?_ _ _).trans intact.stored, intact.owned⟩
    rintro rfl
    exact inside.marked member absent
  kept other marked := by
    have kept := inside.kept other marked
    refine ⟨kept.1, (Function.update_of_ne ?_ _ _).trans kept.2⟩
    rintro rfl
    exact marked (inside.unmarked_entry absent)

omit [DecidableEq ε] in
/-- The queues of the context may be replaced by queues that hold items of the old ones or items
that were in no queue. -/
theorem replace (inside : Inside machines entry ctx events eventsto s) {next : NextFields ε}
    {value : NetCtx ε} {events' eventsto' : List (Item φ ε π)} (locked : value.locked = true)
    (events_holds : NetQueue.Holds next value.events (events'.map Item.event))
    (eventsto_holds : NetQueue.Holds next value.eventsto (eventsto'.map Item.event))
    (disjoint : ∀ item ∈ events', ∀ other ∈ eventsto', item.event ≠ other.event)
    (origin : ∀ item ∈ events' ++ eventsto',
      item ∈ events ++ eventsto ∨ s.next item.event = .absent ∧ machines.Intact s item)
    (unchanged : ∀ event, s.next event ≠ .absent →
      (∀ item ∈ events ++ eventsto, item.event ≠ event) → next event = s.next event) :
    Inside machines entry ctx events' eventsto' { s.setCtx ctx value with next := next } := by
  have here : Function.update s.ctx ctx value ctx = value := Function.update_self ..
  constructor
  case events_holds =>
    change NetQueue.Holds next (Function.update s.ctx ctx value ctx).events _
    rwa [here]
  case eventsto_holds =>
    change NetQueue.Holds next (Function.update s.ctx ctx value ctx).eventsto _
    rwa [here]
  case disjoint => exact disjoint
  case intact =>
    intro item member
    obtain old | ⟨_, intact⟩ := origin item member
    · exact ⟨(inside.intact item old).stored, (inside.intact item old).owned⟩
    · exact ⟨intact.stored, intact.owned⟩
  case own =>
    intro item member
    obtain old | ⟨absent, _⟩ := origin item member
    · exact inside.own item old
    · exact inside.unmarked_entry absent
  case locked =>
    change (Function.update s.ctx ctx value ctx).locked = true
    rwa [here]
  case elsewhere =>
    intro other different
    exact (Function.update_of_ne different _ _).trans (inside.elsewhere other different)
  case kept =>
    intro event marked
    have kept := inside.kept event marked
    refine ⟨Eq.trans (unchanged event (kept.1 ▸ marked) ?_) kept.1, kept.2⟩
    rintro item member rfl
    exact marked (inside.own item member)

omit [DecidableEq ε] in
theorem disjoint_events (inside : Inside machines entry ctx events eventsto s) :
    ∀ event ∈ eventsto.map Item.event, event ∉ events.map Item.event := by
  intro event there here
  obtain ⟨other, waiting, rfl⟩ := List.mem_map.mp there
  obtain ⟨item, member, same⟩ := List.mem_map.mp here
  exact inside.disjoint item member other waiting same

/-- `NetCtx::Raise` for an event that is in no queue. -/
theorem raise (inside : Inside machines entry ctx events eventsto s) {item : Item φ ε π}
    (absent : s.next item.event = .absent) (intact : machines.Intact s item) :
    Inside machines entry ctx (events ++ [item]) eventsto (s.raise ctx item.event) := by
  refine inside.replace inside.locked ?_ ?_ ?_ ?_ ?_
  · rw [List.map_append, List.map_singleton]
    exact inside.events_holds.push absent
  · exact inside.events_holds.push_other inside.eventsto_holds absent inside.disjoint_events
  · intro first member other there
    obtain old | new := List.mem_append.mp member
    · exact inside.disjoint first old other there
    · rw [List.mem_singleton.mp new]
      intro same
      exact inside.marked (List.mem_append_right _ there) (same ▸ absent)
  · intro other member
    rw [List.append_assoc, List.singleton_append, List.mem_append, List.mem_cons] at member
    obtain old | rfl | there := member
    · exact .inl (List.mem_append_left _ old)
    · exact .inr ⟨absent, intact⟩
    · exact .inl (List.mem_append_right _ there)
  · intro event marked outside
    refine inside.events_holds.push_next ?_ fun found => ?_
    · rintro rfl
      exact marked absent
    · obtain ⟨other, waiting, same⟩ := List.mem_map.mp found
      exact outside other (List.mem_append_left _ waiting) same

/-- `NetCtx::RaiseTo` for an event that is in no queue. -/
theorem raiseTo (inside : Inside machines entry ctx events eventsto s) {item : Item φ ε π}
    (absent : s.next item.event = .absent) (intact : machines.Intact s item) :
    Inside machines entry ctx events (eventsto ++ [item]) (s.raiseTo ctx item.event) := by
  refine inside.replace inside.locked ?_ ?_ ?_ ?_ ?_
  · refine inside.eventsto_holds.push_other inside.events_holds absent fun event here there => ?_
    exact inside.disjoint_events event there here
  · rw [List.map_append, List.map_singleton]
    exact inside.eventsto_holds.push absent
  · intro first member other there
    obtain old | new := List.mem_append.mp there
    · exact inside.disjoint first member other old
    · rw [List.mem_singleton.mp new]
      intro same
      exact inside.marked (List.mem_append_left _ member) (same ▸ absent)
  · intro other member
    rw [← List.append_assoc, List.mem_append, List.mem_singleton] at member
    obtain old | rfl := member
    · exact .inl old
    · exact .inr ⟨absent, intact⟩
  · intro event marked outside
    refine inside.eventsto_holds.push_next ?_ fun found => ?_
    · rintro rfl
      exact marked absent
    · obtain ⟨other, waiting, same⟩ := List.mem_map.mp found
      exact outside other (List.mem_append_right _ waiting) same

/-- `events_.Pop()` takes the event that was raised first. -/
theorem pop {item : Item φ ε π}
    (inside : Inside machines entry ctx (item :: events) eventsto s) :
    (NetQueue.pop s.next (s.ctx ctx).events).1 = some item.event ∧
      let s' := s.setEvents ctx (NetQueue.pop s.next (s.ctx ctx).events).2
      Inside machines entry ctx events eventsto s' ∧ s'.next item.event = .absent ∧
        machines.Intact s' item := by
  obtain ⟨queue, popped, holds⟩ := inside.events_holds.pop_cons
  have intact := inside.intact item (List.mem_cons_self ..)
  have outside := inside.disjoint_events
  rw [popped]
  refine ⟨rfl, ?_, Function.update_self .., intact.stored, intact.owned⟩
  refine inside.replace inside.locked holds ?_ ?_ ?_ ?_
  · refine inside.eventsto_holds.congr fun event there => Function.update_of_ne ?_ _ _
    rintro rfl
    exact outside _ there (List.mem_cons_self ..)
  · exact fun first member => inside.disjoint first (List.mem_cons_of_mem _ member)
  · exact fun other member => .inl (List.mem_cons_of_mem _ member)
  · intro event marked different
    exact Function.update_of_ne (different item (List.mem_cons_self ..)).symm _ _

omit [DecidableEq γ] in
/-- A proper call finds its event in no queue. -/
theorem isInQueue_eq_false {event : ε} (fresh : s.isInQueue event = false) :
    s.next event = .absent := by
  simpa [State.isInQueue] using fresh

/-- A proper call of `NetFsm::Raise`. -/
theorem machine_raise (inside : Inside machines entry ctx events eventsto s) {fsm : φ} {event : ε}
    {type : Int} {srcptr : Option π}
    (proper : machines.Proper (.call (.raise ⟨event, machines.raised fsm type srcptr⟩)
      (s.ctx (machines.fsm fsm).ctx).locked (s.isInQueue event))) :
    (machines.raise fsm event type srcptr s).log =
        s.log ++ [Call.entry (.raise ⟨event, machines.raised fsm type srcptr⟩)] ∧
      Inside machines entry ctx (events ++ [⟨event, machines.raised fsm type srcptr⟩]) eventsto
        (machines.raise fsm event type srcptr s) := by
  obtain ⟨held, fresh, owned⟩ := proper
  have absent := isInQueue_eq_false fresh
  have here := inside.running held
  constructor
  · rw [log_raise, held, fresh, Call.entry]
  · rw [Machines.raise, here]
    exact ((inside.note _).setEvent absent _).raise absent ⟨Function.update_self .., owned⟩

/-- A proper call of `NetFsm::RaiseTo`. -/
theorem machine_raiseTo (inside : Inside machines entry ctx events eventsto s) {fsm dst_fsm : φ}
    {event : ε} {src type : Int} {srcptr : Option π}
    (proper : machines.Proper (.call (.raiseTo ⟨event, ⟨some dst_fsm, src, srcptr, type⟩⟩)
      (s.ctx (machines.fsm fsm).ctx).locked (s.isInQueue event))) :
    (machines.raiseTo fsm dst_fsm event src type srcptr s).log =
        s.log ++ [Call.entry (.raiseTo ⟨event, ⟨some dst_fsm, src, srcptr, type⟩⟩)] ∧
      Inside machines entry ctx events (eventsto ++ [⟨event, ⟨some dst_fsm, src, srcptr, type⟩⟩])
        (machines.raiseTo fsm dst_fsm event src type srcptr s) := by
  obtain ⟨held, fresh, owned⟩ := proper
  have absent := isInQueue_eq_false fresh
  have here := inside.running held
  constructor
  · rw [log_raiseTo, held, fresh, Call.entry]
  · rw [Machines.raiseTo, here]
    exact ((inside.note _).setEvent absent _).raiseTo absent ⟨Function.update_self .., owned⟩

/-- Running a program, all of whose calls are proper. -/
theorem run (inside : Inside machines entry ctx events eventsto s) {code : Code σ φ ε π}
    (proper : ∀ logged ∈ (machines.run code s).log, machines.Proper logged) :
    ∃ calls : List (Call φ ε π),
      (machines.run code s).log = s.log ++ calls.map Call.entry ∧
        Inside machines entry ctx (events ++ raises calls) (eventsto ++ raisesTo calls)
          (machines.run code s) := by
  induction code generalizing s events eventsto with
  | done =>
      refine ⟨[], (List.append_nil _).symm, ?_⟩
      rw [raises, raisesTo, List.append_nil, List.append_nil]
      exact inside
  | read next ih => exact ih s.memory inside proper
  | write memory next ih => exact ih (inside.write memory) proper
  | active event next ih => exact ih (s.isInQueue event) inside proper
  | raise fsm event type srcptr next ih =>
      have later : (machines.raise fsm event type srcptr s).log ⊆ (machines.run next _).log :=
        (log_run next _).subset
      rw [log_raise] at later
      obtain ⟨log, called⟩ := inside.machine_raise
        (proper _ (later (List.mem_append_right _ (List.mem_cons_self ..))))
      obtain ⟨calls, logged, after⟩ := ih called proper
      refine ⟨.raise ⟨event, machines.raised fsm type srcptr⟩ :: calls, ?_, ?_⟩
      · rw [Machines.run, logged, log, List.append_assoc, List.map_cons, List.singleton_append]
      · rwa [List.append_assoc, List.singleton_append] at after
  | raiseTo fsm dst_fsm event src type srcptr next ih =>
      have later : (machines.raiseTo fsm dst_fsm event src type srcptr s).log ⊆
          (machines.run next _).log := (log_run next _).subset
      rw [log_raiseTo] at later
      obtain ⟨log, called⟩ := inside.machine_raiseTo
        (proper _ (later (List.mem_append_right _ (List.mem_cons_self ..))))
      obtain ⟨calls, logged, after⟩ := ih called proper
      refine ⟨.raiseTo ⟨event, ⟨some dst_fsm, src, srcptr, type⟩⟩ :: calls, ?_, ?_⟩
      · rw [Machines.run, logged, log, List.append_assoc, List.map_cons, List.singleton_append]
      · rwa [List.append_assoc, List.singleton_append] at after

/-- `NetFsmEvent::Process` for an event that was taken off its queue. -/
theorem process (inside : Inside machines entry ctx events eventsto s) {item : Item φ ε π}
    (absent : s.next item.event = .absent) (intact : machines.Intact s item)
    (proper : machines.ProperRun (machines.process item.event s)) :
    ∃ calls s', machines.process item.event s = .ok s' ∧
      s'.log = s.log ++ Turn.log ⟨item, calls⟩ ∧
        Inside machines entry ctx (events ++ raises calls) (eventsto ++ raisesTo calls) s' := by
  obtain ⟨fsm, owner, target, owned⟩ := intact.target
  have processed : machines.process item.event s =
      .ok (machines.run
        (machines.feed owner item.fields.src item.fields.type item.fields.srcptr)
        ((s.note (.process item)).setEvent item.event
          { item.fields with src := -1, type := -1, srcptr := none })) := by
    rw [Machines.process, intact.stored]
    dsimp only
    rw [target]
    dsimp only
    rw [owned]
  rw [processed] at proper ⊢
  obtain ⟨calls, log, after⟩ := ((inside.note (.process item)).setEvent absent _).run proper
  refine ⟨calls, _, rfl, ?_, after⟩
  rw [log, Turn.log]
  exact List.append_assoc ..

theorem drainEvents_nil (inside : Inside machines entry ctx [] eventsto s) (fuel : Nat) :
    machines.drainEvents ctx (fuel + 1) s = .ok s := by
  have popped : NetQueue.pop s.next (s.ctx ctx).events = (none, s.next, (s.ctx ctx).events) :=
    inside.events_holds.pop_nil
  rw [Machines.drainEvents, popped]

theorem drainEvents_cons {item : Item φ ε π}
    (inside : Inside machines entry ctx (item :: events) eventsto s) (fuel : Nat) :
    machines.drainEvents ctx (fuel + 1) s =
      (machines.process item.event
        (s.setEvents ctx (NetQueue.pop s.next (s.ctx ctx).events).2)).bind
          (machines.drainEvents ctx fuel) := by
  rw [Machines.drainEvents, inside.pop.1]
  rfl

/-- The loop for the internal events processes what waits and what is raised meanwhile, in order.
It stops early only for lack of fuel, of which it needs one unit for each event. -/
theorem drainEvents (inside : Inside machines entry ctx events eventsto s) (fuel : Nat)
    (proper : machines.ProperRun (machines.drainEvents ctx fuel s)) :
    (∃ s', ∃ turns : List (Turn φ ε π), machines.drainEvents ctx fuel s = .ok s' ∧
      s'.log = s.log ++ turns.flatMap Turn.log ∧
      turns.map Turn.item = events ++ raises (turns.flatMap Turn.calls) ∧
      Inside machines entry ctx [] (eventsto ++ raisesTo (turns.flatMap Turn.calls)) s') ∨
    ∃ s', machines.drainEvents ctx fuel s = .error (.outOfFuel, s') ∧
      callCount s.log + fuel ≤ callCount s'.log + events.length := by
  induction fuel generalizing s events eventsto with
  | zero => exact .inr ⟨s, rfl, Nat.le_add_right ..⟩
  | succ fuel ih =>
      cases events with
      | nil =>
          refine .inl ⟨s, [], inside.drainEvents_nil fuel, (List.append_nil _).symm, rfl, ?_⟩
          rw [List.flatMap_nil, raisesTo, List.append_nil]
          exact inside
      | cons item events =>
          obtain ⟨_, popped, absent, intact⟩ := inside.pop
          rw [inside.drainEvents_cons] at proper ⊢
          obtain ⟨calls, s₁, processed, log, after⟩ :=
            popped.process absent intact (proper.of_bind (logs_drainEvents ctx fuel))
          have same :
              (s.setEvents ctx (NetQueue.pop s.next (s.ctx ctx).events).2).log = s.log := rfl
          rw [same] at log
          rw [processed] at proper ⊢
          obtain ⟨s', turns, drained, log', order, inside'⟩ | ⟨s', stopped, bound⟩ :=
            ih after proper
          · refine .inl ⟨s', ⟨item, calls⟩ :: turns, drained, ?_, ?_, ?_⟩
            · rw [log', log, List.append_assoc, List.flatMap_cons]
            · rw [List.map_cons, order, List.flatMap_cons, raises_append, List.append_assoc,
                List.cons_append]
            · rwa [List.flatMap_cons, raisesTo_append, ← List.append_assoc]
          · refine .inr ⟨s', stopped, ?_⟩
            have calls_le := length_raises calls
            have count : callCount s₁.log = callCount s.log + calls.length := by
              rw [log, callCount_append, callCount_turn]
            rw [List.length_append] at bound
            rw [List.length_cons]
            omega

end Inside

end Context
end Klibmsg
