import Klibmsg.Context.Inside

/-!
# Draining a critical section

A section drains if the sections that it opens for its external events do, so by induction on the
fuel every section drains or needs more fuel than twice the number of the calls that its log has.
-/

namespace Klibmsg
namespace Context

variable {σ γ φ ε π : Type}

variable [DecidableEq γ] [DecidableEq ε] {machines : Machines σ γ φ ε π}

/-- The event objects that are in a queue, besides those of some items, are as they were. -/
def Untouched (items : List (Item φ ε π)) (s s' : State σ γ φ ε π) : Prop :=
  ∀ event, s.next event ≠ .absent → (∀ item ∈ items, item.event ≠ event) →
    s'.next event = s.next event ∧ s'.event event = s.event event

/-- Run inside a section that was just entered, a function makes calls only. -/
def Machines.Makes (machines : Machines σ γ φ ε π) (entry : State σ γ φ ε π) (ctx : γ)
    (origin : Option (Item φ ε π)) (func : Effect σ γ φ ε π) : Prop :=
  ∀ s, Inside machines entry ctx [] [] s → s.next = entry.next → s.event = entry.event →
    machines.ProperRun (func s) →
    ∃ calls s', func s = .ok s' ∧ s'.log = s.log ++ bodyLog origin calls ∧
      Inside machines entry ctx (raises calls) (raisesTo calls) s'

/-- Every section that is entered with some fuel drains, or needs more fuel. -/
def Machines.Drains (machines : Machines σ γ φ ε π) (fuel : Nat) : Prop :=
  ∀ (ctx : γ) (origin : Option (Item φ ε π)) (func : Effect σ γ φ ε π) (s : State σ γ φ ε π),
    Idle s → machines.Makes s ctx origin func →
    machines.ProperRun (machines.executeCriticalSection fuel ctx func s) →
    (∃ s' log, machines.executeCriticalSection fuel ctx func s = .ok s' ∧ s'.log = s.log ++ log ∧
      machines.SectionLog ctx origin log ∧ Idle s' ∧ Untouched [] s s') ∨
    ∃ s', machines.executeCriticalSection fuel ctx func s = .error (.outOfFuel, s') ∧
      2 * callCount s.log + fuel ≤ 2 * callCount s'.log + 1

/-- The same for the sections that are opened for the external events. -/
def Machines.Hands (machines : Machines σ γ φ ε π) (fuel : Nat) : Prop :=
  ∀ (queue : NetQueue ε) (items : List (Item φ ε π)) (s : State σ γ φ ε π),
    Idle s → NetQueue.Holds s.next queue (items.map Item.event) →
    (∀ item ∈ items, machines.Intact s item) →
    machines.ProperRun (machines.drainEventsto fuel queue s) →
    (∃ s' log, machines.drainEventsto fuel queue s = .ok s' ∧ s'.log = s.log ++ log ∧
      machines.SectionsLog items log ∧ Idle s' ∧ Untouched items s s') ∨
    ∃ s', machines.drainEventsto fuel queue s = .error (.outOfFuel, s') ∧
      2 * callCount s.log + fuel ≤ 2 * callCount s'.log + 2 * items.length

omit [DecidableEq ε] in
/-- Taking the lock of an idle context. -/
theorem Idle.lock (machines : Machines σ γ φ ε π) {s : State σ γ φ ε π} (idle : Idle s)
    (ctx : γ) :
    ∃ s', s.lock ctx = .ok s' ∧ s'.log = s.log ++ [.lock ctx] ∧ s'.next = s.next ∧
      s'.event = s.event ∧ Inside machines s ctx [] [] s' := by
  have free : (s.ctx ctx).locked = false := by
    rw [idle ctx]
    rfl
  have taken : s.lock ctx =
      .ok ((s.setCtx ctx { s.ctx ctx with locked := true }).note (.lock ctx)) := by
    rw [State.lock, free, if_neg Bool.false_ne_true]
  refine ⟨_, taken, rfl, rfl, rfl, ?_⟩
  have here : Function.update s.ctx ctx { s.ctx ctx with locked := true } ctx =
      ⟨.init, .init, true⟩ := by
    rw [Function.update_self, idle ctx]
    rfl
  constructor
  case events_holds =>
    change NetQueue.Holds s.next (Function.update s.ctx ctx _ ctx).events _
    rw [here]
    exact NetQueue.holds_init _
  case eventsto_holds =>
    change NetQueue.Holds s.next (Function.update s.ctx ctx _ ctx).eventsto _
    rw [here]
    exact NetQueue.holds_init _
  case disjoint => simp
  case intact => simp
  case own => simp
  case locked =>
    change (Function.update s.ctx ctx _ ctx).locked = true
    rw [here]
  case elsewhere =>
    intro other different
    exact (Function.update_of_ne different _ _).trans (idle other)
  case kept => exact fun event marked => ⟨rfl, rfl⟩

omit [DecidableEq ε] in
/-- Releasing the lock of a context whose queues are empty. -/
theorem unlock_empty (s : State σ γ φ ε π) (ctx : γ) (events : (s.ctx ctx).events = .init)
    (eventsto : (s.ctx ctx).eventsto = .init)
    (elsewhere : ∀ other, other ≠ ctx → s.ctx other = .init) :
    (s.unlock ctx).log = s.log ++ [.unlock ctx true true] ∧ Idle (s.unlock ctx) := by
  constructor
  · rw [log_unlock, events, eventsto]
    rfl
  · intro other
    change Function.update s.ctx ctx { s.ctx ctx with locked := false } other = .init
    by_cases here : other = ctx
    · rw [here, Function.update_self]
      exact congrArg₂ (fun first second => NetCtx.mk first second false) events eventsto
    · rw [Function.update_of_ne here, elsewhere other here]

/-- A program of a caller makes calls only. -/
theorem makes_run (entry : State σ γ φ ε π) (ctx : γ) (code : Code σ φ ε π) :
    machines.Makes entry ctx none fun s => .ok (machines.run code s) := by
  intro s inside _ _ proper
  obtain ⟨calls, log, after⟩ := inside.run proper
  exact ⟨calls, _, rfl, log, after⟩

/-- A handler of an event that is in no queue makes calls only. -/
theorem makes_process {entry : State σ γ φ ε π} (ctx : γ) {item : Item φ ε π}
    (absent : entry.next item.event = .absent) (intact : machines.Intact entry item) :
    machines.Makes entry ctx (some item) (machines.process item.event) := by
  intro s inside next event proper
  exact inside.process (next ▸ absent) ⟨event ▸ intact.stored, intact.owned⟩ proper

/-- Once its internal events are processed, a section releases the lock with both queues empty and
hands the external events over. -/
theorem Inside.release (noLeave : ∀ ctx, machines.onLeave ctx = none) {fuel : Nat}
    (hands : machines.Hands fuel) {entry s : State σ γ φ ε π} {ctx : γ}
    {eventsto : List (Item φ ε π)} (inside : Inside machines entry ctx [] eventsto s)
    (proper : machines.ProperRun (machines.release fuel ctx s)) :
    (∃ s' external, machines.release fuel ctx s = .ok s' ∧
      s'.log = s.log ++ .unlock ctx true true :: external ∧
      machines.SectionsLog eventsto external ∧ Idle s' ∧ Untouched [] entry s') ∨
    ∃ s', machines.release fuel ctx s = .error (.outOfFuel, s') ∧
      2 * callCount s.log + fuel ≤ 2 * callCount s'.log + 2 * eventsto.length := by
  have left : machines.leave ctx s = s := by rw [Machines.leave, noLeave]
  have events : (s.ctx ctx).events = .init := inside.events_holds.eq_init
  have holds := inside.eventsto_holds
  cases eventsto with
  | nil =>
      have nothing : (s.ctx ctx).eventsto = .init := holds.eq_init
      have released : machines.release fuel ctx s = .ok (s.unlock ctx) := by
        rw [Machines.release, left, nothing]
        rfl
      obtain ⟨log, idle⟩ := unlock_empty s ctx events nothing inside.elsewhere
      refine .inl ⟨_, [], released, log, .nil, idle, ?_⟩
      exact fun event marked _ => inside.kept event marked
  | cons item items =>
      have head : (s.ctx ctx).eventsto.head = some item.event := holds.linked.head_eq
      have released : machines.release fuel ctx s =
          machines.drainEventsto fuel (s.ctx ctx).eventsto
            ((s.setEventsto ctx (s.next, .init)).unlock ctx) := by
        rw [Machines.release, left, NetQueue.empty, head]
        rfl
      have here : (s.setEventsto ctx (s.next, .init)).ctx ctx =
          { s.ctx ctx with eventsto := .init } := Function.update_self ..
      obtain ⟨log, idle⟩ := unlock_empty (s.setEventsto ctx (s.next, .init)) ctx
        (by rw [here]; exact events) (by rw [here])
        fun other different => (Function.update_of_ne different _ _).trans
          (inside.elsewhere other different)
      rw [released] at proper ⊢
      have intact (other : Item φ ε π) (member : other ∈ item :: items) :
          machines.Intact ((s.setEventsto ctx (s.next, .init)).unlock ctx) other :=
        ⟨(inside.intact other member).stored, (inside.intact other member).owned⟩
      have count : callCount ((s.setEventsto ctx (s.next, .init)).unlock ctx).log =
          callCount s.log := by
        rw [log, callCount_append]
        rfl
      obtain ⟨s', external, handed, log', sections, idle', untouched⟩ | ⟨s', stopped, bound⟩ :=
        hands _ _ _ idle holds intact proper
      · refine .inl ⟨s', external, handed, ?_, sections, idle', ?_⟩
        · rw [log', log, List.append_assoc]
          rfl
        · intro event marked _
          have kept := inside.kept event marked
          obtain ⟨next, fields⟩ := untouched event (kept.1.symm ▸ marked) fun other member same =>
            marked (same ▸ inside.own other member)
          exact ⟨next.trans kept.1, fields.trans kept.2⟩
      · exact .inr ⟨s', stopped, by rwa [count] at bound⟩

/-- A section drains if the sections that it opens do. -/
theorem drains_succ (noLeave : ∀ ctx, machines.onLeave ctx = none) {fuel : Nat}
    (hands : machines.Hands fuel) : machines.Drains (fuel + 1) := by
  intro ctx origin func s idle makes proper
  obtain ⟨s₁, locked, log₁, next₁, event₁, inside₁⟩ := idle.lock machines ctx
  have handsLog := (logs_sections machines fuel).2
  rw [executeCriticalSection_succ, locked] at proper ⊢
  change machines.ProperRun ((func s₁).bind _) at proper
  obtain ⟨calls, s₂, ran, log₂, inside₂⟩ :=
    makes s₁ inside₁ next₁ event₁ (proper.of_bind (logs_close handsLog ctx))
  change (∃ s' log, (func s₁).bind _ = _ ∧ _) ∨ ∃ s', (func s₁).bind _ = _ ∧ _
  rw [ran] at proper ⊢
  change machines.ProperRun ((machines.drainEvents ctx fuel s₂).bind _) at proper
  change (∃ s' log, (machines.drainEvents ctx fuel s₂).bind _ = _ ∧ _) ∨
    ∃ s', (machines.drainEvents ctx fuel s₂).bind _ = _ ∧ _
  have count : callCount s₂.log = callCount s.log + calls.length := by
    rw [log₂, log₁, callCount_append, callCount_append, callCount_bodyLog]
    rfl
  have split := length_raises calls
  obtain ⟨s₃, turns, drained, log₃, order, inside₃⟩ | ⟨s', stopped, bound⟩ :=
    inside₂.drainEvents fuel (proper.of_bind (logs_release handsLog ctx))
  · rw [← raisesTo_append] at inside₃
    rw [← raises_append] at order
    rw [drained] at proper ⊢
    have count₃ : callCount s₃.log =
        callCount s.log + (calls ++ turns.flatMap Turn.calls).length := by
      rw [log₃, callCount_append, callCount_turns, count, List.length_append, Nat.add_assoc]
    obtain ⟨s', external, released, log', sections, idle', untouched⟩ | ⟨s', stopped, bound⟩ :=
      inside₃.release noLeave hands proper
    · refine .inl ⟨s', _, released, ?_, .intro order sections, idle', untouched⟩
      rw [log', log₃, log₂, log₁]
      simp only [List.append_assoc, List.cons_append, List.nil_append]
    · have external_le := length_raises (calls ++ turns.flatMap Turn.calls)
      exact .inr ⟨s', stopped, by omega⟩
  · rw [stopped]
    exact .inr ⟨s', rfl, by omega⟩

/-- The external events are handed over one by one if each of their sections drains. -/
theorem hands_succ {fuel : Nat} (drains : machines.Drains fuel) (hands : machines.Hands fuel) :
    machines.Hands (fuel + 1) := by
  intro queue items s idle holds intact proper
  cases items with
  | nil =>
      have popped : NetQueue.pop s.next queue = (none, s.next, queue) := holds.pop_nil
      have handed : machines.drainEventsto (fuel + 1) queue s = .ok s := by
        rw [Machines.drainEventsto, popped]
      exact .inl ⟨s, [], handed, (List.append_nil _).symm, .nil, idle, fun _ _ _ => ⟨rfl, rfl⟩⟩
  | cons item items =>
      obtain ⟨rest, popped, holds'⟩ := holds.pop_cons
      have intact_item := intact item (List.mem_cons_self ..)
      obtain ⟨fsm, owner, target, owned⟩ := intact_item.target
      obtain ⟨outside, nodup⟩ := List.nodup_cons.mp holds.nodup
      let s₁ : State σ γ φ ε π := { s with next := Function.update s.next item.event .absent }
      have handed : machines.drainEventsto (fuel + 1) queue s =
          (machines.executeCriticalSection fuel (machines.fsm fsm).ctx
            (machines.process item.event) s₁).bind (machines.drainEventsto fuel rest) := by
        rw [Machines.drainEventsto, popped]
        dsimp only
        rw [intact_item.stored, target]
        rfl
      have absent : s₁.next item.event = .absent := Function.update_self ..
      have different (other : Item φ ε π) (member : other ∈ items) : other.event ≠ item.event := by
        intro same
        exact outside (same ▸ List.mem_map_of_mem member)
      rw [handed] at proper ⊢
      have intact₁ : machines.Intact s₁ item := ⟨intact_item.stored, intact_item.owned⟩
      obtain ⟨s₂, first, opened, log, section', idle₂, untouched⟩ | ⟨s', stopped, bound⟩ :=
        drains _ (some item) _ s₁ idle (makes_process _ absent intact₁)
          (proper.of_bind ((logs_sections machines fuel).2 rest))
      · rw [opened] at proper ⊢
        have kept (event : ε) (marked : s.next event ≠ .absent) (other : event ≠ item.event) :
            s₂.next event = s.next event ∧ s₂.event event = s.event event := by
          have same : s₁.next event = s.next event := Function.update_of_ne other _ _
          obtain ⟨next, fields⟩ := untouched event (same.symm ▸ marked) (by simp)
          exact ⟨next.trans same, fields⟩
        have waiting (other : Item φ ε π) (member : other ∈ items) :
            s₂.next other.event = s.next other.event ∧ s₂.event other.event = s.event other.event :=
          kept other.event
            (holds.marked (List.mem_cons_of_mem _ (List.mem_map_of_mem member)))
            (different other member)
        have holds₂ : NetQueue.Holds s₂.next rest (items.map Item.event) := by
          refine holds'.congr fun event member => ?_
          obtain ⟨other, there, rfl⟩ := List.mem_map.mp member
          rw [(waiting other there).1, Function.update_of_ne (different other there)]
        have intact₂ (other : Item φ ε π) (member : other ∈ items) : machines.Intact s₂ other := by
          have before := intact other (List.mem_cons_of_mem _ member)
          exact ⟨(waiting other member).2.trans before.stored, before.owned⟩
        obtain ⟨s', later, handed', log', sections, idle', untouched'⟩ | ⟨s', stopped, bound⟩ :=
          hands rest items s₂ idle₂ holds₂ intact₂ proper
        · refine .inl ⟨s', first ++ later, handed', ?_, .cons target section' sections, idle', ?_⟩
          · rw [log', log, List.append_assoc]
          · intro event marked others
            have old := kept event marked (others item (List.mem_cons_self ..)).symm
            obtain ⟨next, fields⟩ := untouched' event (old.1.symm ▸ marked) fun other member =>
              others other (List.mem_cons_of_mem _ member)
            exact ⟨next.trans old.1, fields.trans old.2⟩
        · refine .inr ⟨s', stopped, ?_⟩
          have grown : callCount s.log ≤ callCount s₂.log := by
            rw [log, callCount_append]
            exact Nat.le_add_right _ _
          rw [List.length_cons]
          omega
      · rw [stopped]
        refine .inr ⟨s', rfl, ?_⟩
        rw [List.length_cons]
        change 2 * callCount s.log + fuel ≤ _ at bound
        omega

theorem drains_and_hands (noLeave : ∀ ctx, machines.onLeave ctx = none) (fuel : Nat) :
    machines.Drains fuel ∧ machines.Hands fuel := by
  induction fuel with
  | zero =>
      refine ⟨fun ctx origin func s _ _ _ => .inr ⟨s, rfl, ?_⟩,
        fun queue items s _ _ _ _ => .inr ⟨s, rfl, ?_⟩⟩
      · exact Nat.le_succ _
      · exact Nat.le_add_right _ _
  | succ fuel ih => exact ⟨drains_succ noLeave ih.2, hands_succ ih.1 ih.2⟩

/-- Let a function and the handlers together raise finitely many events, none of them while it is
queued, on the context whose section is running.  A section that starts with all contexts left comes
to its end.  Its log has the form of a drained section; each event raised is processed exactly once,
and each release finds both queues empty. -/
theorem section_drained (noLeave : ∀ ctx, machines.onLeave ctx = none) (ctx : γ)
    (func : Code σ φ ε π) {s : State σ γ φ ε π} (idle : Idle s) (start : s.log = []) {bound : Nat}
    (proper : ∀ fuel, machines.ProperRun
      (machines.executeCriticalSection fuel ctx (fun s => .ok (machines.run func s)) s))
    (finite : ∀ fuel, callCount (reached (machines.executeCriticalSection fuel ctx
      (fun s => .ok (machines.run func s)) s)).log ≤ bound)
    {fuel : Nat} (enough : 2 * bound + 2 ≤ fuel) :
    ∃ s', machines.executeCriticalSection fuel ctx (fun s => .ok (machines.run func s)) s = .ok s' ∧
      machines.SectionLog ctx none s'.log ∧ Idle s' ∧
      (processedItems s'.log).Perm (raisedItems s'.log) ∧ Released s'.log := by
  obtain ⟨s', log, ran, logged, drained, idle', _⟩ | ⟨s', stopped, few⟩ :=
    (drains_and_hands noLeave fuel).1 ctx none _ s idle (makes_run s ctx func) (proper fuel)
  · rw [start, List.nil_append] at logged
    subst logged
    exact ⟨s', ran, drained, idle', drained.exactlyOnce⟩
  · have calls := finite fuel
    rw [stopped] at calls
    change callCount s'.log ≤ bound at calls
    omega

/-! ## Fuel -/

omit [DecidableEq γ] [DecidableEq ε] in
theorem bind_eq_ok {result : Result σ γ φ ε π} {effect : Effect σ γ φ ε π} {s' : State σ γ φ ε π} :
    result.bind effect = .ok s' ↔ ∃ s, result = .ok s ∧ effect s = .ok s' := by
  cases result with
  | error stopped =>
      constructor
      · rintro ⟨⟩
      · rintro ⟨s, ⟨⟩, _⟩
  | ok s =>
      constructor
      · exact fun after => ⟨s, rfl, after⟩
      · rintro ⟨_, ⟨⟩, after⟩
        exact after

theorem drainEvents_of_le {ctx : γ} {fuel more : Nat} (le : fuel ≤ more) {s s' : State σ γ φ ε π}
    (drained : machines.drainEvents ctx fuel s = .ok s') :
    machines.drainEvents ctx more s = .ok s' := by
  induction fuel generalizing more s with
  | zero => cases drained
  | succ fuel ih =>
      obtain ⟨more, rfl⟩ : ∃ less, more = less + 1 := ⟨more - 1, by omega⟩
      rw [Machines.drainEvents] at drained ⊢
      cases popped : (NetQueue.pop s.next (s.ctx ctx).events).1 with
      | none =>
          rw [popped] at drained
          exact drained
      | some event =>
          rw [popped] at drained
          obtain ⟨s₁, processed, later⟩ := bind_eq_ok.mp drained
          exact bind_eq_ok.mpr ⟨s₁, processed, ih (Nat.le_of_succ_le_succ le) later⟩

/-- A run that came to its end does the same with more fuel. -/
theorem sections_of_le (fuel : Nat) :
    (∀ {ctx : γ} {func : Effect σ γ φ ε π} {s s' : State σ γ φ ε π} {more : Nat}, fuel ≤ more →
      machines.executeCriticalSection fuel ctx func s = .ok s' →
      machines.executeCriticalSection more ctx func s = .ok s') ∧
    ∀ {queue : NetQueue ε} {s s' : State σ γ φ ε π} {more : Nat}, fuel ≤ more →
      machines.drainEventsto fuel queue s = .ok s' →
      machines.drainEventsto more queue s = .ok s' := by
  induction fuel with
  | zero =>
      constructor
      · rintro _ _ _ _ _ _ ⟨⟩
      · rintro _ _ _ _ _ ⟨⟩
  | succ fuel ih =>
      constructor
      · intro ctx func s s' more le ran
        obtain ⟨more, rfl⟩ : ∃ less, more = less + 1 := ⟨more - 1, by omega⟩
        have less := Nat.le_of_succ_le_succ le
        rw [executeCriticalSection_succ] at ran ⊢
        obtain ⟨s₁, entered, closed⟩ := bind_eq_ok.mp ran
        obtain ⟨s₂, drained, released⟩ := bind_eq_ok.mp closed
        refine bind_eq_ok.mpr ⟨s₁, entered, bind_eq_ok.mpr ⟨s₂, drainEvents_of_le less drained, ?_⟩⟩
        rw [Machines.release] at released ⊢
        split_ifs at released ⊢ with nothing
        · exact released
        · exact ih.2 less released
      · intro queue s s' more le ran
        obtain ⟨more, rfl⟩ : ∃ less, more = less + 1 := ⟨more - 1, by omega⟩
        have less := Nat.le_of_succ_le_succ le
        rw [Machines.drainEventsto] at ran ⊢
        cases popped : (NetQueue.pop s.next queue).1 with
        | none =>
            rw [popped] at ran
            exact ran
        | some event =>
            rw [popped] at ran
            dsimp only at ran ⊢
            cases target : (s.event event).fsm with
            | none =>
                rw [target] at ran
                cases ran
            | some fsm =>
                rw [target] at ran
                obtain ⟨s₁, opened, later⟩ := bind_eq_ok.mp ran
                exact bind_eq_ok.mpr ⟨s₁, ih.1 less opened, ih.2 less later⟩

/-- Machines 0 and 1 belong to one context and machine 2 to another; their owner is machine 9.  The
handler of the external event raises again on the context that was left. -/
def reentering : Machines Unit Bool Nat Nat Unit where
  fsm fsm := ⟨0, none, some 9, fsm == 2⟩
  state _ _ := .active
  handle _ _ type _ :=
    if type = 2 then .raise 1 2 3 none (.raiseTo 1 2 3 0 4 none .done) else .done
  shutdownHandle _ _ _ _ := .done
  onLeave _ := none

/-- A function that raises an event to its own context and to machine 1. -/
def reenteringFunc : Code Unit Nat Nat Unit :=
  .raise 0 0 1 none (.raiseTo 0 1 1 0 2 none .done)

/-- No event is queued, and all contexts are left. -/
def leftState : State Unit Bool Nat Nat Unit where
  memory := ()
  next _ := .absent
  event _ := ⟨none, -1, none, -1⟩
  ctx _ := .init
  log := []

/-- The run of this function. -/
def reenteringRun (fuel : Nat) : Result Unit Bool Nat Nat Unit :=
  reentering.executeCriticalSection fuel false (fun s => .ok (reentering.run reenteringFunc s))
    leftState

/-- Six units of fuel are enough. -/
theorem reenteringRun_cases (fuel : Nat) :
    ∃ less, less ≤ 6 ∧ reenteringRun fuel = reenteringRun less := by
  obtain few | many := Nat.le_total fuel 6
  · exact ⟨fuel, few, rfl⟩
  · have ends : (reenteringRun 6).isOk = true := by decide +kernel
    cases ran : reenteringRun 6 with
    | error stopped =>
        rw [ran] at ends
        cases ends
    | ok s => exact ⟨6, Nat.le_refl 6, ((sections_of_le 6).1 many ran).trans ran.symm⟩

theorem reenteringRun_proper : ∀ less ≤ 6, reentering.ProperRun (reenteringRun less) ∧
    callCount (reached (reenteringRun less)).log ≤ 4 := by
  decide +kernel

/-- Events 2 and 3 are raised while event 1 is processed, and each event has its turn. -/
theorem section_drained_reentering :
    ∃ s', reenteringRun 10 = .ok s' ∧
      (raisedItems s'.log).map (fun item => (item.event, item.fields.type)) =
        [(0, 1), (1, 2), (2, 3), (3, 4)] ∧
      (processedItems s'.log).map (fun item => (item.event, item.fields.type)) =
        [(0, 1), (1, 2), (2, 3), (3, 4)] ∧
      reentering.SectionLog false none s'.log ∧ Idle s' ∧
      (processedItems s'.log).Perm (raisedItems s'.log) ∧ Released s'.log := by
  have turns : (raisedItems (reached (reenteringRun 10)).log).map
          (fun item => (item.event, item.fields.type)) = [(0, 1), (1, 2), (2, 3), (3, 4)] ∧
        (processedItems (reached (reenteringRun 10)).log).map
          (fun item => (item.event, item.fields.type)) = [(0, 1), (1, 2), (2, 3), (3, 4)] := by
    decide +kernel
  obtain ⟨s', ran, log⟩ :
      ∃ s', reenteringRun 10 = .ok s' ∧ reentering.SectionLog false none s'.log ∧
      Idle s' ∧ (processedItems s'.log).Perm (raisedItems s'.log) ∧ Released s'.log := by
    refine section_drained (fun _ => rfl) false reenteringFunc (fun _ => rfl) rfl ?_ ?_
      (show 2 * 4 + 2 ≤ 10 by decide)
    · intro fuel
      obtain ⟨less, le, same⟩ := reenteringRun_cases fuel
      change reentering.ProperRun (reenteringRun fuel)
      rw [same]
      exact (reenteringRun_proper less le).1
    · intro fuel
      obtain ⟨less, le, same⟩ := reenteringRun_cases fuel
      change callCount (reached (reenteringRun fuel)).log ≤ 4
      rw [same]
      exact (reenteringRun_proper less le).2
  rw [ran] at turns
  exact ⟨s', ran, turns.1, turns.2, log⟩

end Context
end Klibmsg