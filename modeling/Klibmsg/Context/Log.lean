import Klibmsg.Context
import Mathlib.Data.List.Perm.Basic

/-!
# The logs of critical sections

A section processes the events raised to its own context in the order of the raises while it holds
the lock, releases the lock with both queues empty, and then opens a section for each event raised
to another machine, in the order of these raises.  The sections opened in this way have the same
form, also when they belong to the same context.  In such a log each raised event is processed
exactly once.
-/

namespace Klibmsg
namespace Context

variable {σ γ φ ε π : Type}

/-! ## The log of a section -/

/-- The event that a call raises. -/
def Call.item : Call φ ε π → Item φ ε π
  | raise item => item
  | raiseTo item => item

/-- A call on the context of the running section, with an event that is in no queue. -/
def Call.entry (call : Call φ ε π) : Entry γ φ ε π := .call call true false

/-- The items of the calls of `Raise`. -/
def raises : List (Call φ ε π) → List (Item φ ε π)
  | [] => []
  | .raise item :: calls => item :: raises calls
  | .raiseTo _ :: calls => raises calls

/-- The items of the calls of `RaiseTo`. -/
def raisesTo : List (Call φ ε π) → List (Item φ ε π)
  | [] => []
  | .raise _ :: calls => raisesTo calls
  | .raiseTo item :: calls => item :: raisesTo calls

/-- An event that is processed, and the calls that its handler makes. -/
structure Turn (φ ε π : Type) where
  item : Item φ ε π
  calls : List (Call φ ε π)

/-- What a turn logs. -/
def Turn.log (turn : Turn φ ε π) : List (Entry γ φ ε π) :=
  .process turn.item :: turn.calls.map Call.entry

/-- What the function of a section logs: a handler that processes an event, or a function of the
caller. -/
def bodyLog (origin : Option (Item φ ε π)) (calls : List (Call φ ε π)) : List (Entry γ φ ε π) :=
  match origin with
  | none => calls.map Call.entry
  | some item => Turn.log ⟨item, calls⟩

namespace Machines

mutual

/-- The log of a drained section of a context. -/
inductive SectionLog (machines : Machines σ γ φ ε π) :
    γ → Option (Item φ ε π) → List (Entry γ φ ε π) → Prop
  | intro {ctx : γ} {origin : Option (Item φ ε π)} {calls : List (Call φ ε π)}
      {turns : List (Turn φ ε π)} {external : List (Entry γ φ ε π)}
      (internal : turns.map Turn.item = raises (calls ++ turns.flatMap Turn.calls))
      (handed : SectionsLog machines (raisesTo (calls ++ turns.flatMap Turn.calls)) external) :
      SectionLog machines ctx origin
        (.lock ctx :: bodyLog origin calls ++ turns.flatMap Turn.log ++
          .unlock ctx true true :: external)

/-- The log of the sections opened for external events, one after the other. -/
inductive SectionsLog (machines : Machines σ γ φ ε π) :
    List (Item φ ε π) → List (Entry γ φ ε π) → Prop
  | nil : SectionsLog machines [] []
  | cons {item : Item φ ε π} {items : List (Item φ ε π)} {fsm : φ}
      {first later : List (Entry γ φ ε π)}
      (target : item.fields.fsm = some fsm)
      (opened : SectionLog machines (machines.fsm fsm).ctx (some item) first)
      (others : SectionsLog machines items later) :
      SectionsLog machines (item :: items) (first ++ later)

end

end Machines

/-! ## What the log says -/

/-- The items that a log processes. -/
def processedItems : List (Entry γ φ ε π) → List (Item φ ε π)
  | [] => []
  | .process item :: log => item :: processedItems log
  | _ :: log => processedItems log

/-- The items that a log raises, to its own context or to other machines. -/
def raisedItems : List (Entry γ φ ε π) → List (Item φ ε π)
  | [] => []
  | .call call _ _ :: log => call.item :: raisedItems log
  | _ :: log => raisedItems log

theorem processed_append (first later : List (Entry γ φ ε π)) :
    processedItems (first ++ later) = processedItems first ++ processedItems later := by
  induction first with
  | nil => rfl
  | cons entry first ih => cases entry <;> simp only [List.cons_append, processedItems, ih]

theorem raised_append (first later : List (Entry γ φ ε π)) :
    raisedItems (first ++ later) = raisedItems first ++ raisedItems later := by
  induction first with
  | nil => rfl
  | cons entry first ih => cases entry <;> simp only [List.cons_append, raisedItems, ih]

theorem processed_calls (calls : List (Call φ ε π)) :
    processedItems (calls.map Call.entry : List (Entry γ φ ε π)) = [] := by
  induction calls with
  | nil => rfl
  | cons call calls ih => exact ih

theorem raised_calls (calls : List (Call φ ε π)) :
    raisedItems (calls.map Call.entry : List (Entry γ φ ε π)) = calls.map Call.item := by
  induction calls with
  | nil => rfl
  | cons call calls ih => exact congrArg (call.item :: ·) ih

theorem processed_body (origin : Option (Item φ ε π)) (calls : List (Call φ ε π)) :
    processedItems (bodyLog origin calls : List (Entry γ φ ε π)) = origin.toList := by
  cases origin with
  | none => exact processed_calls calls
  | some item => exact congrArg (item :: ·) (processed_calls calls)

theorem raised_body (origin : Option (Item φ ε π)) (calls : List (Call φ ε π)) :
    raisedItems (bodyLog origin calls : List (Entry γ φ ε π)) = calls.map Call.item := by
  cases origin with
  | none => exact raised_calls calls
  | some item => exact raised_calls calls

theorem processed_turns (turns : List (Turn φ ε π)) :
    processedItems (turns.flatMap Turn.log : List (Entry γ φ ε π)) = turns.map Turn.item := by
  induction turns with
  | nil => rfl
  | cons turn turns ih =>
      rw [List.flatMap_cons, processed_append, ih, List.map_cons]
      exact congrArg (· ++ _) (processed_body (some turn.item) turn.calls)

theorem raised_turns (turns : List (Turn φ ε π)) :
    raisedItems (turns.flatMap Turn.log : List (Entry γ φ ε π)) =
      (turns.flatMap Turn.calls).map Call.item := by
  induction turns with
  | nil => rfl
  | cons turn turns ih =>
      rw [List.flatMap_cons, raised_append, ih, List.flatMap_cons, List.map_append]
      exact congrArg (· ++ _) (raised_body (some turn.item) turn.calls)

/-- Each call raises its event to its own context or to another machine. -/
theorem items_perm (calls : List (Call φ ε π)) :
    (calls.map Call.item).Perm (raises calls ++ raisesTo calls) := by
  induction calls with
  | nil => exact .refl _
  | cons call calls ih =>
      cases call with
      | raise item => exact ih.cons item
      | raiseTo item => exact (ih.cons item).trans List.perm_middle.symm

/-- All releases of a log find both queues empty. -/
def Released (log : List (Entry γ φ ε π)) : Prop :=
  ∀ ctx events eventsto, .unlock ctx events eventsto ∈ log → events = true ∧ eventsto = true

theorem Released.append {first later : List (Entry γ φ ε π)} (before : Released first)
    (after : Released later) : Released (first ++ later) := by
  intro ctx events eventsto member
  obtain early | late := List.mem_append.mp member
  · exact before ctx events eventsto early
  · exact after ctx events eventsto late

theorem released_calls (calls : List (Call φ ε π)) :
    Released (calls.map Call.entry : List (Entry γ φ ε π)) := by
  intro ctx events eventsto member
  obtain ⟨call, _, same⟩ := List.mem_map.mp member
  cases same

theorem released_body (origin : Option (Item φ ε π)) (calls : List (Call φ ε π)) :
    Released (bodyLog origin calls : List (Entry γ φ ε π)) := by
  cases origin with
  | none => exact released_calls calls
  | some item =>
      intro ctx events eventsto member
      exact released_calls calls ctx events eventsto (List.mem_of_ne_of_mem (by simp) member)

theorem released_turns (turns : List (Turn φ ε π)) :
    Released (turns.flatMap Turn.log : List (Entry γ φ ε π)) := by
  induction turns with
  | nil => exact fun _ _ _ member => absurd member List.not_mem_nil
  | cons turn turns ih => exact (released_body (some turn.item) turn.calls).append ih

open scoped List in
/-- In the log of a drained section each raised event is processed exactly once, and each release
finds both queues empty. -/
theorem Machines.SectionLog.exactlyOnce {machines : Machines σ γ φ ε π} {ctx : γ}
    {origin : Option (Item φ ε π)} {log : List (Entry γ φ ε π)}
    (drained : machines.SectionLog ctx origin log) :
    (processedItems log).Perm (origin.toList ++ raisedItems log) ∧ Released log := by
  refine @Machines.SectionLog.rec σ γ φ ε π machines
    (fun _ origin log _ =>
      (processedItems log).Perm (origin.toList ++ raisedItems log) ∧ Released log)
    (fun items log _ => (processedItems log).Perm (items ++ raisedItems log) ∧ Released log)
    ?_ ?_ ?_ ctx origin log drained
  · intro ctx origin calls turns external internal _ handed
    refine ⟨?_, ?_⟩
    · rw [processed_append, processed_append, raised_append, raised_append]
      change (processedItems (bodyLog origin calls) ++ _ ++ processedItems external).Perm
        (_ ++ (raisedItems (bodyLog origin calls) ++ _ ++ raisedItems external))
      rw [processed_body, processed_turns, raised_body, raised_turns, ← List.map_append, internal]
      have items := items_perm (calls ++ turns.flatMap Turn.calls)
      calc
        _ ++ raises (calls ++ turns.flatMap Turn.calls) ++ processedItems external
        _ ~ _ ++ raises (calls ++ turns.flatMap Turn.calls) ++
              (raisesTo (calls ++ turns.flatMap Turn.calls) ++ raisedItems external) :=
          handed.1.append_left _
        _ = origin.toList ++ (raises (calls ++ turns.flatMap Turn.calls) ++
              raisesTo (calls ++ turns.flatMap Turn.calls) ++ raisedItems external) := by
          simp only [List.append_assoc]
        _ ~ _ := (items.symm.append_right _).append_left _
    · have inside : Released (.lock ctx :: bodyLog origin calls ++ turns.flatMap Turn.log) := by
        refine Released.append (fun other events eventsto member => ?_) (released_turns turns)
        exact released_body origin calls other events eventsto
          (List.mem_of_ne_of_mem (by simp) member)
      refine inside.append fun other events eventsto member => ?_
      obtain same | later := List.mem_cons.mp member
      · cases same
        exact ⟨rfl, rfl⟩
      · exact handed.2 other events eventsto later
  · exact ⟨.refl _, fun _ _ _ member => absurd member List.not_mem_nil⟩
  · intro item items fsm first later _ _ _ opened others
    refine ⟨?_, opened.2.append others.2⟩
    rw [processed_append, raised_append]
    calc
      processedItems first ++ processedItems later
      _ ~ item :: raisedItems first ++ (items ++ raisedItems later) := opened.1.append others.1
      _ ~ _ := (List.perm_append_comm_assoc _ _ _).cons item

/-! ## What the raises must satisfy -/

/-- How many calls a log has. -/
def callCount (log : List (Entry γ φ ε π)) : Nat :=
  log.countP fun
    | .call .. => true
    | _ => false

/-- The owner of the machine of an event. -/
def Machines.ownerOf (machines : Machines σ γ φ ε π) (item : Item φ ε π) : Option φ :=
  item.fields.fsm.bind fun fsm => (machines.fsm fsm).owner

/-- A call raises an event that is in no queue, on a context whose lock is held, for a machine that
has an owner. -/
def Machines.Proper (machines : Machines σ γ φ ε π) : Entry γ φ ε π → Prop
  | .call call locked queued =>
      locked = true ∧ queued = false ∧ (machines.ownerOf call.item).isSome = true
  | _ => True

instance (machines : Machines σ γ φ ε π) : DecidablePred machines.Proper
  | .call _ _ _ => inferInstanceAs (Decidable (_ ∧ _ ∧ _))
  | .lock _ => .isTrue trivial
  | .process _ => .isTrue trivial
  | .unlock _ _ _ => .isTrue trivial

/-- All calls of a run are proper. -/
def Machines.ProperRun (machines : Machines σ γ φ ε π) (result : Result σ γ φ ε π) : Prop :=
  ∀ entry ∈ (reached result).log, machines.Proper entry

instance (machines : Machines σ γ φ ε π) (result : Result σ γ φ ε π) :
    Decidable (machines.ProperRun result) :=
  inferInstanceAs (Decidable (∀ entry ∈ _, _))

section Logs

variable {machines : Machines σ γ φ ε π}

@[simp]
theorem callCount_append (first later : List (Entry γ φ ε π)) :
    callCount (first ++ later) = callCount first + callCount later := List.countP_append

@[simp]
theorem callCount_calls (calls : List (Call φ ε π)) :
    callCount (calls.map Call.entry : List (Entry γ φ ε π)) = calls.length := by
  rw [callCount, List.countP_map, List.countP_eq_length.mpr]
  intro call member
  rfl

@[simp]
theorem callCount_turn (item : Item φ ε π) (calls : List (Call φ ε π)) :
    callCount (Turn.log ⟨item, calls⟩ : List (Entry γ φ ε π)) = calls.length :=
  callCount_calls calls

@[simp]
theorem callCount_bodyLog (origin : Option (Item φ ε π)) (calls : List (Call φ ε π)) :
    callCount (bodyLog origin calls : List (Entry γ φ ε π)) = calls.length := by
  cases origin with
  | none => exact callCount_calls calls
  | some item => exact callCount_turn item calls

theorem callCount_turns (turns : List (Turn φ ε π)) :
    callCount (turns.flatMap Turn.log : List (Entry γ φ ε π)) =
      (turns.flatMap Turn.calls).length := by
  induction turns with
  | nil => rfl
  | cons turn turns ih =>
      rw [List.flatMap_cons, List.flatMap_cons, callCount_append, ih, callCount_turn,
        List.length_append]

theorem length_raises (calls : List (Call φ ε π)) :
    (raises calls).length + (raisesTo calls).length = calls.length := by
  induction calls with
  | nil => rfl
  | cons call calls ih =>
      cases call with
      | raise item =>
          rw [raises, raisesTo, List.length_cons, List.length_cons]
          omega
      | raiseTo item =>
          rw [raises, raisesTo, List.length_cons, List.length_cons]
          omega

theorem raises_append (first later : List (Call φ ε π)) :
    raises (first ++ later) = raises first ++ raises later := by
  induction first with
  | nil => rfl
  | cons call first ih =>
      cases call with
      | raise item => rw [List.cons_append, raises, raises, ih, List.cons_append]
      | raiseTo item => rw [List.cons_append, raises, raises, ih]

theorem raisesTo_append (first later : List (Call φ ε π)) :
    raisesTo (first ++ later) = raisesTo first ++ raisesTo later := by
  induction first with
  | nil => rfl
  | cons call first ih =>
      cases call with
      | raise item => rw [List.cons_append, raisesTo, raisesTo, ih]
      | raiseTo item => rw [List.cons_append, raisesTo, raisesTo, ih, List.cons_append]

/-- A function that only adds to the log. -/
def Logs (effect : Effect σ γ φ ε π) : Prop := ∀ s, s.log <+: (reached (effect s)).log

theorem Logs.bind {effect : Effect σ γ φ ε π} (logs : Logs effect) (result : Result σ γ φ ε π) :
    (reached result).log <+: (reached (result.bind effect)).log := by
  cases result with
  | error stopped => exact List.prefix_refl _
  | ok s => exact logs s

theorem Machines.ProperRun.of_bind {effect : Effect σ γ φ ε π} {result : Result σ γ φ ε π}
    (proper : machines.ProperRun (result.bind effect)) (logs : Logs effect) :
    machines.ProperRun result :=
  fun entry member => proper entry ((logs.bind result).subset member)

variable [DecidableEq γ] [DecidableEq ε]

theorem log_raise (fsm : φ) (event : ε) (type : Int) (srcptr : Option π)
    (s : State σ γ φ ε π) :
    (machines.raise fsm event type srcptr s).log =
      s.log ++ [.call (.raise ⟨event, machines.raised fsm type srcptr⟩)
        (s.ctx (machines.fsm fsm).ctx).locked (s.isInQueue event)] := rfl

theorem log_raiseTo (fsm dst_fsm : φ) (event : ε) (src type : Int) (srcptr : Option π)
    (s : State σ γ φ ε π) :
    (machines.raiseTo fsm dst_fsm event src type srcptr s).log =
      s.log ++ [.call (.raiseTo ⟨event, ⟨some dst_fsm, src, srcptr, type⟩⟩)
        (s.ctx (machines.fsm fsm).ctx).locked (s.isInQueue event)] := rfl

theorem log_run (code : Code σ φ ε π) (s : State σ γ φ ε π) :
    s.log <+: (machines.run code s).log := by
  induction code generalizing s with
  | done => exact List.prefix_refl _
  | read next ih => exact ih s.memory s
  | write memory next ih => exact ih { s with memory := memory }
  | active event next ih => exact ih (s.isInQueue event) s
  | raise fsm event type srcptr next ih =>
      refine List.IsPrefix.trans ?_ (ih (machines.raise fsm event type srcptr s))
      rw [log_raise]
      exact List.prefix_append _ _
  | raiseTo fsm dst_fsm event src type srcptr next ih =>
      refine List.IsPrefix.trans ?_ (ih (machines.raiseTo fsm dst_fsm event src type srcptr s))
      rw [log_raiseTo]
      exact List.prefix_append _ _

theorem logs_process (event : ε) :
    Logs (machines.process event : Effect σ γ φ ε π) := by
  intro s
  rw [Machines.process]
  split
  · exact List.prefix_append _ _
  · split
    · exact List.prefix_append _ _
    · refine List.IsPrefix.trans ?_ (log_run _ _)
      exact List.prefix_append _ _

omit [DecidableEq ε] in
theorem logs_lock (ctx : γ) : Logs (State.lock ctx : Effect σ γ φ ε π) := by
  intro s
  rw [State.lock]
  split
  · exact List.prefix_refl _
  · exact List.prefix_append _ _

theorem logs_drainEvents (ctx : γ) (fuel : Nat) :
    Logs (machines.drainEvents ctx fuel : Effect σ γ φ ε π) := by
  induction fuel with
  | zero => exact fun s => List.prefix_refl _
  | succ fuel ih =>
      intro s
      rw [Machines.drainEvents]
      cases (NetQueue.pop s.next (s.ctx ctx).events).1 with
      | none => exact List.prefix_refl _
      | some event =>
          let popped := s.setEvents ctx (NetQueue.pop s.next (s.ctx ctx).events).2
          exact (logs_process event popped).trans (ih.bind _)

theorem log_leave (machines : Machines σ γ φ ε π) (ctx : γ) (s : State σ γ φ ε π) :
    s.log <+: (machines.leave ctx s).log := by
  rw [Machines.leave]
  cases machines.onLeave ctx with
  | none => exact List.prefix_refl _
  | some handler => exact log_run handler s

omit [DecidableEq ε] in
theorem log_unlock (ctx : γ) (s : State σ γ φ ε π) :
    (s.unlock ctx).log = s.log ++ [.unlock ctx ((s.ctx ctx).events.empty ≠ 0)
      ((s.ctx ctx).eventsto.empty ≠ 0)] := rfl

/-- What a section does once its internal events are processed. -/
def Machines.release (machines : Machines σ γ φ ε π) (fuel : Nat) (ctx : γ) : Effect σ γ φ ε π :=
  fun s =>
    if ((machines.leave ctx s).ctx ctx).eventsto.empty ≠ 0 then
      .ok ((machines.leave ctx s).unlock ctx)
    else
      machines.drainEventsto fuel ((machines.leave ctx s).ctx ctx).eventsto
        (((machines.leave ctx s).setEventsto ctx ((machines.leave ctx s).next, .init)).unlock ctx)

theorem executeCriticalSection_succ (fuel : Nat) (ctx : γ) (func : Effect σ γ φ ε π)
    (s : State σ γ φ ε π) :
    machines.executeCriticalSection (fuel + 1) ctx func s =
      ((s.lock ctx).bind func).bind fun s =>
        (machines.drainEvents ctx fuel s).bind (machines.release fuel ctx) := by
  rw [Machines.executeCriticalSection]
  cases s.lock ctx with
  | error stopped => rfl
  | ok locked => rfl

theorem logs_release {fuel : Nat} (hands : ∀ queue, Logs (machines.drainEventsto fuel queue))
    (ctx : γ) : Logs (machines.release fuel ctx) := by
  intro s
  rw [Machines.release]
  refine (log_leave machines ctx s).trans ?_
  split
  · exact List.prefix_append _ _
  · refine List.IsPrefix.trans ?_ (hands _ _)
    exact List.prefix_append _ _

theorem logs_close {fuel : Nat} (hands : ∀ queue, Logs (machines.drainEventsto fuel queue))
    (ctx : γ) :
    Logs fun s => (machines.drainEvents ctx fuel s).bind (machines.release fuel ctx) :=
  fun s => (logs_drainEvents ctx fuel s).trans ((logs_release hands ctx).bind _)

/-- With its function, a section and all sections that it opens only add to the log. -/
theorem logs_sections (machines : Machines σ γ φ ε π) (fuel : Nat) :
    (∀ ctx (func : Effect σ γ φ ε π), Logs func →
      Logs (machines.executeCriticalSection fuel ctx func)) ∧
    ∀ queue, Logs (machines.drainEventsto fuel queue) := by
  induction fuel with
  | zero => exact ⟨fun _ _ _ s => List.prefix_refl _, fun _ s => List.prefix_refl _⟩
  | succ fuel ih =>
      constructor
      · intro ctx func logs s
        rw [executeCriticalSection_succ]
        exact ((logs_lock ctx s).trans (logs.bind _)).trans ((logs_close ih.2 ctx).bind _)
      · intro queue s
        rw [Machines.drainEventsto]
        cases (NetQueue.pop s.next queue).1 with
        | none => exact List.prefix_refl _
        | some event =>
            dsimp only
            cases (s.event event).fsm with
            | none => exact List.prefix_refl _
            | some fsm =>
                have opened := ih.1 (machines.fsm fsm).ctx (machines.process event)
                  (logs_process event) { s with next := (NetQueue.pop s.next queue).2.1 }
                exact opened.trans ((ih.2 _).bind _)

end Logs

end Context
end Klibmsg
