import Klibmsg.Worker.Routine
import Mathlib.Data.List.Perm.Basic

/-!
# Cancelling tasks

`Cancel` removes a task from the queue of the worker under its lock.  It does not look at the copy
from which the routine pops, nor at the task that has been popped and is about to be fed.
-/

namespace Klibmsg.Worker

open StepSystem

/-- Where a thread is inside `Cancel`. -/
inductive Canceller (τ : Type) where
  | outside
  /-- Holding the lock, before `tasks_.Remove`. -/
  | locked (task : τ)
  /-- Holding the lock, before it is released on return. -/
  | removed (task : τ)
deriving DecidableEq, Repr

/-- A worker with the threads that call `Cancel`. -/
structure Cancelling (θ τ : Type) where
  worker : State θ τ
  canceller : θ → Canceller τ
  /-- `Cancel` has made its removal, and `Execute` no push of the task since. -/
  cancelled : τ → Bool
  /-- The tasks that `Cancel` has taken out of the queue. -/
  removed : List τ

/-- A step of the worker and its callers, or of a thread in `Cancel`. -/
inductive CancelLabel (θ τ : Type) where
  | worker (label : Label θ τ)
  | cancel (thread : θ) (task : τ)
  /-- The loop of `Remove` is told how often it may go round. -/
  | remove (thread : θ) (fuel : Nat)
  | leave (thread : θ)
deriving DecidableEq, Repr

section Model

variable {θ τ : Type} [DecidableEq θ] [DecidableEq τ]

/-- The task that a step pushes. -/
def State.pushing (s : State θ τ) : Label θ τ → Option τ
  | .push thread =>
      match s.caller thread with
      | .locked (.task task) => some task
      | _ => none
  | _ => none

namespace Cancelling

/-- `NetWorker::Cancel`, step by step, beside the steps of the worker. -/
def step (s : Cancelling θ τ) : CancelLabel θ τ → Option (Cancelling θ τ)
  | .worker label => (s.worker.step label).map fun worker =>
      { s with
        worker := worker
        cancelled := fun task => s.cancelled task && decide (s.worker.pushing label ≠ some task) }
  | .cancel thread task =>
      if s.worker.lock = none ∧ s.worker.caller thread = .outside ∧
          s.canceller thread = .outside then
        some { s with
          worker := { s.worker with lock := some (.caller thread) }
          canceller := Function.update s.canceller thread (.locked task) }
      else none
  | .remove thread fuel =>
      match s.canceller thread with
      | .locked task =>
          (NetQueue.remove fuel s.worker.next s.worker.tasks (.task task)).map fun result =>
            { worker := { s.worker with next := result.1, tasks := result.2 }
              canceller := Function.update s.canceller thread (.removed task)
              cancelled := Function.update s.cancelled task true
              removed := s.removed ++
                if s.worker.next (.task task) ≠ .absent ∧ result.1 (.task task) = .absent then
                  [task]
                else [] }
      | _ => none
  | .leave thread =>
      match s.canceller thread with
      | .removed _ =>
          some { s with
            worker := { s.worker with lock := none }
            canceller := Function.update s.canceller thread .outside }
      | _ => none

/-- The runs of a worker whose tasks can be cancelled. -/
def system : StepSystem (Cancelling θ τ) (CancelLabel θ τ) where
  step := step

/-- A worker after `NetWorker::Init`. -/
def initial : Cancelling θ τ where
  worker := .initial
  canceller _ := .outside
  cancelled _ := false
  removed := []

end Cancelling

end Model

/-! ## Removing from the queue -/

section Removal

variable {τ : Type} [DecidableEq τ] {next next' : NextFields (Item τ)}
  {tasks tasks' copy : NetQueue (Item τ)} {queued taken : List (Item τ)} {item : Item τ}

/-- `Remove` erases an item of the queue and ignores all others. -/
theorem Contents.remove (contents : Contents next tasks copy queued taken) {fuel : Nat}
    (removed : NetQueue.remove fuel next tasks item = some (next', tasks')) :
    Contents next' tasks' copy (queued.erase item) taken ∧
      (if item ∈ queued then next' item = .absent else next' = next) := by
  have longer := NetQueue.remove_of_le (Nat.le_max_left fuel queued.length) removed
  have enough : queued.length ≤ max fuel queued.length := Nat.le_max_right ..
  by_cases member : item ∈ queued
  · obtain ⟨other, left, again, holds, absent, same⟩ := contents.tasks.remove member enough
    cases longer.symm.trans again
    rw [if_pos member]
    obtain ⟨_, _, apart⟩ := List.nodup_append.mp contents.nodup
    refine ⟨⟨holds, contents.copy.congr fun other there => ?_, ?_,
      fun {other} marked => ?_⟩, absent⟩
    · exact same other fun here => apart other there other here rfl
    · exact ((List.erase_sublist).append_left taken).nodup contents.nodup
    · have different : other ≠ item := by
        rintro rfl
        exact marked absent
      by_cases here : other ∈ queued
      · exact List.mem_append_right _ ((List.mem_erase_of_ne different).mpr here)
      · rw [same other here] at marked
        have earlier := (List.mem_append.mp (contents.marked marked)).resolve_right here
        exact List.mem_append_left _ earlier
  · cases longer.symm.trans (contents.tasks.remove_of_not_mem member enough)
    rw [if_neg member, List.erase_of_not_mem member]
    exact ⟨contents, rfl⟩

end Removal

/-! ## The order of the tasks -/

section Concat

variable {θ τ : Type}

theorem concat_push (log : List (Entry θ τ)) (thread : θ) (item : Item τ) (effective : Bool) :
    pushes (log ++ [.push thread item effective]) =
        pushes log ++ (if effective = true then [item] else []) ∧
      pops (log ++ [.push thread item effective]) = pops log ∧
      feeds (log ++ [.push thread item effective]) = feeds log := by
  obtain ⟨pushed, popped, fed⟩ := History.concat log (.push thread item effective)
  refine ⟨pushed.trans ?_, popped.trans (List.append_nil _), fed.trans (List.append_nil _)⟩
  cases effective <;> rfl

theorem concat_pop (log : List (Entry θ τ)) (item : Item τ) :
    pushes (log ++ [.pop item]) = pushes log ∧ pops (log ++ [.pop item]) = pops log ++ [item] ∧
      feeds (log ++ [.pop item]) = feeds log := by
  obtain ⟨pushed, popped, fed⟩ := History.concat log (.pop item)
  exact ⟨pushed.trans (List.append_nil _), popped, fed.trans (List.append_nil _)⟩

theorem concat_feed (log : List (Entry θ τ)) (task : τ) :
    pushes (log ++ [.feed task]) = pushes log ∧ pops (log ++ [.feed task]) = pops log ∧
      feeds (log ++ [.feed task]) = feeds log ++ [task] := by
  obtain ⟨pushed, popped, fed⟩ := History.concat log (.feed task)
  exact ⟨pushed.trans (List.append_nil _), popped.trans (List.append_nil _), fed⟩

theorem concat_executed (log : List (Entry θ τ)) (thread : θ) (item : Item τ) :
    pushes (log ++ [.executed thread item]) = pushes log ∧
      pops (log ++ [.executed thread item]) = pops log ∧
      feeds (log ++ [.executed thread item]) = feeds log := by
  obtain ⟨pushed, popped, fed⟩ := History.concat log (.executed thread item)
  exact ⟨pushed.trans (List.append_nil _), popped.trans (List.append_nil _),
    fed.trans (List.append_nil _)⟩

end Concat

/-- The items are popped in the order in which they were pushed, and what was pushed has been
popped, is in a queue or has been removed. -/
structure Order {θ τ : Type} (log : List (Entry θ τ)) (queued taken : List (Item τ))
    (removed : List τ) : Prop where
  sublist : (pops log ++ (taken ++ queued)).Sublist (pushes log)
  balance : (pushes log).Perm (pops log ++ (taken ++ queued) ++ removed.map .task)

namespace Order

variable {θ τ : Type} {log : List (Entry θ τ)} {queued taken : List (Item τ)} {removed : List τ}

theorem push (order : Order log queued taken removed) (thread : θ) (item : Item τ)
    (effective : Bool) :
    Order (log ++ [.push thread item effective])
      (queued ++ if effective = true then [item] else []) taken removed := by
  obtain ⟨pushed, popped, _⟩ := concat_push log thread item effective
  refine ⟨?_, ?_⟩
  · rw [pushed, popped, ← List.append_assoc taken, ← List.append_assoc]
    exact order.sublist.append_right _
  · rw [pushed, popped, ← List.append_assoc taken, ← List.append_assoc (pops log)]
    refine (order.balance.append_right _).trans ?_
    rw [List.append_assoc, List.append_assoc (pops log ++ (taken ++ queued))]
    exact List.perm_append_comm.append_left _

theorem pop {item : Item τ} (order : Order log queued (item :: taken) removed) :
    Order (log ++ [.pop item] : List (Entry θ τ)) queued taken removed := by
  obtain ⟨pushed, popped, _⟩ := concat_pop log item
  have moved : pops log ++ [item] ++ (taken ++ queued) =
      pops log ++ (item :: taken ++ queued) := by
    simp
  refine ⟨?_, ?_⟩
  · rw [pushed, popped, moved]
    exact order.sublist
  · rw [pushed, popped, moved]
    exact order.balance

theorem of_eq {log' : List (Entry θ τ)} (order : Order log queued taken removed)
    (pushed : pushes log' = pushes log) (popped : pops log' = pops log) :
    Order log' queued taken removed :=
  ⟨by rw [pushed, popped]; exact order.sublist, by rw [pushed, popped]; exact order.balance⟩

/-- A task is taken out of the queue. -/
theorem remove [DecidableEq τ] {task : τ} (order : Order log queued taken removed)
    (member : .task task ∈ queued) :
    Order log (queued.erase (.task task)) taken (removed ++ [task]) := by
  refine ⟨?_, ?_⟩
  · exact ((List.erase_sublist.append_left taken).append_left _).trans order.sublist
  · refine order.balance.trans ?_
    rw [List.map_append, List.map_singleton]
    have front : queued.Perm (queued.erase (.task task) ++ [.task task]) :=
      (List.perm_cons_erase member).trans (List.perm_append_singleton _ _).symm
    refine (((front.append_left taken).append_left (pops log)).append_right _).trans ?_
    simp only [List.append_assoc]
    refine ((List.Perm.append_left _ ?_).append_left taken).append_left _
    exact List.perm_append_comm

end Order

/-- The queues, the routine and the order of the tasks. -/
structure Ledger {θ τ : Type} (s : State θ τ) (removed : List τ) (queued taken : List (Item τ)) :
    Prop where
  contents : Contents s.next s.tasks s.copy queued taken
  progress : Progress taken (pops s.log) (feeds s.log) s.routine
  order : Order s.log queued taken removed

section Steps

variable {θ τ : Type} [DecidableEq θ] [DecidableEq τ] {s s' : State θ τ} {removed : List τ}
  {queued taken : List (Item τ)}

omit [DecidableEq θ] [DecidableEq τ] in
theorem Progress.taken_nil {popped : List (Item τ)} {fed : List τ} {routine : Routine τ}
    (progress : Progress taken popped fed routine)
    (idle : routine = .waiting ∨ routine = .reported ∨ routine = .locked ∨ routine = .unsignalled) :
    taken = [] ∧ popped = fed.map .task := by
  rcases idle with rfl | rfl | rfl | rfl <;> exact progress

/-- Every step of the worker keeps the order of the tasks. -/
theorem Step.ledger (stepped : Step s s') (ledger : Ledger s removed queued taken) :
    ∃ queued' taken', Ledger s' removed queued' taken' := by
  obtain ⟨contents, progress, order⟩ := ledger
  cases stepped with
  | call outside free => exact ⟨queued, taken, contents, progress, order⟩
  | @push thread item locked =>
      obtain ⟨added, added_eq, pushed⟩ := contents.push item
      refine ⟨queued ++ added, taken, pushed, ?_, ?_⟩
      · obtain ⟨_, popped, fed⟩ :=
          concat_push s.log thread item (decide (s.next item = .absent))
        change Progress taken (pops (s.log ++ [_])) (feeds (s.log ++ [_])) s.routine
        rw [popped, fed]
        exact progress
      · have recorded := order.push thread item (decide (s.next item = .absent))
        simp only [decide_eq_true_eq, ← added_eq] at recorded
        exact recorded
  | signal pushed => exact ⟨queued, taken, contents, progress, order⟩
  | @finish thread item signalled =>
      obtain ⟨pushed, popped, fed⟩ := concat_executed s.log thread item
      refine ⟨queued, taken, contents, ?_, order.of_eq pushed popped⟩
      change Progress taken (pops (s.log ++ [_])) (feeds (s.log ++ [_])) s.routine
      rw [popped, fed]
      exact progress
  | wait waiting positive =>
      exact ⟨queued, taken, contents, progress.taken_nil (.inl waiting), order⟩
  | lock reported free =>
      exact ⟨queued, taken, contents, progress.taken_nil (.inr (.inl reported)), order⟩
  | unsignal locked positive =>
      exact ⟨queued, taken, contents, progress.taken_nil (.inr (.inr (.inl locked))), order⟩
  | fail locked zero => exact ⟨queued, taken, contents, progress, order⟩
  | copy unsignalled =>
      obtain ⟨rfl, copied⟩ := progress.taken_nil (.inr (.inr (.inr unsignalled)))
      refine ⟨[], queued, contents.takeOver, copied, ?_⟩
      obtain ⟨sublist, balance⟩ := order
      rw [List.nil_append] at sublist balance
      exact ⟨by rwa [List.append_nil], by rwa [List.append_nil]⟩
  | unlock copied =>
      have progress : Progress taken (pops s.log) (feeds s.log) .copied := copied ▸ progress
      exact ⟨queued, taken, contents, progress, order⟩
  | leave popping popped =>
      have progress : Progress taken (pops s.log) (feeds s.log) .popping := popping ▸ progress
      obtain ⟨rfl, emptied⟩ := contents.pop_none popped
      exact ⟨queued, [], emptied, ⟨rfl, progress⟩, order⟩
  | popStop popping popped =>
      have progress : Progress taken (pops s.log) (feeds s.log) .popping := popping ▸ progress
      obtain ⟨rest, rfl, popped⟩ := contents.pop popped
      obtain ⟨_, recorded, fed⟩ := concat_pop s.log .stop
      refine ⟨queued, rest, popped, ⟨[], ?_⟩, order.pop⟩
      rw [recorded, fed]
      exact congrArg (· ++ _) progress
  | @popTask next copy task popping popped =>
      have progress : Progress taken (pops s.log) (feeds s.log) .popping := popping ▸ progress
      obtain ⟨rest, rfl, popped⟩ := contents.pop popped
      obtain ⟨_, recorded, fed⟩ := concat_pop s.log (.task task)
      refine ⟨queued, rest, popped, ?_, order.pop⟩
      change pops (s.log ++ [_]) = (feeds (s.log ++ [_])).map .task ++ _
      rw [recorded, fed]
      exact congrArg (· ++ _) progress
  | @feed task feeding =>
      have progress : Progress taken (pops s.log) (feeds s.log) (.feeding task) :=
        feeding ▸ progress
      obtain ⟨pushed, popped, fed⟩ := concat_feed s.log task
      refine ⟨queued, taken, contents, ?_, order.of_eq pushed popped⟩
      change pops (s.log ++ [_]) = (feeds (s.log ++ [_])).map .task
      rw [popped, fed, List.map_append]
      exact progress
  | exit draining popped =>
      have progress : Progress taken (pops s.log) (feeds s.log) .draining := draining ▸ progress
      obtain ⟨rfl, emptied⟩ := contents.pop_none popped
      exact ⟨queued, [], emptied, ⟨rfl, progress⟩, order⟩
  | @drain next copy item draining popped =>
      have progress : Progress taken (pops s.log) (feeds s.log) .draining := draining ▸ progress
      obtain ⟨rest, rfl, popped⟩ := contents.pop popped
      obtain ⟨dropped, progress⟩ := progress
      obtain ⟨_, recorded, fed⟩ := concat_pop s.log item
      refine ⟨queued, rest, popped, ?_, order.pop⟩
      change Progress rest (pops (s.log ++ [_])) (feeds (s.log ++ [_])) s.routine
      rw [recorded, fed, draining, progress]
      exact ⟨dropped ++ [item], by simp⟩

omit [DecidableEq θ] in
/-- A task that is in no queue can only be popped when it is pushed again. -/
theorem pop_other {next : NextFields (Item τ)} {copy : NetQueue (Item τ)} {item other : Item τ}
    (contents : Contents s.next s.tasks s.copy queued taken)
    (popped : s.copy.pop s.next = (some item, next, copy)) (unmarked : s.next other = .absent) :
    next other = .absent ∧ item ≠ other := by
  cases taken with
  | nil =>
      rw [contents.copy.pop_nil] at popped
      cases popped
  | cons first rest =>
      obtain ⟨queue, outcome, _⟩ := contents.copy.pop_cons
      rw [outcome] at popped
      cases popped
      have different : item ≠ other := by
        rintro rfl
        exact contents.copy.marked List.mem_cons_self unmarked
      exact ⟨by rwa [Function.update_of_ne different.symm], different⟩

/-- A task that is neither queued nor about to be fed stays so until it is pushed. -/
theorem State.idle_step {label : Label θ τ} {task : τ} (ledger : Ledger s removed queued taken)
    (stepped : s.step label = some s') (not_pushed : s.pushing label ≠ some task)
    (unmarked : s.next (.task task) = .absent) (idle : s.routine ≠ .feeding task) :
    s'.next (.task task) = .absent ∧ s'.routine ≠ .feeding task := by
  have contents := ledger.contents
  rw [State.step, Option.or_eq_some_iff] at stepped
  obtain called | ⟨_, walked⟩ := stepped
  · cases label with
    | push thread =>
        simp only [State.callerStep] at called
        split at called
        next item locked =>
          cases called
          have different : Item.task task ≠ item := by
            rintro rfl
            exact not_pushed (by simp [State.pushing, locked])
          refine ⟨?_, idle⟩
          change (NetQueue.push s.next s.tasks item).1 (.task task) = _
          rw [contents.tasks.push_next different (contents.tasks.unmarked unmarked), unmarked]
        next => cases called
    | call thread item =>
        simp only [State.callerStep] at called
        split_ifs at called
        cases called
        exact ⟨unmarked, idle⟩
    | signal thread =>
        simp only [State.callerStep] at called
        split at called
        next =>
          split_ifs at called
          cases called
          exact ⟨unmarked, idle⟩
        next => cases called
    | finish thread =>
        simp only [State.callerStep] at called
        split at called
        next =>
          cases called
          exact ⟨unmarked, idle⟩
        next => cases called
    | wait | lock | unsignal | copy | unlock | pop | feed | drain => cases called
  · cases label with
    | wait | lock | copy | unlock =>
        simp only [State.routineStep] at walked
        split_ifs at walked
        cases walked
        exact ⟨unmarked, by rintro ⟨⟩⟩
    | unsignal =>
        simp only [State.routineStep] at walked
        split_ifs at walked with locked positive
        · cases walked
          exact ⟨unmarked, by rintro ⟨⟩⟩
        · cases walked
          exact ⟨unmarked, idle⟩
    | pop =>
        simp only [State.routineStep] at walked
        split_ifs at walked with popping
        split at walked
        next next' queue' popped =>
          cases walked
          obtain ⟨rfl, _⟩ := contents.pop_none popped
          rw [contents.copy.pop_nil] at popped
          cases popped
          exact ⟨unmarked, by rintro ⟨⟩⟩
        next popped =>
          cases walked
          exact ⟨(pop_other contents popped unmarked).1, by rintro ⟨⟩⟩
        next other _ _ popped =>
          cases walked
          obtain ⟨still, different⟩ := pop_other contents popped unmarked
          refine ⟨still, fun same => different ?_⟩
          cases same
          rfl
    | feed =>
        simp only [State.routineStep] at walked
        split at walked
        next =>
          cases walked
          exact ⟨unmarked, by rintro ⟨⟩⟩
        next => cases walked
    | drain =>
        simp only [State.routineStep] at walked
        split_ifs at walked with draining
        split at walked
        next popped =>
          cases walked
          obtain ⟨rfl, _⟩ := contents.pop_none popped
          rw [contents.copy.pop_nil] at popped
          cases popped
          exact ⟨unmarked, by rintro ⟨⟩⟩
        next popped =>
          cases walked
          exact ⟨(pop_other contents popped unmarked).1, idle⟩
    | call thread item | push thread | signal thread | finish thread => cases walked

end Steps

namespace Cancelling

variable {θ τ : Type} [DecidableEq θ] [DecidableEq τ] {s s' : Cancelling θ τ}

/-- The task has been taken over by the routine and not been popped. -/
def InCopy (s : Cancelling θ τ) (task : τ) : Prop :=
  ∃ taken, s.worker.copy.Holds s.worker.next taken ∧ .task task ∈ taken

/-- When `Cancel` makes its removal, the task is neither in the copy nor about to be fed. -/
def Timely (s : Cancelling θ τ) (label : CancelLabel θ τ) : Prop :=
  ∀ thread fuel task, label = .remove thread fuel → s.canceller thread = .locked task →
    ¬s.InCopy task ∧ s.worker.routine ≠ .feeding task

/-- A cancelled task is in no queue and is not about to be fed. -/
def Effective (s : Cancelling θ τ) : Prop :=
  ∀ task, s.cancelled task = true →
    s.worker.next (.task task) = .absent ∧ s.worker.routine ≠ .feeding task

/-- The items of the queues and their order. -/
def Ordered (s : Cancelling θ τ) (queued taken : List (Item τ)) : Prop :=
  Ledger s.worker s.removed queued taken

omit [DecidableEq θ] [DecidableEq τ] in
theorem Ordered.inCopy_iff {queued taken : List (Item τ)} (ordered : s.Ordered queued taken)
    {task : τ} : s.InCopy task ↔ .task task ∈ taken := by
  constructor
  · rintro ⟨other, holds, member⟩
    rwa [ordered.contents.copy.unique holds]
  · exact fun member => ⟨taken, ordered.contents.copy, member⟩

/-- A removal. -/
theorem Ordered.remove {queued taken : List (Item τ)} (ordered : s.Ordered queued taken)
    {thread : θ} {fuel : Nat} {task : τ} (locked : s.canceller thread = .locked task)
    (stepped : system.step s (.remove thread fuel) = some s') :
    s'.Ordered (queued.erase (.task task)) taken ∧
      s'.cancelled = Function.update s.cancelled task true ∧
      s'.worker.routine = s.worker.routine ∧
      (s'.worker.next (.task task) = .absent ↔ .task task ∉ taken) ∧
      ∀ other, s.worker.next (.task other) = .absent → s'.worker.next (.task other) = .absent := by
  obtain ⟨contents, progress, order⟩ := ordered
  change s.step (.remove thread fuel) = some s' at stepped
  simp only [step, locked] at stepped
  obtain ⟨result, removes, rfl⟩ := Option.map_eq_some_iff.mp stepped
  obtain ⟨removed, next⟩ := contents.remove removes
  obtain ⟨_, _, apart⟩ := List.nodup_append.mp contents.nodup
  by_cases member : .task task ∈ queued
  · rw [if_pos member] at next
    have marked := contents.tasks.marked member
    have outside : .task task ∉ taken := fun there => apart _ there _ member rfl
    refine ⟨⟨removed, progress, ?_⟩, rfl, rfl, iff_of_true next outside, fun other absent => ?_⟩
    · change Order s.worker.log _ taken (s.removed ++ _)
      rw [if_pos ⟨marked, next⟩]
      exact order.remove member
    · by_contra still
      have inside := removed.marked still
      rw [List.mem_append] at inside
      exact inside.elim (fun there => contents.copy.marked there absent)
        fun here => contents.tasks.marked (List.mem_of_mem_erase here) absent
  · rw [if_neg member] at next
    refine ⟨⟨removed, progress, ?_⟩, rfl, rfl, ?_, fun other absent => ?_⟩
    · change Order s.worker.log _ taken (s.removed ++ _)
      rw [if_neg fun both => both.1 (next ▸ both.2), List.append_nil,
        List.erase_of_not_mem member]
      exact order
    · change result.1 (.task task) = .absent ↔ _
      rw [next]
      refine ⟨fun absent => contents.copy.unmarked absent, fun outside => ?_⟩
      by_contra marked
      exact (List.mem_append.mp (contents.marked marked)).elim outside member
    · change result.1 (.task other) = .absent
      rwa [next]

theorem locked_of_remove {thread : θ} {fuel : Nat}
    (stepped : system.step s (.remove thread fuel) = some s') :
    ∃ task, s.canceller thread = .locked task := by
  change s.step (.remove thread fuel) = some s' at stepped
  simp only [step] at stepped
  split at stepped
  next task locked => exact ⟨task, locked⟩
  next => cases stepped

/-- The steps other than a removal. -/
theorem others_step {label : CancelLabel θ τ} {queued taken : List (Item τ)}
    (ordered : s.Ordered queued taken) (stepped : system.step s label = some s')
    (not_remove : ∀ thread fuel, label ≠ .remove thread fuel) :
    (∃ queued taken, s'.Ordered queued taken) ∧ (s.Effective → s'.Effective) := by
  have contents := ordered.contents
  have progress := ordered.progress
  have order := ordered.order
  cases label with
  | worker label =>
      obtain ⟨worker, walks, rfl⟩ := Option.map_eq_some_iff.mp stepped
      refine ⟨(State.step_step walks).ledger ordered, fun effective task cancelled => ?_⟩
      rw [Bool.and_eq_true, decide_eq_true_iff] at cancelled
      obtain ⟨unmarked, idle⟩ := effective task cancelled.1
      exact State.idle_step ordered walks cancelled.2 unmarked idle
  | cancel thread task =>
      change s.step (.cancel thread task) = some s' at stepped
      simp only [step] at stepped
      split_ifs at stepped
      cases stepped
      exact ⟨⟨queued, taken, contents, progress, order⟩, id⟩
  | leave thread =>
      change s.step (.leave thread) = some s' at stepped
      simp only [step] at stepped
      split at stepped
      next =>
        cases stepped
        exact ⟨⟨queued, taken, contents, progress, order⟩, id⟩
      next => cases stepped
  | remove thread fuel => exact absurd rfl (not_remove thread fuel)

/-- Every step keeps the order. -/
theorem ordered_step {label : CancelLabel θ τ} (before : ∃ queued taken, s.Ordered queued taken)
    (stepped : system.step s label = some s') : ∃ queued taken, s'.Ordered queued taken := by
  obtain ⟨queued, taken, ordered⟩ := before
  by_cases is_remove : ∃ thread fuel, label = .remove thread fuel
  · obtain ⟨thread, fuel, rfl⟩ := is_remove
    obtain ⟨task, locked⟩ := locked_of_remove stepped
    exact ⟨_, _, (ordered.remove locked stepped).1⟩
  · exact (others_step ordered stepped fun thread fuel same => is_remove ⟨thread, fuel, same⟩).1

/-- A step keeps cancelled tasks out of the queues exactly when it is no removal that comes late. -/
theorem effective_step {label : CancelLabel θ τ}
    (before : (∃ queued taken, s.Ordered queued taken) ∧ s.Effective)
    (stepped : system.step s label = some s') :
    (s.Timely label → (∃ queued taken, s'.Ordered queued taken) ∧ s'.Effective) ∧
      (s'.Effective → s.Timely label) := by
  have after := ordered_step before.1 stepped
  obtain ⟨⟨queued, taken, ordered⟩, effective⟩ := before
  by_cases is_remove : ∃ thread fuel, label = .remove thread fuel
  · obtain ⟨thread, fuel, rfl⟩ := is_remove
    obtain ⟨task, locked⟩ := locked_of_remove stepped
    obtain ⟨_, cancelled, routine, unmarked, others⟩ := ordered.remove locked stepped
    constructor
    · intro timely
      obtain ⟨outside, idle⟩ := timely thread fuel task rfl locked
      refine ⟨after, fun other done => ?_⟩
      rw [cancelled] at done
      rw [routine]
      by_cases same : other = task
      · subst same
        exact ⟨unmarked.mpr (mt ordered.inCopy_iff.mpr outside), idle⟩
      · rw [Function.update_of_ne same] at done
        exact ⟨others other (effective other done).1, (effective other done).2⟩
    · intro kept other count same_task label_eq locked_other
      cases label_eq
      cases locked.symm.trans locked_other
      obtain ⟨absent, idle⟩ := kept task (by rw [cancelled, Function.update_self])
      rw [routine] at idle
      exact ⟨mt ordered.inCopy_iff.mp (unmarked.mp absent), idle⟩
  · have not_remove : ∀ thread fuel, label ≠ .remove thread fuel :=
      fun thread fuel same => is_remove ⟨thread, fuel, same⟩
    exact ⟨fun _ => ⟨after, (others_step ordered stepped not_remove).2 effective⟩,
      fun _ thread fuel _ same => absurd same (not_remove thread fuel)⟩

omit [DecidableEq θ] [DecidableEq τ] in
theorem initial_ordered : (initial : Cancelling θ τ).Ordered [] [] where
  contents := initial_invariant.contents
  progress := initial_invariant.history.progress
  order := ⟨List.Sublist.refl _, List.Perm.refl _⟩

/-- All along a run, cancelled tasks are in no queue and are not about to be fed exactly when every
removal comes in time; the other tasks keep their order and none is lost in any run. -/
theorem cancel_effective_iff {labels : List (CancelLabel θ τ)}
    (execution : system.run initial labels = some s) :
    (system.Always Effective initial labels ↔ system.Guarded Timely initial labels) ∧
      ∃ queued taken, s.worker.tasks.Holds s.worker.next queued ∧
        s.worker.copy.Holds s.worker.next taken ∧ (taken ++ queued).Nodup ∧
        Order s.worker.log queued taken s.removed ∧
        ∀ thread fuel task s', s.canceller thread = .locked task →
          system.step s (.remove thread fuel) = some s' →
            s'.worker.tasks.Holds s'.worker.next (queued.erase (.task task)) ∧
              s'.worker.copy.Holds s'.worker.next taken := by
  have start : (∃ queued taken, (initial : Cancelling θ τ).Ordered queued taken) ∧
      (initial : Cancelling θ τ).Effective :=
    ⟨⟨[], [], initial_ordered⟩, by rintro _ ⟨⟩⟩
  have kept : ∀ (before : Cancelling θ τ) label after,
      (∃ queued taken, before.Ordered queued taken) →
        system.step before label = some after → ∃ queued taken, after.Ordered queued taken :=
    fun _ _ _ => ordered_step
  obtain ⟨queued, taken, ordered⟩ := StepSystem.run_invariant kept start.1 execution
  refine ⟨StepSystem.always_iff_guarded (fun _ holds => holds.2) (fun _ _ _ => effective_step)
    start execution, queued, taken, ordered.contents.tasks, ordered.contents.copy,
    ordered.contents.nodup, ordered.order, ?_⟩
  intro thread fuel task s' locked stepped
  obtain ⟨after, _⟩ := ordered.remove locked stepped
  exact ⟨after.contents.tasks, after.contents.copy⟩

/-- A task is queued and cancelled before the routine takes it over. -/
def cancelsQueued : List (CancelLabel Bool Unit) :=
  [.worker (.call false (.task ())), .worker (.push false), .worker (.signal false),
    .worker (.finish false), .cancel true (), .remove true 1, .leave true]

theorem cancel_effective_queued : ∃ s : Cancelling Bool Unit,
    system.run initial cancelsQueued = some s ∧ s.removed = [()] ∧
      (system.Always Effective initial cancelsQueued ↔
        system.Guarded Timely initial cancelsQueued) ∧
      ∃ queued taken, s.worker.tasks.Holds s.worker.next queued ∧
        s.worker.copy.Holds s.worker.next taken ∧ Order s.worker.log queued taken s.removed := by
  have computed : (system.run initial cancelsQueued).any (fun s => s.removed = [()]) = true := by
    decide +kernel
  obtain ⟨s, execution, facts⟩ := (Option.any_eq_true _ _).mp computed
  obtain ⟨decided, queued, taken, tasks, copy, _, order, _⟩ := cancel_effective_iff execution
  exact ⟨s, execution, of_decide_eq_true facts, decided, queued, taken, tasks, copy, order⟩

/-- `Cancel` does not find a task that the routine has taken over, and the task is fed. -/
theorem cancelled_task_fed : ∃ s s' : Cancelling Bool Unit,
    system.run initial
      [.worker (.call false (.task ())), .worker (.push false), .worker (.signal false),
        .worker (.finish false), .worker .wait, .worker .lock, .worker .unsignal, .worker .copy,
        .worker .unlock, .cancel true (), .remove true 1, .leave true] = some s ∧
      s.worker.next (.task ()) ≠ .absent ∧ ¬s.Effective ∧
      system.run s [.worker .pop, .worker .feed] = some s' ∧ feeds s'.worker.log = [()] := by
  have computed : (system.run (initial : Cancelling Bool Unit)
      [.worker (.call false (.task ())), .worker (.push false), .worker (.signal false),
        .worker (.finish false), .worker .wait, .worker .lock, .worker .unsignal, .worker .copy,
        .worker .unlock, .cancel true (), .remove true 1, .leave true]).any
      (fun s => decide (s.worker.next (.task ()) ≠ .absent ∧ s.cancelled () = true) &&
        (system.run s [.worker .pop, .worker .feed]).any
          fun s' => decide (feeds s'.worker.log = [()])) = true := by
    decide +kernel
  obtain ⟨s, execution, facts⟩ := (Option.any_eq_true _ _).mp computed
  obtain ⟨marked, continues⟩ := (Bool.and_eq_true _ _).mp facts
  obtain ⟨s', later, fed⟩ := (Option.any_eq_true _ _).mp continues
  obtain ⟨queued, cancelled⟩ := of_decide_eq_true marked
  exact ⟨s, s', execution, queued, fun effective => queued (effective () cancelled).1, later,
    of_decide_eq_true fed⟩

end Cancelling

end Klibmsg.Worker
