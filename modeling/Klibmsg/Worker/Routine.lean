import Klibmsg.Library.StepSystem
import Klibmsg.Worker.Queue
import Mathlib.Algebra.Group.Nat.Defs

/-!
# The task queue of a worker under concurrent calls

Any number of threads call `Execute` while `NetWorkerRoutine` waits for its event descriptor, takes
the queue over under the lock and pops and feeds its items without the lock.  `Terminate` pushes the
item `stop_` in the same way.  Taking over copies the two pointers of the queue; an item that is
still in the copy keeps its mark, so pushing it again has no effect until it is popped.
-/

namespace Klibmsg.Worker

open StepSystem

/-- The items of the queue: the tasks and `stop_`. -/
inductive Item (τ : Type) where
  | task (task : τ)
  | stop
deriving DecidableEq, Repr

/-- Where a thread is inside `Execute`, or inside `Terminate` for the item `stop`. -/
inductive Caller (τ : Type) where
  | outside
  /-- Holding the lock, before `tasks_.Push`. -/
  | locked (item : Item τ)
  /-- Holding the lock, before `efd_.Signal`. -/
  | pushed (item : Item τ)
  /-- Holding the lock, before it is released on return. -/
  | signalled (item : Item τ)
deriving DecidableEq, Repr

/-- Where the routine is. -/
inductive Routine (τ : Type) where
  /-- In `poller_.Wait`. -/
  | waiting
  /-- With an event of the event descriptor to be handled. -/
  | reported
  /-- Holding the lock, before `efd_.Unsignal`. -/
  | locked
  /-- Holding the lock, before the queue is copied. -/
  | unsignalled
  /-- Holding the lock, with the copy. -/
  | copied
  /-- Before the next `tasks.Pop`. -/
  | popping
  /-- With a task that was popped and not fed yet. -/
  | feeding (task : τ)
  /-- Past the item `stop_`, popping the rest. -/
  | draining
  | returned
deriving DecidableEq, Repr

/-- The holder of `sync_`. -/
inductive Holder (θ : Type) where
  | caller (thread : θ)
  | routine
deriving DecidableEq, Repr

/-- What has happened. -/
inductive Entry (θ τ : Type) where
  | push (thread : θ) (item : Item τ) (effective : Bool)
  | pop (item : Item τ)
  | feed (task : τ)
  | executed (thread : θ) (item : Item τ)
deriving DecidableEq, Repr

/-- `NetWorker` with its threads. -/
structure State (θ τ : Type) where
  next : NextFields (Item τ)
  tasks : NetQueue (Item τ)
  /-- The local copy `tasks` of the routine. -/
  copy : NetQueue (Item τ)
  /-- The counter of `efd_`. -/
  counter : Nat
  lock : Option (Holder θ)
  caller : θ → Caller τ
  routine : Routine τ
  /-- A `CHECK` of `Unsignal` has failed. -/
  failed : Bool
  log : List (Entry θ τ)

/-- A step of a calling thread or of the routine. -/
inductive Label (θ τ : Type) where
  | call (thread : θ) (item : Item τ)
  | push (thread : θ)
  | signal (thread : θ)
  | finish (thread : θ)
  | wait
  | lock
  | unsignal
  | copy
  | unlock
  | pop
  | feed
  | drain
deriving DecidableEq, Repr

/-- The greatest value of the counter of an event descriptor. -/
def counterMax : Nat := 2 ^ 64 - 2

namespace State

variable {θ τ : Type} [DecidableEq θ] [DecidableEq τ]

/-- Move a calling thread on. -/
def setCaller (s : State θ τ) (thread : θ) (caller : Caller τ) : State θ τ :=
  { s with caller := Function.update s.caller thread caller }

/-- `NetWorker::Execute` and the locked part of `NetWorker::Terminate`, step by step. -/
def callerStep (s : State θ τ) : Label θ τ → Option (State θ τ)
  | .call thread item =>
      if s.caller thread = .outside ∧ s.lock = none then
        some { s.setCaller thread (.locked item) with lock := some (.caller thread) }
      else none
  | .push thread =>
      match s.caller thread with
      | .locked item =>
          some { s.setCaller thread (.pushed item) with
            next := (s.tasks.push s.next item).1
            tasks := (s.tasks.push s.next item).2
            log := s.log ++ [.push thread item (decide (s.next item = .absent))] }
      | _ => none
  | .signal thread =>
      match s.caller thread with
      | .pushed item =>
          if s.counter < counterMax then
            some { s.setCaller thread (.signalled item) with counter := s.counter + 1 }
          else none
      | _ => none
  | .finish thread =>
      match s.caller thread with
      | .signalled item =>
          some { s.setCaller thread .outside with
            lock := none, log := s.log ++ [.executed thread item] }
      | _ => none
  | _ => none

/-- `NetWorker::NetWorkerRoutine`, step by step.  Events of other descriptors do not touch the
queue. -/
def routineStep (s : State θ τ) : Label θ τ → Option (State θ τ)
  | .wait =>
      if s.routine = .waiting ∧ 0 < s.counter then some { s with routine := .reported } else none
  | .lock =>
      if s.routine = .reported ∧ s.lock = none then
        some { s with routine := .locked, lock := some .routine }
      else none
  | .unsignal =>
      if s.routine = .locked then
        if 0 < s.counter then some { s with routine := .unsignalled, counter := 0 }
        else some { s with failed := true }
      else none
  | .copy =>
      if s.routine = .unsignalled then
        some { s with routine := .copied, copy := s.tasks, tasks := .init }
      else none
  | .unlock =>
      if s.routine = .copied then some { s with routine := .popping, lock := none } else none
  | .pop =>
      if s.routine = .popping then
        match s.copy.pop s.next with
        | (none, next, _) => some { s with routine := .waiting, next := next, copy := .init }
        | (some .stop, next, copy) =>
            some { s with
              routine := .draining, next := next, copy := copy, log := s.log ++ [.pop .stop] }
        | (some (.task task), next, copy) =>
            some { s with
              routine := .feeding task, next := next, copy := copy
              log := s.log ++ [.pop (.task task)] }
      else none
  | .feed =>
      match s.routine with
      | .feeding task => some { s with routine := .popping, log := s.log ++ [.feed task] }
      | _ => none
  | .drain =>
      if s.routine = .draining then
        match s.copy.pop s.next with
        | (none, next, _) => some { s with routine := .returned, next := next, copy := .init }
        | (some item, next, copy) =>
            some { s with next := next, copy := copy, log := s.log ++ [.pop item] }
      else none
  | _ => none

/-- One step of a thread or of the routine. -/
def step (s : State θ τ) (label : Label θ τ) : Option (State θ τ) :=
  (s.callerStep label).or (s.routineStep label)

/-- The runs of a worker. -/
def system : StepSystem (State θ τ) (Label θ τ) where
  step := step

/-- A worker after `NetWorker::Init`. -/
def initial : State θ τ where
  next _ := .absent
  tasks := .init
  copy := .init
  counter := 0
  lock := none
  caller _ := .outside
  routine := .waiting
  failed := false
  log := []

end State

/-- What one step can do. -/
inductive Step {θ τ : Type} [DecidableEq θ] [DecidableEq τ] (s : State θ τ) : State θ τ → Prop
  | call {thread : θ} {item : Item τ} (outside : s.caller thread = .outside)
      (free : s.lock = none) :
      Step s { s.setCaller thread (.locked item) with lock := some (.caller thread) }
  | push {thread : θ} {item : Item τ} (locked : s.caller thread = .locked item) :
      Step s { s.setCaller thread (.pushed item) with
        next := (s.tasks.push s.next item).1
        tasks := (s.tasks.push s.next item).2
        log := s.log ++ [.push thread item (decide (s.next item = .absent))] }
  | signal {thread : θ} {item : Item τ} (pushed : s.caller thread = .pushed item) :
      Step s { s.setCaller thread (.signalled item) with counter := s.counter + 1 }
  | finish {thread : θ} {item : Item τ} (signalled : s.caller thread = .signalled item) :
      Step s { s.setCaller thread .outside with
        lock := none, log := s.log ++ [.executed thread item] }
  | wait (waiting : s.routine = .waiting) (positive : 0 < s.counter) :
      Step s { s with routine := .reported }
  | lock (reported : s.routine = .reported) (free : s.lock = none) :
      Step s { s with routine := .locked, lock := some .routine }
  | unsignal (locked : s.routine = .locked) (positive : 0 < s.counter) :
      Step s { s with routine := .unsignalled, counter := 0 }
  | fail (locked : s.routine = .locked) (zero : ¬0 < s.counter) : Step s { s with failed := true }
  | copy (unsignalled : s.routine = .unsignalled) :
      Step s { s with routine := .copied, copy := s.tasks, tasks := .init }
  | unlock (copied : s.routine = .copied) : Step s { s with routine := .popping, lock := none }
  | leave {next : NextFields (Item τ)} {queue : NetQueue (Item τ)} (popping : s.routine = .popping)
      (popped : s.copy.pop s.next = (none, next, queue)) :
      Step s { s with routine := .waiting, next := next, copy := .init }
  | popStop {next : NextFields (Item τ)} {copy : NetQueue (Item τ)}
      (popping : s.routine = .popping) (popped : s.copy.pop s.next = (some .stop, next, copy)) :
      Step s { s with
        routine := .draining, next := next, copy := copy, log := s.log ++ [.pop .stop] }
  | popTask {next : NextFields (Item τ)} {copy : NetQueue (Item τ)} {task : τ}
      (popping : s.routine = .popping)
      (popped : s.copy.pop s.next = (some (.task task), next, copy)) :
      Step s { s with
        routine := .feeding task, next := next, copy := copy
        log := s.log ++ [.pop (.task task)] }
  | feed {task : τ} (feeding : s.routine = .feeding task) :
      Step s { s with routine := .popping, log := s.log ++ [.feed task] }
  | exit {next : NextFields (Item τ)} {queue : NetQueue (Item τ)}
      (draining : s.routine = .draining) (popped : s.copy.pop s.next = (none, next, queue)) :
      Step s { s with routine := .returned, next := next, copy := .init }
  | drain {next : NextFields (Item τ)} {copy : NetQueue (Item τ)} {item : Item τ}
      (draining : s.routine = .draining) (popped : s.copy.pop s.next = (some item, next, copy)) :
      Step s { s with next := next, copy := copy, log := s.log ++ [.pop item] }

namespace State

variable {θ τ : Type} [DecidableEq θ] [DecidableEq τ] {s s' : State θ τ} {label : Label θ τ}

theorem callerStep_step (stepped : s.callerStep label = some s') : Step s s' := by
  cases label with
  | call thread item =>
      simp only [callerStep] at stepped
      split_ifs at stepped with ready
      cases stepped
      exact .call ready.1 ready.2
  | push thread =>
      simp only [callerStep] at stepped
      split at stepped
      next item locked =>
        cases stepped
        exact .push locked
      next => cases stepped
  | signal thread =>
      simp only [callerStep] at stepped
      split at stepped
      next item pushed =>
        split_ifs at stepped
        cases stepped
        exact .signal pushed
      next => cases stepped
  | finish thread =>
      simp only [callerStep] at stepped
      split at stepped
      next item signalled =>
        cases stepped
        exact .finish signalled
      next => cases stepped
  | wait | lock | unsignal | copy | unlock | pop | feed | drain => cases stepped

theorem routineStep_step (stepped : s.routineStep label = some s') : Step s s' := by
  cases label with
  | wait =>
      simp only [routineStep] at stepped
      split_ifs at stepped with ready
      cases stepped
      exact .wait ready.1 ready.2
  | lock =>
      simp only [routineStep] at stepped
      split_ifs at stepped with ready
      cases stepped
      exact .lock ready.1 ready.2
  | unsignal =>
      simp only [routineStep] at stepped
      split_ifs at stepped with locked positive
      · cases stepped
        exact .unsignal locked positive
      · cases stepped
        exact .fail locked positive
  | copy =>
      simp only [routineStep] at stepped
      split_ifs at stepped with unsignalled
      cases stepped
      exact .copy unsignalled
  | unlock =>
      simp only [routineStep] at stepped
      split_ifs at stepped with copied
      cases stepped
      exact .unlock copied
  | pop =>
      simp only [routineStep] at stepped
      split_ifs at stepped with popping
      split at stepped
      next popped =>
        cases stepped
        exact .leave popping popped
      next popped =>
        cases stepped
        exact .popStop popping popped
      next popped =>
        cases stepped
        exact .popTask popping popped
  | feed =>
      simp only [routineStep] at stepped
      split at stepped
      next feeding =>
        cases stepped
        exact .feed feeding
      next => cases stepped
  | drain =>
      simp only [routineStep] at stepped
      split_ifs at stepped with draining
      split at stepped
      next popped =>
        cases stepped
        exact .exit draining popped
      next popped =>
        cases stepped
        exact .drain draining popped
  | call thread item | push thread | signal thread | finish thread => cases stepped

theorem step_step (stepped : s.step label = some s') : Step s s' := by
  rw [step, Option.or_eq_some_iff] at stepped
  obtain called | ⟨_, routine⟩ := stepped
  · exact callerStep_step called
  · exact routineStep_step routine

end State

/-! ## The contents of the two queues -/

section Invariants

variable {τ : Type} [DecidableEq τ]

/-- `tasks_` holds the queued items and the copy the taken ones; no item is in both, and only these
items are marked. -/
structure Contents (next : NextFields (Item τ)) (tasks copy : NetQueue (Item τ))
    (queued taken : List (Item τ)) : Prop where
  tasks : tasks.Holds next queued
  copy : copy.Holds next taken
  nodup : (taken ++ queued).Nodup
  marked : ∀ {item}, next item ≠ .absent → item ∈ taken ++ queued

namespace Contents

variable {next next' : NextFields (Item τ)} {tasks copy copy' : NetQueue (Item τ)}
  {queued taken : List (Item τ)} {item : Item τ}

/-- `Push` appends an item that is in neither queue and ignores the others. -/
theorem push (contents : Contents next tasks copy queued taken) (item : Item τ) :
    ∃ added, added = (if next item = .absent then [item] else []) ∧
      Contents (tasks.push next item).1 (tasks.push next item).2 copy (queued ++ added) taken := by
  refine ⟨_, rfl, ?_⟩
  split
  next absent =>
    have fresh : item ∉ taken ++ queued := by
      rw [List.mem_append, not_or]
      exact ⟨contents.copy.unmarked absent, contents.tasks.unmarked absent⟩
    obtain ⟨_, _, apart⟩ := List.nodup_append.mp contents.nodup
    refine ⟨contents.tasks.push absent, contents.copy.congr fun other member => ?_, ?_,
      fun {other} marked => ?_⟩
    · refine contents.tasks.push_next ?_ fun queued => apart other member other queued rfl
      rintro rfl
      exact fresh (List.mem_append_left _ member)
    · rw [← List.append_assoc]
      refine List.nodup_append.mpr ⟨contents.nodup, List.nodup_singleton item, ?_⟩
      intro other member last last_mem
      rw [List.mem_singleton.mp last_mem]
      rintro rfl
      exact fresh member
    · rw [← List.append_assoc, List.mem_append, List.mem_singleton]
      exact (contents.tasks.push_marks marked).imp_left contents.marked
  next marked =>
    rw [List.append_nil, NetQueue.push_of_marked marked]
    exact contents

omit [DecidableEq τ] in
/-- Copying the two pointers hands the items over. -/
theorem takeOver (contents : Contents next tasks copy queued []) :
    Contents next .init tasks [] queued :=
  ⟨NetQueue.holds_init next, contents.tasks, by simpa using contents.nodup,
    fun marked => by simpa using contents.marked marked⟩

/-- `Pop` on the copy takes its first item. -/
theorem pop (contents : Contents next tasks copy queued taken)
    (popped : copy.pop next = (some item, next', copy')) :
    ∃ rest, taken = item :: rest ∧ Contents next' tasks copy' queued rest := by
  cases taken with
  | nil =>
      rw [contents.copy.pop_nil] at popped
      cases popped
  | cons first rest =>
      obtain ⟨queue, outcome, holds⟩ := contents.copy.pop_cons
      rw [outcome] at popped
      cases popped
      have nodup := contents.nodup
      rw [List.cons_append, List.nodup_cons] at nodup
      refine ⟨rest, rfl, contents.tasks.congr fun other member => ?_, holds, nodup.2,
        fun {other} marked => ?_⟩
      · rw [Function.update_of_ne]
        rintro rfl
        exact nodup.1 (List.mem_append_right _ member)
      · by_cases same : other = item
        · subst same
          simp at marked
        · rw [Function.update_of_ne same] at marked
          exact (List.mem_cons.mp (contents.marked marked)).resolve_left same

/-- `Pop` on an empty copy. -/
theorem pop_none {copy' : NetQueue (Item τ)} (contents : Contents next tasks copy queued taken)
    (popped : copy.pop next = (none, next', copy')) :
    taken = [] ∧ Contents next' tasks .init queued [] := by
  cases taken with
  | nil =>
      rw [contents.copy.pop_nil] at popped
      cases popped
      exact ⟨rfl, contents.tasks, NetQueue.holds_init next, contents.nodup, contents.marked⟩
  | cons first rest =>
      obtain ⟨queue, outcome, _⟩ := contents.copy.pop_cons
      rw [outcome] at popped
      cases popped

end Contents

end Invariants

/-! ## The history -/

section Histories

variable {θ τ : Type}

/-- The item, when the entry is a push that had an effect. -/
def Entry.pushed : Entry θ τ → Option (Item τ)
  | push _ item effective => if effective then some item else none
  | _ => none

/-- The item, when the entry is a pop. -/
def Entry.popped : Entry θ τ → Option (Item τ)
  | pop item => some item
  | _ => none

/-- The task, when the entry feeds one. -/
def Entry.fed : Entry θ τ → Option τ
  | feed task => some task
  | _ => none

/-- The pushes that had an effect, in order. -/
def pushes (log : List (Entry θ τ)) : List (Item τ) := log.filterMap Entry.pushed

/-- The items that were popped, in order. -/
def pops (log : List (Entry θ τ)) : List (Item τ) := log.filterMap Entry.popped

/-- The tasks that were fed, in order. -/
def feeds (log : List (Entry θ τ)) : List τ := log.filterMap Entry.fed

/-- A call of `Execute` has made its push after the last pop of the item. -/
def PushedSincePop (item : Item τ) (log : List (Entry θ τ)) : Prop :=
  ∃ before after thread effective, log = before ++ .push thread item effective :: after ∧
    .pop item ∉ after

theorem pushedSincePop_concat {item : Item τ} {log : List (Entry θ τ)} {entry : Entry θ τ}
    (recent : PushedSincePop item (log ++ [entry])) :
    (∃ thread effective, entry = .push thread item effective) ∨
      entry ≠ .pop item ∧ PushedSincePop item log := by
  obtain ⟨before, after, thread, effective, split, quiet⟩ := recent
  obtain rfl | ⟨front, last, rfl⟩ := after.eq_nil_or_concat'
  · obtain ⟨_, same⟩ := List.append_inj' split rfl
    exact .inl ⟨thread, effective, by simpa using same⟩
  · rw [← List.cons_append, ← List.append_assoc] at split
    obtain ⟨earlier, same⟩ := List.append_inj' split rfl
    obtain rfl : entry = last := by simpa using same
    simp only [List.mem_append, List.mem_singleton, not_or] at quiet
    exact .inr ⟨Ne.symm quiet.2, before, front, thread, effective, earlier, quiet.1⟩

/-- How far the routine has come with the items that it has taken over. -/
def Progress (taken popped : List (Item τ)) (fed : List τ) : Routine τ → Prop
  | .waiting => taken = [] ∧ popped = fed.map .task
  | .reported => taken = [] ∧ popped = fed.map .task
  | .locked => taken = [] ∧ popped = fed.map .task
  | .unsignalled => taken = [] ∧ popped = fed.map .task
  | .copied => popped = fed.map .task
  | .popping => popped = fed.map .task
  | .feeding task => popped = fed.map .task ++ [.task task]
  | .draining => ∃ dropped, popped = fed.map .task ++ .stop :: dropped
  | .returned => taken = [] ∧ ∃ dropped, popped = fed.map .task ++ .stop :: dropped

/-- Items are popped in the order of their effective pushes, and tasks are fed in the order in which
they are popped; an item that was pushed since its last pop is in a queue. -/
structure History (log : List (Entry θ τ)) (routine : Routine τ) (queued taken : List (Item τ)) :
    Prop where
  order : pushes log = pops log ++ (taken ++ queued)
  progress : Progress taken (pops log) (feeds log) routine
  kept : ∀ {item}, PushedSincePop item log → item ∈ taken ++ queued

namespace History

variable {log : List (Entry θ τ)} {routine : Routine τ} {queued taken rest : List (Item τ)}
  {item : Item τ}

theorem concat (log : List (Entry θ τ)) (entry : Entry θ τ) :
    pushes (log ++ [entry]) = pushes log ++ entry.pushed.toList ∧
    pops (log ++ [entry]) = pops log ++ entry.popped.toList ∧
      feeds (log ++ [entry]) = feeds log ++ entry.fed.toList := by
  refine ⟨?_, ?_, ?_⟩ <;>
    · simp only [pushes, pops, feeds, List.filterMap_append, List.append_cancel_left_eq]
      cases entry with
      | push thread item effective => cases effective <;> rfl
      | pop item => rfl
      | feed task => rfl
      | executed thread item => rfl


/-- An entry that is neither a push nor a pop nor a feed. -/
theorem executed (history : History log routine queued taken) (thread : θ) :
    History (log ++ [.executed thread item]) routine queued taken := by
  obtain ⟨pushed, popped, fed⟩ := concat log (.executed thread item)
  simp only [Entry.pushed, Entry.popped, Entry.fed, Option.toList_none, List.append_nil] at *
  refine ⟨by rw [pushed, popped]; exact history.order,
    by rw [popped, fed]; exact history.progress, fun recent => ?_⟩
  obtain ⟨_, _, same⟩ | ⟨_, earlier⟩ := pushedSincePop_concat recent
  · cases same
  · exact history.kept earlier

/-- A push appends its item, unless the item is in a queue already. -/
theorem push (history : History log routine queued taken) (thread : θ) {effective : Bool}
    (ignored : effective = false → item ∈ taken ++ queued) :
    History (log ++ [.push thread item effective]) routine
      (queued ++ if effective = true then [item] else []) taken := by
  obtain ⟨pushed, popped, fed⟩ := concat log (.push thread item effective)
  simp only [Entry.popped, Entry.fed, Option.toList_none, List.append_nil] at popped fed
  refine ⟨?_, by rw [popped, fed]; exact history.progress, fun {other} recent => ?_⟩
  · rw [pushed, popped, history.order]
    cases effective <;> simp [Entry.pushed]
  · rw [← List.append_assoc, List.mem_append]
    obtain ⟨_, _, same⟩ | ⟨_, earlier⟩ := pushedSincePop_concat recent
    · cases same
      cases effective with
      | false => exact .inl (ignored rfl)
      | true => exact .inr (List.mem_singleton_self item)
    · exact .inl (history.kept earlier)

/-- A pop takes the first item. -/
theorem pop {routine' : Routine τ} (history : History log routine queued (item :: rest))
    (progress : Progress rest (pops log ++ [item]) (feeds log) routine') :
    History (log ++ [.pop item]) routine' queued rest := by
  obtain ⟨pushed, popped, fed⟩ := concat log (.pop item)
  simp only [Entry.pushed, Entry.popped, Entry.fed, Option.toList_none, Option.toList_some,
    List.append_nil] at pushed popped fed
  refine ⟨?_, by rw [popped, fed]; exact progress, fun {other} recent => ?_⟩
  · rw [pushed, popped, history.order]
    simp
  · obtain ⟨_, _, same⟩ | ⟨different, earlier⟩ := pushedSincePop_concat recent
    · cases same
    · have member := history.kept earlier
      rw [List.cons_append, List.mem_cons] at member
      refine member.resolve_left ?_
      rintro rfl
      exact different rfl

/-- Feeding the task that was popped. -/
theorem feed {task : τ} (history : History log (.feeding task) queued taken) :
    History (log ++ [.feed task]) .popping queued taken := by
  obtain ⟨pushed, popped, fed⟩ := concat log (.feed task)
  simp only [Entry.pushed, Entry.popped, Entry.fed, Option.toList_none, Option.toList_some,
    List.append_nil] at pushed popped fed
  have progress : pops log = (feeds log).map .task ++ [.task task] := history.progress
  refine ⟨by rw [pushed, popped]; exact history.order, ?_, fun recent => ?_⟩
  · rw [popped, fed]
    simpa only [Progress, List.map_append, List.map_cons, List.map_nil] using progress
  · obtain ⟨_, _, same⟩ | ⟨_, earlier⟩ := pushedSincePop_concat recent
    · cases same
    · exact history.kept earlier

/-- The routine has nothing in its copy while it waits or is in its critical section. -/
theorem taken_nil (history : History log routine queued taken)
    (idle : routine = .waiting ∨ routine = .reported ∨ routine = .locked ∨ routine = .unsignalled) :
    taken = [] ∧ pops log = (feeds log).map .task := by
  obtain ⟨_, progress, _⟩ := history
  rcases idle with rfl | rfl | rfl | rfl <;> exact progress

/-- The tasks that were fed are the first ones that were pushed. -/
theorem feeds_prefix (history : History log routine queued taken) :
    (feeds log).map .task <+: pushes log := by
  have popped : (feeds log).map .task <+: pops log := by
    have progress := history.progress
    cases routine with
    | waiting | reported | locked | unsignalled => exact progress.2 ▸ List.prefix_rfl
    | copied | popping =>
        rw [Progress] at progress
        exact progress ▸ List.prefix_rfl
    | feeding task =>
        rw [Progress] at progress
        exact progress ▸ List.prefix_append _ _
    | draining =>
        obtain ⟨dropped, progress⟩ := progress
        exact progress ▸ List.prefix_append _ _
    | returned =>
        obtain ⟨_, dropped, progress⟩ := progress
        exact progress ▸ List.prefix_append _ _
  exact popped.trans (history.order ▸ List.prefix_append _ _)

end History

end Histories

/-! ## The lock and the counter -/

/-- The routine holds `sync_`. -/
def Routine.inside {τ : Type} : Routine τ → Prop
  | .locked | .unsignalled | .copied => True
  | _ => False

/-- Whoever is inside a critical section holds the lock, and while it is free the counter announces
the queued items. -/
structure Locking {θ τ : Type} (s : State θ τ) : Prop where
  caller : ∀ thread, s.caller thread ≠ .outside ↔ s.lock = some (.caller thread)
  routine : s.routine.inside ↔ s.lock = some .routine
  announced : s.tasks.head ≠ none →
    0 < s.counter ∨ (∃ thread item, s.caller thread = .pushed item) ∨ s.routine = .unsignalled
  readable : s.routine = .reported ∨ s.routine = .locked → 0 < s.counter
  sound : s.failed = false

/-- Steps of the routine outside the critical section. -/
theorem Locking.walk {θ τ : Type} {s : State θ τ} {routine : Routine τ}
    {next : NextFields (Item τ)} {copy : NetQueue (Item τ)}
    {log : List (Entry θ τ)} (locking : Locking s) (before : ¬s.routine.inside)
    (after : ¬routine.inside) (quiet : routine ≠ .reported) :
    Locking { s with routine := routine, next := next, copy := copy, log := log } := by
  refine ⟨locking.caller, ?_, fun pending => ?_, ?_, locking.sound⟩
  · rw [← locking.routine]
    simp only [before, after]
  · refine (locking.announced pending).imp_right (Or.imp_right ?_)
    intro unsignalled
    simp [unsignalled, Routine.inside] at before
  · rintro (reported | locked)
    · exact absurd reported quiet
    · simp only at locked
      simp [locked, Routine.inside] at after

section Run

variable {θ τ : Type} [DecidableEq θ] [DecidableEq τ] {s s' : State θ τ}

omit [DecidableEq τ] in
theorem caller_setCaller {thread : θ} {caller : Caller τ}
    (holds : ∀ other, s.caller other ≠ .outside ↔ s.lock = some (.caller other))
    (before : s.caller thread ≠ .outside) (after : caller ≠ .outside) (other : θ) :
    (s.setCaller thread caller).caller other ≠ .outside ↔ s.lock = some (.caller other) := by
  by_cases same : other = thread
  · subst same
    simp [State.setCaller, after, (holds other).mp before]
  · rw [← holds other]
    simp [State.setCaller, Function.update_of_ne same]

theorem Step.locking (stepped : Step s s') (locking : Locking s) : Locking s' := by
  have caller := locking.caller
  have routine := locking.routine
  have announced := locking.announced
  have readable := locking.readable
  have sound := locking.sound
  cases stepped with
  | @call thread item outside free =>
      refine ⟨fun other => ?_, ?_, fun pending => ?_, readable, sound⟩
      · by_cases same : other = thread
        · subst same
          simp [State.setCaller]
        · have away := (caller other).not.mpr (by simp [free])
          simp [State.setCaller, Function.update_of_ne same, not_not.mp away, Ne.symm same]
      · simp [State.setCaller, routine, free]
      · obtain positive | ⟨other, last, pushed⟩ | unsignalled := announced pending
        · exact .inl positive
        · have inside := (caller other).mp (by simp [pushed])
          rw [free] at inside
          cases inside
        · exact .inr (.inr unsignalled)
  | @push thread item locked =>
      refine ⟨caller_setCaller caller (by simp [locked]) (by simp), routine, fun _ => ?_,
        readable, sound⟩
      exact .inr (.inl ⟨thread, item, by simp [State.setCaller]⟩)
  | @signal thread item pushed =>
      exact ⟨caller_setCaller caller (by simp [pushed]) (by simp), routine,
        fun _ => .inl (Nat.succ_pos _), fun _ => Nat.succ_pos _, sound⟩
  | @finish thread item signalled =>
      have holder := (caller thread).mp (by simp [signalled])
      refine ⟨fun other => ?_, ?_, fun pending => ?_, readable, sound⟩
      · by_cases same : other = thread
        · subst same
          simp [State.setCaller]
        · have away := (caller other).not.mpr (by simp [holder, Ne.symm same])
          simp [State.setCaller, Function.update_of_ne same, not_not.mp away]
      · have outside := routine.not.mpr (by simp [holder])
        simpa [State.setCaller] using outside
      · refine (announced pending).imp_right (Or.imp_left ?_)
        rintro ⟨other, last, pushed⟩
        have different : other ≠ thread := by
          rintro rfl
          rw [signalled] at pushed
          cases pushed
        exact ⟨other, last, by simpa [State.setCaller, Function.update_of_ne different]⟩
  | wait waiting positive =>
      refine ⟨caller, ?_, fun _ => .inl positive, fun _ => positive, sound⟩
      simpa [waiting, Routine.inside] using routine
  | lock reported free =>
      have positive := readable (.inl reported)
      refine ⟨fun thread => ?_, by simp [Routine.inside], fun _ => .inl positive,
        fun _ => positive, sound⟩
      simpa [free] using caller thread
  | unsignal locked positive =>
      refine ⟨caller, ?_, fun _ => .inr (.inr rfl), by simp, sound⟩
      simpa [locked, Routine.inside] using routine
  | fail locked zero => exact absurd (readable (.inr locked)) zero
  | copy unsignalled =>
      refine ⟨caller, ?_, by simp [NetQueue.init], by simp, sound⟩
      simpa [unsignalled, Routine.inside] using routine
  | unlock copied =>
      have holder := routine.mp (by simp [copied, Routine.inside])
      refine ⟨fun thread => ?_, by simp [Routine.inside], fun pending => ?_, by simp, sound⟩
      · simpa [holder] using caller thread
      · simpa [copied] using announced pending
  | leave popping popped | popStop popping popped | popTask popping popped =>
      exact locking.walk (by simp [popping, Routine.inside]) (by simp [Routine.inside]) (by simp)
  | feed feeding =>
      exact locking.walk (by simp [feeding, Routine.inside]) (by simp [Routine.inside]) (by simp)
  | exit draining popped =>
      exact locking.walk (by simp [draining, Routine.inside]) (by simp [Routine.inside]) (by simp)
  | drain draining popped => exact ⟨caller, routine, announced, readable, sound⟩

/-- What holds in every state of a worker. -/
structure Invariant (s : State θ τ) (queued taken : List (Item τ)) : Prop where
  contents : Contents s.next s.tasks s.copy queued taken
  history : History s.log s.routine queued taken
  locking : Locking s

variable {queued taken : List (Item τ)}

theorem Step.invariant (stepped : Step s s') (invariant : Invariant s queued taken) :
    ∃ queued' taken', Invariant s' queued' taken' := by
  have locking := stepped.locking invariant.locking
  obtain ⟨contents, history, _⟩ := invariant
  cases stepped with
  | call outside free => exact ⟨queued, taken, contents, history, locking⟩
  | @push thread item locked =>
      obtain ⟨added, added_eq, pushed⟩ := contents.push item
      refine ⟨queued ++ added, taken, pushed, ?_, locking⟩
      have ignored : decide (s.next item = .absent) = false → item ∈ taken ++ queued :=
        fun marked => contents.marked (of_decide_eq_false marked)
      have recorded := history.push thread ignored
      simp only [decide_eq_true_eq, ← added_eq] at recorded
      exact recorded
  | signal pushed => exact ⟨queued, taken, contents, history, locking⟩
  | finish signalled => exact ⟨queued, taken, contents, history.executed _, locking⟩
  | wait waiting positive =>
      have progress := history.taken_nil (.inl waiting)
      exact ⟨queued, taken, contents, ⟨history.order, progress, history.kept⟩, locking⟩
  | lock reported free =>
      have progress := history.taken_nil (.inr (.inl reported))
      exact ⟨queued, taken, contents, ⟨history.order, progress, history.kept⟩, locking⟩
  | unsignal locked positive =>
      have progress := history.taken_nil (.inr (.inr (.inl locked)))
      exact ⟨queued, taken, contents, ⟨history.order, progress, history.kept⟩, locking⟩
  | fail locked zero => exact ⟨queued, taken, contents, history, locking⟩
  | copy unsignalled =>
      obtain ⟨rfl, progress⟩ := history.taken_nil (.inr (.inr (.inr unsignalled)))
      refine ⟨[], queued, contents.takeOver, ⟨?_, progress, fun recent => ?_⟩, locking⟩
      · simpa using history.order
      · simpa using history.kept recent
  | unlock copied =>
      have progress : Progress taken (pops s.log) (feeds s.log) .copied := copied ▸ history.progress
      exact ⟨queued, taken, contents, ⟨history.order, progress, history.kept⟩, locking⟩
  | leave popping popped =>
      have progress : Progress taken (pops s.log) (feeds s.log) .popping :=
        popping ▸ history.progress
      obtain ⟨rfl, emptied⟩ := contents.pop_none popped
      exact ⟨queued, [], emptied, ⟨history.order, ⟨rfl, progress⟩, history.kept⟩, locking⟩
  | popStop popping popped =>
      have progress : Progress taken (pops s.log) (feeds s.log) .popping :=
        popping ▸ history.progress
      obtain ⟨rest, rfl, popped⟩ := contents.pop popped
      exact ⟨queued, rest, popped, history.pop ⟨[], congrArg (· ++ _) progress⟩, locking⟩
  | popTask popping popped =>
      have progress : Progress taken (pops s.log) (feeds s.log) .popping :=
        popping ▸ history.progress
      obtain ⟨rest, rfl, popped⟩ := contents.pop popped
      exact ⟨queued, rest, popped, history.pop (congrArg (· ++ _) progress), locking⟩
  | feed feeding => exact ⟨queued, taken, contents, (feeding ▸ history).feed, locking⟩
  | exit draining popped =>
      have progress : Progress taken (pops s.log) (feeds s.log) .draining :=
        draining ▸ history.progress
      obtain ⟨rfl, emptied⟩ := contents.pop_none popped
      exact ⟨queued, [], emptied, ⟨history.order, ⟨rfl, progress⟩, history.kept⟩, locking⟩
  | @drain next copy item draining popped =>
      have progress : Progress taken (pops s.log) (feeds s.log) .draining :=
        draining ▸ history.progress
      obtain ⟨rest, rfl, popped⟩ := contents.pop popped
      obtain ⟨dropped, progress⟩ := progress
      refine ⟨queued, rest, popped, history.pop ?_, locking⟩
      rw [draining, progress]
      exact ⟨dropped ++ [item], by simp⟩

omit [DecidableEq θ] [DecidableEq τ] in
theorem initial_invariant : Invariant (State.initial : State θ τ) [] [] where
  contents := ⟨NetQueue.holds_init _, NetQueue.holds_init _, List.nodup_nil,
    fun marked => absurd rfl marked⟩
  history := ⟨rfl, ⟨rfl, rfl⟩, by
    rintro item ⟨before, after, thread, effective, split, _⟩
    simp [State.initial] at split⟩
  locking := ⟨by simp [State.initial], by simp [State.initial, Routine.inside],
    by simp [State.initial, NetQueue.init], by simp [State.initial], rfl⟩

/-- The invariant holds in every state that a worker reaches. -/
theorem run_invariant {labels : List (Label θ τ)}
    (execution : State.system.run State.initial labels = some s) :
    ∃ queued taken, Invariant s queued taken := by
  have kept (before : State θ τ) (label : Label θ τ) (after : State θ τ)
      (holds : ∃ queued taken, Invariant before queued taken)
      (stepped : State.system.step before label = some after) :
      ∃ queued taken, Invariant after queued taken := by
    obtain ⟨queued, taken, invariant⟩ := holds
    exact (State.step_step stepped).invariant invariant
  exact StepSystem.run_invariant kept ⟨[], [], initial_invariant⟩ execution

/-- What a worker promises: an item is in at most one of the queues and at most once; an item that
was pushed since its last pop is in one of them; the counter announces the queue; tasks are fed in
the order of their effective pushes, and a routine that has returned has fed exactly the tasks that
were pushed before `stop_`. -/
structure Sound (s : State θ τ) : Prop where
  queues : ∃ queued taken, s.tasks.Holds s.next queued ∧ s.copy.Holds s.next taken ∧
    (taken ++ queued).Nodup ∧ ∀ item, PushedSincePop item s.log → item ∈ taken ++ queued
  announced : s.lock = none → s.tasks.head ≠ none → 0 < s.counter
  readable : s.failed = false
  ordered : (feeds s.log).map .task <+: pushes s.log
  complete : s.routine = .returned →
    ∃ later, pushes s.log = (feeds s.log).map .task ++ .stop :: later

omit [DecidableEq θ] [DecidableEq τ] in
theorem Invariant.sound (invariant : Invariant s queued taken) : Sound s where
  queues := ⟨queued, taken, invariant.contents.tasks, invariant.contents.copy,
    invariant.contents.nodup, fun _ => invariant.history.kept⟩
  announced free pending := by
    obtain positive | ⟨thread, item, pushed⟩ | unsignalled := invariant.locking.announced pending
    · exact positive
    · have inside := (invariant.locking.caller thread).mp (by simp [pushed])
      rw [free] at inside
      cases inside
    · have inside := invariant.locking.routine.mp (by simp [unsignalled, Routine.inside])
      rw [free] at inside
      cases inside
  readable := invariant.locking.sound
  ordered := invariant.history.feeds_prefix
  complete returned := by
    have progress := invariant.history.progress
    rw [returned] at progress
    obtain ⟨rfl, dropped, popped⟩ := progress
    exact ⟨dropped ++ queued, by rw [invariant.history.order, popped]; simp⟩

/-- Every state that a worker reaches is sound, whatever its threads do. -/
theorem execute_sound {labels : List (Label θ τ)}
    (execution : State.system.run State.initial labels = some s) : Sound s := by
  obtain ⟨queued, taken, invariant⟩ := run_invariant execution
  exact invariant.sound

end Run

/-- One thread executes a task, another one terminates the worker. -/
theorem execute_sound_terminate : ∃ s : State Bool Unit,
    State.system.run State.initial
      [.call false (.task ()), .push false, .signal false, .finish false, .wait,
        .call true .stop, .push true, .signal true, .finish true, .lock, .unsignal, .copy, .unlock,
        .pop, .feed, .pop, .drain] = some s ∧
      s.routine = .returned ∧ feeds s.log = [()] ∧ Sound s := by
  have computed : (State.system.run (State.initial : State Bool Unit)
      [.call false (.task ()), .push false, .signal false, .finish false, .wait,
        .call true .stop, .push true, .signal true, .finish true, .lock, .unsignal, .copy, .unlock,
        .pop, .feed, .pop, .drain]).any
      (fun s => decide (s.routine = .returned ∧ feeds s.log = [()])) = true := by
    decide +kernel
  obtain ⟨s, execution, facts⟩ := (Option.any_eq_true _ _).mp computed
  obtain ⟨returned, fed⟩ := of_decide_eq_true facts
  exact ⟨s, execution, returned, fed, execute_sound execution⟩

/-- `Execute` of the item returned after its last pop. -/
def ExecutedSincePop {θ τ : Type} (item : Item τ) (log : List (Entry θ τ)) : Prop :=
  ∃ before after thread, log = before ++ .executed thread item :: after ∧ .pop item ∉ after

/-- A push is ignored while the item is still in the copy; when the item is popped before `Execute`
returns, it is in no queue afterwards. -/
theorem executed_not_queued : ¬∀ (labels : List (Label Bool Unit)) (s : State Bool Unit),
    State.system.run State.initial labels = some s → .pop .stop ∉ s.log →
      ∀ task, ExecutedSincePop (.task task) s.log →
        ∀ queued taken, s.tasks.Holds s.next queued → s.copy.Holds s.next taken →
          .task task ∈ taken ++ queued := by
  intro kept
  have computed : (State.system.run (State.initial : State Bool Unit)
      [.call false (.task ()), .push false, .signal false, .finish false, .wait, .lock, .unsignal,
        .copy, .unlock, .call true (.task ()), .push true, .signal true, .pop, .finish true]).any
      (fun s => decide (s.log = [.push false (.task ()) true, .executed false (.task ()),
        .push true (.task ()) false, .pop (.task ()), .executed true (.task ())] ∧
          s.tasks = .init ∧ s.copy = .init)) = true := by
    decide +kernel
  obtain ⟨s, execution, facts⟩ := (Option.any_eq_true _ _).mp computed
  obtain ⟨log, tasks, copy⟩ := of_decide_eq_true facts
  have executed : ExecutedSincePop (.task ()) s.log :=
    ⟨[.push false (.task ()) true, .executed false (.task ()), .push true (.task ()) false,
      .pop (.task ())], [], true, log, by simp⟩
  have member := kept _ s execution (by simp [log]) () executed [] []
    (tasks ▸ NetQueue.holds_init _) (copy ▸ NetQueue.holds_init _)
  simp at member

end Klibmsg.Worker
