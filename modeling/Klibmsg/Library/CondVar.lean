import Mathlib.Data.List.Nodup

/-!
# Condition variables

A condition variable is the list of the threads that wait on it together with the threads that were
woken and have not taken the lock again.  A thread that was woken evaluates its predicate anew, so
another thread may have used up what it was woken for.
-/

/-- The threads inside `wait`. -/
structure CondVar (θ : Type*) where
  waiting : List θ
  /-- Woken, but not yet running with the lock. -/
  notified : List θ
deriving DecidableEq, Repr

namespace CondVar

variable {θ : Type*}

/-- No thread is inside `wait`. -/
def new : CondVar θ := ⟨[], []⟩

/-- The thread is not inside `wait`. -/
def Outside (cond : CondVar θ) (thread : θ) : Prop :=
  thread ∉ cond.waiting ∧ thread ∉ cond.notified

instance [DecidableEq θ] (cond : CondVar θ) (thread : θ) : Decidable (cond.Outside thread) :=
  inferInstanceAs (Decidable (_ ∧ _))

/-- Begin to wait. -/
def wait (cond : CondVar θ) (thread : θ) : CondVar θ :=
  { cond with waiting := cond.waiting ++ [thread] }

/-- Wake all waiting threads. -/
def notifyAll (cond : CondVar θ) : CondVar θ := ⟨[], cond.notified ++ cond.waiting⟩

/-- Every thread is in at most one place. -/
def Separate (cond : CondVar θ) : Prop := (cond.waiting ++ cond.notified).Nodup

/-- While a thread waits, enough threads were woken for the available items. -/
def Covers (cond : CondVar θ) (items : Nat) : Prop :=
  cond.waiting ≠ [] → items ≤ cond.notified.length

section Wake

variable [DecidableEq θ]

/-- A waiting thread is woken. -/
def wake (cond : CondVar θ) (thread : θ) : CondVar θ :=
  ⟨cond.waiting.erase thread, cond.notified ++ [thread]⟩

/-- Wake one waiting thread, if there is one; which one is not specified. -/
def notifyOne (cond : CondVar θ) : Option θ → Option (CondVar θ)
  | none => if cond.waiting = [] then some cond else none
  | some thread => if thread ∈ cond.waiting then some (cond.wake thread) else none

/-- A thread that was woken runs on with the lock. -/
def resume (cond : CondVar θ) (thread : θ) : CondVar θ :=
  { cond with notified := cond.notified.erase thread }

end Wake

variable {cond cond' : CondVar θ} {thread : θ} {items : Nat}

theorem separate_new : Separate (new : CondVar θ) := List.nodup_nil

theorem Separate.wait (separate : cond.Separate) (outside : cond.Outside thread) :
    (cond.wait thread).Separate := by
  have moved : (cond.waiting ++ [thread] ++ cond.notified).Perm
      (thread :: (cond.waiting ++ cond.notified)) := by
    rw [List.append_assoc]
    exact List.perm_middle
  refine moved.nodup_iff.mpr (List.nodup_cons.mpr ⟨?_, separate⟩)
  rw [List.mem_append, not_or]
  exact outside

theorem Separate.notifyAll (separate : cond.Separate) : cond.notifyAll.Separate := by
  rw [Separate, CondVar.notifyAll, List.nil_append]
  exact List.perm_append_comm.nodup_iff.mp separate

theorem covers_notifyAll (cond : CondVar θ) (items : Nat) : cond.notifyAll.Covers items :=
  fun waits => absurd rfl waits

theorem covers_zero (cond : CondVar θ) : cond.Covers 0 := fun _ => Nat.zero_le _

theorem Covers.mono {fewer : Nat} (covers : cond.Covers items) (le : fewer ≤ items) :
    cond.Covers fewer := fun waits => Nat.le_trans le (covers waits)

variable [DecidableEq θ]

theorem notifyOne_cases {choice : Option θ} (woken : cond.notifyOne choice = some cond') :
    (cond.waiting = [] ∧ cond' = cond) ∨ ∃ thread ∈ cond.waiting, cond' = cond.wake thread := by
  cases choice with
  | none =>
      simp only [notifyOne, Option.ite_none_right_eq_some, Option.some.injEq] at woken
      exact .inl ⟨woken.1, woken.2.symm⟩
  | some thread =>
      simp only [notifyOne, Option.ite_none_right_eq_some, Option.some.injEq] at woken
      exact .inr ⟨thread, woken.1, woken.2.symm⟩

theorem Separate.wake (separate : cond.Separate) (waits : thread ∈ cond.waiting) :
    (cond.wake thread).Separate := by
  have front := List.perm_cons_erase waits
  have moved : (cond.waiting ++ cond.notified).Perm
      (cond.waiting.erase thread ++ (cond.notified ++ [thread])) := by
    refine (front.append_right _).trans ?_
    rw [List.cons_append, ← List.append_assoc]
    exact (List.perm_append_singleton thread _).symm
  exact moved.nodup_iff.mp separate

theorem Separate.notifyOne {choice : Option θ} (separate : cond.Separate)
    (woken : cond.notifyOne choice = some cond') : cond'.Separate := by
  obtain ⟨_, rfl⟩ | ⟨thread, waits, rfl⟩ := notifyOne_cases woken
  · exact separate
  · exact separate.wake waits

theorem Separate.resume (separate : cond.Separate) : (cond.resume thread).Separate :=
  List.Nodup.sublist (List.erase_sublist.append_left cond.waiting) separate

/-- A thread that runs on is outside. -/
theorem Separate.resume_outside (separate : cond.Separate) (notified : thread ∈ cond.notified) :
    (cond.resume thread).Outside thread := by
  obtain ⟨_, nodup, apart⟩ := List.nodup_append.mp separate
  exact ⟨fun waits => apart thread waits thread notified rfl, nodup.not_mem_erase⟩

theorem Covers.wake (covers : cond.Covers items) (waits : thread ∈ cond.waiting) :
    (cond.wake thread).Covers (items + 1) := by
  intro _
  have enough := covers (List.ne_nil_of_mem waits)
  simp only [CondVar.wake, List.length_append, List.length_singleton]
  omega

/-- Waking a thread leaves it inside `wait`. -/
theorem outside_wake (waits : thread ∈ cond.waiting) {other : θ} :
    (cond.wake thread).Outside other ↔ cond.Outside other := by
  simp only [Outside, CondVar.wake, List.mem_append, List.mem_singleton, not_or]
  by_cases same : other = thread
  · subst same
    simp [waits]
  · rw [List.mem_erase_of_ne same]
    simp [same]

theorem outside_notifyOne {choice : Option θ} (woken : cond.notifyOne choice = some cond')
    {other : θ} : cond'.Outside other ↔ cond.Outside other := by
  obtain ⟨_, rfl⟩ | ⟨thread, waits, rfl⟩ := notifyOne_cases woken
  · rfl
  · exact outside_wake waits

omit [DecidableEq θ] in
theorem outside_notifyAll {other : θ} : cond.notifyAll.Outside other ↔ cond.Outside other := by
  simp only [Outside, CondVar.notifyAll, List.not_mem_nil, not_false_eq_true, List.mem_append,
    not_or, true_and]
  exact and_comm

omit [DecidableEq θ] in
theorem outside_wait {other : θ} (different : other ≠ thread) :
    (cond.wait thread).Outside other ↔ cond.Outside other := by
  simp [Outside, CondVar.wait, different]

theorem outside_resume {other : θ} (different : other ≠ thread) :
    (cond.resume thread).Outside other ↔ cond.Outside other := by
  simp [Outside, CondVar.resume, List.mem_erase_of_ne different]

/-- Waking one thread makes up for one more item. -/
theorem Covers.notifyOne {choice : Option θ} (covers : cond.Covers items)
    (woken : cond.notifyOne choice = some cond') : cond'.Covers (items + 1) := by
  obtain ⟨empty, rfl⟩ | ⟨thread, waits, rfl⟩ := notifyOne_cases woken
  · exact fun waits => absurd empty waits
  · exact covers.wake waits

/-- A thread that runs on leaves enough woken threads for all items but one. -/
theorem Covers.resume (covers : cond.Covers items) (notified : thread ∈ cond.notified) :
    (cond.resume thread).Covers (items - 1) := by
  intro waits
  have enough := covers waits
  rw [CondVar.resume, List.length_erase_of_mem notified]
  omega

/-- One thread can always be woken when one waits. -/
theorem exists_notifyOne (cond : CondVar θ) :
    ∃ choice cond', cond.notifyOne choice = some cond' := by
  cases waiting : cond.waiting with
  | nil => exact ⟨none, cond, by simp [notifyOne, waiting]⟩
  | cons thread rest => exact ⟨some thread, cond.wake thread, by simp [notifyOne, waiting]⟩

end CondVar
