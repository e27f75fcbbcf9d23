import Klibmsg.Worker.Queue
import Klibmsg.Library.QueueFamily
import Klibmsg.Library.StepSystem

/-!
# Queues that share their items

Any number of `NetQueue`s link the same items through one field per item.  They refine a family of
lists without common items, on which each operation does what it says.
-/

namespace Klibmsg

/-- Queues and the fields of their items. -/
structure Queues (ι α : Type) where
  next : NextFields α
  queue : ι → NetQueue α

/-- A call on one of the queues.  `Remove` is told how often its loop may go round, and a hand-over
names the queue that gets the copy. -/
inductive QueueCall (ι α : Type) where
  | push (queue : ι) (item : α)
  | pop (queue : ι)
  | remove (fuel : Nat) (queue : ι) (item : α)
  | empty (queue : ι)
  | handOver (source fresh : ι)

/-- What a call returns. -/
inductive QueueResult (α : Type) where
  | item (result : Option α)
  | empty (result : Int)
deriving DecidableEq, Repr

namespace Queues

variable {ι α : Type}

/-- All items and queues after their `Init`. -/
def init : Queues ι α := ⟨fun _ => .absent, fun _ => .init⟩

variable [DecidableEq ι] [DecidableEq α]

/-- Store what a call did to the fields and to a queue. -/
def store (s : Queues ι α) (i : ι) (result : NextFields α × NetQueue α) : Queues ι α :=
  ⟨result.1, Function.update s.queue i result.2⟩

/-- Make a call. -/
def call (s : Queues ι α) : QueueCall ι α → Option (List (QueueResult α) × Queues ι α)
  | .push i item => some ([], s.store i (NetQueue.push s.next (s.queue i) item))
  | .pop i =>
      let result := NetQueue.pop s.next (s.queue i)
      some ([.item result.1], s.store i result.2)
  | .remove fuel i item =>
      (NetQueue.remove fuel s.next (s.queue i) item).map fun result => ([], s.store i result)
  | .empty i => some ([.empty (s.queue i).empty], s)
  | .handOver i j =>
      some ([], ⟨s.next, Function.update (Function.update s.queue j (s.queue i)) i .init⟩)

/-- What a call returns, as part of a run. -/
def returns (s : Queues ι α) (op : QueueCall ι α) : List (QueueResult α) :=
  match s.call op with
  | some (results, _) => results
  | none => []

/-- Sequences of calls. -/
def system : StepSystem (Queues ι α) (QueueCall ι α) where
  step s op := (s.call op).map Prod.snd

/-- A hand-over goes to a queue that holds nothing. -/
def Fresh (s : Queues ι α) : QueueCall ι α → Prop
  | .handOver i j => i ≠ j ∧ (s.queue j).head = none
  | _ => True

instance (s : Queues ι α) (op : QueueCall ι α) : Decidable (s.Fresh op) := by
  cases op <;> simp only [Fresh] <;> infer_instance

end Queues

/-! ## The lists behind the queues -/

namespace QueueLists

variable {ι α : Type} [DecidableEq ι] [DecidableEq α]

open Classical in
/-- What each call does to the family of lists. -/
noncomputable def call (lists : ι → List α) :
    QueueCall ι α → List (QueueResult α) × (ι → List α)
  | .push i item =>
      ([], if QueueFamily.Present lists item then lists
        else Function.update lists i (lists i ++ [item]))
  | .pop i => ([.item (lists i).head?], Function.update lists i (lists i).tail)
  | .remove _ i item => ([], Function.update lists i ((lists i).erase item))
  | .empty i => ([.empty (if lists i = [] then 1 else 0)], lists)
  | .handOver i j => ([], Function.update (Function.update lists j (lists i)) i [])

/-- Sequences of calls on the lists. -/
noncomputable def system : StepSystem (ι → List α) (QueueCall ι α) where
  step lists op := some (call lists op).2

end QueueLists

namespace Queues

variable {ι α : Type} [DecidableEq ι] [DecidableEq α]

/-- The queues hold the lists, which have no items in common, and an item carries the mark exactly
when it is in no list. -/
structure Represents (s : Queues ι α) (lists : ι → List α) : Prop where
  holds : ∀ i, NetQueue.Holds s.next (s.queue i) (lists i)
  separate : QueueFamily.Separate lists
  absent : ∀ item, s.next item = .absent ↔ ¬QueueFamily.Present lists item

omit [DecidableEq ι] [DecidableEq α] in
theorem represents_init : Represents (init : Queues ι α) fun _ => [] where
  holds _ := NetQueue.holds_init _
  separate := .of_empty fun _ => rfl
  absent _ := iff_of_true rfl (by simp [QueueFamily.Present])

omit [DecidableEq ι] [DecidableEq α] in
theorem Represents.of_holds {s : Queues ι α} {lists : ι → List α}
    (holds : ∀ i, NetQueue.Holds s.next (s.queue i) (lists i))
    (separate : QueueFamily.Separate lists)
    (absent : ∀ item, ¬QueueFamily.Present lists item → s.next item = .absent) :
    s.Represents lists := by
  refine ⟨holds, separate, fun item => ⟨?_, absent item⟩⟩
  rintro unmarked ⟨i, member⟩
  exact (holds i).marked member unmarked

omit [DecidableEq α] in
/-- A call that works on one queue only. -/
theorem Represents.store {s : Queues ι α} {lists : ι → List α} (represents : s.Represents lists)
    {i : ι} {items : List α} {result : NextFields α × NetQueue α}
    (holds : NetQueue.Holds result.1 result.2 items)
    (separate : QueueFamily.Separate (Function.update lists i items))
    (elsewhere : ∀ j, j ≠ i → ∀ item ∈ lists j, result.1 item = s.next item)
    (absent : ∀ item, ¬QueueFamily.Present (Function.update lists i items) item →
      result.1 item = .absent) :
    Represents (s.store i result) (Function.update lists i items) := by
  refine .of_holds (fun j => ?_) separate absent
  change NetQueue.Holds result.1 (Function.update s.queue i result.2 j) _
  by_cases same : j = i
  · subst same
    rwa [Function.update_self, Function.update_self]
  · rw [Function.update_of_ne same, Function.update_of_ne same]
    exact (represents.holds j).congr (elsewhere j same)

omit [DecidableEq α] in
theorem store_self (s : Queues ι α) (i : ι) : s.store i (s.next, s.queue i) = s := by
  rw [store, Function.update_eq_self]

/-- A push of an item that is in a queue changes nothing. -/
theorem push_present {s : Queues ι α} {lists : ι → List α} (represents : s.Represents lists)
    {item : α} (present : QueueFamily.Present lists item) (i : ι) :
    s.call (.push i item) = some ([], s) := by
  have marked : s.next item ≠ .absent := fun absent =>
    (represents.absent item).mp absent present
  rw [call, NetQueue.push_of_marked marked, store_self]

theorem represents_push {s : Queues ι α} {lists : ι → List α} (represents : s.Represents lists)
    {item : α} (absent : ¬QueueFamily.Present lists item) (i : ι) :
    Represents (s.store i (NetQueue.push s.next (s.queue i) item))
      (Function.update lists i (lists i ++ [item])) := by
  have holds := represents.holds i
  have unmarked := (represents.absent item).mpr absent
  refine represents.store (holds.push unmarked) (represents.separate.push absent i) ?_ ?_
  · intro j different other member
    refine holds.push_next ?_ fun here => different (represents.separate.unique member here)
    rintro rfl
    exact absent ⟨j, member⟩
  · intro other gone
    rw [QueueFamily.present_update_push, not_or] at gone
    rw [holds.push_next gone.2 fun here => gone.1 ⟨i, here⟩]
    exact (represents.absent other).mpr gone.1

theorem represents_pop {s : Queues ι α} {lists : ι → List α} (represents : s.Represents lists)
    (i : ι) :
    (NetQueue.pop s.next (s.queue i)).1 = (lists i).head? ∧
      Represents (s.store i (NetQueue.pop s.next (s.queue i)).2)
        (Function.update lists i (lists i).tail) := by
  have holds := represents.holds i
  cases items : lists i with
  | nil =>
      rw [items] at holds
      rw [holds.pop_nil, store_self, List.tail_nil, ← items, Function.update_eq_self, items]
      exact ⟨rfl, represents⟩
  | cons item rest =>
      rw [items] at holds
      obtain ⟨queue, popped, rest_holds⟩ := holds.pop_cons
      rw [popped, List.tail_cons]
      refine ⟨rfl, represents.store rest_holds (represents.separate.drop items) ?_ ?_⟩
      · intro j different other member
        refine Function.update_of_ne ?_ _ _
        rintro rfl
        exact different (represents.separate.unique member (by rw [items]; simp))
      · intro other gone
        rw [QueueFamily.present_update_drop represents.separate items, not_and_not_right] at gone
        change Function.update s.next item .absent other = _
        by_cases same : other = item
        · rw [same, Function.update_self]
        · rw [Function.update_of_ne same]
          exact (represents.absent other).mpr fun present => same (gone present)

/-- More iterations of the loop of `Remove` do not change what it does. -/
theorem call_remove_of_le {s s' : Queues ι α} {i : ι} {item : α} {fuel : Nat}
    {results : List (QueueResult α)} (called : s.call (.remove fuel i item) = some (results, s'))
    {more : Nat} (le : fuel ≤ more) : s.call (.remove more i item) = some (results, s') := by
  obtain ⟨result, removed, stored⟩ := Option.map_eq_some_iff.mp called
  rw [call, NetQueue.remove_of_le le removed, Option.map_some, stored]

/-- A removal of an item that is not in the queue changes nothing. -/
theorem remove_not_mem {s : Queues ι α} {lists : ι → List α} (represents : s.Represents lists)
    {i : ι} {item : α} (outside : item ∉ lists i) {fuel : Nat}
    (enough : (lists i).length ≤ fuel) : s.call (.remove fuel i item) = some ([], s) := by
  rw [call, (represents.holds i).remove_of_not_mem outside enough, Option.map_some, store_self]

theorem represents_remove {s : Queues ι α} {lists : ι → List α} (represents : s.Represents lists)
    {i : ι} {item : α} (member : item ∈ lists i) {fuel : Nat}
    (enough : (lists i).length ≤ fuel) :
    ∃ s', s.call (.remove fuel i item) = some ([], s') ∧
      s'.Represents (Function.update lists i ((lists i).erase item)) := by
  obtain ⟨next, queue, removed, holds, unmarked, others⟩ :=
    (represents.holds i).remove member enough
  refine ⟨s.store i (next, queue), by rw [call, removed, Option.map_some], ?_⟩
  refine represents.store holds (represents.separate.erase i item) ?_ ?_
  · intro j different other there
    exact others other fun here => different (represents.separate.unique there here)
  · intro other gone
    rw [QueueFamily.present_update_erase represents.separate member, not_and_not_right] at gone
    by_cases same : other = item
    · rw [same]
      exact unmarked
    · have absent : ¬QueueFamily.Present lists other := fun present => same (gone present)
      change next other = _
      rw [others other fun here => absent ⟨i, here⟩]
      exact (represents.absent other).mpr absent

omit [DecidableEq α] in
theorem represents_handOver {s : Queues ι α} {lists : ι → List α}
    (represents : s.Represents lists) {i j : ι} (different : i ≠ j)
    (fresh : (s.queue j).head = none) :
    Represents ⟨s.next, Function.update (Function.update s.queue j (s.queue i)) i .init⟩
      (Function.update (Function.update lists j (lists i)) i []) := by
  have nothing : lists j = [] :=
    List.head?_eq_none_iff.mp ((represents.holds j).linked.head_eq.symm.trans fresh)
  have moved : Function.update (Function.update lists j (lists i)) i [] =
      QueueFamily.move lists i j (lists i) [] := by
    rw [QueueFamily.move, nothing, List.append_nil, Function.update_comm different]
  have front : lists i = lists i ++ [] := (List.append_nil _).symm
  rw [moved]
  refine .of_holds (fun k => ?_) (represents.separate.move different front) fun item gone => ?_
  · rw [← moved]
    change NetQueue.Holds s.next
      (Function.update (Function.update s.queue j (s.queue i)) i .init k) _
    by_cases source : k = i
    · subst source
      rw [Function.update_self, Function.update_self]
      exact NetQueue.holds_init _
    · rw [Function.update_of_ne source, Function.update_of_ne source]
      by_cases target : k = j
      · subst target
        rw [Function.update_self, Function.update_self]
        exact represents.holds i
      · rw [Function.update_of_ne target, Function.update_of_ne target]
        exact represents.holds k
  · rw [QueueFamily.present_move different front] at gone
    exact (represents.absent item).mpr gone

/-- Each call does to the lists what it is specified to do, and returns what is specified. -/
theorem represents_step {s s' : Queues ι α} {lists : ι → List α} {op : QueueCall ι α}
    (represents : s.Represents lists) (fresh : s.Fresh op) {results : List (QueueResult α)}
    (called : s.call op = some (results, s')) :
    results = (QueueLists.call lists op).1 ∧ s'.Represents (QueueLists.call lists op).2 := by
  cases op with
  | push i item =>
      by_cases present : QueueFamily.Present lists item
      · rw [push_present represents present] at called
        cases called
        refine ⟨rfl, ?_⟩
        rw [QueueLists.call, if_pos present]
        exact represents
      · cases called
        refine ⟨rfl, ?_⟩
        rw [QueueLists.call, if_neg present]
        exact represents_push represents present i
  | pop i =>
      cases called
      obtain ⟨returned, after⟩ := represents_pop represents i
      exact ⟨by rw [returned, QueueLists.call], after⟩
  | remove fuel i item =>
      have longer := call_remove_of_le called (Nat.le_max_left fuel (lists i).length)
      have enough : (lists i).length ≤ max fuel (lists i).length := Nat.le_max_right ..
      by_cases member : item ∈ lists i
      · obtain ⟨after, again, kept⟩ := represents_remove represents member enough
        cases longer.symm.trans again
        exact ⟨rfl, kept⟩
      · cases longer.symm.trans (remove_not_mem represents member enough)
        refine ⟨rfl, ?_⟩
        rw [QueueLists.call, List.erase_of_not_mem member, Function.update_eq_self]
        exact represents
  | empty i =>
      cases called
      refine ⟨?_, represents⟩
      rw [QueueLists.call, NetQueue.empty, (represents.holds i).linked.head_eq]
      cases lists i <;> rfl
  | handOver i j =>
      cases called
      exact ⟨rfl, represents_handOver represents fresh.1 fresh.2⟩

/-- Every loop ends. -/
theorem call_isSome {s : Queues ι α} {lists : ι → List α} (represents : s.Represents lists)
    (op : QueueCall ι α) (enough : ∀ fuel i item, op = .remove fuel i item →
      (lists i).length ≤ fuel) : ∃ result, s.call op = some result := by
  cases op with
  | remove fuel i item =>
      by_cases member : item ∈ lists i
      · obtain ⟨after, removed, _⟩ := represents_remove represents member (enough _ _ _ rfl)
        exact ⟨_, removed⟩
      · exact ⟨_, remove_not_mem represents member (enough _ _ _ rfl)⟩
  | push i item | pop i => exact ⟨_, rfl⟩
  | empty i => exact ⟨_, rfl⟩
  | handOver i j => exact ⟨_, rfl⟩

theorem represents_run {s s' : Queues ι α} {lists : ι → List α} {ops : List (QueueCall ι α)}
    (represents : s.Represents lists) (fresh : system.Guarded Fresh s ops)
    (execution : system.run s ops = some s') :
    ∃ lists', QueueLists.system.run lists ops = some lists' ∧ s'.Represents lists' ∧
      system.observed returns s ops =
        QueueLists.system.observed (fun lists op => (QueueLists.call lists op).1) lists ops := by
  induction ops generalizing s lists with
  | nil =>
      cases execution
      exact ⟨lists, rfl, represents, rfl⟩
  | cons op ops ih =>
      obtain ⟨next, stepped, remaining⟩ := StepSystem.run_cons_eq_some.mp execution
      obtain ⟨⟨results, after⟩, called, rfl⟩ := Option.map_eq_some_iff.mp stepped
      obtain ⟨rfl, kept⟩ := represents_step represents fresh.1 called
      obtain ⟨lists', runs, final, same⟩ := ih kept (fresh.2 _ stepped) remaining
      refine ⟨lists', StepSystem.run_cons_eq_some.mpr ⟨_, rfl, runs⟩, final, ?_⟩
      rw [StepSystem.observed_cons ops stepped, StepSystem.observed_cons ops rfl, same, returns,
        called]

/-- Any sequence of calls on initialised queues does to the family of lists, which start empty, what
is specified, and returns what is specified.  A push of an item that is in a queue and a removal of
an item that is not in the queue change nothing, and every loop ends. -/
theorem queues_refine_lists {s : Queues ι α} {ops : List (QueueCall ι α)}
    (fresh : system.Guarded Fresh init ops) (execution : system.run init ops = some s) :
    ∃ lists, QueueLists.system.run (fun _ => []) ops = some lists ∧ s.Represents lists ∧
      system.observed returns init ops =
        QueueLists.system.observed (fun lists op => (QueueLists.call lists op).1) (fun _ => [])
          ops ∧
      (∀ i item, QueueFamily.Present lists item → system.step s (.push i item) = some s) ∧
      (∀ fuel i item s', item ∉ lists i → system.step s (.remove fuel i item) = some s' →
        s' = s) ∧
      ∀ op, (∀ fuel i item, op = .remove fuel i item → (lists i).length ≤ fuel) →
        ∃ s', system.step s op = some s' := by
  obtain ⟨lists, runs, represents, same⟩ := represents_run represents_init fresh execution
  refine ⟨lists, runs, represents, same, ?_, ?_, ?_⟩
  · intro i item present
    exact Option.map_eq_some_iff.mpr ⟨_, push_present represents present i, rfl⟩
  · intro fuel i item s' outside stepped
    obtain ⟨⟨results, after⟩, called, rfl⟩ := Option.map_eq_some_iff.mp stepped
    have longer := call_remove_of_le called (Nat.le_max_left fuel (lists i).length)
    cases longer.symm.trans (remove_not_mem represents outside (Nat.le_max_right ..))
    rfl
  · intro op enough
    obtain ⟨result, called⟩ := call_isSome represents op enough
    exact ⟨result.2, Option.map_eq_some_iff.mpr ⟨result, called, rfl⟩⟩

/-- An item is pushed twice, the last one is removed, and the rest is handed over and read. -/
def handedOver : List (QueueCall Bool Nat) :=
  [.push false 1, .push false 2, .push true 1, .remove 2 false 2, .push false 3,
    .handOver false true, .pop true]

theorem queues_refine_lists_handedOver :
    ∃ s lists, system.run init handedOver = some s ∧ s.Represents lists ∧
      system.observed returns init handedOver =
        QueueLists.system.observed (fun lists op => (QueueLists.call lists op).1) (fun _ => [])
          handedOver := by
  obtain ⟨s, execution⟩ := Option.isSome_iff_exists.mp
    (show (system.run init handedOver).isSome = true by decide +kernel)
  obtain ⟨lists, _, represents, same, _⟩ := queues_refine_lists (by decide +kernel) execution
  exact ⟨s, lists, execution, represents, same⟩

end Queues
end Klibmsg
