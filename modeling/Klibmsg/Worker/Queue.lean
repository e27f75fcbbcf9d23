import Klibmsg.Library.LinkedChain

/-!
# The queue of a worker

`NetQueue` links its items through their `next_` fields, and the mark `NETQUEUE_NOT_INQUEUE` in such
a field makes `Push` ignore an item that is already in a queue.  All queues share the fields, which
are therefore an argument of every operation.  The operations are those of a list.
-/

namespace Klibmsg

/-- `NetQueue`: pointers to the first and the last item. -/
structure NetQueue (α : Type) where
  head : Option α
  tail : Option α
deriving DecidableEq, Repr

/-- The `next_` fields of all items: `absent` stands for `NETQUEUE_NOT_INQUEUE` and `last` for a
null pointer. -/
abbrev NextFields (α : Type) := α → Link α

namespace NetQueue

variable {α : Type}

/-- `NetQueue::Init` and `NetQueue::Terminate`. -/
def init : NetQueue α := ⟨none, none⟩

section Operations

variable [DecidableEq α]

/-- `NetQueue::Push`. -/
def push (next : NextFields α) (queue : NetQueue α) (item : α) : NextFields α × NetQueue α :=
  if next item ≠ .absent then
    (next, queue)
  else
    (match queue.tail with
      | none => Function.update next item .last
      | some tail => Function.update (Function.update next item .last) tail (.next item),
      ⟨queue.head.or (some item), some item⟩)

/-- `NetQueue::Pop`. -/
def pop (next : NextFields α) (queue : NetQueue α) : Option α × NextFields α × NetQueue α :=
  match queue.head with
  | none => (none, next, queue)
  | some result =>
      let head := (next result).target
      (some result, Function.update next result .absent,
        ⟨head, if head = none then none else queue.tail⟩)

/-- `NetQueue::Empty`. -/
def empty (queue : NetQueue α) : Int := if queue.head.isSome then 0 else 1

/-- `if (prev) prev->next() = it->next();` -/
def unlinked (next : NextFields α) (prev : Option α) (it : α) : NextFields α :=
  match prev with
  | none => next
  | some prev => Function.update next prev (next it)

/-- The loop of `NetQueue::Remove` from an item on, or nothing while the loop goes on after a number
of iterations. -/
def removeLoop (item : α) (next : NextFields α) (queue : NetQueue α) (prev : Option α) :
    Option α → Nat → Option (NextFields α × NetQueue α)
  | none, _ => some (next, queue)
  | some _, 0 => none
  | some it, fuel + 1 =>
      if it = item then
        some (Function.update (unlinked next prev it) item .absent,
          ⟨if queue.head = some it then (next it).target else queue.head,
            if queue.tail = some it then prev else queue.tail⟩)
      else
        removeLoop item next queue (some it) (next it).target fuel

/-- `NetQueue::Remove`. -/
def remove (fuel : Nat) (next : NextFields α) (queue : NetQueue α) (item : α) :
    Option (NextFields α × NetQueue α) :=
  if next item = .absent then
    some (next, queue)
  else
    removeLoop item next queue none queue.head fuel

end Operations

/-- The queue holds the items, in order. -/
structure Holds (next : NextFields α) (queue : NetQueue α) (items : List α) : Prop where
  linked : Linked next queue.head queue.tail items
  nodup : items.Nodup

theorem holds_init (next : NextFields α) : Holds next init [] := ⟨.nil next, List.nodup_nil⟩

variable {next next' : NextFields α} {queue : NetQueue α} {items : List α} {item : α}

theorem Holds.eq_init (holds : Holds next queue []) : queue = init := by
  obtain ⟨head, tail⟩ := queue
  have no_head : head = none := holds.linked.head_eq
  have no_tail : tail = none := holds.linked.tail_eq
  rw [no_head, no_tail, init]

theorem Holds.congr (holds : Holds next queue items)
    (same : ∀ item ∈ items, next' item = next item) : Holds next' queue items :=
  ⟨holds.linked.congr same, holds.nodup⟩

theorem Holds.unique {items' : List α} (holds : Holds next queue items)
    (holds' : Holds next queue items') : items = items' :=
  holds.linked.chain.unique holds'.linked.chain
    (holds.linked.head_eq.symm.trans holds'.linked.head_eq)

/-- An item of a queue is marked. -/
theorem Holds.marked (holds : Holds next queue items) (member : item ∈ items) :
    next item ≠ .absent := holds.linked.chain.link_ne_absent member

theorem Holds.unmarked (holds : Holds next queue items) (absent : next item = .absent) :
    item ∉ items := fun member => holds.marked member absent

variable [DecidableEq α]

theorem push_of_marked (marked : next item ≠ .absent) : push next queue item = (next, queue) :=
  if_pos marked

/-- Pushing an item that is in no queue. -/
theorem Holds.push (holds : Holds next queue items) (absent : next item = .absent) :
    Holds (push next queue item).1 (push next queue item).2 (items ++ [item]) := by
  have outside := holds.unmarked absent
  refine ⟨?_, ?_⟩
  · rw [NetQueue.push, if_neg (not_not.mpr absent)]
    exact holds.linked.concat holds.nodup outside
  · refine List.nodup_append.mpr ⟨holds.nodup, List.nodup_singleton item, ?_⟩
    intro other member last last_mem
    rw [List.mem_singleton.mp last_mem]
    rintro rfl
    exact outside member

/-- A push changes only the fields of the item and of the items of the queue. -/
theorem Holds.push_next (holds : Holds next queue items) {other : α} (different : other ≠ item)
    (elsewhere : other ∉ items) : (NetQueue.push next queue item).1 other = next other := by
  rw [NetQueue.push]
  split
  · rfl
  · cases tail : queue.tail with
    | none => simp [different]
    | some last =>
        have last_mem : last ∈ items := by
          have last_eq := holds.linked.tail_eq
          rw [tail] at last_eq
          exact List.mem_of_getLast? last_eq.symm
        have not_last : other ≠ last := by
          rintro rfl
          exact elsewhere last_mem
        simp [different, not_last]

/-- A push onto one queue leaves a queue without common items as it is. -/
theorem Holds.push_other {queue' : NetQueue α} {items' : List α} (holds : Holds next queue items)
    (holds' : Holds next queue' items') (absent : next item = .absent)
    (disjoint : ∀ other ∈ items', other ∉ items) :
    Holds (NetQueue.push next queue item).1 queue' items' := by
  refine holds'.congr fun other member => holds.push_next ?_ (disjoint other member)
  rintro rfl
  exact holds'.marked member absent

theorem Holds.push_marks (holds : Holds next queue items) {other : α}
    (marked : (NetQueue.push next queue item).1 other ≠ .absent) :
    next other ≠ .absent ∨ other = item := by
  by_cases same : other = item
  · exact .inr same
  · by_cases member : other ∈ items
    · exact .inl (holds.marked member)
    · exact .inl (holds.push_next same member ▸ marked)

theorem Holds.pop_nil (holds : Holds next queue []) :
    NetQueue.pop next queue = (none, next, queue) := by
  have head : queue.head = none := holds.linked.head_eq
  rw [NetQueue.pop, head]

/-- Popping the first item. -/
theorem Holds.pop_cons {rest : List α} (holds : Holds next queue (item :: rest)) :
    ∃ queue', NetQueue.pop next queue = (some item, Function.update next item .absent, queue') ∧
      Holds (Function.update next item .absent) queue' rest := by
  have head : queue.head = some item := holds.linked.head_eq
  obtain ⟨outside, nodup⟩ := List.nodup_cons.mp holds.nodup
  have others (other : α) (member : other ∈ rest) :
      Function.update next item .absent other = next other := by
    rw [Function.update_of_ne]
    rintro rfl
    exact outside member
  rw [NetQueue.pop, head]
  exact ⟨_, rfl, holds.linked.tail_of_cons.congr others, nodup⟩

/-- `Remove` looks at every item before the one it removes. -/
theorem removeLoop_append (queue : NetQueue α) (front : List α) {rest : List α}
    (chain : Chain next rest)
    {fuel : Nat} (enough : rest.length ≤ fuel) :
    (item ∉ rest → removeLoop item next queue front.getLast? rest.head? fuel = some (next, queue)) ∧
      ∀ before after, rest = before ++ item :: after → item ∉ before →
        removeLoop item next queue front.getLast? rest.head? fuel =
          some (Function.update (unlinked next (front ++ before).getLast? item) item .absent,
            ⟨if queue.head = some item then (next item).target else queue.head,
              if queue.tail = some item then (front ++ before).getLast? else queue.tail⟩) := by
  induction rest generalizing front fuel with
  | nil =>
      refine ⟨fun _ => by rw [List.head?_nil, removeLoop], fun before after split => ?_⟩
      simp at split
  | cons it rest ih =>
      obtain ⟨fuel, rfl⟩ : ∃ less, fuel = less + 1 :=
        ⟨fuel - 1, by simp only [List.length_cons] at enough; omega⟩
      have later := ih (front ++ [it]) chain.2 (Nat.le_of_succ_le_succ enough)
      rw [List.getLast?_concat] at later
      have go_on (different : it ≠ item) :
          removeLoop item next queue front.getLast? (it :: rest).head? (fuel + 1) =
            removeLoop item next queue (some it) rest.head? fuel := by
        rw [List.head?_cons, removeLoop, if_neg different, chain.1, Link.target_ofOption]
      constructor
      · intro outside
        rw [List.mem_cons, not_or] at outside
        rw [go_on (Ne.symm outside.1)]
        exact later.1 outside.2
      · intro before after split outside
        cases before with
        | nil =>
            obtain ⟨rfl, rfl⟩ := List.cons.inj split
            rw [List.append_nil, List.head?_cons, removeLoop, if_pos rfl]
        | cons first before =>
            obtain ⟨rfl, rfl⟩ := List.cons.inj split
            rw [List.mem_cons, not_or] at outside
            rw [go_on (Ne.symm outside.1), later.2 before after rfl outside.2, List.append_assoc]
            rfl

/-- Removing an item that is not in the queue. -/
theorem Holds.remove_of_not_mem (holds : Holds next queue items) (outside : item ∉ items)
    {fuel : Nat} (enough : items.length ≤ fuel) :
    NetQueue.remove fuel next queue item = some (next, queue) := by
  rw [NetQueue.remove]
  split_ifs
  · rfl
  · rw [holds.linked.head_eq]
    exact (removeLoop_append queue [] holds.linked.chain enough).1 outside

/-- Removing an item of the queue. -/
theorem Holds.remove (holds : Holds next queue items) (member : item ∈ items) {fuel : Nat}
    (enough : items.length ≤ fuel) :
    ∃ next' queue', NetQueue.remove fuel next queue item = some (next', queue') ∧
      Holds next' queue' (items.erase item) ∧ next' item = .absent ∧
      ∀ other, other ∉ items → next' other = next other := by
  obtain ⟨front, rest, rfl, not_front⟩ := List.eq_append_cons_of_mem member
  have marked := holds.marked member
  have removed := (removeLoop_append queue [] holds.linked.chain enough).2 front rest rfl
    not_front
  have result : NetQueue.remove fuel next queue item =
      some (Function.update (unlinked next front.getLast? item) item .absent,
        ⟨if queue.head = some item then (next item).target else queue.head,
          if queue.tail = some item then front.getLast? else queue.tail⟩) := by
    rw [NetQueue.remove, if_neg marked]
    nth_rewrite 1 [holds.linked.head_eq]
    exact removed
  refine ⟨_, _, result, ⟨?_, holds.nodup.erase item⟩, Function.update_self .., ?_⟩
  · rw [List.erase_append_right _ not_front, List.erase_cons_head]
    exact holds.linked.unlink holds.nodup
  · intro other elsewhere
    rw [List.mem_append, List.mem_cons, not_or, not_or] at elsewhere
    rw [Function.update_of_ne elsewhere.2.1]
    cases last : front.getLast? with
    | none => rfl
    | some prev =>
        refine Function.update_of_ne ?_ _ _
        rintro rfl
        exact elsewhere.1 (List.mem_of_getLast? last)

/-- A loop that is over does not need more iterations. -/
theorem removeLoop_of_le {prev it : Option α} {fuel more : Nat} (le : fuel ≤ more)
    {result : NextFields α × NetQueue α}
    (removed : removeLoop item next queue prev it fuel = some result) :
    removeLoop item next queue prev it more = some result := by
  induction fuel generalizing prev it more with
  | zero =>
      cases it with
      | none => rwa [removeLoop] at removed ⊢
      | some it => cases removed
  | succ fuel ih =>
      cases it with
      | none => rwa [removeLoop] at removed ⊢
      | some it =>
          obtain ⟨more, rfl⟩ : ∃ less, more = less + 1 := ⟨more - 1, by omega⟩
          rw [removeLoop] at removed ⊢
          by_cases same : it = item
          · rwa [if_pos same] at removed ⊢
          · rw [if_neg same] at removed ⊢
            exact ih (Nat.le_of_succ_le_succ le) removed

theorem remove_of_le {fuel more : Nat} (le : fuel ≤ more) {result : NextFields α × NetQueue α}
    (removed : NetQueue.remove fuel next queue item = some result) :
    NetQueue.remove more next queue item = some result := by
  rw [NetQueue.remove] at removed ⊢
  split_ifs at removed ⊢
  · exact removed
  · exact removeLoop_of_le le removed

end NetQueue
end Klibmsg
