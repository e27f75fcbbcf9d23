import Mathlib.Data.List.Nodup
import Mathlib.Logic.Function.Basic

/-!
# Families of queues without common items

Intrusive queues link their items through a field of the item, so an item is in at most one queue
and at most once.  `Separate` states this for a family of lists indexed by the queues.  The rules
below cover the operations on such a family: pushing an absent item, taking items off the front,
and moving a block from the front of one queue to the front of another.
-/

/-- No item occurs twice in a queue or in two queues. -/
structure QueueFamily.Separate {ι α : Type*} (queue : ι → List α) : Prop where
  nodup : ∀ i, (queue i).Nodup
  unique : ∀ {i j : ι} {item : α}, item ∈ queue i → item ∈ queue j → i = j

namespace QueueFamily

variable {ι α : Type*}

/-- The item is in some queue of the family. -/
def Present (queue : ι → List α) (item : α) : Prop := ∃ i, item ∈ queue i

theorem present_of_mem {queue : ι → List α} {i : ι} {item : α} (member : item ∈ queue i) :
    Present queue item := ⟨i, member⟩

theorem Separate.of_empty {queue : ι → List α} (empty : ∀ i, queue i = []) : Separate queue where
  nodup i := by simp [empty i]
  unique {i} _ _ member := by simp [empty i] at member

/-- Items may be taken out anywhere. -/
theorem Separate.of_sublist {queue queue' : ι → List α} (separate : Separate queue)
    (sublist : ∀ i, (queue' i).Sublist (queue i)) : Separate queue' where
  nodup i := (sublist i).nodup (separate.nodup i)
  unique left right := separate.unique ((sublist _).subset left) ((sublist _).subset right)

variable [DecidableEq ι]

theorem present_update_push {queue : ι → List α} {i : ι} {item other : α} :
    Present (Function.update queue i (queue i ++ [item])) other ↔
      Present queue other ∨ other = item := by
  constructor
  · rintro ⟨j, member⟩
    by_cases equal : j = i
    · subst equal
      simp only [Function.update_self, List.mem_append, List.mem_singleton] at member
      exact member.imp_left present_of_mem
    · rw [Function.update_of_ne equal] at member
      exact .inl ⟨j, member⟩
  · rintro (⟨j, member⟩ | rfl)
    · by_cases equal : j = i
      · subst equal
        exact ⟨j, by simp [member]⟩
      · exact ⟨j, by simpa [Function.update_of_ne equal] using member⟩
    · exact ⟨i, by simp⟩

/-- Pushing an item that is in no queue. -/
theorem Separate.push {queue : ι → List α} (separate : Separate queue) {item : α}
    (absent : ¬Present queue item) (i : ι) :
    Separate (Function.update queue i (queue i ++ [item])) where
  nodup j := by
    by_cases equal : j = i
    · subst equal
      rw [Function.update_self]
      refine List.nodup_append.mpr ⟨separate.nodup j, by simp, ?_⟩
      intro other member last last_mem
      rw [List.mem_singleton.mp last_mem]
      exact fun same => absent ⟨j, same ▸ member⟩
    · rw [Function.update_of_ne equal]
      exact separate.nodup j
  unique {first second other} left right := by
    have origin {j : ι}
        (member : other ∈ Function.update queue i (queue i ++ [item]) j) :
        other ∈ queue j ∨ other = item ∧ j = i := by
      by_cases equal : j = i
      · subst equal
        simp only [Function.update_self, List.mem_append, List.mem_singleton] at member
        exact member.imp_right fun same => ⟨same, rfl⟩
      · rw [Function.update_of_ne equal] at member
        exact .inl member
    obtain old | ⟨same, here⟩ := origin left <;> obtain old' | ⟨same', here'⟩ := origin right
    · exact separate.unique old old'
    · exact absurd ⟨first, same' ▸ old⟩ absent
    · exact absurd ⟨second, same ▸ old'⟩ absent
    · rw [here, here']

theorem present_update_drop {queue : ι → List α} (separate : Separate queue) {i : ι} {item : α}
    {rest : List α} (front : queue i = item :: rest) {other : α} :
    Present (Function.update queue i rest) other ↔ Present queue other ∧ other ≠ item := by
  have nodup := separate.nodup i
  rw [front, List.nodup_cons] at nodup
  constructor
  · rintro ⟨j, member⟩
    by_cases equal : j = i
    · subst equal
      rw [Function.update_self] at member
      exact ⟨⟨j, by simp [front, member]⟩, fun same => nodup.1 (same ▸ member)⟩
    · rw [Function.update_of_ne equal] at member
      refine ⟨⟨j, member⟩, fun same => equal (separate.unique member ?_)⟩
      simp [same, front]
  · rintro ⟨⟨j, member⟩, different⟩
    by_cases equal : j = i
    · subst equal
      rw [front, List.mem_cons] at member
      exact ⟨j, by simpa using member.resolve_left different⟩
    · exact ⟨j, by simpa [Function.update_of_ne equal] using member⟩

/-- Taking the first item off a queue. -/
theorem Separate.drop {queue : ι → List α} (separate : Separate queue) {i : ι} {item : α}
    {rest : List α} (front : queue i = item :: rest) :
    Separate (Function.update queue i rest) := by
  have included {j : ι} {other : α} (member : other ∈ Function.update queue i rest j) :
      other ∈ queue j := by
    by_cases equal : j = i
    · subst equal
      simp only [Function.update_self] at member
      simp [front, member]
    · rwa [Function.update_of_ne equal] at member
  refine ⟨fun j => ?_, fun left right => separate.unique (included left) (included right)⟩
  by_cases equal : j = i
  · subst equal
    have nodup := separate.nodup j
    rw [front, List.nodup_cons] at nodup
    simpa using nodup.2
  · rw [Function.update_of_ne equal]
    exact separate.nodup j

/-- Taking an item out of the queue that holds it. -/
theorem present_update_erase [DecidableEq α] {queue : ι → List α} (separate : Separate queue)
    {i : ι} {item : α} (member : item ∈ queue i) {other : α} :
    Present (Function.update queue i ((queue i).erase item)) other ↔
      Present queue other ∧ other ≠ item := by
  have nodup := separate.nodup i
  constructor
  · rintro ⟨j, found⟩
    by_cases equal : j = i
    · subst equal
      rw [Function.update_self, nodup.mem_erase_iff] at found
      exact ⟨⟨j, found.2⟩, found.1⟩
    · rw [Function.update_of_ne equal] at found
      exact ⟨⟨j, found⟩, fun same => equal (separate.unique found (same ▸ member))⟩
  · rintro ⟨⟨j, found⟩, different⟩
    by_cases equal : j = i
    · subst equal
      refine ⟨j, ?_⟩
      rw [Function.update_self, nodup.mem_erase_iff]
      exact ⟨different, found⟩
    · exact ⟨j, by rwa [Function.update_of_ne equal]⟩

theorem Separate.erase [DecidableEq α] {queue : ι → List α} (separate : Separate queue) (i : ι)
    (item : α) : Separate (Function.update queue i ((queue i).erase item)) := by
  refine separate.of_sublist fun j => ?_
  by_cases equal : j = i
  · subst equal
    rw [Function.update_self]
    exact List.erase_sublist
  · rw [Function.update_of_ne equal]

/-- The family after a block has moved from the front of one queue to the front of another. -/
def move (queue : ι → List α) (i j : ι) (block rest : List α) : ι → List α :=
  Function.update (Function.update queue i rest) j (block ++ queue j)

theorem move_source {queue : ι → List α} {i j : ι} (different : i ≠ j) (block rest : List α) :
    move queue i j block rest i = rest := by
  simp [move, Function.update_of_ne different]

@[simp]
theorem move_target (queue : ι → List α) (i j : ι) (block rest : List α) :
    move queue i j block rest j = block ++ queue j := by simp [move]

theorem move_other {queue : ι → List α} {i j k : ι} (source : k ≠ i) (target : k ≠ j)
    (block rest : List α) : move queue i j block rest k = queue k := by
  simp [move, Function.update_of_ne source, Function.update_of_ne target]

section Move

variable {queue : ι → List α} {i j : ι} {block rest : List α}

theorem mem_move (different : i ≠ j) {k : ι} {item : α} :
    item ∈ move queue i j block rest k ↔
      (k = i ∧ item ∈ rest) ∨ (k = j ∧ (item ∈ block ∨ item ∈ queue j)) ∨
        (k ≠ i ∧ k ≠ j ∧ item ∈ queue k) := by
  by_cases source : k = i
  · subst source
    simp [move_source different, different]
  · by_cases target : k = j
    · subst target
      simp [source]
    · simp [move_other source target, source, target]

theorem present_move (different : i ≠ j) (front : queue i = block ++ rest) {item : α} :
    Present (move queue i j block rest) item ↔ Present queue item := by
  constructor
  · rintro ⟨k, member⟩
    obtain ⟨_, stays⟩ | ⟨_, moved | stays⟩ | ⟨_, _, stays⟩ := (mem_move different).mp member
    · exact ⟨i, by simp [front, stays]⟩
    · exact ⟨i, by simp [front, moved]⟩
    · exact ⟨j, stays⟩
    · exact ⟨k, stays⟩
  · rintro ⟨k, member⟩
    by_cases source : k = i
    · subst source
      rw [front, List.mem_append] at member
      obtain moved | stays := member
      · exact ⟨j, by simp [moved]⟩
      · exact ⟨k, by simpa [move_source different] using stays⟩
    · by_cases target : k = j
      · subst target
        exact ⟨k, by simp [member]⟩
      · exact ⟨k, by simpa [move_other source target] using member⟩

/-- Handing the front of one queue over to another. -/
theorem Separate.move (separate : Separate queue) (different : i ≠ j)
    (front : queue i = block ++ rest) : Separate (move queue i j block rest) := by
  have nodup := separate.nodup i
  rw [front, List.nodup_append] at nodup
  have from_source {item : α} (member : item ∈ block ∨ item ∈ rest) : item ∈ queue i := by
    rw [front, List.mem_append]
    exact member
  refine ⟨fun k => ?_, fun {first second item} left right => ?_⟩
  · by_cases source : k = i
    · subst source
      rw [move_source different]
      exact nodup.2.1
    · by_cases target : k = j
      · subst target
        rw [move_target]
        refine List.nodup_append.mpr ⟨nodup.1, separate.nodup k, ?_⟩
        intro moved moved_mem other other_mem same
        exact different (separate.unique (from_source (.inl moved_mem)) (same ▸ other_mem))
      · rw [move_other source target]
        exact separate.nodup k
  · rw [mem_move different] at left right
    obtain ⟨rfl, left⟩ | ⟨rfl, left | left⟩ | ⟨out, off, left⟩ := left <;>
      obtain ⟨rfl, right⟩ | ⟨rfl, right | right⟩ | ⟨out', off', right⟩ := right
    · rfl
    · exact absurd rfl (nodup.2.2 item right item left)
    · exact separate.unique (from_source (.inr left)) right
    · exact separate.unique (from_source (.inr left)) right
    · exact absurd rfl (nodup.2.2 item left item right)
    · rfl
    · rfl
    · exact absurd (separate.unique (from_source (.inl left)) right).symm out'
    · exact separate.unique left (from_source (.inr right))
    · rfl
    · rfl
    · exact separate.unique left right
    · exact separate.unique left (from_source (.inr right))
    · exact absurd (separate.unique (from_source (.inl right)) left).symm out
    · exact separate.unique left right
    · exact separate.unique left right

end Move

end QueueFamily
