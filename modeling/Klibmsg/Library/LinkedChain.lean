import Mathlib.Data.List.Nodup
import Mathlib.Logic.Function.Basic

/-!
# Chains of linked items

An intrusive list stores the link to the next item inside each item.  `Chain link items` states that
following the links from the first item visits the items in order.  Appending at the end, dropping
the first item and changing links outside the chain are the operations on it.
-/

/-- What the link field of an item holds. -/
inductive Link (α : Type*) where
  /-- The item is in no chain. -/
  | absent
  | last
  | next (item : α)
deriving DecidableEq, Repr

namespace Link

variable {α : Type*}

/-- The link to the first of some items. -/
def ofOption : Option α → Link α
  | none => last
  | some item => next item

/-- The item that a link leads to. -/
def target : Link α → Option α
  | absent => none
  | last => none
  | next item => some item

@[simp]
theorem target_ofOption (item : Option α) : (ofOption item).target = item := by
  cases item <;> rfl

theorem ofOption_injective : Function.Injective (ofOption : Option α → Link α) := by
  intro first second same
  rw [← target_ofOption first, same, target_ofOption]

theorem ofOption_ne_absent (item : Option α) : ofOption item ≠ absent := by
  cases item <;> simp [ofOption]

end Link

/-- Following the links from the first item visits the items in order. -/
def Chain {α : Type*} (link : α → Link α) : List α → Prop
  | [] => True
  | item :: rest => link item = .ofOption rest.head? ∧ Chain link rest

namespace Chain

variable {α : Type*} {link link' : α → Link α} {items : List α} {item : α}

theorem link_ne_absent (chain : Chain link items) (member : item ∈ items) :
    link item ≠ .absent := by
  induction items with
  | nil => cases member
  | cons first rest ih =>
      obtain rfl | later := List.mem_cons.mp member
      · rw [chain.1]
        exact Link.ofOption_ne_absent _
      · exact ih chain.2 later

/-- The links determine the items behind the first one. -/
theorem unique {items' : List α} (chain : Chain link items) (chain' : Chain link items')
    (same : items.head? = items'.head?) : items = items' := by
  induction items generalizing items' with
  | nil => exact (List.head?_eq_none_iff.mp same.symm).symm
  | cons first rest ih =>
      cases items' with
      | nil => cases same
      | cons other rest' =>
          cases same
          have next := chain.1.symm.trans chain'.1
          rw [ih chain.2 chain'.2 (Link.ofOption_injective next)]

/-- Links outside the chain do not matter. -/
theorem congr (chain : Chain link items) (same : ∀ item ∈ items, link' item = link item) :
    Chain link' items := by
  induction items with
  | nil => trivial
  | cons first rest ih =>
      exact ⟨(same first List.mem_cons_self).trans chain.1,
        ih chain.2 fun item member => same item (List.mem_cons_of_mem first member)⟩

variable [DecidableEq α]

theorem update_of_not_mem (chain : Chain link items) (absent : item ∉ items) (value : Link α) :
    Chain (Function.update link item value) items :=
  chain.congr fun other member => by
    rw [Function.update_of_ne]
    rintro rfl
    exact absent member

/-- Appending an item by changing the link of the last one. -/
theorem append_last {front : List α} {last : α} (chain : Chain link (front ++ [last]))
    (nodup : (front ++ [last]).Nodup) (absent : item ∉ front ++ [last]) :
    Chain (Function.update (Function.update link item .last) last (.next item))
      (front ++ [last] ++ [item]) := by
  induction front with
  | nil =>
      have different : item ≠ last := by simpa using absent
      refine ⟨by simp [Link.ofOption], ?_, trivial⟩
      rw [Function.update_of_ne different]
      simp [Link.ofOption]
  | cons first front ih =>
      simp only [List.cons_append, List.nodup_cons, List.mem_cons, not_or] at nodup absent
      obtain ⟨outside, nodup⟩ := nodup
      have other : first ≠ last := by
        rintro rfl
        exact outside (by simp)
      refine ⟨?_, ih chain.2 nodup absent.2⟩
      rw [Function.update_of_ne other, Function.update_of_ne (Ne.symm absent.1), chain.1]
      cases front <;> rfl

/-- Unlinking an item by handing its link to the item before it. -/
theorem unlink {front rest : List α} (chain : Chain link (front ++ item :: rest))
    (nodup : (front ++ item :: rest).Nodup) :
    Chain
      (Function.update
        (match front.getLast? with
          | none => link
          | some prev => Function.update link prev (link item)) item .absent)
      (front ++ rest) := by
  induction front with
  | nil => exact chain.2.update_of_not_mem (List.nodup_cons.mp nodup).1 .absent
  | cons first front ih =>
      rw [List.cons_append, List.nodup_cons, List.mem_append, not_or] at nodup
      obtain ⟨⟨not_front, not_rest⟩, nodup⟩ := nodup
      have not_item : first ≠ item := by
        rintro rfl
        exact not_rest List.mem_cons_self
      cases front with
      | nil =>
          have link_item : link item = .ofOption rest.head? := chain.2.1
          have not_later : first ∉ rest := fun member => not_rest (List.mem_cons_of_mem item member)
          refine ⟨?_, ?_⟩
          · change Function.update (Function.update link first (link item)) item .absent first = _
            rw [Function.update_of_ne not_item, Function.update_self, link_item]
            rfl
          · exact (chain.2.2.update_of_not_mem not_later _).update_of_not_mem
              (List.nodup_cons.mp nodup).1 _
      | cons second front =>
          have last : (first :: second :: front).getLast? = (second :: front).getLast? :=
            List.getLast?_cons_cons
          have tail := ih chain.2 nodup
          rw [last]
          refine ⟨?_, tail⟩
          rw [Function.update_of_ne not_item]
          have link_first : link first = .ofOption (second :: front ++ rest).head? := chain.1
          refine Eq.trans ?_ link_first
          cases prev : (second :: front).getLast? with
          | none => rfl
          | some prev =>
              refine Function.update_of_ne ?_ _ _
              rintro rfl
              exact not_front (List.mem_of_getLast? ‹_›)

end Chain

/-- The links, the first and the last item of a list. -/
structure Linked {α : Type*} (link : α → Link α) (head tail : Option α)
    (items : List α) : Prop where
  head_eq : head = items.head?
  tail_eq : tail = items.getLast?
  chain : Chain link items

namespace Linked

variable {α : Type*} {link link' : α → Link α} {head tail : Option α} {items : List α} {item : α}

theorem nil (link : α → Link α) : Linked link none none [] := ⟨rfl, rfl, trivial⟩

theorem congr (linked : Linked link head tail items)
    (same : ∀ item ∈ items, link' item = link item) : Linked link' head tail items :=
  ⟨linked.head_eq, linked.tail_eq, linked.chain.congr same⟩

/-- The rest of a list behind its first item. -/
theorem tail_of_cons {rest : List α} (linked : Linked link head tail (item :: rest)) :
    Linked link (link item).target (if (link item).target = none then none else tail) rest := by
  rw [linked.chain.1, Link.target_ofOption]
  refine ⟨rfl, ?_, linked.chain.2⟩
  cases rest with
  | nil => rfl
  | cons second rest =>
      rw [linked.tail_eq, if_neg (by simp)]
      simp [List.getLast?_cons_cons]

variable [DecidableEq α]

/-- Appending an item at the end. -/
theorem concat (linked : Linked link head tail items) (nodup : items.Nodup)
    (absent : item ∉ items) :
    Linked
      (match tail with
        | none => Function.update link item .last
        | some last => Function.update (Function.update link item .last) last (.next item))
      (head.or (some item)) (some item) (items ++ [item]) := by
  obtain rfl | ⟨front, last, rfl⟩ := items.eq_nil_or_concat'
  · obtain ⟨rfl, rfl, _⟩ := linked
    refine ⟨rfl, rfl, ?_, trivial⟩
    simp [Link.ofOption]
  · obtain ⟨rfl, rfl, chain⟩ := linked
    refine ⟨?_, by simp, ?_⟩
    · cases front <;> simp
    · simpa using chain.append_last nodup absent

/-- Unlinking an item, with the pointers that lead to it. -/
theorem unlink {front rest : List α} (linked : Linked link head tail (front ++ item :: rest))
    (nodup : (front ++ item :: rest).Nodup) :
    Linked
      (Function.update
        (match front.getLast? with
          | none => link
          | some prev => Function.update link prev (link item)) item .absent)
      (if head = some item then (link item).target else head)
      (if tail = some item then front.getLast? else tail) (front ++ rest) := by
  refine ⟨?_, ?_, linked.chain.unlink nodup⟩
  · rw [linked.head_eq]
    cases front with
    | nil =>
        have link_item : link item = .ofOption rest.head? := linked.chain.1
        rw [List.nil_append, List.head?_cons, if_pos rfl, link_item, Link.target_ofOption]
        rfl
    | cons first front =>
        have different : first ≠ item := by
          rintro rfl
          simp at nodup
        simp [different]
  · rw [linked.tail_eq]
    obtain rfl | ⟨middle, last, rfl⟩ := rest.eq_nil_or_concat'
    · simp
    · have different : last ≠ item := by
        rintro rfl
        simp [List.nodup_append] at nodup
      have split : front ++ item :: (middle ++ [last]) = front ++ item :: middle ++ [last] := by
        simp
      rw [split, ← List.append_assoc, List.getLast?_append, List.getLast?_append]
      simp [different]

end Linked
