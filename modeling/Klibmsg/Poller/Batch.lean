import Klibmsg.Poller
import Klibmsg.Library.StepSystem

/-!
# The batch of a poller

`Wait` stores a batch of entries, `Event` consumes it bit by bit, and the operations on handles
change its unread part while it is being read.  All of them rely on `index_` and `nevents_` staying
inside the array.
-/

namespace Klibmsg

/-- How one call of `epoll_wait` ends. -/
inductive WaitReply (η : Type) where
  | ready (entries : List (EpollEvent η))
  | fails (errno : Int)

namespace NetPoller

variable {η : Type}

/-- The loop of `Wait` around `epoll_wait`: the result and the entries of the first call that is not
interrupted, or nothing as long as all calls are. -/
def epollWait : List (WaitReply η) → Option (Int × List (EpollEvent η))
  | [] => none
  | .ready entries :: _ => some (entries.length, entries)
  | .fails errno :: rest => if errno = EINTR then epollWait rest else some (-1, [])

/-- `NetPoller::Wait`.  The check is made on `nevents_`, which is zero by then, and not on the
result. -/
def wait (poller : NetPoller η) (replies : List (WaitReply η)) :
    Option (Except Fault (NetPoller η)) :=
  let poller := { poller with nevents := 0, index := 0 }
  match epollWait replies with
  | none => none
  | some (nevents, entries) =>
      if poller.nevents ≠ -1 then
        some (.ok
          { poller with
            nevents := nevents, events := entries ++ poller.events.drop entries.length })
      else
        some (.error .check)

/-- The loop of `Event`, which passes over the entries without events. -/
def seek (nevents : Int) : Nat → List (EpollEvent η) → Option Nat
  | i, entries =>
    if (i : Int) < nevents then
      match entries with
      | [] => none
      | entry :: rest => if entry.events ≠ 0 then some i else seek nevents (i + 1) rest
    else
      some i

/-- Store one entry. -/
def setEntry (poller : NetPoller η) (i : Nat) (entry : EpollEvent η) : NetPoller η :=
  { poller with events := poller.events.set i entry }

/-- `NetPoller::Event`; no event stands for the result `-EAGAIN`. -/
def event (poller : NetPoller η) : Except Fault (Option (Int × η) × NetPoller η) :=
  match seek poller.nevents poller.index (poller.events.drop poller.index) with
  | none => .error .outOfBounds
  | some i =>
      let poller := { poller with index := i }
      if poller.nevents ≤ (i : Int) then
        .ok (none, poller)
      else
        match poller.events[i]? with
        | none => .error .outOfBounds
        | some entry =>
            if entry.events &&& EPOLLIN ≠ 0 then
              .ok (some (kNetPollerIn, entry.data),
                poller.setEntry i { entry with events := entry.events &&& ~~~EPOLLIN })
            else if entry.events &&& EPOLLOUT ≠ 0 then
              .ok (some (kNetPollerOut, entry.data),
                poller.setEntry i { entry with events := entry.events &&& ~~~EPOLLOUT })
            else
              .ok (some (kNetPollerErr, entry.data), { poller with index := i + 1 })

variable [DecidableEq η]

/-- `NetPoller::ResetIn`. -/
def resetIn (poller : NetPoller η) := poller.resetBit EPOLLIN

end NetPoller

/-! ## Sequences of operations -/

/-- A poller and the handles that its users own. -/
structure Polling (η : Type) where
  poller : NetPoller η
  handle : η → NetPollerHandle

/-- An operation of a poller.  A call of `Add` is told whether the descriptor is open. -/
inductive PollCall (η : Type) where
  | wait (replies : List (WaitReply η))
  | event
  | add (isOpen : Bool) (fd : Fd) (hndl : η)
  | rm (hndl : η)
  | setIn (hndl : η)
  | resetIn (hndl : η)
  | setOut (hndl : η)
  | resetOut (hndl : η)

namespace Polling

variable {η : Type} [DecidableEq η]

/-- Store what an operation did to a handle. -/
def store (s : Polling η) (hndl : η) (result : NetPollerHandle × NetPoller η) : Polling η :=
  ⟨result.2, Function.update s.handle hndl result.1⟩

/-- Call an operation.  The result is an event, if one is returned; there is none while `Wait` is
still waiting. -/
def call (s : Polling η) : PollCall η → Option (Except Fault (Option (Int × η) × Polling η))
  | .wait replies => (s.poller.wait replies).map fun outcome =>
      outcome.map fun poller => (none, ⟨poller, s.handle⟩)
  | .event => some (s.poller.event.map fun result => (result.1, ⟨result.2, s.handle⟩))
  | .add isOpen fd hndl => some (.ok (none, s.store hndl (s.poller.add isOpen fd hndl)))
  | .rm hndl => some ((s.poller.rm hndl (s.handle hndl)).map fun poller =>
      (none, ⟨poller, s.handle⟩))
  | .setIn hndl => some (.ok (none, s.store hndl (s.poller.setIn hndl (s.handle hndl))))
  | .resetIn hndl => some ((s.poller.resetIn hndl (s.handle hndl)).map fun result =>
      (none, s.store hndl result))
  | .setOut hndl => some (.ok (none, s.store hndl (s.poller.setOut hndl (s.handle hndl))))
  | .resetOut hndl => some ((s.poller.resetOut hndl (s.handle hndl)).map fun result =>
      (none, s.store hndl result))

theorem ok_of_map {α β : Type} {f : α → β} {outcome : Except Fault α} {result : β}
    (mapped : outcome.map f = .ok result) : ∃ value, outcome = .ok value ∧ f value = result := by
  cases outcome with
  | error fault => cases mapped
  | ok value => exact ⟨value, rfl, Except.ok.inj mapped⟩

/-- The event that a call returns. -/
def returns (s : Polling η) (op : PollCall η) : List (Int × η) :=
  match s.call op with
  | some (.ok (some event, _)) => [event]
  | _ => []

/-- Sequences of successful operations. -/
def system : StepSystem (Polling η) (PollCall η) where
  step s op :=
    match s.call op with
    | some (.ok (_, s')) => some s'
    | _ => none

end Polling

/-! ## The unread part of a batch -/

namespace NetPoller

variable {η : Type}

/-- The entries that `Event` has not passed. -/
def unread (poller : NetPoller η) : List (EpollEvent η) :=
  (poller.events.take poller.nevents.toNat).drop poller.index

/-- `index_` and `nevents_` stay inside the array. -/
structure Bounded (poller : NetPoller η) : Prop where
  index : (poller.index : Int) ≤ poller.nevents
  nevents : poller.nevents ≤ kNetPollerMaxEvents
  events : poller.events.length = kNetPollerMaxEvents

theorem Bounded.length_unread {poller : NetPoller η} (bounded : poller.Bounded) :
    (poller.index : Int) + poller.unread.length = poller.nevents := by
  obtain ⟨index, nevents, events⟩ := bounded
  rw [unread, List.length_drop, List.length_take]
  omega

/-- The array from `index_` on. -/
theorem Bounded.drop_index {poller : NetPoller η} (bounded : poller.Bounded) :
    poller.events.drop poller.index = poller.unread ++ poller.events.drop poller.nevents.toNat := by
  obtain ⟨index, nevents, events⟩ := bounded
  have split := List.take_append_drop poller.nevents.toNat poller.events
  have below : poller.index ≤ (poller.events.take poller.nevents.toNat).length := by
    rw [List.length_take]
    omega
  calc poller.events.drop poller.index
      = (poller.events.take poller.nevents.toNat ++ poller.events.drop poller.nevents.toNat).drop
          poller.index := by rw [split]
    _ = poller.unread ++ poller.events.drop poller.nevents.toNat :=
        List.drop_append_of_le_length below

/-- A poller whose array from some index on is known. -/
theorem Bounded.of_parts {poller : NetPoller η} (bounded : poller.Bounded) (after : NetPoller η)
    (i : Nat) (rest : List (EpollEvent η)) (index : after.index = i)
    (nevents : after.nevents = poller.nevents)
    (inside : (i : Int) + rest.length = poller.nevents)
    (events : after.events =
      after.events.take i ++ (rest ++ poller.events.drop poller.nevents.toNat))
    (length : after.events.length = poller.events.length) :
    after.Bounded ∧ after.unread = rest := by
  obtain ⟨_, below, all⟩ := bounded
  refine ⟨⟨by omega, by omega, by omega⟩, ?_⟩
  have front : (after.events.take i).length = i := by
    rw [List.length_take]
    omega
  rw [unread, nevents, index, events, ← List.append_assoc]
  have upto : (after.events.take i ++ rest).length = poller.nevents.toNat := by
    rw [List.length_append, front]
    omega
  rw [List.take_append_of_le_length upto.ge, List.take_of_length_le upto.le,
    List.drop_append_of_le_length front.ge, List.drop_of_length_le front.le, List.nil_append]

/-- The scan of the loops with `<`. -/
theorem scanLt_append (update : EpollEvent η → EpollEvent η) {nevents : Int} {i : Nat}
    {entries back : List (EpollEvent η)} (ends : (i : Int) + entries.length = nevents) :
    scanLt update nevents i (entries ++ back) = some (entries.map update ++ back) := by
  induction entries generalizing i with
  | nil =>
      have past : ¬(i : Int) < nevents := by simp at ends; omega
      rw [List.nil_append, scanLt.eq_def]
      exact if_neg past
  | cons entry rest ih =>
      have inside : (i : Int) < nevents := by simp at ends; omega
      have later : ((i + 1 : Nat) : Int) + rest.length = nevents := by simp at ends ⊢; omega
      rw [List.cons_append, scanLt, if_pos inside]
      rw [ih later]
      rfl

/-- The scan of the loops with `!=`. -/
theorem scanNe_append (update : EpollEvent η → EpollEvent η) {nevents : Int} {i : Nat}
    {entries back : List (EpollEvent η)} (ends : (i : Int) + entries.length = nevents) :
    scanNe update nevents i (entries ++ back) = some (entries.map update ++ back) := by
  induction entries generalizing i with
  | nil =>
      have past : ¬(i : Int) ≠ nevents := by simp at ends; omega
      rw [List.nil_append, scanNe.eq_def]
      exact if_neg past
  | cons entry rest ih =>
      have inside : (i : Int) ≠ nevents := by simp at ends; omega
      have later : ((i + 1 : Nat) : Int) + rest.length = nevents := by simp at ends ⊢; omega
      rw [List.cons_append, scanNe, if_pos inside]
      rw [ih later]
      rfl

/-- The entries without events at the front are passed over. -/
theorem seek_append {nevents : Int} {i : Nat} {passed rest : List (EpollEvent η)}
    (back : List (EpollEvent η)) (ends : (i : Int) + (passed ++ rest).length = nevents)
    (empty : ∀ entry ∈ passed, entry.events = 0) (stops : ∀ entry ∈ rest.head?, entry.events ≠ 0) :
    seek nevents i (passed ++ rest ++ back) = some (i + passed.length) := by
  induction passed generalizing i with
  | nil =>
      cases rest with
      | nil =>
          have past : ¬(i : Int) < nevents := by simp at ends; omega
          rw [seek.eq_def]
          exact if_neg past
      | cons entry rest =>
          have inside : (i : Int) < nevents := by simp at ends; omega
          rw [List.nil_append, List.cons_append, seek, if_pos inside, if_pos (stops entry rfl)]
          rfl
  | cons entry passed ih =>
      have inside : (i : Int) < nevents := by simp at ends; omega
      have later : ((i + 1 : Nat) : Int) + (passed ++ rest).length = nevents := by
        simp at ends ⊢
        omega
      have nothing : ¬entry.events ≠ 0 := not_not.mpr (empty entry (List.mem_cons_self))
      rw [List.cons_append, List.cons_append, seek, if_pos inside]
      rw [if_neg nothing, ih later fun other member => empty other (List.mem_cons_of_mem _ member)]
      simp
      omega

/-- Storing the scanned entries. -/
theorem Bounded.store {poller : NetPoller η} (bounded : poller.Bounded)
    (rest : List (EpollEvent η)) (length : rest.length = poller.unread.length) :
    ∃ after, poller.storeTail (some (rest ++ poller.events.drop poller.nevents.toNat)) = .ok after ∧
      after.Bounded ∧ after.unread = rest ∧ after.interest = poller.interest := by
  refine ⟨_, rfl, ?_⟩
  have inside := bounded.length_unread
  have front : (poller.events.take poller.index).length = poller.index := by
    rw [List.length_take]
    have := bounded.index
    have := bounded.nevents
    have := bounded.events
    omega
  obtain ⟨after_bounded, after_unread⟩ := bounded.of_parts
    { poller with events := poller.events.take poller.index ++
      (rest ++ poller.events.drop poller.nevents.toNat) } poller.index rest rfl rfl (by omega)
    (by rw [List.take_append_of_le_length front.ge, List.take_of_length_le front.le])
    (by
      have all := congrArg List.length bounded.drop_index
      have split := congrArg List.length (List.take_append_drop poller.index poller.events)
      rw [List.length_append] at all split
      rw [List.length_append, List.length_append, length]
      omega)
  exact ⟨after_bounded, after_unread, rfl⟩

/-- An `epoll_ctl` does not touch the batch. -/
theorem Bounded.of_batch {poller after : NetPoller η} (bounded : poller.Bounded)
    (index : after.index = poller.index) (nevents : after.nevents = poller.nevents)
    (events : after.events = poller.events) : after.Bounded ∧ after.unread = poller.unread := by
  refine ⟨⟨?_, ?_, ?_⟩, ?_⟩
  · rw [index, nevents]
    exact bounded.index
  · rw [nevents]
    exact bounded.nevents
  · rw [events]
    exact bounded.events
  · rw [unread, unread, index, nevents, events]

theorem Bounded.ctlAdd {poller : NetPoller η} (bounded : poller.Bounded) (isOpen : Bool) (fd : Fd)
    (event : EpollEvent η) :
    (poller.ctlAdd isOpen fd event).Bounded ∧
      (poller.ctlAdd isOpen fd event).unread = poller.unread := by
  rw [NetPoller.ctlAdd]
  split_ifs
  · exact bounded.of_batch rfl rfl rfl
  · exact ⟨bounded, rfl⟩

theorem Bounded.ctlMod {poller : NetPoller η} (bounded : poller.Bounded) (fd : Fd)
    (event : EpollEvent η) :
    (poller.ctlMod fd event).Bounded ∧ (poller.ctlMod fd event).unread = poller.unread := by
  rw [NetPoller.ctlMod]
  split
  · exact ⟨bounded, rfl⟩
  · exact bounded.of_batch rfl rfl rfl

theorem Bounded.ctlDel {poller : NetPoller η} (bounded : poller.Bounded) (fd : Fd) :
    (poller.ctlDel fd).Bounded ∧ (poller.ctlDel fd).unread = poller.unread :=
  bounded.of_batch rfl rfl rfl

/-! ## What the operations do to the unread entries -/

/-- A successful `epoll_wait` replaces the batch. -/
theorem wait_of_ready {poller : NetPoller η} {replies : List (WaitReply η)}
    {entries : List (EpollEvent η)} (length : poller.events.length = kNetPollerMaxEvents)
    (fits : entries.length ≤ kNetPollerMaxEvents)
    (waited : epollWait replies = some ((entries.length : Int), entries)) :
    ∃ after, poller.wait replies = some (.ok after) ∧ after.Bounded ∧ after.unread = entries ∧
      after.interest = poller.interest := by
  refine ⟨{ poller with
      index := 0, nevents := entries.length,
      events := entries ++ poller.events.drop entries.length }, ?_, ⟨?_, ?_, ?_⟩, ?_, rfl⟩
  · rw [wait, waited]
    rfl
  · exact Int.natCast_nonneg _
  · exact Int.ofNat_le.mpr fits
  · rw [List.length_append, List.length_drop]
    omega
  · simp [unread]

/-- `Event` with nothing left in the batch. -/
theorem event_of_empty {poller : NetPoller η} (bounded : poller.Bounded)
    (empty : ∀ entry ∈ poller.unread, entry.events = 0) :
    ∃ after, poller.event = .ok (none, after) ∧ after.Bounded ∧ after.unread = [] ∧
      after.interest = poller.interest := by
  have ends := bounded.length_unread
  have found : seek poller.nevents poller.index (poller.events.drop poller.index) =
      some (poller.index + poller.unread.length) := by
    have := @seek_append _ poller.nevents poller.index poller.unread []
      (poller.events.drop poller.nevents.toNat) (by simpa using ends) empty (by simp)
    rwa [List.append_nil, ← bounded.drop_index] at this
  have past : poller.nevents ≤ ((poller.index + poller.unread.length : Nat) : Int) := by
    omega
  refine ⟨{ poller with index := poller.index + poller.unread.length }, ?_, ⟨?_, ?_, ?_⟩, ?_, rfl⟩
  · rw [event, found]
    exact if_pos past
  · change ((poller.index + poller.unread.length : Nat) : Int) ≤ poller.nevents
    omega
  · exact bounded.nevents
  · exact bounded.events
  · rw [unread, List.drop_eq_nil_iff, List.length_take]
    change min poller.nevents.toNat poller.events.length ≤ poller.index + poller.unread.length
    omega

/-- What `Event` returns for the first entry with events, and what it leaves of it. -/
def turn (entry : EpollEvent η) : (Int × η) × List (EpollEvent η) :=
  if entry.events &&& EPOLLIN ≠ 0 then
    ((kNetPollerIn, entry.data), [{ entry with events := entry.events &&& ~~~EPOLLIN }])
  else if entry.events &&& EPOLLOUT ≠ 0 then
    ((kNetPollerOut, entry.data), [{ entry with events := entry.events &&& ~~~EPOLLOUT }])
  else
    ((kNetPollerErr, entry.data), [])

/-- `Event` with something left in the batch. -/
theorem event_of_unread {poller : NetPoller η} (bounded : poller.Bounded)
    {passed rest : List (EpollEvent η)} {entry : EpollEvent η}
    (unread : poller.unread = passed ++ entry :: rest)
    (empty : ∀ other ∈ passed, other.events = 0) (some_events : entry.events ≠ 0) :
    ∃ after, poller.event = .ok (some (turn entry).1, after) ∧ after.Bounded ∧
      after.unread = (turn entry).2 ++ rest ∧ after.interest = poller.interest := by
  have ends := bounded.length_unread
  have batch := bounded.drop_index
  rw [unread] at ends batch
  have found : seek poller.nevents poller.index (poller.events.drop poller.index) =
      some (poller.index + passed.length) := by
    rw [batch]
    exact seek_append _ ends empty (by simpa using some_events)
  have here : poller.events.drop (poller.index + passed.length) =
      entry :: (rest ++ poller.events.drop poller.nevents.toNat) := by
    rw [← List.drop_drop, batch, List.append_assoc, List.drop_left, List.cons_append]
  have inside : ¬poller.nevents ≤ ((poller.index + passed.length : Nat) : Int) := by
    simp at ends ⊢
    omega
  have read : poller.events[poller.index + passed.length]? = some entry := by
    rw [← List.head?_drop, here]
    rfl
  -- The bit is cleared in place, and the entry is read again by the next call.
  have kept : ∀ left : EpollEvent η, ∀ after, after =
      setEntry { poller with index := poller.index + passed.length } (poller.index + passed.length)
        left → after.Bounded ∧ after.unread = [left] ++ rest ∧
          after.interest = poller.interest := by
    rintro left after rfl
    have stored : (poller.events.set (poller.index + passed.length) left).drop
        (poller.index + passed.length) =
          left :: (rest ++ poller.events.drop poller.nevents.toNat) := by
      rw [List.drop_set, if_neg (lt_irrefl _), here, Nat.sub_self]
      rfl
    obtain ⟨after_bounded, after_unread⟩ := bounded.of_parts
      (setEntry { poller with index := poller.index + passed.length }
        (poller.index + passed.length) left) (poller.index + passed.length) ([left] ++ rest) rfl rfl
      (by simp at ends ⊢; omega)
      (by
        change poller.events.set _ left = (poller.events.set _ left).take _ ++ (left :: (rest ++ _))
        rw [← stored, List.take_append_drop])
      (List.length_set ..)
    exact ⟨after_bounded, after_unread, rfl⟩
  have read_in : poller.event = .ok (some (turn entry).1,
      match (turn entry).2 with
      | [] => { poller with index := poller.index + passed.length + 1 }
      | left :: _ => setEntry { poller with index := poller.index + passed.length }
          (poller.index + passed.length) left) := by
    rw [event, found]
    dsimp only
    rw [if_neg inside, read]
    simp only [turn]
    split_ifs <;> rfl
  refine ⟨_, read_in, ?_⟩
  rw [turn]
  split_ifs
  · exact kept _ _ rfl
  · exact kept _ _ rfl
  · obtain ⟨after_bounded, after_unread⟩ := bounded.of_parts
      { poller with index := poller.index + passed.length + 1 }
      (poller.index + passed.length + 1) rest rfl rfl
      (by simp at ends ⊢; omega)
      (by
        have rest_here := congrArg List.tail here
        rw [List.tail_drop, List.tail_cons] at rest_here
        rw [← rest_here, List.take_append_drop])
      rfl
    exact ⟨after_bounded, after_unread, rfl⟩

/-- `Rm` clears the entries of the handle. -/
theorem rm_of_bounded [DecidableEq η] {poller : NetPoller η} (bounded : poller.Bounded) (hndl : η)
    (handle : NetPollerHandle) :
    ∃ after, poller.rm hndl handle = .ok after ∧ after.Bounded ∧
      after.unread = poller.unread.map (clearBits hndl (BitVec.allOnes 32)) ∧
      after.interest = Function.update poller.interest handle.fd none := by
  obtain ⟨deleted, same⟩ := bounded.ctlDel handle.fd
  obtain ⟨after, stores, after_bounded, after_unread, interest⟩ :=
    deleted.store (poller.unread.map (clearBits hndl (BitVec.allOnes 32)))
      (by rw [List.length_map, same])
  refine ⟨after, ?_, after_bounded, after_unread, interest⟩
  rw [rm, deleted.drop_index, scanLt_append _ deleted.length_unread, same]
  exact stores

/-- An effective reset clears the bit in the entries of the handle. -/
theorem resetBit_of_bounded [DecidableEq η] {poller : NetPoller η} (bounded : poller.Bounded)
    {bit : BitVec 32} (hndl : η) {handle : NetPollerHandle} (set : handle.events &&& bit ≠ 0) :
    ∃ after, poller.resetBit bit hndl handle =
        .ok ({ handle with events := handle.events &&& ~~~bit }, after) ∧
      after.Bounded ∧ after.unread = poller.unread.map (clearBits hndl bit) ∧
      after.interest =
        (poller.ctlMod handle.fd ⟨handle.events &&& ~~~bit, hndl⟩).interest := by
  obtain ⟨modified, same⟩ := bounded.ctlMod handle.fd ⟨handle.events &&& ~~~bit, hndl⟩
  have batch := modified.drop_index
  have ends := modified.length_unread
  obtain ⟨after, stores, after_bounded, after_unread, interest⟩ :=
    modified.store (poller.unread.map (clearBits hndl bit)) (by rw [List.length_map, same])
  refine ⟨after, ?_, after_bounded, after_unread, interest⟩
  rw [resetBit, if_neg set]
  dsimp only
  rw [batch, scanNe_append _ ends, same, stores]
  rfl

/-- The first entry with events. -/
theorem exists_first_unread {entries : List (EpollEvent η)}
    (unread : ¬∀ entry ∈ entries, entry.events = 0) :
    ∃ passed entry rest, entries = passed ++ entry :: rest ∧
      (∀ other ∈ passed, other.events = 0) ∧ entry.events ≠ 0 := by
  induction entries with
  | nil => exact absurd (by simp) unread
  | cons entry rest ih =>
      by_cases empty : entry.events = 0
      · rw [List.forall_mem_cons, not_and] at unread
        obtain ⟨passed, found, later, rfl, before, some_events⟩ := ih (unread empty)
        exact ⟨entry :: passed, found, later, rfl,
          List.forall_mem_cons.mpr ⟨empty, before⟩, some_events⟩
      · exact ⟨[], entry, rest, rfl, by simp, empty⟩

/-- A reset of a bit that is not set returns early. -/
theorem resetBit_of_unset [DecidableEq η] {poller : NetPoller η} {bit : BitVec 32} (hndl : η)
    {handle : NetPollerHandle} (unset : handle.events &&& bit = 0) :
    poller.resetBit bit hndl handle = .ok (handle, poller) := if_pos unset

/-! ## Staying inside the array -/

/-- Before the first `epoll_wait` that returns a batch, the others are interrupted. -/
def onlyInterrupted : List (WaitReply η) → Prop
  | [] => True
  | .ready _ :: _ => True
  | .fails errno :: rest => errno = EINTR ∧ onlyInterrupted rest

theorem epollWait_of_onlyInterrupted {replies : List (WaitReply η)}
    (interrupted : onlyInterrupted replies) {nevents : Int} {entries : List (EpollEvent η)}
    (waited : epollWait replies = some (nevents, entries)) :
    .ready entries ∈ replies ∧ nevents = entries.length := by
  induction replies with
  | nil => cases waited
  | cons reply rest ih =>
      cases reply with
      | ready batch =>
          cases waited
          exact ⟨List.mem_cons_self, rfl⟩
      | fails errno =>
          rw [epollWait, if_pos interrupted.1] at waited
          obtain ⟨member, count⟩ := ih interrupted.2 waited
          exact ⟨List.mem_cons_of_mem _ member, count⟩

/-- Any other failure is stored as the size of the batch. -/
theorem epollWait_of_failure {replies : List (WaitReply η)} (failed : ¬onlyInterrupted replies) :
    epollWait replies = some (-1, []) := by
  induction replies with
  | nil => exact absurd trivial failed
  | cons reply rest ih =>
      cases reply with
      | ready batch => exact absurd trivial failed
      | fails errno =>
          rw [epollWait]
          split_ifs with interrupted
          · exact ih fun all => failed ⟨interrupted, all⟩
          · rfl

theorem wait_fails {poller after : NetPoller η} {replies : List (WaitReply η)}
    (failed : ¬onlyInterrupted replies) (waited : poller.wait replies = some (.ok after)) :
    after.nevents = -1 := by
  rw [wait, epollWait_of_failure failed] at waited
  cases waited
  rfl

end NetPoller

namespace Polling

variable {η : Type} [DecidableEq η]

/-- The poller after `Init`. -/
structure Started (s : Polling η) : Prop where
  nevents : s.poller.nevents = 0
  index : s.poller.index = 0
  events : s.poller.events.length = kNetPollerMaxEvents

/-- `index_` and `nevents_` are in order, and no operation leaves the array. -/
structure InBounds (s : Polling η) : Prop where
  index : 0 ≤ (s.poller.index : Int)
  nevents : (s.poller.index : Int) ≤ s.poller.nevents
  max : s.poller.nevents ≤ kNetPollerMaxEvents
  scans : ∀ op, s.call op ≠ some (.error .outOfBounds)

/-- `epoll_wait` returns at most as many entries as it is asked for. -/
def Fits (_ : Polling η) (op : PollCall η) : Prop :=
  ∀ replies, op = .wait replies → ∀ entries, .ready entries ∈ replies →
    entries.length ≤ kNetPollerMaxEvents

/-- No `epoll_wait` fails, except that it can be interrupted. -/
def NoFailure (_ : Polling η) (op : PollCall η) : Prop :=
  ∀ replies, op = .wait replies → NetPoller.onlyInterrupted replies

theorem system_step {s s' : Polling η} {op : PollCall η} :
    system.step s op = some s' ↔ ∃ returned, s.call op = some (.ok (returned, s')) := by
  rw [system]
  dsimp only
  split
  next returned after called =>
    rw [called]
    simp
  next other =>
    simp only [reduceCtorEq, false_iff, not_exists]
    intro returned called
    exact other _ _ called

/-- Every operation other than `Wait` succeeds. -/
theorem call_of_bounded {s : Polling η} (bounded : s.poller.Bounded) {op : PollCall η}
    (not_wait : ∀ replies, op ≠ .wait replies) :
    ∃ returned s', s.call op = some (.ok (returned, s')) ∧ s'.poller.Bounded := by
  have of_reset : ∀ bit hndl, ∃ result, s.poller.resetBit bit hndl (s.handle hndl) = .ok result ∧
      result.2.Bounded := by
    intro bit hndl
    by_cases set : (s.handle hndl).events &&& bit = 0
    · exact ⟨_, NetPoller.resetBit_of_unset hndl set, bounded⟩
    · obtain ⟨after, resets, kept, _⟩ := NetPoller.resetBit_of_bounded bounded hndl set
      exact ⟨_, resets, kept⟩
  have of_set : ∀ bit hndl, (s.poller.setBit bit hndl (s.handle hndl)).2.Bounded := by
    intro bit hndl
    rw [NetPoller.setBit]
    split_ifs
    · exact bounded
    · exact (bounded.ctlMod _ _).1
  cases op with
  | wait replies => exact absurd rfl (not_wait replies)
  | event =>
      obtain ⟨returned, after, called, kept⟩ :
          ∃ returned after, s.poller.event = .ok (returned, after) ∧ after.Bounded := by
        by_cases empty : ∀ entry ∈ s.poller.unread, entry.events = 0
        · obtain ⟨after, called, kept, _⟩ := NetPoller.event_of_empty bounded empty
          exact ⟨_, after, called, kept⟩
        · obtain ⟨passed, entry, rest, unread, before, found⟩ :=
            NetPoller.exists_first_unread empty
          obtain ⟨after, called, kept, _⟩ :=
            NetPoller.event_of_unread bounded unread before found
          exact ⟨_, after, called, kept⟩
      exact ⟨returned, ⟨after, s.handle⟩, by rw [call, called]; rfl, kept⟩
  | add isOpen fd hndl => exact ⟨_, _, rfl, (bounded.ctlAdd _ _ _).1⟩
  | rm hndl =>
      obtain ⟨after, removes, kept, _⟩ := NetPoller.rm_of_bounded bounded hndl (s.handle hndl)
      exact ⟨none, ⟨after, s.handle⟩, by rw [call, removes]; rfl, kept⟩
  | setIn hndl => exact ⟨_, _, rfl, of_set _ _⟩
  | setOut hndl => exact ⟨_, _, rfl, of_set _ _⟩
  | resetIn hndl =>
      obtain ⟨result, resets, kept⟩ := of_reset EPOLLIN hndl
      exact ⟨none, s.store hndl result, by rw [call, NetPoller.resetIn, resets]; rfl, kept⟩
  | resetOut hndl =>
      obtain ⟨result, resets, kept⟩ := of_reset EPOLLOUT hndl
      exact ⟨none, s.store hndl result, by rw [call, NetPoller.resetOut, resets]; rfl, kept⟩

/-- `Wait` never stops at its check. -/
theorem wait_ok (s : Polling η) (replies : List (WaitReply η)) (fault : Fault) :
    s.call (.wait replies) ≠ some (.error fault) := by
  rw [call, NetPoller.wait]
  dsimp only
  split
  · rintro ⟨⟩
  · rw [if_pos (by decide)]
    rintro ⟨⟩

theorem inBounds_of_bounded {s : Polling η} (bounded : s.poller.Bounded) : InBounds s := by
  refine ⟨Int.natCast_nonneg _, bounded.index, bounded.nevents, fun op leaves => ?_⟩
  by_cases is_wait : ∃ replies, op = .wait replies
  · obtain ⟨replies, rfl⟩ := is_wait
    exact wait_ok s replies _ leaves
  · obtain ⟨returned, s', called, _⟩ := call_of_bounded bounded (not_exists.mp is_wait)
    rw [called] at leaves
    cases leaves

/-- One operation. -/
theorem step_bounded {s s' : Polling η} {op : PollCall η} (bounded : s.poller.Bounded)
    (fits : Fits s op) (stepped : system.step s op = some s') :
    (NoFailure s op → s'.poller.Bounded) ∧ (InBounds s' → NoFailure s op) := by
  obtain ⟨returned, called⟩ := system_step.mp stepped
  by_cases is_wait : ∃ replies, op = .wait replies
  · obtain ⟨replies, rfl⟩ := is_wait
    obtain ⟨outcome, waits, mapped⟩ := Option.map_eq_some_iff.mp called
    obtain ⟨after, rfl, stored⟩ := ok_of_map mapped
    cases stored
    constructor
    · intro succeeds
      have interrupted := succeeds replies rfl
      cases waited : NetPoller.epollWait replies with
      | none =>
          rw [NetPoller.wait, waited] at waits
          cases waits
      | some result =>
          obtain ⟨nevents, entries⟩ := result
          obtain ⟨member, rfl⟩ := NetPoller.epollWait_of_onlyInterrupted interrupted waited
          obtain ⟨other, same, kept, _⟩ :=
            NetPoller.wait_of_ready bounded.events (fits replies rfl entries member) waited
          cases waits.symm.trans same
          exact kept
    · rintro inside other same
      cases same
      by_contra failed
      have count := NetPoller.wait_fails failed waits
      have := inside.index.trans inside.nevents
      rw [count] at this
      omega
  · have not_wait := not_exists.mp is_wait
    obtain ⟨other, again, found, kept⟩ := call_of_bounded bounded not_wait
    cases called.symm.trans found
    exact ⟨fun _ => kept, fun _ replies same => absurd same (not_wait replies)⟩

/-- All along a run, `index_` and `nevents_` stay inside the array exactly when no call of
`epoll_wait` fails other than by an interruption. -/
theorem in_bounds_iff_no_failure {s s' : Polling η} {ops : List (PollCall η)} (started : Started s)
    (fits : system.Guarded Fits s ops) (execution : system.run s ops = some s') :
    system.Always InBounds s ops ↔ system.Guarded NoFailure s ops := by
  have start : s.poller.Bounded :=
    ⟨by rw [started.index, started.nevents]; rfl, by rw [started.nevents]; decide, started.events⟩
  exact StepSystem.always_iff_guarded_of_lawful
    (fun (s : Polling η) (bounded : s.poller.Bounded) => inBounds_of_bounded bounded)
    (fun _ _ _ => step_bounded) start fits execution

/-- A poller after `Init` whose only handle is registered for `IN`. -/
def oneHandle : Polling Unit where
  poller :=
    { nevents := 0, index := 0, events := List.replicate kNetPollerMaxEvents ⟨0, ()⟩,
      interest := Function.update (fun _ => none) 3 (some ⟨EPOLLIN, ()⟩) }
  handle _ := ⟨3, EPOLLIN⟩

/-- A batch is read after an interruption. -/
theorem in_bounds_one_handle :
    system.Always InBounds oneHandle
      [.wait [.fails EINTR, .ready [⟨EPOLLIN ||| EPOLLOUT, ()⟩]], .event, .resetIn (), .rm (),
        .event] := by
  obtain ⟨s', execution⟩ := Option.isSome_iff_exists.mp
    (show (system.run oneHandle
      [.wait [.fails EINTR, .ready [⟨EPOLLIN ||| EPOLLOUT, ()⟩]], .event, .resetIn (), .rm (),
        .event]).isSome = true by decide +kernel)
  refine (in_bounds_iff_no_failure ⟨rfl, rfl, rfl⟩ ?_ execution).mpr ?_
  · refine StepSystem.guarded_of_forall ?_ _
    simp [Fits, kNetPollerMaxEvents]
  · refine StepSystem.guarded_of_forall ?_ _
    simp [NoFailure, NetPoller.onlyInterrupted]

/-- A failure of `epoll_wait` is stored as the size of the batch, and `ResetIn` leaves the array. -/
theorem failure_leaves_bounds :
    ∃ s', system.run oneHandle [.wait [.fails EBADF]] = some s' ∧
      system.Guarded Fits oneHandle [.wait [.fails EBADF]] ∧ s'.poller.nevents = -1 ∧
      s'.call (.resetIn ()) = some (.error .outOfBounds) ∧ ¬InBounds s' := by
  obtain ⟨s', execution⟩ := Option.isSome_iff_exists.mp
    (show (system.run oneHandle [.wait [.fails EBADF]]).isSome = true by decide +kernel)
  cases execution
  have leaves : ∀ s',
      s' = (⟨{ oneHandle.poller with nevents := -1 }, oneHandle.handle⟩ : Polling Unit) →
    s'.call (.resetIn ()) = some (.error .outOfBounds) := by
    rintro _ rfl
    rfl
  refine ⟨_, rfl, ?_, rfl, ?_, fun inside => ?_⟩
  · refine StepSystem.guarded_of_forall ?_ _
    simp [Fits]
  · exact leaves _ rfl
  · exact inside.scans (.resetIn ()) (leaves _ rfl)

end Polling

end Klibmsg
