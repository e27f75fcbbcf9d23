import Klibmsg.Poller.Batch
import Mathlib.Data.List.Nodup

/-!
# Reading a batch

The unread part of a batch stands for a list of turns, one for each event that `Event` is going to
return.  `Event` removes the first turn, and the operations on handles remove the turns that they
invalidate and no others.
-/

namespace Klibmsg

namespace NetPoller

variable {η : Type}

/-- The turns of one entry, in the order in which `Event` returns them. -/
def turns (entry : EpollEvent η) : List (Int × η) :=
  (if entry.events &&& EPOLLIN ≠ 0 then [(kNetPollerIn, entry.data)] else []) ++
    ((if entry.events &&& EPOLLOUT ≠ 0 then [(kNetPollerOut, entry.data)] else []) ++
      if entry.events &&& ~~~(EPOLLIN ||| EPOLLOUT) ≠ 0 then [(kNetPollerErr, entry.data)] else [])

/-- The turns that are left of the batch. -/
def pending (poller : NetPoller η) : List (Int × η) := poller.unread.flatMap turns

theorem turns_of_empty {entry : EpollEvent η} (empty : entry.events = 0) : turns entry = [] := by
  simp [turns, empty]

theorem data_of_mem_turns {entry : EpollEvent η} {turn : Int × η} (member : turn ∈ turns entry) :
    turn.2 = entry.data := by
  simp only [turns, List.mem_append, List.mem_ite_nil_right, List.mem_singleton] at member
  obtain ⟨_, rfl⟩ | ⟨_, rfl⟩ | ⟨_, rfl⟩ := member <;> rfl

theorem nodup_turns (entry : EpollEvent η) : (turns entry).Nodup := by
  rw [turns]
  split_ifs <;> simp [kNetPollerIn, kNetPollerOut, kNetPollerErr]

/-- With one entry for each handle, all turns are different. -/
theorem nodup_flatMap_turns {entries : List (EpollEvent η)}
    (distinct : (entries.map EpollEvent.data).Nodup) : (entries.flatMap turns).Nodup := by
  refine List.nodup_flatMap.mpr ⟨fun entry _ => nodup_turns entry, ?_⟩
  refine (List.pairwise_map.mp distinct).imp fun different turn first second => different ?_
  rw [← data_of_mem_turns first, data_of_mem_turns second]

/-! ## The bits of one entry -/

/-- What is cleared is gone. -/
theorem and_not_and_self (events bit : BitVec 32) : events &&& ~~~bit &&& bit = 0 := by
  rw [BitVec.and_assoc, BitVec.and_comm (~~~bit), BitVec.and_not_self]
  exact BitVec.and_zero

/-- Bits outside the mask are not cleared. -/
theorem and_not_and {mask bits : BitVec 32} (outside : ~~~mask &&& bits = bits)
    (events : BitVec 32) : events &&& ~~~mask &&& bits = events &&& bits := by
  rw [BitVec.and_assoc, outside]

/-- An entry without `IN` and `OUT` has another bit, if any. -/
theorem other_bits {events : BitVec 32} (some_events : events ≠ 0) (no_in : events &&& EPOLLIN = 0)
    (no_out : events &&& EPOLLOUT = 0) : events &&& ~~~(EPOLLIN ||| EPOLLOUT) ≠ 0 := by
  intro none_other
  refine some_events ?_
  calc events = events &&& (EPOLLIN ||| (EPOLLOUT ||| ~~~(EPOLLIN ||| EPOLLOUT))) := by
        rw [show EPOLLIN ||| (EPOLLOUT ||| ~~~(EPOLLIN ||| EPOLLOUT)) = BitVec.allOnes 32 by decide,
          BitVec.and_allOnes]
    _ = 0 := by
        rw [BitVec.and_or_distrib_left, BitVec.and_or_distrib_left, no_in, no_out, none_other]
        rfl

/-- `Event` takes the first turn of an entry. -/
theorem turns_of_turn {entry : EpollEvent η} (some_events : entry.events ≠ 0) :
    turns entry = (turn entry).1 :: (turn entry).2.flatMap turns := by
  by_cases is_in : entry.events &&& EPOLLIN = 0
  · by_cases is_out : entry.events &&& EPOLLOUT = 0
    · have other := other_bits some_events is_in is_out
      simpa [turns, turn, is_in, is_out] using other
    · have same_in := and_not_and (show ~~~EPOLLOUT &&& EPOLLIN = EPOLLIN by decide) entry.events
      have same_err := and_not_and (show ~~~EPOLLOUT &&& ~~~(EPOLLIN ||| EPOLLOUT) =
        ~~~(EPOLLIN ||| EPOLLOUT) by decide) entry.events
      simp only [turns, turn, is_in, is_out, ne_eq, not_true_eq_false, not_false_eq_true,
        if_true, if_false, List.flatMap_cons, List.flatMap_nil, same_in, same_err,
        and_not_and_self, List.nil_append, List.append_nil, List.singleton_append]
  · have same_out := and_not_and (show ~~~EPOLLIN &&& EPOLLOUT = EPOLLOUT by decide) entry.events
    have same_err := and_not_and (show ~~~EPOLLIN &&& ~~~(EPOLLIN ||| EPOLLOUT) =
      ~~~(EPOLLIN ||| EPOLLOUT) by decide) entry.events
    simp only [turns, turn, is_in, ne_eq, not_true_eq_false, not_false_eq_true,
      if_true, if_false, List.flatMap_cons, List.flatMap_nil, same_out, same_err,
      and_not_and_self, List.nil_append, List.append_nil, List.singleton_append]

/-- Clearing bits of the entries of a handle removes the turns of these bits. -/
theorem turns_clearBits [DecidableEq η] (hndl : η) {mask : BitVec 32} (gone : Int → Bool)
    (on_in : ∀ events : BitVec 32,
      events &&& ~~~mask &&& EPOLLIN = if gone kNetPollerIn then 0 else events &&& EPOLLIN)
    (on_out : ∀ events : BitVec 32,
      events &&& ~~~mask &&& EPOLLOUT = if gone kNetPollerOut then 0 else events &&& EPOLLOUT)
    (on_err : ∀ events : BitVec 32, events &&& ~~~mask &&& ~~~(EPOLLIN ||| EPOLLOUT) =
      if gone kNetPollerErr then 0 else events &&& ~~~(EPOLLIN ||| EPOLLOUT))
    (entry : EpollEvent η) :
    turns (clearBits hndl mask entry) =
      (turns entry).filter fun turn => !(gone turn.1 && decide (turn.2 = hndl)) := by
  rw [clearBits]
  split_ifs with same
  · have one : ∀ (kind : Int) (bits : BitVec 32),
        (if (if gone kind then 0 else bits) ≠ 0 then [(kind, entry.data)] else []) =
          (if bits ≠ 0 then [(kind, entry.data)] else []).filter
            fun turn => !(gone turn.1 && decide (turn.2 = hndl)) := by
      intro kind bits
      cases clear : gone kind with
      | true =>
          rw [if_pos rfl, if_neg (not_not.mpr rfl)]
          split_ifs <;> simp [clear, same]
      | false =>
          rw [if_neg Bool.false_ne_true]
          split_ifs <;> simp [clear]
    simp only [turns, on_in, on_out, on_err]
    rw [List.filter_append, List.filter_append, one, one, one]
  · refine (List.filter_eq_self.mpr fun turn member => ?_).symm
    rw [data_of_mem_turns member]
    simp [same]

theorem turns_clearBits_all [DecidableEq η] (hndl : η) (entry : EpollEvent η) :
    turns (clearBits hndl (BitVec.allOnes 32) entry) =
      (turns entry).filter fun turn => !(true && decide (turn.2 = hndl)) := by
  have nothing : ∀ events bits : BitVec 32, events &&& ~~~(BitVec.allOnes 32) &&& bits = 0 := by
    intro events bits
    rw [show ~~~(BitVec.allOnes 32) = 0#32 by decide, BitVec.and_zero, BitVec.zero_and]
    rfl
  exact turns_clearBits hndl (fun _ => true) (fun events => nothing events _)
    (fun events => nothing events _) (fun events => nothing events _) entry

theorem turns_clearBits_in [DecidableEq η] (hndl : η) (entry : EpollEvent η) :
    turns (clearBits hndl EPOLLIN entry) =
      (turns entry).filter fun turn => !(turn.1 == kNetPollerIn && decide (turn.2 = hndl)) :=
  turns_clearBits hndl (· == kNetPollerIn) (fun events => and_not_and_self events _)
    (fun events => and_not_and (by decide) events) (fun events => and_not_and (by decide) events)
    entry

theorem turns_clearBits_out [DecidableEq η] (hndl : η) (entry : EpollEvent η) :
    turns (clearBits hndl EPOLLOUT entry) =
      (turns entry).filter fun turn => !(turn.1 == kNetPollerOut && decide (turn.2 = hndl)) :=
  turns_clearBits hndl (· == kNetPollerOut) (fun events => and_not_and (by decide) events)
    (fun events => and_not_and_self events _) (fun events => and_not_and (by decide) events)
    entry

end NetPoller

namespace Polling

variable {η : Type} [DecidableEq η]

/-- An operation takes back a turn of the batch: by removing its handle, or by resetting its bit
where that is set. -/
def Invalidates (s : Polling η) : PollCall η → Int × η → Prop
  | .rm hndl, turn => turn.2 = hndl
  | .resetIn hndl, turn =>
      turn.1 = kNetPollerIn ∧ turn.2 = hndl ∧ (s.handle hndl).events &&& EPOLLIN ≠ 0
  | .resetOut hndl, turn =>
      turn.1 = kNetPollerOut ∧ turn.2 = hndl ∧ (s.handle hndl).events &&& EPOLLOUT ≠ 0
  | _, _ => False

instance (s : Polling η) (op : PollCall η) (turn : Int × η) :
    Decidable (s.Invalidates op turn) := by
  cases op <;> simp only [Invalidates] <;> infer_instance

/-- `Event` reports that the batch is used up. -/
def Exhausted (s : Polling η) : Prop := ∃ s', s.call .event = some (.ok (none, s'))

theorem returns_of_call {s s' : Polling η} {op : PollCall η} {returned : Option (Int × η)}
    (called : s.call op = some (.ok (returned, s'))) : s.returns op = returned.toList := by
  rw [returns, called]
  cases returned <;> rfl

/-- `Event` takes the first turn. -/
theorem pending_event {s : Polling η} (bounded : s.poller.Bounded) :
    ∃ returned s', s.call .event = some (.ok (returned, s')) ∧ s'.poller.Bounded ∧
      s.poller.pending = returned.toList ++ s'.poller.pending ∧
      (returned = none → s'.poller.pending = []) := by
  by_cases empty : ∀ entry ∈ s.poller.unread, entry.events = 0
  · obtain ⟨after, called, kept, unread, _⟩ := NetPoller.event_of_empty bounded empty
    have nothing : s.poller.pending = [] :=
      List.flatMap_eq_nil_iff.mpr fun entry member => NetPoller.turns_of_empty (empty entry member)
    have nothing_left : after.pending = [] := by
      rw [NetPoller.pending, unread]
      rfl
    exact ⟨none, ⟨after, s.handle⟩, by rw [call, called]; rfl, kept,
      by rw [nothing, nothing_left]; rfl, fun _ => nothing_left⟩
  · obtain ⟨passed, entry, rest, unread, before, found⟩ := NetPoller.exists_first_unread empty
    obtain ⟨after, called, kept, left, _⟩ := NetPoller.event_of_unread bounded unread before found
    have skipped : passed.flatMap NetPoller.turns = [] :=
      List.flatMap_eq_nil_iff.mpr fun other member =>
        NetPoller.turns_of_empty (before other member)
    refine ⟨some (NetPoller.turn entry).1, ⟨after, s.handle⟩, by rw [call, called]; rfl, kept, ?_,
      by rintro ⟨⟩⟩
    calc s.poller.pending
        = NetPoller.turns entry ++ rest.flatMap NetPoller.turns := by
          rw [NetPoller.pending, unread, List.flatMap_append, skipped, List.nil_append,
            List.flatMap_cons]
      _ = [(NetPoller.turn entry).1] ++ after.pending := by
          rw [NetPoller.turns_of_turn found, NetPoller.pending, left, List.flatMap_append]
          rfl

omit [DecidableEq η] in
/-- Clearing entries filters the turns. -/
theorem pending_of_map {before after : NetPoller η} {update : EpollEvent η → EpollEvent η}
    {keep : Int × η → Bool} (unread : after.unread = before.unread.map update)
    (turns : ∀ entry, NetPoller.turns (update entry) = (NetPoller.turns entry).filter keep) :
    after.pending = before.pending.filter keep := by
  rw [NetPoller.pending, NetPoller.pending, unread, List.flatMap_map, List.filter_flatMap]
  exact List.flatMap_congr fun entry _ => turns entry

/-- One operation while a batch is read. -/
theorem pending_step {s s' : Polling η} {op : PollCall η} (bounded : s.poller.Bounded)
    (reading : ∀ replies, op ≠ .wait replies) (stepped : system.step s op = some s') :
    s'.poller.Bounded ∧ s.returns op ++ s'.poller.pending =
      s.poller.pending.filter fun turn => ¬s.Invalidates op turn := by
  obtain ⟨returned, called⟩ := system_step.mp stepped
  rw [returns_of_call called]
  have all : s.poller.pending = s.poller.pending.filter fun _ => ¬False := by simp
  have of_set : ∀ bit hndl, (s.poller.setBit bit hndl (s.handle hndl)).2.Bounded ∧
      (s.poller.setBit bit hndl (s.handle hndl)).2.unread = s.poller.unread := by
    intro bit hndl
    rw [NetPoller.setBit]
    split_ifs
    · exact ⟨bounded, rfl⟩
    · exact bounded.ctlMod _ _
  cases op with
  | wait replies => exact absurd rfl (reading replies)
  | event =>
      obtain ⟨other, after, found, kept, pending, _⟩ := pending_event bounded
      cases called.symm.trans found
      exact ⟨kept, pending.symm.trans all⟩
  | add isOpen fd hndl =>
      cases called
      obtain ⟨kept, unread⟩ := bounded.ctlAdd isOpen fd ⟨0, hndl⟩
      exact ⟨kept, (congrArg (List.flatMap NetPoller.turns) unread).trans all⟩
  | rm hndl =>
      obtain ⟨after, removes, kept, unread, _⟩ :=
        NetPoller.rm_of_bounded bounded hndl (s.handle hndl)
      rw [call, removes] at called
      cases called
      refine ⟨kept, (pending_of_map unread (NetPoller.turns_clearBits_all hndl)).trans ?_⟩
      refine List.filter_congr fun turn _ => Bool.eq_iff_iff.mpr ?_
      rw [decide_eq_true_iff, Bool.true_and, Bool.not_eq_true', decide_eq_false_iff_not]
      rfl
  | setIn hndl =>
      cases called
      obtain ⟨kept, unread⟩ := of_set EPOLLIN hndl
      exact ⟨kept, (congrArg (List.flatMap NetPoller.turns) unread).trans all⟩
  | setOut hndl =>
      cases called
      obtain ⟨kept, unread⟩ := of_set EPOLLOUT hndl
      exact ⟨kept, (congrArg (List.flatMap NetPoller.turns) unread).trans all⟩
  | resetIn hndl =>
      rw [call, NetPoller.resetIn] at called
      by_cases set : (s.handle hndl).events &&& EPOLLIN = 0
      · rw [NetPoller.resetBit_of_unset hndl set] at called
        cases called
        refine ⟨bounded, all.trans ?_⟩
        refine List.filter_congr fun turn _ => Bool.eq_iff_iff.mpr ?_
        simp [Invalidates, set]
      · obtain ⟨after, resets, kept, unread, _⟩ :=
          NetPoller.resetBit_of_bounded bounded hndl set
        rw [resets] at called
        cases called
        refine ⟨kept, (pending_of_map unread (NetPoller.turns_clearBits_in hndl)).trans ?_⟩
        refine List.filter_congr fun turn _ => Bool.eq_iff_iff.mpr ?_
        rw [decide_eq_true_iff, Bool.not_eq_true', ← Bool.not_eq_true, Bool.and_eq_true,
          decide_eq_true_iff, beq_iff_eq, not_iff_not]
        constructor
        · rintro ⟨kind, same⟩
          exact ⟨kind, same, set⟩
        · rintro ⟨kind, same, _⟩
          exact ⟨kind, same⟩
  | resetOut hndl =>
      rw [call, NetPoller.resetOut] at called
      by_cases set : (s.handle hndl).events &&& EPOLLOUT = 0
      · rw [NetPoller.resetBit_of_unset hndl set] at called
        cases called
        refine ⟨bounded, all.trans ?_⟩
        refine List.filter_congr fun turn _ => Bool.eq_iff_iff.mpr ?_
        simp [Invalidates, set]
      · obtain ⟨after, resets, kept, unread, _⟩ :=
          NetPoller.resetBit_of_bounded bounded hndl set
        rw [resets] at called
        cases called
        refine ⟨kept, (pending_of_map unread (NetPoller.turns_clearBits_out hndl)).trans ?_⟩
        refine List.filter_congr fun turn _ => Bool.eq_iff_iff.mpr ?_
        rw [decide_eq_true_iff, Bool.not_eq_true', ← Bool.not_eq_true, Bool.and_eq_true,
          decide_eq_true_iff, beq_iff_eq, not_iff_not]
        constructor
        · rintro ⟨kind, same⟩
          exact ⟨kind, same, set⟩
        · rintro ⟨kind, same, _⟩
          exact ⟨kind, same⟩

/-! ## Reading to the end -/

/-- A turn is taken back before it is returned. -/
def TakenBack (turn : Int × η) : Polling η → List (PollCall η) → Prop
  | _, [] => False
  | s, op :: ops =>
      s.Invalidates op turn ∨
        (turn ∉ s.returns op ∧ ∃ s', system.step s op = some s' ∧ TakenBack turn s' ops)

/-- A call of `Event`. -/
def isEvent : PollCall η → Bool
  | .event => true
  | _ => false

/-- What has been returned and what is left are the turns that have not been taken back. -/
theorem pending_run {s s' : Polling η} {ops : List (PollCall η)} (bounded : s.poller.Bounded)
    (distinct : s.poller.pending.Nodup) (reading : ∀ op ∈ ops, ∀ replies, op ≠ .wait replies)
    (execution : system.run s ops = some s') :
    s'.poller.Bounded ∧
      (system.observed returns s ops ++ s'.poller.pending).Sublist s.poller.pending ∧
      ∀ turn ∈ s.poller.pending,
        turn ∈ system.observed returns s ops ++ s'.poller.pending ↔ ¬TakenBack turn s ops := by
  induction ops generalizing s with
  | nil =>
      cases execution
      exact ⟨bounded, List.Sublist.refl _, fun turn member => iff_of_true member not_false⟩
  | cons op ops ih =>
      rw [List.forall_mem_cons] at reading
      obtain ⟨middle, stepped, remaining⟩ := StepSystem.run_cons_eq_some.mp execution
      obtain ⟨kept, filtered⟩ := pending_step bounded reading.1 stepped
      have first : (s.returns op ++ middle.poller.pending).Sublist s.poller.pending := by
        rw [filtered]
        exact List.filter_sublist
      have middle_distinct := ((List.sublist_append_right _ _).trans first).nodup distinct
      obtain ⟨final_kept, rest, iff⟩ := ih kept middle_distinct reading.2 remaining
      rw [StepSystem.observed_cons ops stepped, List.append_assoc]
      refine ⟨final_kept, (rest.append_left _).trans first, fun turn member => ?_⟩
      have stays : turn ∈ s.returns op ++ middle.poller.pending ↔ ¬s.Invalidates op turn := by
        rw [filtered, List.mem_filter, decide_eq_true_iff]
        exact and_iff_right member
      constructor
      · rintro found (invalid | ⟨unread, other, again, taken⟩)
        · have gone := mt stays.mp (not_not.mpr invalid)
          exact gone ((rest.append_left _).subset found)
        · cases stepped.symm.trans again
          have later := (List.mem_append.mp found).resolve_left unread
          exact (iff turn (rest.subset later)).mp later taken
      · intro safe
        have valid : ¬s.Invalidates op turn := fun invalid => safe (.inl invalid)
        by_cases now : turn ∈ s.returns op
        · exact List.mem_append_left _ now
        · have later := (List.mem_append.mp (stays.mpr valid)).resolve_left now
          refine List.mem_append_right _ ((iff turn later).mpr fun taken => safe (.inr ?_))
          exact ⟨now, middle, stepped, taken⟩

/-- More calls of `Event` than there are turns find the batch used up. -/
theorem exhausted_of_many {s s' : Polling η} {ops : List (PollCall η)} (bounded : s.poller.Bounded)
    (reading : ∀ op ∈ ops, ∀ replies, op ≠ .wait replies)
    (execution : system.run s ops = some s')
    (many : s.poller.pending.length < ops.countP isEvent) :
    ∃ earlier middle, earlier ++ [.event] <+: ops ∧ system.run s earlier = some middle ∧
      middle.Exhausted := by
  induction ops generalizing s with
  | nil => simp at many
  | cons op ops ih =>
      rw [List.forall_mem_cons] at reading
      obtain ⟨middle, stepped, remaining⟩ := StepSystem.run_cons_eq_some.mp execution
      obtain ⟨kept, filtered⟩ := pending_step bounded reading.1 stepped
      have fewer : (s.returns op).length + middle.poller.pending.length ≤
          s.poller.pending.length := by
        rw [← List.length_append, filtered]
        exact List.length_filter_le _ _
      have go_on : middle.poller.pending.length < ops.countP isEvent →
          ∃ earlier last, earlier ++ [.event] <+: op :: ops ∧ system.run s earlier = some last ∧
            last.Exhausted := by
        intro more
        obtain ⟨earlier, last, front, leads, exhausted⟩ := ih kept reading.2 remaining more
        exact ⟨op :: earlier, last, (List.prefix_cons_inj op).mpr front,
          StepSystem.run_cons_eq_some.mpr ⟨middle, stepped, leads⟩, exhausted⟩
      rw [List.countP_cons] at many
      cases op with
      | event =>
          obtain ⟨returned, after, called, _⟩ := pending_event bounded
          cases returned with
          | none => exact ⟨[], s, by simp, rfl, after, called⟩
          | some turn =>
              rw [returns_of_call called] at fewer
              refine go_on ?_
              simp [isEvent] at many fewer
              omega
      | _ =>
          refine go_on ?_
          simp [isEvent] at many
          omega

/-- The batch of a successful `Wait` is read in order, each turn at most once, and once `Event`
reports the end, the turns returned are those not taken back before. -/
theorem batch_delivered {s stored s' : Polling η} {replies : List (WaitReply η)}
    {entries : List (EpollEvent η)} {ops : List (PollCall η)}
    (length : s.poller.events.length = kNetPollerMaxEvents)
    (fits : entries.length ≤ kNetPollerMaxEvents)
    (distinct : (entries.map EpollEvent.data).Nodup)
    (waited : NetPoller.epollWait replies = some ((entries.length : Int), entries))
    (stores : system.step s (.wait replies) = some stored)
    (reading : ∀ op ∈ ops, ∀ replies, op ≠ .wait replies)
    (execution : system.run stored ops = some s') :
    (system.observed returns stored ops).Sublist (entries.flatMap NetPoller.turns) ∧
      (system.observed returns stored ops).Nodup ∧
      (s'.Exhausted → ∀ turn, turn ∈ system.observed returns stored ops ↔
        turn ∈ entries.flatMap NetPoller.turns ∧ ¬TakenBack turn stored ops) ∧
      ((entries.flatMap NetPoller.turns).length < ops.countP isEvent →
        ∃ earlier middle, earlier ++ [.event] <+: ops ∧ system.run stored earlier = some middle ∧
          middle.Exhausted) ∧
      ∀ op, (∀ replies, op ≠ .wait replies) → ∃ after, system.step s' op = some after := by
  obtain ⟨after, waits, bounded, unread, _⟩ := NetPoller.wait_of_ready length fits waited
  obtain ⟨returned, called⟩ := system_step.mp stores
  rw [call, waits] at called
  cases called
  have all : NetPoller.pending after = entries.flatMap NetPoller.turns := by
    rw [NetPoller.pending, unread]
  have turns_distinct := NetPoller.nodup_flatMap_turns distinct
  have many := exhausted_of_many bounded reading execution
  have run := pending_run bounded (all ▸ turns_distinct) reading execution
  rw [all] at many run
  obtain ⟨kept, sublist, iff⟩ := run
  have returned := (List.sublist_append_left _ _).trans sublist
  refine ⟨returned, returned.nodup turns_distinct, ?_, many, ?_⟩
  · rintro ⟨last, ends⟩ turn
    obtain ⟨other, again, found, _, pending, nothing⟩ := pending_event kept
    cases ends.symm.trans found
    rw [pending, nothing rfl, Option.toList_none, List.append_nil, List.append_nil] at iff
    constructor
    · intro member
      exact ⟨returned.subset member, (iff turn (returned.subset member)).mp member⟩
    · rintro ⟨member, stays⟩
      exact (iff turn member).mpr stays
  · intro op not_wait
    obtain ⟨other, last, called, _⟩ := call_of_bounded kept not_wait
    exact ⟨last, system_step.mpr ⟨other, called⟩⟩

instance (s : Polling η) : Decidable s.Exhausted :=
  match ends : s.call .event with
  | none => isFalse fun ⟨_, again⟩ => nomatch ends.symm.trans again
  | some (.error _) => isFalse fun ⟨_, again⟩ => nomatch ends.symm.trans again
  | some (.ok (some _, _)) => isFalse fun ⟨_, again⟩ => nomatch ends.symm.trans again
  | some (.ok (none, s')) => isTrue ⟨s', ends⟩

/-- Two handles that are registered for `IN` and `OUT`. -/
def twoHandles : Polling Bool where
  poller :=
    { nevents := 0, index := 0, events := List.replicate kNetPollerMaxEvents ⟨0, false⟩,
      interest := Function.update
        (Function.update (fun _ => none) 3 (some ⟨EPOLLIN ||| EPOLLOUT, false⟩))
        4 (some ⟨EPOLLIN ||| EPOLLOUT, true⟩) }
  handle hndl := ⟨if hndl then 4 else 3, EPOLLIN ||| EPOLLOUT⟩

/-- After the first event of a handle its `OUT` bit is reset, and the other handle is removed in the
middle of its entry. -/
theorem batch_delivered_two_handles :
    ∃ stored s',
      system.step twoHandles
          (.wait [.ready [⟨EPOLLIN ||| EPOLLOUT, false⟩, ⟨EPOLLIN ||| EPOLLOUT ||| 8, true⟩]]) =
        some stored ∧
      system.run stored [.event, .resetOut false, .event, .rm true, .event] = some s' ∧
      ∀ turn, turn ∈ system.observed returns stored
          [.event, .resetOut false, .event, .rm true, .event] ↔
        turn ∈ [⟨EPOLLIN ||| EPOLLOUT, false⟩, ⟨EPOLLIN ||| EPOLLOUT ||| 8, true⟩].flatMap
          NetPoller.turns ∧
        ¬TakenBack turn stored [.event, .resetOut false, .event, .rm true, .event] := by
  have computed : ((system.step twoHandles (.wait [.ready [⟨EPOLLIN ||| EPOLLOUT, false⟩,
      ⟨EPOLLIN ||| EPOLLOUT ||| 8, true⟩]])).bind fun stored => system.run stored
        [.event, .resetOut false, .event, .rm true, .event]).any
          (fun s' => s'.Exhausted) = true := by
    decide +kernel
  obtain ⟨s', found, exhausted⟩ := (Option.any_eq_true _ _).mp computed
  obtain ⟨stored, stores, execution⟩ := Option.bind_eq_some_iff.mp found
  exact ⟨stored, s', stores, execution,
    (batch_delivered rfl (by decide) (by decide) rfl stores (by simp) execution).2.2.1
      (of_decide_eq_true exhausted)⟩

end Polling
end Klibmsg
