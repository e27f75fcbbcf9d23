import Klibmsg.Poller.Reading

/-!
# Interest masks

A handle, the kernel's interest list and the unread batch each carry a copy of the mask of a handle.
The early returns of the setters rest on their agreement, and so does the promise that an event
which has been reset does not come again.
-/

namespace Klibmsg

namespace NetPoller

variable {η : Type}

/-- The array can be read: either the batch is inside it, or the last `epoll_wait` has failed and
left no batch. -/
def Readable (poller : NetPoller η) : Prop :=
  poller.Bounded ∨ (poller.nevents < 0 ∧ poller.events.length = kNetPollerMaxEvents)

theorem Readable.length {poller : NetPoller η} (readable : poller.Readable) :
    poller.events.length = kNetPollerMaxEvents := by
  obtain bounded | ⟨_, length⟩ := readable
  · exact bounded.events
  · exact length

theorem unread_of_failed {poller : NetPoller η} (failed : poller.nevents < 0) :
    poller.unread = [] := by
  rw [unread, Int.toNat_of_nonpos failed.le, List.take_zero, List.drop_nil]

/-- Bits of the unread entries are only ever cleared. -/
def Fades (before after : NetPoller η) : Prop :=
  ∀ left ∈ after.unread, ∃ entry ∈ before.unread, left.data = entry.data ∧
    ∀ bits : BitVec 32, entry.events &&& bits = 0 → left.events &&& bits = 0

theorem fades_of_eq {before after : NetPoller η} (same : after.unread = before.unread) :
    Fades before after := fun left member => ⟨left, same ▸ member, rfl, fun _ => id⟩

theorem and_not_of_zero {events bits : BitVec 32} (zero : events &&& bits = 0)
    (mask : BitVec 32) : events &&& ~~~mask &&& bits = 0 := by
  rw [BitVec.and_assoc, BitVec.and_comm (~~~mask), ← BitVec.and_assoc, zero]
  exact BitVec.zero_and

theorem fades_clearBits [DecidableEq η] {before after : NetPoller η} {hndl : η} {mask : BitVec 32}
    (cleared : after.unread = before.unread.map (clearBits hndl mask)) : Fades before after := by
  intro left member
  rw [cleared] at member
  obtain ⟨entry, unread, rfl⟩ := List.mem_map.mp member
  refine ⟨entry, unread, ?_⟩
  rw [clearBits]
  split_ifs
  · exact ⟨rfl, fun _ zero => and_not_of_zero zero mask⟩
  · exact ⟨rfl, fun _ => id⟩

theorem zero_of_clearBits [DecidableEq η] {before after : NetPoller η} {hndl : η}
    {mask : BitVec 32} (cleared : after.unread = before.unread.map (clearBits hndl mask))
    {left : EpollEvent η} (member : left ∈ after.unread) (own : left.data = hndl) :
    left.events &&& mask = 0 := by
  rw [cleared] at member
  obtain ⟨entry, _, rfl⟩ := List.mem_map.mp member
  by_cases same : entry.data = hndl
  · rw [clearBits, if_pos same]
    exact and_not_and_self entry.events mask
  · rw [clearBits, if_neg same] at own
    exact absurd own same

/-! ## The operations on a readable array -/

theorem readable_ctlAdd {poller : NetPoller η} (readable : poller.Readable) (isOpen : Bool)
    (fd : Fd) (event : EpollEvent η) :
    (poller.ctlAdd isOpen fd event).Readable ∧
      (poller.ctlAdd isOpen fd event).unread = poller.unread := by
  obtain bounded | ⟨failed, length⟩ := readable
  · obtain ⟨kept, same⟩ := bounded.ctlAdd isOpen fd event
    exact ⟨.inl kept, same⟩
  · obtain ⟨nevents, events⟩ := batch_ctlAdd poller isOpen fd event
    have still : (poller.ctlAdd isOpen fd event).nevents < 0 := nevents ▸ failed
    exact ⟨.inr ⟨still, events ▸ length⟩,
      (unread_of_failed still).trans (unread_of_failed failed).symm⟩

theorem readable_ctlMod {poller : NetPoller η} (readable : poller.Readable) (fd : Fd)
    (event : EpollEvent η) :
    (poller.ctlMod fd event).Readable ∧ (poller.ctlMod fd event).unread = poller.unread := by
  obtain bounded | ⟨failed, length⟩ := readable
  · obtain ⟨kept, same⟩ := bounded.ctlMod fd event
    exact ⟨.inl kept, same⟩
  · obtain ⟨nevents, events⟩ := batch_ctlMod poller fd event
    have still : (poller.ctlMod fd event).nevents < 0 := nevents ▸ failed
    exact ⟨.inr ⟨still, events ▸ length⟩,
      (unread_of_failed still).trans (unread_of_failed failed).symm⟩

theorem readable_rm [DecidableEq η] {poller after : NetPoller η} {hndl : η}
    {handle : NetPollerHandle} (readable : poller.Readable)
    (removed : poller.rm hndl handle = .ok after) :
    after.Readable ∧
      after.unread = poller.unread.map (clearBits hndl (BitVec.allOnes 32)) := by
  obtain bounded | ⟨failed, length⟩ := readable
  · obtain ⟨other, again, kept, unread, _⟩ := rm_of_bounded bounded hndl handle
    cases removed.symm.trans again
    exact ⟨.inl kept, unread⟩
  · have tame := tame_rm (fun _ => true) removed
    have still : after.nevents < 0 := tame.nevents ▸ failed
    refine ⟨.inr ⟨still, tame.length.trans length⟩, ?_⟩
    rw [unread_of_failed still, unread_of_failed failed, List.map_nil]

theorem readable_resetBit [DecidableEq η] {poller : NetPoller η} {bit : BitVec 32} {hndl : η}
    {handle : NetPollerHandle} {result : NetPollerHandle × NetPoller η}
    (readable : poller.Readable) (set : handle.events &&& bit ≠ 0)
    (reset : poller.resetBit bit hndl handle = .ok result) :
    result.1 = { handle with events := handle.events &&& ~~~bit } ∧ result.2.Readable ∧
      result.2.unread = poller.unread.map (clearBits hndl bit) ∧
      result.2.interest =
        (poller.ctlMod handle.fd ⟨handle.events &&& ~~~bit, hndl⟩).interest := by
  obtain bounded | ⟨failed, length⟩ := readable
  · obtain ⟨other, again, kept, unread, interest⟩ := resetBit_of_bounded bounded hndl set
    cases reset.symm.trans again
    exact ⟨rfl, .inl kept, unread, interest⟩
  · have tame := tame_resetBit (fun _ => true) reset
    have still : result.2.nevents < 0 := tame.nevents ▸ failed
    rw [resetBit, if_neg set] at reset
    dsimp only at reset
    generalize stores : NetPoller.storeTail _ _ = stored at reset
    cases stored with
    | error fault => cases reset
    | ok after =>
        cases reset
        refine ⟨rfl, .inr ⟨still, tame.length.trans length⟩, ?_, interest_storeTail stores⟩
        rw [unread_of_failed still, unread_of_failed failed, List.map_nil]

theorem readable_event {poller after : NetPoller η} {returned : Option (Int × η)}
    (readable : poller.Readable) (called : poller.event = .ok (returned, after)) :
    after.Readable ∧ after.interest = poller.interest ∧ Fades poller after ∧
      ∀ turn, returned = some turn → turn ∈ poller.pending := by
  obtain bounded | ⟨failed, length⟩ := readable
  · by_cases empty : ∀ entry ∈ poller.unread, entry.events = 0
    · obtain ⟨other, again, kept, unread, interest⟩ := event_of_empty bounded empty
      cases called.symm.trans again
      refine ⟨.inl kept, interest, ?_, by rintro _ ⟨⟩⟩
      intro left member
      rw [unread] at member
      cases member
    · obtain ⟨passed, entry, rest, unread, before, found⟩ := exists_first_unread empty
      obtain ⟨other, again, kept, left, interest⟩ := event_of_unread bounded unread before found
      cases called.symm.trans again
      refine ⟨.inl kept, interest, ?_, ?_⟩
      · intro left_entry member
        rw [left, List.mem_append] at member
        obtain own | later := member
        · refine ⟨entry, by rw [unread]; simp, ?_⟩
          rw [turn] at own
          split_ifs at own
          · cases List.mem_singleton.mp own
            exact ⟨rfl, fun _ zero => and_not_of_zero zero _⟩
          · cases List.mem_singleton.mp own
            exact ⟨rfl, fun _ zero => and_not_of_zero zero _⟩
          · cases own
        · exact ⟨left_entry, by rw [unread]; simp [later], rfl, fun _ => id⟩
      · intro taken same
        cases same
        rw [pending, unread, List.flatMap_append, List.flatMap_cons, turns_of_turn found]
        simp
  · have past : ¬(poller.index : Int) < poller.nevents := by omega
    have found : seek poller.nevents poller.index (poller.events.drop poller.index) =
        some poller.index := by
      rw [seek.eq_def]
      exact if_neg past
    rw [event, found] at called
    dsimp only at called
    rw [if_pos (not_lt.mp past)] at called
    cases called
    exact ⟨.inr ⟨failed, length⟩, rfl, fades_of_eq rfl, by rintro _ ⟨⟩⟩

/-- The batch after `Wait` is one of those that `epoll_wait` has returned. -/
theorem readable_wait {poller after : NetPoller η} {replies : List (WaitReply η)}
    (readable : poller.Readable)
    (fits : ∀ entries, .ready entries ∈ replies → entries.length ≤ kNetPollerMaxEvents)
    (waited : poller.wait replies = some (.ok after)) :
    after.Readable ∧ after.interest = poller.interest ∧
      ∀ entry ∈ after.unread, ∃ entries, .ready entries ∈ replies ∧ entry ∈ entries := by
  by_cases interrupted : onlyInterrupted replies
  · cases returns : epollWait replies with
    | none =>
        rw [wait, returns] at waited
        cases waited
    | some result =>
        obtain ⟨nevents, entries⟩ := result
        obtain ⟨member, rfl⟩ := epollWait_of_onlyInterrupted interrupted returns
        obtain ⟨other, same, kept, unread, interest⟩ :=
          wait_of_ready readable.length (fits entries member) returns
        cases waited.symm.trans same
        exact ⟨.inl kept, interest, fun entry unread_entry =>
          ⟨entries, member, unread ▸ unread_entry⟩⟩
  · rw [wait, epollWait_of_failure interrupted] at waited
    cases waited
    have negative : (-1 : Int) < 0 := by decide
    refine ⟨.inr ⟨negative, readable.length⟩, rfl, ?_⟩
    rw [unread_of_failed negative]
    rintro _ ⟨⟩

end NetPoller

namespace Polling

variable {η : Type} [DecidableEq η]

/-- The handle has been added and not removed. -/
def Registered (s : Polling η) (hndl : η) : Prop :=
  ∃ fd events, s.poller.interest fd = some ⟨events, hndl⟩

/-- The bits that belong to a mask. -/
def InterestBit (bit : BitVec 32) : Prop := bit = EPOLLIN ∨ bit = EPOLLOUT

/-- Legal operations: `epoll_ctl` succeeds, and `epoll_wait` reports for a handle only bits of its
mask, besides errors. -/
def Legal (s : Polling η) : PollCall η → Prop
  | .wait replies => ∀ entries, .ready entries ∈ replies →
      entries.length ≤ kNetPollerMaxEvents ∧
        ∀ entry ∈ entries, ∃ fd mask, s.poller.interest fd = some ⟨mask, entry.data⟩ ∧
          ∀ bit, InterestBit bit → entry.events &&& bit ≠ 0 → mask &&& bit ≠ 0
  | .event => True
  | .add isOpen fd hndl =>
      isOpen = true ∧ s.poller.interest fd = none ∧ ¬s.Registered hndl
  | .rm hndl => s.Registered hndl
  | .setIn hndl => s.Registered hndl
  | .resetIn hndl => s.Registered hndl
  | .setOut hndl => s.Registered hndl
  | .resetOut hndl => s.Registered hndl

/-- The three copies of the masks agree. -/
structure Agrees (s : Polling η) : Prop where
  /-- The mask of the handle is the one in the kernel. -/
  kernel : ∀ fd event, s.poller.interest fd = some event →
    s.handle event.data = ⟨fd, event.events⟩
  /-- Unread entries are those of registered handles. -/
  registered : ∀ entry ∈ s.poller.unread, entry.events ≠ 0 → s.Registered entry.data
  /-- Unread bits are in the mask of the handle. -/
  unread : ∀ entry ∈ s.poller.unread, ∀ bit, InterestBit bit → entry.events &&& bit ≠ 0 →
    (s.handle entry.data).events &&& bit ≠ 0

omit [DecidableEq η] in
theorem fades_ne_zero {before after : NetPoller η} (fades : NetPoller.Fades before after)
    {left : EpollEvent η} (member : left ∈ after.unread) :
    ∃ entry ∈ before.unread, left.data = entry.data ∧ (left.events ≠ 0 → entry.events ≠ 0) ∧
      ∀ bit, left.events &&& bit ≠ 0 → entry.events &&& bit ≠ 0 := by
  obtain ⟨entry, unread, same, clears⟩ := fades left member
  refine ⟨entry, unread, same, fun some_events zero => some_events ?_, fun bit => mt (clears bit)⟩
  have cleared := clears (BitVec.allOnes 32) (by rw [BitVec.and_allOnes, zero])
  rwa [BitVec.and_allOnes] at cleared

omit [DecidableEq η] in
/-- A registered handle has one registration. -/
theorem Agrees.registration {s : Polling η} (agrees : s.Agrees) {hndl : η}
    (registered : s.Registered hndl) :
    s.poller.interest (s.handle hndl).fd = some ⟨(s.handle hndl).events, hndl⟩ := by
  obtain ⟨fd, events, found⟩ := registered
  have same := agrees.kernel fd _ found
  rw [same]
  exact found

omit [DecidableEq η] in
/-- An operation that touches neither handles nor the interest list. -/
theorem Agrees.of_fades {s : Polling η} (agrees : s.Agrees) {after : NetPoller η}
    (interest : after.interest = s.poller.interest) (fades : NetPoller.Fades s.poller after) :
    Agrees ⟨after, s.handle⟩ := by
  refine ⟨fun fd event found => agrees.kernel fd event (interest ▸ found), ?_, ?_⟩
  · intro left member some_events
    obtain ⟨entry, unread, same, some_left, _⟩ := fades_ne_zero fades member
    obtain ⟨fd, mask, found⟩ := agrees.registered entry unread (some_left some_events)
    refine ⟨fd, mask, ?_⟩
    rw [same]
    exact interest ▸ found
  · intro left member bit is_bit set
    obtain ⟨entry, unread, same, _, left_set⟩ := fades_ne_zero fades member
    change (s.handle left.data).events &&& bit ≠ 0
    rw [same]
    exact agrees.unread entry unread bit is_bit (left_set bit set)

/-- `EPOLL_CTL_MOD` of a registered handle. -/
theorem Agrees.modify {s : Polling η} (agrees : s.Agrees) {hndl : η}
    (registered : s.Registered hndl) {mask : BitVec 32} {after : NetPoller η}
    (interest : after.interest = (s.poller.ctlMod (s.handle hndl).fd ⟨mask, hndl⟩).interest)
    (fades : NetPoller.Fades s.poller after)
    (own : ∀ left ∈ after.unread, left.data = hndl → ∀ bit, InterestBit bit →
      left.events &&& bit ≠ 0 → mask &&& bit ≠ 0) :
    Agrees (s.store hndl (⟨(s.handle hndl).fd, mask⟩, after)) := by
  have here := agrees.registration registered
  have updated : after.interest =
      Function.update s.poller.interest (s.handle hndl).fd (some ⟨mask, hndl⟩) := by
    rw [interest, NetPoller.ctlMod, here]
  refine ⟨?_, ?_, ?_⟩
  · intro fd event found
    change after.interest fd = some event at found
    change Function.update s.handle hndl _ event.data = _
    rw [updated] at found
    by_cases same : fd = (s.handle hndl).fd
    · subst same
      rw [Function.update_self] at found
      cases found
      rw [Function.update_self]
    · rw [Function.update_of_ne same] at found
      have kernel := agrees.kernel fd event found
      have different : event.data ≠ hndl := by
        rintro rfl
        rw [kernel] at same
        exact same rfl
      rw [Function.update_of_ne different, kernel]
  · intro left member some_events
    obtain ⟨entry, unread, same, some_left, _⟩ := fades_ne_zero fades member
    have before := agrees.registration (agrees.registered entry unread (some_left some_events))
    rw [← same] at before
    by_cases is_own : left.data = hndl
    · refine ⟨(s.handle hndl).fd, mask, ?_⟩
      change after.interest _ = _
      rw [updated, Function.update_self, is_own]
    · refine ⟨(s.handle left.data).fd, (s.handle left.data).events, ?_⟩
      change after.interest _ = _
      rw [updated, Function.update_of_ne ?_, before]
      intro equal
      rw [equal, here] at before
      exact is_own (congrArg EpollEvent.data (Option.some.inj before)).symm
  · intro left member bit is_bit set
    change (Function.update s.handle hndl _ left.data).events &&& bit ≠ 0
    by_cases is_own : left.data = hndl
    · rw [is_own, Function.update_self]
      exact own left member is_own bit is_bit set
    · obtain ⟨entry, unread, same, _, left_set⟩ := fades_ne_zero fades member
      rw [Function.update_of_ne is_own, same]
      exact agrees.unread entry unread bit is_bit (left_set bit set)

/-- `Add` of a handle that is not registered. -/
theorem Agrees.add {s : Polling η} (agrees : s.Agrees) {hndl : η} {fd : Fd}
    (absent : s.poller.interest fd = none) (fresh : ¬s.Registered hndl) {after : NetPoller η}
    (interest : after.interest = Function.update s.poller.interest fd (some ⟨0, hndl⟩))
    (unread : after.unread = s.poller.unread) : Agrees (s.store hndl (⟨fd, 0⟩, after)) := by
  have others : ∀ other, s.Registered other → other ≠ hndl := by
    rintro other registered rfl
    exact fresh registered
  refine ⟨?_, ?_, ?_⟩
  · intro other event found
    change after.interest other = some event at found
    change Function.update s.handle hndl _ event.data = _
    rw [interest] at found
    by_cases same : other = fd
    · subst same
      rw [Function.update_self] at found
      cases found
      rw [Function.update_self]
    · rw [Function.update_of_ne same] at found
      rw [Function.update_of_ne (others _ ⟨other, event.events, found⟩)]
      exact agrees.kernel other event found
  · intro entry member some_events
    obtain ⟨other, mask, found⟩ :=
      agrees.registered entry (unread ▸ member) some_events
    refine ⟨other, mask, ?_⟩
    change after.interest other = _
    have different : other ≠ fd := by
      rintro rfl
      rw [absent] at found
      cases found
    rw [interest, Function.update_of_ne different, found]
  · intro entry member bit is_bit set
    have before : entry ∈ s.poller.unread := unread ▸ member
    have some_events : entry.events ≠ 0 := fun zero => set (by rw [zero]; exact BitVec.zero_and)
    change (Function.update s.handle hndl _ entry.data).events &&& bit ≠ 0
    rw [Function.update_of_ne (others _ (agrees.registered entry before some_events))]
    exact agrees.unread entry before bit is_bit set

/-- `Rm` of a registered handle. -/
theorem Agrees.rm {s : Polling η} (agrees : s.Agrees) {hndl : η} (registered : s.Registered hndl)
    {after : NetPoller η}
    (interest : after.interest = Function.update s.poller.interest (s.handle hndl).fd none)
    (cleared : after.unread =
      s.poller.unread.map (NetPoller.clearBits hndl (BitVec.allOnes 32))) :
    Agrees ⟨after, s.handle⟩ := by
  have here := agrees.registration registered
  have fades := NetPoller.fades_clearBits cleared
  have gone : ∀ left ∈ after.unread, left.data = hndl → left.events = 0 := by
    intro left member own
    have zero := NetPoller.zero_of_clearBits cleared member own
    rwa [BitVec.and_allOnes] at zero
  refine ⟨?_, ?_, ?_⟩
  · intro fd event found
    change after.interest fd = some event at found
    rw [interest] at found
    by_cases same : fd = (s.handle hndl).fd
    · subst same
      rw [Function.update_self] at found
      cases found
    · rw [Function.update_of_ne same] at found
      exact agrees.kernel fd event found
  · intro left member some_events
    obtain ⟨entry, unread, same, some_left, _⟩ := fades_ne_zero fades member
    have before := agrees.registration (agrees.registered entry unread (some_left some_events))
    rw [← same] at before
    refine ⟨(s.handle left.data).fd, (s.handle left.data).events, ?_⟩
    change after.interest _ = _
    rw [interest, Function.update_of_ne ?_, before]
    intro equal
    rw [equal, here] at before
    exact some_events (gone left member (congrArg EpollEvent.data (Option.some.inj before)).symm)
  · intro left member bit is_bit set
    obtain ⟨entry, unread, same, _, left_set⟩ := fades_ne_zero fades member
    change (s.handle left.data).events &&& bit ≠ 0
    rw [same]
    exact agrees.unread entry unread bit is_bit (left_set bit set)

/-- The bits of a mask survive a set, and those other than the bit survive a reset. -/
theorem setBit_keeps {mask bit : BitVec 32} (added : BitVec 32) (set : mask &&& bit ≠ 0) :
    (mask ||| added) &&& bit ≠ 0 := by
  intro zero
  refine set ?_
  rw [BitVec.and_comm, BitVec.and_or_distrib_left] at zero
  rw [BitVec.and_comm]
  exact (BitVec.or_eq_zero_iff.mp zero).1

theorem resetBit_keeps {mask bit reset events : BitVec 32} (is_bit : InterestBit bit)
    (is_reset : InterestBit reset) (set : mask &&& bit ≠ 0) (left : events &&& bit ≠ 0)
    (cleared : events &&& reset = 0) : mask &&& ~~~reset &&& bit ≠ 0 := by
  have different : bit ≠ reset := by
    rintro rfl
    exact left cleared
  have outside : ~~~reset &&& bit = bit := by
    obtain rfl | rfl := is_bit <;> obtain rfl | rfl := is_reset
    · exact absurd rfl different
    · decide
    · decide
    · exact absurd rfl different
  rwa [NetPoller.and_not_and outside]

/-- What an operation on a registered handle does, apart from the bits it clears. -/
structure Touches (s s' : Polling η) (hndl : η) (mask : BitVec 32) : Prop where
  readable : s'.poller.Readable
  agrees : s'.Agrees
  fades : NetPoller.Fades s.poller s'.poller
  handle : s'.handle = Function.update s.handle hndl ⟨(s.handle hndl).fd, mask⟩
  registered : ∀ other, s'.Registered other → other = hndl ∨ s.Registered other

omit [DecidableEq η] in
/-- `EPOLL_CTL_MOD` registers nothing else. -/
theorem registered_ctlMod {s s' : Polling η} {fd : Fd} {mask : BitVec 32} {hndl : η}
    (interest : s'.poller.interest = (s.poller.ctlMod fd ⟨mask, hndl⟩).interest) :
    ∀ other, s'.Registered other → other = hndl ∨ s.Registered other := by
  rintro other ⟨at_fd, events, found⟩
  rw [interest, NetPoller.ctlMod] at found
  split at found
  · exact .inr ⟨at_fd, events, found⟩
  · dsimp only at found
    by_cases same : at_fd = fd
    · subst same
      rw [Function.update_self] at found
      exact .inl (congrArg EpollEvent.data (Option.some.inj found)).symm
    · rw [Function.update_of_ne same] at found
      exact .inr ⟨at_fd, events, found⟩

theorem store_self (s : Polling η) (hndl : η) : s.store hndl (s.handle hndl, s.poller) = s := by
  rw [store, Function.update_eq_self]

theorem touches_setBit {s : Polling η} {bit : BitVec 32} {hndl : η}
    (readable : s.poller.Readable) (agrees : s.Agrees) (registered : s.Registered hndl) :
    ∃ mask, (mask = (s.handle hndl).events ∨ mask = (s.handle hndl).events ||| bit) ∧
      Touches s (s.store hndl (s.poller.setBit bit hndl (s.handle hndl))) hndl mask := by
  rw [NetPoller.setBit]
  split_ifs
  · rw [store_self]
    exact ⟨_, .inl rfl, readable, agrees, NetPoller.fades_of_eq rfl,
      (Function.update_eq_self hndl s.handle).symm, fun _ => .inr⟩
  · obtain ⟨kept, same⟩ := NetPoller.readable_ctlMod readable (s.handle hndl).fd
      ⟨(s.handle hndl).events ||| bit, hndl⟩
    refine ⟨_, .inr rfl, kept, ?_, NetPoller.fades_of_eq same, rfl, registered_ctlMod rfl⟩
    refine agrees.modify registered rfl (NetPoller.fades_of_eq same) ?_
    rintro left member rfl other is_bit set
    exact setBit_keeps bit (agrees.unread left (same ▸ member) other is_bit set)

theorem touches_resetBit {s : Polling η} {bit : BitVec 32} {hndl : η}
    {result : NetPollerHandle × NetPoller η} (is_bit : InterestBit bit)
    (readable : s.poller.Readable) (agrees : s.Agrees) (registered : s.Registered hndl)
    (reset : s.poller.resetBit bit hndl (s.handle hndl) = .ok result) :
    Touches s (s.store hndl result) hndl ((s.handle hndl).events &&& ~~~bit) := by
  by_cases set : (s.handle hndl).events &&& bit = 0
  · rw [NetPoller.resetBit_of_unset hndl set] at reset
    cases reset
    have same : (s.handle hndl).events &&& ~~~bit = (s.handle hndl).events := by
      calc (s.handle hndl).events &&& ~~~bit
          = (s.handle hndl).events &&& ~~~bit ||| (s.handle hndl).events &&& bit := by
            rw [set]
            exact BitVec.or_zero.symm
        _ = (s.handle hndl).events := by
            rw [← BitVec.and_or_distrib_left, BitVec.or_comm, BitVec.or_not_self,
              BitVec.and_allOnes]
    rw [store_self, same]
    exact ⟨readable, agrees, NetPoller.fades_of_eq rfl,
      (Function.update_eq_self hndl s.handle).symm, fun _ => .inr⟩
  · obtain ⟨after, poller⟩ := result
    obtain ⟨rfl, kept, cleared, interest⟩ := NetPoller.readable_resetBit readable set reset
    have fades := NetPoller.fades_clearBits cleared
    refine ⟨kept, agrees.modify registered interest fades ?_, fades, rfl,
      registered_ctlMod interest⟩
    rintro left member rfl other other_bit left_set
    obtain ⟨entry, unread, same, _, before⟩ := fades_ne_zero fades member
    have mask_set := agrees.unread entry unread other other_bit (before other left_set)
    rw [← same] at mask_set
    exact resetBit_keeps other_bit is_bit mask_set left_set
      (NetPoller.zero_of_clearBits cleared member rfl)

/-- What one legal operation does to the batch, the handles and the registrations. -/
structure Passes (s s' : Polling η) (op : PollCall η) : Prop where
  readable : s'.poller.Readable
  agrees : s'.Agrees
  fades : (∀ replies, op ≠ .wait replies) → NetPoller.Fades s.poller s'.poller
  /-- Only `SetIn` and `SetOut` add bits to a mask. -/
  masks : ∀ hndl bit, InterestBit bit →
    (bit = EPOLLIN → op ≠ .setIn hndl) → (bit = EPOLLOUT → op ≠ .setOut hndl) →
    (s.handle hndl).events &&& bit = 0 → (s'.handle hndl).events &&& bit = 0
  /-- Only `Add` registers a handle. -/
  registered : ∀ hndl, (∀ isOpen fd, op ≠ .add isOpen fd hndl) →
    s'.Registered hndl → s.Registered hndl

theorem passes_of_touches {s s' : Polling η} {op : PollCall η} {hndl : η} {mask : BitVec 32}
    (registered : s.Registered hndl) (touches : Touches s s' hndl mask)
    (masks : ∀ bit, InterestBit bit → (bit = EPOLLIN → op ≠ .setIn hndl) →
      (bit = EPOLLOUT → op ≠ .setOut hndl) → (s.handle hndl).events &&& bit = 0 →
        mask &&& bit = 0) : Passes s s' op := by
  refine ⟨touches.readable, touches.agrees, fun _ => touches.fades, ?_, ?_⟩
  · intro other bit is_bit not_in not_out off
    rw [touches.handle]
    by_cases same : other = hndl
    · subst same
      rw [Function.update_self]
      exact masks bit is_bit not_in not_out off
    · rwa [Function.update_of_ne same]
  · intro other _ after
    obtain rfl | before := touches.registered other after
    · exact registered
    · exact before

/-- Setting a bit leaves the other one off. -/
theorem or_off {mask added bit events : BitVec 32} (disjoint : added &&& bit = 0)
    (off : events &&& bit = 0) (result : mask = events ∨ mask = events ||| added) :
    mask &&& bit = 0 := by
  obtain rfl | rfl := result
  · exact off
  · rw [BitVec.and_comm, BitVec.and_or_distrib_left, BitVec.and_comm bit, BitVec.and_comm bit, off,
      disjoint]
    rfl

/-- One legal operation. -/
theorem passes_step {s s' : Polling η} {op : PollCall η} (readable : s.poller.Readable)
    (agrees : s.Agrees) (legal : s.Legal op) (stepped : system.step s op = some s') :
    Passes s s' op := by
  obtain ⟨returned, called⟩ := system_step.mp stepped
  cases op with
  | wait replies =>
      obtain ⟨outcome, waits, mapped⟩ := Option.map_eq_some_iff.mp called
      obtain ⟨after, rfl, stored⟩ := ok_of_map mapped
      cases stored
      obtain ⟨kept, interest, batch⟩ :=
        NetPoller.readable_wait readable (fun entries member => (legal entries member).1) waits
      refine ⟨kept, ⟨?_, ?_, ?_⟩, fun not_wait => absurd rfl (not_wait replies),
        fun _ _ _ _ _ off => off, ?_⟩
      · exact fun fd event found => agrees.kernel fd event (interest ▸ found)
      · intro entry unread _
        obtain ⟨entries, member, inside⟩ := batch entry unread
        obtain ⟨fd, mask, found, _⟩ := (legal entries member).2 entry inside
        exact ⟨fd, mask, interest ▸ found⟩
      · intro entry unread bit is_bit set
        obtain ⟨entries, member, inside⟩ := batch entry unread
        obtain ⟨fd, mask, found, reported⟩ := (legal entries member).2 entry inside
        change (s.handle entry.data).events &&& bit ≠ 0
        have kernel := agrees.kernel fd _ found
        rw [kernel]
        exact reported bit is_bit set
      · rintro _ _ ⟨fd, events, found⟩
        exact ⟨fd, events, interest ▸ found⟩
  | event =>
      obtain ⟨result, event, stored⟩ := ok_of_map (Option.some.inj called)
      cases stored
      obtain ⟨kept, interest, fades, _⟩ := NetPoller.readable_event readable event
      refine ⟨kept, agrees.of_fades interest fades, fun _ => fades, fun _ _ _ _ _ off => off, ?_⟩
      rintro _ _ ⟨fd, events, found⟩
      exact ⟨fd, events, interest ▸ found⟩
  | add isOpen fd hndl =>
      cases called
      obtain ⟨rfl, absent, fresh⟩ := legal
      obtain ⟨kept, same⟩ := NetPoller.readable_ctlAdd readable true fd ⟨0, hndl⟩
      have interest : (s.poller.ctlAdd true fd ⟨0, hndl⟩).interest =
          Function.update s.poller.interest fd (some ⟨0, hndl⟩) := by
        rw [NetPoller.ctlAdd, if_pos ⟨rfl, absent⟩]
      refine ⟨kept, agrees.add absent fresh interest same, fun _ => NetPoller.fades_of_eq same,
        ?_, ?_⟩
      · intro other bit _ _ _ off
        change (Function.update s.handle hndl _ other).events &&& bit = 0
        by_cases own : other = hndl
        · rw [own, Function.update_self]
          exact BitVec.zero_and
        · rwa [Function.update_of_ne own]
      · rintro other not_add ⟨at_fd, events, found⟩
        change (s.poller.ctlAdd true fd ⟨0, hndl⟩).interest at_fd = _ at found
        rw [interest] at found
        by_cases own : at_fd = fd
        · subst own
          rw [Function.update_self] at found
          cases found
          exact absurd rfl (not_add true at_fd)
        · rw [Function.update_of_ne own] at found
          exact ⟨at_fd, events, found⟩
  | rm hndl =>
      obtain ⟨after, removes, stored⟩ := ok_of_map (Option.some.inj called)
      cases stored
      obtain ⟨kept, cleared⟩ := NetPoller.readable_rm readable removes
      have interest := NetPoller.interest_rm removes
      refine ⟨kept, agrees.rm legal interest cleared,
        fun _ => NetPoller.fades_clearBits cleared, fun _ _ _ _ _ off => off, ?_⟩
      rintro other _ ⟨fd, events, found⟩
      change after.interest fd = _ at found
      rw [interest] at found
      by_cases own : fd = (s.handle hndl).fd
      · subst own
        rw [Function.update_self] at found
        cases found
      · rw [Function.update_of_ne own] at found
        exact ⟨fd, events, found⟩
  | setIn hndl =>
      cases called
      obtain ⟨mask, result, touches⟩ := touches_setBit readable agrees legal
      refine passes_of_touches legal touches fun bit is_bit not_in _ off => or_off ?_ off result
      obtain rfl | rfl := is_bit
      · exact absurd rfl (not_in rfl)
      · decide
  | setOut hndl =>
      cases called
      obtain ⟨mask, result, touches⟩ := touches_setBit readable agrees legal
      refine passes_of_touches legal touches fun bit is_bit _ not_out off => or_off ?_ off result
      obtain rfl | rfl := is_bit
      · decide
      · exact absurd rfl (not_out rfl)
  | resetIn hndl =>
      obtain ⟨result, resets, stored⟩ := ok_of_map (Option.some.inj called)
      cases stored
      exact passes_of_touches legal (touches_resetBit (.inl rfl) readable agrees legal resets)
        fun _ _ _ _ off => NetPoller.and_not_of_zero off _
  | resetOut hndl =>
      obtain ⟨result, resets, stored⟩ := ok_of_map (Option.some.inj called)
      cases stored
      exact passes_of_touches legal (touches_resetBit (.inr rfl) readable agrees legal resets)
        fun _ _ _ _ off => NetPoller.and_not_of_zero off _

/-! ## Suppression -/

/-- The batch has no unread event of the handle among some bits. -/
def Suppressed (bits : BitVec 32) (hndl : η) (s : Polling η) : Prop :=
  ∀ entry ∈ s.poller.unread, entry.data = hndl → entry.events &&& bits = 0

omit [DecidableEq η] in
theorem suppressed_of_fades {s s' : Polling η} {bits : BitVec 32} {hndl : η}
    (suppressed : s.Suppressed bits hndl) (fades : NetPoller.Fades s.poller s'.poller) :
    s'.Suppressed bits hndl := by
  intro left member own
  obtain ⟨entry, unread, same, clears⟩ := fades left member
  exact clears bits (suppressed entry unread (same ▸ own))

/-- Only `Event` returns an event. -/
theorem event_of_returns {s : Polling η} {op : PollCall η} {turn : Int × η}
    (returned : turn ∈ s.returns op) : ∃ after, s.poller.event = .ok (some turn, after) := by
  rw [returns] at returned
  split at returned
  next event after called =>
    cases List.mem_singleton.mp returned
    cases op with
    | event =>
        obtain ⟨⟨other, last⟩, read, stored⟩ := ok_of_map (Option.some.inj called)
        cases stored
        exact ⟨last, read⟩
    | wait replies =>
        obtain ⟨outcome, waits, mapped⟩ := Option.map_eq_some_iff.mp called
        obtain ⟨_, _, stored⟩ := ok_of_map mapped
        cases stored
    | rm hndl | resetIn hndl | resetOut hndl =>
        obtain ⟨_, _, stored⟩ := ok_of_map (Option.some.inj called)
        cases stored
    | add isOpen fd hndl => cases called
    | setIn hndl | setOut hndl => cases called
  next => cases returned

/-- An event that `Event` returns is unread. -/
theorem unread_of_returns {s : Polling η} {op : PollCall η} {turn : Int × η}
    (readable : s.poller.Readable) (returned : turn ∈ s.returns op) :
    ∃ entry ∈ s.poller.unread, entry.data = turn.2 ∧ turn ∈ NetPoller.turns entry := by
  obtain ⟨after, read⟩ := event_of_returns returned
  have pending := (NetPoller.readable_event readable read).2.2.2 turn rfl
  obtain ⟨entry, unread, member⟩ := List.mem_flatMap.mp pending
  exact ⟨entry, unread, (NetPoller.data_of_mem_turns member).symm, member⟩

/-- A suppressed event is not returned before the next `Wait`. -/
theorem silent_of_suppressed {s : Polling η} {ops : List (PollCall η)} {bits : BitVec 32}
    {turn : Int × η} (hits : ∀ entry, turn ∈ NetPoller.turns entry → entry.events &&& bits ≠ 0)
    (readable : s.poller.Readable) (agrees : s.Agrees) (suppressed : s.Suppressed bits turn.2)
    (legal : system.Guarded Legal s ops) (no_wait : ∀ replies, .wait replies ∉ ops) :
    turn ∉ system.observed returns s ops := by
  induction ops generalizing s with
  | nil => simp [StepSystem.observed]
  | cons op ops ih =>
      have not_now : turn ∉ s.returns op := by
        intro returned
        obtain ⟨entry, unread, own, member⟩ := unread_of_returns readable returned
        exact hits entry member (suppressed entry unread own)
      rw [StepSystem.observed, List.mem_append, not_or]
      refine ⟨not_now, ?_⟩
      cases stepped : system.step s op with
      | none => simp
      | some s' =>
          have passes := passes_step readable agrees legal.1 stepped
          have not_wait : ∀ replies, op ≠ .wait replies := fun replies same =>
            no_wait replies (same ▸ List.mem_cons_self)
          exact ih passes.readable passes.agrees
            (suppressed_of_fades suppressed (passes.fades not_wait)) (legal.2 s' stepped)
            fun replies member => no_wait replies (List.mem_cons_of_mem _ member)

/-- No `Wait` comes after an operation of a kind. -/
def NoWaitAfter (start : PollCall η → Prop) : List (PollCall η) → Prop
  | [] => True
  | op :: ops => (start op → ∀ replies, .wait replies ∉ ops) ∧ NoWaitAfter start ops

/-- While polling is off, the batch holds no event, and when it is on again, none before the next
`Wait`. -/
theorem silent_of_off (bits : BitVec 32) (off : Polling η → Prop) {start : PollCall η → Prop}
    {turn : Int × η} (hits : ∀ entry, turn ∈ NetPoller.turns entry → entry.events &&& bits ≠ 0)
    (clean : ∀ s, Agrees s → off s → s.Suppressed bits turn.2)
    (stays : ∀ s s' op, Passes s s' op → ¬start op → off s → off s')
    (starts : ∀ op, start op → ∀ replies, op ≠ .wait replies)
    {s : Polling η} {ops : List (PollCall η)} (readable : s.poller.Readable) (agrees : s.Agrees)
    (is_off : off s) (legal : system.Guarded Legal s ops) (quiet : NoWaitAfter start ops) :
    turn ∉ system.observed returns s ops := by
  induction ops generalizing s with
  | nil => simp [StepSystem.observed]
  | cons op ops ih =>
      have not_now : turn ∉ s.returns op := by
        intro returned
        obtain ⟨entry, unread, own, member⟩ := unread_of_returns readable returned
        exact hits entry member (clean s agrees is_off entry unread own)
      rw [StepSystem.observed, List.mem_append, not_or]
      refine ⟨not_now, ?_⟩
      cases stepped : system.step s op with
      | none => simp
      | some s' =>
          have passes := passes_step readable agrees legal.1 stepped
          by_cases on : start op
          · exact silent_of_suppressed hits passes.readable passes.agrees
              (suppressed_of_fades (clean s agrees is_off) (passes.fades (starts op on)))
              (legal.2 s' stepped) (quiet.1 on)
          · exact ih passes.readable passes.agrees (stays s s' op passes on is_off)
              (legal.2 s' stepped) quiet.2

/-- A bit that is not in the mask of a handle is not returned. -/
theorem silent_of_unset {s : Polling η} {ops : List (PollCall η)} {bit : BitVec 32}
    {turn : Int × η} {start : PollCall η → Prop} (is_bit : InterestBit bit)
    (hits : ∀ entry, turn ∈ NetPoller.turns entry → entry.events &&& bit ≠ 0)
    (sets : ∀ op, ¬start op →
      (bit = EPOLLIN → op ≠ .setIn turn.2) ∧ (bit = EPOLLOUT → op ≠ .setOut turn.2))
    (starts : ∀ op, start op → ∀ replies, op ≠ .wait replies)
    (readable : s.poller.Readable) (agrees : s.Agrees)
    (unset : (s.handle turn.2).events &&& bit = 0) (legal : system.Guarded Legal s ops)
    (quiet : NoWaitAfter start ops) : turn ∉ system.observed returns s ops := by
  refine silent_of_off bit (fun s => (s.handle turn.2).events &&& bit = 0) hits ?_ ?_ starts
    readable agrees unset legal quiet
  · intro s agrees off entry unread own
    by_contra set
    exact agrees.unread entry unread bit is_bit set (own ▸ off)
  · intro s s' op passes not_start off
    obtain ⟨not_in, not_out⟩ := sets op not_start
    exact passes.masks turn.2 bit is_bit not_in not_out off

/-- An event of a handle that is not registered is not returned. -/
theorem silent_of_unregistered {s : Polling η} {ops : List (PollCall η)} {turn : Int × η}
    (readable : s.poller.Readable) (agrees : s.Agrees) (absent : ¬s.Registered turn.2)
    (legal : system.Guarded Legal s ops)
    (quiet : NoWaitAfter (fun op => ∃ isOpen fd, op = .add isOpen fd turn.2) ops) :
    turn ∉ system.observed returns s ops := by
  refine silent_of_off (BitVec.allOnes 32) (fun s => ¬s.Registered turn.2) ?_ ?_ ?_ ?_
    readable agrees absent legal quiet
  · intro entry member zero
    rw [BitVec.and_allOnes] at zero
    rw [NetPoller.turns_of_empty zero] at member
    cases member
  · intro s agrees off entry unread own
    rw [BitVec.and_allOnes]
    by_contra some_events
    exact off (own ▸ agrees.registered entry unread some_events)
  · intro s s' op passes not_add off after
    exact off (passes.registered turn.2 (fun isOpen fd same => not_add ⟨isOpen, fd, same⟩) after)
  · rintro op ⟨isOpen, fd, rfl⟩
    rintro _ ⟨⟩

theorem unset_of_reset {s : Polling η} {bit : BitVec 32} {hndl : η}
    {result : NetPollerHandle × NetPoller η}
    (touches : Touches s (s.store hndl result) hndl ((s.handle hndl).events &&& ~~~bit)) :
    ((s.store hndl result).handle hndl).events &&& bit = 0 := by
  rw [touches.handle, Function.update_self]
  exact NetPoller.and_not_and_self _ _

theorem unregistered_of_rm {s s' : Polling η} {hndl : η} (agrees : s.Agrees)
    (stepped : system.step s (.rm hndl) = some s') : ¬s'.Registered hndl := by
  obtain ⟨returned, called⟩ := system_step.mp stepped
  obtain ⟨after, removes, stored⟩ := ok_of_map (Option.some.inj called)
  cases stored
  rintro ⟨fd, events, found⟩
  change after.interest fd = _ at found
  rw [NetPoller.interest_rm removes] at found
  by_cases same : fd = (s.handle hndl).fd
  · subst same
    rw [Function.update_self] at found
    cases found
  · rw [Function.update_of_ne same] at found
    have kernel := agrees.kernel fd _ found
    rw [kernel] at same
    exact same rfl

/-- All along a legal run the masks agree, and an event that was reset, or whose handle was removed,
is not returned before polling is started again and a later `Wait` reports it. -/
theorem interest_agrees {initial s : Polling η} {ops : List (PollCall η)}
    (started : Started initial) (fresh : ∀ fd, initial.poller.interest fd = none)
    (legal : system.Guarded Legal initial ops) (execution : system.run initial ops = some s) :
    s.Agrees ∧
      (∀ hndl s' later, s.Legal (.resetIn hndl) → system.step s (.resetIn hndl) = some s' →
        system.Guarded Legal s' later → NoWaitAfter (· = .setIn hndl) later →
          (kNetPollerIn, hndl) ∉ system.observed returns s' later) ∧
      (∀ hndl s' later, s.Legal (.resetOut hndl) → system.step s (.resetOut hndl) = some s' →
        system.Guarded Legal s' later → NoWaitAfter (· = .setOut hndl) later →
          (kNetPollerOut, hndl) ∉ system.observed returns s' later) ∧
      ∀ hndl s' later, s.Legal (.rm hndl) → system.step s (.rm hndl) = some s' →
        system.Guarded Legal s' later →
        NoWaitAfter (fun op => ∃ isOpen fd, op = .add isOpen fd hndl) later →
          ∀ kind, (kind, hndl) ∉ system.observed returns s' later := by
  have start : initial.poller.Readable ∧ initial.Agrees := by
    have nothing : initial.poller.unread = [] := by
      rw [NetPoller.unread, started.nevents]
      exact List.drop_nil
    refine ⟨.inl ⟨?_, ?_, started.events⟩, ?_, ?_, ?_⟩
    · rw [started.index, started.nevents]
      rfl
    · rw [started.nevents]
      decide
    · intro fd event found
      rw [fresh] at found
      cases found
    · rw [nothing]
      rintro _ ⟨⟩
    · rw [nothing]
      rintro _ ⟨⟩
  have kept : ∀ (before : Polling η) op after, before.poller.Readable ∧ before.Agrees →
      before.Legal op → system.step before op = some after →
        after.poller.Readable ∧ after.Agrees := by
    intro before op after holds allowed stepped
    have passes := passes_step holds.1 holds.2 allowed stepped
    exact ⟨passes.readable, passes.agrees⟩
  obtain ⟨readable, agrees⟩ :=
    StepSystem.run_invariant_of_guarded kept start legal execution
  refine ⟨agrees, ?_, ?_, ?_⟩
  · intro hndl s' later registered stepped later_legal quiet
    have passes := passes_step readable agrees registered stepped
    obtain ⟨returned, called⟩ := system_step.mp stepped
    obtain ⟨result, resets, stored⟩ := ok_of_map (Option.some.inj called)
    cases stored
    have touches := touches_resetBit (.inl rfl) readable agrees registered resets
    refine silent_of_unset (.inl rfl) ?_ ?_ ?_ passes.readable passes.agrees
      (unset_of_reset touches) later_legal quiet
    · intro entry member zero
      simp [NetPoller.turns, zero, kNetPollerIn, kNetPollerOut, kNetPollerErr] at member
    · exact fun op other => ⟨fun _ => other, fun same => absurd same (by decide)⟩
    · rintro op rfl
      rintro _ ⟨⟩
  · intro hndl s' later registered stepped later_legal quiet
    have passes := passes_step readable agrees registered stepped
    obtain ⟨returned, called⟩ := system_step.mp stepped
    obtain ⟨result, resets, stored⟩ := ok_of_map (Option.some.inj called)
    cases stored
    have touches := touches_resetBit (.inr rfl) readable agrees registered resets
    refine silent_of_unset (.inr rfl) ?_ ?_ ?_ passes.readable passes.agrees
      (unset_of_reset touches) later_legal quiet
    · intro entry member zero
      simp [NetPoller.turns, zero, kNetPollerIn, kNetPollerOut, kNetPollerErr] at member
    · exact fun op other => ⟨fun same => absurd same (by decide), fun _ => other⟩
    · rintro op rfl
      rintro _ ⟨⟩
  · intro hndl s' later registered stepped later_legal quiet kind
    have passes := passes_step readable agrees registered stepped
    exact silent_of_unregistered passes.readable passes.agrees
      (unregistered_of_rm agrees stepped) later_legal quiet

/-- A poller after `Init`. -/
def initialised : Polling Unit where
  poller :=
    { nevents := 0, index := 0, events := List.replicate kNetPollerMaxEvents ⟨0, ()⟩,
      interest := fun _ => none }
  handle _ := ⟨0, 0⟩

/-- `IN` is reset before its turn and set again, and the batch is read on. -/
theorem interest_agrees_reset :
    ∃ s s',
      system.run initialised
        [.add true 3 (), .setIn (), .wait [.ready [⟨EPOLLIN ||| 8, ()⟩]]] = some s ∧
      system.step s (.resetIn ()) = some s' ∧ s.Agrees ∧
      (kNetPollerIn, ()) ∉ system.observed returns s' [.setIn (), .event, .event] := by
  have computed : ((system.run initialised
      [.add true 3 (), .setIn (), .wait [.ready [⟨EPOLLIN ||| 8, ()⟩]]]).bind fun s =>
        system.step s (.resetIn ())).any
      (fun s' => s'.poller.interest 3 = some ⟨0, ()⟩) = true := by
    decide +kernel
  obtain ⟨s', found, still⟩ := (Option.any_eq_true _ _).mp computed
  obtain ⟨s, execution, stepped⟩ := Option.bind_eq_some_iff.mp found
  have legal : system.Guarded Legal initialised
      [.add true 3 (), .setIn (), .wait [.ready [⟨EPOLLIN ||| 8, ()⟩]]] := by
    refine ⟨⟨rfl, rfl, by rintro ⟨_, _, ⟨⟩⟩⟩, ?_⟩
    intro added stepped
    cases stepped
    refine ⟨⟨3, 0, rfl⟩, ?_⟩
    intro polling stepped
    cases stepped
    refine ⟨?_, fun _ _ => trivial⟩
    intro entries member
    cases List.mem_singleton.mp member
    refine ⟨by decide, fun entry inside => ⟨3, EPOLLIN, ?_⟩⟩
    cases List.mem_singleton.mp inside
    refine ⟨rfl, ?_⟩
    rintro bit (rfl | rfl)
    · decide
    · decide
  have registered : s.Registered () := by
    cases execution
    exact ⟨3, EPOLLIN, rfl⟩
  have later : system.Guarded Legal s' [.setIn (), .event, .event] :=
    ⟨⟨3, 0, of_decide_eq_true still⟩,
      fun _ _ => ⟨trivial, fun _ _ => ⟨trivial, fun _ _ => trivial⟩⟩⟩
  have result := interest_agrees ⟨rfl, rfl, rfl⟩ (fun _ => rfl) legal execution
  refine ⟨s, s', execution, stepped, result.1,
    result.2.1 () s' _ registered stepped later ?_⟩
  simp [NoWaitAfter]

end Polling
end Klibmsg
