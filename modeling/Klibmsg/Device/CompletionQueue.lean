import Klibmsg.Channel.Waiting

/-!
# The completion queue

`PollCompletionQueue` is a loop that receives a callback from `cq_` and runs it, and returns once
`Receive` fails.  Any number of threads run the loop while others send callbacks, and
`CloseCompletionQueue` closes the send end before the receive end.  A callback is received by one
thread and run by that thread, and nothing that was received before the queue was closed is dropped.
-/

namespace Klibmsg.CompletionQueue

open StepSystem Channel

/-- Where a thread is in `PollCompletionQueue`. -/
inductive Poller (α : Type) where
  /-- Not in the loop. -/
  | outside
  /-- About to call `Receive`, or inside it. -/
  | receiving
  /-- With a callback that it has received and not run. -/
  | received (callback : α)
deriving DecidableEq, Repr

/-- The callbacks that the thread has received and not run. -/
def Poller.inHand {α : Type} : Poller α → List α
  | received callback => [callback]
  | _ => []

/-- The thread is in `Receive`, or about to call it. -/
def Poller.isReceiving {α : Type} : Poller α → Bool
  | receiving => true
  | _ => false

/-- The queue with its threads. -/
structure State (θ α : Type) where
  cq : Channel.State θ α
  poller : θ → Poller α
  /-- The threads between the two calls of `CloseCompletionQueue`. -/
  closing : θ → Bool
  /-- The callbacks that were run, with the threads that ran them. -/
  ran : List (θ × α)

/-- A step of a thread. -/
inductive Label (θ α : Type) where
  /-- A call of `PollCompletionQueue`. -/
  | poll (thread : θ)
  /-- `cq_.Receive`, up to its first `wait` or its return. -/
  | receive (thread : θ)
  /-- `cq_.Receive` of a thread that was woken. -/
  | resume (thread : θ)
  | spurious (thread : θ)
  /-- `func()`. -/
  | run (thread : θ)
  /-- `cq_.Send`, whose `notify_one` wakes the given thread. -/
  | send (thread : θ) (callback : α) (woken : Option θ)
  /-- The first half of `CloseCompletionQueue`. -/
  | closeSendEnd (thread : θ)
  /-- The second half of `CloseCompletionQueue`. -/
  | closeReceiveEnd (thread : θ)
deriving DecidableEq, Repr

/-- The thread that takes the step. -/
def Label.thread {θ α : Type} : Label θ α → θ
  | poll thread => thread
  | receive thread => thread
  | resume thread => thread
  | spurious thread => thread
  | run thread => thread
  | send thread _ _ => thread
  | closeSendEnd thread => thread
  | closeReceiveEnd thread => thread

namespace State

variable {θ α : Type}

/-- A queue that no thread has used. -/
def initial : State θ α := ⟨.initial, fun _ => .outside, fun _ => false, []⟩

/-- Where the loop is after the critical section of `Receive`. -/
def afterReceive (s : State θ α) : Poller α :=
  if s.cq.channel.ready then
    match s.cq.channel.receive.1 with
    | some callback => .received callback
    | none => .outside
  else
    .receiving

variable [DecidableEq θ]

/-- Move a thread. -/
def setPoller (s : State θ α) (thread : θ) (poller : Poller α) : State θ α :=
  { s with poller := Function.update s.poller thread poller }

/-- Record whether a thread is closing the queue. -/
def setClosing (s : State θ α) (thread : θ) (closing : Bool) : State θ α :=
  { s with closing := Function.update s.closing thread closing }

/-- One step.  A thread inside `Receive` does nothing else. -/
def step (s : State θ α) : Label θ α → Option (State θ α)
  | .poll thread =>
      match s.poller thread with
      | .outside => some (s.setPoller thread .receiving)
      | _ => none
  | .receive thread =>
      if (s.poller thread).isReceiving then
        (s.cq.step (.receive thread)).map fun cq =>
          { s.setPoller thread s.afterReceive with cq := cq }
      else none
  | .resume thread =>
      if (s.poller thread).isReceiving then
        (s.cq.step (.resume thread)).map fun cq =>
          { s.setPoller thread s.afterReceive with cq := cq }
      else none
  | .spurious thread => (s.cq.step (.spurious thread)).map fun cq => { s with cq := cq }
  | .run thread =>
      match s.poller thread with
      | .received callback =>
          some { s.setPoller thread .receiving with ran := s.ran ++ [(thread, callback)] }
      | _ => none
  | .send thread callback woken =>
      if (s.poller thread).isReceiving then none
      else (s.cq.step (.send thread callback woken)).map fun cq => { s with cq := cq }
  | .closeSendEnd thread =>
      if (s.poller thread).isReceiving then none
      else
        (s.cq.step (.closeSendEnd thread)).map fun cq => { s.setClosing thread true with cq := cq }
  | .closeReceiveEnd thread =>
      if s.closing thread then
        (s.cq.step (.closeReceiveEnd thread)).map fun cq =>
          { s.setClosing thread false with cq := cq }
      else none

/-- The runs of the threads. -/
def system : StepSystem (State θ α) (Label θ α) where
  step := step

end State

/-! ## What one thread has received and run -/

section Histories

variable {θ α : Type} [DecidableEq θ]

/-- The value, when the entry is a `Receive` of the thread that returned one. -/
def receivedFrom (thread : θ) : Entry θ α → Option α
  | .receive other result => if other = thread then result else none
  | _ => none

/-- What the thread has received, in order. -/
def receivedBy (thread : θ) (log : List (Entry θ α)) : List α :=
  log.filterMap (receivedFrom thread)

/-- What the thread has run, in order. -/
def ranBy (thread : θ) (ran : List (θ × α)) : List α :=
  ran.filterMap fun entry => if entry.1 = thread then some entry.2 else none

theorem receivedBy_concat (thread : θ) (log : List (Entry θ α)) (entry : Entry θ α) :
    receivedBy thread (log ++ [entry]) =
      receivedBy thread log ++ (receivedFrom thread entry).toList := by
  simp only [receivedBy, List.filterMap_append, List.append_cancel_left_eq]
  cases outcome : receivedFrom thread entry with
  | none => exact List.filterMap_cons_none outcome
  | some callback => exact List.filterMap_cons_some outcome

theorem ranBy_concat (thread other : θ) (ran : List (θ × α)) (callback : α) :
    ranBy thread (ran ++ [(other, callback)]) =
      ranBy thread ran ++ if other = thread then [callback] else [] := by
  simp only [ranBy, List.filterMap_append, List.append_cancel_left_eq]
  by_cases same : other = thread
  · simp [same]
  · simp [same]

end Histories

/-! ## The invariant -/

/-- What the steps of the threads preserve. -/
structure Invariant {θ α : Type} [DecidableEq θ] (s : State θ α) : Prop where
  channel : Channel.Invariant s.cq
  /-- A thread has run what it has received, but for the callback in its hand. -/
  handed : ∀ thread,
    receivedBy thread s.cq.log = ranBy thread s.ran ++ (s.poller thread).inHand
  /-- Only pollers wait. -/
  inside : ∀ thread, (s.poller thread).isReceiving = false → s.cq.cond.Outside thread
  /-- The send end is closed first. -/
  closing : ∀ thread, s.closing thread = true → s.cq.channel.isSendClosed = true
  closed : s.cq.channel.isReceiveClosed = true → s.cq.channel.isSendClosed = true

section Steps

variable {θ α : Type} [DecidableEq θ] {s s' : State θ α} {c c' : Channel.State θ α}
  {thread other : θ}

theorem initial_invariant : Invariant (State.initial : State θ α) where
  channel := Channel.initial_invariant
  handed _ := rfl
  inside _ _ := ⟨List.not_mem_nil, List.not_mem_nil⟩
  closing := by rintro _ ⟨⟩
  closed := by rintro ⟨⟩

omit [DecidableEq θ] in
/-- The critical section of `Receive` takes a value, fails or waits. -/
theorem receiveSection_cases (c : Channel.State θ α) (thread : θ) :
    (c.channel.ready = true ∧ c.receiveSection thread =
      ⟨c.channel.receive.2, c.cond, c.log ++ [.receive thread c.channel.receive.1]⟩) ∨
    c.channel.ready = false ∧ c.receiveSection thread = { c with cond := c.cond.wait thread } := by
  rw [Channel.State.receiveSection]
  cases c.channel.ready with
  | true => exact .inl ⟨rfl, rfl⟩
  | false => exact .inr ⟨rfl, rfl⟩

omit [DecidableEq θ] in
/-- `Receive` closes nothing. -/
theorem receive_closed (channel : Channel α) :
    channel.receive.2.isSendClosed = channel.isSendClosed ∧
      channel.receive.2.isReceiveClosed = channel.isReceiveClosed := by
  rw [Channel.receive]
  split
  · exact ⟨rfl, rfl⟩
  · split_ifs
    · exact ⟨rfl, rfl⟩
    · exact ⟨rfl, rfl⟩

omit [DecidableEq θ] in
theorem receiveSection_closed (c : Channel.State θ α) (thread : θ) :
    (c.receiveSection thread).channel.isSendClosed = c.channel.isSendClosed ∧
      (c.receiveSection thread).channel.isReceiveClosed = c.channel.isReceiveClosed := by
  obtain ⟨_, outcome⟩ | ⟨_, outcome⟩ := receiveSection_cases c thread
  · rw [outcome]
    exact receive_closed c.channel
  · rw [outcome]
    exact ⟨rfl, rfl⟩

/-- What the thread takes in the critical section of `Receive` is then in its hand. -/
theorem receivedBy_receiveSection (c : Channel.State θ α) (thread other : θ) :
    receivedBy other (c.receiveSection thread).log =
      receivedBy other c.log ++
        if thread = other ∧ c.channel.ready = true then c.channel.receive.1.toList else [] := by
  obtain ⟨isReady, outcome⟩ | ⟨notReady, outcome⟩ := receiveSection_cases c thread
  · rw [outcome, receivedBy_concat, isReady]
    by_cases same : thread = other
    · simp [receivedFrom, same]
    · simp [receivedFrom, same]
  · rw [outcome, notReady]
    simp

omit [DecidableEq θ] in
theorem inHand_afterReceive (s : State θ α) :
    s.afterReceive.inHand =
      if s.cq.channel.ready = true then s.cq.channel.receive.1.toList else [] := by
  rw [State.afterReceive]
  split_ifs
  · cases s.cq.channel.receive.1 with
    | some callback => rfl
    | none => rfl
  · rfl

omit [DecidableEq θ] in
/-- A thread that does not wait has left the critical section. -/
theorem outside_receiveSection (c : Channel.State θ α) {thread other : θ}
    (left : other = thread → c.channel.ready = true) :
    (c.receiveSection thread).cond.Outside other ↔ c.cond.Outside other := by
  obtain ⟨_, outcome⟩ | ⟨notReady, outcome⟩ := receiveSection_cases c thread
  · rw [outcome]
  · rw [outcome]
    refine CondVar.outside_wait fun same => ?_
    rw [left same] at notReady
    cases notReady

omit [DecidableEq θ] in
theorem isReceiving_afterReceive (s : State θ α) :
    s.afterReceive.isReceiving = !s.cq.channel.ready := by
  rw [State.afterReceive]
  cases s.cq.channel.ready with
  | true =>
      cases s.cq.channel.receive.1 with
      | some callback => rfl
      | none => rfl
  | false => rfl

/-- A thread runs the critical section of `Receive`, in a state of the condition variable in which
it has been resumed. -/
theorem Invariant.receives (invariant : Invariant s)
    (receiving : (s.poller thread).isReceiving = true) {cond : CondVar θ}
    (outside : cond.Outside thread)
    (others : ∀ other, other ≠ thread → (cond.Outside other ↔ s.cq.cond.Outside other))
    (sound : Channel.Invariant ({ s.cq with cond := cond }.receiveSection thread)) :
    Invariant { s.setPoller thread s.afterReceive with
      cq := { s.cq with cond := cond }.receiveSection thread } := by
  have nothing : (s.poller thread).inHand = [] := by
    cases position : s.poller thread with
    | receiving => rfl
    | outside | received callback => rw [position] at receiving; cases receiving
  have same := receiveSection_closed { s.cq with cond := cond } thread
  refine ⟨sound, fun other => ?_, fun other elsewhere => ?_, fun other isClosing => ?_,
    fun isClosed => ?_⟩
  · rw [receivedBy_receiveSection]
    by_cases equal : other = thread
    · subst equal
      have before := invariant.handed other
      rw [nothing, List.append_nil] at before
      simp only [true_and, State.setPoller, Function.update_self, inHand_afterReceive, before]
    · simp [State.setPoller, equal, Ne.symm equal, invariant.handed other]
  · by_cases equal : other = thread
    · subst equal
      simp only [State.setPoller, Function.update_self, isReceiving_afterReceive,
        Bool.not_eq_eq_eq_not, Bool.not_false] at elsewhere
      exact (outside_receiveSection { s.cq with cond := cond } fun _ => elsewhere).mpr outside
    · simp only [State.setPoller, Function.update_of_ne equal] at elsewhere
      have before := (others other equal).mpr (invariant.inside other elsewhere)
      exact (outside_receiveSection { s.cq with cond := cond } fun isSame =>
        absurd isSame equal).mpr before
  · rw [same.1]
    exact invariant.closing other isClosing
  · rw [same.2] at isClosed
    rw [same.1]
    exact invariant.closed isClosed

/-- A step on the channel that neither receives nor moves a poller. -/
theorem Invariant.channel_step {s s' : State θ α} (invariant : Invariant s)
    (sound : Channel.Invariant s'.cq) (poller : s'.poller = s.poller) (ran : s'.ran = s.ran)
    (log : ∀ thread, receivedBy thread s'.cq.log = receivedBy thread s.cq.log)
    (outside : ∀ thread, s'.cq.cond.Outside thread ↔ s.cq.cond.Outside thread)
    (closing : ∀ thread, s'.closing thread = true → s'.cq.channel.isSendClosed = true)
    (closed : s'.cq.channel.isReceiveClosed = true → s'.cq.channel.isSendClosed = true) :
    Invariant s' := by
  refine ⟨sound, fun thread => ?_, fun thread elsewhere => ?_, closing, closed⟩
  · rw [log, ran, poller]
    exact invariant.handed thread
  · rw [poller] at elsewhere
    exact (outside thread).mpr (invariant.inside thread elsewhere)

/-- A thread that is not in `Receive` goes on in its loop. -/
theorem Invariant.moves (invariant : Invariant s) {position : Poller α} {ran : List (θ × α)}
    (elsewhere : (s.poller thread).isReceiving = false)
    (handed : ranBy thread s.ran ++ (s.poller thread).inHand =
      ranBy thread ran ++ position.inHand)
    (others : ∀ other, other ≠ thread → ranBy other ran = ranBy other s.ran) :
    Invariant { s.setPoller thread position with ran := ran } := by
  refine ⟨invariant.channel, fun other => ?_, fun other away => ?_, invariant.closing,
    invariant.closed⟩
  · by_cases equal : other = thread
    · subst equal
      have before := invariant.handed other
      simpa [State.setPoller, ← handed] using before
    · have before := invariant.handed other
      simpa [State.setPoller, equal, others other equal] using before
  · by_cases equal : other = thread
    · subst equal
      exact invariant.inside other elsewhere
    · simp only [State.setPoller, Function.update_of_ne equal] at away
      exact invariant.inside other away

theorem Invariant.step {label : Label θ α} (invariant : Invariant s)
    (stepped : s.step label = some s') : Invariant s' := by
  cases label with
  | poll thread =>
      simp only [State.step] at stepped
      split at stepped
      next position =>
        cases stepped
        exact invariant.moves (by rw [position]; rfl) (by rw [position]; rfl) fun _ _ => rfl
      next => cases stepped
  | run thread =>
      simp only [State.step] at stepped
      split at stepped
      next callback position =>
        cases stepped
        refine invariant.moves (by rw [position]; rfl) ?_ fun other different => ?_
        · rw [position, ranBy_concat, if_pos rfl]
          exact (List.append_nil _).symm
        · rw [ranBy_concat, if_neg (Ne.symm different), List.append_nil]
      next => cases stepped
  | receive thread =>
      simp only [State.step] at stepped
      split_ifs at stepped with receiving
      obtain ⟨cq, received, rfl⟩ := Option.map_eq_some_iff.mp stepped
      have sound := invariant.channel.step received
      simp only [Channel.State.step] at received
      split_ifs at received with outside
      cases received
      exact invariant.receives receiving outside (fun _ _ => Iff.rfl) sound
  | resume thread =>
      simp only [State.step] at stepped
      split_ifs at stepped with receiving
      obtain ⟨cq, received, rfl⟩ := Option.map_eq_some_iff.mp stepped
      have sound := invariant.channel.step received
      simp only [Channel.State.step] at received
      split_ifs at received with notified
      cases received
      exact invariant.receives receiving (invariant.channel.separate.resume_outside notified)
        (fun _ different => CondVar.outside_resume different) sound
  | spurious thread =>
      obtain ⟨cq, woken, rfl⟩ := Option.map_eq_some_iff.mp stepped
      have sound := invariant.channel.step woken
      simp only [Channel.State.step] at woken
      split_ifs at woken with waits
      cases woken
      exact invariant.channel_step sound rfl rfl (fun _ => rfl)
        (fun _ => CondVar.outside_wake waits) invariant.closing invariant.closed
  | send thread callback woken =>
      simp only [State.step] at stepped
      split_ifs at stepped
      obtain ⟨cq, sending, rfl⟩ := Option.map_eq_some_iff.mp stepped
      have sound := invariant.channel.step sending
      obtain ⟨_, rfl⟩ | ⟨_, cond, notified, rfl⟩ := Channel.step_send sending
      · exact invariant.channel_step sound rfl rfl
          (fun _ => by rw [receivedBy_concat]; exact List.append_nil _) (fun _ => Iff.rfl)
          invariant.closing invariant.closed
      · exact invariant.channel_step sound rfl rfl
          (fun _ => by rw [receivedBy_concat]; exact List.append_nil _)
          (fun _ => CondVar.outside_notifyOne notified) invariant.closing invariant.closed
  | closeSendEnd thread =>
      simp only [State.step] at stepped
      split_ifs at stepped
      obtain ⟨cq, closing, rfl⟩ := Option.map_eq_some_iff.mp stepped
      have sound := invariant.channel.step closing
      simp only [Channel.State.step] at closing
      split_ifs at closing
      cases closing
      exact invariant.channel_step sound rfl rfl
        (fun _ => by rw [receivedBy_concat]; exact List.append_nil _)
        (fun _ => CondVar.outside_notifyAll) (fun _ _ => rfl) fun _ => rfl
  | closeReceiveEnd thread =>
      simp only [State.step] at stepped
      split_ifs at stepped with halfway
      obtain ⟨cq, closing, rfl⟩ := Option.map_eq_some_iff.mp stepped
      have sound := invariant.channel.step closing
      have sendClosed := invariant.closing thread halfway
      simp only [Channel.State.step] at closing
      split_ifs at closing
      cases closing
      exact invariant.channel_step sound rfl rfl
        (fun _ => by rw [receivedBy_concat]; exact List.append_nil _)
        (fun _ => CondVar.outside_notifyAll) (fun _ _ => sendClosed) fun _ => sendClosed

theorem run_invariant {labels : List (Label θ α)}
    (execution : State.system.run State.initial labels = some s) : Invariant s :=
  StepSystem.run_invariant (fun _ _ _ invariant stepped => invariant.step stepped)
    initial_invariant execution

/-! ## Taking a callback -/

theorem step_receive (receiving : (s.poller thread).isReceiving = true)
    (outside : s.cq.cond.Outside thread) :
    s.step (.receive thread) =
      some { s.setPoller thread s.afterReceive with cq := s.cq.receiveSection thread } := by
  simp [State.step, Channel.State.step, receiving, outside]

theorem step_resume (receiving : (s.poller thread).isReceiving = true)
    (notified : thread ∈ s.cq.cond.notified) :
    s.step (.resume thread) =
      some { s.setPoller thread s.afterReceive with
        cq := { s.cq with cond := s.cq.cond.resume thread }.receiveSection thread } := by
  simp [State.step, Channel.State.step, receiving, notified]

omit [DecidableEq θ] in
/-- A thread that is let into the critical section takes the first callback. -/
theorem receives_front {callback : α} {rest : List α} (front : s.cq.channel.val = callback :: rest)
    (receiveOpen : s.cq.channel.isReceiveClosed = false) (cond : CondVar θ) :
    received ({ s.cq with cond := cond }.receiveSection thread).log =
        received s.cq.log ++ [callback] ∧
      s.afterReceive = .received callback := by
  constructor
  · rw [Channel.receiveSection_of_cons (s := { s.cq with cond := cond }) front receiveOpen]
    exact Channel.received_concat _ _
  · simp [State.afterReceive, Channel.ready, Channel.receive, front, receiveOpen]

/-- While a callback is queued and a thread polls, some poller takes it in its next step. -/
theorem Invariant.takes (invariant : Invariant s) {callback : α} {rest : List α}
    (front : s.cq.channel.val = callback :: rest)
    (receiveOpen : s.cq.channel.isReceiveClosed = false)
    (polls : (s.poller thread).isReceiving = true) :
    ∃ (taker : θ) (label : Label θ α) (s' : State θ α), s.step label = some s' ∧
      s'.poller taker = .received callback ∧
        received s'.cq.log = received s.cq.log ++ [callback] := by
  have resumes {taker : θ} (notified : taker ∈ s.cq.cond.notified) :
      ∃ (taker : θ) (label : Label θ α) (s' : State θ α), s.step label = some s' ∧
        s'.poller taker = .received callback ∧
          received s'.cq.log = received s.cq.log ++ [callback] := by
    have receiving : (s.poller taker).isReceiving = true := by
      rw [← Bool.not_eq_false]
      exact fun elsewhere => (invariant.inside taker elsewhere).2 notified
    obtain ⟨log, position⟩ := receives_front front receiveOpen (s.cq.cond.resume taker)
    exact ⟨taker, .resume taker, _, step_resume receiving notified,
      (Function.update_self _ _ _).trans position, log⟩
  by_cases waits : thread ∈ s.cq.cond.waiting
  · have enough := invariant.channel.covers (List.ne_nil_of_mem waits)
    rw [front, List.length_cons] at enough
    obtain ⟨taker, notified⟩ := List.exists_mem_of_length_pos (Nat.lt_of_lt_of_le
      (Nat.succ_pos _) enough)
    exact resumes notified
  · by_cases notified : thread ∈ s.cq.cond.notified
    · exact resumes notified
    · have outside : s.cq.cond.Outside thread := ⟨waits, notified⟩
      obtain ⟨log, position⟩ := receives_front front receiveOpen s.cq.cond
      exact ⟨thread, .receive thread, _, step_receive polls outside,
        (Function.update_self _ _ _).trans position, log⟩

/-! ## After `CloseCompletionQueue` -/

omit [DecidableEq θ] in
theorem receive_of_closed {channel : Channel α} (closed : channel.isReceiveClosed = true) :
    channel.receive = (none, channel) := by
  rw [Channel.receive]
  split
  · rfl
  · rw [if_pos closed]

omit [DecidableEq θ] in
/-- The critical section of `Receive` on a closed queue fails. -/
theorem receiveSection_of_closed (closed : c.channel.isReceiveClosed = true) (thread : θ) :
    c.receiveSection thread = { c with log := c.log ++ [.receive thread none] } := by
  rw [Channel.State.receiveSection, if_pos (by simp [Channel.ready, closed]),
    receive_of_closed closed]

omit [DecidableEq θ] in
theorem afterReceive_of_closed (closed : s.cq.channel.isReceiveClosed = true) :
    s.afterReceive = .outside := by
  simp [State.afterReceive, Channel.ready, closed, receive_of_closed closed]

/-- The queue has been closed, and nothing has been taken from it since. -/
structure ClosedSince (s s' : State θ α) : Prop where
  closed : s'.cq.channel.isReceiveClosed = true
  val_eq : s'.cq.channel.val = s.cq.channel.val
  received_eq : received s'.cq.log = received s.cq.log
  receivedBy_eq : ∀ thread, receivedBy thread s'.cq.log = receivedBy thread s.cq.log

theorem ClosedSince.concat {s'' : State θ α} (since : ClosedSince s s')
    (channel : s''.cq.channel = s'.cq.channel) {entry : Entry θ α}
    (log : s''.cq.log = s'.cq.log ++ [entry]) (nothing : entry.received = none)
    (nobody : ∀ thread, receivedFrom thread entry = none) : ClosedSince s s'' := by
  refine ⟨?_, ?_, ?_, fun other => ?_⟩
  · rw [channel]
    exact since.closed
  · rw [channel]
    exact since.val_eq
  · rw [log, Channel.received_concat, nothing, since.received_eq]
    exact List.append_nil _
  · rw [log, receivedBy_concat, nobody, since.receivedBy_eq]
    exact List.append_nil _

theorem ClosedSince.step {initial : State θ α} {label : Label θ α} (invariant : Invariant s)
    (since : ClosedSince initial s) (stepped : s.step label = some s') :
    ClosedSince initial s' := by
  have fails (thread : θ) (cond : CondVar θ) : ClosedSince initial
      { s.setPoller thread s.afterReceive with
        cq := { s.cq with cond := cond }.receiveSection thread } := by
    have failed := receiveSection_of_closed (c := { s.cq with cond := cond })
      since.closed thread
    rw [failed]
    exact since.concat rfl rfl rfl fun _ => by simp [receivedFrom]
  cases label with
  | poll thread =>
      simp only [State.step] at stepped
      split at stepped
      next =>
        cases stepped
        exact ⟨since.closed, since.val_eq, since.received_eq, since.receivedBy_eq⟩
      next => cases stepped
  | run thread =>
      simp only [State.step] at stepped
      split at stepped
      next =>
        cases stepped
        exact ⟨since.closed, since.val_eq, since.received_eq, since.receivedBy_eq⟩
      next => cases stepped
  | receive thread =>
      simp only [State.step, Channel.State.step] at stepped
      split_ifs at stepped
      · cases stepped
        exact fails thread s.cq.cond
      · cases stepped
  | resume thread =>
      simp only [State.step, Channel.State.step] at stepped
      split_ifs at stepped
      · cases stepped
        exact fails thread (s.cq.cond.resume thread)
      · cases stepped
  | spurious thread =>
      simp only [State.step, Channel.State.step] at stepped
      split_ifs at stepped
      · cases stepped
        exact ⟨since.closed, since.val_eq, since.received_eq, since.receivedBy_eq⟩
      · cases stepped
  | send thread callback woken =>
      simp only [State.step] at stepped
      split_ifs at stepped
      obtain ⟨cq, sending, rfl⟩ := Option.map_eq_some_iff.mp stepped
      obtain ⟨_, rfl⟩ | ⟨sendOpen, _⟩ := Channel.step_send sending
      · exact since.concat rfl rfl rfl fun _ => rfl
      · rw [invariant.closed since.closed] at sendOpen
        cases sendOpen
  | closeSendEnd thread =>
      simp only [State.step, Channel.State.step] at stepped
      split_ifs at stepped
      · cases stepped
        refine ⟨since.closed, since.val_eq, ?_, fun other => ?_⟩
        · rw [Channel.received_concat, since.received_eq]
          exact List.append_nil _
        · rw [receivedBy_concat, since.receivedBy_eq]
          exact List.append_nil _
      · cases stepped
  | closeReceiveEnd thread =>
      simp only [State.step, Channel.State.step] at stepped
      split_ifs at stepped
      · cases stepped
        refine ⟨rfl, since.val_eq, ?_, fun other => ?_⟩
        · rw [Channel.received_concat, since.received_eq]
          exact List.append_nil _
        · rw [receivedBy_concat, since.receivedBy_eq]
          exact List.append_nil _
      · cases stepped

/-- On a closed queue a poller returns after at most two steps of its own, and runs what it has in
its hand. -/
theorem Invariant.returns (invariant : Invariant s)
    (closed : s.cq.channel.isReceiveClosed = true) (thread : θ) :
    ∃ own final, own.length ≤ 2 ∧ (∀ label ∈ own, label.thread = thread) ∧
      State.system.run s own = some final ∧ final.poller thread = .outside ∧
        ranBy thread final.ran = ranBy thread s.ran ++ (s.poller thread).inHand := by
  cases position : s.poller thread with
  | outside =>
      exact ⟨[], s, by simp, by simp, rfl, position, (List.append_nil _).symm⟩
  | receiving =>
      have receiving : (s.poller thread).isReceiving = true := by rw [position]; rfl
      by_cases notified : thread ∈ s.cq.cond.notified
      · refine ⟨[.resume thread], _, by simp, by simp [Label.thread],
          run_cons_eq_some.mpr ⟨_, step_resume receiving notified, rfl⟩, ?_,
          (List.append_nil _).symm⟩
        simp [State.setPoller, afterReceive_of_closed closed]
      · have outside : s.cq.cond.Outside thread := by
          refine ⟨fun waits => ?_, notified⟩
          have isOpen := (invariant.channel.open_of_waiting (List.ne_nil_of_mem waits)).2
          rw [closed] at isOpen
          cases isOpen
        refine ⟨[.receive thread], _, by simp, by simp [Label.thread],
          run_cons_eq_some.mpr ⟨_, step_receive receiving outside, rfl⟩, ?_,
          (List.append_nil _).symm⟩
        simp [State.setPoller, afterReceive_of_closed closed]
  | received callback =>
      have elsewhere : (s.poller thread).isReceiving = false := by rw [position]; rfl
      have outside := invariant.inside thread elsewhere
      have runs : s.step (.run thread) =
          some { s.setPoller thread .receiving with ran := s.ran ++ [(thread, callback)] } := by
        simp [State.step, position]
      have receiving : ((s.setPoller thread .receiving).poller thread).isReceiving = true := by
        simp [State.setPoller, Poller.isReceiving]
      refine ⟨[.run thread, .receive thread], _, by simp, by simp [Label.thread],
        run_cons_eq_some.mpr ⟨_, runs, run_cons_eq_some.mpr
          ⟨_, step_receive receiving outside, rfl⟩⟩, ?_, ?_⟩
      · simp [State.setPoller, State.afterReceive, Channel.ready, closed,
          receive_of_closed closed]
      · simp [State.setPoller, ranBy_concat, Poller.inHand]

/-! ## Runs -/

/-- In every state that the threads reach, the callbacks that were handed over are, in order, those
received and those still queued; every thread has run exactly what it has received, in order, but
for the callback in its hand; and while a callback is queued and a thread polls, some poller can
take it in its next step. -/
theorem polled_in_order {labels : List (Label θ α)}
    (execution : State.system.run State.initial labels = some s) :
    sent s.cq.log = received s.cq.log ++ s.cq.channel.val ∧
      (∀ thread,
        receivedBy thread s.cq.log = ranBy thread s.ran ++ (s.poller thread).inHand) ∧
      ∀ callback rest thread, s.cq.channel.val = callback :: rest →
        s.cq.log.any Entry.closesReceive = false → (s.poller thread).isReceiving = true →
          ∃ (taker : θ) (label : Label θ α) (s' : State θ α), s.step label = some s' ∧
            s'.poller taker = .received callback ∧
              received s'.cq.log = received s.cq.log ++ [callback] := by
  have invariant := run_invariant execution
  refine ⟨invariant.channel.recorded.queued, invariant.handed, ?_⟩
  intro callback rest thread front receiveOpen polls
  rw [← invariant.channel.recorded.receiveClosed] at receiveOpen
  exact invariant.takes front receiveOpen polls

/-- A poller waits and is woken for the callback that another thread sends. -/
theorem polled_in_order_woken : ∃ s : State (Fin 2) Bool,
    State.system.run State.initial [.poll 0, .receive 0, .send 1 true (some 0)] = some s ∧
      sent s.cq.log = [true] ∧
        ∃ (taker : Fin 2) (label : Label (Fin 2) Bool) (s' : State (Fin 2) Bool),
          s.step label = some s' ∧ s'.poller taker = .received true ∧
            received s'.cq.log = received s.cq.log ++ [true] := by
  have computed : (State.system.run (State.initial : State (Fin 2) Bool)
      [.poll 0, .receive 0, .send 1 true (some 0)]).any
      (fun s => decide (sent s.cq.log = [true] ∧ s.cq.channel.val = [true] ∧
        s.cq.log.any Entry.closesReceive = false ∧ (s.poller 0).isReceiving = true)) = true := by
    decide +kernel
  obtain ⟨s, execution, facts⟩ := (Option.any_eq_true _ _).mp computed
  obtain ⟨all, queued, isOpen, polls⟩ := of_decide_eq_true facts
  exact ⟨s, execution, all, (polled_in_order execution).2.2 true [] 0 queued isOpen polls⟩

/-- Once `CloseCompletionQueue` has returned, nothing is taken from the queue any more, whatever the
threads do; every thread runs what it has in its hand and returns from the loop after at most two
steps of its own. -/
theorem closed_queue_returns {labels later : List (Label θ α)}
    (execution : State.system.run State.initial labels = some s)
    (closed : s.cq.log.any Entry.closesReceive = true)
    (continued : State.system.run s later = some s') :
    received s'.cq.log = received s.cq.log ∧ s'.cq.channel.val = s.cq.channel.val ∧
      ∀ thread,
        ranBy thread s'.ran ++ (s'.poller thread).inHand =
            ranBy thread s.ran ++ (s.poller thread).inHand ∧
          ∃ own final, own.length ≤ 2 ∧ (∀ label ∈ own, label.thread = thread) ∧
            State.system.run s' own = some final ∧ final.poller thread = .outside ∧
              ranBy thread final.ran = ranBy thread s'.ran ++ (s'.poller thread).inHand := by
  have before := run_invariant execution
  rw [← before.channel.recorded.receiveClosed] at closed
  have preserved (middle : State θ α) (label : Label θ α) (next : State θ α)
      (both : Invariant middle ∧ ClosedSince s middle)
      (stepped : State.system.step middle label = some next) :
      Invariant next ∧ ClosedSince s next :=
    ⟨both.1.step stepped, both.2.step both.1 stepped⟩
  obtain ⟨after, since⟩ := StepSystem.run_invariant preserved
    ⟨before, closed, rfl, rfl, fun _ => rfl⟩ continued
  refine ⟨since.received_eq, since.val_eq, fun thread => ⟨?_, after.returns since.closed thread⟩⟩
  rw [← after.handed thread, ← before.handed thread]
  exact since.receivedBy_eq thread

end Steps

/-- A poller waits, is handed the first of two callbacks and is still to run it when the queue is
closed. -/
def closedInHand : List (Label (Fin 3) Bool) :=
  [.poll 0, .receive 0, .send 1 true (some 0), .resume 0, .send 1 false none, .closeSendEnd 2,
    .closeReceiveEnd 2]

/-- The callback in its hand is run, the one in the queue is not. -/
theorem closed_queue_returns_inHand : ∃ s s' : State (Fin 3) Bool,
    State.system.run State.initial closedInHand = some s ∧
      State.system.run s [.run 0] = some s' ∧ s'.ran = [(0, true)] ∧
        received s'.cq.log = received s.cq.log ∧ s'.cq.channel.val = [false] := by
  have computed : (State.system.run (State.initial : State (Fin 3) Bool) closedInHand).any
      (fun s => decide (s.cq.log.any Entry.closesReceive = true ∧ s.cq.channel.val = [false]) &&
        (State.system.run s [.run 0]).any fun s' => decide (s'.ran = [(0, true)])) = true := by
    decide +kernel
  obtain ⟨s, execution, facts⟩ := (Option.any_eq_true _ _).mp computed
  rw [Bool.and_eq_true, decide_eq_true_eq] at facts
  obtain ⟨⟨closed, queued⟩, facts⟩ := facts
  obtain ⟨s', continued, ran⟩ := (Option.any_eq_true _ _).mp facts
  obtain ⟨taken, same, _⟩ := closed_queue_returns execution closed continued
  exact ⟨s, s', execution, continued, of_decide_eq_true ran, taken, same.trans queued⟩

end Klibmsg.CompletionQueue
