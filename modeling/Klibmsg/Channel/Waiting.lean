import Klibmsg.Channel
import Klibmsg.Library.CondVar
import Klibmsg.Library.StepSystem

/-!
# Threads on a channel

Any number of threads use one channel.  A critical section is one step; a `Receive` whose predicate
does not hold gives up the lock inside `wait`, and runs its critical section again once it has been
woken.  Meanwhile other receivers may come and take the value that it was woken for.
-/

namespace Klibmsg.Channel

open StepSystem

/-- What the critical sections did, in order. -/
inductive Entry (θ α : Type) where
  | send (thread : θ) (item : α) (rc : Int)
  | receive (thread : θ) (result : Option α)
  | closeSendEnd (thread : θ)
  | closeReceiveEnd (thread : θ)
deriving DecidableEq, Repr

/-- A channel with its threads. -/
structure State (θ α : Type) where
  channel : Channel α
  cond : CondVar θ
  log : List (Entry θ α)

/-- A critical section of a thread. -/
inductive Label (θ α : Type) where
  /-- `Send`, whose `notify_one` wakes the given thread. -/
  | send (thread : θ) (item : α) (woken : Option θ)
  /-- `Receive`, up to its first `wait` or its return. -/
  | receive (thread : θ)
  /-- `Receive` of a thread that was woken. -/
  | resume (thread : θ)
  /-- A thread returns from `wait` although nobody has notified it. -/
  | spurious (thread : θ)
  | closeSendEnd (thread : θ)
  | closeReceiveEnd (thread : θ)
deriving DecidableEq, Repr

/-- The predicate of the wait of `Receive`. -/
def ready {α : Type} (channel : Channel α) : Bool :=
  !channel.val.isEmpty || channel.isReceiveClosed || channel.isSendClosed

namespace State

variable {θ α : Type}

/-- A channel that no thread has used. -/
def initial : State θ α := ⟨.new, .new, []⟩

/-- The critical section of `Receive`. -/
def receiveSection (s : State θ α) (thread : θ) : State θ α :=
  if s.channel.ready then
    { s with
      channel := s.channel.receive.2, log := s.log ++ [.receive thread s.channel.receive.1] }
  else
    { s with cond := s.cond.wait thread }

variable [DecidableEq θ]

/-- One critical section.  A thread inside `wait` calls nothing else. -/
def step (s : State θ α) : Label θ α → Option (State θ α)
  | .send thread item woken =>
      if s.cond.Outside thread then
        match s.channel.send item with
        | (rc, channel) =>
            let log := s.log ++ [.send thread item rc]
            if rc = 0 then
              (s.cond.notifyOne woken).map fun cond => ⟨channel, cond, log⟩
            else
              some ⟨channel, s.cond, log⟩
      else none
  | .receive thread => if s.cond.Outside thread then some (s.receiveSection thread) else none
  | .resume thread =>
      if thread ∈ s.cond.notified then
        some ({ s with cond := s.cond.resume thread }.receiveSection thread)
      else none
  | .spurious thread =>
      if thread ∈ s.cond.waiting then some { s with cond := s.cond.wake thread } else none
  | .closeSendEnd thread =>
      if s.cond.Outside thread then
        some ⟨s.channel.closeSendEnd, s.cond.notifyAll, s.log ++ [.closeSendEnd thread]⟩
      else none
  | .closeReceiveEnd thread =>
      if s.cond.Outside thread then
        some ⟨s.channel.closeReceiveEnd, s.cond.notifyAll, s.log ++ [.closeReceiveEnd thread]⟩
      else none

/-- The runs of a channel. -/
def system : StepSystem (State θ α) (Label θ α) where
  step := step

end State

section Histories

variable {θ α : Type}

/-- The value of a `Send` that succeeded. -/
@[simp]
def Entry.sent : Entry θ α → Option α
  | send _ item rc => if rc = 0 then some item else none
  | _ => none

/-- The value that a `Receive` returned. -/
@[simp]
def Entry.received : Entry θ α → Option α
  | receive _ result => result
  | _ => none

/-- The entry closes the send end. -/
@[simp]
def Entry.closesSend : Entry θ α → Bool
  | closeSendEnd _ => true
  | _ => false

/-- The entry closes the receive end. -/
@[simp]
def Entry.closesReceive : Entry θ α → Bool
  | closeReceiveEnd _ => true
  | _ => false

/-- The values of the successful `Send`s, in order. -/
def sent (log : List (Entry θ α)) : List α := log.filterMap Entry.sent

/-- The values of the successful `Receive`s, in order. -/
def received (log : List (Entry θ α)) : List α := log.filterMap Entry.received

@[simp]
theorem sent_concat (log : List (Entry θ α)) (entry : Entry θ α) :
    sent (log ++ [entry]) = sent log ++ entry.sent.toList := by
  simp only [sent, List.filterMap_append, List.append_cancel_left_eq]
  cases outcome : entry.sent with
  | none => exact List.filterMap_cons_none outcome
  | some item => exact List.filterMap_cons_some outcome

@[simp]
theorem received_concat (log : List (Entry θ α)) (entry : Entry θ α) :
    received (log ++ [entry]) = received log ++ entry.received.toList := by
  simp only [received, List.filterMap_append, List.append_cancel_left_eq]
  cases outcome : entry.received with
  | none => exact List.filterMap_cons_none outcome
  | some item => exact List.filterMap_cons_some outcome

/-- The log accounts for the queued values and for the close flags. -/
structure Recorded (channel : Channel α) (log : List (Entry θ α)) : Prop where
  queued : sent log = received log ++ channel.val
  sendClosed : channel.isSendClosed = log.any Entry.closesSend
  receiveClosed : channel.isReceiveClosed = log.any Entry.closesReceive

theorem Recorded.concat {channel channel' : Channel α} {log : List (Entry θ α)}
    {entry : Entry θ α} (recorded : Recorded channel log)
    (values : channel.val ++ entry.sent.toList = entry.received.toList ++ channel'.val)
    (sendClosed : channel'.isSendClosed = (channel.isSendClosed || entry.closesSend))
    (receiveClosed : channel'.isReceiveClosed = (channel.isReceiveClosed || entry.closesReceive)) :
    Recorded channel' (log ++ [entry]) := by
  refine ⟨?_, ?_, ?_⟩
  · rw [sent_concat, received_concat, recorded.queued, List.append_assoc, values, List.append_assoc]
  · rw [sendClosed, recorded.sendClosed]
    simp
  · rw [receiveClosed, recorded.receiveClosed]
    simp

/-- What the critical sections preserve. -/
structure Invariant (s : State θ α) : Prop where
  recorded : Recorded s.channel s.log
  open_of_waiting : s.cond.waiting ≠ [] →
    s.channel.isSendClosed = false ∧ s.channel.isReceiveClosed = false
  covers : s.cond.Covers s.channel.val.length
  separate : s.cond.Separate

theorem initial_invariant : Invariant (State.initial : State θ α) :=
  ⟨⟨rfl, rfl, rfl⟩, fun waits => absurd rfl waits, CondVar.covers_zero _, CondVar.separate_new⟩

end Histories

section Run

variable {θ α : Type} {s s' : State θ α} {thread : θ} {item : α} {woken : Option θ}

/-- The critical section of `Receive` uses up at most one of the values. -/
theorem Recorded.receiveSection (recorded : Recorded s.channel s.log)
    (open_of_waiting : s.cond.waiting ≠ [] →
      s.channel.isSendClosed = false ∧ s.channel.isReceiveClosed = false)
    (covers : s.cond.Covers (s.channel.val.length - 1)) (separate : s.cond.Separate)
    (outside : s.cond.Outside thread) : Invariant (s.receiveSection thread) := by
  rw [State.receiveSection]
  split
  next isReady =>
    rw [Channel.receive]
    split
    next empty =>
      refine ⟨recorded.concat (by simp) (by simp) (by simp), open_of_waiting, ?_, separate⟩
      rw [empty]
      exact CondVar.covers_zero _
    next item rest front =>
      split_ifs with closed
      · refine ⟨recorded.concat (by simp) (by simp) (by simp), open_of_waiting,
          fun waits => ?_, separate⟩
        rw [(open_of_waiting waits).2] at closed
        cases closed
      · refine ⟨recorded.concat (by simp [front]) (by simp) (by simp), open_of_waiting, ?_,
          separate⟩
        simpa [front] using covers
  next notReady =>
    simp only [ready, Bool.or_eq_true, Bool.not_eq_eq_eq_not, Bool.not_true, not_or,
      Bool.not_eq_true, Bool.not_eq_false, List.isEmpty_iff] at notReady
    obtain ⟨⟨empty, receiveOpen⟩, sendOpen⟩ := notReady
    refine ⟨recorded, fun _ => ⟨sendOpen, receiveOpen⟩, ?_, separate.wait outside⟩
    simp only [empty]
    exact CondVar.covers_zero _

variable [DecidableEq θ]

/-- `Send` fails on a closed send end, where it changes nothing, and else wakes one receiver. -/
theorem step_send (stepped : s.step (.send thread item woken) = some s') :
    (s.channel.isSendClosed = true ∧
      s' = { s with log := s.log ++ [.send thread item (-1)] }) ∨
    s.channel.isSendClosed = false ∧ ∃ cond, s.cond.notifyOne woken = some cond ∧
      s' = ⟨{ s.channel with val := s.channel.val ++ [item] }, cond,
        s.log ++ [.send thread item 0]⟩ := by
  rw [State.step] at stepped
  split_ifs at stepped
  cases closed : s.channel.isSendClosed with
  | true =>
      simp only [Channel.send, closed, if_true] at stepped
      cases stepped
      exact .inl ⟨rfl, rfl⟩
  | false =>
      simp only [Channel.send, closed, Bool.false_eq_true, if_false, if_true] at stepped
      obtain ⟨cond, notified, rfl⟩ := Option.map_eq_some_iff.mp stepped
      exact .inr ⟨rfl, cond, notified, by simp [closed]⟩

theorem Invariant.step {label : Label θ α} (invariant : Invariant s)
    (stepped : s.step label = some s') : Invariant s' := by
  obtain ⟨recorded, open_of_waiting, covers, separate⟩ := invariant
  cases label with
  | send thread item woken =>
      obtain ⟨closed, rfl⟩ | ⟨sendOpen, cond, notified, rfl⟩ := step_send stepped
      · exact ⟨recorded.concat (by simp) (by simp) (by simp), open_of_waiting, covers, separate⟩
      · refine ⟨recorded.concat (by simp) (by simp) (by simp), fun waits => ?_, ?_,
          separate.notifyOne notified⟩
        · refine open_of_waiting fun empty => ?_
          obtain ⟨_, rfl⟩ | ⟨thread, member, _⟩ := CondVar.notifyOne_cases notified
          · exact waits empty
          · simp [empty] at member
        · simpa using covers.notifyOne notified
  | receive thread =>
      simp only [State.step] at stepped
      split_ifs at stepped with outside
      cases stepped
      exact recorded.receiveSection open_of_waiting (covers.mono (Nat.sub_le _ 1)) separate outside
  | resume thread =>
      simp only [State.step] at stepped
      split_ifs at stepped with notified
      cases stepped
      exact Recorded.receiveSection (s := { s with cond := s.cond.resume thread }) recorded
        open_of_waiting (covers.resume notified) separate.resume (separate.resume_outside notified)
  | spurious thread =>
      simp only [State.step] at stepped
      split_ifs at stepped with waits
      cases stepped
      exact ⟨recorded, fun _ => open_of_waiting (List.ne_nil_of_mem waits),
        (covers.wake waits).mono (Nat.le_succ _), separate.wake waits⟩
  | closeSendEnd thread =>
      simp only [State.step] at stepped
      split_ifs at stepped with outside
      cases stepped
      exact ⟨recorded.concat (by simp [closeSendEnd]) (by simp [closeSendEnd])
        (by simp [closeSendEnd]), fun waits => absurd rfl waits,
        CondVar.covers_notifyAll _ _, separate.notifyAll⟩
  | closeReceiveEnd thread =>
      simp only [State.step] at stepped
      split_ifs at stepped with outside
      cases stepped
      exact ⟨recorded.concat (by simp [closeReceiveEnd]) (by simp [closeReceiveEnd])
        (by simp [closeReceiveEnd]), fun waits => absurd rfl waits,
        CondVar.covers_notifyAll _ _, separate.notifyAll⟩

theorem run_invariant {labels : List (Label θ α)}
    (execution : State.system.run State.initial labels = some s) : Invariant s :=
  StepSystem.run_invariant (fun _ _ _ invariant stepped => invariant.step stepped)
    initial_invariant execution

omit [DecidableEq θ] in
/-- With the receive end open, the critical section of `Receive` takes the first value. -/
theorem receiveSection_of_cons {rest : List α} (front : s.channel.val = item :: rest)
    (receiveOpen : s.channel.isReceiveClosed = false) :
    s.receiveSection thread =
      { s with
        channel := { s.channel with val := rest }
        log := s.log ++ [.receive thread (some item)] } := by
  rw [State.receiveSection, if_pos (by simp [ready, front])]
  simp [Channel.receive, front, receiveOpen]

/-- A thread that is not inside `wait` can receive all values, whether or not the send end is
closed. -/
theorem receive_all (recorded : Recorded s.channel s.log) (outside : s.cond.Outside thread)
    (receiveOpen : s.channel.isReceiveClosed = false) :
    ∃ s', State.system.run s (.replicate s.channel.val.length (.receive thread)) = some s' ∧
      received s'.log = sent s.log ∧ sent s'.log = sent s.log := by
  obtain ⟨channel, cond, log⟩ := s
  obtain ⟨val, isSendClosed, isReceiveClosed⟩ := channel
  dsimp only at receiveOpen outside recorded ⊢
  subst receiveOpen
  induction val generalizing log with
  | nil => exact ⟨_, rfl, by simpa using recorded.queued.symm, rfl⟩
  | cons item rest ih =>
      have taken : Recorded ⟨rest, isSendClosed, false⟩ (log ++ [.receive thread (some item)]) :=
        recorded.concat (by simp) (by simp) (by simp)
      obtain ⟨s', execution, all, unchanged⟩ := ih _ taken
      refine ⟨s', run_cons_eq_some.mpr ⟨_, ?_, execution⟩, by simpa using all,
        by simpa using unchanged⟩
      simp only [State.system, State.step, if_pos outside]
      rw [receiveSection_of_cons rfl rfl]

/-- What a channel promises to its threads. -/
structure Sound (s : State θ α) : Prop where
  /-- Nothing is lost, duplicated or reordered. -/
  ordered : received s.log <+: sent s.log
  /-- A `Send` is never blocked. -/
  send_enabled : ∀ thread item, s.cond.Outside thread →
    ∃ woken s', s.step (.send thread item woken) = some s'
  /-- It fails exactly when the send end is closed, and then changes nothing. -/
  send_fails : ∀ thread item woken s', s.step (.send thread item woken) = some s' →
    ∃ rc, s'.log = s.log ++ [.send thread item rc] ∧
      (rc ≠ 0 ↔ s.log.any Entry.closesSend = true) ∧
        (rc ≠ 0 → s'.channel = s.channel ∧ s'.cond = s.cond)
  /-- What was sent can be received until the receive end is closed. -/
  receivable : ∀ thread, s.cond.Outside thread → s.log.any Entry.closesReceive = false →
    ∃ s', State.system.run s (.replicate s.channel.val.length (.receive thread)) = some s' ∧
      received s'.log = sent s.log
  /-- No receiver is stuck. -/
  woken : ∀ thread ∈ s.cond.waiting, s.log.any Entry.closesSend = false ∧
    s.log.any Entry.closesReceive = false ∧ s.channel.val.length ≤ s.cond.notified.length
  /-- A receiver is counted once. -/
  separate : s.cond.Separate

/-- Every state that the threads of a channel reach is sound. -/
theorem channel_sound {labels : List (Label θ α)}
    (execution : State.system.run State.initial labels = some s) : Sound s := by
  have invariant := run_invariant execution
  have recorded := invariant.recorded
  refine ⟨?_, ?_, ?_, ?_, ?_, invariant.separate⟩
  · rw [recorded.queued]
    exact List.prefix_append _ _
  · intro thread item outside
    obtain ⟨woken, cond, notified⟩ := s.cond.exists_notifyOne
    cases closed : s.channel.isSendClosed with
    | true => exact ⟨none, _, by simp [State.step, outside, Channel.send, closed]; rfl⟩
    | false => exact ⟨woken, _, by simp [State.step, outside, Channel.send, closed, notified]; rfl⟩
  · intro thread item woken s' stepped
    rw [← recorded.sendClosed]
    obtain ⟨closed, rfl⟩ | ⟨sendOpen, cond, notified, rfl⟩ := step_send stepped
    · exact ⟨-1, rfl, by simp [closed], fun _ => ⟨rfl, rfl⟩⟩
    · exact ⟨0, rfl, by simp [sendOpen], fun failed => absurd rfl failed⟩
  · intro thread outside receiveOpen
    rw [← recorded.receiveClosed] at receiveOpen
    obtain ⟨s', execution', all, _⟩ := receive_all recorded outside receiveOpen
    exact ⟨s', execution', all⟩
  · intro thread member
    have waits := List.ne_nil_of_mem member
    rw [← recorded.sendClosed, ← recorded.receiveClosed]
    exact ⟨(invariant.open_of_waiting waits).1, (invariant.open_of_waiting waits).2,
      invariant.covers waits⟩

end Run

/-- A receiver waits, is woken, and finds that another one has taken the value. -/
theorem channel_sound_stolen : ∃ s : State (Fin 3) Bool,
    State.system.run State.initial
      [.receive 0, .send 1 true (some 0), .receive 2, .resume 0] = some s ∧
      s.cond.waiting = [0] ∧ received s.log = [true] ∧ Sound s := by
  have computed : (State.system.run (State.initial : State (Fin 3) Bool)
      [.receive 0, .send 1 true (some 0), .receive 2, .resume 0]).any
      (fun s => decide (s.cond.waiting = [0] ∧ received s.log = [true])) = true := by
    decide +kernel
  obtain ⟨s, execution, facts⟩ := (Option.any_eq_true _ _).mp computed
  obtain ⟨waiting, taken⟩ := of_decide_eq_true facts
  exact ⟨s, execution, waiting, taken, channel_sound execution⟩

end Klibmsg.Channel
