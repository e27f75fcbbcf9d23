import Klibmsg.Socket.Outcome

/-!
# What decides a connection attempt

No attempt is left open by an answer: the reply of `connect()` decides it unless the connection is
in progress, and after that the first `OUT` or `ERR` of the descriptor does.
-/

namespace Klibmsg

/-- How an attempt can end. -/
inductive AttemptVerdict where
  | connected
  | refused
deriving DecidableEq, Repr

/-- The record of the step that ends it. -/
def AttemptVerdict.record : AttemptVerdict → List Int × NetSockState
  | connected => ([kNetSockEventTypeConnected], .active)
  | refused => ([kNetSockEventTypeError], .done)

/-- What the reply of `connect()` decides. -/
def Sys.connectVerdict (sys : Sys) : Option AttemptVerdict :=
  if sys.connect = 0 then
    some .connected
  else if sys.connect ≠ EINPROGRESS then
    some .refused
  else
    none

/-- What an event of the descriptor decides. -/
def Sys.fdVerdict (sys : Sys) (type : Int) : Option AttemptVerdict :=
  if type = kNetWorkerFdOut then
    some (if sys.soError = 0 then .connected else .refused)
  else if type = kNetWorkerFdErr then
    some .refused
  else
    none

/-- What a step decides while the socket is in `Connecting`.  A stop task that was queued before the
attempt runs into the code of `RemovingFd`. -/
def attemptVerdict (x : SockId) (w : World) : AttemptLabel → Option AttemptVerdict
  | .event sys =>
      match (w.pollerOf x).event with
      | .ok (some (type, hndl), _) => if hndl = .sock x then sys.fdVerdict type else none
      | _ => none
  | .task .stop _ => some .refused
  | _ => none

/-- In `Connecting` a step decides what its answers say and nothing else, and an event that decides
the attempt goes through. -/
structure Attempt.Decides (x : SockId) (a : Attempt) : Prop where
  exact : ∀ label a', (attemptSystem x).step a label = some a' →
    a'.decided = ((attemptVerdict x a.world label).map AttemptVerdict.record).toList
  answers : ∀ sys verdict, attemptVerdict x a.world (.event sys) = some verdict → sys.close = 0 →
    ∃ a', (attemptSystem x).step a (.event sys) = some a'

section Pollers

variable {poller after : NetPoller Handle} {x : SockId} {w w' : World}

theorem NetPoller.wait_batch {replies : List (WaitReply Handle)}
    {outcome : Except Fault (NetPoller Handle)} (waited : poller.wait replies = some outcome)
    (done : outcome = .ok after) : after.nevents ≤ after.events.length := by
  rw [wait] at waited
  dsimp only at waited
  split at waited
  · cases waited
  next nevents entries replied =>
    split_ifs at waited <;> cases waited <;> cases done
    have bounded : nevents ≤ entries.length := by
      induction replies with
      | nil => cases replied
      | cons reply rest ih =>
          cases reply with
          | ready found =>
              cases replied
              exact le_rfl
          | fails errno =>
              rw [epollWait] at replied
              split_ifs at replied
              · exact ih replied
              · cases replied
                exact Int.le_of_lt (Int.negSucc_lt_zero 0)
    simp only [List.length_append, Nat.cast_add]
    omega

/-- An event of the poller lies inside the batch, whose size stays. -/
theorem NetPoller.event_batch {result : Option (Int × Handle)}
    (done : poller.event = .ok (result, after)) :
    after.nevents = poller.nevents ∧ after.events.length = poller.events.length ∧
      (result ≠ none → (after.index : Int) ≤ after.nevents) := by
  rw [event] at done
  split at done
  · cases done
  · dsimp only at done
    split_ifs at done with past
    · cases done
      exact ⟨rfl, rfl, fun some => absurd rfl some⟩
    · split at done
      · cases done
      · split_ifs at done <;> cases done <;> refine ⟨rfl, by simp [setEntry], fun _ => ?_⟩
        · exact (Int.not_le.mp past).le
        · exact (Int.not_le.mp past).le
        · simp only [Nat.cast_add]
          omega

theorem World.Polls.setPoller (polls : w.Polls) {poller : NetPoller Handle}
    (interest : poller.interest = (w.pollerOf x).interest)
    (batch : poller.nevents ≤ poller.events.length) : (w.setPoller x poller).Polls := by
  have stored (k : WorkerId) : ((w.setPoller x poller).worker k).poller =
      if k = (w.sock x).worker then poller else (w.worker k).poller := by
    by_cases own : k = (w.sock x).worker
    · subst own
      simp [World.setPoller]
    · simp [World.setPoller, own]
  refine ⟨fun k fd isClosed => ?_, fun k => ?_⟩
  · rw [stored]
    split_ifs
    · rw [interest]
      exact polls.closed _ fd isClosed
    · exact polls.closed k fd isClosed
  · rw [stored]
    split_ifs
    · exact batch
    · exact polls.batch k

/-- Every step of an attempt keeps the pollers. -/
theorem attemptStep_polls {label : AttemptLabel} (polls : w.Polls)
    (stepped : attemptStep x w label = some w') : w'.Polls := by
  cases label with
  | wait replies =>
      obtain ⟨outcome, waited, stored⟩ := Option.bind_eq_some_iff.mp stepped
      obtain ⟨poller, done, rfl⟩ := Option.map_eq_some_iff.mp stored
      have called := ok_of_toOption done
      exact polls.setPoller (NetPoller.wait_interest waited called)
        (NetPoller.wait_batch waited called)
  | event sys =>
      obtain ⟨⟨result, poller⟩, event, fed⟩ := Option.bind_eq_some_iff.mp stepped
      have called := ok_of_toOption event
      obtain ⟨nevents, length, -⟩ := NetPoller.event_batch called
      have polled : (w.setPoller x poller).Polls :=
        polls.setPoller (NetPoller.event_interest called)
          (nevents ▸ length ▸ polls.batch (w.sock x).worker)
      have fed := ok_of_toOption fed
      cases result with
      | none =>
          cases fed
          exact polled
      | some found =>
          obtain ⟨type, hndl⟩ := found
          simp only [feedEvent] at fed
          split_ifs at fed
          · have steps : SocketSteps .all (w.setPoller x poller) w' := by
              refine feed_steps ?_ (fun _ => trivial) (fun _ _ _ => trivial) fed
              obtain rfl | rfl | rfl := NetPoller.event_type called <;> decide
            exact polled.steps steps
          · cases fed
            exact polled
  | task name sys =>
      simp only [attemptStep] at stepped
      split_ifs at stepped
      have unqueued : (w.unqueueTask ⟨x, name⟩).Polls := polls.same (fun _ => rfl) fun _ => id
      have fed : feed sys (TaskId.mk x name).sock (TaskId.mk x name).name.src
          kNetWorkerTaskExecute (w.unqueueTask ⟨x, name⟩) = .ok w' := ok_of_toOption stepped
      have steps : SocketSteps .all (w.unqueueTask ⟨x, name⟩) w' := feedTask_steps fed
      exact unqueued.steps steps
  | pushMsg msg =>
      cases stepped
      exact polls.same (fun _ => rfl) fun _ => id
  | executeSend =>
      cases stepped
      exact polls.execute _

end Pollers

/-! ## The step that decides -/

section Deciding

variable {x : SockId} {sys : Sys} {w v v' : World} {a a' : Attempt}

theorem feed_fd_eq (sys : Sys) (type : Int) (alive : x ∉ v.freed)
    (running : (v.sock x).fsm.state ≠ .stopping) :
    feed sys x kNetSockSrcFd type v =
      stateSwitch (nestedAction sys) x sys kNetSockSrcFd type (v.sock x).state v := by
  simp only [feed, feedWithin]
  rw [if_neg alive, if_neg running]
  rfl

theorem Held.running {state : NetSockState} (held : Held x w v state) :
    (v.sock x).fsm.state ≠ .stopping := by
  rw [held.fsm_eq]
  decide

theorem Held.badSource {state : NetSockState} (held : Held x w v state) (src type : Int) :
    Held x w (v.netFsmBadSource x src type) state :=
  held.attends (.report v x _) (held.life_state (World.life_report v _))

/-- The events of the descriptor while the socket connects. -/
theorem Held.feed_connecting (held : Held x w v .connecting) (sys : Sys) :
    feed sys x kNetSockSrcFd kNetWorkerFdOut v = connectingFdOut x sys v ∧
      feed sys x kNetSockSrcFd kNetWorkerFdErr v = Klibmsg.removeAndFail x sys v ∧
        feed sys x kNetSockSrcFd kNetWorkerFdIn v =
          activeFdIn x sys ((v.netFsmBadAction x kNetSockSrcFd kNetWorkerFdIn).netFsmBadSource x
            kNetSockSrcFd kNetWorkerFdIn) := by
  refine ⟨?_, ?_, ?_⟩
  · rw [feed_fd_eq sys _ held.alive held.running, held.state_eq]
    rfl
  · rw [feed_fd_eq sys _ held.alive held.running, held.state_eq]
    rfl
  · rw [feed_fd_eq sys _ held.alive held.running, held.state_eq]
    rfl

/-- The stop task while the socket connects. -/
theorem Held.feed_stop (held : Held x w v .connecting) (sys : Sys) :
    feed sys x kNetSockSrcTaskStop kNetWorkerTaskExecute v =
      Klibmsg.removeAndFail x sys
        ((v.netFsmBadSource x kNetSockSrcTaskStop kNetWorkerTaskExecute).netFsmBadSource x
          kNetSockSrcTaskStop kNetWorkerTaskExecute) := by
  simp only [feed, feedWithin]
  rw [if_neg held.alive, if_neg held.running]
  change stateSwitch _ x sys kNetSockSrcTaskStop kNetWorkerTaskExecute (v.sock x).state v = _
  rw [held.state_eq]
  rfl

/-- The state in which `OUT` leaves a connecting socket. -/
theorem connectingFdOut_state (done : connectingFdOut x sys v = .ok v') :
    (v'.sock x).state = if sys.soError = 0 then .active else .done := by
  obtain ⟨reset, resetting, rest⟩ := bind_eq_ok.mp done
  dsimp only at rest
  split_ifs at rest ⊢ with connects
  · cases rest
    simp
  · obtain ⟨removed, removing, closing⟩ := bind_eq_ok.mp rest
    split_ifs at closing
    cases closing
    simp

theorem Held.fdEvent_state {type : Int} (held : Held x w v .connecting)
    (nonneg : 0 ≤ (w.sock x).s)
    (event : type = kNetWorkerFdIn ∨ type = kNetWorkerFdOut ∨ type = kNetWorkerFdErr)
    (done : feed sys x kNetSockSrcFd type v = .ok v') :
    (v'.sock x).state = ((sys.fdVerdict type).map fun verdict => verdict.record.2).getD
      .connecting := by
  obtain ⟨out, err, input⟩ := held.feed_connecting sys
  obtain rfl | rfl | rfl := event
  · rw [input] at done
    have same := activeFdIn_life done
    have state : (v'.sock x).state = (v.sock x).state :=
      congrArg Control.state (congrFun (congrArg LifeView.control same) x)
    rw [state, held.state_eq]
    rfl
  · rw [out] at done
    rw [connectingFdOut_state done, Sys.fdVerdict, if_pos rfl]
    split_ifs <;> rfl
  · rw [err] at done
    exact (held.removeAndFail nonneg done).1.state_eq

/-- A step leaves the socket in the state of its verdict. -/
theorem attemptStep_state {label : AttemptLabel} (nonneg : 0 ≤ (w.sock x).s)
    (live : Live x w v .connecting) (stepped : attemptStep x v label = some v') :
    (v'.sock x).state =
      ((attemptVerdict x v label).map fun verdict => verdict.record.2).getD .connecting := by
  cases label with
  | wait replies =>
      obtain ⟨outcome, waited, stored⟩ := Option.bind_eq_some_iff.mp stepped
      obtain ⟨poller, done, rfl⟩ := Option.map_eq_some_iff.mp stored
      exact live.state_eq
  | event sys =>
      obtain ⟨⟨result, poller⟩, event, fed⟩ := Option.bind_eq_some_iff.mp stepped
      have called := ok_of_toOption event
      have polled := live.same (.setPoller v (NetPoller.event_interest called)) rfl
      have fed := ok_of_toOption fed
      simp only [attemptVerdict, called]
      cases result with
      | none =>
          cases fed
          exact polled.state_eq
      | some found =>
          obtain ⟨type, hndl⟩ := found
          simp only [feedEvent] at fed
          split_ifs at fed with own
          · simp only [if_pos own]
            exact polled.toHeld.fdEvent_state nonneg (NetPoller.event_type called) fed
          · cases fed
            simp only [if_neg own]
            exact polled.state_eq
  | task name sys =>
      simp only [attemptStep] at stepped
      split_ifs at stepped
      have unqueued := live.toHeld.unqueueTask name
      have fed := ok_of_toOption stepped
      by_cases stops : name = .stop
      · subst stops
        have failed := (unqueued.feed_stop sys).symm.trans fed
        exact (((unqueued.badSource _ _).badSource _ _).removeAndFail nonneg failed).1.state_eq
      · rw [feed_task unqueued.alive stops] at fed
        cases fed
        have same := (v.unqueueTask ⟨x, name⟩).life_internalTask x name
        have kept := unqueued.attends (.internalTask _ x name) (unqueued.life_state same)
        rw [kept.state_eq]
        cases name <;> first | rfl | exact absurd rfl stops
  | pushMsg msg =>
      cases stepped
      exact (live.attends (.pushMsg v x msg) (live.life_state (v.life_pushMsg x msg))).state_eq
  | executeSend =>
      cases stepped
      exact (live.attends (.execute v x .send) (live.life_state (v.life_execute _))).state_eq

/-- The record of a step that leaves the socket in the state of its verdict. -/
theorem Attempt.next_exact {verdict : Option AttemptVerdict} (decided : a.decided = [])
    (connecting : (a.world.sock x).state = .connecting)
    (turned : Turned x w a.world v .connecting)
    (state : (v.sock x).state = (verdict.map fun verdict => verdict.record.2).getD .connecting) :
    (a.next x v).decided = (verdict.map AttemptVerdict.record).toList := by
  rw [Attempt.next, decided, List.nil_append]
  cases turned with
  | kept live same =>
      rw [live.state_eq] at state
      rw [if_neg fun leaves => leaves.2 live.state_eq]
      obtain _ | _ | _ := verdict
      · rfl
      · cases state
      · cases state
  | connected live one =>
      rw [live.state_eq] at state
      rw [if_pos ⟨connecting, by simp [live.state_eq]⟩, one, List.drop_left, live.state_eq]
      obtain _ | _ | _ := verdict
      · cases state
      · rfl
      · cases state
  | failed gone one =>
      rw [gone.state_eq] at state
      rw [if_pos ⟨connecting, by simp [gone.state_eq]⟩, one, List.drop_left, gone.state_eq]
      obtain _ | _ | _ := verdict
      · cases state
      · cases state
      · rfl

/-! ## Events that decide go through -/

theorem Held.closeAndFail_ok {state : NetSockState} (held : Held x w v state)
    (nonneg : 0 ≤ (w.sock x).s) (closes : sys.close = 0) :
    ∃ v', Klibmsg.closeAndFail x sys v = .ok v' := by
  have closing : v.netCloseFd sys (v.sock x).s = .ok (v.close (v.sock x).s) := by
    rw [held.s_eq, World.netCloseFd, if_neg (not_lt.mpr nonneg), held.isOpen, if_neg (by decide),
      if_pos (.inl closes)]
  exact ⟨_, bind_eq_ok.mpr ⟨_, closing, rfl⟩⟩

theorem Held.removeAndFail_ok {state : NetSockState} (held : Held x w v state)
    (nonneg : 0 ≤ (w.sock x).s) (polls : v.Polls) (closes : sys.close = 0) :
    ∃ v', Klibmsg.removeAndFail x sys v = .ok v' := by
  obtain ⟨removed, removing⟩ := polls.rmFd_ok x
  obtain ⟨v', failed⟩ := (held.rmFd removing).1.closeAndFail_ok nonneg closes
  exact ⟨v', bind_eq_ok.mpr ⟨removed, removing, failed⟩⟩

theorem Held.connectingFdOut_ok (held : Held x w v .connecting) (polls : v.Polls)
    (inside : ((v.pollerOf x).index : Int) ≤ (v.pollerOf x).nevents) (closes : sys.close = 0) :
    ∃ v', connectingFdOut x sys v = .ok v' := by
  obtain ⟨result, clearing⟩ := NetPoller.resetBit_ok EPOLLOUT (.sock x) (v.sock x).wfd inside
    (polls.batch (v.sock x).worker)
  have resetting : v.resetOut x = .ok _ := bind_eq_ok.mpr ⟨result, clearing, rfl⟩
  generalize (v.setHandle x result).logCalls _ = reset at resetting
  simp only [connectingFdOut, resetting]
  by_cases connects : sys.soError = 0
  · exact ⟨_, if_pos connects⟩
  · have refused := ((Attends.resetOut resetting).trans (.setState _ x .active)).trans
      ((Attends.logCalls _ x [.getsockopt (reset.sock x).s]).trans
        (.setErrnum _ x sys.soError))
    have life : (((reset.setState x .active).logCalls
        [.getsockopt (reset.sock x).s]).setErrnum x sys.soError).life =
          v.life.setState x .active := by
      rw [World.life_setErrnum, World.life_logCalls _ (by simp [Effect.isLifeless]),
        World.life_setState, World.life_resetOut resetting]
    have still := held.attends refused life
    have polled : (((reset.setState x .active).logCalls
        [.getsockopt (reset.sock x).s]).setErrnum x sys.soError).Polls :=
      (polls.resetOut resetting).same (fun _ => rfl) fun _ => id
    obtain ⟨removed, removing⟩ := polled.rmFd_ok x
    have held' := (still.rmFd removing).1
    have succeeds : removed.closeSucceeds sys (removed.sock x).s :=
      ⟨by rw [held'.s_eq]; exact held'.isOpen, closes⟩
    refine ⟨_, (if_neg connects).trans (bind_eq_ok.mpr ⟨removed, removing, if_pos succeeds⟩)⟩

/-- In `Connecting` the verdict of a step is what the step decides. -/
theorem Live.decides (nonneg : 0 ≤ (w.sock x).s) (polls : a.world.Polls) (decided : a.decided = [])
    (live : Live x w a.world .connecting) : a.Decides x where
  exact label a' stepped := by
    obtain ⟨v, moved, rfl⟩ := Option.map_eq_some_iff.mp stepped
    exact Attempt.next_exact decided live.state_eq (attemptStep_live nonneg live (.inl rfl) moved)
      (attemptStep_state nonneg live moved)
  answers sys verdict found closes := by
    simp only [attemptVerdict] at found
    split at found
    next type hndl poller called =>
      split_ifs at found with own
      have polled := live.same (.setPoller a.world (NetPoller.event_interest called)) rfl
      obtain ⟨nevents, length, inside⟩ := NetPoller.event_batch called
      have batch : poller.nevents ≤ poller.events.length :=
        nevents ▸ length ▸ polls.batch (a.world.sock x).worker
      have kept := polls.setPoller (NetPoller.event_interest called) batch
      have stored : (a.world.setPoller x poller).pollerOf x = poller := by
        simp [World.setPoller, World.pollerOf]
      have fed : ∃ v, feed sys x kNetSockSrcFd type (a.world.setPoller x poller) = .ok v := by
        obtain ⟨out, err, -⟩ := polled.toHeld.feed_connecting sys
        by_cases isOut : type = kNetWorkerFdOut
        · rw [isOut, out]
          exact polled.toHeld.connectingFdOut_ok kept
            (by rw [stored]; exact inside (Option.some_ne_none _)) closes
        · by_cases isErr : type = kNetWorkerFdErr
          · rw [isErr, err]
            exact polled.toHeld.removeAndFail_ok nonneg kept closes
          · rw [Sys.fdVerdict, if_neg isOut, if_neg isErr] at found
            cases found
      obtain ⟨v, fed⟩ := fed
      refine ⟨a.next x v, Option.map_eq_some_iff.mpr ⟨v, ?_, rfl⟩⟩
      refine Option.bind_eq_some_iff.mpr ⟨(some (type, hndl), poller), by rw [called]; rfl, ?_⟩
      simp only [feedEvent, if_pos own, fed]
      rfl
    next => cases found

/-! ## `Connect` -/

/-- The socket after `connect()` has been called. -/
def World.dialled (w : World) (x : SockId) : World :=
  (w.setState x .connecting).logCalls [.connect ((w.setState x .connecting).sock x).s]

theorem fsmAction_eq {type : Int} (positive : 0 < type) (alive : x ∉ v.freed)
    (running : (v.sock x).fsm.state ≠ .stopping) :
    fsmAction sys x type v =
      stateSwitch (nestedAction sys) x sys kNetFsmAction type (v.sock x).state v := by
  simp only [fsmAction, check, if_pos positive, feed, feedWithin]
  rw [if_neg alive, if_neg running]
  rfl

theorem Startable.held (startable : Startable x w) : Held x w w .starting where
  control := by
    change (w.sock x).control = _
    rw [NetSocket.control, startable.fsm, startable.state]
  alive := startable.alive
  isOpen := startable.isOpen
  closed := rfl
  own := startable.own

theorem Startable.dialled (startable : Startable x w) : Held x w (w.dialled x) .connecting := by
  have attends := (Attends.setState w x .connecting).trans
    (.logCalls _ x [.connect ((w.setState x .connecting).sock x).s])
  refine startable.held.attends attends ?_
  rw [World.dialled, World.life_logCalls _ (by simp [Effect.isLifeless]), World.life_setState]

/-- What `Connect` does on a socket that has been started. -/
theorem Startable.connect_eq (startable : Startable x w) (sys : Sys) :
    (fsmAction sys x kNetSockActionConnect w = .ok (w.setState x .connecting)) ∧
      Klibmsg.connect sys x w =
        if sys.connect = 0 then
          connectingDone x (w.dialled x)
        else if sys.connect ≠ EINPROGRESS then
          closeAndFail x sys ((w.dialled x).setErrnum x sys.connect)
        else
          .ok ((w.dialled x).execute ⟨x, .connecting⟩) := by
  have entering : fsmAction sys x kNetSockActionConnect w = .ok (w.setState x .connecting) := by
    rw [fsmAction_eq (by decide) startable.alive startable.held.running, startable.state]
    rfl
  have again {v : World} (alive : x ∉ v.freed) (running : (v.sock x).fsm.state = .active)
      (connecting : (v.sock x).state = .connecting) :
      fsmAction sys x kNetSockActionDone v = connectingDone x v ∧
        fsmAction sys x kNetSockActionError v = closeAndFail x sys v := by
    have other : (v.sock x).fsm.state ≠ .stopping := by
      rw [running]
      decide
    constructor
    · rw [fsmAction_eq (by decide) alive other, connecting]
      rfl
    · rw [fsmAction_eq (by decide) alive other, connecting]
      rfl
  have fsm := startable.fsm
  obtain ⟨done, -⟩ := again (v := w.dialled x) startable.alive
    (by simpa [World.dialled] using fsm) (by simp [World.dialled])
  obtain ⟨-, refused⟩ := again (v := (w.dialled x).setErrnum x sys.connect) startable.alive
    (by simpa [World.dialled] using fsm) (by simp [World.dialled])
  refine ⟨entering, ?_⟩
  rw [← done, ← refused]
  rw [Klibmsg.connect, entering]
  rfl

/-- `Connect` decides what the reply of `connect()` says. -/
theorem Startable.turned (startable : Startable x w) (connecting : connect sys x w = .ok v) :
    Turned x w (w.setState x .connecting) v .connecting ∧
      (v.sock x).state =
        (sys.connectVerdict.map fun verdict => verdict.record.2).getD .connecting := by
  have held := startable.dialled
  have quiet : (w.dialled x).outcomes x = (w.setState x .connecting).outcomes x :=
    (Attends.logCalls _ x _).outcomes.trans (List.append_nil _)
  rw [(startable.connect_eq sys).2] at connecting
  rw [Sys.connectVerdict]
  split_ifs at connecting ⊢ with connects refused
  · have turned := connectingDone_turned held connecting
    cases connecting
    exact ⟨turned.after quiet, by simp [AttemptVerdict.record]⟩
  · have failing := held.attends (.setErrnum _ x sys.connect)
      (held.life_state (World.life_setErrnum _ x _))
    obtain ⟨gone, raised⟩ := failing.closeAndFail startable.nonneg connecting
    rw [(Attends.setErrnum _ x sys.connect).outcomes, List.append_nil] at raised
    exact ⟨(Turned.of_failed ⟨gone, raised⟩).after quiet, gone.state_eq⟩
  · cases connecting
    have queued := held.attends (.execute _ x .connecting)
      (held.life_state (World.life_execute _ _))
    refine ⟨.kept ⟨queued, .inr (.inl ?_)⟩ ?_, queued.state_eq⟩
    · rw [World.sock_execute_self]
      simp
    · rw [(Attends.execute _ x .connecting).outcomes, List.append_nil, quiet]

/-- An attempt after `Connect`. -/
theorem Startable.begin (startable : Startable x w) (begun : Attempt.connect sys x w = some a) :
    a.world.Polls ∧ AttemptOutcome x w a ∧
      a.decided = (sys.connectVerdict.map AttemptVerdict.record).toList := by
  obtain ⟨entered, entering, rest⟩ := Option.bind_eq_some_iff.mp begun
  obtain ⟨v, connecting, returned⟩ := Option.bind_eq_some_iff.mp rest
  cases returned
  have enters := (startable.connect_eq sys).1
  cases (ok_of_toOption entering).symm.trans enters
  have done := ok_of_toOption connecting
  obtain ⟨turned, state⟩ := startable.turned done
  have entered : ((w.setState x .connecting).sock x).state = .connecting := by simp
  have raised : (w.setState x .connecting).outcomes x = w.outcomes x :=
    (Attends.setState w x .connecting).outcomes.trans (List.append_nil _)
  have called : (SocketCall.connect x).run sys w = .ok v := by
    rw [SocketCall.run, if_neg (by simpa [SocketCall.sockets] using startable.alive)]
    exact done
  have steps : SocketSteps .all w v := SocketCall.run_steps (fun _ _ => trivial) called
  exact ⟨startable.polls.steps steps, .of_pending rfl raised entered turned,
    Attempt.next_exact rfl entered turned state⟩

/-- `Connect` goes through. -/
theorem Startable.connect_ok (startable : Startable x w) (closes : sys.close = 0) :
    ∃ a, Attempt.connect sys x w = some a := by
  obtain ⟨entering, calls⟩ := startable.connect_eq sys
  have held := startable.dialled
  have done : ∃ v, connect sys x w = .ok v := by
    rw [calls]
    split_ifs
    · exact ⟨_, rfl⟩
    · exact (held.attends (.setErrnum _ x sys.connect)
        (held.life_state (World.life_setErrnum _ x _))).closeAndFail_ok startable.nonneg closes
    · exact ⟨_, rfl⟩
  obtain ⟨v, done⟩ := done
  refine ⟨Attempt.next x ⟨w.setState x .connecting, []⟩ v, ?_⟩
  rw [Attempt.connect, entering, done]
  rfl

/-- Every attempt on a socket that nobody stops is decided once: by the reply of `connect()`, or as
long as the connection is in progress by the first `OUT` or `ERR` of the descriptor, with the
outcome that the answer of the operating system says and by nothing else.  The outcome is announced
in the step that leaves `Connecting`, and once the descriptor is given up its events are ignored. -/
theorem one_outcome (startable : Startable x w) :
    (∀ sys, sys.close = 0 → ∃ a, Attempt.connect sys x w = some a) ∧
      ∀ sys a, Attempt.connect sys x w = some a →
        a.decided = (sys.connectVerdict.map AttemptVerdict.record).toList ∧
          ∀ labels a', (attemptSystem x).run a labels = some a' →
            AttemptOutcome x w a' ∧
              ((a'.world.sock x).state = .connecting → a'.Decides x) ∧
              ((a'.world.sock x).state = .done →
                ∀ sys type, feed sys x kNetSockSrcFd type a'.world = .ok a'.world) := by
  refine ⟨fun sys closes => startable.connect_ok closes, fun sys a begun => ?_⟩
  obtain ⟨polls, outcome, decided⟩ := startable.begin begun
  refine ⟨decided, fun labels a' execution => ?_⟩
  obtain ⟨polls', outcome'⟩ : a'.world.Polls ∧ AttemptOutcome x w a' := by
    have step {b b' : Attempt} {label : AttemptLabel}
        (kept : b.world.Polls ∧ AttemptOutcome x w b)
        (stepped : (attemptSystem x).step b label = some b') :
        b'.world.Polls ∧ AttemptOutcome x w b' := by
      refine ⟨?_, kept.2.step startable.nonneg stepped⟩
      obtain ⟨v, moved, rfl⟩ := Option.map_eq_some_iff.mp stepped
      exact attemptStep_polls kept.1 moved
    exact StepSystem.run_invariant (fun _ _ _ => step) ⟨polls, outcome⟩ execution
  refine ⟨outcome', fun connecting => ?_, fun done => ?_⟩
  · cases outcome' with
    | pending decided _ live => exact live.decides startable.nonneg polls' decided
    | connected _ _ live =>
        rw [live.state_eq] at connecting
        cases connecting
    | failed _ _ gone | broken _ _ gone =>
        rw [gone.state_eq] at connecting
        cases connecting
  · cases outcome' with
    | pending _ _ live | connected _ _ live =>
        rw [live.state_eq] at done
        cases done
    | failed _ _ gone | broken _ _ gone => exact gone.inert

/-- `Start` prepares an idle socket for `Connect`: the descriptor is new. -/
theorem startable_of_start {fd : Fd} {w' : World} (polls : w.Polls)
    (idle : (w.sock x).state = .idle) (alive : x ∉ w.freed) (socket : sys.socket = .fd fd)
    (nonneg : 0 ≤ fd) (fresh : w.fds fd = false) (done : start sys x w = .ok (0, w')) :
    Startable x w' := by
  have kept : w'.Polls := by
    have steps : SocketSteps .all w w' := start_steps done
    exact polls.steps steps
  simp only [start, socket] at done
  obtain ⟨initialised, initialising, rest⟩ := bind_eq_ok.mp done
  obtain ⟨started, starting, returned⟩ := bind_eq_ok.mp rest
  cases returned
  simp only [World.initFromFd] at initialising
  split_ifs at initialising
  cases initialising
  obtain ⟨_, ⟨_, rfl⟩ | ⟨other, _⟩⟩ := fsmStart_outcome starting
  · refine ⟨by simp, by simp, alive, by simpa using nonneg, ?_, ?_, kept⟩
    · simp [World.setFsmState, World.setState, World.setS]
    · intro entry found
      have absent : (w.pollerOf x).interest fd = none := polls.closed _ fd fresh
      simp [World.pollerOf, World.setFsmState, World.setState, World.setS] at found absent
      rw [absent] at found
      cases found
  · exact absurd idle (by simpa using other)

end Deciding

/-- Socket 0 after `Start`. -/
def startedSocket : World :=
  (((default : World).openFd 3).setS 0 3).setState 0 .starting |>.setFsmState 0 .active

theorem startable_startedSocket : Startable 0 startedSocket where
  state := rfl
  fsm := rfl
  alive := by decide
  nonneg := by decide
  isOpen := rfl
  own := by
    intro entry found
    cases found
  polls := ⟨fun _ _ _ => rfl, fun _ => le_rfl⟩

/-- Two attempts that are decided by the poller.  The peer refuses the connection: the entry holds
`OUT` and an error, the `OUT` finds the error, and nothing is left of the entry.  The peer accepts
it: `OUT` comes alone. -/
theorem one_outcome_answered :
    (∃ a a', Attempt.connect {} 0 startedSocket = some a ∧
      (attemptSystem 0).run a
        [.task .connecting {}, .pushMsg default, .executeSend,
          .wait [.ready [⟨EPOLLOUT ||| 8, .sock 0⟩]], .event { soError := 111 }, .event {},
          .task .send {}] = some a' ∧
      a'.decided = [([kNetSockEventTypeError], .done)] ∧ AttemptOutcome 0 startedSocket a') ∧
    ∃ a a', Attempt.connect {} 0 startedSocket = some a ∧
      (attemptSystem 0).run a
        [.task .connecting {}, .wait [.ready [⟨EPOLLOUT, .sock 0⟩]]] = some a' ∧
      a'.decided = [] ∧ ∃ a'', (attemptSystem 0).step a' (.event {}) = some a'' ∧
        a''.decided = [([kNetSockEventTypeConnected], .active)] := by
  obtain ⟨-, attempts⟩ := one_outcome startable_startedSocket
  constructor
  · have computed : ((Attempt.connect {} 0 startedSocket).bind fun a => (attemptSystem 0).run a
        [.task .connecting {}, .pushMsg default, .executeSend,
          .wait [.ready [⟨EPOLLOUT ||| 8, .sock 0⟩]], .event { soError := 111 }, .event {},
          .task .send {}]).any
        (fun a' => a'.decided = [([kNetSockEventTypeError], .done)]) = true := by
      decide +kernel
    obtain ⟨a', found, decided⟩ := (Option.any_eq_true _ _).mp computed
    obtain ⟨a, begun, execution⟩ := Option.bind_eq_some_iff.mp found
    exact ⟨a, a', begun, execution, of_decide_eq_true decided,
      ((attempts _ _ begun).2 _ _ execution).1⟩
  · have computed : ((Attempt.connect {} 0 startedSocket).bind fun a => (attemptSystem 0).run a
        [.task .connecting {}, .wait [.ready [⟨EPOLLOUT, .sock 0⟩]]]).any
        (fun a' => a'.decided = [] ∧ (a'.world.sock 0).state = .connecting ∧
          attemptVerdict 0 a'.world (.event {}) = some .connected) = true := by
      decide +kernel
    obtain ⟨a', found, reached⟩ := (Option.any_eq_true _ _).mp computed
    obtain ⟨a, begun, execution⟩ := Option.bind_eq_some_iff.mp found
    obtain ⟨decided, connecting, verdict⟩ := of_decide_eq_true reached
    have decides := ((attempts _ _ begun).2 _ _ execution).2.1 connecting
    obtain ⟨a'', stepped⟩ := decides.answers {} .connected verdict rfl
    refine ⟨a, a', begun, execution, decided, a'', stepped, ?_⟩
    rw [decides.exact _ _ stepped, verdict]
    rfl

end Klibmsg
