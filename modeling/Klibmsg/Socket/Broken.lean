import Klibmsg.Runtime

/-!
# Broken connections

`RecvRaw` counts an end of stream as a transfer of zero bytes and returns `-EAGAIN`; a hard error of
`read` or `write` becomes `-ECONNRESET`, and the handler returns on both.  Reading and writing never
take a socket out of `Active`.
-/

namespace Klibmsg

/-- An `errno` that says that the connection is lost. -/
def isFatal (errno : Int) : Bool := errno ≠ EAGAIN && errno ≠ EWOULDBLOCK && errno ≠ EINTR

/-- A transfer of a positive length that reports the end of the stream or a hard error. -/
def SysCall.isBroken : SysCall → Bool
  | read _ _ count .endOfStream => count ≠ 0
  | read _ _ count (.fails errno) => count ≠ 0 && isFatal errno
  | write _ _ count (.fails errno) _ => count ≠ 0 && isFatal errno
  | _ => false

/-- A `read` or a `write`. -/
def Effect.isTransfer : Effect → Bool
  | sys (.read _ _ _ _) => true
  | sys (.write _ _ _ _ _) => true
  | _ => false

/-- Handle a descriptor event and then the stop task, if the event has queued it. -/
def settle (sys stopSys : Sys) (x : SockId) (pevent : FdEvent) : Action := fun w => do
  let handled ← feed sys x kNetSockSrcFd pevent.type w
  if (w.sock x).task .stop = false ∧ (handled.sock x).task .stop = true then
    feed stopSys x kNetSockSrcTaskStop kNetWorkerTaskExecute (handled.unqueueTask ⟨x, .stop⟩)
  else
    return handled

/-- The socket has given up its connection. -/
structure ConnectionClosed (before after : World) (x : SockId) : Prop where
  left : (after.sock x).state ≠ .active
  removed : (after.pollerOf x).interest (before.sock x).s = none
  closed_once : (after.since before).count (.sys (.close (before.sock x).s)) = 1
  error_once : (after.since before).countP (fun
    | .raise event payload => event.sock = x ∧ payload.type = kNetSockEventTypeError
    | _ => false) = 1
  no_message : ∀ event payload, .raise event payload ∈ after.since before →
    payload.type ≠ kNetSockEventTypeReceived
  no_transfer : ∀ sys pevent later,
    feed sys x kNetSockSrcFd (FdEvent.type pevent) after = .ok later →
    ∀ effect ∈ later.since after, effect.isTransfer = false

section Active

variable {sys : Sys} {x : SockId} {w w' : World}

/-- The cells of `Active` for descriptor events. -/
theorem active_feedFd (pevent : FdEvent) (active : (w.sock x).state = .active)
    (running : (w.sock x).fsm.state ≠ .stopping) (alive : x ∉ w.freed) :
    feed sys x kNetSockSrcFd pevent.type w =
      match pevent with
      | .fdIn => activeFdIn x sys w
      | .fdOut => activeFdOut x sys w
      | .fdErr => removeAndFail x sys w := by
  have external : internalTasks x kNetSockSrcFd pevent.type = none := rfl
  simp only [feed, feedWithin, if_neg alive, if_neg running, netSocketHandler, external, active]
  cases pevent <;> rfl

/-- What a step keeps of a socket. -/
structure KeepsActive (x : SockId) (w w' : World) : Prop where
  state : (w'.sock x).state = (w.sock x).state
  s : (w'.sock x).s = (w.sock x).s
  task : (w'.sock x).task = (w.sock x).task

theorem KeepsActive.trans {middle : World} (first : KeepsActive x w middle)
    (second : KeepsActive x middle w') : KeepsActive x w w' :=
  ⟨second.state.trans first.state, second.s.trans first.s, second.task.trans first.task⟩

theorem keepsActive_modify {change : NetSocket → NetSocket}
    (same : SameControl (w.sock x) (change (w.sock x))) : KeepsActive x w (w.modify x change) := by
  constructor <;> simp [same.state, same.s, same.task]

theorem keepsActive_applyTransfer {transfer : Transfer}
    (same : SameControl (w.sock x) transfer.sock) :
    KeepsActive x w (w.applyTransfer x transfer) := by
  have modified : KeepsActive x w (w.modify x fun _ => transfer.sock) := keepsActive_modify same
  exact ⟨modified.state, modified.s, modified.task⟩

theorem keepsActive_raise (w : World) (x : SockId) (name : EventName) (type : Int)
    (srcptr : Pointer) : KeepsActive x w (w.raise x name type srcptr) := by
  have kept (after : World) (event : EventId) : KeepsActive x after (after.ctxRaise x event) := by
    rw [World.ctxRaise]
    split
    · exact ⟨rfl, rfl, rfl⟩
    · by_cases here : event.sock = x
      · subst here
        constructor <;> simp [World.setEvent, World.setCtx]
      · constructor <;> simp [World.setEvent, World.setCtx, Ne.symm here]
  rw [World.raise]
  refine KeepsActive.trans ?_ (kept _ _)
  constructor <;> simp [World.setEvent]

theorem activeFdIn_keeps (done : activeFdIn x sys w = .ok w') : KeepsActive x w w' := by
  have received := keepsActive_applyTransfer (w := w) (x := x)
    (recvRaw_sameControl w.device.token2Dptr sys.readHeader sys.readPayload (w.sock x) w.memory)
  simp only [activeFdIn] at done
  split_ifs at done <;> cases done
  · exact received.trans (keepsActive_raise _ x _ _ _)
  · exact received
  · exact received

theorem activeFdOutBusy_keeps (done : activeFdOutBusy x sys w = .ok w') :
    KeepsActive x w w' := by
  have sent := keepsActive_applyTransfer (w := w) (x := x)
    (sendRaw_sameControl sys.writeHeader sys.writePayload (w.sock x) w.memory)
  simp only [activeFdOutBusy] at done
  split_ifs at done <;> cases done
  · exact (sent.trans (keepsActive_modify (SameControl.busy _ false))).trans
      (keepsActive_raise _ x _ _ _)
  · exact sent
  · exact sent

theorem resetOut_keeps (reset : w.resetOut x = .ok w') : KeepsActive x w w' := by
  obtain ⟨result, _, returned⟩ := bind_eq_ok.mp reset
  cases returned
  constructor <;> simp [World.setHandle]

theorem activeFdOut_keeps (done : activeFdOut x sys w = .ok w') : KeepsActive x w w' := by
  simp only [activeFdOut] at done
  split_ifs at done
  · exact activeFdOutBusy_keeps done
  · split at done
    next sock dequeued =>
      have same := (dequeue_sameControl dequeued).trans (SameControl.busy sock true)
      exact (keepsActive_modify same).trans (activeFdOutBusy_keeps done)
    next => exact resetOut_keeps done

/-- The trace grows by effects that transfer nothing. -/
def AddsNoTransfer (w w' : World) : Prop :=
  ∃ added, w'.trace = w.trace ++ added ∧ ∀ effect ∈ added, Effect.isTransfer effect = false

theorem AddsNoTransfer.trans {middle : World} (first : AddsNoTransfer w middle)
    (second : AddsNoTransfer middle w') : AddsNoTransfer w w' := by
  obtain ⟨early, early_eq, early_plain⟩ := first
  obtain ⟨late, late_eq, late_plain⟩ := second
  refine ⟨early ++ late, by rw [late_eq, early_eq, List.append_assoc], ?_⟩
  intro effect member
  exact (List.mem_append.mp member).elim (early_plain effect) (late_plain effect)

theorem AddsNoTransfer.one {effect : Effect} (grown : w'.trace = w.trace ++ [effect])
    (plain : effect.isTransfer = false) : AddsNoTransfer w w' :=
  ⟨[effect], grown, fun _ member => (List.mem_singleton.mp member) ▸ plain⟩

theorem AddsNoTransfer.since_plain (adds : AddsNoTransfer w w') :
    ∀ effect ∈ w'.since w, effect.isTransfer = false := by
  obtain ⟨added, grown, plain⟩ := adds
  rwa [World.since_append grown]

theorem netCloseFd_adds {fd : Fd} (closed : w.netCloseFd sys fd = .ok w') :
    AddsNoTransfer w w' := by
  simp only [World.netCloseFd] at closed
  split_ifs at closed <;> cases closed
  · exact ⟨[], by simp, by simp⟩
  · exact .one (w.trace_close fd) rfl

/-- The error cell reads and writes nothing. -/
theorem removeAndFail_adds (done : removeAndFail x sys w = .ok w') : AddsNoTransfer w w' := by
  obtain ⟨removed, removing, failing⟩ := bind_eq_ok.mp done
  obtain ⟨poller, _, deleted⟩ := bind_eq_ok.mp removing
  obtain ⟨closed, closing, returned⟩ := bind_eq_ok.mp failing
  cases returned
  have first : AddsNoTransfer w removed := by
    cases deleted
    exact ⟨[.sys (.epollCtl .del (w.sock x).wfd.fd)], by simp, by simp [Effect.isTransfer]⟩
  have last : AddsNoTransfer closed (((closed.setS x (-1)).setState x .done).raise x .error
      kNetSockEventTypeError (.sock x)) := .one (World.trace_raise _ _ _ _ _) rfl
  exact (first.trans (netCloseFd_adds closing)).trans last

end Active

/-! ## Handling the event -/

/-- An event that reads or writes keeps the socket in `Active` and queues no stop task. -/
theorem feedFd_keeps_active {sys : Sys} {x : SockId} {pevent : FdEvent} {w w' : World}
    (active : (w.sock x).state = .active)
    (handled : feed sys x kNetSockSrcFd pevent.type w = .ok w')
    (transfers : ∃ effect ∈ w'.since w, effect.isTransfer = true) : KeepsActive x w w' := by
  have alive : x ∉ w.freed := by
    intro freed
    simp [feed, feedWithin, freed] at handled
  by_cases stopping : (w.sock x).fsm.state = .stopping
  · have external : internalTasks x kNetSockSrcFd pevent.type = none := rfl
    have notStop : ¬(kNetSockSrcFd = kNetFsmAction ∧ pevent.type = kNetFsmStop) := by
      rintro ⟨isAction, _⟩
      exact absurd isAction (by decide)
    simp only [feed, feedWithin, if_neg alive, if_pos stopping, netSocketShutdownHandler, external,
      if_neg notStop, active] at handled
    cases handled
    exact ⟨rfl, rfl, rfl⟩
  · rw [active_feedFd pevent active stopping alive] at handled
    cases pevent with
    | fdIn => exact activeFdIn_keeps handled
    | fdOut => exact activeFdOut_keeps handled
    | fdErr =>
        obtain ⟨effect, member, transfer⟩ := transfers
        rw [(removeAndFail_adds handled).since_plain effect member] at transfer
        cases transfer

theorem SysCall.isTransfer_of_broken {call : SysCall} (broken : call.isBroken = true) :
    (Effect.sys call).isTransfer = true := by
  cases call <;> first | rfl | exact absurd broken (by simp [SysCall.isBroken])

/-- Handling an event that meets a broken connection leaves nothing to the stop task. -/
theorem settle_of_broken {w handled : World} {x : SockId} {sys : Sys} (stopSys : Sys)
    {pevent : FdEvent} (active : (w.sock x).state = .active)
    (fed : feed sys x kNetSockSrcFd pevent.type w = .ok handled)
    (broken : ∃ call, .sys call ∈ handled.since w ∧ call.isBroken = true) :
    settle sys stopSys x pevent w = .ok handled ∧ (handled.sock x).state = .active := by
  obtain ⟨call, member, isBroken⟩ := broken
  have kept := feedFd_keeps_active active fed
    ⟨.sys call, member, SysCall.isTransfer_of_broken isBroken⟩
  refine ⟨?_, kept.state.trans active⟩
  have unchanged : ¬((w.sock x).task .stop = false ∧ (handled.sock x).task .stop = true) := by
    rw [kept.task]
    rintro ⟨unqueued, queued⟩
    simp [unqueued] at queued
  simp only [settle, fed]
  exact if_neg unchanged

/-- Whenever handling an event reads or writes on a broken connection, the socket is still
`Active` afterwards and the connection is not given up. -/
theorem broken_connection_stays_active (w : World) (x : SockId) (sys stopSys : Sys)
    (pevent : FdEvent) (active : (w.sock x).state = .active) (handled : World)
    (fed : feed sys x kNetSockSrcFd pevent.type w = .ok handled)
    (broken : ∃ call, .sys call ∈ handled.since w ∧ call.isBroken = true) :
    (handled.sock x).state = .active ∧
      ¬∃ after, settle sys stopSys x pevent w = .ok after ∧ ConnectionClosed w after x := by
  obtain ⟨settled, stays⟩ := settle_of_broken stopSys active fed broken
  refine ⟨stays, ?_⟩
  rintro ⟨after, outcome, closed⟩
  cases settled.symm.trans outcome
  exact closed.left stays

/-- Connect socket 1 at once and let it receive. -/
def connectAndReceive : Action := fun w => do
  let (_, w) ← start { socket := .fd 3 } 1 w
  let w ← connect { connect := 0 } 1 w
  let w ← feed {} 1 kNetSockSrcTaskConnected kNetWorkerTaskExecute w
  feed {} 1 kNetSockSrcTaskRecv kNetWorkerTaskExecute w

/-- A reset connection. -/
theorem broken_connection_stays_active_on_reset :
    ∃ w handled, connectAndReceive default = .ok w ∧
      feed { readHeader := .fails ECONNRESET } 1 kNetSockSrcFd FdEvent.fdIn.type w = .ok handled ∧
      (handled.sock 1).state = .active ∧
      ¬∃ after, settle { readHeader := .fails ECONNRESET } {} 1 .fdIn w = .ok after ∧
        ConnectionClosed w after 1 := by
  have concrete : ∃ w handled, connectAndReceive default = .ok w ∧
      (w.sock 1).state = .active ∧
      feed { readHeader := .fails ECONNRESET } 1 kNetSockSrcFd FdEvent.fdIn.type w = .ok handled ∧
      ∃ call, .sys call ∈ handled.since w ∧ call.isBroken = true :=
    ⟨_, _, rfl, rfl, rfl, .read 3 (.buffer 0) 32 (.fails ECONNRESET), by decide, rfl⟩
  obtain ⟨w, handled, connected, active, fed, broken⟩ := concrete
  exact ⟨w, handled, connected, fed,
    broken_connection_stays_active w 1 _ {} .fdIn active handled fed broken⟩

/-- The peer closes the connection: nothing is closed, nothing is raised, and the socket goes on
reading. -/
theorem end_of_stream_ignored :
    ∃ w handled, connectAndReceive default = .ok w ∧ (w.sock 1).state = .active ∧
      feed { readHeader := .endOfStream } 1 kNetSockSrcFd FdEvent.fdIn.type w = .ok handled ∧
      handled.since w = [.sys (.read 3 (.buffer 0) 32 .endOfStream)] ∧
      (SysCall.read 3 (.buffer 0) 32 .endOfStream).isBroken = true ∧
      (handled.sock 1).state = .active ∧ handled.fds 3 = true ∧
      ¬∃ after, settle { readHeader := .endOfStream } {} 1 .fdIn w = .ok after ∧
        ConnectionClosed w after 1 := by
  have concrete : ∃ w handled, connectAndReceive default = .ok w ∧
      (w.sock 1).state = .active ∧
      feed { readHeader := .endOfStream } 1 kNetSockSrcFd FdEvent.fdIn.type w = .ok handled ∧
      handled.since w = [.sys (.read 3 (.buffer 0) 32 .endOfStream)] ∧
      handled.fds 3 = true := ⟨_, _, rfl, rfl, rfl, rfl, rfl⟩
  obtain ⟨w, handled, connected, active, fed, read, is_open⟩ := concrete
  have broken : ∃ call, .sys call ∈ handled.since w ∧ call.isBroken = true :=
    ⟨.read 3 (.buffer 0) 32 .endOfStream, by rw [read]; exact List.mem_singleton_self _, rfl⟩
  obtain ⟨settled, stays⟩ := settle_of_broken {} active fed broken
  refine ⟨w, handled, connected, active, fed, read, rfl, stays, is_open, ?_⟩
  rintro ⟨after, outcome, closed⟩
  cases settled.symm.trans outcome
  exact closed.left stays

end Klibmsg
