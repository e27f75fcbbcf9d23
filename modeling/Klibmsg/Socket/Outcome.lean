import Klibmsg.Poller.Batch
import Klibmsg.Socket.LifeView
import Klibmsg.Socket.Polls

/-!
# The outcome of a connection attempt

`Connect` decides the outcome itself or leaves it to an event of the descriptor, while tasks are
still queued at the worker.  An attempt is a run of the worker and of the senders on one socket that
begins with `Connect`.
-/

namespace Klibmsg

/-! ## Attempts -/

/-- The outcome that an effect announces for a socket. -/
def Effect.outcome (x : SockId) : Effect → Option Int
  | raise event payload =>
      if event.sock = x ∧ (payload.type = kNetSockEventTypeConnected ∨
          payload.type = kNetSockEventTypeError) then
        some payload.type
      else
        none
  | _ => none

/-- The outcomes that have been raised on a socket. -/
def World.outcomes (w : World) (x : SockId) : List Int := w.trace.filterMap (Effect.outcome x)

/-- A process and, for each step that led the socket out of `Connecting`, the outcomes raised in the
step and the state it led to. -/
structure Attempt where
  world : World
  decided : List (List Int × NetSockState)

/-- Record a step. -/
def Attempt.next (x : SockId) (a : Attempt) (w : World) : Attempt where
  world := w
  decided :=
    if (a.world.sock x).state = .connecting ∧ (w.sock x).state ≠ .connecting then
      a.decided ++ [((w.outcomes x).drop (a.world.outcomes x).length, (w.sock x).state)]
    else
      a.decided

/-- `Connect`, whose first action enters `Connecting`. -/
def Attempt.connect (sys : Sys) (x : SockId) (w : World) : Option Attempt := do
  let entered ← (fsmAction sys x kNetSockActionConnect w).toOption
  let w ← (Klibmsg.connect sys x w).toOption
  return Attempt.next x ⟨entered, []⟩ w

/-- What happens to a socket that nobody stops: its worker polls, takes an event from the poller or
runs a queued task, and `AsyncSendMsg` is called in its two steps. -/
inductive AttemptLabel where
  | wait (replies : List (WaitReply Handle))
  | event (sys : Sys)
  | task (name : TaskName) (sys : Sys)
  | pushMsg (msg : NetMsg)
  | executeSend

/-- Assign the poller of a socket's worker. -/
def World.setPoller (w : World) (x : SockId) (poller : NetPoller Handle) : World :=
  w.modifyWorker (w.sock x).worker fun worker => { worker with poller := poller }

/-- Feed an event of the poller; an event of another handle does not concern the socket. -/
def feedEvent (sys : Sys) (x : SockId) : Option (Int × Handle) → Action
  | some (type, hndl) => fun w =>
      if hndl = .sock x then feed sys x kNetSockSrcFd type w else .ok w
  | none => .ok

/-- One step of an attempt on the process. -/
def attemptStep (x : SockId) (w : World) : AttemptLabel → Option World
  | .wait replies => do
      let poller ← (w.pollerOf x).wait replies
      poller.toOption.map (w.setPoller x)
  | .event sys => do
      let (result, poller) ← (w.pollerOf x).event.toOption
      (feedEvent sys x result (w.setPoller x poller)).toOption
  | .task name sys =>
      if (w.sock x).task name then
        (feed sys x name.src kNetWorkerTaskExecute (w.unqueueTask ⟨x, name⟩)).toOption
      else
        none
  | .pushMsg msg => some (w.pushMsg x msg)
  | .executeSend => some (w.execute ⟨x, .send⟩)

/-- The runs of an attempt. -/
def attemptSystem (x : SockId) : StepSystem Attempt AttemptLabel where
  step a label := (attemptStep x a.world label).map (a.next x)

/-! ## What the poller keeps of a handle -/

namespace NetPoller

variable {poller after : NetPoller Handle} {hndl : Handle}

/-- The operations of one handle remove no registration and register no other handle. -/
structure Keeps (hndl : Handle) (poller after : NetPoller Handle) : Prop where
  registered : ∀ fd, poller.interest fd ≠ none → after.interest fd ≠ none
  own : ∀ fd, (∀ entry, poller.interest fd = some entry → entry.data = hndl) →
    ∀ entry, after.interest fd = some entry → entry.data = hndl

theorem Keeps.of_interest (same : after.interest = poller.interest) : Keeps hndl poller after := by
  constructor
  · intro fd
    rw [same]
    exact id
  · intro fd
    rw [same]
    exact id

/-- An entry for the handle is stored at one descriptor. -/
theorem Keeps.of_update {fd : Fd} {mask : BitVec 32}
    (stored : after.interest = Function.update poller.interest fd (some ⟨mask, hndl⟩)) :
    Keeps hndl poller after := by
  constructor
  · intro other registered
    rw [stored, Function.update_apply]
    split_ifs
    · exact Option.some_ne_none _
    · exact registered
  · intro other own entry found
    rw [stored, Function.update_apply] at found
    split_ifs at found
    · cases found
      rfl
    · exact own entry found

theorem keeps_ctlAdd (poller : NetPoller Handle) (isOpen : Bool) (fd : Fd) (mask : BitVec 32)
    (hndl : Handle) : Keeps hndl poller (poller.ctlAdd isOpen fd ⟨mask, hndl⟩) := by
  rw [ctlAdd]
  split_ifs
  · exact .of_update rfl
  · exact .of_interest rfl

theorem keeps_ctlMod (poller : NetPoller Handle) (fd : Fd) (mask : BitVec 32) (hndl : Handle) :
    Keeps hndl poller (poller.ctlMod fd ⟨mask, hndl⟩) := by
  rw [ctlMod]
  split
  · exact .of_interest rfl
  · exact .of_update rfl

theorem keeps_setBit (poller : NetPoller Handle) (bit : BitVec 32) (hndl : Handle)
    (handle : NetPollerHandle) : Keeps hndl poller (poller.setBit bit hndl handle).2 := by
  rw [setBit]
  split_ifs
  · exact .of_interest rfl
  · exact keeps_ctlMod poller _ _ hndl

theorem keeps_resetBit {bit : BitVec 32} {handle : NetPollerHandle}
    {result : NetPollerHandle × NetPoller Handle}
    (reset : poller.resetBit bit hndl handle = .ok result) : Keeps hndl poller result.2 := by
  rw [resetBit] at reset
  split_ifs at reset
  · cases reset
    exact .of_interest rfl
  · obtain ⟨stored, stores, rfl⟩ := Polling.ok_of_map reset
    have same := interest_storeTail stores
    have kept := keeps_ctlMod poller handle.fd (handle.events &&& ~~~bit) hndl
    constructor
    · intro fd registered
      rw [same]
      exact kept.registered fd registered
    · intro fd own
      rw [same]
      exact kept.own fd own

/-- After `Add` of an open descriptor, it is registered. -/
theorem registered_add (poller : NetPoller Handle) {isOpen : Bool} (opened : isOpen = true)
    (fd : Fd) (hndl : Handle) : (poller.add isOpen fd hndl).2.interest fd ≠ none := by
  change (poller.ctlAdd isOpen fd ⟨0, hndl⟩).interest fd ≠ none
  rw [ctlAdd]
  split_ifs with added
  · simp
  · exact fun none => added ⟨opened, none⟩

theorem wait_interest {replies : List (WaitReply Handle)}
    {outcome : Except Fault (NetPoller Handle)}
    (waited : poller.wait replies = some outcome) (done : outcome = .ok after) :
    after.interest = poller.interest := by
  rw [wait] at waited
  dsimp only at waited
  split at waited
  · cases waited
  · split_ifs at waited <;> cases waited <;> cases done
    rfl

theorem event_interest {result : Option (Int × Handle)}
    (done : poller.event = .ok (result, after)) : after.interest = poller.interest := by
  rw [event] at done
  split at done
  · cases done
  · dsimp only at done
    split_ifs at done
    · cases done
      rfl
    · split at done
      · cases done
      · split_ifs at done <;> cases done <;> rfl

/-- The events of a poller. -/
theorem event_type {type : Int} {hndl : Handle}
    (done : poller.event = .ok (some (type, hndl), after)) :
    type = kNetWorkerFdIn ∨ type = kNetWorkerFdOut ∨ type = kNetWorkerFdErr := by
  rw [event] at done
  split at done
  · cases done
  · dsimp only at done
    split_ifs at done
    · cases done
    · split at done
      · cases done
      · split_ifs at done <;> cases done
        · exact .inl rfl
        · exact .inr (.inl rfl)
        · exact .inr (.inr rfl)

end NetPoller

/-! ## Steps that decide nothing -/

namespace World

variable (w : World) (x : SockId)

theorem outcomes_eq_loud : w.outcomes x = w.view.loud.filterMap (Effect.outcome x) := by
  rw [outcomes, view, List.filterMap_filter]
  congr 1
  funext effect
  cases effect <;> rfl

/-- A raised event is an outcome when it has one of the two types. -/
theorem outcomes_raise (name : EventName) (type : Int) (srcptr : Pointer) :
    (w.raise x name type srcptr).outcomes x = w.outcomes x ++
      if type = kNetSockEventTypeConnected ∨ type = kNetSockEventTypeError then [type] else [] := by
  rw [outcomes, trace_raise, List.filterMap_append, ← outcomes]
  congr 1
  by_cases announced : type = kNetSockEventTypeConnected ∨ type = kNetSockEventTypeError
  · simp [Effect.outcome, raisedPayload, announced]
  · simp [Effect.outcome, raisedPayload, announced]

theorem freed_raise (name : EventName) (type : Int) (srcptr : Pointer) :
    (w.raise x name type srcptr).freed = w.freed := by
  obtain ⟨sock, trace, others⟩ := w.raise_others x name type srcptr
  rw [others]

theorem view_rmFd {w w' : World} {x : SockId} (removed : w.rmFd x = .ok w') : w'.view = w.view := by
  obtain ⟨poller, _, returned⟩ := bind_eq_ok.mp removed
  cases returned
  simp

end World

/-- The step keeps what the socket's worker is to do for the socket and what it is registered for,
and announces the given outcomes. -/
structure Attends (x : SockId) (announced : List Int) (w w' : World) : Prop where
  freed : w'.freed = w.freed
  outcomes : w'.outcomes x = w.outcomes x ++ announced
  task : ∀ name, (w.sock x).task name = true → (w'.sock x).task name = true
  keeps : NetPoller.Keeps (.sock x) (w.pollerOf x) (w'.pollerOf x)

namespace Attends

variable {x : SockId} {announced later : List Int} {w w' w'' : World}

theorem trans (first : Attends x announced w w') (second : Attends x later w' w'') :
    Attends x (announced ++ later) w w'' where
  freed := second.freed.trans first.freed
  outcomes := by rw [second.outcomes, first.outcomes, List.append_assoc]
  task name set := second.task name (first.task name set)
  keeps :=
    ⟨fun fd registered => second.keeps.registered fd (first.keeps.registered fd registered),
      fun fd own => second.keeps.own fd (first.keeps.own fd own)⟩

theorem of_view (view : w'.view = w.view)
    (task : ∀ name, (w.sock x).task name = true → (w'.sock x).task name = true)
    (keeps : NetPoller.Keeps (.sock x) (w.pollerOf x) (w'.pollerOf x)) : Attends x [] w w' := by
  refine ⟨congrArg EventView.freed view, ?_, task, keeps⟩
  rw [World.outcomes_eq_loud, World.outcomes_eq_loud, view, List.append_nil]

theorem of_poller (view : w'.view = w.view)
    (task : ∀ name, (w.sock x).task name = true → (w'.sock x).task name = true)
    (poller : w'.pollerOf x = w.pollerOf x) : Attends x [] w w' :=
  of_view view task (.of_interest (congrArg NetPoller.interest poller))

/-- A change of the socket that keeps its events, its worker and its tasks. -/
theorem modify (w : World) {change : NetSocket → NetSocket}
    (view : (w.modify x change).view = w.view)
    (worker : (change (w.sock x)).worker = (w.sock x).worker)
    (task : (change (w.sock x)).task = (w.sock x).task) : Attends x [] w (w.modify x change) := by
  refine of_poller view (fun name set => ?_) ?_
  · rw [World.sock_modify_self, task]
    exact set
  · change (w.worker ((w.modify x change).sock x).worker).poller = _
    rw [World.sock_modify_self, worker]
    rfl

theorem setState (w : World) (x : SockId) (state : NetSockState) :
    Attends x [] w (w.setState x state) := modify w (w.view_setState x state) rfl rfl

theorem setErrnum (w : World) (x : SockId) (errnum : Int) : Attends x [] w (w.setErrnum x errnum) :=
  modify w (w.view_setErrnum x errnum) rfl rfl

theorem pushMsg (w : World) (x : SockId) (msg : NetMsg) : Attends x [] w (w.pushMsg x msg) :=
  modify w (w.view_pushMsg x msg) rfl rfl

theorem modify_same (w : World) {change : NetSocket → NetSocket}
    (same : SameControl (w.sock x) (change (w.sock x))) : Attends x [] w (w.modify x change) :=
  modify w (w.view_modify x change same.event same.ctx same.ipAddr) same.worker same.task

theorem logCalls (w : World) (x : SockId) (calls : List SysCall) :
    Attends x [] w (w.logCalls calls) := of_poller (w.view_logCalls calls) (fun _ => id) rfl

theorem report (w : World) (x : SockId) (stdout : List Report) :
    Attends x [] w { w with stdout := stdout } := of_poller rfl (fun _ => id) rfl

theorem applyTransfer (w : World) {transfer : Transfer}
    (same : SameControl (w.sock x) transfer.sock) : Attends x [] w (w.applyTransfer x transfer) :=
  (modify_same w same).trans
    ((of_poller (World.view_setMemory _ _) (fun _ => id) rfl).trans (logCalls _ x _))

theorem execute (w : World) (x : SockId) (name : TaskName) :
    Attends x [] w (w.execute ⟨x, name⟩) := by
  refine of_poller (w.view_execute _) (fun other set => ?_) ?_
  · rw [World.sock_execute_self]
    change Function.update (w.sock x).task name true other = true
    rw [Function.update_apply]
    split_ifs
    · rfl
    · exact set
  · change ((w.execute ⟨x, name⟩).worker ((w.execute ⟨x, name⟩).sock x).worker).poller = _
    rw [World.sock_execute_self, World.worker_execute]
    split_ifs <;> rfl

theorem raise (w : World) (x : SockId) (name : EventName) (type : Int) (srcptr : Pointer) :
    Attends x (if type = kNetSockEventTypeConnected ∨ type = kNetSockEventTypeError then [type]
      else []) w (w.raise x name type srcptr) := by
  refine ⟨w.freed_raise x name type srcptr, w.outcomes_raise x name type srcptr,
    fun name set => ?_, .of_interest ?_⟩
  · rw [World.sock_raise_self]
    exact set
  · change ((w.raise x name type srcptr).worker _).poller.interest = _
    rw [World.worker_raise, World.sock_raise_self]
    rfl

/-- An operation of the poller on the handle of the socket. -/
theorem setHandle (w : World) {result : NetPollerHandle × NetPoller Handle}
    (keeps : NetPoller.Keeps (.sock x) (w.pollerOf x) result.2) (calls : List SysCall) :
    Attends x [] w ((w.setHandle x result).logCalls calls) := by
  have poller : ((w.setHandle x result).logCalls calls).pollerOf x = result.2 := by
    simp [World.setHandle, World.pollerOf]
  refine of_view (by simp) (fun name set => ?_) (poller ▸ keeps)
  simpa [World.setHandle] using set

theorem addFd (w : World) (x : SockId) : Attends x [] w (w.addFd x) :=
  setHandle w (NetPoller.keeps_ctlAdd _ _ _ _ _) _

theorem setIn (w : World) (x : SockId) : Attends x [] w (w.setIn x) :=
  setHandle w (NetPoller.keeps_setBit _ _ _ _) _

theorem setOut (w : World) (x : SockId) : Attends x [] w (w.setOut x) :=
  setHandle w (NetPoller.keeps_setBit _ _ _ _) _

theorem resetOut (reset : w.resetOut x = .ok w') : Attends x [] w w' := by
  obtain ⟨result, resetting, returned⟩ := bind_eq_ok.mp reset
  cases returned
  exact setHandle w (NetPoller.keeps_resetBit resetting) _

theorem setPoller (w : World) {poller : NetPoller Handle}
    (same : poller.interest = (w.pollerOf x).interest) : Attends x [] w (w.setPoller x poller) := by
  refine of_view rfl (fun _ => id) (.of_interest ?_)
  rw [← same]
  simp [World.setPoller, World.pollerOf]

theorem internalTask (w : World) (x : SockId) (name : TaskName) :
    Attends x [] w (w.internalTask x name) := by
  cases name with
  | send => exact setOut w x
  | recv => exact setIn w x
  | connected => exact addFd w x
  | connecting => exact (addFd w x).trans (setOut _ x)
  | accept => exact (addFd w x).trans (setIn _ x)
  | stop => exact of_poller rfl (fun _ => id) rfl

end Attends

section Cells

variable {w w' : World} {x : SockId} {sys : Sys}

theorem activeFdIn_attends (done : activeFdIn x sys w = .ok w') : Attends x [] w w' := by
  have received := Attends.applyTransfer w
    (recvRaw_sameControl w.device.token2Dptr sys.readHeader sys.readPayload (w.sock x) w.memory)
  simp only [activeFdIn] at done
  split_ifs at done <;> cases done
  · exact received.trans (.raise _ x .received kNetSockEventTypeReceived _)
  · exact received
  · exact received

theorem activeFdOutBusy_attends (done : activeFdOutBusy x sys w = .ok w') :
    Attends x [] w w' := by
  have sent := Attends.applyTransfer w
    (sendRaw_sameControl sys.writeHeader sys.writePayload (w.sock x) w.memory)
  simp only [activeFdOutBusy] at done
  split_ifs at done <;> cases done
  · exact (sent.trans (.modify_same _ (SameControl.busy _ false))).trans
      (.raise _ x .sent kNetSockEventTypeSent _)
  · exact sent
  · exact sent

theorem activeFdOut_attends (done : activeFdOut x sys w = .ok w') : Attends x [] w w' := by
  simp only [activeFdOut] at done
  split_ifs at done
  · exact activeFdOutBusy_attends done
  · split at done
    next sock dequeued =>
      have same := (dequeue_sameControl dequeued).trans (SameControl.busy sock true)
      exact (Attends.modify_same w same).trans (activeFdOutBusy_attends done)
    next => exact .resetOut done

end Cells

/-! ## While the descriptor is held -/

/-- The descriptor that the socket had before it began to connect is still open and its own. -/
structure Held (x : SockId) (w w' : World) (state : NetSockState) : Prop where
  control : w'.life.control x = ⟨.active, state, (w.sock x).s⟩
  alive : x ∉ w'.freed
  isOpen : w'.fds (w.sock x).s = true
  closed : w'.life.closed (w.sock x).s = w.life.closed (w.sock x).s
  own : ∀ entry, (w'.pollerOf x).interest (w.sock x).s = some entry → entry.data = .sock x

/-- The descriptor is held, and it is registered or a task that registers it is queued. -/
structure Live (x : SockId) (w w' : World) (state : NetSockState) : Prop
    extends Held x w w' state where
  reached : (w'.pollerOf x).interest (w.sock x).s ≠ none ∨
    (w'.sock x).task .connecting = true ∨ (w'.sock x).task .connected = true

/-- The descriptor has been unregistered and closed once. -/
structure Gone (x : SockId) (w w' : World) : Prop where
  control : w'.life.control x = ⟨.active, .done, -1⟩
  alive : x ∉ w'.freed
  isClosed : w'.fds (w.sock x).s = false
  closed : w'.life.closed (w.sock x).s = w.life.closed (w.sock x).s + 1
  unregistered : ∀ k, (w'.worker k).poller.interest (w.sock x).s = none

/-- Close the descriptor of the socket, forget it and raise the error. -/
def World.dropFd (w : World) (x : SockId) : World :=
  (((w.close (w.sock x).s).setS x (-1)).setState x .done).raise x .error kNetSockEventTypeError
    (.sock x)

section Holding

variable {x : SockId} {sys : Sys} {w v v' : World} {state state' : NetSockState}
  {announced : List Int}

theorem Held.attends (held : Held x w v state) (attends : Attends x announced v v')
    (life : v'.life = v.life.setState x state') : Held x w v' state' where
  control := by rw [life, LifeView.control_setState, held.control]
  alive := by
    rw [attends.freed]
    exact held.alive
  isOpen := (congrFun (congrArg LifeView.fds life) _).trans held.isOpen
  closed := (congrFun (congrArg LifeView.closed life) _).trans held.closed
  own := attends.keeps.own _ held.own

theorem Live.attends (live : Live x w v state) (attends : Attends x announced v v')
    (life : v'.life = v.life.setState x state') : Live x w v' state' where
  toHeld := live.toHeld.attends attends life
  reached := by
    rcases live.reached with registered | connecting | connected
    · exact .inl (attends.keeps.registered _ registered)
    · exact .inr (.inl (attends.task _ connecting))
    · exact .inr (.inr (attends.task _ connected))

/-- A step that leaves the life cycles alone leaves the state alone. -/
theorem Held.life_state (held : Held x w v state) (life : v'.life = v.life) :
    v'.life = v.life.setState x state := by
  rw [life]
  refine LifeView.ext (funext fun y => ?_) rfl rfl rfl rfl
  by_cases equal : y = x
  · subst equal
    rw [LifeView.control_setState, held.control]
  · rw [LifeView.control_setState_of_ne _ equal]

theorem Live.same (live : Live x w v state) (attends : Attends x announced v v')
    (life : v'.life = v.life) : Live x w v' state :=
  live.attends attends (live.life_state life)

theorem Held.s_eq (held : Held x w v state) : (v.sock x).s = (w.sock x).s :=
  congrArg Control.s held.control

theorem Held.state_eq (held : Held x w v state) : (v.sock x).state = state :=
  congrArg Control.state held.control

theorem Held.fsm_eq (held : Held x w v state) : (v.sock x).fsm.state = .active :=
  congrArg Control.fsm held.control

/-- A descriptor that is held can be given up. -/
theorem Held.dropFd (held : Held x w v state) :
    Gone x w (v.dropFd x) ∧ (v.dropFd x).outcomes x = v.outcomes x ++ [kNetSockEventTypeError] := by
  have life : (v.dropFd x).life =
      ((v.life.close (w.sock x).s).setS x (-1)).setState x .done := by
    rw [World.dropFd, World.life_raise _ _ _ _ (by decide), World.life_setState, World.life_setS,
      World.life_close, held.s_eq]
  have fds : (v.dropFd x).fds = Function.update v.fds (w.sock x).s false :=
    congrArg LifeView.fds life
  have closed : (v.dropFd x).life.closed =
      Function.update v.life.closed (w.sock x).s (v.life.closed (w.sock x).s + 1) :=
    congrArg LifeView.closed life
  refine ⟨⟨?_, ?_, ?_, ?_, fun k => ?_⟩, ?_⟩
  · rw [life, LifeView.control_setState, LifeView.control_setS]
    change ({ v.life.control x with s := -1, state := .done } : Control) = _
    rw [held.control]
  · rw [World.dropFd, World.freed_raise]
    exact held.alive
  · rw [fds, Function.update_self]
  · rw [closed, Function.update_self, held.closed]
  · rw [World.dropFd, World.worker_raise, held.s_eq]
    exact Function.update_self _ _ _
  · rw [World.dropFd, World.outcomes_raise, World.outcomes_eq_loud, World.outcomes_eq_loud,
      World.view_setState, World.view_setS, World.view_close]
    rfl

theorem Held.closeAndFail (held : Held x w v state) (nonneg : 0 ≤ (w.sock x).s)
    (done : closeAndFail x sys v = .ok v') :
    Gone x w v' ∧ v'.outcomes x = v.outcomes x ++ [kNetSockEventTypeError] := by
  obtain ⟨closed, closing, returned⟩ := bind_eq_ok.mp done
  cases returned
  simp only [World.netCloseFd, held.s_eq] at closing
  split_ifs at closing with negative
  · exact absurd nonneg (not_le.mpr negative)
  · cases closing
    rw [← held.s_eq]
    exact held.dropFd

/-- `RmFd` before the descriptor is given up. -/
theorem Held.rmFd (held : Held x w v state) (removed : v.rmFd x = .ok v') :
    Held x w v' state ∧ v'.outcomes x = v.outcomes x := by
  have life := World.life_rmFd removed
  have view := World.view_rmFd removed
  obtain ⟨poller, removing, returned⟩ := bind_eq_ok.mp removed
  refine ⟨⟨life ▸ held.control, ?_, ?_, life ▸ held.closed, ?_⟩, ?_⟩
  · have freed : v'.freed = v.freed := congrArg EventView.freed view
    rw [freed]
    exact held.alive
  · exact (congrFun (congrArg LifeView.fds life) _).trans held.isOpen
  · cases returned
    intro entry found
    refine held.own entry ?_
    have interest := NetPoller.interest_rm removing
    simp only [World.pollerOf, World.setHandle, World.logCalls, World.sock_modify_self] at found
    simp only [World.modify, World.modifyWorker, Function.update_self, interest] at found
    rw [Function.update_apply] at found
    split_ifs at found
    exact found
  · rw [World.outcomes_eq_loud, World.outcomes_eq_loud, view]

theorem Held.removeAndFail (held : Held x w v state) (nonneg : 0 ≤ (w.sock x).s)
    (done : removeAndFail x sys v = .ok v') :
    Gone x w v' ∧ v'.outcomes x = v.outcomes x ++ [kNetSockEventTypeError] := by
  obtain ⟨removed, removing, failing⟩ := bind_eq_ok.mp done
  obtain ⟨still, quiet⟩ := held.rmFd removing
  rw [← quiet]
  exact still.closeAndFail nonneg failing

/-- What a step does to a socket whose descriptor is held. -/
inductive Turned (x : SockId) (w v v' : World) : NetSockState → Prop
  | kept {state : NetSockState} (live : Live x w v' state)
      (raised : v'.outcomes x = v.outcomes x) : Turned x w v v' state
  | connected (live : Live x w v' .active)
      (raised : v'.outcomes x = v.outcomes x ++ [kNetSockEventTypeConnected]) :
      Turned x w v v' .connecting
  | failed {state : NetSockState} (gone : Gone x w v')
      (raised : v'.outcomes x = v.outcomes x ++ [kNetSockEventTypeError]) : Turned x w v v' state

/-- A step that announces nothing. -/
theorem Turned.of_attends (live : Live x w v state) (attends : Attends x [] v v')
    (life : v'.life = v.life) : Turned x w v v' state :=
  .kept (live.same attends life) (attends.outcomes.trans (List.append_nil _))

theorem Turned.of_failed
    (failed : Gone x w v' ∧ v'.outcomes x = v.outcomes x ++ [kNetSockEventTypeError]) :
    Turned x w v v' state := .failed failed.1 failed.2

/-- A process with the same outcomes can be put in front. -/
theorem Turned.after {u : World} (turned : Turned x w u v' state)
    (same : u.outcomes x = v.outcomes x) : Turned x w v v' state := by
  cases turned with
  | kept live raised => exact .kept live (raised.trans same)
  | connected live raised => exact .connected live (same ▸ raised)
  | failed gone raised => exact .failed gone (same ▸ raised)

theorem connectingDone_turned (held : Held x w v .connecting)
    (done : connectingDone x v = .ok v') : Turned x w v v' .connecting := by
  cases done
  have attends := (((Attends.setState v x .active).trans (.execute _ x .connected)).trans
    (.raise _ x .established kNetSockEventTypeConnected (.sock x)))
  refine .connected ⟨held.attends attends ?_, .inr (.inr ?_)⟩ attends.outcomes
  · rw [World.life_raise _ _ _ _ (by decide), World.life_execute, World.life_setState]
  · rw [World.sock_raise_self, World.sock_execute_self]
    simp

theorem connectingFdOut_turned (live : Live x w v .connecting)
    (done : connectingFdOut x sys v = .ok v') : Turned x w v v' .connecting := by
  obtain ⟨reset, resetting, rest⟩ := bind_eq_ok.mp done
  have attends := ((Attends.resetOut resetting).trans (.setState _ x .active)).trans
    (.logCalls _ x [.getsockopt (reset.sock x).s])
  have life : ((reset.setState x .active).logCalls [.getsockopt (reset.sock x).s]).life =
      v.life.setState x .active := by
    rw [World.life_logCalls _ (by simp [Effect.isLifeless]), World.life_setState,
      World.life_resetOut resetting]
  dsimp only at rest
  split_ifs at rest with connects
  · cases rest
    have raised := attends.trans (.raise _ x .established kNetSockEventTypeConnected (.sock x))
    refine .connected (live.attends raised ?_) raised.outcomes
    rw [World.life_raise _ _ _ _ (by decide), life]
  · obtain ⟨removed, removing, closing⟩ := bind_eq_ok.mp rest
    split_ifs at closing
    cases closing
    have refused := attends.trans (.setErrnum _ x sys.soError)
    have held := live.toHeld.attends refused ((World.life_setErrnum _ x _).trans life)
    obtain ⟨still, quiet⟩ := held.rmFd removing
    have dropped := still.dropFd
    rw [quiet, refused.outcomes, List.append_nil, List.append_nil, List.append_nil,
      List.append_nil] at dropped
    exact .of_failed dropped

/-- The cells that an event of the descriptor or the stop task can run. -/
theorem cell_turned {action : ActionCall} {src type : Int} {label : NetSockState}
    (nonneg : 0 ≤ (w.sock x).s) (live : Live x w v state)
    (states : state = .connecting ∨ state = .active) (source : src ≠ kNetFsmAction)
    (event : type ≠ kNetSockActionError) (falls : Falls state label)
    (run : CellRun action x sys src type label v v') : Turned x w v v' state := by
  cases run with
  | start | listen | connect | beingAccepted | started | activate | accept | acceptAgain
  | acceptDone => exact absurd ‹src = kNetFsmAction› source
  | accepted isAction | connected isAction | refused isAction | cancel isAction =>
      exact absurd isAction source
  | connectingOut _ _ done =>
      obtain rfl : state = .connecting := by
        obtain rfl | rfl := states
        · rfl
        · exact absurd falls (by decide)
      exact connectingFdOut_turned live done
  | connectingErr _ _ done | activeErr _ _ done | removed _ _ done =>
      exact .of_failed (live.toHeld.removeAndFail nonneg done)
  | activeIn _ _ done =>
      exact .of_attends live (activeFdIn_attends done) (activeFdIn_life done)
  | activeOut _ _ done =>
      exact .of_attends live (activeFdOut_attends done) (activeFdOut_life done)
  | activeError _ isError => exact absurd isError event
  | acceptIn | cancelled => obtain rfl | rfl := states <;> exact absurd falls (by decide)
  | ignored => exact .kept live rfl

/-- Feeding a machine that holds its descriptor. -/
theorem fed_turned {action : ActionCall} {src type : Int} (nonneg : 0 ≤ (w.sock x).s)
    (live : Live x w v state) (states : state = .connecting ∨ state = .active)
    (source : src ≠ kNetFsmAction) (event : type ≠ kNetSockActionError)
    (run : FedRun action x sys src type v v') : Turned x w v v' state := by
  have running : (v.sock x).fsm.state ≠ .stopping := by
    rw [live.fsm_eq]
    decide
  cases run with
  | internal name => exact .of_attends live (.internalTask v x name) (v.life_internalTask x name)
  | @cell _ lines _ _ falls run =>
      rw [live.state_eq] at falls
      have reported := live.same (.report v x (v.stdout ++ lines)) (World.life_report v _)
      exact (cell_turned nonneg reported states source event falls run).after rfl
  | released stopping | ignored stopping | finished stopping | badState stopping =>
      exact absurd stopping running

/-- An internal task runs in every state. -/
theorem feed_task {name : TaskName} (alive : x ∉ v.freed) (other : name ≠ .stop) :
    feed sys x name.src kNetWorkerTaskExecute v = .ok (v.internalTask x name) := by
  simp only [feed, feedWithin]
  rw [if_neg alive]
  cases name with
  | stop => exact absurd rfl other
  | _ => split_ifs <;> rfl

theorem Held.unqueueTask (held : Held x w v state) (name : TaskName) :
    Held x w (v.unqueueTask ⟨x, name⟩) state := by
  have life : (v.unqueueTask ⟨x, name⟩).life = v.life := v.life_modify_same rfl
  refine ⟨life ▸ held.control, held.alive, held.isOpen, life ▸ held.closed, ?_⟩
  have poller : (v.unqueueTask ⟨x, name⟩).pollerOf x = v.pollerOf x := by
    simp [World.unqueueTask, World.pollerOf]
  rw [poller]
  exact held.own

theorem Live.unqueueTask (live : Live x w v state) {name : TaskName}
    (other : ¬(name = .connecting ∨ name = .connected)) :
    Live x w (v.unqueueTask ⟨x, name⟩) state := by
  obtain ⟨different, distinct⟩ := not_or.mp other
  have poller : (v.unqueueTask ⟨x, name⟩).pollerOf x = v.pollerOf x := by
    simp [World.unqueueTask, World.pollerOf]
  have task : ((v.unqueueTask ⟨x, name⟩).sock x).task =
      Function.update (v.sock x).task name false := by simp [World.unqueueTask]
  refine ⟨live.toHeld.unqueueTask name, ?_⟩
  rw [poller, task, Function.update_of_ne (Ne.symm different),
    Function.update_of_ne (Ne.symm distinct)]
  exact live.reached

/-- The tasks that register the descriptor. -/
theorem registers_live {name : TaskName} (held : Held x w v state)
    (registers : name = .connecting ∨ name = .connected) :
      Live x w (v.internalTask x name) state := by
  have added : Live x w (v.addFd x) state := by
    refine ⟨held.attends (.addFd v x) (held.life_state (v.life_addFd x)), .inl ?_⟩
    have poller : (v.addFd x).pollerOf x =
        ((v.pollerOf x).add (v.fds (v.sock x).s) (v.sock x).s (.sock x)).2 := by
      simp [World.addFd, World.setHandle, World.pollerOf]
    rw [poller, held.s_eq]
    exact NetPoller.registered_add _ held.isOpen _ _
  obtain rfl | rfl := registers
  · exact added.same (.setOut _ x) (World.life_setOut _ x)
  · exact added

end Holding

/-! ## After the descriptor was given up -/

section GivenUp

variable {x : SockId} {sys : Sys} {w v v' : World}

/-- No operation of a handle registers a closed descriptor. -/
theorem unregistered_setHandle {fd : Fd} {result : NetPollerHandle × NetPoller Handle}
    (isClosed : v.fds fd = false) (tame : NetPoller.Tame v.fds (v.pollerOf x) result.2)
    (unregistered : ∀ k, (v.worker k).poller.interest fd = none) (calls : List SysCall)
    (k : WorkerId) :
    (((v.setHandle x result).logCalls calls).worker k).poller.interest fd = none := by
  by_cases own : k = (v.sock x).worker
  · subst own
    have poller : (((v.setHandle x result).logCalls calls).worker (v.sock x).worker).poller =
        result.2 := by simp [World.setHandle]
    rw [poller]
    exact tame.closed fd isClosed (unregistered _)
  · have poller : (((v.setHandle x result).logCalls calls).worker k).poller =
        (v.worker k).poller := by simp [World.setHandle, own]
    rw [poller]
    exact unregistered k

theorem Gone.of_attends (gone : Gone x w v) (attends : Attends x [] v v') (life : v'.life = v.life)
    (unregistered : ∀ k, (v'.worker k).poller.interest (w.sock x).s = none) :
    Gone x w v' ∧ v'.outcomes x = v.outcomes x := by
  refine ⟨⟨life ▸ gone.control, ?_, ?_, life ▸ gone.closed, unregistered⟩, ?_⟩
  · rw [attends.freed]
    exact gone.alive
  · exact (congrFun (congrArg LifeView.fds life) _).trans gone.isClosed
  · exact attends.outcomes.trans (List.append_nil _)

theorem Gone.internalTask (gone : Gone x w v) (name : TaskName) :
    Gone x w (v.internalTask x name) ∧ (v.internalTask x name).outcomes x = v.outcomes x := by
  refine gone.of_attends (.internalTask v x name) (v.life_internalTask x name) ?_
  have added : ∀ k, ((v.addFd x).worker k).poller.interest (w.sock x).s = none :=
    unregistered_setHandle gone.isClosed (NetPoller.tame_add _ _ _ _) gone.unregistered _
  have closed : (v.addFd x).fds (w.sock x).s = false := gone.isClosed
  cases name with
  | send =>
      exact unregistered_setHandle gone.isClosed (NetPoller.tame_setBit _ _ _ _ _)
        gone.unregistered _
  | recv =>
      exact unregistered_setHandle gone.isClosed (NetPoller.tame_setBit _ _ _ _ _)
        gone.unregistered _
  | connected => exact added
  | connecting | accept =>
      exact unregistered_setHandle closed (NetPoller.tame_setBit _ _ _ _ _) added _
  | stop => exact gone.unregistered

theorem Gone.fed {action : ActionCall} {src type : Int} (gone : Gone x w v)
    (run : FedRun action x sys src type v v') : Gone x w v' ∧ v'.outcomes x = v.outcomes x := by
  have running : (v.sock x).fsm.state ≠ .stopping := by
    have fsm : (v.sock x).fsm.state = .active := congrArg Control.fsm gone.control
    rw [fsm]
    decide
  cases run with
  | internal name => exact gone.internalTask name
  | cell _ falls run =>
      have state : (v.sock x).state = .done := congrArg Control.state gone.control
      rw [state] at falls
      cases run with
      | ignored => exact gone.of_attends (.report v x _) rfl gone.unregistered
      | _ => exact absurd falls (by decide)
  | released stopping | ignored stopping | finished stopping | badState stopping =>
      exact absurd stopping running

/-- Whatever else the poller reports for the descriptor is ignored. -/
theorem Gone.inert (gone : Gone x w v) (sys : Sys) (type : Int) :
    feed sys x kNetSockSrcFd type v = .ok v := by
  have fsm : (v.sock x).fsm.state ≠ .stopping := by
    have active : (v.sock x).fsm.state = .active := congrArg Control.fsm gone.control
    rw [active]
    decide
  have state : (v.sock x).state = .done := congrArg Control.state gone.control
  simp only [feed, feedWithin]
  rw [if_neg gone.alive, if_neg fsm]
  change stateSwitch _ x sys kNetSockSrcFd type (v.sock x).state v = .ok v
  rw [state]
  rfl

end GivenUp

/-! ## The whole attempt -/

/-- A socket on which `Connect` can be called. -/
structure Startable (x : SockId) (w : World) : Prop where
  state : (w.sock x).state = .starting
  fsm : (w.sock x).fsm.state = .active
  alive : x ∉ w.freed
  nonneg : 0 ≤ (w.sock x).s
  isOpen : w.fds (w.sock x).s = true
  own : ∀ entry, (w.pollerOf x).interest (w.sock x).s = some entry → entry.data = .sock x
  polls : w.Polls

/-- How far an attempt that began in `w` has come. -/
inductive AttemptOutcome (x : SockId) (w : World) (a : Attempt) : Prop
  | pending (decided : a.decided = []) (raised : a.world.outcomes x = w.outcomes x)
      (live : Live x w a.world .connecting)
  | connected (decided : a.decided = [([kNetSockEventTypeConnected], .active)])
      (raised : a.world.outcomes x = w.outcomes x ++ [kNetSockEventTypeConnected])
      (live : Live x w a.world .active)
  | failed (decided : a.decided = [([kNetSockEventTypeError], .done)])
      (raised : a.world.outcomes x = w.outcomes x ++ [kNetSockEventTypeError])
      (gone : Gone x w a.world)
  | broken (decided : a.decided = [([kNetSockEventTypeConnected], .active)])
      (raised : a.world.outcomes x =
        w.outcomes x ++ [kNetSockEventTypeConnected] ++ [kNetSockEventTypeError])
      (gone : Gone x w a.world)

section Attempts

variable {x : SockId} {sys : Sys} {w : World} {a a' : Attempt}

theorem Gone.state_eq {v : World} (gone : Gone x w v) : (v.sock x).state = .done :=
  congrArg Control.state gone.control

/-- A step from `Connecting` decides at most once. -/
theorem AttemptOutcome.of_pending {v : World} (decided : a.decided = [])
    (raised : a.world.outcomes x = w.outcomes x) (connecting : (a.world.sock x).state = .connecting)
    (turned : Turned x w a.world v .connecting) : AttemptOutcome x w (a.next x v) := by
  cases turned with
  | kept live same =>
      refine .pending ?_ (same.trans raised) live
      rw [Attempt.next, if_neg fun leaves => leaves.2 live.state_eq, decided]
  | connected live one =>
      refine .connected ?_ (raised ▸ one) live
      rw [Attempt.next, if_pos ⟨connecting, by simp [live.state_eq]⟩, decided, one,
        List.drop_left, live.state_eq]
      rfl
  | failed gone one =>
      refine .failed ?_ (raised ▸ one) gone
      rw [Attempt.next, if_pos ⟨connecting, by simp [gone.state_eq]⟩, decided, one,
        List.drop_left, gone.state_eq]
      rfl

/-- Outside `Connecting` nothing is decided. -/
theorem Attempt.next_decided {v : World} (decided : (a.world.sock x).state ≠ .connecting) :
    (a.next x v).decided = a.decided := if_neg fun leaves => decided leaves.1

/-- One step on a socket that holds its descriptor. -/
theorem attemptStep_live {label : AttemptLabel} {v v' : World} {state : NetSockState}
    (nonneg : 0 ≤ (w.sock x).s) (live : Live x w v state)
    (states : state = .connecting ∨ state = .active)
    (stepped : attemptStep x v label = some v') : Turned x w v v' state := by
  cases label with
  | wait replies =>
      obtain ⟨outcome, waited, stored⟩ := Option.bind_eq_some_iff.mp stepped
      obtain ⟨poller, done, rfl⟩ := Option.map_eq_some_iff.mp stored
      have same := NetPoller.wait_interest waited (ok_of_toOption done)
      exact .of_attends live (.setPoller v same) rfl
  | event sys =>
      obtain ⟨⟨result, poller⟩, event, fed⟩ := Option.bind_eq_some_iff.mp stepped
      have called := ok_of_toOption event
      have polled := live.same (.setPoller v (NetPoller.event_interest called)) rfl
      have fed := ok_of_toOption fed
      cases result with
      | none =>
          cases fed
          exact .kept polled rfl
      | some found =>
          obtain ⟨type, hndl⟩ := found
          simp only [feedEvent] at fed
          split_ifs at fed
          · have turned := fed_turned nonneg polled states (by decide)
              (by obtain rfl | rfl | rfl := NetPoller.event_type called <;> decide)
              (feed_run (fun isStop => absurd isStop.1 (by decide)) fed)
            exact turned.after rfl
          · cases fed
            exact .kept polled rfl
  | task name sys =>
      simp only [attemptStep] at stepped
      split_ifs at stepped
      have unqueued := live.toHeld.unqueueTask name
      have fed := ok_of_toOption stepped
      by_cases registers : name = .connecting ∨ name = .connected
      · rw [feed_task unqueued.alive (by obtain rfl | rfl := registers <;> decide)] at fed
        cases fed
        refine .kept (registers_live unqueued registers) ?_
        exact (Attends.internalTask _ x name).outcomes.trans (List.append_nil _)
      · have turned := fed_turned nonneg (live.unqueueTask registers) states
          (by cases name <;> decide) (by decide)
          (feed_run (fun isStop => absurd isStop.1 (by cases name <;> decide)) fed)
        exact turned.after rfl
  | pushMsg msg =>
      cases stepped
      exact .of_attends live (.pushMsg v x msg) (v.life_pushMsg x msg)
  | executeSend =>
      cases stepped
      exact .of_attends live (.execute v x .send) (v.life_execute _)

/-- One step on a socket that has given its descriptor up. -/
theorem attemptStep_gone {label : AttemptLabel} {v v' : World} (gone : Gone x w v)
    (stepped : attemptStep x v label = some v') : Gone x w v' ∧ v'.outcomes x = v.outcomes x := by
  have polls {poller : NetPoller Handle} (same : poller.interest = (v.pollerOf x).interest) :
      Gone x w (v.setPoller x poller) := by
    refine (gone.of_attends (.setPoller v same) rfl fun k => ?_).1
    by_cases own : k = (v.sock x).worker
    · subst own
      have poller : ((v.setPoller x poller).worker (v.sock x).worker).poller = poller := by
        simp [World.setPoller]
      rw [poller, same]
      exact gone.unregistered _
    · have poller : (v.setPoller x poller).worker k = v.worker k := by
        simp [World.setPoller, own]
      rw [poller]
      exact gone.unregistered k
  cases label with
  | wait replies =>
      obtain ⟨outcome, waited, stored⟩ := Option.bind_eq_some_iff.mp stepped
      obtain ⟨poller, done, rfl⟩ := Option.map_eq_some_iff.mp stored
      exact ⟨polls (NetPoller.wait_interest waited (ok_of_toOption done)), rfl⟩
  | event sys =>
      obtain ⟨⟨result, poller⟩, event, fed⟩ := Option.bind_eq_some_iff.mp stepped
      have polled := polls (NetPoller.event_interest (ok_of_toOption event))
      have fed := ok_of_toOption fed
      cases result with
      | none =>
          cases fed
          exact ⟨polled, rfl⟩
      | some found =>
          simp only [feedEvent, polled.inert, ite_self] at fed
          cases fed
          exact ⟨polled, rfl⟩
  | task name sys =>
      simp only [attemptStep] at stepped
      split_ifs at stepped
      have life : (v.unqueueTask ⟨x, name⟩).life = v.life := v.life_modify_same rfl
      have unqueued : Gone x w (v.unqueueTask ⟨x, name⟩) :=
        ⟨life ▸ gone.control, gone.alive, gone.isClosed, life ▸ gone.closed, gone.unregistered⟩
      exact unqueued.fed (feed_run (fun isStop => absurd isStop.1 (by cases name <;> decide))
        (ok_of_toOption stepped))
  | pushMsg msg =>
      cases stepped
      exact gone.of_attends (.pushMsg v x msg) (v.life_pushMsg x msg) gone.unregistered
  | executeSend =>
      cases stepped
      refine gone.of_attends (.execute v x .send) (v.life_execute _) fun k => ?_
      rw [World.worker_execute]
      split_ifs
      · exact gone.unregistered k
      · exact gone.unregistered k

/-- Every step keeps the outcome of the attempt. -/
theorem AttemptOutcome.step {label : AttemptLabel} (nonneg : 0 ≤ (w.sock x).s)
    (outcome : AttemptOutcome x w a) (stepped : (attemptSystem x).step a label = some a') :
    AttemptOutcome x w a' := by
  obtain ⟨v, moved, rfl⟩ := Option.map_eq_some_iff.mp stepped
  cases outcome with
  | pending decided raised live =>
      exact .of_pending decided raised live.state_eq
        (attemptStep_live nonneg live (.inl rfl) moved)
  | connected decided raised live =>
      have after : (a.world.sock x).state ≠ .connecting := by simp [live.state_eq]
      cases attemptStep_live nonneg live (.inr rfl) moved with
      | kept still same =>
          exact .connected ((Attempt.next_decided after).trans decided) (same.trans raised) still
      | failed gone one =>
          exact .broken ((Attempt.next_decided after).trans decided) (raised ▸ one) gone
  | failed decided raised gone =>
      have after : (a.world.sock x).state ≠ .connecting := by simp [gone.state_eq]
      obtain ⟨still, same⟩ := attemptStep_gone gone moved
      exact .failed ((Attempt.next_decided after).trans decided) (same.trans raised) still
  | broken decided raised gone =>
      have after : (a.world.sock x).state ≠ .connecting := by simp [gone.state_eq]
      obtain ⟨still, same⟩ := attemptStep_gone gone moved
      exact .broken ((Attempt.next_decided after).trans decided) (same.trans raised) still

end Attempts

end Klibmsg
