import Klibmsg.Utils
import Klibmsg.Worker.Queue

/-!
# Critical sections for any machines

`NetCtx::ExecuteCriticalSection` runs a function under the lock of its context, processes the events
that were raised meanwhile, and opens the critical sections of the events for other machines once
the lock is released.  Here the function and the handlers are arbitrary terminating programs that
raise events; the queues are those of pointers.  A run keeps a log of what it does.  What other
threads do to the memory of a handler is part of that memory, which is arbitrary as well.
-/

namespace Klibmsg
namespace Context

/-- A terminating program that reads and writes a memory and raises events. -/
inductive Code (σ φ ε π : Type) where
  | done
  | read (next : σ → Code σ φ ε π)
  | write (memory : σ) (next : Code σ φ ε π)
  /-- `NetFsmEvent::Active`. -/
  | active (event : ε) (next : Bool → Code σ φ ε π)
  /-- `fsm->Raise(event, type, srcptr)`. -/
  | raise (fsm : φ) (event : ε) (type : Int) (srcptr : Option π) (next : Code σ φ ε π)
  /-- `fsm->RaiseTo(dst_fsm, event, src, type, srcptr)`. -/
  | raiseTo (fsm dst_fsm : φ) (event : ε) (src type : Int) (srcptr : Option π)
      (next : Code σ φ ε π)

/-- What `Init` stores in a `NetFsm` for good. -/
structure NetFsm (γ φ π : Type) where
  src : Int
  srcptr : Option π
  owner : Option φ
  ctx : γ

/-- The fields of a `NetFsmEvent` besides its queue item. -/
structure NetFsmEvent (φ π : Type) where
  fsm : Option φ
  src : Int
  srcptr : Option π
  type : Int
deriving DecidableEq, Repr

/-- The machines of a process with their handlers, and the handlers given to `NetCtx::Init`. -/
structure Machines (σ γ φ ε π : Type) where
  fsm : φ → NetFsm γ φ π
  state : σ → φ → NetFsmState
  handle : φ → Int → Int → Option π → Code σ φ ε π
  shutdownHandle : φ → Int → Int → Option π → Code σ φ ε π
  onLeave : γ → Option (Code σ φ ε π)

/-- `NetCtx`. -/
structure NetCtx (ε : Type) where
  events : NetQueue ε
  eventsto : NetQueue ε
  locked : Bool

/-- `NetCtx::Init`, with a fresh mutex. -/
def NetCtx.init {ε : Type} : NetCtx ε := ⟨.init, .init, false⟩

/-- An event object with the fields that it had. -/
structure Item (φ ε π : Type) where
  event : ε
  fields : NetFsmEvent φ π
deriving DecidableEq, Repr

/-- A call that raises an event. -/
inductive Call (φ ε π : Type) where
  | raise (item : Item φ ε π)
  | raiseTo (item : Item φ ε π)
deriving DecidableEq, Repr

/-- What a run does.  A call is logged with whether the lock of its context is held and whether its
event is in a queue, a release with whether the queues are empty. -/
inductive Entry (γ φ ε π : Type) where
  | lock (ctx : γ)
  | call (call : Call φ ε π) (locked queued : Bool)
  | process (item : Item φ ε π)
  | unlock (ctx : γ) (events eventsto : Bool)
deriving DecidableEq, Repr

/-- The memory, the event objects, the contexts, and the log. -/
structure State (σ γ φ ε π : Type) where
  memory : σ
  next : NextFields ε
  event : ε → NetFsmEvent φ π
  ctx : γ → NetCtx ε
  log : List (Entry γ φ ε π)

/-- Why a run does not come to its end. -/
inductive Stop where
  | outOfFuel
  /-- A thread waits for a lock that it holds. -/
  | deadlock
  | nullPointer
  /-- `CHECK_NE((int64_t)fsm_->owner(), 0)`. -/
  | check
deriving DecidableEq, Repr

/-- The state at the end of a run, or where it stops. -/
abbrev Result (σ γ φ ε π : Type) := Except (Stop × State σ γ φ ε π) (State σ γ φ ε π)

/-- A function of the source that changes the state and may not return. -/
abbrev Effect (σ γ φ ε π : Type) :=
  State σ γ φ ε π → Except (Stop × State σ γ φ ε π) (State σ γ φ ε π)

variable {σ γ φ ε π : Type}

/-- The state that a run has come to. -/
def reached : Result σ γ φ ε π → State σ γ φ ε π
  | .ok s => s
  | .error (_, s) => s

namespace State

/-- Log an entry. -/
def note (s : State σ γ φ ε π) (entry : Entry γ φ ε π) : State σ γ φ ε π :=
  { s with log := s.log ++ [entry] }

variable [DecidableEq γ]

/-- Change a context. -/
def setCtx (s : State σ γ φ ε π) (ctx : γ) (value : NetCtx ε) : State σ γ φ ε π :=
  { s with ctx := Function.update s.ctx ctx value }

/-- `std::unique_lock<std::mutex> lock(sync_)`. -/
def lock (ctx : γ) (s : State σ γ φ ε π) : Result σ γ φ ε π :=
  if (s.ctx ctx).locked then
    .error (.deadlock, s)
  else
    .ok ((s.setCtx ctx { s.ctx ctx with locked := true }).note (.lock ctx))

/-- `lock.unlock()`, also at the end of the scope of `lock`. -/
def unlock (ctx : γ) (s : State σ γ φ ε π) : State σ γ φ ε π :=
  (s.setCtx ctx { s.ctx ctx with locked := false }).note
    (.unlock ctx ((s.ctx ctx).events.empty ≠ 0) ((s.ctx ctx).eventsto.empty ≠ 0))

/-- Store what an operation did to `events_`. -/
def setEvents (s : State σ γ φ ε π) (ctx : γ) (changed : NextFields ε × NetQueue ε) :
    State σ γ φ ε π :=
  { s.setCtx ctx { s.ctx ctx with events := changed.2 } with next := changed.1 }

/-- Store what an operation did to `eventsto_`. -/
def setEventsto (s : State σ γ φ ε π) (ctx : γ) (changed : NextFields ε × NetQueue ε) :
    State σ γ φ ε π :=
  { s.setCtx ctx { s.ctx ctx with eventsto := changed.2 } with next := changed.1 }

variable [DecidableEq ε]

/-- `NetQueueItem::IsInQueue`. -/
def isInQueue (s : State σ γ φ ε π) (event : ε) : Bool := s.next event ≠ .absent

/-- Store the fields of an event object. -/
def setEvent (s : State σ γ φ ε π) (event : ε) (fields : NetFsmEvent φ π) : State σ γ φ ε π :=
  { s with event := Function.update s.event event fields }

/-- `NetCtx::Raise`. -/
def raise (s : State σ γ φ ε π) (ctx : γ) (event : ε) : State σ γ φ ε π :=
  s.setEvents ctx (NetQueue.push s.next (s.ctx ctx).events event)

/-- `NetCtx::RaiseTo`. -/
def raiseTo (s : State σ γ φ ε π) (ctx : γ) (event : ε) : State σ γ φ ε π :=
  s.setEventsto ctx (NetQueue.push s.next (s.ctx ctx).eventsto event)

end State

namespace Machines

variable [DecidableEq γ] [DecidableEq ε] (machines : Machines σ γ φ ε π)

/-- What `NetFsm::Raise` stores in an event object. -/
def raised (fsm : φ) (type : Int) (srcptr : Option π) : NetFsmEvent φ π where
  fsm := some fsm
  src := (machines.fsm fsm).src
  srcptr := if srcptr.isNone then (machines.fsm fsm).srcptr else srcptr
  type := type

/-- `NetFsm::Raise`. -/
def raise (fsm : φ) (event : ε) (type : Int) (srcptr : Option π) (s : State σ γ φ ε π) :
    State σ γ φ ε π :=
  let fields := machines.raised fsm type srcptr
  let ctx := (machines.fsm fsm).ctx
  ((s.note (.call (.raise ⟨event, fields⟩) (s.ctx ctx).locked (s.isInQueue event))).setEvent event
    fields).raise ctx event

/-- `NetFsm::RaiseTo`. -/
def raiseTo (fsm dst_fsm : φ) (event : ε) (src type : Int) (srcptr : Option π)
    (s : State σ γ φ ε π) : State σ γ φ ε π :=
  let fields : NetFsmEvent φ π := ⟨some dst_fsm, src, srcptr, type⟩
  let ctx := (machines.fsm fsm).ctx
  ((s.note (.call (.raiseTo ⟨event, fields⟩) (s.ctx ctx).locked (s.isInQueue event))).setEvent
    event fields).raiseTo ctx event

/-- Run a program. -/
def run : Code σ φ ε π → State σ γ φ ε π → State σ γ φ ε π
  | .done, s => s
  | .read next, s => run (next s.memory) s
  | .write memory next, s => run next { s with memory := memory }
  | .active event next, s => run (next (s.isInQueue event)) s
  | .raise fsm event type srcptr next, s => run next (machines.raise fsm event type srcptr s)
  | .raiseTo fsm dst_fsm event src type srcptr next, s =>
      run next (machines.raiseTo fsm dst_fsm event src type srcptr s)

/-- `NetFsm::Feed`. -/
def feed (fsm : φ) (src type : Int) (srcptr : Option π) : Code σ φ ε π :=
  .read fun memory =>
    if machines.state memory fsm ≠ .stopping then machines.handle fsm src type srcptr
    else machines.shutdownHandle fsm src type srcptr

/-- `NetFsmEvent::Process`. -/
def process (event : ε) (s : State σ γ φ ε π) : Result σ γ φ ε π :=
  let fields := s.event event
  let s := (s.note (.process ⟨event, fields⟩)).setEvent event
    { fields with src := -1, type := -1, srcptr := none }
  match fields.fsm with
  | none => .error (.nullPointer, s)
  | some fsm =>
      match (machines.fsm fsm).owner with
      | none => .error (.check, s)
      | some owner =>
          .ok (machines.run (machines.feed owner fields.src fields.type fields.srcptr) s)

/-- The loop that processes the internal events. -/
def drainEvents (ctx : γ) : Nat → Effect σ γ φ ε π
  | 0, s => .error (.outOfFuel, s)
  | fuel + 1, s =>
      let popped := NetQueue.pop s.next (s.ctx ctx).events
      match popped.1 with
      | none => .ok s
      | some event => do
          let s ← machines.process event (s.setEvents ctx popped.2)
          drainEvents ctx fuel s

/-- `ctx_onleave_handle_`, where it is not empty. -/
def leave (ctx : γ) (s : State σ γ φ ε π) : State σ γ φ ε π :=
  match machines.onLeave ctx with
  | none => s
  | some handler => machines.run handler s

mutual

/-- `NetCtx::ExecuteCriticalSection`. -/
def executeCriticalSection : Nat → γ → Effect σ γ φ ε π → Effect σ γ φ ε π
  | 0, _, _, s => .error (.outOfFuel, s)
  | fuel + 1, ctx, func, s => do
      let s ← s.lock ctx
      let s ← func s
      let s ← machines.drainEvents ctx fuel s
      let s := machines.leave ctx s
      if (s.ctx ctx).eventsto.empty ≠ 0 then
        .ok (s.unlock ctx)
      else
        -- The copy keeps the items, and the context starts again with an empty queue.
        drainEventsto fuel (s.ctx ctx).eventsto
          ((s.setEventsto ctx (s.next, .init)).unlock ctx)

/-- The loop that hands the external events over. -/
def drainEventsto : Nat → NetQueue ε → Effect σ γ φ ε π
  | 0, _, s => .error (.outOfFuel, s)
  | fuel + 1, eventsto, s =>
      let popped := NetQueue.pop s.next eventsto
      let s := { s with next := popped.2.1 }
      match popped.1 with
      | none => .ok s
      | some event =>
          match (s.event event).fsm with
          | none => .error (.nullPointer, s)
          | some fsm => do
              let s ← executeCriticalSection fuel (machines.fsm fsm).ctx (machines.process event) s
              drainEventsto fuel popped.2.2 s

end

end Machines
end Context
end Klibmsg
