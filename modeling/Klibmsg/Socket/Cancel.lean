import Klibmsg.Runtime
import Klibmsg.Socket.LifeView

/-!
# Stopping a socket that is being accepted

The shutdown handler feeds `Cancel` to the machine that is being stopped instead of the listener
that it is paired with.  That machine is already in its shutdown handler, which reports the action,
so no listener ever leaves `Accepting` for `Cancelling` and the handshake never starts.
-/

namespace Klibmsg

open StepSystem

theorem process_state {sys : Sys} {event : EventId} {w w' : World}
    (processed : socketOwner.process sys event w = .ok w') (y : SockId) :
    (w'.sock y).state = (w.sock y).state := by
  simp only [Owner.process] at processed
  split_ifs at processed
  split at processed
  next => cases processed
  next =>
    cases processed
    exact w.state_takeEvent event y

/-- No step of the process moves a socket to `Cancelling`. -/
theorem runtimeStep_not_cancelling {r r' : Runtime} {label : RuntimeLabel SocketCall} {y : SockId}
    (step : RuntimeStep socketOwner r label r') (before : (r.world.sock y).state ≠ .cancelling) :
    (r'.world.sock y).state ≠ .cancelling := by
  obtain shuffled | ⟨sys, op, called⟩ | ⟨sys, body, ran⟩ | ⟨sys, event, processed⟩ :=
    step.world_cases
  · exact shuffled.state_eq y ▸ before
  · have steps : SocketSteps ⟨fun _ => True, False⟩ r.world r'.world :=
      SocketCall.run_steps (fun _ _ => trivial) called
    exact steps.not_cancelling id before
  · cases body with
    | task task =>
        have steps : SocketSteps ⟨fun _ => True, False⟩ r.world r'.world := feedTask_steps ran
        exact steps.not_cancelling id before
    | fd x pevent =>
        have steps : SocketSteps ⟨fun _ => True, False⟩ r.world r'.world := feedFd_steps ran
        exact steps.not_cancelling id before
    | event event => exact process_state ran y ▸ before
  · exact process_state processed y ▸ before

/-- In no run is any socket ever in `Cancelling`. -/
theorem run_not_cancelling {r r' : Runtime} {labels : List (RuntimeLabel SocketCall)}
    {y : SockId} (before : (r.world.sock y).state ≠ .cancelling)
    (execution : socketOwner.system.run r labels = some r') :
    (r'.world.sock y).state ≠ .cancelling := by
  have preserved (r : Runtime) (label : RuntimeLabel SocketCall) (r' : Runtime)
      (kept : (r.world.sock y).state ≠ .cancelling)
      (stepped : socketOwner.system.step r label = some r') :
      (r'.world.sock y).state ≠ .cancelling :=
    runtimeStep_not_cancelling (Owner.step_runtimeStep stepped) kept
  exact run_invariant preserved before execution

theorem Runtime.Fresh.not_cancelling {r : Runtime} (fresh : r.Fresh) (y : SockId) :
    (r.world.sock y).state ≠ .cancelling := by
  obtain ⟨memory, src, addr, worker, equal⟩ := fresh.socket y
  rw [equal]
  simp [NetSocket.initialised]

/-! ## The handshake -/

/-- A listener in `Accepting` and the socket that `Accept` has paired with it. -/
structure Paired (w : World) (x listener : SockId) : Prop where
  accepting : (w.sock listener).state = .accepting
  beingAccepted : (w.sock x).state = .beingAccepted
  asock_socket : (w.sock x).asock = some listener
  asock_listener : (w.sock listener).asock = some x

/-- `Stop` on the socket changes nothing of the listener. -/
theorem stop_keeps_listener {sys : Sys} {x listener : SockId} {w w' : World}
    (paired : Paired w x listener) (done : stop sys x w = .ok w') :
    w'.sock listener = w.sock listener := by
  have different : listener ≠ x := by
    rintro rfl
    have both := paired.accepting.symm.trans paired.beingAccepted
    cases both
  simp only [stop, fsmStop] at done
  split_ifs at done
  · cases done
    rfl
  · have external : internalTasks x kNetFsmAction kNetFsmStop = none := rfl
    simp only [netSocketShutdownHandler, external, and_self, if_true] at done
    simp only [shutdownStop, World.modify_sock, Function.update_self, paired.beingAccepted,
      reduceCtorEq, or_self, if_false] at done
    obtain ⟨cancelled, cancelling, returned⟩ := bind_eq_ok.mp done
    have reported := nestedAction_cancel (by simp [World.setErrnum, paired.beingAccepted])
      (by simp [World.setErrnum]) cancelling
    cases returned
    rw [reported]
    simp [World.setState, World.setErrnum, World.netFsmBadState, different]

/-- How the handshake ends. -/
structure Cancelled (before after : World) (x listener : SockId) : Prop where
  listening : (after.sock listener).state = .listening
  removed : (after.pollerOf listener).interest (after.sock listener).s = none
  idle : (after.sock x).state = .idle
  fsm_idle : (after.sock x).fsm.state = .idle
  no_connection : (after.sock x).s = -1
  stopped_once : stoppedCount after.trace x = stoppedCount before.trace x + 1
  asock_socket : (after.sock x).asock = none
  asock_listener : (after.sock listener).asock = none

/-- Stopping the socket makes the listener leave `Accepting` for `Cancelling` in some continuation,
and the execution of the listener's stop task completes the handshake in every continuation. -/
def CancelHandshake (r : Runtime) (sys : Sys) (x listener : SockId) : Prop :=
  ∃ stopped, socketOwner.step r (.call sys (.stop x)) = some stopped ∧
    (∃ labels cancelling, socketOwner.system.run stopped labels = some cancelling ∧
      (cancelling.world.sock listener).state = .cancelling) ∧
    ∀ labels waiting k rest reply, socketOwner.system.run stopped labels = some waiting →
      (waiting.thread k).frames = .enter (.task ⟨listener, .stop⟩) :: rest →
        ∃ final, socketOwner.step waiting (.advance k reply) = some final ∧
          Cancelled r.world final.world x listener

/-- The handshake starts in no state that the process reaches. -/
theorem no_cancelHandshake {initial r : Runtime} {labels : List (RuntimeLabel SocketCall)}
    (fresh : initial.Fresh) (execution : socketOwner.system.run initial labels = some r)
    (sys : Sys) (x listener : SockId) : ¬CancelHandshake r sys x listener := by
  rintro ⟨stopped, stopping, ⟨more, cancelling, continued, state⟩, _⟩
  have start : socketOwner.system.run r (.call sys (.stop x) :: more) = some cancelling :=
    run_cons_eq_some.mpr ⟨stopped, stopping, continued⟩
  exact run_not_cancelling (run_not_cancelling (fresh.not_cancelling listener) execution) start
    state

/-- Whatever has happened before, stopping a socket that is being accepted leaves the listener as
it was, and the handshake does not start. -/
theorem stop_never_cancels {initial r : Runtime} {labels : List (RuntimeLabel SocketCall)}
    {x listener : SockId} (fresh : initial.Fresh)
    (execution : socketOwner.system.run initial labels = some r)
    (paired : Paired r.world x listener) (sys : Sys) :
    ¬CancelHandshake r sys x listener ∧
      ∀ stopped, socketOwner.step r (.call sys (.stop x)) = some stopped →
        stopped.world.sock listener = r.world.sock listener := by
  refine ⟨no_cancelHandshake fresh execution sys x listener, fun stopped stopping => ?_⟩
  obtain ⟨w, called, rfl⟩ := Owner.apply_eq_some.mp stopping
  simp only [socketOwner, SocketCall.run] at called
  split_ifs at called
  exact stop_keeps_listener paired called

/-- The calls that make socket 1 a listener and pair socket 2 with it. -/
def pairingCalls : List (RuntimeLabel SocketCall) :=
  [.call { socket := .fd 3 } (.start 1), .call {} (.listen 1), .call {} (.accept 2 1)]

theorem pairing_run : ∃ r, socketOwner.system.run default pairingCalls = some r ∧
    Paired r.world 2 1 := ⟨_, rfl, rfl, rfl, rfl, rfl⟩

theorem stop_never_cancels_after_pairing :
    ∃ r, socketOwner.system.run default pairingCalls = some r ∧ Paired r.world 2 1 ∧
      ¬CancelHandshake r {} 2 1 ∧
        ∀ stopped, socketOwner.step r (.call {} (.stop 2)) = some stopped →
          stopped.world.sock 1 = r.world.sock 1 := by
  obtain ⟨r, execution, paired⟩ := pairing_run
  exact ⟨r, execution, paired, stop_never_cancels Runtime.fresh_default execution paired {}⟩

/-- The action reaches the stopped socket itself, and the listener keeps accepting. -/
theorem stop_leaves_listener_accepting :
    ∃ r stopped, socketOwner.system.run default pairingCalls = some r ∧ Paired r.world 2 1 ∧
      socketOwner.step r (.call {} (.stop 2)) = some stopped ∧
      (stopped.world.sock 2).state = .stoppingAccept ∧
      (stopped.world.sock 1).state = .accepting ∧
      (stopped.world.sock 1).task .stop = false ∧ ¬CancelHandshake r {} 2 1 := by
  obtain ⟨r, execution, paired⟩ := pairing_run
  have result : ∃ stopped, socketOwner.system.run default
      (pairingCalls ++ [.call {} (.stop 2)]) = some stopped ∧
      (stopped.world.sock 2).state = .stoppingAccept ∧
      (stopped.world.sock 1).state = .accepting ∧
      (stopped.world.sock 1).task .stop = false := ⟨_, rfl, rfl, rfl, rfl⟩
  obtain ⟨stopped, whole, socket_state, listener_state, no_task⟩ := result
  obtain ⟨before, execution', stopping⟩ := run_concat_eq_some.mp whole
  cases execution.symm.trans execution'
  exact ⟨r, stopped, execution, paired, stopping, socket_state, listener_state, no_task,
    no_cancelHandshake Runtime.fresh_default execution {} 2 1⟩

end Klibmsg
