import Klibmsg.Runtime.Sockets
import Klibmsg.Socket.Effects

/-!
# Pollers and descriptors

No poller ever holds a registration of a descriptor that is not open, and the batch that a poller
works on stays inside its array.
-/

namespace Klibmsg

/-- What holds of the pollers of a process. -/
structure World.Polls (w : World) : Prop where
  closed : ∀ k fd, w.fds fd = false → (w.worker k).poller.interest fd = none
  batch : ∀ k, (w.worker k).poller.nevents ≤ (w.worker k).poller.events.length

namespace World.Polls

variable {w w' : World} {x : SockId}

theorem same (polls : w.Polls) (poller : ∀ k, (w'.worker k).poller = (w.worker k).poller)
    (fds : ∀ fd, w'.fds fd = false → w.fds fd = false) : w'.Polls := by
  refine ⟨fun k fd isClosed => ?_, fun k => ?_⟩
  · rw [poller]
    exact polls.closed k fd (fds fd isClosed)
  · rw [poller]
    exact polls.batch k

/-- An operation of the poller of the socket's worker. -/
theorem setHandle (polls : w.Polls) {result : NetPollerHandle × NetPoller Handle}
    (tame : NetPoller.Tame w.fds (w.pollerOf x) result.2) {calls : List SysCall} :
    ((w.setHandle x result).logCalls calls).Polls := by
  have poller (k : WorkerId) :
      (((w.setHandle x result).logCalls calls).worker k).poller =
        if k = (w.sock x).worker then result.2 else (w.worker k).poller := by
    by_cases equal : k = (w.sock x).worker
    · subst equal
      simp [World.setHandle]
    · simp [World.setHandle, equal]
  refine ⟨fun k fd isClosed => ?_, fun k => ?_⟩
  · rw [poller]
    split_ifs with own
    · exact tame.closed fd isClosed (polls.closed _ fd isClosed)
    · exact polls.closed k fd isClosed
  · rw [poller]
    split_ifs with own
    · rw [tame.nevents, tame.length]
      exact polls.batch _
    · exact polls.batch k

theorem addFd (polls : w.Polls) (x : SockId) : (w.addFd x).Polls :=
  polls.setHandle (NetPoller.tame_add _ _ _ _)

theorem setIn (polls : w.Polls) (x : SockId) : (w.setIn x).Polls :=
  polls.setHandle (NetPoller.tame_setBit _ _ _ _ _)

theorem setOut (polls : w.Polls) (x : SockId) : (w.setOut x).Polls :=
  polls.setHandle (NetPoller.tame_setBit _ _ _ _ _)

theorem rmFd (polls : w.Polls) (removed : w.rmFd x = .ok w') : w'.Polls := by
  obtain ⟨poller, removing, returned⟩ := bind_eq_ok.mp removed
  cases returned
  exact polls.setHandle (NetPoller.tame_rm _ removing)

theorem resetOut (polls : w.Polls) (reset : w.resetOut x = .ok w') : w'.Polls := by
  obtain ⟨result, resetting, returned⟩ := bind_eq_ok.mp reset
  cases returned
  exact polls.setHandle (NetPoller.tame_resetBit _ resetting)

theorem close (polls : w.Polls) (fd : Fd) : (w.close fd).Polls := by
  refine ⟨fun k other isClosed => ?_, polls.batch⟩
  change Function.update (w.worker k).poller.interest fd none other = none
  by_cases equal : other = fd
  · simp [equal]
  · change Function.update w.fds fd false other = false at isClosed
    rw [Function.update_of_ne equal] at isClosed ⊢
    exact polls.closed k other isClosed

theorem execute (polls : w.Polls) (task : TaskId) : (w.execute task).Polls := by
  refine polls.same (fun k => ?_) (by simp)
  rw [World.worker_execute]
  split_ifs <;> rfl

theorem raise (polls : w.Polls) (x : SockId) (name : EventName) (type : Int) (srcptr : Pointer) :
    (w.raise x name type srcptr).Polls := polls.same (by simp) (by simp)

theorem raiseTo (polls : w.Polls) (x dst : SockId) (name : EventName) (src type : Int)
    (srcptr : Pointer) : (w.raiseTo x dst name src type srcptr).Polls := by
  refine polls.same (fun k => ?_) fun fd => ?_
  · rw [World.raiseTo, World.ctxRaiseTo]
    split <;> rfl
  · rw [World.raiseTo, World.ctxRaiseTo]
    split <;> exact id

theorem step {may : Entitled} (polls : w.Polls) (step : SocketStep may w w') : w'.Polls := by
  cases step with
  | modify | setState | setFsmState | setErrnum | setS | setAsock | setMemory | logCalls | report =>
      exact polls.same (fun _ => rfl) fun _ => id
  | openFd fd =>
      refine polls.same (fun _ => rfl) fun other isClosed => ?_
      change Function.update w.fds fd true other = false at isClosed
      by_cases equal : other = fd
      · subst equal
        rw [Function.update_self] at isClosed
        cases isClosed
      · rwa [Function.update_of_ne equal] at isClosed
  | close fd => exact polls.close fd
  | execute task => exact polls.execute task
  | addFd x => exact polls.addFd x
  | setIn x => exact polls.setIn x
  | setOut x => exact polls.setOut x
  | rmFd removed => exact polls.rmFd removed
  | resetOut reset => exact polls.resetOut reset
  | raise x name type srcptr => exact polls.raise x name type srcptr
  | raiseTo x dst name src type srcptr => exact polls.raiseTo x dst name src type srcptr

theorem steps {may : Entitled} (polls : w.Polls) (steps : SocketSteps may w w') : w'.Polls := by
  induction steps with
  | refl => exact polls
  | tail _ step ih => exact ih.step step

/-- Every step of a run. -/
theorem socketRunStep {r : Runtime} {label : RuntimeLabel SocketCall} (polls : r.world.Polls)
    (step : SocketRunStep r label w) : w.Polls := by
  cases step with
  | requeue requeues =>
      exact polls.same requeues.poller_eq fun fd => by rw [requeues.fds_eq]; exact id
  | call called =>
      have run : SocketSteps .all r.world w := SocketCall.run_steps (fun _ _ => trivial) called
      exact polls.steps run
  | @feed k sys body rest x src type _ top fed free done =>
      have run : SocketSteps .all r.world w := Body.fed_steps fed done
      exact polls.steps run

/-- Removing a handle never leaves the array of the batch. -/
theorem rmFd_ok (polls : w.Polls) (x : SockId) : ∃ w', w.rmFd x = .ok w' := by
  obtain ⟨poller, removing⟩ := NetPoller.rm_ok (.sock x) (w.sock x).wfd
    (polls.batch (w.sock x).worker)
  exact ⟨_, bind_eq_ok.mpr ⟨poller, removing, rfl⟩⟩

end World.Polls
end Klibmsg
