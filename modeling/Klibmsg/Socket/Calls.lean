import Klibmsg.Runtime
import Klibmsg.Socket.Cells

/-!
# What a public operation does

`CallRun` lists the ways in which a public operation of a socket runs to its end, in terms of the
machines that it starts, feeds and stops.
-/

namespace Klibmsg

/-- What `Start` of a machine does. -/
inductive StartRun (x : SockId) (w : World) : World → Prop
  | started (idle : (w.sock x).isIdle) (state : (w.sock x).state = .idle) :
      StartRun x w ((w.setState x .starting).setFsmState x .active)
  | reported (idle : (w.sock x).isIdle) (state : (w.sock x).state ≠ .idle) (stdout : List Report) :
      StartRun x w ({ w with stdout := stdout }.setFsmState x .active)

/-- What the first part of `Accept` does. -/
inductive AcceptStartRun (sys : Sys) (x : SockId) (w : World) : World → Prop
  | begins {started w' : World} (starting : StartRun x w started)
      (fed : FedRun (nestedAction sys) x sys kNetFsmAction kNetSockActionBeingAccepted started w') :
      AcceptStartRun sys x w w'
  | busy (used : ¬(w.sock x).isIdle) : AcceptStartRun sys x w w

/-- Calls that neither change a descriptor nor transfer bytes. -/
def SysCall.isPlain : SysCall → Bool
  | socket => true
  | setsockopt _ => true
  | bind _ => true
  | listen _ => true
  | connect _ => true
  | accept4 _ => true
  | getsockopt _ => true
  | fcntl _ => false
  | close _ => false
  | epollCtl _ _ => false
  | read _ _ _ _ => false
  | write _ _ _ _ _ => false

/-- What a public operation does. -/
inductive CallRun (sys : Sys) (w : World) : SocketCall → World → Prop
  | noSocket {x : SockId} {errno : Int} (answer : sys.socket = .fails errno) :
      CallRun sys w (.start x) (w.logCalls [.socket])
  | start {x : SockId} {fd : Fd} {initialised w' : World} (answer : sys.socket = .fd fd)
      (initialising : ((w.logCalls [.socket]).openFd fd).initFromFd sys x fd = .ok initialised)
      (starting : StartRun x initialised w') : CallRun sys w (.start x) w'
  | startFd {x : SockId} {fd : Fd} {initialised started w' : World}
      (initialising : w.initFromFd sys x fd = .ok initialised)
      (starting : StartRun x initialised started)
      (fed : FedRun (nestedAction sys) x sys kNetFsmAction kNetSockActionStarted started w') :
      CallRun sys w (.startFd x fd) w'
  | asks {op : SocketCall} {x : SockId} {calls : List SysCall}
      (asking : op = .setSockOpt x ∨ op = .bind x ∨ op = .listen x)
      (plain : ∀ call ∈ calls, call.isPlain = true) : CallRun sys w op (w.logCalls calls)
  | listen {x : SockId} {w' : World} (state : (w.sock x).state = .starting)
      (fed : FedRun (nestedAction sys) x sys kNetFsmAction kNetSockActionListen
        (w.logCalls [.listen (w.sock x).s]) w') : CallRun sys w (.listen x) w'
  | accept {x listener : SockId} {begun accepting : World} (starting : AcceptStartRun sys x w begun)
      (fed : FedRun (nestedAction sys) listener sys kNetFsmAction kNetSockActionAccept begun
        accepting)
      (mine : (accepting.sock x).asock = none ∨ (accepting.sock x).asock = some listener)
      (theirs : ((accepting.setAsock x (some listener)).sock listener).asock = none ∨
        ((accepting.setAsock x (some listener)).sock listener).asock = some x) :
      CallRun sys w (.accept x listener)
        (((accepting.setAsock x (some listener)).setAsock listener (some x)).execute
          ⟨listener, .accept⟩)
  | activate {x : SockId} {w' : World}
      (fed : FedRun (nestedAction sys) x sys kNetFsmAction kNetSockActionActivate w w') :
      CallRun sys w (.activate x) w'
  | connectDone {x : SockId} {connecting w' : World}
      (fed : FedRun (nestedAction sys) x sys kNetFsmAction kNetSockActionConnect w connecting)
      (answer : sys.connect = 0)
      (finishing : FedRun (nestedAction sys) x sys kNetFsmAction kNetSockActionDone
        (connecting.logCalls [.connect (connecting.sock x).s]) w') : CallRun sys w (.connect x) w'
  | connectFails {x : SockId} {connecting w' : World}
      (fed : FedRun (nestedAction sys) x sys kNetFsmAction kNetSockActionConnect w connecting)
      (answer : sys.connect ≠ 0 ∧ sys.connect ≠ EINPROGRESS)
      (failing : FedRun (nestedAction sys) x sys kNetFsmAction kNetSockActionError
        ((connecting.logCalls [.connect (connecting.sock x).s]).setErrnum x sys.connect) w') :
      CallRun sys w (.connect x) w'
  | connecting {x : SockId} {connecting : World}
      (fed : FedRun (nestedAction sys) x sys kNetFsmAction kNetSockActionConnect w connecting)
      (answer : sys.connect = EINPROGRESS) :
      CallRun sys w (.connect x)
        ((connecting.logCalls [.connect (connecting.sock x).s]).execute ⟨x, .connecting⟩)
  | asyncSendMsg (x : SockId) (msg : NetMsg) :
      CallRun sys w (.asyncSendMsg x msg) (w.asyncSendMsg x msg)
  | execute (task : TaskId) : CallRun sys w (.execute task) (w.execute task)
  | stop {x : SockId} {w' : World} (stopping : StopRun x sys w w') : CallRun sys w (.stop x) w'
  | asyncStop (x : SockId) : CallRun sys w (.asyncStop x) (w.asyncStop x)

section Calls

variable {sys : Sys} {x : SockId} {w w' : World}

theorem fsmStart_run (done : fsmStart sys x w = .ok w') : StartRun x w w' := by
  obtain ⟨idle, ⟨state, rfl⟩ | ⟨state, stdout, rfl⟩⟩ := fsmStart_outcome done
  · exact .started idle state
  · exact .reported idle state stdout

theorem acceptStart_run (done : acceptStart sys x w = .ok w') : AcceptStartRun sys x w w' := by
  simp only [acceptStart] at done
  split_ifs at done with idle
  · obtain ⟨started, starting, acting⟩ := bind_eq_ok.mp done
    exact .begins (fsmStart_run starting) (fsmAction_run acting)
  · cases done
    exact .busy idle

theorem start_run {rc : Int} (done : start sys x w = .ok (rc, w')) :
    CallRun sys w (.start x) w' := by
  simp only [start] at done
  split at done
  next errno answer =>
    cases done
    exact .noSocket answer
  next fd answer =>
    obtain ⟨initialised, initialising, rest⟩ := bind_eq_ok.mp done
    obtain ⟨started, starting, returned⟩ := bind_eq_ok.mp rest
    cases returned
    exact .start answer initialising (fsmStart_run starting)

theorem startFd_run {fd : Fd} (done : startFd sys x fd w = .ok w') :
    CallRun sys w (.startFd x fd) w' := by
  obtain ⟨initialised, initialising, rest⟩ := bind_eq_ok.mp done
  obtain ⟨started, starting, adding⟩ := bind_eq_ok.mp rest
  exact .startFd initialising (fsmStart_run starting) (fsmAction_run adding)

theorem setSockOpt_run {rc : Int} (done : setSockOpt sys x w = .ok (rc, w')) :
    CallRun sys w (.setSockOpt x) w' := by
  simp only [setSockOpt] at done
  split_ifs at done
  cases done
  exact .asks (.inl rfl) (by simp [SysCall.isPlain])

theorem bind_run {rc : Int} (done : Klibmsg.bind sys x w = .ok (rc, w')) :
    CallRun sys w (.bind x) w' := by
  simp only [Klibmsg.bind] at done
  split_ifs at done
  cases done
  exact .asks (.inr (.inl rfl)) (by simp [SysCall.isPlain])

theorem listen_run {rc : Int} (done : listen sys x w = .ok (rc, w')) :
    CallRun sys w (.listen x) w' := by
  simp only [listen] at done
  split_ifs at done with state answer
  · obtain ⟨listening, fed, returned⟩ := bind_eq_ok.mp done
    cases returned
    exact .listen state (fsmAction_run fed)
  · cases done
    exact .asks (.inr (.inr rfl)) (by simp [SysCall.isPlain])

theorem accept_run {listener : SockId} (done : accept sys x listener w = .ok w') :
    CallRun sys w (.accept x listener) w' := by
  obtain ⟨begun, starting, rest⟩ := bind_eq_ok.mp done
  obtain ⟨accepting, fed, pairing⟩ := bind_eq_ok.mp rest
  simp only [acceptPair] at pairing
  split_ifs at pairing with mine theirs
  cases pairing
  exact .accept (acceptStart_run starting) (fsmAction_run fed) mine theirs

theorem connect_run (done : connect sys x w = .ok w') : CallRun sys w (.connect x) w' := by
  obtain ⟨connecting, fed, rest⟩ := bind_eq_ok.mp done
  dsimp only at rest
  split_ifs at rest with connected failed
  · exact .connectDone (fsmAction_run fed) connected (fsmAction_run rest)
  · exact .connectFails (fsmAction_run fed) ⟨connected, failed⟩ (fsmAction_run rest)
  · cases rest
    exact .connecting (fsmAction_run fed) (not_not.mp failed)

theorem SocketCall.run_callRun {op : SocketCall} (done : op.run sys w = .ok w') :
    CallRun sys w op w' := by
  simp only [SocketCall.run] at done
  split_ifs at done
  cases op with
  | start x =>
      obtain ⟨⟨rc, started⟩, starting, returned⟩ := map_eq_ok.mp done
      cases returned
      exact start_run starting
  | startFd x fd => exact startFd_run done
  | setSockOpt x =>
      obtain ⟨⟨rc, set⟩, setting, returned⟩ := map_eq_ok.mp done
      cases returned
      exact setSockOpt_run setting
  | bind x =>
      obtain ⟨⟨rc, bound⟩, binding, returned⟩ := map_eq_ok.mp done
      cases returned
      exact bind_run binding
  | listen x =>
      obtain ⟨⟨rc, listened⟩, listening, returned⟩ := map_eq_ok.mp done
      cases returned
      exact listen_run listening
  | accept x listener => exact accept_run done
  | activate x => exact .activate (fsmAction_run done)
  | connect x => exact connect_run done
  | asyncSendMsg x msg =>
      cases done
      exact .asyncSendMsg x msg
  | execute task =>
      cases done
      exact .execute task
  | stop x => exact .stop (fsmStop_run done)
  | asyncStop x =>
      cases done
      exact .asyncStop x

end Calls

end Klibmsg
