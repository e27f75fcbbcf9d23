import Klibmsg.Runtime.Sockets
import Klibmsg.Socket.Alignment

/-!
# Connections that begin at a frame boundary

`Start`, `StartFd` and the accept path give a socket a new descriptor, but only `Init` sets its
offsets and its busy flag.  A run in which sockets take over descriptors only between two frames
writes whole frames on every connection and reads every connection from the first byte of a header.
-/

namespace Klibmsg

open StepSystem

/-! ## What feeding a machine does to the connections -/

section Cells

variable {action : ActionCall} {x : SockId} {sys : Sys} {src type : Int} {label : NetSockState}
  {w w' : World}

/-- Only the type of `FdIn`, which is also that of the action `Accept`, makes the code take over a
descriptor. -/
def KeepsUnlessIn (action : ActionCall) : Prop :=
  ∀ y type w w', type ≠ kNetWorkerFdIn → action y type w = .ok w' → w.KeepsStreams w'

/-- The three cells that transfer bytes or take over a descriptor. -/
inductive StreamCell (x : SockId) (sys : Sys) (src type : Int) (w w' : World) : Prop
  | keeps (keeps : w.KeepsStreams w')
  | receives (source : src = kNetSockSrcFd) (done : activeFdIn x sys w = .ok w')
  | sends (source : src = kNetSockSrcFd) (done : activeFdOut x sys w = .ok w')
  | accepts (source : src = kNetFsmAction ∨ src = kNetSockSrcFd) (event : type = kNetWorkerFdIn)
      (done : acceptingFdIn x sys w = .ok w')

theorem CellRun.streams (nested : KeepsUnlessIn action)
    (run : CellRun action x sys src type label w w') : StreamCell x sys src type w w' := by
  cases run with
  | start | listen | connect | beingAccepted | accept | acceptAgain | acceptDone =>
      exact .keeps (.setState w x _)
  | started | activate => exact .keeps ((World.KeepsStreams.addFd w x).trans (.setState _ x _))
  | accepted _ _ done =>
      cases done
      exact .keeps ((World.KeepsStreams.setState w x _).trans (.raise _ _ _ _ _))
  | connected _ _ done =>
      cases done
      exact .keeps ((World.KeepsStreams.setState w x _).trans
        ((World.KeepsStreams.execute _ _).trans (.raise _ _ _ _ _)))
  | refused _ _ done => exact .keeps (.of_closeAndFail done)
  | connectingOut _ _ done => exact .keeps (.of_connectingFdOut done)
  | connectingErr _ _ done | activeErr _ _ done | removed _ _ done =>
      exact .keeps (.of_removeAndFail done)
  | activeIn source _ done => exact .receives source done
  | activeOut source _ done => exact .sends source done
  | activeError _ _ done =>
      cases done
      exact .keeps ((World.KeepsStreams.setState w x _).trans (.asyncStop _ x))
  | cancel _ _ done =>
      cases done
      exact .keeps ((World.KeepsStreams.setState w x _).trans (.execute _ _))
  | acceptIn source event done => exact .accepts source event done
  | cancelled _ _ done =>
      obtain ⟨removed, removing, rest⟩ := bind_eq_ok.mp done
      have before := (World.KeepsStreams.rmFd removing).trans (.setState removed x .listening)
      dsimp only at rest
      split at rest
      next => cases rest
      next y paired => exact .keeps (before.trans (nested y _ _ _ (by decide) rest))
  | ignored => exact .keeps (.refl w)

theorem FedRun.streams (nested : KeepsUnlessIn action) (run : FedRun action x sys src type w w') :
    ∃ stdout, StreamCell x sys src type { w with stdout := stdout } w' := by
  cases run with
  | internal name other event => exact ⟨w.stdout, .keeps (.internalTask w x name)⟩
  | cell running falls run listed => exact ⟨_, run.streams nested⟩
  | released _ _ _ done => exact ⟨w.stdout, .keeps (.of_finish2 done)⟩
  | ignored => exact ⟨w.stdout, .keeps (.refl w)⟩
  | finished _ _ _ removing done =>
      exact ⟨w.stdout, .keeps ((World.KeepsStreams.rmFd removing).trans (.of_finish1 done))⟩
  | badState => exact ⟨w.stdout, .keeps (.report w _)⟩

/-- Actions move no bytes, and only `Accept` can take over a descriptor. -/
theorem FedRun.keepsStreams (nested : KeepsUnlessIn action) (source : src = kNetFsmAction)
    (other : type ≠ kNetWorkerFdIn) (run : FedRun action x sys src type w w') :
    w.KeepsStreams w' := by
  have notFd : src ≠ kNetSockSrcFd := by
    rw [source]
    decide
  obtain ⟨stdout, cell⟩ := run.streams nested
  cases cell with
  | keeps keeps => exact (World.KeepsStreams.report w stdout).trans keeps
  | receives fd done => exact absurd fd notFd
  | sends fd done => exact absurd fd notFd
  | accepts _ event done => exact absurd event other

theorem keepsUnlessIn_within (sys : Sys) (depth : Nat) :
    KeepsUnlessIn (actionWithin sys depth) := by
  induction depth with
  | zero =>
      intro y type w w' _ done
      cases (check_eq_ok.mp done).2
  | succ depth ih =>
      intro y type w w' other done
      obtain ⟨positive, fed⟩ := check_eq_ok.mp done
      have notStop : ¬(kNetFsmAction = kNetFsmAction ∧ type = kNetFsmStop) := by
        rintro ⟨_, rfl⟩
        exact absurd positive (by decide)
      exact (feedWithin_run notStop fed).keepsStreams ih rfl other

theorem keepsUnlessIn_nested (sys : Sys) : KeepsUnlessIn (nestedAction sys) :=
  keepsUnlessIn_within sys 1

theorem StartRun.keepsStreams (run : StartRun x w w') : w.KeepsStreams w' := by
  cases run with
  | started => exact (World.KeepsStreams.setState w x _).trans (.setFsmState _ x _)
  | reported _ _ stdout => exact (World.KeepsStreams.report w stdout).trans (.setFsmState _ x _)

theorem StopRun.keepsStreams (run : StopRun x sys w w') : w.KeepsStreams w' := by
  have begun : w.KeepsStreams (w.beginStop x) :=
    (World.KeepsStreams.setFsmState w x _).trans (.setErrnum _ x _)
  cases run with
  | inactive => exact .refl w
  | idle => exact begun
  | done _ _ finishing => exact begun.trans (.of_finish2 finishing)
  | closed _ _ finishing => exact begun.trans (.of_finish1 finishing)
  | pairing => exact begun.trans ((World.KeepsStreams.report _ _).trans (.setState _ x _))
  | removing => exact begun.trans (.setState _ x _)
  | running => exact begun.trans ((World.KeepsStreams.asyncStop _ x).trans (.setState _ x _))

namespace World.Aligned

theorem setAsock (aligned : w.Aligned) (x : SockId) (asock : Option SockId) :
    (w.setAsock x asock).Aligned := by
  refine aligned.of_same (fun y => ?_) (fun y => .inl ?_) fun _ => rfl
  · by_cases equal : y = x
    · subst equal
      rw [World.sock_setAsock_self]
      rfl
    · rw [World.sock_setAsock_of_ne _ equal]
  · by_cases equal : y = x
    · subst equal
      rw [World.sock_setAsock_self]
    · rw [World.sock_setAsock_of_ne _ equal]

/-- The socket that is paired with a listener takes over a new descriptor. -/
theorem acceptingFdIn (aligned : w.Aligned)
    (unheld : ∀ fd, sys.accept4 = .fd fd → ∀ y, (w.sock y).s ≠ fd)
    (boundary : ∀ y ∈ (w.sock x).asock, (w.sock y).AtBoundary)
    (done : acceptingFdIn x sys w = .ok w') : w'.Aligned := by
  have called : (w.logCalls [.accept4 (w.sock x).s]).Aligned :=
    aligned.keeps (.logCalls w (by simp [Effect.movesNothing]))
  simp only [Klibmsg.acceptingFdIn] at done
  split at done
  next errno answer =>
    split_ifs at done
    · cases done
      exact called
    · obtain ⟨removed, removing, returned⟩ := bind_eq_ok.mp done
      cases returned
      have failed := called.keeps
        ((World.KeepsStreams.setErrnum _ x errno).trans (.setState _ x .acceptingError))
      exact (failed.keeps (.rmFd removing)).keeps (.raise _ _ _ _ _)
  next fd answer =>
    split_ifs at done
    simp only [acceptingNewFd] at done
    split at done
    next => cases done
    next y paired =>
      split_ifs at done
      · cases done
      obtain ⟨initialised, initialising, rest⟩ := bind_eq_ok.mp done
      obtain ⟨removed, removing, returned⟩ := bind_eq_ok.mp rest
      cases returned
      have opened : ((w.logCalls [.accept4 (w.sock x).s]).openFd fd).Aligned :=
        called.of_same (fun _ => rfl) (fun _ => .inl rfl) fun _ => rfl
      have taken : initialised.Aligned :=
        opened.takeOver (boundary y paired) (unheld fd answer) initialising
      have accepted := taken.keeps (.setState initialised y .accepted)
      have announced := accepted.keeps (.raiseTo _ x y .established kNetDeviceSrcSocketEvent
        kNetSockEventTypeAccepted (.sock y))
      have unpaired := (announced.setAsock y none).setAsock x none
      exact (unpaired.keeps (.rmFd removing)).keeps (.setState removed x .listening)

end World.Aligned

theorem FedRun.aligned (nested : KeepsUnlessIn action) (aligned : w.Aligned)
    (alone : src = kNetSockSrcFd → w.Alone x)
    (unheld : ∀ fd, sys.accept4 = .fd fd → ∀ y, (w.sock y).s ≠ fd)
    (boundary : (src = kNetFsmAction ∨ src = kNetSockSrcFd) → type = kNetWorkerFdIn →
      ∀ y ∈ (w.sock x).asock, (w.sock y).AtBoundary)
    (run : FedRun action x sys src type w w') : w'.Aligned := by
  obtain ⟨stdout, cell⟩ := run.streams nested
  have reported : ({ w with stdout := stdout } : World).Aligned := aligned.keeps (.report w stdout)
  cases cell with
  | keeps keeps => exact reported.keeps keeps
  | receives source done => exact reported.activeFdIn (alone source) done
  | sends source done => exact reported.activeFdOut (alone source) done
  | accepts source event done =>
      exact reported.acceptingFdIn unheld (boundary source event) done

end Cells

/-! ## Public operations -/

/-- The socket that is given a descriptor stands between two frames, and messages that are handed
over have frames that the offsets can count. -/
def SocketCall.InFrame (w : World) : SocketCall → Prop
  | .start x => (w.sock x).AtBoundary
  | .startFd x _ => (w.sock x).AtBoundary
  | .accept _ listener => ∀ y ∈ (w.sock listener).asock, (w.sock y).AtBoundary
  | .asyncSendMsg _ msg => msg.Sized ∧ msg.Fits
  | _ => True

instance (w : World) (op : SocketCall) : Decidable (op.InFrame w) :=
  match op with
  | .start _ | .startFd _ _ => inferInstanceAs (Decidable (NetSocket.AtBoundary _))
  | .accept _ listener =>
      inferInstanceAs (Decidable (∀ y ∈ (w.sock listener).asock, (w.sock y).AtBoundary))
  | .asyncSendMsg _ msg => inferInstanceAs (Decidable (msg.Sized ∧ msg.Fits))
  | .setSockOpt _ | .bind _ | .listen _ | .activate _ | .connect _ | .execute _ | .stop _ |
      .asyncStop _ => isTrue trivial

section Calls

variable {x : SockId} {sys : Sys} {w w' : World}

theorem World.KeepsStreams.atBoundary (keeps : w.KeepsStreams w') {y : SockId}
    (boundary : (w.sock y).AtBoundary) : (w'.sock y).AtBoundary := by
  have same := keeps.buffers y
  have inOffset : (w'.sock y).inOffset = (w.sock y).inOffset := congrArg Buffers.inOffset same
  have outOffset : (w'.sock y).outOffset = (w.sock y).outOffset := congrArg Buffers.outOffset same
  have busy : (w'.sock y).isOutBufBusy = (w.sock y).isOutBufBusy :=
    congrArg Buffers.isOutBufBusy same
  rw [NetSocket.AtBoundary, inOffset, outOffset, busy]
  exact boundary

theorem World.KeepsStreams.unheld (keeps : w.KeepsStreams w') {fd : Fd} (valid : 0 ≤ fd)
    (unheld : ∀ y, (w.sock y).s ≠ fd) (y : SockId) : (w'.sock y).s ≠ fd := by
  obtain same | none := keeps.s y
  · rw [same]
    exact unheld y
  · rw [none]
    exact ne_of_lt (lt_of_lt_of_le (by decide) valid)

/-- A message joins the queue. -/
theorem World.Aligned.asyncSendMsg (aligned : w.Aligned) {msg : NetMsg}
    (fits : msg.Sized ∧ msg.Fits) : (w.asyncSendMsg x msg).Aligned := by
  have pushed : (w.pushMsg x msg).Aligned := by
    refine ⟨fun y => ?_, fun y => ?_, aligned.framed⟩
    · by_cases equal : y = x
      · subst equal
        rw [World.pushMsg, World.sock_modify_self]
        exact (aligned.sendable y).push fits
      · rw [World.pushMsg, World.sock_modify_of_ne _ equal]
        exact aligned.sendable y
    · by_cases equal : y = x
      · subst equal
        rw [World.pushMsg, World.sock_modify_self]
        exact fun holds => (aligned.follows y holds).push msg
      · rw [World.pushMsg, World.sock_modify_of_ne _ equal]
        exact aligned.follows y
  exact pushed.keeps (.execute _ _)

/-- A descriptor that is closed belongs to no socket. -/
theorem LifeView.Owned.unheld (owned : w.life.Owned) {fd : Fd}
    (isClosed : 0 ≤ fd ∧ w.fds fd = false) (y : SockId) : (w.sock y).s ≠ fd := by
  rintro rfl
  have isOpen := owned.isOpen y (ne_of_gt (lt_of_lt_of_le (by decide) isClosed.1))
  exact absurd (isClosed.2.symm.trans isOpen) (by decide)

theorem AcceptStartRun.keepsStreams (run : AcceptStartRun sys x w w') : w.KeepsStreams w' := by
  cases run with
  | begins starting fed =>
      exact starting.keepsStreams.trans
        (fed.keepsStreams (keepsUnlessIn_nested sys) rfl (by decide))
  | busy => exact .refl w

theorem CallRun.aligned {op : SocketCall} (aligned : w.Aligned) (owned : w.life.Owned)
    (answered : Answered w (.call sys op)) (unheld : StartsUnheld w (.call sys op))
    (frame : op.InFrame w) (run : CallRun sys w op w') : w'.Aligned := by
  have nested := keepsUnlessIn_nested sys
  obtain ⟨kernel, _⟩ := answered
  cases run with
  | noSocket answer => exact aligned.keeps (.logCalls w (by simp [Effect.movesNothing]))
  | @start x fd initialised _ answer initialising starting =>
      have opened : ((w.logCalls [.socket]).openFd fd).Aligned :=
        (aligned.keeps (.logCalls w (by simp [Effect.movesNothing]))).of_same (fun _ => rfl)
          (fun _ => .inl rfl) fun _ => rfl
      exact (opened.takeOver frame (owned.unheld (kernel.socket fd answer)) initialising).keeps
        starting.keepsStreams
  | @startFd x fd initialised started _ initialising starting fed =>
      have taken := aligned.takeOver frame (unheld x fd rfl) initialising
      exact (taken.keeps starting.keepsStreams).keeps (fed.keepsStreams nested rfl (by decide))
  | asks asking plain =>
      refine aligned.keeps (.logCalls w fun call member => ?_)
      have isPlain := plain call member
      cases call <;> first | rfl | cases isPlain
  | listen state fed =>
      have called (x : SockId) : (w.logCalls [.listen (w.sock x).s]).Aligned :=
        aligned.keeps (.logCalls w (by simp [Effect.movesNothing]))
      exact (called _).keeps (fed.keepsStreams nested rfl (by decide))
  | @accept x listener begun accepting starting fed mine theirs =>
      have before := starting.keepsStreams
      have fedAligned : accepting.Aligned := by
        refine fed.aligned nested (aligned.keeps before) (fun isFd => absurd isFd (by decide))
          (fun fd answer => ?_) fun _ _ y paired => ?_
        · exact before.unheld (kernel.accept4 fd answer).1 (owned.unheld (kernel.accept4 fd answer))
        · rw [before.asock] at paired
          exact before.atBoundary (frame y paired)
      exact ((fedAligned.setAsock x _).setAsock listener _).keeps (.execute _ _)
  | activate fed => exact aligned.keeps (fed.keepsStreams nested rfl (by decide))
  | @connectDone x connecting _ fed answer finishing =>
      have connects := (aligned.keeps (fed.keepsStreams nested rfl (by decide))).keeps
        (@World.KeepsStreams.logCalls _ [.connect (connecting.sock x).s]
          (by simp [Effect.movesNothing]))
      exact connects.keeps (finishing.keepsStreams nested rfl (by decide))
  | @connectFails x connecting _ fed answer failing =>
      have connects := (aligned.keeps (fed.keepsStreams nested rfl (by decide))).keeps
        (@World.KeepsStreams.logCalls _ [.connect (connecting.sock x).s]
          (by simp [Effect.movesNothing]))
      exact (connects.keeps (.setErrnum _ x _)).keeps
        (failing.keepsStreams nested rfl (by decide))
  | @connecting x connecting fed answer =>
      have connects := (aligned.keeps (fed.keepsStreams nested rfl (by decide))).keeps
        (@World.KeepsStreams.logCalls _ [.connect (connecting.sock x).s]
          (by simp [Effect.movesNothing]))
      exact connects.keeps (.execute _ _)
  | asyncSendMsg x msg => exact aligned.asyncSendMsg frame
  | execute task => exact aligned.keeps (.execute w task)
  | stop stopping => exact aligned.keeps stopping.keepsStreams
  | asyncStop x => exact aligned.keeps (.asyncStop w x)

end Calls

/-! ## Runs -/

/-- The socket whose `IN` event a thread is about to feed. -/
def fedIn : List Frame → Option SockId
  | .enter (.fd listener .fdIn) :: _ => some listener
  | _ => none

/-- The system answers as it can, and a socket that may be given a descriptor stands between two
frames. -/
def BeginsInFrame (r : Runtime) (label : RuntimeLabel SocketCall) : Prop :=
  Answered r.world label ∧
    match label with
    | .call _ op => op.InFrame r.world
    | .advance k _ =>
        ∀ listener ∈ fedIn (r.thread k).frames,
          ∀ y ∈ (r.world.sock listener).asock, (r.world.sock y).AtBoundary
    | _ => True

instance (r : Runtime) (label : RuntimeLabel SocketCall) : Decidable (BeginsInFrame r label) :=
  match label with
  | .call _ op => inferInstanceAs (Decidable (_ ∧ op.InFrame r.world))
  | .advance _ _ => inferInstanceAs (Decidable (_ ∧ _))
  | .poll _ _ _ | .snapshot _ | .pop _ => inferInstanceAs (Decidable (_ ∧ True))

/-- Every connection consists of whole frames and the first part of one more, and is read from the
first byte of a header. -/
def Runtime.FramedConnections (r : Runtime) : Prop :=
  ∀ fd, 0 ≤ fd → FramedConnection (connectionCalls fd r.world.trace)

theorem World.Requeues.aligned {w w' : World} (requeues : w.Requeues w') (aligned : w.Aligned) :
    w'.Aligned := by
  obtain ⟨added, grown, delivers⟩ := requeues.trace
  refine aligned.of_same (fun y => ?_) (fun y => .inl ?_) fun fd => ?_
  · obtain ⟨_, _, _, same⟩ := requeues.sock y
    rw [same]
    rfl
  · exact (requeues.control y).2.2.1
  · rw [grown, connectionCalls_of_movesNothing]
    intro effect member
    obtain ⟨event, payload, rfl⟩ := delivers effect member
    rfl

theorem SocketRunStep.aligned {r : Runtime} {label : RuntimeLabel SocketCall} {w : World}
    (aligned : r.world.Aligned) (owned : r.world.life.Owned) (begins : BeginsInFrame r label)
    (unheld : StartsUnheld r.world label) (step : SocketRunStep r label w) : w.Aligned := by
  obtain ⟨answered, frame⟩ := begins
  cases step with
  | requeue requeues => exact requeues.aligned aligned
  | call called =>
      exact (SocketCall.run_callRun called).aligned aligned owned answered unheld frame
  | @feed k sys body rest x src type _ top fed free done =>
      have kernel : sys.Kernel r.world.fds := answered
      refine (feed_run (Body.fed_not_stop fed) done).aligned (keepsUnlessIn_nested sys) aligned
        (fun _ => owned.alone x) (fun fd answer => owned.unheld (kernel.accept4 fd answer))
        fun source event => ?_
      simp only [top] at frame
      cases body with
      | task queued =>
          cases fed
          obtain isAction | isFd := source
          · exact absurd isAction queued.name.src_ne_action
          · cases name : queued.name <;> rw [name] at isFd <;> exact absurd isFd (by decide)
      | fd y pevent =>
          cases fed
          cases pevent with
          | fdIn => exact frame _ rfl
          | fdOut => exact absurd event (by decide)
          | fdErr => exact absurd event (by decide)
      | event other => cases fed

theorem Runtime.Fresh.aligned {r : Runtime} (fresh : r.Fresh)
    (unused : ∀ x, (r.world.sock x).isOutBufBusy = false) : r.world.Aligned := by
  refine ⟨fun x => ⟨fun busy => ?_, ?_⟩, fun x holds => ?_, fun fd _ => ?_⟩
  · have idle : (r.world.sock x).buffers.isOutBufBusy = false := unused x
    rw [idle] at busy
    exact (Bool.false_ne_true busy).elim
  · obtain ⟨memory, src, addr, worker, initialised⟩ := fresh.socket x
    rw [initialised]
    rintro _ ⟨⟩
  · obtain ⟨memory, src, addr, worker, initialised⟩ := fresh.socket x
    rw [initialised] at holds
    exact absurd holds (by simp [NetSocket.initialised])
  · rw [fresh.trace]
    exact ⟨⟨[], [], .new, rfl, by simp, Buffers.framePart_new⟩, trivial⟩

/-- In every run in which sockets take over descriptors only between two frames, and messages have
frames that the offsets can count, whole frames are written on every connection, from its first
byte on, and the first byte that is read from it is the first one of a header. -/
theorem connections_framed {initial : Runtime} {labels : List (RuntimeLabel SocketCall)}
    (fresh : initial.Fresh) (negative : ∀ fd, initial.world.fds fd = true → 0 ≤ fd)
    (unused : ∀ x, (initial.world.sock x).isOutBufBusy = false)
    (unheld : socketOwner.system.Guarded (fun r => StartsUnheld r.world) initial labels)
    (begins : socketOwner.system.Guarded BeginsInFrame initial labels) :
    socketOwner.system.Always Runtime.FramedConnections initial labels := by
  have kept (before : Runtime) (label : RuntimeLabel SocketCall) (after : Runtime)
      (both : before.world.Aligned ∧ before.world.life.Owned)
      (allowed : StartsUnheld before.world label ∧ BeginsInFrame before label)
      (stepped : socketOwner.system.step before label = some after) :
      after.world.Aligned ∧ after.world.life.Owned :=
    have step := socketOwner_step stepped
    ⟨step.aligned both.1 both.2 allowed.2 allowed.1, step.owned both.2 allowed.2.1 allowed.1⟩
  have always := always_of_guarded kept ⟨fresh.aligned unused, fresh.owned negative⟩
    (unheld.and begins)
  exact fun earlier r before execution => (always earlier r before execution).1.framed

/-! ## A socket that is stopped and started again -/

/-- The first worker proceeds in its critical section. -/
def proceeds (steps : Nat) : List (RuntimeLabel SocketCall) := .replicate steps (.advance 0 {})

/-- Socket 1 connects, and its worker adds the descriptor to the poller. -/
def connects : List (RuntimeLabel SocketCall) :=
  [.call { socket := .fd 3 } (.start 1), .call { connect := 0 } (.connect 1), .snapshot 0,
    .pop 0] ++ proceeds 5

/-- The worker asks for `EPOLLOUT`, and the kernel takes some bytes of the header. -/
def writes (call : SocketCall) (header : WriteReply) (steps : Nat) :
    List (RuntimeLabel SocketCall) :=
  [.call {} call, .snapshot 0, .pop 0] ++ proceeds 3 ++
    [.poll 0 1 .fdOut, .advance 0 { writeHeader := header }] ++ proceeds steps

/-- The socket is stopped and reports that it has stopped. -/
def stops : List (RuntimeLabel SocketCall) :=
  [.call {} (.stop 1), .snapshot 0, .pop 0] ++ proceeds 7

/-- The whole header is sent before the socket is stopped, and ten bytes of the next one are sent on
the next connection. -/
def restartsBetweenFrames : List (RuntimeLabel SocketCall) :=
  connects ++ writes (.asyncSendMsg 1 .new) (.accepts 31) 4 ++ stops ++
    connects ++ writes (.asyncSendMsg 1 .new) (.accepts 9) 2

/-- Ten bytes of a header are sent before the socket is stopped; the owner that is told of the next
connection asks for the rest of what is to be sent. -/
def restartsInFrame : List (RuntimeLabel SocketCall) :=
  connects ++ writes (.asyncSendMsg 1 .new) (.accepts 9) 2 ++ stops ++
    connects ++ writes (.execute ⟨1, .send⟩) (.accepts 31) 4

theorem connections_framed_restarted :
    ∃ final, socketOwner.system.run default restartsBetweenFrames = some final ∧
      (transferred (connectionCalls 3 final.world.trace)).length = 10 ∧
      FramedConnection (connectionCalls 3 final.world.trace) := by
  have computed : (socketOwner.system.run default restartsBetweenFrames).any (fun final =>
      decide ((transferred (connectionCalls 3 final.world.trace)).length = 10)) = true := by
    decide +kernel
  obtain ⟨final, execution, written⟩ := (Option.any_eq_true _ _).mp computed
  have begins : socketOwner.system.Guarded BeginsInFrame default restartsBetweenFrames := by
    decide +kernel
  have unheld : socketOwner.system.Guarded (fun r => StartsUnheld r.world) default
      restartsBetweenFrames := by
    refine guarded_of_forall (fun label member r => ?_) default
    cases label with
    | call sys op =>
        rintro x fd rfl
        revert member
        simp [restartsBetweenFrames, connects, writes, stops, proceeds]
    | poll | snapshot | pop | advance => trivial
  have always := connections_framed Runtime.fresh_default (by rintro _ ⟨⟩) (fun _ => rfl) unheld
    begins
  exact ⟨final, execution, of_decide_eq_true written,
    always _ final List.prefix_rfl execution 3 (by decide)⟩

theorem WholeFrame.ne_nil {calls : List SysCall} (whole : WholeFrame calls) : calls ≠ [] := by
  rintro rfl
  obtain ⟨msg, _, length⟩ := whole
  simp only [transferred, List.flatMap_nil, List.length_nil, NetMsg.frameLen, NetMsg.size] at length
  omega

/-- The first thing that is written is the start of a header. -/
theorem FramedConnection.first_write {calls rest : List SysCall} {call : SysCall}
    (framed : FramedConnection calls) (writes : calls.filter SysCall.isWrite = call :: rest)
    {offset : BitVec 32} {count : BitVec 64} (range : call.range = some (.buffer offset, count)) :
    offset.toNat = 0 := by
  obtain ⟨frames, part, msg, split, whole, framePart⟩ := framed.written
  rw [writes] at split
  cases frames with
  | nil =>
      rw [List.flatten_nil, List.nil_append] at split
      exact ((split ▸ framePart.consecutive).1 _ _ range).2.1
  | cons frame frames =>
      have here := whole frame (by simp)
      cases frame with
      | nil => exact absurd rfl here.ne_nil
      | cons first frame =>
          obtain ⟨rfl, _⟩ := List.cons.inj split
          obtain ⟨msg, framePart, _⟩ := here
          exact (framePart.consecutive.1 _ _ range).2.1

/-- The second connection begins in the middle of a header. -/
theorem restarted_in_frame :
    ∃ final, socketOwner.system.run default restartsInFrame = some final ∧
      (default : Runtime).Fresh ∧ (∀ x, ((default : Runtime).world.sock x).isOutBufBusy = false) ∧
      socketOwner.system.Guarded (fun r => Answered r.world) default restartsInFrame ∧
      ¬final.FramedConnections := by
  have computed : (socketOwner.system.run default restartsInFrame).any (fun final =>
      decide (((connectionCalls 3 final.world.trace).filter SysCall.isWrite).map SysCall.range =
        [some (.buffer 10, 22)])) = true := by
    decide +kernel
  obtain ⟨final, execution, fact⟩ := (Option.any_eq_true _ _).mp computed
  have ranges := of_decide_eq_true fact
  refine ⟨final, execution, Runtime.fresh_default, fun _ => rfl, by decide +kernel,
    fun framed => ?_⟩
  cases writes : (connectionCalls 3 final.world.trace).filter SysCall.isWrite with
  | nil =>
      rw [writes] at ranges
      cases ranges
  | cons call rest =>
      rw [writes] at ranges
      obtain ⟨range, _⟩ := List.cons.inj ranges
      exact absurd ((framed 3 (by decide)).first_write writes range) (by decide)

end Klibmsg
