import Klibmsg.Socket.Calls
import Klibmsg.Socket.Descriptors
import Klibmsg.Socket.Frame

/-!
# What is written and read on a connection

A connection begins when a socket takes over a descriptor.  The offsets, the busy flag and the
buffers of the socket outlive the connection before it, so that a new one begins in the middle of a
frame unless the old one has ended at the boundary of two.
-/

namespace Klibmsg

/-! ## The calls of a connection -/

/-- The call gives bytes away. -/
def SysCall.isWrite : SysCall → Bool
  | write _ _ _ _ _ => true
  | _ => false

/-- The call takes bytes. -/
def SysCall.isRead : SysCall → Bool
  | read _ _ _ _ => true
  | _ => false

theorem SysCall.isRead_of_isWrite {call : SysCall} (writes : call.isWrite = true) :
    call.isRead = false := by
  cases call <;> first | rfl | cases writes

theorem SysCall.isWrite_of_isRead {call : SysCall} (reads : call.isRead = true) :
    call.isWrite = false := by
  cases call <;> first | rfl | cases reads

/-- The descriptor on which a call moves bytes. -/
def SysCall.transferFd : SysCall → Option Fd
  | read fd _ _ _ => some fd
  | write fd _ _ _ _ => some fd
  | _ => none

/-- The calls that have moved bytes on the descriptor since a socket took it over. -/
def Effect.record (fd : Fd) (calls : List SysCall) : Effect → List SysCall
  | sys call =>
      if call = .fcntl fd then []
      else if call.transferFd = some fd then calls ++ [call]
      else calls
  | _ => calls

/-- The calls of the connection that a descriptor stands for, or stood for when it was last open. -/
def connectionCalls (fd : Fd) (trace : List Effect) : List SysCall :=
  trace.foldl (Effect.record fd) []

/-- The effect is part of no connection. -/
def Effect.movesNothing : Effect → Bool
  | sys (.fcntl _) => false
  | sys (.read _ _ _ _) => false
  | sys (.write _ _ _ _ _) => false
  | _ => true

section Record

variable {fd : Fd}

theorem connectionCalls_append (trace more : List Effect) :
    connectionCalls fd (trace ++ more) = more.foldl (Effect.record fd) (connectionCalls fd trace) :=
  List.foldl_append

theorem Effect.record_of_movesNothing {effect : Effect} (nothing : effect.movesNothing = true)
    (calls : List SysCall) : effect.record fd calls = calls := by
  cases effect with
  | sys call =>
      cases call <;> first | rfl | cases nothing
  | execute | raise | deliver | sendCallback => rfl

theorem connectionCalls_of_movesNothing {trace more : List Effect}
    (nothing : ∀ effect ∈ more, effect.movesNothing = true) :
    connectionCalls fd (trace ++ more) = connectionCalls fd trace := by
  rw [connectionCalls_append]
  induction more generalizing trace with
  | nil => rfl
  | cons effect more ih =>
      have first : effect.record fd (connectionCalls fd trace) = connectionCalls fd trace :=
        Effect.record_of_movesNothing (nothing effect (by simp)) _
      rw [List.foldl_cons, first]
      exact ih fun other member => nothing other (List.mem_cons_of_mem _ member)

/-- Calls that move bytes on one descriptor. -/
theorem connectionCalls_transfer {s : Fd} {trace : List Effect} {calls : List SysCall}
    (on : ∀ call ∈ calls, call.transferFd = some s) :
    connectionCalls fd (trace ++ calls.map .sys) =
      if fd = s then connectionCalls fd trace ++ calls else connectionCalls fd trace := by
  induction calls generalizing trace with
  | nil => simp
  | cons call calls ih =>
      have moves := on call (by simp)
      have other : call ≠ .fcntl fd := by
        rintro rfl
        cases moves
      have rest := @ih (trace ++ [.sys call]) fun more member => on more (by simp [member])
      rw [List.map_cons, List.append_cons, rest, connectionCalls_append]
      by_cases equal : fd = s
      · subst equal
        simp [Effect.record, other, moves]
      · have different : s ≠ fd := Ne.symm equal
        simp [Effect.record, other, moves, equal, different]

/-- A descriptor is taken over. -/
theorem connectionCalls_fcntl (trace : List Effect) (s : Fd) :
    connectionCalls fd (trace ++ [.sys (.fcntl s)]) =
      if s = fd then [] else connectionCalls fd trace := by
  rw [connectionCalls_append]
  simp [Effect.record, SysCall.transferFd]

end Record

/-! ## Frames -/

/-- The calls have written the first bytes of the frame of a message, or all of them. -/
structure FramePart (msg : NetMsg) (calls : List SysCall) : Prop where
  sized : msg.Sized
  fits : msg.Fits
  consecutive : Consecutive msg.src msg.frameLen 0 calls
  header : (transferred calls).take NetMsg.size = msg.encode.take (transferred calls).length
  inside : (transferred calls).length ≤ msg.frameLen

/-- The calls have written the frame of a message. -/
def WholeFrame (calls : List SysCall) : Prop :=
  ∃ msg : NetMsg, FramePart msg calls ∧ (transferred calls).length = msg.frameLen

/-- Until a byte comes, what is asked for is the start of a header. -/
def ReadsHeaderFirst : List SysCall → Prop
  | [] => True
  | call :: rest =>
      call.range = some (.buffer 0, headerSize) ∧ (call.bytes = [] → ReadsHeaderFirst rest)

/-- Whole frames and the first part of one more were written, and the first byte that was read is
the first one of a header. -/
structure FramedConnection (calls : List SysCall) : Prop where
  written : ∃ (frames : List (List SysCall)) (part : List SysCall) (msg : NetMsg),
    calls.filter SysCall.isWrite = frames.flatten ++ part ∧
    (∀ frame ∈ frames, WholeFrame frame) ∧ FramePart msg part
  read : ReadsHeaderFirst (calls.filter SysCall.isRead)

section Frames

variable {msg : NetMsg} {memory : Memory}

theorem FramePart.nil (sized : msg.Sized) (fits : msg.Fits) : FramePart msg [] :=
  ⟨sized, fits, trivial, rfl, Nat.zero_le _⟩

/-- The bytes behind a part of a header complete it. -/
theorem take_header {encoded rest part more : List Byte}
    (known : part.take encoded.length = encoded.take part.length)
    (next : more = ((encoded ++ rest).drop part.length).take more.length) :
    (part ++ more).take encoded.length = encoded.take (part ++ more).length := by
  by_cases whole : encoded.length ≤ part.length
  · rw [List.take_append_of_le_length whole, known, List.take_of_length_le whole,
      List.take_of_length_le (by rw [List.length_append]; omega)]
  · have short : part.length ≤ encoded.length := by omega
    have part_eq : part = (encoded ++ rest).take part.length := by
      rw [List.take_append_of_le_length short, ← known, List.take_of_length_le short]
    have all : part ++ more = (encoded ++ rest).take (part ++ more).length := by
      rw [List.length_append, List.take_add, ← next, ← part_eq]
    have cut : ((encoded ++ rest).take (part ++ more).length).take encoded.length =
        encoded.take (part ++ more).length := by
      rw [List.take_take, Nat.min_comm, ← List.take_take, List.take_left]
    rwa [← all] at cut

/-- `SendRaw` goes on with the frame. -/
theorem FramePart.append {sock : NetSocket} {calls more : List SysCall} {transfer : Transfer}
    (part : FramePart msg calls) (offset : sock.outOffset.toNat = (transferred calls).length)
    (sends : Sends msg memory sock more transfer) : FramePart msg (calls ++ more) where
  sized := part.sized
  fits := part.fits
  consecutive := by
    refine part.consecutive.append ?_
    rw [Nat.zero_add, ← offset]
    exact sends.consecutive
  header := by
    rw [transferred_append]
    have length_eq := NetMsg.length_encode msg
    rw [← length_eq]
    refine @take_header _ (memory.read msg.src msg.payloadLen) _ _ ?_ ?_
    · rw [length_eq, part.header]
    · rw [← offset]
      exact sends.bytes
  inside := by
    rw [transferred_append, List.length_append, ← offset]
    exact sends.inside

/-- Once a byte has come, further reads may ask for anything. -/
theorem ReadsHeaderFirst.append {reads more : List SysCall} (first : ReadsHeaderFirst reads)
    (next : transferred reads = [] → ReadsHeaderFirst more) : ReadsHeaderFirst (reads ++ more) := by
  induction reads with
  | nil => exact next rfl
  | cons call reads ih =>
      refine ⟨first.1, fun empty => ih (first.2 empty) fun rest => next ?_⟩
      rw [transferred, List.flatMap_cons, empty]
      exact rest

end Frames

/-! ## The raw transfers -/

section Raw

variable {token2Dptr : Token → Address} {sock : NetSocket} {memory : Memory}

theorem recvRaw_on (token2Dptr : Token → Address) (header payload : ReadReply) (sock : NetSocket)
    (memory : Memory) : ∀ call ∈ (sock.recvRaw token2Dptr header payload memory).calls,
      call.isRead = true ∧ call.transferFd = some sock.s := by
  unfold NetSocket.recvRaw NetSocket.recvPayload NetSocket.recvFinish
  dsimp only
  split_ifs <;> simp [SysCall.isRead, SysCall.transferFd]

theorem sendRaw_on (header payload : WriteReply) (sock : NetSocket) (memory : Memory) :
    ∀ call ∈ (sock.sendRaw header payload memory).calls,
      call.isWrite = true ∧ call.transferFd = some sock.s := by
  unfold NetSocket.sendRaw NetSocket.sendPayload NetSocket.sendFinish
  dsimp only
  split_ifs <;> simp [SysCall.isWrite, SysCall.transferFd]

theorem recvRaw_sock (token2Dptr : Token → Address) (header payload : ReadReply) (sock : NetSocket)
    (memory : Memory) :
    ∃ inBuf inOffset, (sock.recvRaw token2Dptr header payload memory).sock =
      { sock with inBuf := inBuf, inOffset := inOffset } := by
  unfold NetSocket.recvRaw NetSocket.recvPayload NetSocket.recvFinish
  dsimp only
  split_ifs <;> exact ⟨_, _, rfl⟩

/-- With an offset of zero `RecvRaw` first asks for a whole header. -/
theorem recvRaw_start_header (header payload : ReadReply) (start : sock.inOffset = 0) :
    ReadsHeaderFirst (sock.recvRaw token2Dptr header payload memory).calls ∧
      (transferred (sock.recvRaw token2Dptr header payload memory).calls = [] →
        (sock.recvRaw token2Dptr header payload memory).sock.inOffset = 0) := by
  have due : sock.inOffset.toNat < NetMsg.size := by
    rw [start]
    decide
  have range : (sock.headerRead header).range = some (.buffer 0, headerSize) := by
    rw [NetSocket.headerRead, SysCall.range, start]
    rfl
  rw [recvRaw_of_due due]
  split_ifs with hard
  · exact ⟨⟨range, fun _ => trivial⟩, fun _ => start⟩
  · by_cases none : (sock.headerRead header).bytes = []
    · have still : (sock.withHeader []).inOffset = 0 := by
        rw [NetSocket.withHeader, start]
        rfl
      rw [none, recvPayload_of_due (by rw [still]; decide)]
      exact ⟨⟨range, fun _ => trivial⟩, fun _ => still⟩
    · obtain ⟨more, calls⟩ := recvPayload_calls token2Dptr payload
        (sock.withHeader (sock.headerRead header).bytes) memory [sock.headerRead header]
      rw [calls]
      refine ⟨⟨range, fun empty => absurd empty none⟩, fun empty => absurd ?_ none⟩
      rw [transferred_append, transferred_singleton] at empty
      exact (List.append_eq_nil_iff.mp empty).1

end Raw

/-! ## Sockets and their connections -/

/-- What is left of the transfers of a socket. -/
structure Buffers where
  inOffset : BitVec 32
  outBuf : Buffer
  outOffset : BitVec 32
  isOutBufBusy : Bool
  msgBufferQueue : List NetMsg

/-- The part of a socket that its transfers use. -/
def NetSocket.buffers (sock : NetSocket) : Buffers :=
  ⟨sock.inOffset, sock.outBuf, sock.outOffset, sock.isOutBufBusy, sock.msgBufferQueue⟩

/-- The header of a message lies in the out buffer, and the offset is a place in its frame. -/
structure Buffers.Sending (buffers : Buffers) (msg : NetMsg) : Prop where
  sized : msg.Sized
  fits : msg.Fits
  head : buffers.outBuf.bytes.take NetMsg.size = msg.encode
  inside : buffers.outOffset.toNat ≤ msg.frameLen

/-- Every message that waits is one whose frame the offsets can count. -/
structure Buffers.Sendable (buffers : Buffers) : Prop where
  sending : buffers.isOutBufBusy = true → ∃ msg, buffers.Sending msg
  queued : ∀ msg ∈ buffers.msgBufferQueue, msg.Sized ∧ msg.Fits

/-- Neither half of the socket is inside a frame. -/
def NetSocket.AtBoundary (sock : NetSocket) : Prop :=
  sock.inOffset = 0 ∧ (sock.isOutBufBusy = true → sock.outOffset = 0)

instance (sock : NetSocket) : Decidable sock.AtBoundary := inferInstanceAs (Decidable (_ ∧ _))

/-- The offsets say where in its last frame a connection is. -/
structure Buffers.Follows (buffers : Buffers) (calls : List SysCall) : Prop where
  written : ∃ (frames : List (List SysCall)) (part : List SysCall),
    calls.filter SysCall.isWrite = frames.flatten ++ part ∧ (∀ frame ∈ frames, WholeFrame frame) ∧
      (buffers.isOutBufBusy = false → part = []) ∧
        (buffers.isOutBufBusy = true → ∃ msg, buffers.Sending msg ∧ FramePart msg part ∧
          buffers.outOffset.toNat = (transferred part).length)
  unread : transferred (calls.filter SysCall.isRead) = [] → buffers.inOffset = 0
  read : ReadsHeaderFirst (calls.filter SysCall.isRead)

namespace Buffers

variable {buffers : Buffers} {calls : List SysCall}

theorem framePart_new : FramePart .new [] := .nil (by decide) (by decide)

theorem Follows.framed (follows : buffers.Follows calls) : FramedConnection calls := by
  obtain ⟨frames, part, split, whole, idle, busy⟩ := follows.written
  refine ⟨?_, follows.read⟩
  cases sending : buffers.isOutBufBusy with
  | false =>
      obtain rfl := idle sending
      exact ⟨frames, [], .new, split, whole, framePart_new⟩
  | true =>
      obtain ⟨msg, _, framePart, _⟩ := busy sending
      exact ⟨frames, part, msg, split, whole, framePart⟩

/-- A connection begins. -/
theorem Follows.begin (sendable : buffers.Sendable) (start : buffers.inOffset = 0)
    (frame : buffers.isOutBufBusy = true → buffers.outOffset = 0) : buffers.Follows [] where
  written := by
    refine ⟨[], [], rfl, by simp, fun _ => rfl, fun busy => ?_⟩
    obtain ⟨msg, sending⟩ := sendable.sending busy
    refine ⟨msg, sending, .nil sending.sized sending.fits, ?_⟩
    rw [frame busy]
    rfl
  unread _ := start
  read := trivial

end Buffers

/-- Messages that wait fit, and every socket that holds a descriptor knows where it is. -/
structure World.Aligned (w : World) : Prop where
  sendable : ∀ x, (w.sock x).buffers.Sendable
  follows : ∀ x, 0 ≤ (w.sock x).s →
    (w.sock x).buffers.Follows (connectionCalls (w.sock x).s w.trace)
  framed : ∀ fd, 0 ≤ fd → FramedConnection (connectionCalls fd w.trace)

/-- Nothing is transferred and no descriptor is taken over. -/
structure World.KeepsStreams (w w' : World) : Prop where
  buffers : ∀ y, (w'.sock y).buffers = (w.sock y).buffers
  asock : ∀ y, (w'.sock y).asock = (w.sock y).asock
  s : ∀ y, (w'.sock y).s = (w.sock y).s ∨ (w'.sock y).s = -1
  calls : ∀ fd, connectionCalls fd w'.trace = connectionCalls fd w.trace

namespace World.KeepsStreams

variable {w w' w'' : World} {x : SockId} {sys : Sys}

theorem refl (w : World) : w.KeepsStreams w :=
  ⟨fun _ => rfl, fun _ => rfl, fun _ => .inl rfl, fun _ => rfl⟩

theorem trans (first : w.KeepsStreams w') (second : w'.KeepsStreams w'') : w.KeepsStreams w'' where
  buffers y := (second.buffers y).trans (first.buffers y)
  asock y := (second.asock y).trans (first.asock y)
  s y := (second.s y).elim
    (fun same => (first.s y).imp same.trans same.trans) .inr
  calls fd := (second.calls fd).trans (first.calls fd)

theorem modify (w : World) (x : SockId) {change : NetSocket → NetSocket}
    (buffers : (change (w.sock x)).buffers = (w.sock x).buffers)
    (asock : (change (w.sock x)).asock = (w.sock x).asock)
    (s : (change (w.sock x)).s = (w.sock x).s ∨ (change (w.sock x)).s = -1) :
    w.KeepsStreams (w.modify x change) := by
  refine ⟨fun y => ?_, fun y => ?_, fun y => ?_, fun _ => rfl⟩
  · by_cases equal : y = x
    · subst equal
      simpa using buffers
    · simp [equal]
  · by_cases equal : y = x
    · subst equal
      simpa using asock
    · simp [equal]
  · by_cases equal : y = x
    · subst equal
      simpa using s
    · simp [equal]

theorem logged {added : List Effect} (sock : w'.sock = w.sock) (grown : w'.trace = w.trace ++ added)
    (nothing : ∀ effect ∈ added, effect.movesNothing = true) : w.KeepsStreams w' where
  buffers y := by rw [sock]
  asock y := by rw [sock]
  s y := .inl (by rw [sock])
  calls fd := by rw [grown, connectionCalls_of_movesNothing nothing]

theorem log (w : World) {effect : Effect} (nothing : effect.movesNothing = true) :
    w.KeepsStreams (w.log effect) := logged rfl rfl (by simpa using nothing)

theorem logCalls (w : World) {calls : List SysCall}
    (nothing : ∀ call ∈ calls, (Effect.sys call).movesNothing = true) :
    w.KeepsStreams (w.logCalls calls) := by
  refine logged rfl rfl fun effect member => ?_
  obtain ⟨call, called, rfl⟩ := List.mem_map.mp member
  exact nothing call called

theorem report (w : World) (stdout : List Report) : w.KeepsStreams { w with stdout := stdout } :=
  ⟨fun _ => rfl, fun _ => rfl, fun _ => .inl rfl, fun _ => rfl⟩

theorem modifyWorker (w : World) (k : WorkerId) (change : NetWorker → NetWorker) :
    w.KeepsStreams (w.modifyWorker k change) :=
  ⟨fun _ => rfl, fun _ => rfl, fun _ => .inl rfl, fun _ => rfl⟩

theorem setState (w : World) (x : SockId) (state : NetSockState) :
    w.KeepsStreams (w.setState x state) := modify w x rfl rfl (.inl rfl)

theorem setFsmState (w : World) (x : SockId) (state : NetFsmState) :
    w.KeepsStreams (w.setFsmState x state) := modify w x rfl rfl (.inl rfl)

theorem setErrnum (w : World) (x : SockId) (errnum : Int) : w.KeepsStreams (w.setErrnum x errnum) :=
  modify w x rfl rfl (.inl rfl)

theorem clearS (w : World) (x : SockId) : w.KeepsStreams (w.setS x (-1)) :=
  modify w x rfl rfl (.inr rfl)

theorem setEvent (w : World) (event : EventId) (change : NetFsmEvent → NetFsmEvent) :
    w.KeepsStreams (w.setEvent event change) := by
  rw [World.setEvent]
  exact modify w event.sock rfl rfl (.inl rfl)

theorem setCtx (w : World) (x : SockId) (change : NetCtx → NetCtx) :
    w.KeepsStreams (w.setCtx x change) := by
  rw [World.setCtx]
  exact modify w x rfl rfl (.inl rfl)

theorem ctxRaise (w : World) (x : SockId) (event : EventId) :
    w.KeepsStreams (w.ctxRaise x event) := by
  rw [World.ctxRaise]
  split
  · exact refl w
  · exact (setEvent _ _ _).trans (setCtx _ _ _)

theorem ctxRaiseTo (w : World) (x : SockId) (event : EventId) :
    w.KeepsStreams (w.ctxRaiseTo x event) := by
  rw [World.ctxRaiseTo]
  split
  · exact refl w
  · exact (setEvent _ _ _).trans (setCtx _ _ _)

theorem raise (w : World) (x : SockId) (name : EventName) (type : Int) (srcptr : Pointer) :
    w.KeepsStreams (w.raise x name type srcptr) := by
  rw [World.raise]
  exact (log w rfl).trans ((setEvent _ _ _).trans (ctxRaise _ _ _))

theorem raiseTo (w : World) (x dst : SockId) (name : EventName) (src type : Int)
    (srcptr : Pointer) : w.KeepsStreams (w.raiseTo x dst name src type srcptr) := by
  rw [World.raiseTo]
  exact (log w rfl).trans ((setEvent _ _ _).trans (ctxRaiseTo _ _ _))

theorem execute (w : World) (task : TaskId) : w.KeepsStreams (w.execute task) := by
  rw [World.execute]
  have logged : w.KeepsStreams (w.log (.execute task)) := log w rfl
  split
  · exact logged
  · exact logged.trans ((modify _ task.sock rfl rfl (.inl rfl)).trans (modifyWorker _ _ _))

theorem setHandle (w : World) (x : SockId) (result : NetPollerHandle × NetPoller Handle) :
    w.KeepsStreams (w.setHandle x result) := by
  rw [World.setHandle]
  exact (modifyWorker w _ _).trans (modify _ x rfl rfl (.inl rfl))

theorem addFd (w : World) (x : SockId) : w.KeepsStreams (w.addFd x) :=
  (setHandle w x _).trans (logCalls _ (by simp [Effect.movesNothing]))

theorem setIn (w : World) (x : SockId) : w.KeepsStreams (w.setIn x) :=
  (setHandle w x _).trans (logCalls _ (by split_ifs <;> simp [Effect.movesNothing]))

theorem setOut (w : World) (x : SockId) : w.KeepsStreams (w.setOut x) :=
  (setHandle w x _).trans (logCalls _ (by split_ifs <;> simp [Effect.movesNothing]))

theorem rmFd (removed : w.rmFd x = .ok w') : w.KeepsStreams w' := by
  obtain ⟨poller, _, returned⟩ := bind_eq_ok.mp removed
  cases returned
  exact (setHandle w x _).trans (logCalls _ (by simp [Effect.movesNothing]))

theorem resetOut (reset : w.resetOut x = .ok w') : w.KeepsStreams w' := by
  obtain ⟨result, _, returned⟩ := bind_eq_ok.mp reset
  cases returned
  exact (setHandle w x _).trans (logCalls _ (by split_ifs <;> simp [Effect.movesNothing]))

theorem close (w : World) (fd : Fd) : w.KeepsStreams (w.close fd) :=
  logged rfl rfl (by simp [Effect.movesNothing])

theorem netCloseFd {fd : Fd} (closed : w.netCloseFd sys fd = .ok w') : w.KeepsStreams w' := by
  simp only [World.netCloseFd] at closed
  split_ifs at closed
  · cases closed
    exact refl w
  · cases closed
    exact close w fd

theorem internalTask (w : World) (x : SockId) (name : TaskName) :
    w.KeepsStreams (w.internalTask x name) := by
  cases name with
  | send => exact setOut w x
  | recv => exact setIn w x
  | connected => exact addFd w x
  | connecting => exact (addFd w x).trans (setOut _ x)
  | accept => exact (addFd w x).trans (setIn _ x)
  | stop => exact refl w

theorem asyncStop (w : World) (x : SockId) : w.KeepsStreams (w.asyncStop x) :=
  (execute w _).trans (raise _ _ _ _ _)

theorem of_closeAndFail (done : closeAndFail x sys w = .ok w') : w.KeepsStreams w' := by
  obtain ⟨closed, closing, returned⟩ := bind_eq_ok.mp done
  cases returned
  exact (netCloseFd closing).trans (((clearS _ x).trans (setState _ x _)).trans (raise _ _ _ _ _))

theorem of_removeAndFail (done : removeAndFail x sys w = .ok w') : w.KeepsStreams w' := by
  obtain ⟨removed, removing, rest⟩ := bind_eq_ok.mp done
  exact (rmFd removing).trans (of_closeAndFail rest)

theorem of_connectingFdOut (done : connectingFdOut x sys w = .ok w') : w.KeepsStreams w' := by
  obtain ⟨reset, resetting, rest⟩ := bind_eq_ok.mp done
  have before := (resetOut resetting).trans ((setState reset x .active).trans
    (@logCalls _ [.getsockopt (reset.sock x).s] (by simp [Effect.movesNothing])))
  dsimp only at rest
  split_ifs at rest
  · cases rest
    exact before.trans (raise _ _ _ _ _)
  · obtain ⟨removed, removing, rest⟩ := bind_eq_ok.mp rest
    have gone := before.trans ((setErrnum _ _ _).trans (rmFd removing))
    split_ifs at rest
    cases rest
    exact gone.trans ((close _ _).trans
      (((clearS _ x).trans (setState _ x _)).trans (raise _ _ _ _ _)))

theorem of_finish2 (done : finish2 x w = .ok w') : w.KeepsStreams w' := by
  simp only [finish2, World.stopped] at done
  split_ifs at done
  cases done
  exact (setState _ _ _).trans ((raise _ _ _ _ _).trans (setFsmState _ _ _))

theorem of_finish1 (done : finish1 x sys w = .ok w') : w.KeepsStreams w' := by
  obtain ⟨closed, closing, rest⟩ := bind_eq_ok.mp done
  exact (netCloseFd closing).trans ((clearS _ x).trans (of_finish2 rest))

end World.KeepsStreams

/-! ## The transfers of a socket -/

namespace Buffers

variable {sock sock' : NetSocket} {calls : List SysCall} {msg : NetMsg} {memory : Memory}

theorem filter_writes {more : List SysCall} (writes : ∀ call ∈ more, call.isWrite = true) :
    (calls ++ more).filter SysCall.isWrite = calls.filter SysCall.isWrite ++ more ∧
      (calls ++ more).filter SysCall.isRead = calls.filter SysCall.isRead := by
  have none : more.filter SysCall.isRead = [] := by
    refine List.filter_eq_nil_iff.mpr fun call member => ?_
    simp [SysCall.isRead_of_isWrite (writes call member)]
  rw [List.filter_append, List.filter_append, List.filter_eq_self.mpr writes, none,
    List.append_nil]
  exact ⟨rfl, rfl⟩

theorem filter_reads {more : List SysCall} (reads : ∀ call ∈ more, call.isRead = true) :
    (calls ++ more).filter SysCall.isWrite = calls.filter SysCall.isWrite ∧
      (calls ++ more).filter SysCall.isRead = calls.filter SysCall.isRead ++ more := by
  have none : more.filter SysCall.isWrite = [] := by
    refine List.filter_eq_nil_iff.mpr fun call member => ?_
    simp [SysCall.isWrite_of_isRead (reads call member)]
  rw [List.filter_append, List.filter_append, List.filter_eq_self.mpr reads, none, List.append_nil]
  exact ⟨rfl, rfl⟩

/-- `RecvRaw` leaves the other direction alone. -/
theorem recvRaw_buffers (token2Dptr : Token → Address) (header payload : ReadReply)
    (sock : NetSocket) (memory : Memory) :
    ∃ inOffset, (sock.recvRaw token2Dptr header payload memory).sock.buffers =
      { sock.buffers with inOffset := inOffset } := by
  obtain ⟨inBuf, inOffset, same⟩ := recvRaw_sock token2Dptr header payload sock memory
  exact ⟨inOffset, by rw [same]; rfl⟩

theorem Sendable.receive (sendable : sock.buffers.Sendable) (token2Dptr : Token → Address)
    (header payload : ReadReply) (memory : Memory) :
    (sock.recvRaw token2Dptr header payload memory).sock.buffers.Sendable := by
  obtain ⟨inOffset, same⟩ := recvRaw_buffers token2Dptr header payload sock memory
  rw [same]
  refine ⟨fun busy => ?_, sendable.queued⟩
  obtain ⟨msg, sized, fits, head, inside⟩ := sendable.sending busy
  exact ⟨msg, sized, fits, head, inside⟩

theorem Follows.receive (follows : sock.buffers.Follows calls) (token2Dptr : Token → Address)
    (header payload : ReadReply) (memory : Memory) :
    (sock.recvRaw token2Dptr header payload memory).sock.buffers.Follows
      (calls ++ (sock.recvRaw token2Dptr header payload memory).calls) := by
  have reads := recvRaw_on token2Dptr header payload sock memory
  obtain ⟨writes_eq, reads_eq⟩ := @filter_reads calls _ fun call member =>
    (reads call member).1
  obtain ⟨inOffset, same⟩ := recvRaw_buffers token2Dptr header payload sock memory
  refine ⟨?_, fun empty => ?_, ?_⟩
  · rw [writes_eq, same]
    obtain ⟨frames, part, split, whole, idle, busy⟩ := follows.written
    refine ⟨frames, part, split, whole, idle, fun sends => ?_⟩
    obtain ⟨msg, ⟨sized, fits, head, inside⟩, framePart, offset⟩ := busy sends
    exact ⟨msg, ⟨sized, fits, head, inside⟩, framePart, offset⟩
  · rw [reads_eq, transferred_append] at empty
    obtain ⟨before, now⟩ := List.append_eq_nil_iff.mp empty
    exact (recvRaw_start_header header payload (follows.unread before)).2 now
  · rw [reads_eq]
    exact follows.read.append fun empty =>
      (recvRaw_start_header header payload (follows.unread empty)).1

theorem Sending.send (sending : sock.buffers.Sending msg) (header payload : WriteReply)
    (memory : Memory) :
    (sock.sendRaw header payload memory).sock.buffers.Sending msg ∧
      (sock.sendRaw header payload memory).sock.outOffset.toNat = sock.outOffset.toNat +
        (transferred (sock.sendRaw header payload memory).calls).length := by
  have sends := sendRaw_sends memory sending.head sending.sized sending.fits sending.inside header
    payload
  have bounded : msg.frameLen < 2 ^ 31 := sending.fits
  have inside := sends.inside
  have offset : (sock.sendRaw header payload memory).sock.outOffset.toNat = sock.outOffset.toNat +
      (transferred (sock.sendRaw header payload memory).calls).length := by
    rw [sends.sock_eq]
    exact advance_toNat (by omega)
  refine ⟨⟨sending.sized, sending.fits, ?_, ?_⟩, offset⟩
  · rw [sends.sock_eq]
    exact sending.head
  · change (sock.sendRaw header payload memory).sock.outOffset.toNat ≤ msg.frameLen
    rw [offset]
    exact inside

theorem sendRaw_buffers (header payload : WriteReply) (sock : NetSocket) (memory : Memory) :
    ∃ outOffset, (sock.sendRaw header payload memory).sock.buffers =
      { sock.buffers with outOffset := outOffset } := by
  unfold NetSocket.sendRaw NetSocket.sendPayload NetSocket.sendFinish
  dsimp only
  split_ifs <;> exact ⟨_, rfl⟩

theorem Sendable.send (sendable : sock.buffers.Sendable) (busy : sock.isOutBufBusy = true)
    (header payload : WriteReply) (memory : Memory) :
    (sock.sendRaw header payload memory).sock.buffers.Sendable := by
  obtain ⟨outOffset, same⟩ := sendRaw_buffers header payload sock memory
  obtain ⟨msg, sending⟩ := sendable.sending busy
  refine ⟨fun _ => ⟨msg, (sending.send header payload memory).1⟩, ?_⟩
  rw [same]
  exact sendable.queued

/-- A message is done with. -/
theorem Sendable.sent (sendable : sock.buffers.Sendable) :
    ({ sock with isOutBufBusy := false } : NetSocket).buffers.Sendable :=
  ⟨fun busy => (Bool.false_ne_true busy).elim, sendable.queued⟩

theorem Follows.send (follows : sock.buffers.Follows calls) (busy : sock.isOutBufBusy = true)
    (header payload : WriteReply) (memory : Memory) :
    (sock.sendRaw header payload memory).sock.buffers.Follows
        (calls ++ (sock.sendRaw header payload memory).calls) ∧
      ((sock.sendRaw header payload memory).rc = 0 →
        ({ (sock.sendRaw header payload memory).sock with
          isOutBufBusy := false } : NetSocket).buffers.Follows
            (calls ++ (sock.sendRaw header payload memory).calls)) := by
  have writes := sendRaw_on header payload sock memory
  obtain ⟨writes_eq, reads_eq⟩ := @filter_writes calls _ fun call member =>
    (writes call member).1
  obtain ⟨outOffset, same⟩ := sendRaw_buffers header payload sock memory
  have inOffset : (sock.sendRaw header payload memory).sock.inOffset = sock.inOffset :=
    congrArg Buffers.inOffset same
  have stillBusy : (sock.sendRaw header payload memory).sock.isOutBufBusy = true :=
    (congrArg Buffers.isOutBufBusy same).trans busy
  obtain ⟨frames, part, split, whole, _, inFrame⟩ := follows.written
  obtain ⟨msg, sending, framePart, offset⟩ := inFrame busy
  have sends := sendRaw_sends memory sending.head sending.sized sending.fits sending.inside header
    payload
  have longer := framePart.append offset sends
  obtain ⟨sending', moved⟩ := sending.send header payload memory
  have unread : transferred ((calls ++ (sock.sendRaw header payload memory).calls).filter
      SysCall.isRead) = [] → (sock.sendRaw header payload memory).sock.inOffset = 0 := by
    rw [reads_eq, inOffset]
    exact follows.unread
  have read : ReadsHeaderFirst ((calls ++ (sock.sendRaw header payload memory).calls).filter
      SysCall.isRead) := by
    rw [reads_eq]
    exact follows.read
  refine ⟨⟨⟨frames, part ++ (sock.sendRaw header payload memory).calls, ?_, whole, fun idle => ?_,
      fun _ => ⟨msg, sending', longer, ?_⟩⟩, unread, read⟩,
    fun complete => ⟨⟨frames ++ [part ++ (sock.sendRaw header payload memory).calls], [], ?_, ?_,
      fun _ => rfl, fun sends => (Bool.false_ne_true sends).elim⟩, unread, read⟩⟩
  · rw [writes_eq, split, List.append_assoc]
  · exact absurd (stillBusy.symm.trans idle) (by decide)
  · rw [transferred_append, List.length_append, ← offset]
    exact moved
  · rw [writes_eq, split]
    simp
  · intro frame member
    obtain earlier | last := List.mem_append.mp member
    · exact whole frame earlier
    · obtain rfl := List.mem_singleton.mp last
      refine ⟨msg, longer, ?_⟩
      rw [transferred_append, List.length_append, ← offset]
      exact sends.rc_eq.mp complete

/-- The next message is copied to the out buffer. -/
theorem dequeue_sending (sendable : sock.buffers.Sendable)
    (dequeued : sock.dequeueNetMsgToBuf = some sock') :
    ∃ msg, ({ sock' with isOutBufBusy := true } : NetSocket).buffers.Sending msg ∧
      sock'.outOffset = 0 ∧ sock'.inOffset = sock.inOffset ∧
        ∀ other ∈ sock'.msgBufferQueue, other.Sized ∧ other.Fits := by
  unfold NetSocket.dequeueNetMsgToBuf at dequeued
  split at dequeued
  next => cases dequeued
  next msg rest queue =>
    cases dequeued
    have waits (other : NetMsg) (member : other ∈ msg :: rest) : other.Sized ∧ other.Fits :=
      sendable.queued other (by rw [NetSocket.buffers, queue]; exact member)
    have length_eq := NetMsg.length_encode msg
    have within : 0 + msg.encode.length ≤ kNetSocketBufferSize := by
      rw [length_eq]
      decide
    have head := sock.outBuf.take_write within
    rw [Nat.zero_add, length_eq, List.take_zero, List.nil_append] at head
    refine ⟨msg, ⟨(waits msg (by simp)).1, (waits msg (by simp)).2, head, Nat.zero_le _⟩, rfl, rfl,
      fun other member => waits other (by simp [member])⟩

theorem Sendable.dequeue (sendable : sock.buffers.Sendable)
    (dequeued : sock.dequeueNetMsgToBuf = some sock') :
    ({ sock' with isOutBufBusy := true } : NetSocket).buffers.Sendable := by
  obtain ⟨msg, sending, _, _, queued⟩ := dequeue_sending sendable dequeued
  exact ⟨fun _ => ⟨msg, sending⟩, queued⟩

theorem Sendable.push (sendable : sock.buffers.Sendable) (fits : msg.Sized ∧ msg.Fits) :
    ({ sock with msgBufferQueue :=
      sock.msgBufferQueue ++ [msg] } : NetSocket).buffers.Sendable := by
  refine ⟨fun busy => ?_, fun other member => ?_⟩
  · obtain ⟨msg, sized, fits, head, inside⟩ := sendable.sending busy
    exact ⟨msg, sized, fits, head, inside⟩
  · obtain earlier | last := List.mem_append.mp member
    · exact sendable.queued other earlier
    · exact List.mem_singleton.mp last ▸ fits

theorem Follows.push (follows : sock.buffers.Follows calls) (msg : NetMsg) :
    ({ sock with msgBufferQueue := sock.msgBufferQueue ++ [msg] } : NetSocket).buffers.Follows
      calls := by
  obtain ⟨frames, part, split, whole, idle, inFrame⟩ := follows.written
  refine ⟨⟨frames, part, split, whole, idle, fun busy => ?_⟩, follows.unread, follows.read⟩
  obtain ⟨msg, ⟨sized, fits, head, inside⟩, framePart, offset⟩ := inFrame busy
  exact ⟨msg, ⟨sized, fits, head, inside⟩, framePart, offset⟩

theorem Follows.dequeue (follows : sock.buffers.Follows calls) (sendable : sock.buffers.Sendable)
    (idle : sock.isOutBufBusy = false) (dequeued : sock.dequeueNetMsgToBuf = some sock') :
    ({ sock' with isOutBufBusy := true } : NetSocket).buffers.Follows calls := by
  obtain ⟨msg, sending, start, inOffset, _⟩ := dequeue_sending sendable dequeued
  obtain ⟨frames, part, split, whole, empty, _⟩ := follows.written
  obtain rfl := empty idle
  refine ⟨⟨frames, [], split, whole, fun _ => rfl, fun _ =>
    ⟨msg, sending, .nil sending.sized sending.fits, ?_⟩⟩, fun unread => ?_, follows.read⟩
  · change sock'.outOffset.toNat = _
    rw [start]
    rfl
  · exact inOffset.trans (follows.unread unread)

end Buffers

/-! ## The steps of a machine -/

namespace World.Aligned

variable {w w' : World} {x : SockId} {sys : Sys} {fd : Fd}

theorem of_same (aligned : w.Aligned)
    (buffers : ∀ y, (w'.sock y).buffers = (w.sock y).buffers)
    (s : ∀ y, (w'.sock y).s = (w.sock y).s ∨ (w'.sock y).s = -1)
    (calls : ∀ fd, connectionCalls fd w'.trace = connectionCalls fd w.trace) : w'.Aligned where
  sendable y := buffers y ▸ aligned.sendable y
  follows y holds := by
    obtain same | none := s y
    · rw [buffers, same, calls]
      exact aligned.follows y (same ▸ holds)
    · rw [none] at holds
      exact absurd holds (by decide)
  framed fd valid := calls fd ▸ aligned.framed fd valid

theorem keeps (aligned : w.Aligned) (keeps : w.KeepsStreams w') : w'.Aligned :=
  aligned.of_same keeps.buffers keeps.s keeps.calls

/-- A socket moves bytes on its own descriptor. -/
theorem transfer (aligned : w.Aligned) {calls : List SysCall}
    (unique : ∀ y, 0 ≤ (w.sock x).s → (w.sock y).s = (w.sock x).s → y = x)
    (on : ∀ call ∈ calls, call.transferFd = some (w.sock x).s)
    (others : ∀ y, y ≠ x → w'.sock y = w.sock y) (s : (w'.sock x).s = (w.sock x).s)
    (trace : w'.trace = w.trace ++ calls.map .sys) (sendable : (w'.sock x).buffers.Sendable)
    (follows : 0 ≤ (w.sock x).s → (w'.sock x).buffers.Follows
      (connectionCalls (w.sock x).s w.trace ++ calls)) : w'.Aligned where
  sendable y := by
    by_cases equal : y = x
    · exact equal ▸ sendable
    · rw [others y equal]
      exact aligned.sendable y
  follows y holds := by
    rw [trace, connectionCalls_transfer on]
    by_cases equal : y = x
    · subst equal
      rw [s] at holds ⊢
      rw [if_pos rfl]
      exact follows holds
    · rw [others y equal] at holds ⊢
      have apart : (w.sock y).s ≠ (w.sock x).s := fun same =>
        equal (unique y (same ▸ holds) same)
      rw [if_neg apart]
      exact aligned.follows y holds
  framed fd valid := by
    rw [trace, connectionCalls_transfer on]
    split_ifs with same
    · subst same
      exact (follows valid).framed
    · exact aligned.framed fd valid

/-- A socket that is between two frames takes over a descriptor that no other holds. -/
theorem takeOver (aligned : w.Aligned) (boundary : (w.sock x).AtBoundary)
    (unheld : ∀ y, (w.sock y).s ≠ fd) (done : w.initFromFd sys x fd = .ok w') : w'.Aligned := by
  simp only [World.initFromFd] at done
  split_ifs at done
  cases done
  have began : (w.sock x).buffers.Follows [] := .begin (aligned.sendable x) boundary.1 boundary.2
  have other {y : SockId} (different : y ≠ x) : ((w.setS x fd).sock y) = w.sock y :=
    w.sock_setS_of_ne different fd
  refine ⟨fun y => ?_, fun y holds => ?_, fun other valid => ?_⟩
  · by_cases equal : y = x
    · subst equal
      change ((w.setS y fd).sock y).buffers.Sendable
      rw [World.sock_setS_self]
      exact aligned.sendable y
    · change ((w.setS x fd).sock y).buffers.Sendable
      rw [other equal]
      exact aligned.sendable y
  · change 0 ≤ ((w.setS x fd).sock y).s at holds
    change ((w.setS x fd).sock y).buffers.Follows (connectionCalls ((w.setS x fd).sock y).s
      (w.trace ++ [.sys (.fcntl fd)]))
    rw [connectionCalls_fcntl]
    by_cases equal : y = x
    · subst equal
      rw [World.sock_setS_self, if_pos rfl]
      exact began
    · rw [other equal] at holds ⊢
      rw [if_neg (Ne.symm (unheld y))]
      exact aligned.follows y holds
  · change FramedConnection (connectionCalls other (w.trace ++ [.sys (.fcntl fd)]))
    rw [connectionCalls_fcntl]
    split_ifs
    · exact began.framed
    · exact aligned.framed other valid

end World.Aligned

section Cells

variable {action : ActionCall} {x : SockId} {sys : Sys} {src type : Int} {label : NetSockState}
  {w w' : World}

theorem sock_applyTransfer_self (w : World) (x : SockId) (transfer : Transfer) :
    (w.applyTransfer x transfer).sock x = transfer.sock := by simp [World.applyTransfer]

theorem sock_applyTransfer_of_ne (w : World) {y : SockId} (other : y ≠ x) (transfer : Transfer) :
    (w.applyTransfer x transfer).sock y = w.sock y := by simp [World.applyTransfer, other]

/-- No other socket holds the descriptor of the socket. -/
def World.Alone (w : World) (x : SockId) : Prop :=
  ∀ y, 0 ≤ (w.sock x).s → (w.sock y).s = (w.sock x).s → y = x

theorem LifeView.Owned.alone (owned : w.life.Owned) (x : SockId) : w.Alone x := by
  intro y valid same
  refine owned.unique x y (fun none => ?_) same
  change (w.sock x).s = -1 at none
  rw [none] at valid
  exact absurd valid (by decide)

theorem World.Aligned.activeFdIn (aligned : w.Aligned) (alone : w.Alone x)
    (done : activeFdIn x sys w = .ok w') : w'.Aligned := by
  have received : (w.applyTransfer x ((w.sock x).recvRaw w.device.token2Dptr sys.readHeader
      sys.readPayload w.memory)).Aligned := by
    have reads := recvRaw_on w.device.token2Dptr sys.readHeader sys.readPayload (w.sock x) w.memory
    refine aligned.transfer alone (fun call member => (reads call member).2)
      (fun y other => sock_applyTransfer_of_ne w other _) ?_ rfl ?_ fun holds => ?_
    · rw [sock_applyTransfer_self]
      obtain ⟨_, _, same⟩ := recvRaw_sock w.device.token2Dptr sys.readHeader sys.readPayload
        (w.sock x) w.memory
      rw [same]
    · rw [sock_applyTransfer_self]
      exact (aligned.sendable x).receive _ _ _ _
    · rw [sock_applyTransfer_self]
      exact (aligned.follows x holds).receive _ _ _ _
  simp only [Klibmsg.activeFdIn] at done
  split_ifs at done <;> cases done
  · exact received.keeps (.raise _ _ _ _ _)
  · exact received
  · exact received

theorem World.Aligned.activeFdOutBusy (aligned : w.Aligned) (alone : w.Alone x)
    (busy : (w.sock x).isOutBufBusy = true) (done : activeFdOutBusy x sys w = .ok w') :
    w'.Aligned := by
  have writes := sendRaw_on sys.writeHeader sys.writePayload (w.sock x) w.memory
  have same := sendRaw_sameControl sys.writeHeader sys.writePayload (w.sock x) w.memory
  have sendable := (aligned.sendable x).send busy sys.writeHeader sys.writePayload w.memory
  have sent : (w.applyTransfer x ((w.sock x).sendRaw sys.writeHeader sys.writePayload
      w.memory)).Aligned := by
    refine aligned.transfer alone (fun call member => (writes call member).2)
      (fun y other => sock_applyTransfer_of_ne w other _) ?_ rfl ?_ fun holds => ?_
    · rw [sock_applyTransfer_self, same.s]
    · rw [sock_applyTransfer_self]
      exact sendable
    · rw [sock_applyTransfer_self]
      exact ((aligned.follows x holds).send busy _ _ _).1
  simp only [Klibmsg.activeFdOutBusy] at done
  split_ifs at done with complete <;> cases done
  · refine World.Aligned.keeps ?_ (.raise _ _ _ _ _)
    refine aligned.transfer alone (fun call member => (writes call member).2) (fun y other => ?_) ?_
      rfl ?_ fun holds => ?_
    · rw [World.sock_modify_of_ne _ other, sock_applyTransfer_of_ne w other]
    · rw [World.sock_modify_self, sock_applyTransfer_self]
      exact same.s
    · rw [World.sock_modify_self, sock_applyTransfer_self]
      exact sendable.sent
    · rw [World.sock_modify_self, sock_applyTransfer_self]
      exact ((aligned.follows x holds).send busy _ _ _).2 complete
  · exact sent
  · exact sent

theorem World.Aligned.activeFdOut (aligned : w.Aligned) (alone : w.Alone x)
    (done : activeFdOut x sys w = .ok w') : w'.Aligned := by
  simp only [Klibmsg.activeFdOut] at done
  split_ifs at done with busy
  · exact aligned.activeFdOutBusy alone busy done
  · have idle : (w.sock x).isOutBufBusy = false := by simpa using busy
    split at done
    next sock dequeued =>
      have same := dequeue_sameControl dequeued
      have self : ((w.modify x fun _ => { sock with isOutBufBusy := true }).sock x) =
          { sock with isOutBufBusy := true } := w.sock_modify_self x _
      have filled : (w.modify x fun _ => { sock with isOutBufBusy := true }).Aligned := by
        refine @World.Aligned.transfer _ _ _ aligned [] alone (by simp)
          (fun y other => by simp [other]) ?_ (by simp) ?_ fun holds => ?_
        · rw [self]
          exact same.s
        · rw [self]
          exact (aligned.sendable x).dequeue dequeued
        · rw [self, List.append_nil]
          exact (aligned.follows x holds).dequeue (aligned.sendable x) idle dequeued
      refine filled.activeFdOutBusy (fun y holds equal => ?_) (by rw [self]) done
      have s_eq : ((w.modify x fun _ => { sock with isOutBufBusy := true }).sock x).s =
          (w.sock x).s := by
        rw [self]
        exact same.s
      rw [s_eq] at holds equal
      by_cases own : y = x
      · exact own
      · rw [World.sock_modify_of_ne _ own] at equal
        exact alone y holds equal
    next => exact aligned.keeps (.resetOut done)

end Cells

end Klibmsg
