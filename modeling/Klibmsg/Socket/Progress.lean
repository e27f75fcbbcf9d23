import Klibmsg.Socket.Connection

/-!
# A connection makes progress

As long as messages are unsent, every turn of a writable descriptor whose writes take something
brings at least one more byte on the way; every turn of a readable descriptor takes at least one of
the bytes that have arrived.  After as many turns as there are bytes everything has been raised.
-/

namespace Klibmsg

open StepSystem

/-- Each write takes at least one byte. -/
def Sys.Accepts (sys : Sys) : Prop :=
  ∃ room room', sys.writeHeader = .accepts room ∧ sys.writePayload = .accepts room'

/-- The number of bytes that a socket still has to write. -/
def NetSocket.unwritten (sock : NetSocket) : Nat :=
  (sock.unsent.map NetMsg.frameLen).sum - if sock.isOutBufBusy then sock.outOffset.toNat else 0

/-! ## Writing -/

section Writing

variable {sock : NetSocket} {memory : Memory} {header payload : WriteReply} {msg : NetMsg}

theorem sendFinish_rc (sock : NetSocket) (memory : Memory) (calls : List SysCall)
    (totalMsgSz : BitVec 64) :
    (sock.sendFinish memory calls totalMsgSz).rc = 0 ∨
      (sock.sendFinish memory calls totalMsgSz).rc = -EAGAIN := by
  rw [NetSocket.sendFinish]
  split_ifs
  · exact .inr rfl
  · exact .inl rfl

theorem sendPayload_rc (soft : payload.isHard = false) (sock : NetSocket) (memory : Memory)
    (calls : List SysCall) :
    (sock.sendPayload payload memory calls).rc = 0 ∨
      (sock.sendPayload payload memory calls).rc = -EAGAIN := by
  simp only [NetSocket.sendPayload, soft, Bool.false_eq_true, if_false]
  split_ifs
  · exact sendFinish_rc ..
  · exact sendFinish_rc ..

theorem sendRaw_rc (soft : header.isHard = false) (soft' : payload.isHard = false)
    (sock : NetSocket) (memory : Memory) :
    (sock.sendRaw header payload memory).rc = 0 ∨
      (sock.sendRaw header payload memory).rc = -EAGAIN := by
  simp only [NetSocket.sendRaw, soft, Bool.false_eq_true, if_false]
  split_ifs
  · exact sendPayload_rc soft' ..
  · exact sendPayload_rc soft' ..

theorem sendPayload_calls (payload : WriteReply) (sock : NetSocket) (memory : Memory)
    (calls : List SysCall) :
    ∃ more, (sock.sendPayload payload memory calls).calls = calls ++ more := by
  simp only [NetSocket.sendPayload]
  split_ifs
  · exact ⟨_, rfl⟩
  · exact ⟨_, sendFinish_calls _ _ _ _⟩
  · exact ⟨[], (sendFinish_calls _ _ _ _).trans (List.append_nil _).symm⟩

/-- `SendRaw` moves something of a frame that is not finished. -/
theorem sendRaw_moves (head : sock.outBuf.bytes.take NetMsg.size = msg.encode)
    (sized : msg.Sized) (fits : msg.Fits) (unfinished : sock.outOffset.toNat < msg.frameLen)
    (room room' : Nat) (memory : Memory) :
    transferred (sock.sendRaw (.accepts room) (.accepts room') memory).calls ≠ [] := by
  have bounded : msg.frameLen < 2 ^ 31 := fits
  have small : sock.outOffset.toNat < 2 ^ 31 := unfinished.trans bounded
  have wide := signExtend_toNat small
  have size_eq : headerSize.toNat = NetMsg.size := rfl
  have full := sock.outBuf.length_eq
  by_cases due : sock.outOffset.toNat < NetMsg.size
  · have count : (headerSize - sock.outOffset.signExtend 64).toNat =
        NetMsg.size - sock.outOffset.toNat := by
      rw [BitVec.toNat_sub, wide, size_eq]
      simp only [NetMsg.size] at due ⊢
      omega
    simp only [NetSocket.sendRaw, wide, size_eq, if_pos due, count, WriteReply.isHard,
      Bool.false_eq_true, if_false, WriteReply.taken]
    obtain ⟨more, calls⟩ := sendPayload_calls (.accepts room') { sock with
      outOffset := advance sock.outOffset (min (room + 1) (NetMsg.size - sock.outOffset.toNat)) }
      memory [.write sock.s (.buffer sock.outOffset) (headerSize - sock.outOffset.signExtend 64)
        (.accepts room) ((sock.outBuf.bytes.drop sock.outOffset.toNat).take
          (min (room + 1) (NetMsg.size - sock.outOffset.toNat)))]
    rw [calls, transferred_append, transferred_singleton]
    refine List.append_ne_nil_of_left_ne_nil (List.ne_nil_of_length_pos ?_) _
    simp only [SysCall.bytes, List.length_take, List.length_drop, full, NetMsg.size,
      kNetSocketBufferSize] at due ⊢
    omega
  · have count : (msg.totalMsgSz - sock.outOffset.signExtend 64).toNat =
        msg.frameLen - sock.outOffset.toNat := by
      have total := NetMsg.totalMsgSz_toNat sized fits
      rw [BitVec.toNat_sub, wide, total]
      omega
    have more : sock.outOffset.toInt < msg.totalMsgSz.toInt := by
      rw [toInt_of_small small, NetMsg.totalMsgSz_toInt sized fits, Int.ofNat_lt]
      exact unfinished
    simp only [NetSocket.sendRaw, wide, size_eq, if_neg due, NetSocket.sendPayload,
      outMsg_of_take head, more, Nat.not_lt.mp due, and_self, if_true, WriteReply.isHard,
      Bool.false_eq_true, if_false, sendFinish_calls, List.nil_append, transferred_singleton]
    refine List.ne_nil_of_length_pos ?_
    rw [SysCall.bytes, Memory.length_read, count, WriteReply.taken]
    omega

end Writing

section Sender

variable {x : SockId} {sys : Sys} {w w' : World} {frame : NetMsg × List Byte}
  {enqueued finished rest : List (NetMsg × List Byte)} {current : Option (NetMsg × List Byte)}
  {begun : List Byte}

theorem length_frames {frames : List (NetMsg × List Byte)}
    (framed : ∀ frame ∈ frames, WellFramed frame) :
    (frames.flatMap frameBytes).length = ((frames.map Prod.fst).map NetMsg.frameLen).sum := by
  rw [List.length_flatMap, List.map_map]
  congr 1
  exact List.map_congr_left fun frame member => length_frameBytes (framed frame member)

/-- What is unwritten and what has been written make up the frames of all messages. -/
theorem SenderHolds.unwritten_eq (holds : SenderHolds x w enqueued finished current rest begun) :
    (w.sock x).unwritten + (finished.flatMap frameBytes ++ begun).length =
      (enqueued.flatMap frameBytes).length := by
  have unsent : ((current.toList ++ rest).flatMap frameBytes).length =
      ((w.sock x).unsent.map NetMsg.frameLen).sum := by
    rw [holds.unsent_eq, length_frames fun frame member => ?_]
    refine holds.framed frame ?_
    rw [holds.split, List.append_assoc]
    exact List.mem_append_right _ member
  have buffer := holds.buffer
  have position : (if (w.sock x).isOutBufBusy then (w.sock x).outOffset.toNat else 0) =
      begun.length ∧ begun.length ≤ ((w.sock x).unsent.map NetMsg.frameLen).sum := by
    cases current with
    | none =>
        rw [buffer.1, buffer.2]
        exact ⟨rfl, Nat.zero_le _⟩
    | some frame =>
        obtain ⟨busy, -, inside, begun_eq⟩ := buffer
        have framed := holds.framed frame (by simp [holds.split])
        have length : begun.length = (w.sock x).outOffset.toNat := by
          rw [begun_eq, List.length_take, length_frameBytes framed]
          omega
        refine ⟨by rw [if_pos busy, length], ?_⟩
        rw [← unsent, Option.toList_some, List.singleton_append, List.flatMap_cons,
          List.length_append, length_frameBytes framed]
        omega
  rw [NetSocket.unwritten, position.1, List.length_append, holds.split, List.append_assoc,
    List.flatMap_append, List.length_append, unsent]
  omega

/-- With nothing unwritten all messages have been sent. -/
theorem SenderHolds.all_sent (holds : SenderHolds x w enqueued finished current rest begun)
    (nothing : (w.sock x).unwritten = 0) : current.toList ++ rest = [] := by
  have total := holds.unwritten_eq
  have framed (frame : NetMsg × List Byte) (member : frame ∈ current.toList ++ rest) :
      WellFramed frame := by
    refine holds.framed frame ?_
    rw [holds.split, List.append_assoc]
    exact List.mem_append_right _ member
  have buffer := holds.buffer
  rw [nothing, List.length_append, holds.split, List.append_assoc, List.flatMap_append,
    List.length_append] at total
  cases current with
  | none =>
      cases rest with
      | nil => rfl
      | cons frame rest =>
          have length := length_frameBytes (framed frame List.mem_cons_self)
          rw [buffer.2, Option.toList_none, List.nil_append, List.flatMap_cons, List.length_append,
            length, NetMsg.frameLen, NetMsg.size, List.length_nil] at total
          omega
  | some frame =>
      obtain ⟨-, -, inside, begun_eq⟩ := buffer
      have length := length_frameBytes (framed frame List.mem_cons_self)
      rw [Option.toList_some, List.singleton_append, List.flatMap_cons, List.length_append, length,
        begun_eq, List.length_take, length] at total
      omega

theorem activeFdOutBusy_moves (connected : Connected w x) {begun : List Byte}
    (buffer : OutBuffer (w.sock x) (some frame) begun) (framed : WellFramed frame)
    (source : frameAt w.memory frame.1 frame.1.src = frame) (accepts : sys.Accepts) :
    ∃ w', activeFdOutBusy x sys w = .ok w' ∧ bytesWritten (w'.since w) ≠ [] := by
  obtain ⟨room, room', header, payload⟩ := accepts
  have done : ∃ w', activeFdOutBusy x sys w = .ok w' := by
    simp only [activeFdOutBusy, header, payload]
    have soft : (WriteReply.accepts room).isHard = false := rfl
    have soft' : (WriteReply.accepts room').isHard = false := rfl
    obtain finished | again := sendRaw_rc soft soft' (w.sock x) w.memory
    · exact ⟨_, if_pos finished⟩
    · have unfinished : ((w.sock x).sendRaw (.accepts room) (.accepts room') w.memory).rc ≠ 0 := by
        rw [again]
        decide
      exact ⟨_, (if_neg unfinished).trans (if_pos again)⟩
  obtain ⟨w', done⟩ := done
  obtain ⟨-, -, -, written, -⟩ := activeFdOutBusy_writes connected buffer framed source done
  refine ⟨w', done, ?_⟩
  rw [written, header, payload]
  exact sendRaw_moves buffer.2.1 framed.sized framed.fits buffer.2.2.1 room room' w.memory

/-- While messages are unsent, a turn of the writable descriptor writes something. -/
theorem SenderHolds.fdOut_moves (holds : SenderHolds x w enqueued finished current rest begun)
    (pending : current.toList ++ rest ≠ []) (accepts : sys.Accepts) :
    ∃ w', activeFdOut x sys w = .ok w' ∧ bytesWritten (w'.since w) ≠ [] := by
  cases current with
  | some frame =>
      rw [activeFdOut, if_pos holds.buffer.1]
      exact activeFdOutBusy_moves holds.connected holds.buffer
        (holds.framed frame (by simp [holds.split])) (holds.source frame List.mem_cons_self) accepts
  | none =>
      cases rest with
      | nil => exact absurd rfl pending
      | cons frame rest =>
          obtain ⟨-, middle, writing, trace, begins⟩ := holds.dequeue sys
          obtain ⟨w', done, moves⟩ := activeFdOutBusy_moves begins.connected begins.buffer
            (begins.framed frame (by simp [begins.split]))
            (begins.source frame List.mem_cons_self) accepts
          rw [World.since, trace] at moves
          exact ⟨w', writing.trans done, moves⟩

end Sender

/-! ## Reading -/

section Receiver

variable {y : SockId} {sys : Sys} {w w' : World} {consumed pipe : List Byte}
  {received : List (NetMsg × List Byte)}

/-- A turn of the readable descriptor reads something of what has arrived. -/
theorem ReceiverHolds.fdIn_moves (holds : ReceiverHolds y w consumed received)
    (fits : ∀ msg ∈ NetMsg.framing.headers (consumed ++ pipe), msg.Fits) (sys : Sys)
    (more more' : Nat) :
    ∃ w', activeFdIn y (sys.reading (w.sock y) pipe (some more, some more')) w = .ok w' ∧
      (pipe ≠ [] → bytesRead (w'.since w) ≠ []) := by
  obtain ⟨w', transfer, taken, handled, transfer_eq, taken_eq, receiving⟩ :=
    holds.receiving fits sys (some more, some more')
  obtain ⟨-, -, -, -, -, read, -⟩ := receiving.after holds.connected
  refine ⟨w', handled, fun some_left => ?_⟩
  rw [read, taken_eq, transfer_eq]
  refine recvRaw_moves _ holds.holding (fun whole => fits _ ?_) some_left more more' w.memory
  rw [Framing.headers_append]
  exact List.mem_append_right _ (Framing.decode_mem_headers (F := NetMsg.framing) whole pipe)

end Receiver

/-! ## The connection -/

section Connection

variable {x y : SockId} {s : Connection}

theorem Framed.all_sent (framed : Framed x y s) (nothing : (s.sender.sock x).unwritten = 0) :
    s.sent = s.enqueued.length := by
  obtain ⟨finished, current, rest, begun, consumed, sends, -, -, count⟩ := framed
  rw [count, sends.split, List.append_assoc, sends.all_sent nothing, List.append_nil]

/-- A turn of the writable descriptor brings bytes on the way. -/
theorem Framed.fdOut_moves (framed : Framed x y s) (pending : (s.sender.sock x).unwritten ≠ 0)
    {sys : Sys} (accepts : sys.Accepts) :
    ∃ s', (connectionSystem x y).step s (.fdOut sys) = some s' ∧ s'.enqueued = s.enqueued ∧
      s'.pipe.length + (s'.sender.sock x).unwritten =
        s.pipe.length + (s.sender.sock x).unwritten ∧
      (s'.sender.sock x).unwritten < (s.sender.sock x).unwritten := by
  obtain ⟨finished, current, rest, begun, consumed, sends, -, -, -⟩ := framed
  have unsent : current.toList ++ rest ≠ [] := by
    intro none
    refine pending ?_
    rw [NetSocket.unwritten, sends.unsent_eq, none]
    exact Nat.zero_sub _
  obtain ⟨w, done, moves⟩ := sends.fdOut_moves unsent accepts
  obtain ⟨finished', current', rest', begun', sends', -, bytes⟩ := sends.fdOut done
  have before := sends.unwritten_eq
  have after := sends'.unwritten_eq
  rw [bytes, List.length_append] at after
  have some_moved := List.length_pos_of_ne_nil moves
  have stepped : (connectionSystem x y).step s (.fdOut sys) =
      some { s with
        sender := w
        pipe := s.pipe ++ bytesWritten (w.since s.sender)
        sent := s.sent + sentCount x (w.since s.sender) } := by
    simp only [connectionSystem]
    rw [sends.connected.feedFdOut, done]
  refine ⟨_, stepped, rfl, ?_, ?_⟩
  · dsimp only
    rw [List.length_append]
    omega
  · dsimp only
    omega

/-- A turn of the readable descriptor takes bytes that have arrived. -/
theorem Framed.fdIn_moves (framed : Framed x y s) (sys : Sys) (more more' : Nat) :
    ∃ s', (connectionSystem x y).step s (.fdIn sys (some more, some more')) = some s' ∧
      s'.sent = s.sent ∧ s'.enqueued = s.enqueued ∧ s'.pipe.length ≤ s.pipe.length - 1 := by
  obtain ⟨finished, current, rest, begun, consumed, sends, receives, bytes, -⟩ := framed
  obtain ⟨w, done, moves⟩ := receives.fdIn_moves (bytes ▸ sends.fits_written) sys more more'
  have stepped : (connectionSystem x y).step s (.fdIn sys (some more, some more')) =
      some { s with
        receiver := w
        pipe := s.pipe.drop (bytesRead (w.since s.receiver)).length
        received := s.received ++ (receivedMsgs y (w.since s.receiver)).map fun msg =>
          frameAt w.memory msg (w.device.token2Dptr msg.dst) } := by
    simp only [connectionSystem]
    rw [receives.connected.feedFdIn, done]
  refine ⟨_, stepped, rfl, rfl, ?_⟩
  dsimp only
  rw [List.length_drop]
  by_cases empty : s.pipe = []
  · rw [empty]
    simp
  · have some_moved := List.length_pos_of_ne_nil (moves empty)
    omega

/-- Turns of the writable descriptor send everything. -/
theorem Framed.sends_all (framed : Framed x y s) {outs : List Sys}
    (accepts : ∀ sys ∈ outs, sys.Accepts)
    (enough : (s.sender.sock x).unwritten ≤ outs.length) :
    ∃ n s', (connectionSystem x y).run s ((outs.take n).map .fdOut) = some s' ∧
      Framed x y s' ∧ s'.sent = s.enqueued.length ∧ s'.enqueued = s.enqueued ∧
        s'.pipe.length = s.pipe.length + (s.sender.sock x).unwritten := by
  induction outs generalizing s with
  | nil =>
      have nothing := Nat.le_zero.mp enough
      exact ⟨0, s, rfl, framed, framed.all_sent nothing, rfl, by rw [nothing]; rfl⟩
  | cons sys outs ih =>
      by_cases nothing : (s.sender.sock x).unwritten = 0
      · exact ⟨0, s, rfl, framed, framed.all_sent nothing, rfl, by rw [nothing]; rfl⟩
      · obtain ⟨middle, stepped, enqueued, moved, closer⟩ :=
          framed.fdOut_moves nothing (accepts sys List.mem_cons_self)
        obtain ⟨n, s', remaining, framed', sent, enqueued', length⟩ :=
          ih (framed.step stepped trivial)
            (fun other member => accepts other (List.mem_cons_of_mem _ member))
            (by rw [List.length_cons] at enough; omega)
        refine ⟨n + 1, s', ?_, framed', sent.trans (congrArg _ enqueued),
          enqueued'.trans enqueued, ?_⟩
        · rw [List.take_succ_cons, List.map_cons]
          exact run_cons_eq_some.mpr ⟨middle, stepped, remaining⟩
        · omega

/-- Turns of the readable descriptor read everything. -/
theorem Framed.reads_all (framed : Framed x y s) {ins : List (Sys × Nat × Nat)}
    (enough : s.pipe.length ≤ ins.length) :
    ∃ s', (connectionSystem x y).run s
        (ins.map fun turn => .fdIn turn.1 (some turn.2.1, some turn.2.2)) = some s' ∧
      Framed x y s' ∧ s'.pipe = [] ∧ s'.sent = s.sent ∧ s'.enqueued = s.enqueued := by
  induction ins generalizing s with
  | nil => exact ⟨s, rfl, framed, List.length_eq_zero_iff.mp (Nat.le_zero.mp enough), rfl, rfl⟩
  | cons turn ins ih =>
      obtain ⟨middle, stepped, sent, enqueued, closer⟩ :=
        framed.fdIn_moves turn.1 turn.2.1 turn.2.2
      obtain ⟨s', remaining, framed', empty, sent', enqueued'⟩ :=
        ih (framed.step stepped trivial) (by rw [List.length_cons] at enough; omega)
      refine ⟨s', ?_, framed', empty, sent'.trans sent, enqueued'.trans enqueued⟩
      rw [List.map_cons]
      exact run_cons_eq_some.mpr ⟨middle, stepped, remaining⟩

/-- From every state that a connection reaches, as many turns of the writable descriptor as there
are bytes to write are enough to send every message that has been enqueued, and as many turns of the
readable descriptor as there are bytes to read are enough to raise them all, however small the
pieces are. -/
theorem connection_completes {initial : Connection} {labels : List ConnectionLabel}
    (fresh : initial.Fresh x y)
    (guarded : (connectionSystem x y).Guarded (fun s label => label.Allowed x y s) initial labels)
    (execution : (connectionSystem x y).run initial labels = some s) {outs : List Sys}
    {ins : List (Sys × Nat × Nat)} (accepts : ∀ sys ∈ outs, sys.Accepts)
    (enough : (s.sender.sock x).unwritten ≤ outs.length)
    (enough' : s.pipe.length + (s.sender.sock x).unwritten ≤ ins.length) :
    ∃ n s', (connectionSystem x y).run s ((outs.take n).map .fdOut ++
        ins.map fun turn => .fdIn turn.1 (some turn.2.1, some turn.2.2)) = some s' ∧
      s'.enqueued = s.enqueued ∧ s'.sent = s.enqueued.length ∧ s'.received = s.enqueued := by
  have preserved (before : Connection) (label : ConnectionLabel) (after : Connection)
      (framed : Framed x y before) (allowed : label.Allowed x y before)
      (stepped : (connectionSystem x y).step before label = some after) : Framed x y after :=
    framed.step stepped allowed
  have framed := run_invariant_of_guarded preserved fresh.framed guarded execution
  obtain ⟨n, middle, writing, framed', sent, enqueued, length⟩ := framed.sends_all accepts enough
  obtain ⟨s', reading, framed'', empty, sent', enqueued'⟩ :=
    framed'.reads_all (length.trans_le enough')
  have sent_all : s'.sent = s.enqueued.length := sent'.trans sent
  have same : s'.enqueued = s.enqueued := enqueued'.trans enqueued
  refine ⟨n, s', ?_, same, sent_all, ?_⟩
  · rw [run_append, writing]
    exact reading
  · rw [framed''.delivered.2.2.2 empty, sent_all, same, List.take_length]

/-- Turns in which `write` takes one byte. -/
def bytewiseOuts : List Sys :=
  List.replicate 40 { writeHeader := .accepts 0, writePayload := .accepts 0 }

/-- Turns in which `read` finds one byte. -/
def bytewiseIns : List (Sys × Nat × Nat) := List.replicate 70 ({}, 0, 0)

/-- Two messages of which 31 bytes are on the way, and the rest byte by byte. -/
theorem connection_completes_bytewise :
    ∃ w s n s', connectAndReceive numbered = .ok w ∧
      (connectionSystem 1 1).run (twoProcesses w) (shortTransfers.take 3) = some s ∧
        (connectionSystem 1 1).run s ((bytewiseOuts.take n).map .fdOut ++
          bytewiseIns.map fun turn => .fdIn turn.1 (some turn.2.1, some turn.2.2)) = some s' ∧
          s'.received = s.enqueued ∧ s.enqueued.length = 2 := by
  have observed : (connectAndReceive numbered).toOption.any (fun w =>
      decide (Connected w 1 ∧ (w.sock 1).isOutBufBusy = false ∧ (w.sock 1).msgBufferQueue = [] ∧
        (w.sock 1).inOffset = 0) &&
      ((connectionSystem 1 1).run (twoProcesses w) (shortTransfers.take 3)).any fun s =>
        decide ((s.sender.sock 1).unwritten ≤ 40 ∧
          s.pipe.length + (s.sender.sock 1).unwritten ≤ 70 ∧ s.enqueued.length = 2)) = true := by
    decide +kernel
  obtain ⟨w, reached, observed⟩ := (Option.any_eq_true _ _).mp observed
  rw [Bool.and_eq_true, decide_eq_true_eq] at observed
  obtain ⟨⟨connected, busy, queue, in_offset⟩, observed⟩ := observed
  obtain ⟨s, execution, observed⟩ := (Option.any_eq_true _ _).mp observed
  obtain ⟨outs, ins, two⟩ := of_decide_eq_true observed
  have fresh : (twoProcesses w).Fresh 1 1 :=
    ⟨connected, connected, busy, queue, in_offset, rfl, rfl, rfl, rfl⟩
  have allowed : ∀ label ∈ shortTransfers.take 3, ∀ s, label.Allowed 1 1 s := fun label member =>
    shortTransfers_allowed label (List.mem_of_mem_take member)
  have accepts : ∀ sys ∈ bytewiseOuts, sys.Accepts := by
    intro sys member
    rw [List.eq_of_mem_replicate member]
    exact ⟨0, 0, rfl, rfl⟩
  have enough : (s.sender.sock 1).unwritten ≤ bytewiseOuts.length := outs
  have enough' : s.pipe.length + (s.sender.sock 1).unwritten ≤ bytewiseIns.length := ins
  obtain ⟨n, s', finishing, -, -, received⟩ :=
    connection_completes fresh (guarded_of_forall allowed _) execution accepts enough enough'
  exact ⟨w, s, n, s', toOption_eq_some reached, execution, finishing, received, two⟩

end Connection

end Klibmsg
