import Klibmsg.Library.StepSystem
import Klibmsg.Socket.Frame
import Mathlib.Data.List.Infix

/-!
# The offsets over the transfer of a frame

One frame is sent, or received, by calls of `SendRaw` or `RecvRaw` that go on until one of them
returns zero.  The kernel takes or gives any part of what each call asks for, or reports an error.
Memory may be anything at every call, since offsets do not depend on it.
-/

namespace Klibmsg

open StepSystem

/-- A socket while one frame is transferred. -/
structure FrameState where
  sock : NetSocket
  /-- The calls made for this frame. -/
  calls : List SysCall
  /-- A call has returned zero. -/
  finished : Bool

/-- A frame that is about to be transferred. -/
def FrameState.start (sock : NetSocket) : FrameState := ⟨sock, [], false⟩

/-- The memory and the answers of the kernel for one call of `SendRaw`. -/
structure SendCall where
  memory : Memory
  header : WriteReply
  payload : WriteReply

/-- The memory and the answers of the kernel for one call of `RecvRaw`. -/
structure RecvCall where
  memory : Memory
  header : ReadReply
  payload : ReadReply

/-- Repeated calls of `SendRaw`. -/
def sendSystem : StepSystem FrameState SendCall where
  step s call :=
    if s.finished then none
    else
      let transfer := s.sock.sendRaw call.header call.payload call.memory
      some ⟨transfer.sock, s.calls ++ transfer.calls, transfer.rc = 0⟩

/-- Repeated calls of `RecvRaw`. -/
def recvSystem (token2Dptr : Token → Address) : StepSystem FrameState RecvCall where
  step s call :=
    if s.finished then none
    else
      let transfer := s.sock.recvRaw token2Dptr call.header call.payload call.memory
      some ⟨transfer.sock, s.calls ++ transfer.calls, transfer.rc = 0⟩

/-- The offset counts the bytes of the frame that have been moved, every call was given exactly the
rest of the header or of the payload, and the frame counts as finished only when it is; then the
offset is the given one. -/
structure OffsetExact (msg : NetMsg) (base : Address) (atEnd : Int) (offset : BitVec 32)
    (calls : List SysCall) (finished : Bool) : Prop where
  counts : offset.toInt = if finished then atEnd else (transferred calls).length
  bounds : 0 ≤ offset.toInt ∧ offset.toInt ≤ NetMsg.size + msg.dataLen
  consecutive : Consecutive base msg.frameLen 0 calls
  complete : finished = true → (transferred calls).length = msg.frameLen

/-- `SendRaw` handles the frame of a message exactly, for every sequence of partial writes; the
offset stays behind the frame. -/
def SendExact (msg : NetMsg) : Prop :=
  ∀ (sock : NetSocket) (sends : List SendCall) (s : FrameState),
    sock.outBuf.bytes.take NetMsg.size = msg.encode → sock.outOffset = 0 →
      sendSystem.run (.start sock) sends = some s →
        OffsetExact msg msg.src (NetMsg.size + msg.dataLen) s.sock.outOffset s.calls s.finished

/-- `RecvRaw` handles a frame with this header exactly, for every sequence of partial reads; the
offset is reset for the next frame. -/
def RecvExact (msg : NetMsg) : Prop :=
  ∀ (token2Dptr : Token → Address) (sock : NetSocket) (recvs : List RecvCall) (s : FrameState),
    sock.inOffset = 0 → (recvSystem token2Dptr).run (.start sock) recvs = some s →
      (transferred s.calls).take NetMsg.size <+: msg.encode →
        OffsetExact msg (token2Dptr msg.dst) 0 s.sock.inOffset s.calls s.finished

section Data

variable {msg : NetMsg}

theorem frameLen_of_data (data : msg.msgType = 1) (sized : 0 ≤ msg.dataLen) :
    (msg.frameLen : Int) = NetMsg.size + msg.dataLen := by
  simp only [NetMsg.frameLen, NetMsg.payloadLen, data, if_true]
  omega

/-- Any offset that is a position in the frame is within the bounds. -/
theorem OffsetExact.of_counts {base : Address} {atEnd : Int} {offset : BitVec 32}
    {calls : List SysCall} {finished : Bool} {moved : Nat} (data : msg.msgType = 1)
    (sized : 0 ≤ msg.dataLen)
    (fits : msg.Fits) (offset_eq : offset.toNat = moved) (inside : moved ≤ msg.frameLen)
    (counts : (moved : Int) = if finished then atEnd else (transferred calls).length)
    (consecutive : Consecutive base msg.frameLen 0 calls)
    (complete : finished = true → (transferred calls).length = msg.frameLen) :
    OffsetExact msg base atEnd offset calls finished := by
  have total := frameLen_of_data data sized
  have bounded : msg.frameLen < 2 ^ 31 := fits
  have signed := toInt_of_small (show offset.toNat < 2 ^ 31 by omega)
  refine ⟨?_, ⟨?_, ?_⟩, consecutive, complete⟩
  · rw [signed, offset_eq, counts]
  · omega
  · omega

/-! ## Sending -/

/-- What the calls of `SendRaw` keep, for a frame that fits the offsets. -/
structure SendProgress (msg : NetMsg) (s : FrameState) : Prop where
  head : s.sock.outBuf.bytes.take NetMsg.size = msg.encode
  offset : s.sock.outOffset.toNat = (transferred s.calls).length
  inside : (transferred s.calls).length ≤ msg.frameLen
  consecutive : Consecutive msg.src msg.frameLen 0 s.calls
  complete : s.finished = true → (transferred s.calls).length = msg.frameLen

theorem SendProgress.step {s s' : FrameState} {call : SendCall} (sized : msg.Sized)
    (fits : msg.Fits) (progress : SendProgress msg s) (stepped : sendSystem.step s call = some s') :
    SendProgress msg s' := by
  simp only [sendSystem] at stepped
  split_ifs at stepped
  cases stepped
  have sends := sendRaw_sends call.memory progress.head sized fits
    (progress.offset ▸ progress.inside) call.header call.payload
  have bounded : msg.frameLen < 2 ^ 31 := fits
  have offset := progress.offset
  have inside := sends.inside
  rw [offset] at inside
  refine ⟨?_, ?_, ?_, ?_, ?_⟩
  · rw [sends.sock_eq]
    exact progress.head
  · rw [sends.sock_eq, transferred_append, List.length_append, ← progress.offset]
    exact advance_toNat (by omega)
  · simpa using inside
  · refine progress.consecutive.append ?_
    rw [Nat.zero_add, ← progress.offset]
    exact sends.consecutive
  · intro finished
    have all := sends.rc_eq.mp (of_decide_eq_true finished)
    rw [progress.offset] at all
    simpa using all

theorem sendExact_of_fits (data : msg.msgType = 1) (sized : 0 ≤ msg.dataLen) (fits : msg.Fits) :
    SendExact msg := by
  intro sock sends s head offset execution
  have start : SendProgress msg (.start sock) :=
    ⟨head, by simp [FrameState.start, offset, transferred], Nat.zero_le _, trivial, by
      simp [FrameState.start]⟩
  have progress : SendProgress msg s := run_invariant
    (fun _ _ _ progress stepped => progress.step (fun _ => sized) fits stepped) start execution
  refine .of_counts data sized fits progress.offset progress.inside ?_ progress.consecutive
    progress.complete
  split
  next finished => rw [progress.complete finished, frameLen_of_data data sized]
  next => rfl

/-! ## Receiving -/

/-- What the calls of `RecvRaw` keep, for a frame that fits the offsets. -/
structure RecvProgress (base : Address) (msg : NetMsg) (s : FrameState) : Prop where
  holding : s.finished = false → Holding s.sock (transferred s.calls)
  reset : s.finished = true → s.sock.inOffset = 0
  inside : (transferred s.calls).length ≤ msg.frameLen
  consecutive : Consecutive base msg.frameLen 0 s.calls
  complete : s.finished = true → (transferred s.calls).length = msg.frameLen

theorem decode_of_spells {got : List Byte} (whole : NetMsg.size ≤ got.length)
    (spells : got.take NetMsg.size <+: msg.encode) : NetMsg.decode got = msg := by
  have length_eq : (got.take NetMsg.size).length = msg.encode.length := by simp [whole]
  rw [← NetMsg.decode_take, spells.eq_of_length length_eq, NetMsg.decode_encode]

theorem RecvProgress.step {token2Dptr : Token → Address} {s s' : FrameState} {call : RecvCall}
    (fits : msg.Fits) (progress : RecvProgress (token2Dptr msg.dst) msg s)
    (spells : (transferred s'.calls).take NetMsg.size <+: msg.encode)
    (stepped : (recvSystem token2Dptr).step s call = some s') :
    RecvProgress (token2Dptr msg.dst) msg s' := by
  simp only [recvSystem] at stepped
  split_ifs at stepped with finished
  cases stepped
  simp only [transferred_append] at spells
  have holding := progress.holding (by simpa using finished)
  have advances := recvRaw_advances token2Dptr call.header call.payload call.memory holding
    fun whole => (decode_of_spells whole spells).symm ▸ fits
  have consecutive := advances.consecutive msg fun whole => decode_of_spells whole spells
  have all : Consecutive (token2Dptr msg.dst) msg.frameLen 0 (s.calls ++
      (s.sock.recvRaw token2Dptr call.header call.payload call.memory).calls) := by
    refine progress.consecutive.append ?_
    rw [Nat.zero_add]
    exact consecutive
  obtain ⟨finished, reset, whole, complete⟩ | ⟨unfinished, holds⟩ := advances.outcome
  · rw [decode_of_spells whole spells, ← transferred_append] at complete
    exact ⟨by simp [finished], fun _ => reset, complete.le, all, fun _ => complete⟩
  · refine ⟨fun _ => ?_, by simp [unfinished], ?_, all, by simp [unfinished]⟩
    · rw [transferred_append]
      exact holds
    · rw [transferred_append]
      by_cases whole : NetMsg.size ≤ (transferred s.calls ++ transferred
          (s.sock.recvRaw token2Dptr call.header call.payload call.memory).calls).length
      · have within := holds.unfinished whole
        rw [decode_of_spells whole spells] at within
        exact within.le
      · exact (Nat.not_le.mp whole).le.trans (Nat.le_add_right _ _)

theorem recvExact_of_fits (data : msg.msgType = 1) (sized : 0 ≤ msg.dataLen) (fits : msg.Fits) :
    RecvExact msg := by
  intro token2Dptr sock recvs s offset execution spells
  have start : RecvProgress (token2Dptr msg.dst) msg (.start sock) :=
    ⟨fun _ => .nil offset, by simp [FrameState.start], Nat.zero_le _, trivial, by
      simp [FrameState.start]⟩
  have kept (before : FrameState) (call : RecvCall) (after : FrameState)
      (holds : (transferred before.calls).take NetMsg.size <+: msg.encode →
        RecvProgress (token2Dptr msg.dst) msg before)
      (stepped : (recvSystem token2Dptr).step before call = some after)
      (spells : (transferred after.calls).take NetMsg.size <+: msg.encode) :
      RecvProgress (token2Dptr msg.dst) msg after := by
    refine (holds ?_).step fits spells stepped
    simp only [recvSystem] at stepped
    split_ifs at stepped
    cases stepped
    rw [transferred_append] at spells
    exact (List.IsPrefix.take (List.prefix_append _ _) NetMsg.size).trans spells
  have progress := run_invariant kept (fun _ => start) execution spells
  cases finished : s.finished with
  | false =>
      exact .of_counts data sized fits (progress.holding finished).offset progress.inside
        rfl progress.consecutive (by simp)
  | true =>
      exact .of_counts data sized fits (by rw [progress.reset finished]; rfl) (Nat.zero_le _)
        rfl progress.consecutive fun _ => progress.complete finished

/-! ## Frames that do not fit -/

/-- Behind the header an `int` has room for this many bytes of payload, less one. -/
def overflowLen : Nat := 2 ^ 31 - NetMsg.size

/-- A frame that does not fit ends behind its header, or its payload reaches the overflow. -/
theorem totalMsgSz_of_not_fits (data : msg.msgType = 1) (sized : 0 ≤ msg.dataLen)
    (large : ¬msg.Fits) :
    msg.extra.toNat = msg.payloadLen ∧ overflowLen ≤ msg.payloadLen ∧
      msg.totalMsgSz.toNat = msg.frameLen := by
  simp only [NetMsg.Fits, NetMsg.frameLen, NetMsg.payloadLen, NetMsg.dataLen, data, if_true,
    NetMsg.size, overflowLen, NetMsg.totalMsgSz] at large sized ⊢
  rw [BitVec.toInt_eq_toNat_cond] at large sized ⊢
  have bounded := msg.extra.isLt
  split_ifs at large sized ⊢
  · refine ⟨by omega, by omega, ?_⟩
    rw [BitVec.toNat_add]
    simp only [BitVec.toNat_ofNat]
    omega
  · omega

theorem overflow_negative : (advance (32 : BitVec 32) overflowLen).toInt = -2 ^ 31 := by
  rw [advance_eq]
  decide

/-- The kernel takes the whole header. -/
theorem sendRaw_start {sock : NetSocket} (memory : Memory) (offset : sock.outOffset = 0)
    (payload : WriteReply) :
    sock.sendRaw (.accepts 31) payload memory =
      NetSocket.sendPayload payload { sock with outOffset := 32 } memory
        [.write sock.s (.buffer 0) headerSize (.accepts 31)
          ((sock.outBuf.bytes.drop 0).take NetMsg.size)] := by
  simp only [NetSocket.sendRaw, offset]
  rfl

/-- One call of `SendRaw` that is given all it asks for, up to the overflow. -/
theorem sendRaw_overflow {sock : NetSocket} (memory : Memory) (data : msg.msgType = 1)
    (sized : 0 ≤ msg.dataLen) (large : ¬msg.Fits) (decoded : sock.outMsg = msg)
    (offset : sock.outOffset = 0) :
    (sock.sendRaw (.accepts 31) (.accepts (overflowLen - 1)) memory).sock.outOffset.toInt =
        -2 ^ 31 ∨
      (sock.sendRaw (.accepts 31) (.accepts (overflowLen - 1)) memory).rc = 0 ∧
        (transferred (sock.sendRaw (.accepts 31) (.accepts (overflowLen - 1))
          memory).calls).length = NetMsg.size := by
  obtain ⟨payload, enough, total⟩ := totalMsgSz_of_not_fits data sized large
  have length_eq := sock.outBuf.length_eq
  have wide : BitVec.signExtend 64 (32 : BitVec 32) = headerSize := rfl
  have count : (msg.totalMsgSz - headerSize).toNat = msg.payloadLen := by
    have header : headerSize.toNat = NetMsg.size := rfl
    have bounded := msg.totalMsgSz.isLt
    rw [BitVec.toNat_sub, header, total]
    simp only [NetMsg.frameLen, NetMsg.size] at total ⊢
    omega
  have taken : (WriteReply.accepts (overflowLen - 1)).taken msg.payloadLen = overflowLen := by
    have positive : 0 < overflowLen := by decide
    simp only [WriteReply.taken]
    omega
  have decoded' : NetSocket.outMsg { sock with outOffset := 32 } = msg := decoded
  rw [sendRaw_start memory offset]
  simp only [NetSocket.sendPayload, decoded', wide, count, taken, WriteReply.isHard,
    Bool.false_eq_true, if_false, le_refl, true_and]
  split_ifs with due
  · refine .inl ?_
    simp only [NetSocket.sendFinish]
    split_ifs <;> exact overflow_negative
  · refine .inr ?_
    simp only [NetSocket.sendFinish, if_neg due, true_and, transferred_singleton, SysCall.bytes]
    rw [List.length_take, List.length_drop, length_eq]
    rfl

theorem exists_buffer (msg : NetMsg) :
    ∃ buffer : Buffer, buffer.bytes.take NetMsg.size = msg.encode := by
  refine ⟨Buffer.zero.write 0 msg.encode, ?_⟩
  have within : 0 + msg.encode.length ≤ kNetSocketBufferSize := by
    rw [NetMsg.length_encode]
    decide
  simpa using Buffer.zero.take_write within

theorem size_lt_of_not_fits (large : ¬msg.Fits) : NetMsg.size < msg.frameLen := by
  have small : NetMsg.size < 2 ^ 31 := by decide
  have bounded : ¬msg.frameLen < 2 ^ 31 := large
  omega

theorem fits_of_sendExact (data : msg.msgType = 1) (sized : 0 ≤ msg.dataLen)
    (exact : SendExact msg) : msg.Fits := by
  by_contra large
  obtain ⟨buffer, head⟩ := exists_buffer msg
  obtain ⟨sock, head, offset⟩ : ∃ sock : NetSocket,
      sock.outBuf.bytes.take NetMsg.size = msg.encode ∧ sock.outOffset = 0 :=
    ⟨{ (default : NetSocket) with outBuf := buffer }, head, rfl⟩
  have result := exact sock [⟨fun _ => 0, .accepts 31, .accepts (overflowLen - 1)⟩] _
    head offset rfl
  obtain negative | ⟨finished, short⟩ := sendRaw_overflow (fun _ => 0) data sized large
    (outMsg_of_take head) offset
  · have nonneg := result.bounds.1
    simp only [FrameState.start, negative] at nonneg
    omega
  · have whole := result.complete (decide_eq_true finished)
    simp only [FrameState.start, List.nil_append] at whole
    have longer := size_lt_of_not_fits large
    omega

/-- The header arrives in one piece. -/
theorem recvRaw_start {sock : NetSocket} (token2Dptr : Token → Address) (memory : Memory)
    (offset : sock.inOffset = 0) {first : Byte} {rest : List Byte}
    (spells : first :: rest = msg.encode) (payload : ReadReply) :
    ∃ (sock' : NetSocket) (call : SysCall),
      sock.recvRaw token2Dptr (.data first rest) payload memory =
        NetSocket.recvPayload token2Dptr payload sock' memory [call] ∧
      sock'.inMsg = msg ∧ sock'.inOffset = 32 ∧ call.bytes = msg.encode := by
  have due : sock.inOffset.toNat < NetMsg.size := by
    rw [offset]
    decide
  have bytes : (sock.headerRead (.data first rest)).bytes = msg.encode := by
    rw [headerRead_bytes due, offset, ReadReply.bytes, spells]
    exact List.take_of_length_le (NetMsg.length_encode msg).le
  have length_eq := msg.length_encode
  have inside : sock.inOffset.toNat + msg.encode.length ≤ NetMsg.size := by
    rw [offset, length_eq]
    decide
  refine ⟨sock.withHeader msg.encode, sock.headerRead (.data first rest), ?_, ?_, ?_, bytes⟩
  · rw [recvRaw_of_due due, bytes]
    rfl
  · have zero : sock.inOffset.toNat = 0 := by
      rw [offset]
      rfl
    have head := withHeader_take sock inside
    rw [zero, length_eq, Nat.zero_add, List.take_zero, List.nil_append] at head
    rw [NetSocket.inMsg, ← NetMsg.decode_take, head, NetMsg.decode_encode]
  · rw [NetSocket.withHeader, offset, length_eq]
    rfl

/-- One call of `RecvRaw` that is given all it asks for, up to the overflow. -/
theorem recvPayload_overflow {sock : NetSocket} {token2Dptr : Token → Address} (memory : Memory)
    (data : msg.msgType = 1) (sized : 0 ≤ msg.dataLen) (large : ¬msg.Fits)
    (decoded : sock.inMsg = msg) (offset : sock.inOffset = 32) (calls : List SysCall) :
    (NetSocket.recvPayload token2Dptr (.data 0 (.replicate (overflowLen - 1) 0)) sock memory
        calls).sock.inOffset.toInt = -2 ^ 31 ∨
      (NetSocket.recvPayload token2Dptr (.data 0 (.replicate (overflowLen - 1) 0)) sock memory
        calls).rc = 0 ∧
      (NetSocket.recvPayload token2Dptr (.data 0 (.replicate (overflowLen - 1) 0)) sock memory
        calls).calls = calls := by
  obtain ⟨payload, enough, total⟩ := totalMsgSz_of_not_fits data sized large
  have wide : BitVec.signExtend 64 (32 : BitVec 32) = headerSize := rfl
  have count : (msg.extra + (headerSize - headerSize)).toNat = msg.payloadLen := by
    rw [BitVec.sub_self, BitVec.add_zero, payload]
  have positive : 0 < overflowLen := by decide
  have taken : ((ReadReply.data 0 (.replicate (overflowLen - 1) 0)).bytes
      msg.payloadLen).length = overflowLen := by
    rw [ReadReply.bytes, List.length_take, List.length_cons, List.length_replicate]
    omega
  simp only [NetSocket.recvPayload, decoded, offset, wide, count, taken, ReadReply.isHard,
    Bool.false_eq_true, if_false, lt_irrefl]
  split_ifs with due
  · refine .inl ?_
    have more : (advance (32 : BitVec 32) overflowLen).toInt < msg.totalMsgSz.toInt := by
      rw [overflow_negative]
      have above : (32 : Int) < msg.totalMsgSz.toInt := due
      omega
    simp only [NetSocket.recvFinish]
    rw [if_pos more]
    exact overflow_negative
  · refine .inr ?_
    simp only [NetSocket.recvFinish, offset, if_neg due, true_and]

theorem fits_of_recvExact (data : msg.msgType = 1) (sized : 0 ≤ msg.dataLen)
    (exact : RecvExact msg) : msg.Fits := by
  by_contra large
  obtain ⟨first, rest, spells⟩ : ∃ first rest, first :: rest = msg.encode := by
    have length_eq := msg.length_encode
    cases bytes : msg.encode with
    | nil =>
        rw [bytes] at length_eq
        exact absurd length_eq (by decide)
    | cons first rest => exact ⟨first, rest, rfl⟩
  obtain ⟨sock, offset⟩ : ∃ sock : NetSocket, sock.inOffset = 0 := ⟨default, rfl⟩
  obtain ⟨sock', call, started, decoded, behind, bytes⟩ := recvRaw_start (fun _ => 0) (fun _ => 0)
    offset spells (.data 0 (.replicate (overflowLen - 1) 0))
  have result := exact (fun _ => 0) sock
    [⟨fun _ => 0, .data first rest, .data 0 (.replicate (overflowLen - 1) 0)⟩] _ offset rfl
  simp only [FrameState.start, List.nil_append, started] at result
  obtain ⟨more, all⟩ := recvPayload_calls (fun _ => 0)
    (.data 0 (.replicate (overflowLen - 1) 0)) sock' (fun _ => 0) [call]
  have header : (transferred (NetSocket.recvPayload (fun _ => 0)
      (.data 0 (.replicate (overflowLen - 1) 0)) sock' (fun _ => 0) [call]).calls).take
        NetMsg.size = msg.encode := by
    rw [all, transferred_append, transferred_singleton, bytes]
    exact List.take_left' (NetMsg.length_encode msg)
  have sound := result (header ▸ List.prefix_rfl)
  obtain negative | ⟨finished, short⟩ :=
    recvPayload_overflow (fun _ => 0) data sized large decoded behind [call]
  · have nonneg := sound.bounds.1
    rw [negative] at nonneg
    omega
  · have whole := sound.complete (decide_eq_true finished)
    have longer := size_lt_of_not_fits large
    rw [short, transferred_singleton, bytes, NetMsg.length_encode] at whole
    omega

/-- The offsets are exact for every sequence of partial transfers of a frame exactly when header and
payload fit an `int`. -/
theorem offsets_exact_iff (msg : NetMsg) (data : msg.msgType = 1) (sized : 0 ≤ msg.dataLen) :
    (SendExact msg ↔ msg.Fits) ∧ (RecvExact msg ↔ msg.Fits) :=
  ⟨⟨fits_of_sendExact data sized, sendExact_of_fits data sized⟩,
    ⟨fits_of_recvExact data sized, recvExact_of_fits data sized⟩⟩

end Data

/-- A message with four bytes of payload. -/
theorem offsets_exact_iff_small :
    (SendExact ⟨1, 0, 7, 9, 4⟩ ↔ NetMsg.Fits ⟨1, 0, 7, 9, 4⟩) ∧
      (RecvExact ⟨1, 0, 7, 9, 4⟩ ↔ NetMsg.Fits ⟨1, 0, 7, 9, 4⟩) :=
  offsets_exact_iff ⟨1, 0, 7, 9, 4⟩ rfl (by decide)

/-- A payload of two gibibytes, which `int64_t` lengths allow. -/
theorem offset_overflows :
    ¬∀ msg : NetMsg, msg.msgType = 1 → 0 ≤ msg.dataLen → SendExact msg ∧ RecvExact msg := by
  intro exact
  have large := (exact ⟨1, 0, 7, 9, 0x80000000⟩ rfl (by decide)).1
  exact absurd (fits_of_sendExact rfl (by decide) large) (by decide)

end Klibmsg
