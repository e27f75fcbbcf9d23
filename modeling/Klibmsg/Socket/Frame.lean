import Klibmsg.Socket.Raw

/-!
# The transfer of one frame

A frame is a header and the payload that its length field announces.  As long as header and payload
fit the 32-bit offsets, each call of `SendRaw` and `RecvRaw` moves the next bytes of the frame, and
the offset counts the bytes that have been moved.
-/

namespace Klibmsg

/-! ## Offsets -/

section Offsets

variable {offset : BitVec 32} {moved count : Nat}

theorem signExtend_toNat (small : offset.toNat < 2 ^ 31) :
    (offset.signExtend 64).toNat = offset.toNat := by
  have positive : offset.msb = false := by
    rw [BitVec.msb_eq_decide, decide_eq_false_iff_not]
    omega
  rw [BitVec.signExtend_eq_setWidth_of_msb_false positive, BitVec.toNat_setWidth]
  omega

theorem toInt_of_small (small : offset.toNat < 2 ^ 31) : offset.toInt = offset.toNat := by
  rw [BitVec.toInt_eq_toNat_cond, if_pos (by omega)]

/-- The address behind a base that belongs to an offset behind the header. -/
theorem payload_address (base : Address) (small : offset.toNat < 2 ^ 31)
    (behind : NetMsg.size ≤ offset.toNat) :
    base + offset.signExtend 64 - headerSize =
      base + BitVec.ofNat 64 (offset.toNat - NetMsg.size) := by
  have shift : offset.signExtend 64 - headerSize =
      BitVec.ofNat 64 (offset.toNat - NetMsg.size) := by
    have header : headerSize.toNat = NetMsg.size := rfl
    apply BitVec.eq_of_toNat_eq
    rw [BitVec.toNat_sub, signExtend_toNat small, header, BitVec.toNat_ofNat]
    omega
  rw [← shift, BitVec.sub_eq_add_neg, BitVec.add_assoc, ← BitVec.sub_eq_add_neg]

/-- Adding to an offset is addition modulo `2 ^ 32`. -/
theorem advance_eq (offset : BitVec 32) (count : Nat) :
    advance offset count = offset + BitVec.ofNat 32 count := by
  have narrowed : (offset.signExtend 64).setWidth 32 = offset := by
    ext i inside
    simp [BitVec.getLsbD_signExtend, inside]
    omega
  rw [advance, BitVec.setWidth_add _ _ (by decide), narrowed]
  congr 1
  apply BitVec.eq_of_toNat_eq
  simp only [BitVec.toNat_setWidth, BitVec.toNat_ofNat]
  omega

@[simp]
theorem advance_zero (offset : BitVec 32) : advance offset 0 = offset := by simp [advance_eq]

theorem advance_advance (offset : BitVec 32) (first second : Nat) :
    advance (advance offset first) second = advance offset (first + second) := by
  simp only [advance_eq, BitVec.ofNat_add, BitVec.add_assoc]

theorem advance_toNat (inside : offset.toNat + count < 2 ^ 31) :
    (advance offset count).toNat = offset.toNat + count := by
  rw [advance_eq, BitVec.toNat_add, BitVec.toNat_ofNat]
  omega

end Offsets

namespace NetMsg

/-- Number of bytes of header and payload. -/
def frameLen (msg : NetMsg) : Nat := size + msg.payloadLen

/-- The length field of a data message is not negative. -/
def Sized (msg : NetMsg) : Prop := msg.msgType = 1 → 0 ≤ msg.dataLen

instance (msg : NetMsg) : Decidable msg.Sized := inferInstanceAs (Decidable (_ → _))

theorem totalMsgSz_toInt {msg : NetMsg} (sized : msg.Sized) (fits : msg.Fits) :
    msg.totalMsgSz.toInt = msg.frameLen := by
  simp only [Fits, frameLen, totalMsgSz, payloadLen, size] at fits ⊢
  split_ifs at fits ⊢ with isData
  · have nonneg := sized isData
    rw [dataLen] at nonneg fits ⊢
    rw [BitVec.toInt_add]
    have value : (BitVec.ofNat 64 32).toInt = 32 := by decide
    rw [value, Int.bmod_eq_of_le]
    · omega
    · omega
    · omega
  · decide

theorem totalMsgSz_toNat {msg : NetMsg} (sized : msg.Sized) (fits : msg.Fits) :
    msg.totalMsgSz.toNat = msg.frameLen := by
  have signed := totalMsgSz_toInt sized fits
  rw [BitVec.toInt_eq_toNat_cond] at signed
  split_ifs at signed
  · omega
  · have bounded := msg.totalMsgSz.isLt
    omega

/-- Behind the header the frame goes on exactly while the signed comparison says so. -/
theorem lt_totalMsgSz {msg : NetMsg} (fits : msg.Fits) {moved : Nat} (behind : size ≤ moved) :
    (moved : Int) < msg.totalMsgSz.toInt ↔ moved < msg.frameLen := by
  by_cases sized : msg.Sized
  · rw [totalMsgSz_toInt sized fits]
    omega
  · simp only [Sized, Classical.not_imp, not_le] at sized
    obtain ⟨isData, negative⟩ := sized
    simp only [frameLen, totalMsgSz, payloadLen, isData, if_true, size, dataLen] at *
    have value : (BitVec.ofNat 64 32).toInt = 32 := by decide
    have lower := BitVec.le_toInt msg.extra
    rw [BitVec.toInt_add, value, Int.bmod_eq_of_le]
    · omega
    · omega
    · omega

theorem extra_toNat {msg : NetMsg} (payload : size < msg.frameLen) :
    msg.extra.toNat = msg.payloadLen := by
  have positive : 0 < msg.payloadLen := by
    rw [frameLen] at payload
    omega
  simp only [payloadLen, dataLen] at positive ⊢
  split_ifs at positive ⊢ with isData
  · rw [BitVec.toInt_eq_toNat_cond] at positive ⊢
    have bounded := msg.extra.isLt
    split_ifs at positive ⊢
    · omega
    · omega
  · exact absurd positive (Nat.lt_irrefl 0)

end NetMsg

/-! ## Transfers -/

/-- The bytes that a call has moved. -/
def SysCall.bytes : SysCall → List Byte
  | read _ _ count reply => reply.bytes count.toNat
  | write _ _ _ _ taken => taken
  | _ => []

/-- The address and the length given to a `read` or a `write`. -/
def SysCall.range : SysCall → Option (Span × BitVec 64)
  | read _ span count _ => some (span, count)
  | write _ span count _ _ => some (span, count)
  | _ => none

/-- The bytes that some calls have moved, one call after the other. -/
def transferred (calls : List SysCall) : List Byte := calls.flatMap SysCall.bytes

@[simp]
theorem transferred_append (left right : List SysCall) :
    transferred (left ++ right) = transferred left ++ transferred right := List.flatMap_append

@[simp]
theorem transferred_singleton (call : SysCall) : transferred [call] = call.bytes := by
  simp [transferred]

/-- The range is the rest of the header or the rest of the payload of a frame of which a number of
bytes has been moved; the payload lies at `base`. -/
def Span.Rest (base : Address) (frameLen moved : Nat) (count : BitVec 64) : Span → Prop
  | buffer offset => moved < NetMsg.size ∧ offset.toNat = moved ∧ count.toNat = NetMsg.size - moved
  | memory address => NetMsg.size ≤ moved ∧ address = base + BitVec.ofNat 64 (moved - NetMsg.size) ∧
      count.toNat = frameLen - moved

/-- Every call is given exactly the rest of the header or of the payload. -/
def Consecutive (base : Address) (frameLen : Nat) : Nat → List SysCall → Prop
  | _, [] => True
  | moved, call :: rest =>
      (∀ span count, call.range = some (span, count) → span.Rest base frameLen moved count) ∧
        Consecutive base frameLen (moved + call.bytes.length) rest

theorem consecutive_singleton {base : Address} {frameLen moved : Nat} {call : SysCall} {span : Span}
    {count : BitVec 64} (range : call.range = some (span, count))
    (rest : span.Rest base frameLen moved count) : Consecutive base frameLen moved [call] := by
  refine ⟨fun span' count' range' => ?_, trivial⟩
  cases range.symm.trans range'
  exact rest

theorem Consecutive.append {base : Address} {frameLen moved : Nat} {left right : List SysCall}
    (first : Consecutive base frameLen moved left)
    (second : Consecutive base frameLen (moved + (transferred left).length) right) :
    Consecutive base frameLen moved (left ++ right) := by
  induction left generalizing moved with
  | nil => simpa [transferred] using second
  | cons call rest ih =>
      refine ⟨first.1, ih first.2 ?_⟩
      simpa [transferred, Nat.add_assoc] using second

/-! ## Sending -/

/-- Header and payload as they lie in memory. -/
def NetMsg.frame (msg : NetMsg) (memory : Memory) : List Byte :=
  msg.encode ++ memory.read msg.src msg.payloadLen

@[simp]
theorem NetMsg.length_frame (msg : NetMsg) (memory : Memory) :
    (msg.frame memory).length = msg.frameLen := by simp [frame, frameLen]

/-- Behind the header lies the payload. -/
theorem NetMsg.frame_drop (msg : NetMsg) (memory : Memory) {moved : Nat} (behind : size ≤ moved)
    (inside : moved ≤ msg.frameLen) :
    (msg.frame memory).drop moved =
      memory.read (msg.src + BitVec.ofNat 64 (moved - size)) (msg.frameLen - moved) := by
  have parts : msg.payloadLen = (moved - size) + (msg.frameLen - moved) := by
    simp only [frameLen] at inside ⊢
    omega
  have header : (msg.encode ++ memory.read msg.src (moved - size)).length = moved := by
    simp only [List.length_append, length_encode, Memory.length_read]
    omega
  rw [frame, parts, Memory.read_add, ← List.append_assoc]
  exact List.drop_left' header

/-- Some calls have moved the next bytes of the frame of a message from the out buffer. -/
structure Sends (msg : NetMsg) (memory : Memory) (sock : NetSocket) (calls : List SysCall)
    (transfer : Transfer) : Prop where
  sock_eq : transfer.sock =
    { sock with outOffset := advance sock.outOffset (transferred calls).length }
  memory_eq : transfer.memory = memory
  inside : sock.outOffset.toNat + (transferred calls).length ≤ msg.frameLen
  consecutive : Consecutive msg.src msg.frameLen sock.outOffset.toNat calls
  bytes : transferred calls =
    ((msg.frame memory).drop sock.outOffset.toNat).take (transferred calls).length
  rc_eq : transfer.rc = 0 ↔ sock.outOffset.toNat + (transferred calls).length = msg.frameLen

section Send

variable {sock : NetSocket} {memory : Memory} {msg : NetMsg}

@[simp]
theorem sendFinish_calls (sock : NetSocket) (memory : Memory) (calls : List SysCall)
    (totalMsgSz : BitVec 64) : (sock.sendFinish memory calls totalMsgSz).calls = calls := by
  rw [NetSocket.sendFinish]
  split_ifs <;> rfl

theorem sendFinish_sends (sized : msg.Sized) (fits : msg.Fits)
    (inside : sock.outOffset.toNat ≤ msg.frameLen) (calls : List SysCall) :
    Sends msg memory sock [] (sock.sendFinish memory calls msg.totalMsgSz) := by
  have small : sock.outOffset.toNat < 2 ^ 31 := Nat.lt_of_le_of_lt inside fits
  have compare : sock.outOffset.toInt < msg.totalMsgSz.toInt ↔
      sock.outOffset.toNat < msg.frameLen := by
    rw [toInt_of_small small, NetMsg.totalMsgSz_toInt sized fits, Int.ofNat_lt]
  refine ⟨?_, ?_, inside, trivial, rfl, ?_⟩
  · rw [NetSocket.sendFinish]
    split_ifs <;> simp [transferred]
  · rw [NetSocket.sendFinish]
    split_ifs <;> rfl
  · rw [NetSocket.sendFinish]
    split_ifs with more
    · refine iff_of_false (show -EAGAIN ≠ 0 by decide) ?_
      have unfinished := compare.mp more
      simp only [transferred, List.flatMap_nil, List.length_nil]
      omega
    · refine iff_of_true rfl ?_
      have finished := compare.not.mp more
      simp only [transferred, List.flatMap_nil, List.length_nil]
      omega

/-- One more call before others. -/
theorem Sends.cons {call : SysCall} {more : List SysCall} {transfer : Transfer} {span : Span}
    {count : BitVec 64} (fits : msg.Fits)
    (range : call.range = some (span, count))
    (rest : span.Rest msg.src msg.frameLen sock.outOffset.toNat count)
    (inside : sock.outOffset.toNat + call.bytes.length ≤ msg.frameLen)
    (bytes : call.bytes =
      ((msg.frame memory).drop sock.outOffset.toNat).take call.bytes.length)
    (sends : Sends msg memory
      { sock with outOffset := advance sock.outOffset call.bytes.length } more transfer) :
    Sends msg memory sock (call :: more) transfer := by
  have position : (advance sock.outOffset call.bytes.length).toNat =
      sock.outOffset.toNat + call.bytes.length :=
    advance_toNat (Nat.lt_of_le_of_lt inside fits)
  have all : transferred (call :: more) = call.bytes ++ transferred more := rfl
  obtain ⟨sock_eq, memory_eq, inside', consecutive, bytes', rc_eq⟩ := sends
  simp only [position] at sock_eq inside' consecutive bytes' rc_eq
  have length_eq : sock.outOffset.toNat + (transferred (call :: more)).length =
      sock.outOffset.toNat + call.bytes.length + (transferred more).length := by
    rw [all, List.length_append, Nat.add_assoc]
  refine ⟨?_, memory_eq, length_eq ▸ inside', ⟨fun span' count' range' => ?_, consecutive⟩, ?_,
    length_eq ▸ rc_eq⟩
  · rw [sock_eq, advance_advance, all, List.length_append]
  · cases range.symm.trans range'
    exact rest
  · rw [all, List.length_append, List.take_add, List.drop_drop, ← bytes, ← bytes']

/-- A call that fails for good is the last one. -/
theorem sends_hard {call : SysCall} {span : Span} {count : BitVec 64} {calls : List SysCall}
    (range : call.range = some (span, count)) (nothing : call.bytes = [])
    (rest : span.Rest msg.src msg.frameLen sock.outOffset.toNat count)
    (unfinished : sock.outOffset.toNat < msg.frameLen) :
    Sends msg memory sock [call] ⟨sock, memory, calls, -ECONNRESET⟩ := by
  refine ⟨by simp [nothing], rfl, ?_, consecutive_singleton range rest, by simp [nothing],
    iff_of_false (show -ECONNRESET ≠ 0 by decide) ?_⟩
  · simp only [transferred_singleton, nothing, List.length_nil]
    omega
  · simp only [transferred_singleton, nothing, List.length_nil]
    omega

theorem WriteReply.taken_of_hard {reply : WriteReply} {count : Nat}
    (hard : reply.isHard = true) : reply.taken count = 0 := by
  cases reply with
  | accepts room => cases hard
  | fails errno => rfl

/-- The write of the payload, when it is due, and the end of `SendRaw`. -/
theorem sendPayload_sends (memory : Memory) (head : sock.outMsg = msg)
    (sized : msg.Sized) (fits : msg.Fits)
    (inside : sock.outOffset.toNat ≤ msg.frameLen) (reply : WriteReply) (calls : List SysCall) :
    ∃ more, (sock.sendPayload reply memory calls).calls = calls ++ more ∧
      Sends msg memory sock more (sock.sendPayload reply memory calls) := by
  have small : sock.outOffset.toNat < 2 ^ 31 := Nat.lt_of_le_of_lt inside fits
  have wide := signExtend_toNat small
  have header : headerSize.toNat = NetMsg.size := rfl
  have compare : sock.outOffset.toInt < msg.totalMsgSz.toInt ↔
      sock.outOffset.toNat < msg.frameLen := by
    rw [toInt_of_small small, NetMsg.totalMsgSz_toInt sized fits, Int.ofNat_lt]
  have bounded : msg.frameLen < 2 ^ 31 := fits
  have rest_count : (msg.totalMsgSz - sock.outOffset.signExtend 64).toNat =
      msg.frameLen - sock.outOffset.toNat := by
    have total := NetMsg.totalMsgSz_toNat sized fits
    rw [BitVec.toNat_sub, wide, total]
    omega
  simp only [NetSocket.sendPayload, head, wide, header, compare, rest_count]
  split_ifs with due hard
  · have address := payload_address msg.src small due.1
    refine ⟨_, rfl, sends_hard rfl ?_ ⟨due.1, address, rest_count⟩ due.2⟩
    rw [WriteReply.taken_of_hard hard]
    rfl
  · have address := payload_address msg.src small due.1
    have taken_le := reply.taken_le (msg.frameLen - sock.outOffset.toNat)
    generalize reply.taken (msg.frameLen - sock.outOffset.toNat) = taken at taken_le
    have position : (advance sock.outOffset taken).toNat = sock.outOffset.toNat + taken :=
      advance_toNat (by omega)
    rw [address]
    refine ⟨[_], sendFinish_calls _ _ _ _, ?_⟩
    refine Sends.cons fits rfl ⟨due.1, rfl, rest_count⟩ ?_ ?_ ?_
    · simp only [SysCall.bytes, Memory.length_read]
      omega
    · simp only [SysCall.bytes, Memory.length_read]
      rw [NetMsg.frame_drop msg memory due.1 inside, Memory.read_take _ _ taken_le]
    · simp only [SysCall.bytes, Memory.length_read]
      exact sendFinish_sends sized fits (by simp only [position]; omega) _
  · exact ⟨[], by simp, sendFinish_sends sized fits inside calls⟩

theorem outMsg_of_take (head : sock.outBuf.bytes.take NetMsg.size = msg.encode) :
    sock.outMsg = msg := by
  rw [NetSocket.outMsg, ← NetMsg.decode_take, head, NetMsg.decode_encode]

/-- The next bytes of the header in the buffer are the next bytes of the frame. -/
theorem header_bytes (head : sock.outBuf.bytes.take NetMsg.size = msg.encode) (memory : Memory)
    (moved taken : Nat) (inside : moved + taken ≤ NetMsg.size) :
    (sock.outBuf.bytes.drop moved).take taken = ((msg.frame memory).drop moved).take taken := by
  have header : (sock.outBuf.bytes.drop moved).take (NetMsg.size - moved) =
      msg.encode.drop moved := by rw [← head, List.drop_take]
  have length_eq : (msg.encode.drop moved).length = NetMsg.size - moved := by simp
  have enough : taken ≤ NetMsg.size - moved := by omega
  have behind : moved ≤ msg.encode.length := by
    rw [NetMsg.length_encode]
    omega
  calc
    (sock.outBuf.bytes.drop moved).take taken =
        ((sock.outBuf.bytes.drop moved).take (NetMsg.size - moved)).take taken := by
      rw [List.take_take, Nat.min_eq_left enough]
    _ = (msg.encode.drop moved).take taken := by rw [header]
    _ = ((msg.frame memory).drop moved).take taken := by
      rw [NetMsg.frame, List.drop_append_of_le_length behind,
        List.take_append_of_le_length (length_eq ▸ enough)]

/-- `SendRaw` moves the next bytes of the frame in the out buffer, and returns zero exactly when it
has moved the last one. -/
theorem sendRaw_sends (memory : Memory) (head : sock.outBuf.bytes.take NetMsg.size = msg.encode)
    (sized : msg.Sized) (fits : msg.Fits) (inside : sock.outOffset.toNat ≤ msg.frameLen)
    (header payload : WriteReply) :
    Sends msg memory sock (sock.sendRaw header payload memory).calls
      (sock.sendRaw header payload memory) := by
  have bounded : msg.frameLen < 2 ^ 31 := fits
  have small : sock.outOffset.toNat < 2 ^ 31 := Nat.lt_of_le_of_lt inside fits
  have wide := signExtend_toNat small
  have size_eq : headerSize.toNat = NetMsg.size := rfl
  have size_le : NetMsg.size ≤ msg.frameLen := Nat.le_add_right _ _
  have decoded := outMsg_of_take head
  simp only [NetSocket.sendRaw, wide, size_eq]
  have rest_count : (headerSize - sock.outOffset.signExtend 64).toNat =
      NetMsg.size - sock.outOffset.toNat ∨ NetMsg.size ≤ sock.outOffset.toNat := by
    rw [BitVec.toNat_sub, wide, size_eq]
    simp only [NetMsg.size]
    omega
  split_ifs with due hard
  · have count := rest_count.resolve_right (by omega)
    refine sends_hard rfl ?_ ⟨due, rfl, count⟩ (by omega)
    rw [WriteReply.taken_of_hard hard]
    rfl
  · have count := rest_count.resolve_right (by omega)
    rw [count]
    have taken_le := header.taken_le (NetMsg.size - sock.outOffset.toNat)
    generalize header.taken (NetMsg.size - sock.outOffset.toNat) = taken at taken_le
    have bytes := header_bytes head memory sock.outOffset.toNat taken (by omega)
    have length_eq : ((sock.outBuf.bytes.drop sock.outOffset.toNat).take taken).length = taken := by
      rw [bytes, List.length_take, List.length_drop, NetMsg.length_frame]
      omega
    have position : (advance sock.outOffset taken).toNat = sock.outOffset.toNat + taken :=
      advance_toNat (by omega)
    have advanced :
        NetSocket.outMsg { sock with outOffset := advance sock.outOffset taken } = msg :=
      decoded
    obtain ⟨more, calls, sends⟩ := sendPayload_sends memory advanced sized fits
      (by simp only [position]; omega) payload
      [.write sock.s (.buffer sock.outOffset) (headerSize - sock.outOffset.signExtend 64) header
        ((sock.outBuf.bytes.drop sock.outOffset.toNat).take taken)]
    rw [calls]
    refine Sends.cons fits rfl ⟨due, rfl, count⟩ ?_ ?_ ?_
    · simp only [SysCall.bytes, length_eq]
      omega
    · simp only [SysCall.bytes, length_eq]
      exact bytes
    · simp only [SysCall.bytes, length_eq]
      exact sends
  · obtain ⟨more, calls, sends⟩ :=
      sendPayload_sends memory decoded sized fits inside payload []
    rw [calls]
    exact sends

end Send

/-! ## Receiving -/

section Receive

variable {token2Dptr : Token → Address} {header payload : ReadReply} {sock : NetSocket}
  {memory : Memory}

theorem ReadReply.bytes_of_hard {reply : ReadReply} {count : Nat} (hard : reply.isHard = true) :
    reply.bytes count = [] := by
  cases reply with
  | data first rest => cases hard
  | endOfStream => rfl
  | fails errno => rfl

/-- The read of the rest of the header. -/
def NetSocket.headerRead (sock : NetSocket) (reply : ReadReply) : SysCall :=
  .read sock.s (.buffer sock.inOffset) (headerSize - sock.inOffset.signExtend 64) reply

/-- The socket when more bytes of a header have been read. -/
def NetSocket.withHeader (sock : NetSocket) (bytes : List Byte) : NetSocket :=
  { sock with
    inBuf := sock.inBuf.write sock.inOffset.toNat bytes
    inOffset := advance sock.inOffset bytes.length }

theorem headerRead_count (due : sock.inOffset.toNat < NetMsg.size) :
    (headerSize - sock.inOffset.signExtend 64).toNat = NetMsg.size - sock.inOffset.toNat := by
  have small : sock.inOffset.toNat < 2 ^ 31 := Nat.lt_trans due (by decide)
  have size_eq : headerSize.toNat = NetMsg.size := rfl
  rw [BitVec.toNat_sub, signExtend_toNat small, size_eq]
  simp only [NetMsg.size] at due ⊢
  omega

theorem headerRead_bytes (due : sock.inOffset.toNat < NetMsg.size) (reply : ReadReply) :
    (sock.headerRead reply).bytes = reply.bytes (NetMsg.size - sock.inOffset.toNat) := by
  rw [NetSocket.headerRead, SysCall.bytes, headerRead_count due]

theorem headerRead_consecutive (due : sock.inOffset.toNat < NetMsg.size) (reply : ReadReply)
    (base : Address) (frameLen : Nat) :
    Consecutive base frameLen sock.inOffset.toNat [sock.headerRead reply] :=
  consecutive_singleton rfl ⟨due, rfl, headerRead_count due⟩

/-- The first part of `RecvRaw`, when a part of the header is missing. -/
theorem recvRaw_of_due (due : sock.inOffset.toNat < NetMsg.size) :
    sock.recvRaw token2Dptr header payload memory =
      if header.isHard = true then
        ⟨sock, memory, [sock.headerRead header], -ECONNRESET⟩
      else
        NetSocket.recvPayload token2Dptr payload
          (sock.withHeader (sock.headerRead header).bytes) memory [sock.headerRead header] := by
  have small : sock.inOffset.toNat < 2 ^ 31 := Nat.lt_trans due (by decide)
  have wide := signExtend_toNat small
  have size_eq : headerSize.toNat = NetMsg.size := rfl
  simp only [NetSocket.recvRaw, wide, size_eq, if_pos due]
  rfl

/-- `RecvRaw` behind the header. -/
theorem recvRaw_of_behind (behind : NetMsg.size ≤ sock.inOffset.toNat)
    (small : sock.inOffset.toNat < 2 ^ 31) :
    sock.recvRaw token2Dptr header payload memory =
      NetSocket.recvPayload token2Dptr payload sock memory [] := by
  have wide := signExtend_toNat small
  have size_eq : headerSize.toNat = NetMsg.size := rfl
  simp only [NetSocket.recvRaw, wide, size_eq, if_neg (Nat.not_lt.mpr behind)]

/-- The rest of `RecvRaw`, when a part of the header is missing. -/
theorem recvPayload_of_due (due : sock.inOffset.toNat < NetMsg.size) (calls : List SysCall) :
    NetSocket.recvPayload token2Dptr payload sock memory calls =
      ⟨sock, memory, calls, -EAGAIN⟩ := by
  have small : sock.inOffset.toNat < 2 ^ 31 := Nat.lt_trans due (by decide)
  have wide := signExtend_toNat small
  have size_eq : headerSize.toNat = NetMsg.size := rfl
  simp only [NetSocket.recvPayload, wide, size_eq, if_pos due]

theorem recvFinish_calls (sock : NetSocket) (memory : Memory) (calls : List SysCall)
    (totalMsgSz : BitVec 64) : (sock.recvFinish memory calls totalMsgSz).calls = calls := by
  rw [NetSocket.recvFinish]
  split_ifs <;> rfl

theorem recvPayload_calls (token2Dptr : Token → Address) (reply : ReadReply) (sock : NetSocket)
    (memory : Memory) (calls : List SysCall) :
    ∃ more, (NetSocket.recvPayload token2Dptr reply sock memory calls).calls = calls ++ more := by
  simp only [NetSocket.recvPayload]
  split_ifs
  · exact ⟨[], (List.append_nil _).symm⟩
  · exact ⟨_, rfl⟩
  · exact ⟨_, recvFinish_calls _ _ _ _⟩
  · exact ⟨[], by rw [recvFinish_calls, List.append_nil]⟩

theorem withHeader_offset {bytes : List Byte}
    (inside : sock.inOffset.toNat + bytes.length ≤ NetMsg.size) :
    (sock.withHeader bytes).inOffset.toNat = sock.inOffset.toNat + bytes.length :=
  advance_toNat (Nat.lt_of_le_of_lt inside (by decide))

theorem withHeader_take (sock : NetSocket) {bytes : List Byte}
    (inside : sock.inOffset.toNat + bytes.length ≤ NetMsg.size) :
    (sock.withHeader bytes).inBuf.bytes.take (sock.inOffset.toNat + bytes.length) =
      sock.inBuf.bytes.take sock.inOffset.toNat ++ bytes :=
  sock.inBuf.take_write (inside.trans (by decide))

/-- What the rest of `RecvRaw` does behind a complete header whose frame fits the offsets: it
stores the next bytes of the payload, and returns zero exactly when it has stored the last one. -/
structure Receives (base : Address) (msg : NetMsg) (memory : Memory) (sock : NetSocket)
    (calls : List SysCall) (transfer : Transfer) : Prop where
  sock_eq : transfer.sock = { sock with
    inOffset := if transfer.rc = 0 then 0 else
      advance sock.inOffset (transferred calls).length }
  memory_eq : transfer.memory = memory.write
    (base + BitVec.ofNat 64 (sock.inOffset.toNat - NetMsg.size)) (transferred calls)
  inside : sock.inOffset.toNat + (transferred calls).length ≤ msg.frameLen
  consecutive : Consecutive base msg.frameLen sock.inOffset.toNat calls
  rc_eq : transfer.rc = 0 ↔ sock.inOffset.toNat + (transferred calls).length = msg.frameLen

/-- The count given to the read of the payload. -/
theorem payload_count {msg : NetMsg} {offset : BitVec 32} (fits : msg.Fits)
    (behind : NetMsg.size ≤ offset.toNat) (due : offset.toNat < msg.frameLen) :
    (msg.extra + (headerSize - offset.signExtend 64)).toNat = msg.frameLen - offset.toNat := by
  have bounded : msg.frameLen < 2 ^ 31 := fits
  have payload := NetMsg.extra_toNat (Nat.lt_of_le_of_lt behind due)
  have size_eq : headerSize.toNat = NetMsg.size := rfl
  have total : msg.frameLen = NetMsg.size + msg.payloadLen := rfl
  rw [BitVec.toNat_add, BitVec.toNat_sub, signExtend_toNat (by omega), size_eq, payload]
  simp only [NetMsg.size] at behind total ⊢
  omega

/-- The read of the payload, when it is due, and the end of `RecvRaw`. -/
theorem recvPayload_receives {msg : NetMsg} (token2Dptr : Token → Address) (memory : Memory)
    (decoded : sock.inMsg = msg)
    (fits : msg.Fits) (behind : NetMsg.size ≤ sock.inOffset.toNat)
    (inside : sock.inOffset.toNat ≤ msg.frameLen) (reply : ReadReply) (calls : List SysCall) :
    ∃ more, (NetSocket.recvPayload token2Dptr reply sock memory calls).calls = calls ++ more ∧
      Receives (token2Dptr msg.dst) msg memory sock more
        (NetSocket.recvPayload token2Dptr reply sock memory calls) := by
  have bounded : msg.frameLen < 2 ^ 31 := fits
  have small : sock.inOffset.toNat < 2 ^ 31 := Nat.lt_of_le_of_lt inside fits
  have wide := signExtend_toNat small
  have size_eq : headerSize.toNat = NetMsg.size := rfl
  have compare (offset : BitVec 32) (after : NetMsg.size ≤ offset.toNat)
      (within : offset.toNat ≤ msg.frameLen) :
      offset.toInt < msg.totalMsgSz.toInt ↔ offset.toNat < msg.frameLen := by
    rw [toInt_of_small (by omega), NetMsg.lt_totalMsgSz fits after]
  simp only [NetSocket.recvPayload, wide, size_eq, if_neg (Nat.not_lt.mpr behind), decoded,
    compare _ behind inside]
  have finish (sock' : NetSocket) (after : NetMsg.size ≤ sock'.inOffset.toNat)
      (within : sock'.inOffset.toNat ≤ msg.frameLen) (memory' : Memory) (calls : List SysCall) :
      sock'.recvFinish memory' calls msg.totalMsgSz =
        if sock'.inOffset.toNat < msg.frameLen then ⟨sock', memory', calls, -EAGAIN⟩
        else ⟨{ sock' with inOffset := 0 }, memory', calls, 0⟩ := by
    simp only [NetSocket.recvFinish, compare _ after within]
  by_cases due : sock.inOffset.toNat < msg.frameLen
  · have rest_count := payload_count fits behind due
    have bytes_le := reply.length_bytes_le (msg.frameLen - sock.inOffset.toNat)
    rw [if_pos due, rest_count, payload_address (token2Dptr msg.dst) small behind]
    obtain ⟨call, call_eq⟩ : ∃ call, call = SysCall.read sock.s (.memory (token2Dptr msg.dst +
        BitVec.ofNat 64 (sock.inOffset.toNat - NetMsg.size)))
        (msg.extra + (headerSize - sock.inOffset.signExtend 64)) reply := ⟨_, rfl⟩
    have moved : transferred [call] = reply.bytes (msg.frameLen - sock.inOffset.toNat) := by
      simp [call_eq, SysCall.bytes, rest_count]
    have consecutive :
        Consecutive (token2Dptr msg.dst) msg.frameLen sock.inOffset.toNat [call] := by
      rw [call_eq]
      exact consecutive_singleton rfl ⟨behind, rfl, rest_count⟩
    rw [← call_eq]
    split_ifs with hard
    · rw [ReadReply.bytes_of_hard hard] at moved
      refine ⟨[call], rfl, ?_, ?_, ?_, consecutive,
        iff_of_false (show -ECONNRESET ≠ 0 by decide) ?_⟩
      · rw [if_neg (show -ECONNRESET ≠ 0 by decide), moved]
        simp
      · rw [moved]
        simp
      · rw [moved]
        exact inside
      · rw [moved, List.length_nil]
        omega
    · generalize reply.bytes (msg.frameLen - sock.inOffset.toNat) = bytes at bytes_le moved
      have position : (advance sock.inOffset bytes.length).toNat =
          sock.inOffset.toNat + bytes.length := advance_toNat (by omega)
      rw [finish _ (by simp only [position]; omega) (by simp only [position]; omega)]
      simp only [position]
      split_ifs with more
      · refine ⟨[call], rfl, ?_, ?_, ?_, consecutive, iff_of_false (show -EAGAIN ≠ 0 by decide) ?_⟩
        · rw [if_neg (show -EAGAIN ≠ 0 by decide), moved]
        · rw [moved]
        · rw [moved]
          omega
        · rw [moved]
          omega
      · refine ⟨[call], rfl, rfl, ?_, ?_, consecutive, iff_of_true rfl ?_⟩
        · rw [moved]
        · rw [moved]
          omega
        · rw [moved]
          omega
  · rw [if_neg due, finish sock behind inside, if_neg due]
    refine ⟨[], by simp, ?_, ?_, ?_, trivial, ?_⟩
    · simp
    · simp [transferred]
    · simpa [transferred] using inside
    · simp only [transferred, List.flatMap_nil, List.length_nil, true_iff]
      omega

/-- Some bytes of a frame have been received, and it goes on. -/
structure Holding (sock : NetSocket) (got : List Byte) : Prop where
  offset : sock.inOffset.toNat = got.length
  head : sock.inBuf.bytes.take (min got.length NetMsg.size) = got.take NetMsg.size
  unfinished : NetMsg.size ≤ got.length → got.length < (NetMsg.decode got).frameLen

theorem Holding.nil (start : sock.inOffset = 0) : Holding sock [] :=
  ⟨by simp [start], by simp, fun whole => absurd whole (by decide)⟩

/-- What one call of `RecvRaw` does to a frame of which some bytes have been received: afterwards
all of `got` has been received, and the payload among the new bytes has been stored. -/
structure Advances (token2Dptr : Token → Address) (sock : NetSocket) (memory : Memory)
    (before got : List Byte) (transfer : Transfer) : Prop where
  sock_eq : transfer.sock =
    { sock with inBuf := transfer.sock.inBuf, inOffset := transfer.sock.inOffset }
  memory_eq : transfer.memory = memory.write
    (token2Dptr (NetMsg.decode got).dst + BitVec.ofNat 64 (before.length - NetMsg.size))
    (got.drop (max before.length NetMsg.size))
  head : transfer.sock.inBuf.bytes.take (min got.length NetMsg.size) = got.take NetMsg.size
  consecutive : ∀ msg, (NetMsg.size ≤ got.length → NetMsg.decode got = msg) →
    Consecutive (token2Dptr msg.dst) msg.frameLen before.length transfer.calls
  outcome : transfer.rc = 0 ∧ transfer.sock.inOffset = 0 ∧ NetMsg.size ≤ got.length ∧
      got.length = (NetMsg.decode got).frameLen ∨
    transfer.rc ≠ 0 ∧ Holding transfer.sock got

theorem decode_append {got : List Byte} (whole : NetMsg.size ≤ got.length) (more : List Byte) :
    NetMsg.decode (got ++ more) = NetMsg.decode got := by
  rw [← NetMsg.decode_take (got ++ more), List.take_append_of_le_length whole, NetMsg.decode_take]

theorem inMsg_of_head {got : List Byte} (whole : NetMsg.size ≤ got.length)
    (head : sock.inBuf.bytes.take (min got.length NetMsg.size) = got.take NetMsg.size) :
    sock.inMsg = NetMsg.decode got := by
  rw [Nat.min_eq_right whole] at head
  rw [NetSocket.inMsg, ← NetMsg.decode_take, head, NetMsg.decode_take]

/-- The payload part of a call, once the header is complete. -/
theorem recvPayload_advances (token2Dptr : Token → Address) (memory : Memory) {got : List Byte}
    (offset : sock.inOffset.toNat = got.length)
    (head : sock.inBuf.bytes.take (min got.length NetMsg.size) = got.take NetMsg.size)
    (whole : NetMsg.size ≤ got.length) (fits : (NetMsg.decode got).Fits)
    (inside : got.length ≤ (NetMsg.decode got).frameLen) (reply : ReadReply)
    (calls : List SysCall) :
    ∃ more, (NetSocket.recvPayload token2Dptr reply sock memory calls).calls = calls ++ more ∧
      Consecutive (token2Dptr (NetMsg.decode got).dst) (NetMsg.decode got).frameLen got.length
        more ∧
      Advances token2Dptr sock memory got (got ++ transferred more)
        { NetSocket.recvPayload token2Dptr reply sock memory calls with calls := more } := by
  have decoded := inMsg_of_head whole head
  have bounded : (NetMsg.decode got).frameLen < 2 ^ 31 := fits
  obtain ⟨more, all, receives⟩ := recvPayload_receives token2Dptr memory decoded fits
    (offset ▸ whole) (offset ▸ inside) reply calls
  have consecutive := receives.consecutive
  have within := receives.inside
  have rc_eq := receives.rc_eq
  rw [offset] at consecutive within rc_eq
  have same := decode_append whole (transferred more)
  have longer : NetMsg.size ≤ (got ++ transferred more).length := by
    rw [List.length_append]
    omega
  refine ⟨more, all, consecutive, ?_, ?_, ?_, ?_, ?_⟩
  · simp only [receives.sock_eq]
  · simp only [same, receives.memory_eq, offset]
    rw [Nat.max_eq_left whole, List.drop_left]
  · simp only [receives.sock_eq]
    rw [Nat.min_eq_right longer, List.take_append_of_le_length whole, ← head,
      Nat.min_eq_right whole]
  · intro msg agrees
    rw [← agrees longer, same]
    exact consecutive
  · by_cases finished : (NetSocket.recvPayload token2Dptr reply sock memory calls).rc = 0
    · refine .inl ⟨finished, ?_, longer, ?_⟩
      · simp only [receives.sock_eq, if_pos finished]
      · rw [same, List.length_append]
        exact rc_eq.mp finished
    · have unfinished := rc_eq.not.mp finished
      refine .inr ⟨finished, ?_, ?_, fun _ => ?_⟩
      · simp only [receives.sock_eq, if_neg finished]
        rw [advance_toNat (by omega), offset, List.length_append]
      · simp only [receives.sock_eq]
        rw [Nat.min_eq_right longer, List.take_append_of_le_length whole, ← head,
          Nat.min_eq_right whole]
      · rw [same, List.length_append]
        omega

/-- More bytes of the header in the buffer. -/
theorem withHeader_head {got bytes : List Byte} (offset : sock.inOffset.toNat = got.length)
    (head : sock.inBuf.bytes.take (min got.length NetMsg.size) = got.take NetMsg.size)
    (inside : got.length + bytes.length ≤ NetMsg.size) :
    (sock.withHeader bytes).inBuf.bytes.take (min (got ++ bytes).length NetMsg.size) =
      (got ++ bytes).take NetMsg.size := by
  have shorter : got.length ≤ NetMsg.size := by omega
  rw [Nat.min_eq_left shorter, List.take_of_length_le shorter] at head
  have all := withHeader_take sock (offset ▸ inside)
  rw [offset, head] at all
  rw [List.length_append, Nat.min_eq_left inside, all,
    List.take_of_length_le (by rw [List.length_append]; exact inside)]

/-- `RecvRaw` goes on with a frame whose header, once it is complete, announces a frame that fits
the offsets. -/
theorem recvRaw_advances (token2Dptr : Token → Address) (header payload : ReadReply)
    (memory : Memory) {got : List Byte} (holding : Holding sock got)
    (fits : NetMsg.size ≤ (got ++ transferred
        (sock.recvRaw token2Dptr header payload memory).calls).length →
      (NetMsg.decode (got ++ transferred
        (sock.recvRaw token2Dptr header payload memory).calls)).Fits) :
    Advances token2Dptr sock memory got
      (got ++ transferred (sock.recvRaw token2Dptr header payload memory).calls)
      (sock.recvRaw token2Dptr header payload memory) := by
  obtain ⟨offset, head, unfinished⟩ := holding
  by_cases whole : NetMsg.size ≤ got.length
  · have longer (more : List Byte) : NetMsg.size ≤ (got ++ more).length := by
      rw [List.length_append]
      omega
    have fit := fits (longer _)
    rw [decode_append whole] at fit
    have bounded : (NetMsg.decode got).frameLen < 2 ^ 31 := fit
    have inside := unfinished whole
    obtain ⟨more, all, _, advances⟩ := recvPayload_advances token2Dptr memory offset
      head whole fit inside.le payload []
    rw [recvRaw_of_behind (offset ▸ whole) (by omega)]
    rw [List.nil_append] at all
    rw [all]
    simpa only [← all] using advances
  · have due : sock.inOffset.toNat < NetMsg.size := by omega
    have shorter : got.length < NetMsg.size := Nat.not_le.mp whole
    have read := headerRead_bytes due header
    rw [recvRaw_of_due due] at fits ⊢
    split_ifs at fits ⊢ with hard
    · rw [ReadReply.bytes_of_hard hard] at read
      rw [transferred_singleton, read, List.append_nil]
      refine ⟨rfl, ?_, head, fun _ _ => offset ▸ headerRead_consecutive due header _ _,
        .inr ⟨show -ECONNRESET ≠ 0 by decide, offset, head, unfinished⟩⟩
      rw [List.drop_eq_nil_of_le (by omega), Memory.write_nil]
    · have bytes_le := header.length_bytes_le (NetMsg.size - sock.inOffset.toNat)
      have first (base : Address) (frameLen : Nat) :=
        headerRead_consecutive due header base frameLen
      rw [← read, offset] at bytes_le
      rw [offset] at first
      obtain ⟨bytes, bytes_eq⟩ : ∃ bytes, bytes = (sock.headerRead header).bytes := ⟨_, rfl⟩
      rw [← bytes_eq] at bytes_le
      have after : (sock.withHeader bytes).inOffset.toNat = (got ++ bytes).length := by
        rw [withHeader_offset (by omega), offset, List.length_append]
      have filled := withHeader_head offset head (show got.length + bytes.length ≤ _ by omega)
      by_cases short : (got ++ bytes).length < NetMsg.size
      · rw [← bytes_eq, recvPayload_of_due (after ▸ short), transferred_singleton, ← bytes_eq]
        refine ⟨rfl, ?_, filled, fun _ _ => first _ _, .inr ⟨show -EAGAIN ≠ 0 by decide,
          after, filled, fun whole => absurd whole (Nat.not_le.mpr short)⟩⟩
        rw [List.drop_eq_nil_of_le (by omega), Memory.write_nil]
      · have complete : (got ++ bytes).length = NetMsg.size := by
          rw [List.length_append] at short ⊢
          omega
        have decoded (more : List Byte) :
            NetMsg.decode (got ++ bytes ++ more) = NetMsg.decode (got ++ bytes) :=
          decode_append complete.ge more
        have fit : (NetMsg.decode (got ++ bytes)).Fits := by
          obtain ⟨more, all⟩ := recvPayload_calls token2Dptr payload
            (sock.withHeader (sock.headerRead header).bytes) memory [sock.headerRead header]
          rw [all, transferred_append, transferred_singleton, ← bytes_eq, ← List.append_assoc]
            at fits
          rw [← decoded (transferred more)]
          refine fits ?_
          rw [List.length_append]
          omega
        obtain ⟨more, all, consecutive, advances⟩ := recvPayload_advances token2Dptr memory after
          filled complete.ge fit (complete ▸ Nat.le_add_right _ _) payload [sock.headerRead header]
        rw [← bytes_eq, all, transferred_append, transferred_singleton, ← bytes_eq,
          ← List.append_assoc]
        obtain ⟨sock_eq, memory_eq, head', _, outcome⟩ := advances
        refine ⟨?_, ?_, head', ?_, outcome⟩
        · exact sock_eq
        · have start : (got ++ bytes).length - NetMsg.size = got.length - NetMsg.size := by omega
          have furthest : max (got ++ bytes).length NetMsg.size = max got.length NetMsg.size := by
            omega
          rw [← start, ← furthest]
          exact memory_eq
        · intro msg agrees
          rw [all]
          refine (first _ _).append ?_
          rw [transferred_singleton, ← bytes_eq, ← List.length_append,
            ← agrees (by rw [List.length_append]; omega), decoded]
          exact consecutive

end Receive

end Klibmsg
