import Klibmsg.Socket.Offsets

/-!
# The memory that a message is sent from

`SendRaw` takes the payload of a data message from the address and the length that the message
carries.  It stays inside this region as long as its offset does not overflow.
-/

namespace Klibmsg

open StepSystem

/-- A `write` takes its bytes from inside a region of memory. -/
def SysCall.TakesFrom (base : Address) (len : Int) : SysCall → Prop
  | .write _ (.memory address) count _ _ => ((address - base).toNat : Int) + count.toNat ≤ len
  | _ => True

/-- However the frame of a message is sent, its payload is taken from the region that the message
names. -/
def SendsInside (msg : NetMsg) : Prop :=
  ∀ (sock : NetSocket) (sends : List SendCall) (s : FrameState),
    sock.outBuf.bytes.take NetMsg.size = msg.encode → sock.outOffset = 0 →
      sendSystem.run (.start sock) sends = some s →
        ∀ call ∈ s.calls, call.TakesFrom msg.src msg.dataLen

variable {msg : NetMsg}

theorem Consecutive.rest_of_mem {base : Address} {frameLen moved : Nat} {calls : List SysCall}
    (consecutive : Consecutive base frameLen moved calls) {call : SysCall} (member : call ∈ calls)
    {span : Span} {count : BitVec 64} (range : call.range = some (span, count)) :
    ∃ position ≤ moved + (transferred calls).length,
      span.Rest base frameLen position count := by
  induction calls generalizing moved with
  | nil => cases member
  | cons first rest ih =>
      have longer : (transferred (first :: rest)).length =
          first.bytes.length + (transferred rest).length := List.length_append
      obtain rfl | later := List.mem_cons.mp member
      · exact ⟨moved, Nat.le_add_right .., consecutive.1 span count range⟩
      · obtain ⟨position, le, is_rest⟩ := ih consecutive.2 later
        exact ⟨position, by omega, is_rest⟩

/-- The total size of a data message, as the signed number that offsets are compared with. -/
theorem totalMsgSz_of_data (data : msg.msgType = 1) :
    msg.totalMsgSz.toInt =
      if 32 + msg.dataLen < 2 ^ 63 then 32 + msg.dataLen else 32 + msg.dataLen - 2 ^ 64 := by
  have value : (BitVec.ofNat 64 32).toInt = 32 := by decide
  have lower := BitVec.le_toInt msg.extra
  have upper := BitVec.toInt_lt (x := msg.extra)
  have total : msg.totalMsgSz.toInt = (32 + msg.dataLen).bmod (2 ^ 64) := by
    simp only [NetMsg.totalMsgSz, data, if_true, NetMsg.size]
    rw [BitVec.toInt_add, value]
    rfl
  rw [total]
  rw [← NetMsg.dataLen] at lower upper
  by_cases small : 32 + msg.dataLen < 2 ^ 63
  · rw [if_pos small, Int.bmod_eq_of_le (by omega) (by omega)]
  · rw [if_neg small, Int.bmod_def]
    omega

/-- A region that fits the offsets. -/
theorem sendsInside_of_fits (data : msg.msgType = 1) (sized : 0 ≤ msg.dataLen)
    (fits : msg.Fits) : SendsInside msg := by
  intro sock sends s head offset execution call member
  have exact := sendExact_of_fits data sized fits sock sends s head offset execution
  have bounded : msg.frameLen < 2 ^ 31 := fits
  have total := frameLen_of_data data sized
  have whole : (transferred s.calls).length ≤ msg.frameLen := by
    cases finished : s.finished with
    | true => exact (exact.complete finished).le
    | false =>
        have counts := exact.counts
        simp only [finished, Bool.false_eq_true, if_false] at counts
        have upper := exact.bounds.2
        omega
  cases call with
  | write fd span count reply taken =>
      cases span with
      | buffer position => trivial
      | memory address =>
          have range : (SysCall.write fd (.memory address) count reply taken).range =
              some (.memory address, count) := rfl
          obtain ⟨position, le, behind, rfl, length⟩ := exact.consecutive.rest_of_mem member range
          have distance : (msg.src + BitVec.ofNat 64 (position - NetMsg.size) - msg.src).toNat =
              position - NetMsg.size := by
            rw [BitVec.add_comm, BitVec.add_sub_cancel, BitVec.toNat_ofNat]
            omega
          change ((msg.src + _ - msg.src).toNat : Int) + count.toNat ≤ msg.dataLen
          rw [distance, length]
          omega
  | _ => trivial

/-! ## Sizes without a payload -/

section Short

variable {sock : NetSocket}

/-- When the total size is not greater than the header, nothing is taken from memory. -/
theorem sendPayload_short (short : sock.outMsg.totalMsgSz.toInt ≤ 32)
    (inside : sock.outOffset.toNat ≤ 32) (reply : WriteReply) (memory : Memory)
    (calls : List SysCall) :
    (sock.sendPayload reply memory calls).calls = calls ∧
      (sock.sendPayload reply memory calls).sock = sock := by
  have signed : sock.outOffset.toInt = sock.outOffset.toNat := toInt_of_small (by omega)
  have wide := signExtend_toNat (show sock.outOffset.toNat < 2 ^ 31 by omega)
  have header : headerSize.toNat = 32 := rfl
  have not_due : ¬(headerSize.toNat ≤ (sock.outOffset.signExtend 64).toNat ∧
      sock.outOffset.toInt < sock.outMsg.totalMsgSz.toInt) := by
    rw [header, wide, signed]
    omega
  simp only [NetSocket.sendPayload]
  rw [if_neg not_due]
  simp only [NetSocket.sendFinish]
  split_ifs
  · exact ⟨rfl, rfl⟩
  · exact ⟨rfl, rfl⟩

theorem sendRaw_short (short : sock.outMsg.totalMsgSz.toInt ≤ 32)
    (inside : sock.outOffset.toNat ≤ 32) (header payload : WriteReply) (memory : Memory) :
    (∀ call ∈ (sock.sendRaw header payload memory).calls, ∀ base len, call.TakesFrom base len) ∧
      (sock.sendRaw header payload memory).sock.outBuf = sock.outBuf ∧
      (sock.sendRaw header payload memory).sock.outOffset.toNat ≤ 32 := by
  have wide := signExtend_toNat (show sock.outOffset.toNat < 2 ^ 31 by omega)
  have header_eq : headerSize.toNat = 32 := rfl
  simp only [NetSocket.sendRaw]
  split_ifs with due hard
  · refine ⟨?_, rfl, inside⟩
    simp only [List.mem_singleton, forall_eq]
    exact fun _ _ => trivial
  · have rest_count : (headerSize - sock.outOffset.signExtend 64).toNat =
        32 - sock.outOffset.toNat := by
      rw [BitVec.toNat_sub, wide, header_eq]
      omega
    have taken_le := header.taken_le (headerSize - sock.outOffset.signExtend 64).toNat
    rw [rest_count] at taken_le
    have moved : (advance sock.outOffset
        (header.taken (headerSize - sock.outOffset.signExtend 64).toNat)).toNat ≤ 32 := by
      rw [rest_count, advance_toNat (by omega)]
      omega
    generalize advance sock.outOffset _ = offset at moved ⊢
    have short' : NetSocket.outMsg { sock with outOffset := offset } = sock.outMsg := rfl
    rw [← short'] at short
    obtain ⟨calls, same⟩ := sendPayload_short short moved payload memory _
    rw [calls, same]
    refine ⟨?_, rfl, moved⟩
    simp only [List.mem_singleton, forall_eq]
    exact fun _ _ => trivial
  · obtain ⟨calls, same⟩ := sendPayload_short short inside payload memory []
    rw [calls, same]
    exact ⟨by rintro _ ⟨⟩, rfl, inside⟩

theorem sendsInside_of_short (short : msg.totalMsgSz.toInt ≤ 32) : SendsInside msg := by
  intro sock sends s head offset execution
  have kept : ∀ (before : FrameState) (call : SendCall) (after : FrameState),
      (before.sock.outMsg = msg ∧ before.sock.outOffset.toNat ≤ 32 ∧
        ∀ call ∈ before.calls, call.TakesFrom msg.src msg.dataLen) →
      sendSystem.step before call = some after →
      after.sock.outMsg = msg ∧ after.sock.outOffset.toNat ≤ 32 ∧
        ∀ call ∈ after.calls, call.TakesFrom msg.src msg.dataLen := by
    rintro before call after ⟨decoded, inside, taken⟩ stepped
    simp only [sendSystem] at stepped
    split_ifs at stepped
    cases stepped
    obtain ⟨calls, buffer, moved⟩ :=
      sendRaw_short (decoded ▸ short) inside call.header call.payload call.memory
    refine ⟨?_, moved, fun other member => ?_⟩
    · rw [← decoded, NetSocket.outMsg, NetSocket.outMsg, buffer]
    · obtain earlier | now := List.mem_append.mp member
      · exact taken other earlier
      · exact calls other now _ _
  have start : (FrameState.start sock).sock.outMsg = msg ∧
      (FrameState.start sock).sock.outOffset.toNat ≤ 32 ∧
        ∀ call ∈ (FrameState.start sock).calls, call.TakesFrom msg.src msg.dataLen :=
    ⟨outMsg_of_take head, by simp [FrameState.start, offset], by rintro _ ⟨⟩⟩
  exact (run_invariant kept start execution).2.2

end Short

/-! ## Sizes beyond the offsets -/

section Overflow

variable {sock : NetSocket}

/-- A region up to the overflow is sent in one call. -/
theorem sendRaw_upTo_overflow (memory : Memory) (data : msg.msgType = 1)
    (sized : 0 ≤ msg.dataLen) (large : ¬msg.Fits) (due : 32 < msg.totalMsgSz.toInt)
    (decoded : sock.outMsg = msg) (offset : sock.outOffset = 0) :
    ∃ far : BitVec 32, (far.signExtend 64).toNat = 2 ^ 64 - 2 ^ 31 ∧
      far.toInt < msg.totalMsgSz.toInt ∧ ∃ header payload,
        (sock.sendRaw header payload memory).sock = { sock with outOffset := far } ∧
          (sock.sendRaw header payload memory).rc ≠ 0 := by
  obtain ⟨payload, enough, total⟩ := totalMsgSz_of_not_fits data sized large
  have wide : BitVec.signExtend 64 (32 : BitVec 32) = headerSize := rfl
  have count : (msg.totalMsgSz - headerSize).toNat = msg.payloadLen := by
    have header : headerSize.toNat = NetMsg.size := rfl
    have bounded := msg.totalMsgSz.isLt
    rw [BitVec.toNat_sub, header, total]
    simp only [NetMsg.frameLen, NetMsg.size] at total ⊢
    omega
  have taken : (WriteReply.accepts (overflowLen - 1)).taken msg.payloadLen = overflowLen := by
    have positive : 0 < overflowLen := by decide
    simp only [WriteReply.taken]
    omega
  have decoded' : NetSocket.outMsg { sock with outOffset := 32 } = msg := decoded
  have signed : (32 : BitVec 32).toInt = 32 := by decide
  have again : (advance (32 : BitVec 32) overflowLen).toInt < msg.totalMsgSz.toInt := by
    rw [overflow_negative]
    omega
  refine ⟨advance 32 overflowLen, ?_, again, .accepts 31, .accepts (overflowLen - 1), ?_⟩
  · rw [advance_eq]
    decide
  · rw [sendRaw_start memory offset]
    simp only [NetSocket.sendPayload, decoded', wide, count, taken, WriteReply.isHard,
      Bool.false_eq_true, if_false, le_refl, true_and, signed, if_pos due, NetSocket.sendFinish,
      if_pos again]
    decide

/-- The next call takes its bytes from before the region. -/
theorem sendRaw_outside {far : BitVec 32} (memory : Memory)
    (wide : (far.signExtend 64).toNat = 2 ^ 64 - 2 ^ 31)
    (due : far.toInt < msg.totalMsgSz.toInt) (decoded : sock.outMsg = msg)
    (offset : sock.outOffset = far) (header payload : WriteReply) :
    ∃ count taken, .write sock.s (.memory (msg.src + far.signExtend 64 - headerSize)) count
        payload taken ∈ (sock.sendRaw header payload memory).calls := by
  have size_eq : headerSize.toNat = 32 := rfl
  have behind : ¬2 ^ 64 - 2 ^ 31 < 32 := by decide
  have behind' : 32 ≤ 2 ^ 64 - 2 ^ 31 := by decide
  refine ⟨msg.totalMsgSz - far.signExtend 64,
    memory.read (msg.src + far.signExtend 64 - headerSize)
      (payload.taken (msg.totalMsgSz - far.signExtend 64).toNat), ?_⟩
  simp only [NetSocket.sendRaw, offset, wide, size_eq, if_neg behind, NetSocket.sendPayload,
    decoded, behind', due, and_self, if_true]
  split_ifs
  · simp
  · simp

theorem distance_of_far {far : BitVec 32} (base : Address)
    (wide : (far.signExtend 64).toNat = 2 ^ 64 - 2 ^ 31) :
    (base + far.signExtend 64 - headerSize - base).toNat = 2 ^ 64 - 2 ^ 31 - 32 := by
  have size_eq : headerSize.toNat = 32 := rfl
  have bounded := base.isLt
  simp only [BitVec.toNat_sub, BitVec.toNat_add, wide, size_eq]
  omega

theorem sendSystem_step {s : FrameState} (unfinished : s.finished = false) (call : SendCall) :
    sendSystem.step s call =
      some ⟨(s.sock.sendRaw call.header call.payload call.memory).sock,
        s.calls ++ (s.sock.sendRaw call.header call.payload call.memory).calls,
        decide ((s.sock.sendRaw call.header call.payload call.memory).rc = 0)⟩ := by
  simp only [sendSystem, unfinished, Bool.false_eq_true, if_false]

/-- Such a region is left by the second of two calls. -/
theorem not_sendsInside (data : msg.msgType = 1) (large : 2 ^ 31 ≤ 32 + msg.dataLen)
    (small : 32 + msg.dataLen < 2 ^ 63) : ¬SendsInside msg := by
  intro inside
  have total := totalMsgSz_of_data data
  rw [if_pos small] at total
  have sized : 0 ≤ msg.dataLen := by omega
  have beyond : ¬msg.Fits := by
    simp only [NetMsg.Fits, NetMsg.payloadLen, data, if_true, NetMsg.size]
    omega
  obtain ⟨buffer, head⟩ := exists_buffer msg
  obtain ⟨sock, head, offset⟩ : ∃ sock : NetSocket,
      sock.outBuf.bytes.take NetMsg.size = msg.encode ∧ sock.outOffset = 0 :=
    ⟨{ (default : NetSocket) with outBuf := buffer }, head, rfl⟩
  have decoded := outMsg_of_take head
  obtain ⟨far, wide, due, header, payload, after, unfinished⟩ :=
    sendRaw_upTo_overflow (fun _ => 0) data sized beyond (by omega) decoded offset
  have decoded' : NetSocket.outMsg { sock with outOffset := far } = msg := decoded
  obtain ⟨count, taken, member⟩ := sendRaw_outside (fun _ => 0) wide due decoded' rfl
    (.fails EAGAIN) (.fails EAGAIN)
  have first : sendSystem.step (.start sock) ⟨fun _ => 0, header, payload⟩ =
      some ⟨{ sock with outOffset := far },
        [] ++ (sock.sendRaw header payload fun _ => 0).calls, false⟩ := by
    rw [sendSystem_step rfl, ← after, ← decide_eq_false unfinished]
    rfl
  have execution := run_cons_eq_some.mpr ⟨_, first, run_cons_eq_some.mpr
    ⟨_, sendSystem_step rfl ⟨fun _ => 0, .fails EAGAIN, .fails EAGAIN⟩, run_nil _ _⟩⟩
  have bound := inside sock _ _ head offset execution _ (List.mem_append_right _ member)
  have distance := distance_of_far msg.src wide
  change ((msg.src + far.signExtend 64 - headerSize - msg.src).toNat : Int) + count.toNat ≤
    msg.dataLen at bound
  rw [distance] at bound
  omega

end Overflow

/-- The payload of a data message is taken from inside its region exactly when its length is not one
at which the offset overflows. -/
theorem sendsInside_iff (data : msg.msgType = 1) :
    SendsInside msg ↔ ¬(2 ^ 31 ≤ 32 + msg.dataLen ∧ 32 + msg.dataLen < 2 ^ 63) := by
  constructor
  · rintro inside ⟨large, small⟩
    exact not_sendsInside data large small inside
  · intro apart
    have total := totalMsgSz_of_data data
    have upper : msg.dataLen < 2 ^ (64 - 1) := BitVec.toInt_lt
    by_cases fits : 0 ≤ msg.dataLen ∧ 32 + msg.dataLen < 2 ^ 31
    · refine sendsInside_of_fits data fits.1 ?_
      simp only [NetMsg.Fits, NetMsg.payloadLen, data, if_true, NetMsg.size]
      omega
    · refine sendsInside_of_short ?_
      rw [total]
      split_ifs <;> omega

end Klibmsg
