import Klibmsg.Socket.Offsets

/-!
# Where received payload is stored

The header of a frame comes from the peer, and with it the token and the length by which `RecvRaw`
chooses where the payload goes.  A range lies inside the buffer of a token when its distance from
the start of the buffer and its length together are at most the size of the buffer.
-/

namespace Klibmsg

open StepSystem

/-! ## Signed and unsigned offsets -/

theorem signExtend_toInt (offset : BitVec 32) : (offset.signExtend 64).toInt = offset.toInt :=
  BitVec.toInt_signExtend_of_le (by decide)

/-- The unsigned comparison with the size of the header; a negative offset counts as behind it. -/
theorem signExtend_lt_headerSize (offset : BitVec 32) :
    (offset.signExtend 64).toNat < headerSize.toNat ↔ offset.toNat < NetMsg.size := by
  have same := signExtend_toInt offset
  have size_eq : headerSize.toNat = 32 := rfl
  have wide := (offset.signExtend 64).isLt
  have narrow := offset.isLt
  rw [BitVec.toInt_eq_toNat_cond, BitVec.toInt_eq_toNat_cond] at same
  rw [size_eq, NetMsg.size]
  split_ifs at same <;> omega

/-! ## The read of the payload -/

/-- A `read` that stores payload, with the header that stands in the buffer. -/
structure PayloadRead where
  msg : NetMsg
  address : Address
  count : BitVec 64
deriving DecidableEq

/-- The reads of payload among some calls. -/
def payloadReads (msg : NetMsg) (calls : List SysCall) : List PayloadRead :=
  calls.filterMap fun
    | .read _ (.memory address) count _ => some ⟨msg, address, count⟩
    | _ => none

/-- The range lies inside the buffer that is registered for the destination token. -/
structure PayloadRead.Inside (token2Dptr : Token → Address) (token2DptrSize : Token → BitVec 64)
    (read : PayloadRead) : Prop where
  pointer : token2Dptr read.msg.dst ≠ 0
  size : token2DptrSize read.msg.dst ≠ -1
  range : ((read.address - token2Dptr read.msg.dst).toNat : Int) + read.count.toNat ≤
    (token2DptrSize read.msg.dst).toInt

namespace NetSocket

/-- The socket once a call of `RecvRaw` has stored what the read of the header returns. -/
def received (sock : NetSocket) (header : ReadReply) : NetSocket :=
  if sock.inOffset.toNat < NetMsg.size then sock.withHeader (sock.headerRead header).bytes else sock

/-- The header is complete and `in_offset` is short of the end of the frame. -/
def PayloadDue (sock : NetSocket) : Prop :=
  NetMsg.size ≤ sock.inOffset.toNat ∧ sock.inOffset.toInt < sock.inMsg.totalMsgSz.toInt

instance (sock : NetSocket) : Decidable sock.PayloadDue := inferInstanceAs (Decidable (_ ∧ _))

/-- The read of the payload that is due. -/
def payloadRead (token2Dptr : Token → Address) (sock : NetSocket) : PayloadRead :=
  let offset := sock.inOffset.signExtend 64
  ⟨sock.inMsg, token2Dptr sock.inMsg.dst + offset - headerSize,
    sock.inMsg.extra + (headerSize - offset)⟩

end NetSocket

section Calls

variable {token2Dptr : Token → Address} {sock : NetSocket}

theorem inMsg_recvFinish (sock : NetSocket) (memory : Memory) (calls : List SysCall)
    (totalMsgSz : BitVec 64) :
    (sock.recvFinish memory calls totalMsgSz).sock.inMsg = sock.inMsg := by
  rw [NetSocket.recvFinish]
  split_ifs <;> rfl

/-- The rest of `RecvRaw` reads payload exactly when some is due. -/
theorem recvPayload_reads (reply : ReadReply) (memory : Memory) {calls : List SysCall}
    (others : ∀ msg, payloadReads msg calls = []) :
    let transfer := NetSocket.recvPayload token2Dptr reply sock memory calls
    payloadReads transfer.sock.inMsg transfer.calls =
      if sock.PayloadDue then [sock.payloadRead token2Dptr] else [] := by
  simp only [NetSocket.recvPayload, signExtend_lt_headerSize]
  by_cases behind : sock.inOffset.toNat < NetMsg.size
  · have notDue : ¬sock.PayloadDue := fun due => Nat.not_lt.mpr due.1 behind
    rw [if_pos behind, if_neg notDue, others]
  · rw [if_neg behind]
    have due_iff : sock.PayloadDue ↔ sock.inOffset.toInt < sock.inMsg.totalMsgSz.toInt :=
      and_iff_right (Nat.not_lt.mp behind)
    simp only [due_iff]
    have appended (msg : NetMsg) (call : SysCall) :
        payloadReads msg (calls ++ [call]) = payloadReads msg [call] := by
      have before := others msg
      simp only [payloadReads] at before ⊢
      rw [List.filterMap_append, before, List.nil_append]
    split_ifs with due hard
    · rw [appended]
      rfl
    · rw [inMsg_recvFinish, recvFinish_calls, appended]
      rfl
    · rw [recvFinish_calls, others]

/-- A call of `RecvRaw` reads payload exactly when some is due behind the bytes of the header that
it stores. -/
theorem recvRaw_reads (header payload : ReadReply) (memory : Memory) :
    let transfer := sock.recvRaw token2Dptr header payload memory
    payloadReads transfer.sock.inMsg transfer.calls =
      if (sock.received header).PayloadDue then [(sock.received header).payloadRead token2Dptr]
      else [] := by
  by_cases due : sock.inOffset.toNat < NetMsg.size
  · have received : sock.received header = sock.withHeader (sock.headerRead header).bytes :=
      if_pos due
    simp only [recvRaw_of_due due, received]
    split_ifs with hard payload
    · have nothing : (sock.headerRead header).bytes = [] := by
        rw [headerRead_bytes due, ReadReply.bytes_of_hard hard]
      rw [nothing] at payload
      have offset : (sock.withHeader []).inOffset.toNat = sock.inOffset.toNat :=
        withHeader_offset (by simpa using due.le)
      exact absurd (offset ▸ payload.1) (Nat.not_le.mpr due)
    · rfl
    · rw [recvPayload_reads payload memory (fun _ => rfl), if_pos ‹_›]
    · rw [recvPayload_reads payload memory (fun _ => rfl), if_neg ‹_›]
  · have received : sock.received header = sock := if_neg due
    simp only [NetSocket.recvRaw, signExtend_lt_headerSize, if_neg due, received]
    exact recvPayload_reads payload memory fun _ => rfl

end Calls

/-! ## When the range is inside the buffer -/

/-- The payload that the header announces has a buffer that is large enough. -/
structure NetMsg.Backed (token2Dptr : Token → Address) (token2DptrSize : Token → BitVec 64)
    (msg : NetMsg) : Prop where
  pointer : token2Dptr msg.dst ≠ 0
  size : msg.dataLen ≤ (token2DptrSize msg.dst).toInt

section Range

variable {token2Dptr : Token → Address} {token2DptrSize : Token → BitVec 64} {sock : NetSocket}

/-- Only a data message makes payload due at a position that is not negative. -/
theorem NetSocket.PayloadDue.data (due : sock.PayloadDue) (positive : 0 ≤ sock.inOffset.toInt) :
    sock.inMsg.msgType = 1 ∧ sock.inOffset.toInt < NetMsg.size + sock.inMsg.dataLen := by
  obtain ⟨behind, unfinished⟩ := due
  have offset := BitVec.toInt_eq_toNat_cond sock.inOffset
  have extra := BitVec.toInt_eq_toNat_cond sock.inMsg.extra
  have bounded := sock.inMsg.extra.isLt
  simp only [NetMsg.totalMsgSz, NetMsg.dataLen, NetMsg.size] at *
  by_cases isData : sock.inMsg.msgType = 1
  · rw [if_pos isData, BitVec.toInt_eq_toNat_cond (BitVec.ofNat 64 32 + _), BitVec.toNat_add,
      BitVec.toNat_ofNat] at unfinished
    refine ⟨isData, ?_⟩
    split_ifs at offset extra unfinished <;> omega
  · have total : (BitVec.ofNat 64 32 + 0 : BitVec 64).toInt = 32 := by decide
    rw [if_neg isData, total] at unfinished
    split_ifs at offset <;> omega

/-- The range of the payload that is due lies inside the buffer exactly when the buffer is large
enough and `in_offset` has not become negative. -/
theorem NetSocket.PayloadDue.inside_iff (due : sock.PayloadDue) :
    (sock.payloadRead token2Dptr).Inside token2Dptr token2DptrSize ↔
      sock.inMsg.Backed token2Dptr token2DptrSize ∧ 0 ≤ sock.inOffset.toInt := by
  have size_eq : headerSize.toNat = 32 := rfl
  have wide := signExtend_toInt sock.inOffset
  obtain ⟨offset, offset_eq⟩ : ∃ offset, offset = sock.inOffset.signExtend 64 := ⟨_, rfl⟩
  have bounded := offset.isLt
  have distance : ((sock.payloadRead token2Dptr).address - token2Dptr sock.inMsg.dst).toNat =
      (2 ^ 64 - 32 + offset.toNat) % 2 ^ 64 := by
    have cancelled : token2Dptr sock.inMsg.dst + offset - headerSize - token2Dptr sock.inMsg.dst =
        offset - headerSize := by
      rw [BitVec.sub_eq_add_neg _ headerSize, BitVec.add_assoc, BitVec.add_comm,
        BitVec.add_sub_cancel, ← BitVec.sub_eq_add_neg]
    rw [NetSocket.payloadRead, ← offset_eq, cancelled, BitVec.toNat_sub, size_eq]
  have count : (sock.payloadRead token2Dptr).count.toNat =
      (sock.inMsg.extra.toNat + (2 ^ 64 - offset.toNat + 32)) % 2 ^ 64 := by
    rw [NetSocket.payloadRead, ← offset_eq, BitVec.toNat_add, BitVec.toNat_sub, size_eq]
    omega
  have extra := sock.inMsg.extra.isLt
  rw [← offset_eq, BitVec.toInt_eq_toNat_cond offset] at wide
  have behind := due.1
  simp only [NetMsg.size] at behind
  by_cases positive : 0 ≤ sock.inOffset.toInt
  · obtain ⟨_, short⟩ := due.data positive
    have all : (((sock.payloadRead token2Dptr).address - token2Dptr sock.inMsg.dst).toNat : Int) +
        (sock.payloadRead token2Dptr).count.toNat = sock.inMsg.dataLen := by
      rw [distance, count]
      simp only [NetMsg.dataLen, NetMsg.size] at short ⊢
      have narrow := BitVec.toInt_eq_toNat_cond sock.inOffset
      rw [BitVec.toInt_eq_toNat_cond sock.inMsg.extra] at short ⊢
      split_ifs at wide narrow short ⊢ <;> omega
    have announced : 0 ≤ sock.inMsg.dataLen := by omega
    refine ⟨fun inside => ⟨⟨inside.pointer, all ▸ inside.range⟩, positive⟩, fun backed => ?_⟩
    refine ⟨backed.1.pointer, fun fails => ?_, all.symm ▸ backed.1.size⟩
    have size := backed.1.size
    have failure : (-1 : BitVec 64).toInt = -1 := by decide
    rw [show token2DptrSize sock.inMsg.dst = -1 from fails, failure] at size
    omega
  · refine iff_of_false (fun inside => ?_) fun backed => positive backed.2
    have range := inside.range
    have upper := BitVec.toInt_lt (x := token2DptrSize (sock.payloadRead token2Dptr).msg.dst)
    have lower := BitVec.le_toInt sock.inOffset
    have same : (sock.payloadRead token2Dptr).msg = sock.inMsg := rfl
    rw [same, distance] at range
    rw [same] at upper
    split_ifs at wide <;> omega

end Range

/-! ## Receiving a stream -/

/-- A socket that receives, with the reads of payload that it has made. -/
structure Receiver where
  sock : NetSocket
  reads : List PayloadRead

/-- Repeated calls of `RecvRaw`, over any number of frames. -/
def receiverSystem (token2Dptr : Token → Address) : StepSystem Receiver RecvCall where
  step s call :=
    let transfer := s.sock.recvRaw token2Dptr call.header call.payload call.memory
    some ⟨transfer.sock, s.reads ++ payloadReads transfer.sock.inMsg transfer.calls⟩

/-- Whenever a call finds payload due behind the bytes of the header that it stores, the buffer of
the destination token is large enough and `in_offset` is not negative. -/
def BackedCall (token2Dptr : Token → Address) (token2DptrSize : Token → BitVec 64) (s : Receiver)
    (call : RecvCall) : Prop :=
  (s.sock.received call.header).PayloadDue →
    (s.sock.received call.header).inMsg.Backed token2Dptr token2DptrSize ∧
      0 ≤ (s.sock.received call.header).inOffset.toInt

theorem receiverSystem_run (token2Dptr : Token → Address) (s : Receiver) (calls : List RecvCall) :
    ∃ s', (receiverSystem token2Dptr).run s calls = some s' := by
  induction calls generalizing s with
  | nil => exact ⟨s, rfl⟩
  | cons call calls ih => exact ih _

/-- One call adds a read inside the buffer, or none, exactly when the buffer is large enough. -/
theorem backedCall_iff {token2Dptr : Token → Address} {token2DptrSize : Token → BitVec 64}
    {s s' : Receiver} {call : RecvCall}
    (inside : ∀ read ∈ s.reads, read.Inside token2Dptr token2DptrSize)
    (stepped : (receiverSystem token2Dptr).step s call = some s') :
    (∀ read ∈ s'.reads, read.Inside token2Dptr token2DptrSize) ↔
      BackedCall token2Dptr token2DptrSize s call := by
  cases stepped
  simp only [List.forall_mem_append, recvRaw_reads, BackedCall]
  rw [and_iff_right inside]
  by_cases due : (s.sock.received call.header).PayloadDue
  · simp only [due, if_true, List.forall_mem_singleton, true_imp_iff]
    exact due.inside_iff
  · simp [due]

/-- For every stream of bytes and every segmentation of the reads, all payload is stored inside the
buffer of the token of its frame exactly when every call finds a buffer that is large enough. -/
theorem payload_inside_iff (token2Dptr : Token → Address) (token2DptrSize : Token → BitVec 64)
    (sock : NetSocket) (calls : List RecvCall) :
    (receiverSystem token2Dptr).Always
        (fun s => ∀ read ∈ s.reads, read.Inside token2Dptr token2DptrSize) ⟨sock, []⟩ calls ↔
      (receiverSystem token2Dptr).Guarded (BackedCall token2Dptr token2DptrSize) ⟨sock, []⟩
        calls := by
  obtain ⟨final, execution⟩ := receiverSystem_run token2Dptr ⟨sock, []⟩ calls
  refine always_iff_guarded (fun _ => id) (fun before call after inside stepped => ?_)
    (fun read member => absurd member List.not_mem_nil) execution
  exact ⟨(backedCall_iff inside stepped).mpr, (backedCall_iff inside stepped).mp⟩

/-- A frame for a token without a buffer. -/
def strayMsg : NetMsg := { NetMsg.new with msgType := 1, dst := 7, extra := 8 }

/-- The read that returns the header of a frame. -/
def headerReply (msg : NetMsg) : ReadReply :=
  match msg.encode with
  | [] => .endOfStream
  | first :: rest => .data first rest

/-- The payload of a frame for an unknown token is read to the null pointer. -/
theorem payload_outside :
    ¬(receiverSystem fun _ => 0).Always
      (fun s => ∀ read ∈ s.reads, read.Inside (fun _ => 0) fun _ => -1) ⟨default, []⟩
      [⟨fun _ => 0, headerReply strayMsg, .data 1 [2, 3, 4, 5, 6, 7, 8]⟩] := by
  intro always
  have observed : ((receiverSystem fun _ => 0).run ⟨default, []⟩
      [⟨fun _ => 0, headerReply strayMsg, .data 1 [2, 3, 4, 5, 6, 7, 8]⟩]).any
        (fun s => s.reads = [⟨strayMsg, 0, 8⟩]) = true := by decide +kernel
  obtain ⟨s, execution, reads⟩ := (Option.any_eq_true _ _).mp observed
  have member : (⟨strayMsg, 0, 8⟩ : PayloadRead) ∈ s.reads := by
    rw [of_decide_eq_true reads]
    exact List.mem_singleton_self _
  exact (always _ s List.prefix_rfl execution _ member).pointer rfl

end Klibmsg
