import Klibmsg.Device.Routing
import Klibmsg.Socket.Region

/-!
# The producers of data messages

`SendData` and the answer to a read request look at the two callbacks of a token separately:
`SendData` refuses a null pointer and an empty region, and the answer refuses the failure value of
the length.  Both are right exactly when the callbacks fail together.
-/

namespace Klibmsg

variable {device : NetDevice} {token : Token} {msg : NetMsg}

/-- The message that `SendData` passes to `SendMsg`. -/
def sendDataMsg (device : NetDevice) (srcToken dstToken : Token) : Option NetMsg :=
  if device.token2Dptr srcToken = 0 ∨ device.token2DptrSize srcToken = 0 then
    none
  else
    some (dataMsg (device.token2Dptr srcToken) dstToken (device.token2DptrSize srcToken))

/-- The message with which `ParseNetMsg` answers a read request. -/
def answerMsg (device : NetDevice) (request : NetMsg) : Option NetMsg :=
  if (device.token2DptrSize request.src).toInt = -1 then
    none
  else
    some (dataMsg (device.token2Dptr request.src) request.dst (device.token2DptrSize request.src))

theorem sendData_eq (sys : Sys) (srcToken dstToken : Token) (w : World) :
    sendData sys srcToken dstToken w =
      match sendDataMsg w.device srcToken dstToken with
      | none => .ok (-1, w)
      | some msg => do
          let w ← sendMsg sys msg w
          return (0, w) := by
  simp only [sendData, sendDataMsg]
  by_cases null : w.device.token2Dptr srcToken = 0
  · rw [if_pos null, if_pos (.inl null)]
  · rw [if_neg null]
    by_cases empty : w.device.token2DptrSize srcToken = 0
    · rw [if_pos empty, if_pos (.inr empty)]
    · rw [if_neg empty, if_neg (not_or_intro null empty)]

theorem parseNetMsg_read (sys : Sys) {request : NetMsg} (w : World)
    (control : request.msgType = 0) (read : request.cmd = kNetMsgCmdRead) :
    parseNetMsg sys request w =
      match answerMsg w.device request with
      | none => .error .check
      | some msg => sendMsg sys msg w := by
  simp only [parseNetMsg, answerMsg, if_pos control, if_pos read, ne_eq, ite_not]
  split_ifs
  · rfl
  · rfl

/-- The message carries the region of the token, which both callbacks know, and is sent from inside
of it. -/
structure Carries (device : NetDevice) (token : Token) (msg : NetMsg) : Prop where
  pointer : device.token2Dptr token ≠ 0
  length : (device.token2DptrSize token).toInt ≠ -1
  address : msg.src = device.token2Dptr token
  dataLen : msg.extra = device.token2DptrSize token
  inside : SendsInside msg

/-- Whichever of the two producers sends data of the token, the message carries its region. -/
def ProducersValidate (device : NetDevice) (token : Token) : Prop :=
  (∀ dst msg, sendDataMsg device token dst = some msg → Carries device token msg) ∧
    ∀ request msg, request.src = token → answerMsg device request = some msg →
      Carries device token msg

theorem carries_dataMsg_iff (dst : Token) :
    Carries device token (dataMsg (device.token2Dptr token) dst (device.token2DptrSize token)) ↔
      device.token2Dptr token ≠ 0 ∧ (device.token2DptrSize token).toInt ≠ -1 ∧
        ¬(2 ^ 31 ≤ 32 + (device.token2DptrSize token).toInt ∧
          32 + (device.token2DptrSize token).toInt < 2 ^ 63) := by
  have inside := @sendsInside_iff
    (dataMsg (device.token2Dptr token) dst (device.token2DptrSize token)) rfl
  constructor
  · intro carries
    exact ⟨carries.pointer, carries.length, inside.mp carries.inside⟩
  · rintro ⟨pointer, length, fits⟩
    exact ⟨pointer, length, rfl, rfl, inside.mpr fits⟩

theorem sendData_validates_iff :
    (∀ dst msg, sendDataMsg device token dst = some msg → Carries device token msg) ↔
      (device.token2Dptr token = 0 ∨ device.token2DptrSize token = 0 ∨
        (device.token2DptrSize token).toInt ≠ -1 ∧
          ¬(2 ^ 31 ≤ 32 + (device.token2DptrSize token).toInt ∧
            32 + (device.token2DptrSize token).toInt < 2 ^ 63)) := by
  constructor
  · intro validates
    by_cases refused : device.token2Dptr token = 0 ∨ device.token2DptrSize token = 0
    · exact refused.imp_right .inl
    · obtain ⟨_, valid⟩ := (carries_dataMsg_iff 0).mp (validates 0 _ (if_neg refused))
      exact .inr (.inr valid)
  · intro valid dst msg sent
    simp only [sendDataMsg] at sent
    split_ifs at sent with refused
    cases sent
    obtain ⟨pointer, size⟩ := not_or.mp refused
    exact (carries_dataMsg_iff dst).mpr
      ⟨pointer, (valid.resolve_left pointer).resolve_left size⟩

theorem parseNetMsg_validates_iff :
    (∀ request msg, request.src = token → answerMsg device request = some msg →
        Carries device token msg) ↔
      ((device.token2DptrSize token).toInt = -1 ∨ device.token2Dptr token ≠ 0 ∧
        ¬(2 ^ 31 ≤ 32 + (device.token2DptrSize token).toInt ∧
          32 + (device.token2DptrSize token).toInt < 2 ^ 63)) := by
  constructor
  · intro validates
    by_cases failure : (device.token2DptrSize token).toInt = -1
    · exact .inl failure
    · obtain ⟨pointer, _, fits⟩ := (carries_dataMsg_iff _).mp
        (validates { NetMsg.new with src := token } _ rfl (if_neg failure))
      exact .inr ⟨pointer, fits⟩
  · rintro valid request msg rfl sent
    simp only [answerMsg] at sent
    split_ifs at sent with failure
    cases sent
    obtain ⟨pointer, fits⟩ := valid.resolve_left failure
    exact (carries_dataMsg_iff _).mpr ⟨pointer, failure, fits⟩

/-- The producers of data messages validate alike exactly when the two callbacks fail together, on
a region whose offsets do not overflow. -/
theorem producers_validate_iff (w : World) (token : Token) :
    (∀ sys dst, sendData sys token dst w =
        match sendDataMsg w.device token dst with
        | none => .ok (-1, w)
        | some msg => do
            let w ← sendMsg sys msg w
            return (0, w)) ∧
      (∀ sys request, request.msgType = 0 → request.cmd = kNetMsgCmdRead →
        parseNetMsg sys request w =
          match answerMsg w.device request with
          | none => .error .check
          | some msg => sendMsg sys msg w) ∧
      (ProducersValidate w.device token ↔
        (w.device.token2Dptr token = 0 ↔ (w.device.token2DptrSize token).toInt = -1) ∧
          ¬(w.device.token2Dptr token ≠ 0 ∧
            2 ^ 31 ≤ 32 + (w.device.token2DptrSize token).toInt ∧
              32 + (w.device.token2DptrSize token).toInt < 2 ^ 63)) := by
  refine ⟨fun sys dst => sendData_eq sys token dst w,
    fun sys request control read => parseNetMsg_read sys w control read, ?_⟩
  have empty : w.device.token2DptrSize token = 0 → (w.device.token2DptrSize token).toInt = 0 := by
    intro empty
    rw [empty]
    rfl
  rw [ProducersValidate, sendData_validates_iff, parseNetMsg_validates_iff]
  generalize (w.device.token2DptrSize token).toInt = size at empty ⊢
  by_cases pointer : w.device.token2Dptr token = 0
  · simp [pointer]
  · by_cases isEmpty : w.device.token2DptrSize token = 0
    · simp [isEmpty, empty isEmpty]
    · simp only [pointer, isEmpty, false_or, false_iff, not_false_eq_true, true_and, ne_eq]
      tauto

/-- `SendData` passes on the failure value of the length, and a read request is answered from a null
pointer. -/
theorem sendData_failure :
    (∃ w', sendData { socket := .fd 4 } 1 2 (parityDevice.world.modifyDevice fun device =>
          { device with token2Dptr := fun _ => 4096, token2DptrSize := fun _ => -1 }) =
            .ok (0, w') ∧
        (w'.sock parityDevice.world.nextSock).msgBufferQueue = [dataMsg 4096 2 (-1)]) ∧
      ∃ w', parseNetMsg { socket := .fd 4 } (readMsg 2 1) (parityDevice.world.modifyDevice
          fun device => { device with token2Dptr := fun _ => 0, token2DptrSize := fun _ => 8 }) =
            .ok w' ∧
        (w'.sock parityDevice.world.nextSock).msgBufferQueue = [dataMsg 0 2 8] := by
  have sent : (sendData { socket := .fd 4 } 1 2 (parityDevice.world.modifyDevice fun device =>
      { device with token2Dptr := fun _ => 4096, token2DptrSize := fun _ => -1 })).toOption.any
        (fun result => result.1 = 0 ∧
          (result.2.sock parityDevice.world.nextSock).msgBufferQueue = [dataMsg 4096 2 (-1)]) =
        true := by decide +kernel
  have answered : (parseNetMsg { socket := .fd 4 } (readMsg 2 1) (parityDevice.world.modifyDevice
      fun device => { device with
        token2Dptr := fun _ => 0, token2DptrSize := fun _ => 8 })).toOption.any (fun w' =>
          (w'.sock parityDevice.world.nextSock).msgBufferQueue = [dataMsg 0 2 8]) =
        true := by decide +kernel
  obtain ⟨⟨rc, w'⟩, sending, facts⟩ := (Option.any_eq_true _ _).mp sent
  obtain ⟨rfl, queued⟩ : rc = 0 ∧
    (w'.sock parityDevice.world.nextSock).msgBufferQueue = [dataMsg 4096 2 (-1)] :=
      of_decide_eq_true facts
  obtain ⟨w'', answering, facts'⟩ := (Option.any_eq_true _ _).mp answered
  exact ⟨⟨w', ok_of_toOption sending, queued⟩, w'', ok_of_toOption answering,
    of_decide_eq_true facts'⟩

end Klibmsg
