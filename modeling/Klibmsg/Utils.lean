import Klibmsg.Library.Bytes

/-!
# Constants, replies of the operating system and the message format

Numbers are those of `utils.h` and of the Linux headers.  Actions, event sources and event types
stay integers, because the source compares them across tables whose numbers overlap.  The socket
states are only ever compared and assigned, so they form an inductive type.
-/

namespace Klibmsg

def kNetFsmAction : Int := -2
def kNetFsmStart : Int := -2
def kNetFsmStop : Int := -3

/-- States of a `NetFsm`. -/
inductive NetFsmState where
  | idle
  | active
  | stopping
deriving DecidableEq, Repr

/-- States of a `NetSocket`. -/
inductive NetSockState where
  | idle
  | starting
  | beingAccepted
  | accepted
  | connecting
  | active
  | removingFd
  | done
  | listening
  | accepting
  | cancelling
  | stopping
  | stoppingAccept
  | acceptingError
deriving DecidableEq, Repr

def kNetSockActionAccept : Int := 1
def kNetSockActionBeingAccepted : Int := 2
def kNetSockActionCancel : Int := 3
def kNetSockActionListen : Int := 4
def kNetSockActionConnect : Int := 5
def kNetSockActionActivate : Int := 6
def kNetSockActionDone : Int := 7
def kNetSockActionError : Int := 8
def kNetSockActionStarted : Int := 9

def kNetSockSrcFd : Int := 1
def kNetSockSrcTaskConnecting : Int := 2
def kNetSockSrcTaskConnected : Int := 3
def kNetSockSrcTaskAccept : Int := 4
def kNetSockSrcTaskSend : Int := 5
def kNetSockSrcTaskRecv : Int := 6
def kNetSockSrcTaskStop : Int := 7

def kNetSockEventTypeConnected : Int := 1
def kNetSockEventTypeAccepted : Int := 2
def kNetSockEventTypeSent : Int := 3
def kNetSockEventTypeReceived : Int := 4
def kNetSockEventTypeError : Int := 5
def kNetSockEventTypeAcceptError : Int := 6
def kNetSockEventTypeStopped : Int := 7
def kNetSockEventTypeShutdown : Int := 8

def kNetSocketBufferSize : Nat := 128

def kNetPollerIn : Int := 1
def kNetPollerOut : Int := 2
def kNetPollerErr : Int := 3
def kNetPollerMaxEvents : Nat := 32

def kNetWorkerFdIn : Int := kNetPollerIn
def kNetWorkerFdOut : Int := kNetPollerOut
def kNetWorkerFdErr : Int := kNetPollerErr
def kNetWorkerTaskExecute : Int := 1

def kNetDeviceSrcWorkerTaskExecute : Int := 1
def kNetDeviceSrcSocketEvent : Int := 2
def kLocalIpToken : Int := -1
def kNetMsgCmdRead : Int := 1
def kNetWorkerNum : Nat := 4

theorem kNetWorkerNum_pos : 0 < kNetWorkerNum := by decide

def EINTR : Int := 4
def EBADF : Int := 9
def EAGAIN : Int := 11
def EWOULDBLOCK : Int := 11
def ENOMEM : Int := 12
def ENFILE : Int := 23
def EMFILE : Int := 24
def ECONNABORTED : Int := 103
def ECONNRESET : Int := 104
def ENOBUFS : Int := 105
def ETIMEDOUT : Int := 110
def EINPROGRESS : Int := 115

/-- A file descriptor number. -/
abbrev Fd := Int

/-- An `int64_t` token. -/
abbrev Token := BitVec 64

/-- A data pointer. -/
abbrev Address := BitVec 64

/-- The fields of `struct sockaddr_in` that the program compares. -/
structure SockAddr where
  sinFamily : BitVec 16
  sinPort : BitVec 16
  sAddr : BitVec 32
deriving DecidableEq, Repr, Inhabited

/-- Why a run of the program ends before its next step. -/
inductive Fault where
  /-- A `CHECK` does not hold. -/
  | check
  /-- `LOG(FATAL)`. -/
  | fatal
  /-- A null pointer is used. -/
  | nullPointer
  /-- A deleted socket is used, or memory is deleted that `new` did not return. -/
  | freedMemory
  /-- An array is left. -/
  | outOfBounds
deriving DecidableEq, Repr

/-! ## Replies to `read` and `write` -/

/-- Answer of the kernel to a `read` of a positive number of bytes. -/
inductive ReadReply where
  /-- At least one byte is available; `read` returns as many of these as were asked for. -/
  | data (first : Byte) (rest : List Byte)
  | endOfStream
  | fails (errno : Int)
deriving DecidableEq, Repr

/-- Answer of the kernel to a `write` of a positive number of bytes. -/
inductive WriteReply where
  /-- There is room for `room + 1` bytes. -/
  | accepts (room : Nat)
  | fails (errno : Int)
deriving DecidableEq, Repr

/-- Bytes stored by a `read` of `count` bytes. -/
def ReadReply.bytes (count : Nat) : ReadReply → List Byte
  | data first rest => (first :: rest).take count
  | endOfStream => []
  | fails _ => []

/-- Number of bytes taken by a `write` of `count` bytes. -/
def WriteReply.taken (count : Nat) : WriteReply → Nat
  | accepts room => min (room + 1) count
  | fails _ => 0

theorem ReadReply.length_bytes_le (count : Nat) (reply : ReadReply) :
    (reply.bytes count).length ≤ count := by
  cases reply <;> simp [bytes]

theorem WriteReply.taken_le (count : Nat) (reply : WriteReply) : reply.taken count ≤ count := by
  cases reply <;> simp [taken]

/-! ## Messages -/

/-- `NetMsg`: two bits of type, the reserved bits and padding before the first union, and the
three 64-bit unions `src`, `dst` and `extra`. -/
structure NetMsg where
  msgType : BitVec 2
  reserved : BitVec 62
  src : BitVec 64
  dst : BitVec 64
  extra : BitVec 64
deriving DecidableEq, Repr

namespace NetMsg

/-- `sizeof(NetMsg)`. -/
def size : Nat := 32

/-- The constructor clears every byte. -/
def new : NetMsg := ⟨0, 0, 0, 0, 0⟩

instance : Inhabited NetMsg := ⟨new⟩

/-- `extra.data_len` as a signed number. -/
def dataLen (msg : NetMsg) : Int := msg.extra.toInt

/-- `extra.cmd` as a signed number. -/
def cmd (msg : NetMsg) : Int := msg.extra.toInt

/-- The eight bytes before the first union: the two low bits are the bit-field `msg_type`. -/
def headWord (msg : NetMsg) : BitVec 64 :=
  BitVec.ofNat 64 (msg.reserved.toNat * 4 + msg.msgType.toNat)

/-- The bytes of a message in memory. -/
def encode (msg : NetMsg) : List Byte :=
  Bytes.ofWord msg.headWord ++
    (Bytes.ofWord msg.src ++ (Bytes.ofWord msg.dst ++ Bytes.ofWord msg.extra))

/-- Read the first bytes of a buffer as a message. -/
def decode (bytes : List Byte) : NetMsg where
  msgType := BitVec.ofNat 2 (Bytes.toWord bytes).toNat
  reserved := BitVec.ofNat 62 ((Bytes.toWord bytes).toNat / 4)
  src := Bytes.toWord (bytes.drop 8)
  dst := Bytes.toWord (bytes.drop 16)
  extra := Bytes.toWord (bytes.drop 24)

@[simp]
theorem length_encode (msg : NetMsg) : msg.encode.length = size := by simp [encode, size]

private theorem headWord_toNat (msg : NetMsg) :
    msg.headWord.toNat = msg.reserved.toNat * 4 + msg.msgType.toNat := by
  have type_lt : msg.msgType.toNat < 4 := msg.msgType.isLt
  have reserved_lt : msg.reserved.toNat < 2 ^ 62 := msg.reserved.isLt
  rw [headWord, BitVec.toNat_ofNat, Nat.mod_eq_of_lt]
  omega

private theorem msgType_headWord (msg : NetMsg) :
    BitVec.ofNat 2 msg.headWord.toNat = msg.msgType := by
  have type_lt : msg.msgType.toNat < 4 := msg.msgType.isLt
  apply BitVec.eq_of_toNat_eq
  rw [headWord_toNat, BitVec.toNat_ofNat]
  omega

private theorem reserved_headWord (msg : NetMsg) :
    BitVec.ofNat 62 (msg.headWord.toNat / 4) = msg.reserved := by
  have type_lt : msg.msgType.toNat < 4 := msg.msgType.isLt
  have reserved_lt : msg.reserved.toNat < 2 ^ 62 := msg.reserved.isLt
  apply BitVec.eq_of_toNat_eq
  rw [headWord_toNat, BitVec.toNat_ofNat]
  omega

/-- A buffer that starts with an encoded message decodes to it. -/
theorem decode_encode_append (msg : NetMsg) (rest : List Byte) :
    decode (msg.encode ++ rest) = msg := by
  have drop_word (word : BitVec 64) (tail : List Byte) :
      (Bytes.ofWord word ++ tail).drop 8 = tail :=
    List.drop_left' (Bytes.length_ofWord word)
  have drop_eight (bytes : List Byte) : bytes.drop 16 = (bytes.drop 8).drop 8 := by
    rw [List.drop_drop]
  have drop_sixteen (bytes : List Byte) : bytes.drop 24 = ((bytes.drop 8).drop 8).drop 8 := by
    rw [List.drop_drop, List.drop_drop]
  simp only [decode, encode, List.append_assoc, drop_eight, drop_sixteen, drop_word,
    Bytes.toWord_ofWord_append, msgType_headWord, reserved_headWord]

@[simp]
theorem decode_encode (msg : NetMsg) : decode msg.encode = msg := by
  simpa using decode_encode_append msg []

theorem decode_take (bytes : List Byte) : decode (bytes.take size) = decode bytes := by
  simp [decode, Bytes.toWord, size, List.take_take, List.drop_take]

/-- Every header-sized byte string is the encoding of the message it decodes to. -/
theorem encode_decode {bytes : List Byte} (length_eq : bytes.length = size) :
    (decode bytes).encode = bytes := by
  have size_eq : bytes.length = 32 := length_eq
  have head : (decode bytes).headWord = Bytes.toWord bytes := by
    have word_lt : (Bytes.toWord bytes).toNat < 2 ^ 64 := (Bytes.toWord bytes).isLt
    apply BitVec.eq_of_toNat_eq
    simp only [headWord_toNat, decode, BitVec.toNat_ofNat]
    omega
  rw [encode, head]
  simp only [decode]
  rw [Bytes.ofWord_toWord (by omega), Bytes.ofWord_toWord (by simp; omega),
    Bytes.ofWord_toWord (by simp; omega), Bytes.ofWord_toWord (by simp; omega)]
  have last : (bytes.drop 24).take 8 = bytes.drop 24 := List.take_of_length_le (by simp; omega)
  have third : (bytes.drop 16).take 8 ++ bytes.drop 24 = bytes.drop 16 := by
    simpa using List.take_append_drop 8 (bytes.drop 16)
  have second : (bytes.drop 8).take 8 ++ bytes.drop 16 = bytes.drop 8 := by
    simpa using List.take_append_drop 8 (bytes.drop 8)
  rw [last, third, second, List.take_append_drop]

/-- The `int64_t` size of header and payload, computed as the source does. -/
def totalMsgSz (msg : NetMsg) : BitVec 64 :=
  BitVec.ofNat 64 size + if msg.msgType = 1 then msg.extra else 0

/-- Number of payload bytes that follow the header. -/
def payloadLen (msg : NetMsg) : Nat := if msg.msgType = 1 then msg.dataLen.toNat else 0

/-- Header and payload fit the `int` offsets. -/
def Fits (msg : NetMsg) : Prop := size + msg.payloadLen < 2 ^ 31

instance (msg : NetMsg) : Decidable msg.Fits := inferInstanceAs (Decidable (_ < _))

end NetMsg
end Klibmsg
