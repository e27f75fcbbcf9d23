import Klibmsg.World

/-!
# Sending and receiving one frame

`SendRaw` and `RecvRaw` resume a frame at the offset at which the last call left it.  The offsets
are 32-bit, sizes and counts 64-bit, and comparisons with `sizeof(NetMsg)` are unsigned; all of it
is kept, so that the arithmetic below is the arithmetic of the source.
-/

namespace Klibmsg

/-- Outcome of `SendRaw` or `RecvRaw`. -/
structure Transfer where
  sock : NetSocket
  memory : Memory
  calls : List SysCall
  rc : Int

/-- `sizeof(NetMsg)` as a `size_t`. -/
def headerSize : BitVec 64 := BitVec.ofNat 64 NetMsg.size

/-- `offset += nbytes` on an `int` offset and an `ssize_t` count. -/
def advance (offset : BitVec 32) (nbytes : Nat) : BitVec 32 :=
  (offset.signExtend 64 + BitVec.ofNat 64 nbytes).setWidth 32

/-- An `errno` after which the transfer is tried again later. -/
def isAgain (errno : Int) : Bool := errno = EAGAIN || errno = EWOULDBLOCK

/-- A `read` that makes `RecvRaw` return `-ECONNRESET`. -/
def ReadReply.isHard : ReadReply → Bool
  | fails errno => !isAgain errno
  | _ => false

/-- A `write` that makes `SendRaw` return `-ECONNRESET`. -/
def WriteReply.isHard : WriteReply → Bool
  | fails errno => !isAgain errno
  | _ => false

namespace NetSocket

/-- The message at the start of `in_buf`. -/
def inMsg (sock : NetSocket) : NetMsg := .decode sock.inBuf.bytes

/-- The message at the start of `out_buf`. -/
def outMsg (sock : NetSocket) : NetMsg := .decode sock.outBuf.bytes

/-! ## `RecvRaw` -/

/-- End of `RecvRaw`, when both reads have been made. -/
def recvFinish (sock : NetSocket) (memory : Memory) (calls : List SysCall)
    (totalMsgSz : BitVec 64) : Transfer :=
  if sock.inOffset.toInt < totalMsgSz.toInt then
    ⟨sock, memory, calls, -EAGAIN⟩
  else
    ⟨{ sock with inOffset := 0 }, memory, calls, 0⟩

/-- `RecvRaw` after the read of the header. -/
def recvPayload (token2Dptr : Token → Address) (reply : ReadReply) (sock : NetSocket)
    (memory : Memory) (calls : List SysCall) : Transfer :=
  let offset := sock.inOffset.signExtend 64
  if offset.toNat < headerSize.toNat then
    ⟨sock, memory, calls, -EAGAIN⟩
  else
    let msg := sock.inMsg
    if sock.inOffset.toInt < msg.totalMsgSz.toInt then
      let address := token2Dptr msg.dst + offset - headerSize
      let count := msg.extra + (headerSize - offset)
      let calls := calls ++ [.read sock.s (.memory address) count reply]
      if reply.isHard then
        ⟨sock, memory, calls, -ECONNRESET⟩
      else
        let bytes := reply.bytes count.toNat
        recvFinish { sock with inOffset := advance sock.inOffset bytes.length }
          (memory.write address bytes) calls msg.totalMsgSz
    else
      recvFinish sock memory calls msg.totalMsgSz

/-- `NetSocket::RecvRaw`, with the answers to the read of the header and of the payload. -/
def recvRaw (token2Dptr : Token → Address) (header payload : ReadReply) (sock : NetSocket)
    (memory : Memory) : Transfer :=
  let offset := sock.inOffset.signExtend 64
  if offset.toNat < headerSize.toNat then
    let count := headerSize - offset
    let calls := [.read sock.s (.buffer sock.inOffset) count header]
    if header.isHard then
      ⟨sock, memory, calls, -ECONNRESET⟩
    else
      let bytes := header.bytes count.toNat
      recvPayload token2Dptr payload
        { sock with
          inBuf := sock.inBuf.write offset.toNat bytes
          inOffset := advance sock.inOffset bytes.length }
        memory calls
  else
    recvPayload token2Dptr payload sock memory []

/-! ## `SendRaw` -/

/-- End of `SendRaw`, when both writes have been made. -/
def sendFinish (sock : NetSocket) (memory : Memory) (calls : List SysCall)
    (totalMsgSz : BitVec 64) : Transfer :=
  if sock.outOffset.toInt < totalMsgSz.toInt then
    ⟨sock, memory, calls, -EAGAIN⟩
  else
    ⟨sock, memory, calls, 0⟩

/-- `SendRaw` after the write of the header. -/
def sendPayload (reply : WriteReply) (sock : NetSocket) (memory : Memory)
    (calls : List SysCall) : Transfer :=
  let msg := sock.outMsg
  let offset := sock.outOffset.signExtend 64
  if headerSize.toNat ≤ offset.toNat ∧ sock.outOffset.toInt < msg.totalMsgSz.toInt then
    let address := msg.src + offset - headerSize
    let count := msg.totalMsgSz - offset
    let taken := reply.taken count.toNat
    let calls :=
      calls ++ [.write sock.s (.memory address) count reply (memory.read address taken)]
    if reply.isHard then
      ⟨sock, memory, calls, -ECONNRESET⟩
    else
      sendFinish { sock with outOffset := advance sock.outOffset taken } memory calls
        msg.totalMsgSz
  else
    sendFinish sock memory calls msg.totalMsgSz

/-- `NetSocket::SendRaw`, with the answers to the write of the header and of the payload. -/
def sendRaw (header payload : WriteReply) (sock : NetSocket) (memory : Memory) : Transfer :=
  let offset := sock.outOffset.signExtend 64
  if offset.toNat < headerSize.toNat then
    let count := headerSize - offset
    let taken := header.taken count.toNat
    let calls :=
      [.write sock.s (.buffer sock.outOffset) count header
        ((sock.outBuf.bytes.drop offset.toNat).take taken)]
    if header.isHard then
      ⟨sock, memory, calls, -ECONNRESET⟩
    else
      sendPayload payload { sock with outOffset := advance sock.outOffset taken } memory calls
  else
    sendPayload payload sock memory []

/-- `NetSocket::DequeueNetMsgToBuf`; `none` stands for `false`. -/
def dequeueNetMsgToBuf (sock : NetSocket) : Option NetSocket :=
  match sock.msgBufferQueue with
  | [] => none
  | msg :: rest =>
      some
        { sock with
          msgBufferQueue := rest
          outBuf := sock.outBuf.write 0 msg.encode
          outOffset := 0 }

end NetSocket
end Klibmsg
