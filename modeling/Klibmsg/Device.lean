import Klibmsg.Socket.Operations

/-!
# The device

`NetDevice` owns the listening socket and every socket that it creates.  It routes messages by
token, answers read requests and hands callbacks to the completion queue.
-/

namespace Klibmsg

/-- `IsIpEqual`. -/
def isIpEqual (ip₁ ip₂ : SockAddr) : Bool :=
  ip₁.sinFamily = ip₂.sinFamily && ip₁.sinPort = ip₂.sinPort && ip₁.sAddr = ip₂.sAddr

@[simp]
theorem isIpEqual_iff {ip₁ ip₂ : SockAddr} : isIpEqual ip₁ ip₂ = true ↔ ip₁ = ip₂ := by
  cases ip₁
  cases ip₂
  simp [isIpEqual, and_assoc]

namespace NetDevice

/-- `NetDevice::Token2Socket`. -/
def token2Socket (device : NetDevice) (token : Token) : Option SockId :=
  device.token2sock.lookup token

/-- `emplace` on `token2sock_` keeps an entry that exists. -/
def emplaceSock (device : NetDevice) (token : Token) (x : SockId) : NetDevice :=
  match device.token2Socket token with
  | some _ => device
  | none => { device with token2sock := device.token2sock ++ [(token, x)] }

/-- `emplace` on `token2callback_` keeps an entry that exists. -/
def emplaceCallback (device : NetDevice) (token : Token) (callback : Callback) : NetDevice :=
  match device.token2callback token with
  | some _ => device
  | none =>
      { device with
        token2callback := Function.update device.token2callback token (some callback) }

/-- `erase` on `token2callback_`. -/
def eraseCallback (device : NetDevice) (token : Token) : NetDevice :=
  { device with token2callback := Function.update device.token2callback token none }

/-- The order in which this iteration visits the entries of `token2sock_`. -/
def iteration (device : NetDevice) (order : List (Token × SockId)) : List (Token × SockId) :=
  if order.Perm device.token2sock then order else device.token2sock

end NetDevice

namespace World

/-- Allocate a socket, initialise it for the device and put it into `sock_sets_`. -/
def createSocket (w : World) (addr : SockAddr) : SockId × World :=
  let (x, w) := w.newNetSocket
  (x, (w.socketInit x kNetDeviceSrcSocketEvent addr).modifyDevice fun device =>
    { device with sockSets := x :: device.sockSets })

/-- The search of `SendMsg` for a socket with the address of the destination. -/
def findSameIp (w : World) (dstAddr : SockAddr) :
    List (Token × SockId) → Except Fault (Option SockId)
  | [] => .ok none
  | entry :: rest =>
      if entry.2 ∈ w.freed then .error .freedMemory
      else if isIpEqual (w.sock entry.2).ipAddr dstAddr then .ok (some entry.2)
      else w.findSameIp dstAddr rest

/-- The part of `SendMsg` that selects the outbound socket. -/
def routeMsg (w : World) (sys : Sys) (token : Token) : Except Fault (SockId × World) :=
  match w.device.token2Socket token with
  | some x => .ok (x, w)
  | none => do
      let dstAddr := w.device.token2Ip token
      match ← w.findSameIp dstAddr (w.device.iteration sys.order) with
      | some x => return (x, w.modifyDevice (·.emplaceSock token x))
      | none =>
          let (x, w) := w.createSocket dstAddr
          let w := w.modifyDevice (·.emplaceSock token x)
          if (w.sock x).isIdle then return (x, w) else .error .check

end World

/-- The part of `SendMsg` that starts an idle socket; the result of `Start` is not looked at. -/
def ensureStarted (sys : Sys) (x : SockId) : Action := fun w =>
  if x ∈ w.freed then
    .error .freedMemory
  else if (w.sock x).isIdle then do
    let (_, w) ← start sys x w
    connect sys x w
  else
    .ok w

/-- `NetDevice::SendMsg`, returning the socket that the message was enqueued on. -/
def sendMsgTo (sys : Sys) (msg : NetMsg) (w : World) : Except Fault (SockId × World) := do
  let (x, w) ← w.routeMsg sys msg.dst
  let w ← ensureStarted sys x w
  return (x, w.asyncSendMsg x msg)

/-- `NetDevice::SendMsg`. -/
def sendMsg (sys : Sys) (msg : NetMsg) : Action := fun w => do
  let (_, w) ← sendMsgTo sys msg w
  return w

/-- The message that `SendData` fills in. -/
def dataMsg (address : Address) (dst : Token) (dataLen : BitVec 64) : NetMsg :=
  { NetMsg.new with msgType := 1, src := address, dst := dst, extra := dataLen }

/-- The message that `ReadData` fills in. -/
def readMsg (srcToken dstToken : Token) : NetMsg :=
  { NetMsg.new with
    msgType := 0, src := dstToken, dst := srcToken, extra := BitVec.ofInt 64 kNetMsgCmdRead }

/-- `NetDevice::SendData`. -/
def sendData (sys : Sys) (srcToken dstToken : Token) (w : World) : Except Fault (Int × World) :=
  let srcDptr := w.device.token2Dptr srcToken
  let srcSz := w.device.token2DptrSize srcToken
  if srcDptr = 0 then
    .ok (-1, w)
  else if srcSz = 0 then
    .ok (-1, w)
  else do
    let w ← sendMsg sys (dataMsg srcDptr dstToken srcSz) w
    return (0, w)

/-- `NetDevice::ReadData`. -/
def readData (sys : Sys) (srcToken dstToken : Token) (callback : Callback) : Action := fun w =>
  let msg := readMsg srcToken dstToken
  sendMsg sys msg (w.modifyDevice (·.emplaceCallback msg.dst callback))

/-- `cq_.Send`. -/
def World.cqSend (w : World) (callback : Callback) : World :=
  let (rc, cq) := w.device.cq.send callback
  let w := w.modifyDevice fun device => { device with cq := cq }
  if rc = 0 then w.log (.sendCallback callback) else w

/-- `NetDevice::ParseNetMsg`. -/
def parseNetMsg (sys : Sys) (msg : NetMsg) : Action := fun w =>
  if msg.msgType = 0 then
    if msg.cmd = kNetMsgCmdRead then
      let address := w.device.token2Dptr msg.src
      let dataLen := w.device.token2DptrSize msg.src
      if dataLen.toInt ≠ -1 then
        sendMsg sys (dataMsg address msg.dst dataLen) w
      else
        .error .check
    else
      .error .fatal
  else if msg.msgType = 1 then
    match w.device.token2callback msg.dst with
    | some callback => .ok ((w.cqSend callback).modifyDevice (·.eraseCallback msg.dst))
    | none => .ok w
  else
    .error .fatal

/-- `NetDevice::PairListenSocket`. -/
def pairListenSocket (sys : Sys) : Action := fun w =>
  let (x, w) := w.createSocket ⟨0, 0, 0⟩
  accept sys x w.device.listenSock w

/-- `NetDevice::Init`; what `Start`, `Bind` and `Listen` return is not looked at. -/
def deviceInit (sys : Sys) (token2Dptr : Token → Address) (token2DptrSize : Token → BitVec 64)
    (token2Ip : Token → SockAddr) : Action := fun w => do
  let w := w.modifyDevice fun device =>
    { device with
      token2Dptr := token2Dptr, token2DptrSize := token2DptrSize, token2Ip := token2Ip }
  let x := w.device.listenSock
  let w := w.socketInit x kNetDeviceSrcSocketEvent (token2Ip (BitVec.ofInt 64 kLocalIpToken))
  let (_, w) ← start sys x w
  let (_, w) ← bind sys x w
  let (_, w) ← listen sys x w
  pairListenSocket sys w

/-- `delete sock`. -/
def World.deleteSocket (w : World) (x : SockId) : Except Fault World :=
  if x = w.device.listenSock then .error .freedMemory
  else if x ∈ w.freed then .error .freedMemory
  else .ok { w with freed := x :: w.freed }

/-- `NetDeviceFsmHandler`. -/
def netDeviceFsmHandler (sys : Sys) (payload : Payload) : Action := fun w =>
  if payload.src = kNetDeviceSrcWorkerTaskExecute then
    .error .fatal
  else if payload.src = kNetDeviceSrcSocketEvent then
    if payload.type = kNetSockEventTypeConnected then
      match payload.srcptr with
      | .sock x =>
          if x ∈ w.freed then .error .freedMemory else .ok (w.execute ⟨x, .send⟩)
      | _ => .error .nullPointer
    else if payload.type = kNetSockEventTypeReceived then
      match payload.srcptr with
      | .msg msg => parseNetMsg sys msg w
      | _ => .error .nullPointer
    else if payload.type = kNetSockEventTypeError then
      .error .fatal
    else if payload.type = kNetSockEventTypeAcceptError then
      .error .fatal
    else if payload.type = kNetSockEventTypeAccepted then
      match payload.srcptr with
      | .sock x => do
          let w ← activate sys x w
          pairListenSocket sys (w.execute ⟨x, .recv⟩)
      | _ => .error .nullPointer
    else if payload.type = kNetSockEventTypeShutdown then
      match payload.srcptr with
      | .sock x => w.deleteSocket x
      | _ => .error .nullPointer
    else
      .ok w
  else
    .ok w

end Klibmsg
