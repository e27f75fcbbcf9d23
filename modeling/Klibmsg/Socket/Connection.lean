import Klibmsg.Socket.Broken
import Klibmsg.Socket.Effects
import Klibmsg.Socket.Stream

/-!
# A connection between two sockets

What one socket writes while its descriptor is writable is what its peer reads while its own
descriptor is readable, in segments of any size.  `SendRaw` and `RecvRaw` resume independently of
each other, in the middle of headers and payloads.  The peer raises the messages that were enqueued,
in the order in which they were, and finds their payloads in its memory.
-/

namespace Klibmsg

open StepSystem

/-! ## Two processes -/

/-- The bytes that the kernel has taken in some effects. -/
def bytesWritten (effects : List Effect) : List Byte :=
  effects.flatMap fun
    | .sys (.write _ _ _ _ taken) => taken
    | _ => []

/-- The bytes that the kernel has returned in some effects. -/
def bytesRead (effects : List Effect) : List Byte :=
  effects.flatMap fun
    | .sys (.read _ _ count reply) => reply.bytes count.toNat
    | _ => []

/-- The messages that a socket raises as received. -/
def receivedMsgs (y : SockId) (effects : List Effect) : List NetMsg :=
  effects.filterMap fun
    | .raise event ⟨_, _, .msg msg⟩ => if event = ⟨y, .received⟩ then some msg else none
    | _ => none

/-- How often a socket raises that a message has been sent. -/
def sentCount (x : SockId) (effects : List Effect) : Nat :=
  effects.countP fun
    | .raise event _ => event = ⟨x, .sent⟩
    | _ => false

/-- A message with the payload that is found at an address. -/
def frameAt (memory : Memory) (msg : NetMsg) (address : Address) : NetMsg × List Byte :=
  (msg, memory.read address msg.payloadLen)

/-- The processes of two connected sockets and the bytes between them in one direction.  Messages
are kept with the payload that the source holds when they are enqueued, and with the payload that
the destination holds when they are raised. -/
structure Connection where
  sender : World
  receiver : World
  pipe : List Byte
  enqueued : List (NetMsg × List Byte)
  received : List (NetMsg × List Byte)
  sent : Nat

/-- What happens on a connection: the users of one side enqueue messages, its descriptor is
writable, the descriptor of the other side is readable, or a process does something else. -/
inductive ConnectionLabel where
  | asyncSendMsg (msg : NetMsg)
  | fdOut (sys : Sys)
  | fdIn (sys : Sys) (segments : Option Nat × Option Nat)
  | sender (w : World)
  | receiver (w : World)

/-- The answers of the operating system to a socket that reads from a pipe. -/
def Sys.reading (sys : Sys) (sock : NetSocket) (pipe : List Byte)
    (segments : Option Nat × Option Nat) : Sys :=
  let header := readReply pipe segments.1
  { sys with
    readHeader := header
    readPayload := readReply (pipe.drop (sock.headerBytes header).length) segments.2 }

/-- The runs of a connection from a socket `x` to a socket `y`. -/
def connectionSystem (x y : SockId) : StepSystem Connection ConnectionLabel where
  step s
    | .asyncSendMsg msg =>
        some
          { s with
            sender := s.sender.asyncSendMsg x msg
            enqueued := s.enqueued ++ [frameAt s.sender.memory msg msg.src] }
    | .fdOut sys =>
        match feed sys x kNetSockSrcFd kNetWorkerFdOut s.sender with
        | .error _ => none
        | .ok w =>
            some
              { s with
                sender := w
                pipe := s.pipe ++ bytesWritten (w.since s.sender)
                sent := s.sent + sentCount x (w.since s.sender) }
    | .fdIn sys segments =>
        match feed (sys.reading (s.receiver.sock y) s.pipe segments) y kNetSockSrcFd
            kNetWorkerFdIn s.receiver with
        | .error _ => none
        | .ok w =>
            some
              { s with
                receiver := w
                pipe := s.pipe.drop (bytesRead (w.since s.receiver)).length
                received := s.received ++ (receivedMsgs y (w.since s.receiver)).map fun msg =>
                  frameAt w.memory msg (w.device.token2Dptr msg.dst) }
    | .sender w => some { s with sender := w }
    | .receiver w => some { s with receiver := w }

/-! ## What else may happen -/

/-- The socket is active and exists. -/
structure Connected (w : World) (x : SockId) : Prop where
  active : (w.sock x).state = .active
  running : (w.sock x).fsm.state ≠ .stopping
  alive : x ∉ w.freed

instance (w : World) (x : SockId) : Decidable (Connected w x) :=
  decidable_of_iff ((w.sock x).state = .active ∧ (w.sock x).fsm.state ≠ .stopping ∧ x ∉ w.freed)
    ⟨fun all => ⟨all.1, all.2.1, all.2.2⟩, fun connected =>
      ⟨connected.active, connected.running, connected.alive⟩⟩

/-- The messages that a socket has not sent completely. -/
def NetSocket.unsent (sock : NetSocket) : List NetMsg :=
  (if sock.isOutBufBusy then [sock.outMsg] else []) ++ sock.msgBufferQueue

/-- A step of the sender's process that leaves the outgoing side of the connection alone and keeps
the payloads of the messages that have not been sent. -/
structure KeepsSending (x : SockId) (w w' : World) : Prop where
  connected : Connected w' x
  outBuf : (w'.sock x).outBuf = (w.sock x).outBuf
  outOffset : (w'.sock x).outOffset = (w.sock x).outOffset
  busy : (w'.sock x).isOutBufBusy = (w.sock x).isOutBufBusy
  queue : (w'.sock x).msgBufferQueue = (w.sock x).msgBufferQueue
  source : ∀ msg ∈ (w.sock x).unsent,
    frameAt w'.memory msg msg.src = frameAt w.memory msg msg.src

/-- A step of the receiver's process that leaves the incoming side of the connection alone and keeps
the part of a payload that has been stored. -/
structure KeepsReceiving (y : SockId) (w w' : World) : Prop where
  connected : Connected w' y
  inBuf : (w'.sock y).inBuf = (w.sock y).inBuf
  inOffset : (w'.sock y).inOffset = (w.sock y).inOffset
  stored : w'.memory.read (w'.device.token2Dptr (w.sock y).inMsg.dst)
      ((w.sock y).inOffset.toNat - NetMsg.size) =
    w.memory.read (w.device.token2Dptr (w.sock y).inMsg.dst)
      ((w.sock y).inOffset.toNat - NetMsg.size)
  token2Dptr : w'.device.token2Dptr = w.device.token2Dptr

/-- Messages fit the offsets, and whatever else happens leaves the connection alone. -/
def ConnectionLabel.Allowed (x y : SockId) (s : Connection) : ConnectionLabel → Prop
  | asyncSendMsg msg => msg.Sized ∧ msg.Fits
  | fdOut _ => True
  | fdIn _ _ => True
  | sender w => KeepsSending x s.sender w
  | receiver w => KeepsReceiving y s.receiver w

/-- A connection on which nothing has been sent. -/
structure Connection.Fresh (x y : SockId) (s : Connection) : Prop where
  sender : Connected s.sender x
  receiver : Connected s.receiver y
  busy : (s.sender.sock x).isOutBufBusy = false
  queue : (s.sender.sock x).msgBufferQueue = []
  inOffset : (s.receiver.sock y).inOffset = 0
  pipe : s.pipe = []
  enqueued : s.enqueued = []
  received : s.received = []
  sent : s.sent = 0

/-! ## What the cells log -/

section Effects

variable {x y : SockId} {sys : Sys}

theorem bytesWritten_append (first later : List Effect) :
    bytesWritten (first ++ later) = bytesWritten first ++ bytesWritten later := List.flatMap_append

theorem sentCount_append (first later : List Effect) :
    sentCount x (first ++ later) = sentCount x first + sentCount x later := List.countP_append

/-- `SendRaw` makes calls of `write` only. -/
theorem bytesWritten_sendRaw (header payload : WriteReply) (sock : NetSocket) (memory : Memory) :
    bytesWritten ((sock.sendRaw header payload memory).calls.map .sys) =
      transferred (sock.sendRaw header payload memory).calls := by
  unfold NetSocket.sendRaw NetSocket.sendPayload NetSocket.sendFinish
  dsimp only
  split_ifs <;> rfl

/-- `RecvRaw` makes calls of `read` only. -/
theorem bytesRead_recvRaw (token2Dptr : Token → Address) (header payload : ReadReply)
    (sock : NetSocket) (memory : Memory) :
    bytesRead ((sock.recvRaw token2Dptr header payload memory).calls.map .sys) =
      transferred (sock.recvRaw token2Dptr header payload memory).calls := by
  unfold NetSocket.recvRaw NetSocket.recvPayload NetSocket.recvFinish
  dsimp only
  split_ifs <;> rfl

theorem sentCount_calls (calls : List SysCall) : sentCount x (calls.map .sys) = 0 := by
  rw [sentCount, List.countP_map, List.countP_eq_zero]
  intro call _
  exact Bool.false_ne_true

theorem bytesRead_append (first later : List Effect) :
    bytesRead (first ++ later) = bytesRead first ++ bytesRead later := List.flatMap_append

theorem receivedMsgs_append (first later : List Effect) :
    receivedMsgs y (first ++ later) = receivedMsgs y first ++ receivedMsgs y later :=
  List.filterMap_append

theorem receivedMsgs_calls (calls : List SysCall) : receivedMsgs y (calls.map .sys) = [] := by
  rw [receivedMsgs, List.filterMap_eq_nil_iff]
  intro effect member
  obtain ⟨call, _, rfl⟩ := List.mem_map.mp member
  rfl

end Effects

/-! ## The sender -/

/-- A frame as it goes over the connection. -/
def frameBytes (frame : NetMsg × List Byte) : List Byte := frame.1.encode ++ frame.2

/-- A message that the offsets can handle, with the payload that its header announces. -/
structure WellFramed (frame : NetMsg × List Byte) : Prop where
  sized : frame.1.Sized
  fits : frame.1.Fits
  payload : frame.2.length = frame.1.payloadLen

theorem length_frameBytes {frame : NetMsg × List Byte} (framed : WellFramed frame) :
    (frameBytes frame).length = frame.1.frameLen := by
  rw [frameBytes, List.length_append, NetMsg.length_encode, framed.payload, NetMsg.frameLen]

/-- What the out buffer says: no frame has been begun, or a part of a frame has been written. -/
def OutBuffer (sock : NetSocket) : Option (NetMsg × List Byte) → List Byte → Prop
  | none, begun => sock.isOutBufBusy = false ∧ begun = []
  | some frame, begun =>
      sock.isOutBufBusy = true ∧ sock.outBuf.bytes.take NetMsg.size = frame.1.encode ∧
        sock.outOffset.toNat < frame.1.frameLen ∧
        begun = (frameBytes frame).take sock.outOffset.toNat

/-- Of the messages that were enqueued some have been sent, one may have been begun, and the others
wait with their payloads in memory. -/
structure SenderHolds (x : SockId) (w : World) (enqueued done : List (NetMsg × List Byte))
    (current : Option (NetMsg × List Byte)) (rest : List (NetMsg × List Byte))
    (begun : List Byte) : Prop where
  connected : Connected w x
  split : enqueued = done ++ current.toList ++ rest
  framed : ∀ frame ∈ enqueued, WellFramed frame
  queue : (w.sock x).msgBufferQueue = rest.map Prod.fst
  source : ∀ frame ∈ current.toList ++ rest, frameAt w.memory frame.1 frame.1.src = frame
  buffer : OutBuffer (w.sock x) current begun

section Sender

variable {x : SockId} {sys : Sys} {w w' : World} {frame : NetMsg × List Byte}

theorem sock_applyTransfer (w : World) (x : SockId) (transfer : Transfer) :
    (w.applyTransfer x transfer).sock x = transfer.sock := by
  simp [World.applyTransfer]

theorem memory_raise (w : World) (x : SockId) (name : EventName) (type : Int) (srcptr : Pointer) :
    (w.raise x name type srcptr).memory = w.memory := by
  obtain ⟨sock, trace, others⟩ := w.raise_others x name type srcptr
  rw [others]

/-- Raising an event leaves a socket connected. -/
theorem Connected.raise (connected : Connected w x) (name : EventName) (type : Int)
    (srcptr : Pointer) : Connected (w.raise x name type srcptr) x := by
  constructor
  · rw [World.sock_raise_self]
    exact connected.active
  · rw [World.sock_raise_self]
    exact connected.running
  · obtain ⟨sock, trace, others⟩ := w.raise_others x name type srcptr
    rw [others]
    exact connected.alive

/-- A transfer leaves a socket connected. -/
theorem Connected.transfer (connected : Connected w x) {transfer : Transfer}
    (same : SameControl (w.sock x) transfer.sock) : Connected (w.applyTransfer x transfer) x := by
  constructor
  · rw [sock_applyTransfer, same.state]
    exact connected.active
  · rw [sock_applyTransfer, same.fsm]
    exact connected.running
  · exact connected.alive

/-- A connected socket handles its descriptor events in the cells of `Active`. -/
theorem Connected.feedFdOut (connected : Connected w x) :
    feed sys x kNetSockSrcFd kNetWorkerFdOut w = activeFdOut x sys w :=
  active_feedFd .fdOut connected.active connected.running connected.alive

theorem Connected.feedFdIn (connected : Connected w x) :
    feed sys x kNetSockSrcFd kNetWorkerFdIn w = activeFdIn x sys w :=
  active_feedFd .fdIn connected.active connected.running connected.alive

theorem frame_eq_frameBytes (source : frameAt w.memory frame.1 frame.1.src = frame) :
    frame.1.frame w.memory = frameBytes frame := by
  have payload : w.memory.read frame.1.src frame.1.payloadLen = frame.2 := congrArg Prod.snd source
  rw [NetMsg.frame, frameBytes, payload]

/-- Writing a frame that has been begun, from where it stopped. -/
theorem activeFdOutBusy_writes (connected : Connected w x) {begun : List Byte}
    (buffer : OutBuffer (w.sock x) (some frame) begun) (framed : WellFramed frame)
    (source : frameAt w.memory frame.1 frame.1.src = frame)
    (done : activeFdOutBusy x sys w = .ok w') :
    Connected w' x ∧ w'.memory = w.memory ∧
      (w'.sock x).msgBufferQueue = (w.sock x).msgBufferQueue ∧
      bytesWritten (w'.since w) = transferred
        ((w.sock x).sendRaw sys.writeHeader sys.writePayload w.memory).calls ∧
      (sentCount x (w'.since w) = 0 ∧
          OutBuffer (w'.sock x) (some frame) (begun ++ bytesWritten (w'.since w)) ∨
        sentCount x (w'.since w) = 1 ∧ OutBuffer (w'.sock x) none [] ∧
          begun ++ bytesWritten (w'.since w) = frameBytes frame) := by
  obtain ⟨busy, head, inside, rfl⟩ := buffer
  have sends := sendRaw_sends w.memory head framed.sized framed.fits inside.le sys.writeHeader
    sys.writePayload
  have written := bytesWritten_sendRaw sys.writeHeader sys.writePayload (w.sock x) w.memory
  have control := sendRaw_sameControl sys.writeHeader sys.writePayload (w.sock x) w.memory
  simp only [activeFdOutBusy] at done
  generalize (w.sock x).sendRaw sys.writeHeader sys.writePayload w.memory = transfer
    at done sends written control
  obtain ⟨sock_eq, memory_eq, within, -, bytes, rc_eq⟩ := sends
  rw [frame_eq_frameBytes source] at bytes
  have taken : (frameBytes frame).take (w.sock x).outOffset.toNat ++ transferred transfer.calls =
      (frameBytes frame).take
        ((w.sock x).outOffset.toNat + (transferred transfer.calls).length) := by
    rw [List.take_add, ← bytes]
  have position : (advance (w.sock x).outOffset (transferred transfer.calls).length).toNat =
      (w.sock x).outOffset.toNat + (transferred transfer.calls).length :=
    advance_toNat (Nat.lt_of_le_of_lt within framed.fits)
  have sock : (w.applyTransfer x transfer).sock x = transfer.sock := sock_applyTransfer w x transfer
  have carried := connected.transfer control
  have trace : (w.applyTransfer x transfer).trace = w.trace ++ transfer.calls.map .sys := rfl
  by_cases finished : transfer.rc = 0
  · rw [if_pos finished] at done
    cases done
    obtain ⟨idle, idle_eq⟩ : ∃ idle, idle = (w.applyTransfer x transfer).modify x fun sock =>
        { sock with isOutBufBusy := false } := ⟨_, rfl⟩
    have idle_sock : idle.sock x = { transfer.sock with isOutBufBusy := false } := by
      rw [idle_eq, World.sock_modify_self, sock]
    have idle_connected : Connected idle x := by
      constructor
      · rw [idle_sock, ← sock]
        exact carried.active
      · rw [idle_sock, ← sock]
        exact carried.running
      · rw [idle_eq]
        exact carried.alive
    have grown : (idle.raise x .sent kNetSockEventTypeSent (.sock x)).trace = w.trace ++
        (transfer.calls.map .sys ++
          [.raise ⟨x, .sent⟩ (idle.raisedPayload x kNetSockEventTypeSent (.sock x))]) := by
      rw [World.trace_raise, idle_eq, World.modify_trace, trace, List.append_assoc]
    have nothing : bytesWritten [.raise ⟨x, .sent⟩
        (idle.raisedPayload x kNetSockEventTypeSent (.sock x))] = [] := rfl
    rw [← idle_eq, World.since_append grown, bytesWritten_append, written, nothing,
      List.append_nil]
    refine ⟨idle_connected.raise _ _ _, ?_, ?_, rfl, .inr ⟨?_, ?_, ?_⟩⟩
    · rw [memory_raise, idle_eq]
      exact memory_eq
    · rw [World.sock_raise_self, idle_sock, sock_eq]
    · rw [sentCount_append, sentCount_calls]
      simp [sentCount]
    · rw [OutBuffer, World.sock_raise_self, idle_sock]
      exact ⟨rfl, rfl⟩
    · have whole := rc_eq.mp finished
      rw [taken, whole, ← length_frameBytes framed, List.take_length]
  · have same : w' = w.applyTransfer x transfer := by
      split_ifs at done
      · exact (Except.ok.inj done).symm
      · exact (Except.ok.inj done).symm
    subst same
    rw [World.since_append trace, written, taken]
    refine ⟨carried, memory_eq, ?_, rfl, .inl ⟨sentCount_calls _, ?_⟩⟩
    · rw [sock, sock_eq]
    · have short := mt rc_eq.mpr finished
      rw [OutBuffer, sock, sock_eq]
      refine ⟨busy, head, ?_, ?_⟩
      · rw [position]
        omega
      · rw [position]

/-- With nothing to write, only the registration changes. -/
theorem resetOut_writes (done : w.resetOut x = .ok w') :
    (∃ handle, w'.sock x = { w.sock x with wfd := handle }) ∧ w'.memory = w.memory ∧
      w'.freed = w.freed ∧ bytesWritten (w'.since w) = [] ∧ sentCount x (w'.since w) = 0 := by
  obtain ⟨result, _, returned⟩ := bind_eq_ok.mp done
  cases returned
  rw [World.since_append rfl]
  refine ⟨⟨result.1, by simp [World.setHandle]⟩, rfl, rfl, ?_, sentCount_calls _⟩
  split_ifs
  · rfl
  · rfl

theorem SenderHolds.writeBusy {enqueued finished rest : List (NetMsg × List Byte)}
    {begun : List Byte} (holds : SenderHolds x w enqueued finished (some frame) rest begun)
    (done : activeFdOutBusy x sys w = .ok w') :
    ∃ finished' current' begun', SenderHolds x w' enqueued finished' current' rest begun' ∧
      finished'.length = finished.length + sentCount x (w'.since w) ∧
        finished'.flatMap frameBytes ++ begun' =
          finished.flatMap frameBytes ++ begun ++ bytesWritten (w'.since w) := by
  obtain ⟨connected, split, framed, queue, source, buffer⟩ := holds
  have enqueued_frame : frame ∈ enqueued := by simp [split]
  obtain ⟨connected', memory_eq, queue_eq, -, outcome⟩ := activeFdOutBusy_writes connected buffer
    (framed frame enqueued_frame) (source frame List.mem_cons_self) done
  have queue' := queue_eq.trans queue
  obtain ⟨count, buffer'⟩ | ⟨count, buffer', whole⟩ := outcome
  · refine ⟨finished, some frame, _, ⟨connected', split, framed, queue', ?_, buffer'⟩, ?_, ?_⟩
    · rw [memory_eq]
      exact source
    · rw [count, Nat.add_zero]
    · rw [List.append_assoc]
  · refine ⟨finished ++ [frame], none, [], ⟨connected', ?_, framed, queue', ?_, buffer'⟩, ?_, ?_⟩
    · simp [split]
    · rw [memory_eq]
      exact fun other member => source other (List.mem_cons_of_mem _ member)
    · rw [count, List.length_append]
      rfl
    · rw [List.append_assoc, whole]
      simp

/-- With no frame in the buffer, the next one is taken from the queue. -/
theorem SenderHolds.dequeue {enqueued finished rest : List (NetMsg × List Byte)}
    {begun : List Byte} (holds : SenderHolds x w enqueued finished none (frame :: rest) begun)
    (sys : Sys) :
    begun = [] ∧ ∃ middle, activeFdOut x sys w = activeFdOutBusy x sys middle ∧
      middle.trace = w.trace ∧ SenderHolds x middle enqueued finished (some frame) rest [] := by
  obtain ⟨connected, split, framed, queue, source, idle, empty⟩ := holds
  refine ⟨empty, w.modify x fun _ =>
    { w.sock x with
      msgBufferQueue := rest.map Prod.fst
      outBuf := (w.sock x).outBuf.write 0 frame.1.encode
      outOffset := 0
      isOutBufBusy := true }, ?_, rfl, ?_⟩
  · rw [activeFdOut, idle, if_neg Bool.false_ne_true, NetSocket.dequeueNetMsgToBuf, queue]
    rfl
  · have sock := w.sock_modify_self x fun _ =>
      { w.sock x with
        msgBufferQueue := rest.map Prod.fst
        outBuf := (w.sock x).outBuf.write 0 frame.1.encode
        outOffset := 0
        isOutBufBusy := true }
    have head : ((w.sock x).outBuf.write 0 frame.1.encode).bytes.take
        (0 + frame.1.encode.length) = (w.sock x).outBuf.bytes.take 0 ++ frame.1.encode :=
      Buffer.take_write _ (by rw [NetMsg.length_encode]; decide)
    rw [Nat.zero_add, NetMsg.length_encode] at head
    refine ⟨⟨?_, ?_, connected.alive⟩, by simpa using split, framed, by rw [sock], source, ?_⟩
    · rw [sock]
      exact connected.active
    · rw [sock]
      exact connected.running
    · rw [OutBuffer, sock]
      refine ⟨rfl, head, ?_, rfl⟩
      simp [NetMsg.frameLen, NetMsg.size]

/-- Handling a writable descriptor goes on with the frame in the buffer, or with the next one in the
queue. -/
theorem SenderHolds.fdOut {enqueued finished rest : List (NetMsg × List Byte)}
    {current : Option (NetMsg × List Byte)} {begun : List Byte}
    (holds : SenderHolds x w enqueued finished current rest begun)
    (done : activeFdOut x sys w = .ok w') :
    ∃ finished' current' rest' begun', SenderHolds x w' enqueued finished' current' rest' begun' ∧
      finished'.length = finished.length + sentCount x (w'.since w) ∧
        finished'.flatMap frameBytes ++ begun' =
          finished.flatMap frameBytes ++ begun ++ bytesWritten (w'.since w) := by
  cases current with
  | some frame =>
      rw [activeFdOut, if_pos holds.buffer.1] at done
      obtain ⟨finished', current', begun', after⟩ := holds.writeBusy done
      exact ⟨finished', current', rest, begun', after⟩
  | none =>
      cases rest with
      | nil =>
          obtain ⟨connected, split, framed, queue, source, idle, rfl⟩ := holds
          rw [activeFdOut, idle, if_neg Bool.false_ne_true, NetSocket.dequeueNetMsgToBuf, queue]
            at done
          obtain ⟨⟨handle, sock⟩, memory_eq, freed_eq, nothing, count⟩ := resetOut_writes done
          have connected' : Connected w' x := by
            refine ⟨?_, ?_, freed_eq ▸ connected.alive⟩
            · rw [sock]
              exact connected.active
            · rw [sock]
              exact connected.running
          refine ⟨finished, none, [], [], ⟨connected', split, framed, ?_, ?_, ?_⟩, ?_, ?_⟩
          · rw [sock]
            exact queue
          · rw [memory_eq]
            exact source
          · rw [sock]
            exact ⟨idle, rfl⟩
          · rw [count, Nat.add_zero]
          · rw [nothing]
            simp
      | cons frame rest =>
          obtain ⟨rfl, middle, writing, trace, begins⟩ := holds.dequeue sys
          obtain ⟨finished', current', begun', after⟩ := begins.writeBusy (writing.symm.trans done)
          rw [World.since, trace] at after
          exact ⟨finished', current', rest, begun', after⟩

/-- Enqueueing appends a frame. -/
theorem SenderHolds.asyncSendMsg {enqueued finished rest : List (NetMsg × List Byte)}
    {current : Option (NetMsg × List Byte)} {begun : List Byte} {msg : NetMsg}
    (holds : SenderHolds x w enqueued finished current rest begun) (sized : msg.Sized)
    (fits : msg.Fits) :
    SenderHolds x (w.asyncSendMsg x msg) (enqueued ++ [frameAt w.memory msg msg.src]) finished
      current (rest ++ [frameAt w.memory msg msg.src]) begun := by
  obtain ⟨connected, split, framed, queue, source, buffer⟩ := holds
  have sock : (w.asyncSendMsg x msg).sock x =
      { w.sock x with
        msgBufferQueue := (w.sock x).msgBufferQueue ++ [msg]
        task := Function.update (w.sock x).task .send true } := by
    rw [World.asyncSendMsg, World.sock_execute_self, World.pushMsg, World.sock_modify_self]
  have memory_eq : (w.asyncSendMsg x msg).memory = w.memory := World.memory_execute _ _
  refine ⟨⟨?_, ?_, ?_⟩, ?_, ?_, ?_, ?_, ?_⟩
  · rw [sock]
    exact connected.active
  · rw [sock]
    exact connected.running
  · rw [World.asyncSendMsg, World.freed_execute]
    exact connected.alive
  · simp [split]
  · intro frame member
    obtain old | new := List.mem_append.mp member
    · exact framed frame old
    · rw [List.mem_singleton.mp new]
      exact ⟨sized, fits, Memory.length_read _ _ _⟩
  · rw [sock, List.map_append, queue]
    rfl
  · rw [memory_eq, ← List.append_assoc]
    intro frame member
    obtain old | new := List.mem_append.mp member
    · exact source frame old
    · rw [List.mem_singleton.mp new]
      rfl
  · rw [sock]
    exact buffer

/-- The messages that have not been sent completely. -/
theorem SenderHolds.unsent_eq {enqueued finished rest : List (NetMsg × List Byte)}
    {current : Option (NetMsg × List Byte)} {begun : List Byte}
    (holds : SenderHolds x w enqueued finished current rest begun) :
    (w.sock x).unsent = (current.toList ++ rest).map Prod.fst := by
  rw [NetSocket.unsent, holds.queue, List.map_append]
  have buffer := holds.buffer
  cases current with
  | none =>
      rw [buffer.1]
      rfl
  | some frame =>
      rw [if_pos buffer.1, outMsg_of_take buffer.2.1]
      rfl

/-- What leaves the outgoing side alone does not matter to the sender. -/
theorem SenderHolds.keeps {enqueued finished rest : List (NetMsg × List Byte)}
    {current : Option (NetMsg × List Byte)} {begun : List Byte}
    (holds : SenderHolds x w enqueued finished current rest begun) (keeps : KeepsSending x w w') :
    SenderHolds x w' enqueued finished current rest begun := by
  have unsent : ∀ frame ∈ current.toList ++ rest, frame.1 ∈ (w.sock x).unsent := by
    intro frame member
    rw [holds.unsent_eq]
    exact List.mem_map_of_mem member
  obtain ⟨connected, split, framed, queue, source, buffer⟩ := holds
  refine ⟨keeps.connected, split, framed, keeps.queue.trans queue, ?_, ?_⟩
  · intro frame member
    exact (keeps.source frame.1 (unsent frame member)).trans (source frame member)
  · cases current with
    | none => exact ⟨keeps.busy.trans buffer.1, buffer.2⟩
    | some frame =>
        rw [OutBuffer, keeps.busy, keeps.outBuf, keeps.outOffset]
        exact buffer

end Sender

/-! ## The receiver -/

/-- The receiver has done with a part of the stream what the parser does with it, and what has
arrived of the payload of the next frame is in memory. -/
structure ReceiverHolds (y : SockId) (w : World) (consumed : List Byte)
    (received : List (NetMsg × List Byte)) : Prop where
  connected : Connected w y
  received_eq : received = (NetMsg.framing.parse consumed).1
  holding : Holding (w.sock y) (NetMsg.framing.parse consumed).2
  stored : w.memory.read
      (w.device.token2Dptr (NetMsg.decode (NetMsg.framing.parse consumed).2).dst)
      ((NetMsg.framing.parse consumed).2.length - NetMsg.size) =
    (NetMsg.framing.parse consumed).2.drop NetMsg.size

section Receiver

variable {y : SockId} {sys : Sys} {w w' : World} {consumed pipe : List Byte}
  {received : List (NetMsg × List Byte)}

/-- The part of a payload that has been stored goes on where it stopped. -/
theorem Advances.stored {token2Dptr : Token → Address} {sock : NetSocket} {memory : Memory}
    {got taken : List Byte} {transfer : Transfer}
    (advances : Advances token2Dptr sock memory got (got ++ taken) transfer)
    (stored : memory.read (token2Dptr (NetMsg.decode got).dst) (got.length - NetMsg.size) =
      got.drop NetMsg.size)
    (small : (got ++ taken).length < 2 ^ 31) :
    transfer.memory.read (token2Dptr (NetMsg.decode (got ++ taken)).dst)
        ((got ++ taken).length - NetMsg.size) =
      (got ++ taken).drop NetMsg.size := by
  rw [advances.memory_eq]
  by_cases whole : NetMsg.size ≤ got.length
  · have length : (got ++ taken).length - NetMsg.size =
        (got.length - NetMsg.size) + taken.length := by
      rw [List.length_append]
      omega
    rw [List.length_append] at small
    rw [decode_append whole, Nat.max_eq_left whole, List.drop_left, length,
      Memory.read_write_extend _ _ _ (by omega), stored, List.drop_append_of_le_length whole]
  · have before : got.length ≤ NetMsg.size := (Nat.not_le.mp whole).le
    rw [Nat.max_eq_right before, Nat.sub_eq_zero_of_le before, BitVec.add_zero,
      ← List.length_drop]
    refine Memory.read_write _ _ ?_
    rw [List.length_drop]
    omega

/-- What a call of `RecvRaw` has taken from a pipe, and how its handler ends. -/
structure Receiving (y : SockId) (w w' : World) (consumed pipe : List Byte) (transfer : Transfer)
    (taken : List Byte) : Prop where
  rc : transfer.rc = 0 ∨ transfer.rc = -EAGAIN
  begins : taken <+: pipe
  read : bytesRead (transfer.calls.map .sys) = taken
  control : SameControl (w.sock y) transfer.sock
  advances : Advances w.device.token2Dptr (w.sock y) w.memory (NetMsg.framing.parse consumed).2
    ((NetMsg.framing.parse consumed).2 ++ taken) transfer
  header : NetMsg.size ≤ ((NetMsg.framing.parse consumed).2 ++ taken).length →
    NetMsg.decode ((NetMsg.framing.parse consumed).2 ++ taken) ∈
      NetMsg.framing.headers (consumed ++ pipe)
  outcome : w' =
    if transfer.rc = 0 then
      (w.applyTransfer y transfer).raise y .received kNetSockEventTypeReceived
        (.msg transfer.sock.inMsg)
    else w.applyTransfer y transfer

/-- Handling a readable descriptor calls `RecvRaw` on the bytes in the pipe. -/
theorem ReceiverHolds.receiving (holds : ReceiverHolds y w consumed received)
    (fits : ∀ msg ∈ NetMsg.framing.headers (consumed ++ pipe), msg.Fits)
    (sys : Sys) (segments : Option Nat × Option Nat) :
    ∃ w' transfer taken, activeFdIn y (sys.reading (w.sock y) pipe segments) w = .ok w' ∧
      transfer = (w.sock y).recvRaw w.device.token2Dptr (readReply pipe segments.1)
        (readReply (pipe.drop ((w.sock y).headerBytes (readReply pipe segments.1)).length)
          segments.2) w.memory ∧
        taken = transferred transfer.calls ∧ Receiving y w w' consumed pipe transfer taken := by
  obtain ⟨got, got_eq⟩ : ∃ got, got = (NetMsg.framing.parse consumed).2 := ⟨_, rfl⟩
  have header (more : List Byte) (begins : more <+: pipe)
      (enough : NetMsg.size ≤ (got ++ more).length) :
      NetMsg.decode (got ++ more) ∈ NetMsg.framing.headers (consumed ++ pipe) := by
    obtain ⟨rest, split⟩ := begins
    rw [← split, Framing.headers_append, ← got_eq, ← List.append_assoc got]
    exact List.mem_append_right _ (Framing.decode_mem_headers (F := NetMsg.framing) enough rest)
  have holding := got_eq ▸ holds.holding
  have narrow := holding.small fun enough => fits _ <| by
    simpa using header [] List.nil_prefix (by simpa using enough)
  obtain ⟨rc, begins⟩ := recvRaw_takes w.device.token2Dptr (holding.offset ▸ narrow) w.memory pipe
    segments
  have advances := recvRaw_advances w.device.token2Dptr (readReply pipe segments.1)
    (readReply (pipe.drop ((w.sock y).headerBytes (readReply pipe segments.1)).length)
      segments.2) w.memory holding fun enough => fits _ (header _ begins enough)
  have ends : ∃ transfer, transfer = (w.sock y).recvRaw w.device.token2Dptr
      (readReply pipe segments.1)
      (readReply (pipe.drop ((w.sock y).headerBytes (readReply pipe segments.1)).length)
        segments.2) w.memory ∧
      activeFdIn y (sys.reading (w.sock y) pipe segments) w =
        if transfer.rc = 0 then
          .ok ((w.applyTransfer y transfer).raise y .received kNetSockEventTypeReceived
            (.msg ((w.applyTransfer y transfer).sock y).inMsg))
        else if transfer.rc = -EAGAIN then .ok (w.applyTransfer y transfer)
        else if transfer.rc = -ECONNRESET then .ok (w.applyTransfer y transfer)
        else .error .check := ⟨_, rfl, rfl⟩
  obtain ⟨transfer, transfer_eq, handled⟩ := ends
  rw [← transfer_eq] at rc begins advances
  refine ⟨_, transfer, transferred transfer.calls, ?_, transfer_eq, rfl, rc, begins, ?_, ?_,
    got_eq ▸ advances, got_eq ▸ header _ begins, rfl⟩
  · rw [handled, sock_applyTransfer]
    obtain finished | again := rc
    · rw [if_pos finished, if_pos finished]
    · have unfinished : transfer.rc ≠ 0 := by
        rw [again]
        decide
      rw [if_neg unfinished, if_pos again, if_neg unfinished]
  · rw [transfer_eq]
    exact bytesRead_recvRaw _ _ _ _ _
  · rw [transfer_eq]
    exact recvRaw_sameControl _ _ _ _ _

section Outcome

variable {transfer : Transfer} {taken : List Byte}

/-- Reading changes the socket and stores bytes. -/
theorem Receiving.after (receiving : Receiving y w w' consumed pipe transfer taken)
    (connected : Connected w y) :
    Connected w' y ∧ w'.memory = transfer.memory ∧ w'.device = w.device ∧
      (w'.sock y).inBuf = transfer.sock.inBuf ∧ (w'.sock y).inOffset = transfer.sock.inOffset ∧
        bytesRead (w'.since w) = taken ∧
          receivedMsgs y (w'.since w) = if transfer.rc = 0 then [transfer.sock.inMsg] else [] := by
  have sock : (w.applyTransfer y transfer).sock y = transfer.sock := sock_applyTransfer w y transfer
  have trace : (w.applyTransfer y transfer).trace = w.trace ++ transfer.calls.map .sys := rfl
  have carried := connected.transfer receiving.control
  have outcome := receiving.outcome
  by_cases finished : transfer.rc = 0
  · rw [if_pos finished] at outcome
    have grown : w'.trace = w.trace ++ (transfer.calls.map .sys ++
        [.raise ⟨y, .received⟩ ((w.applyTransfer y transfer).raisedPayload y
          kNetSockEventTypeReceived (.msg transfer.sock.inMsg))]) := by
      rw [outcome, World.trace_raise, trace, List.append_assoc]
    have device_eq : w'.device = w.device := by
      obtain ⟨_, _, others⟩ := (w.applyTransfer y transfer).raise_others y .received
        kNetSockEventTypeReceived (.msg transfer.sock.inMsg)
      rw [outcome, others]
      rfl
    rw [World.since_append grown, bytesRead_append, receiving.read, receivedMsgs_append,
      receivedMsgs_calls, if_pos finished]
    refine ⟨outcome ▸ carried.raise _ _ _, ?_, device_eq, ?_, ?_, List.append_nil _, ?_⟩
    · rw [outcome, memory_raise]
      rfl
    · rw [outcome, World.sock_raise_self, sock]
    · rw [outcome, World.sock_raise_self, sock]
    · simp [receivedMsgs, World.raisedPayload]
  · rw [if_neg finished] at outcome
    subst outcome
    rw [World.since_append trace, receiving.read, receivedMsgs_calls, sock, if_neg finished]
    exact ⟨carried, rfl, rfl, rfl, rfl, rfl, rfl⟩

/-- What is left of the stream after a call of `RecvRaw`. -/
theorem Receiving.parse (receiving : Receiving y w w' consumed pipe transfer taken)
    (fits : ∀ msg ∈ NetMsg.framing.headers (consumed ++ pipe), msg.Fits)
    (stored : w.memory.read
        (w.device.token2Dptr (NetMsg.decode (NetMsg.framing.parse consumed).2).dst)
        ((NetMsg.framing.parse consumed).2.length - NetMsg.size) =
      (NetMsg.framing.parse consumed).2.drop NetMsg.size) :
    transfer.rc = 0 ∧ transfer.sock.inOffset = 0 ∧
        NetMsg.framing.parse (consumed ++ taken) = ((NetMsg.framing.parse consumed).1 ++
          [frameAt transfer.memory transfer.sock.inMsg
            (w.device.token2Dptr transfer.sock.inMsg.dst)], []) ∨
      transfer.rc ≠ 0 ∧ Holding transfer.sock (NetMsg.framing.parse (consumed ++ taken)).2 ∧
        (NetMsg.framing.parse (consumed ++ taken)).1 = (NetMsg.framing.parse consumed).1 ∧
          transfer.memory.read
              (w.device.token2Dptr (NetMsg.decode (NetMsg.framing.parse (consumed ++ taken)).2).dst)
              ((NetMsg.framing.parse (consumed ++ taken)).2.length - NetMsg.size) =
            (NetMsg.framing.parse (consumed ++ taken)).2.drop NetMsg.size := by
  obtain ⟨-, -, -, -, advances, header, -⟩ := receiving
  have resumed := Framing.parse_append (F := NetMsg.framing) consumed taken
  generalize (NetMsg.framing.parse consumed).2 = got at advances header stored resumed
  obtain ⟨finished, offset, enough, exact⟩ | ⟨unfinished, holding'⟩ := advances.outcome
  · -- the frame is whole
    have bounded : (NetMsg.decode (got ++ taken)).frameLen < 2 ^ 31 := fits _ (header enough)
    have length : (got ++ taken).length - NetMsg.size =
        (NetMsg.decode (got ++ taken)).payloadLen := by
      rw [exact, NetMsg.frameLen]
      omega
    have kept := advances.stored stored (by omega)
    rw [length] at kept
    rw [Framing.parse_frame (F := NetMsg.framing) enough exact] at resumed
    refine .inl ⟨finished, offset, resumed.trans ?_⟩
    rw [inMsg_of_head enough advances.head, frameAt, kept]
    rfl
  · -- a part of the frame is missing
    have short : ¬NetMsg.framing.Whole (got ++ taken) := fun whole =>
      Nat.not_le.mpr (holding'.unfinished whole.1) whole.2
    have wider := holding'.small fun enough => fits _ (header enough)
    rw [Framing.parse_of_not_whole short, List.append_nil] at resumed
    rw [resumed]
    exact .inr ⟨unfinished, holding', rfl, advances.stored stored wider⟩

end Outcome

/-- Handling a readable descriptor goes on with the frame in the buffer. -/
theorem ReceiverHolds.fdIn {segments : Option Nat × Option Nat}
    (holds : ReceiverHolds y w consumed received)
    (fits : ∀ msg ∈ NetMsg.framing.headers (consumed ++ pipe), msg.Fits)
    (done : activeFdIn y (sys.reading (w.sock y) pipe segments) w = .ok w') :
    bytesRead (w'.since w) <+: pipe ∧
      ReceiverHolds y w' (consumed ++ bytesRead (w'.since w))
        (received ++ (receivedMsgs y (w'.since w)).map fun msg =>
          frameAt w'.memory msg (w'.device.token2Dptr msg.dst)) := by
  obtain ⟨_, transfer, taken, handled, -, -, receiving⟩ := holds.receiving fits sys segments
  cases handled.symm.trans done
  obtain ⟨connected, memory_eq, device_eq, in_buf, in_offset, read, raised⟩ :=
    receiving.after holds.connected
  rw [read, raised, memory_eq, device_eq, holds.received_eq]
  refine ⟨receiving.begins, ?_⟩
  obtain ⟨finished, start, parsed⟩ | ⟨unfinished, holding, parsed, stored⟩ :=
    receiving.parse fits holds.stored
  · refine ⟨connected, ?_, ?_, ?_⟩
    · rw [parsed, if_pos finished]
      rfl
    · rw [parsed]
      exact Holding.nil (in_offset.trans start)
    · rw [parsed]
      rfl
  · obtain ⟨offset, head, unfinished'⟩ := holding
    refine ⟨connected, ?_, ⟨in_offset ▸ offset, in_buf ▸ head, unfinished'⟩, ?_⟩
    · rw [parsed, if_neg unfinished]
      exact List.append_nil _
    · rw [memory_eq, device_eq]
      exact stored

/-- What leaves the incoming side alone does not matter to the receiver. -/
theorem ReceiverHolds.keeps (holds : ReceiverHolds y w consumed received)
    (keeps : KeepsReceiving y w w') : ReceiverHolds y w' consumed received := by
  obtain ⟨connected, received_eq, holding, stored⟩ := holds
  obtain ⟨offset, head, unfinished⟩ := holding
  refine ⟨keeps.connected, received_eq, ⟨?_, ?_, unfinished⟩, ?_⟩
  · rw [keeps.inOffset]
    exact offset
  · rw [keeps.inBuf]
    exact head
  · rw [keeps.token2Dptr]
    by_cases whole : NetMsg.size ≤ (NetMsg.framing.parse consumed).2.length
    · have same := keeps.stored
      rw [keeps.token2Dptr, inMsg_of_head whole head, offset] at same
      exact same.trans stored
    · have before := (Nat.not_le.mp whole).le
      rw [Nat.sub_eq_zero_of_le before, List.drop_eq_nil_of_le before]
      rfl

end Receiver

/-! ## The connection -/

section Stream

variable {x : SockId} {w : World} {enqueued finished rest : List (NetMsg × List Byte)}
  {current : Option (NetMsg × List Byte)} {begun : List Byte}

/-- A frame that has been begun is not whole, and its header is that of a message. -/
theorem SenderHolds.begun_short (holds : SenderHolds x w enqueued finished current rest begun) :
    ¬NetMsg.framing.Whole begun ∧
      (NetMsg.size ≤ begun.length → ∃ frame ∈ enqueued, frame.1 = NetMsg.decode begun) := by
  have buffer := holds.buffer
  cases current with
  | none =>
      rw [buffer.2]
      exact ⟨fun whole => absurd whole.1 (by decide), fun whole => absurd whole (by decide)⟩
  | some frame =>
      obtain ⟨-, -, inside, begun_eq⟩ := buffer
      have length : begun.length ≤ (w.sock x).outOffset.toNat := by
        rw [begun_eq]
        exact List.length_take_le _ _
      have decoded (whole : NetMsg.size ≤ begun.length) : NetMsg.decode begun = frame.1 := by
        have header : begun.take NetMsg.size = frame.1.encode := by
          rw [begun_eq, List.take_take, Nat.min_eq_left (whole.trans length), frameBytes,
            List.take_left' (NetMsg.length_encode _)]
        rw [← NetMsg.decode_take, header, NetMsg.decode_encode]
      refine ⟨?_, fun whole => ⟨frame, by simp [holds.split], (decoded whole).symm⟩⟩
      rintro ⟨whole, complete⟩
      have frame_le : (NetMsg.decode begun).frameLen ≤ begun.length := complete
      rw [decoded whole] at frame_le
      omega

/-- What has been written is parsed into the messages that have been sent. -/
theorem SenderHolds.parse_written
    (holds : SenderHolds x w enqueued finished current rest begun) :
    NetMsg.framing.parse (finished.flatMap frameBytes ++ begun) = (finished, begun) := by
  refine Framing.parse_flatten (F := NetMsg.framing) NetMsg.length_encode NetMsg.decode_encode
    (fun frame member => ?_) holds.begun_short.1
  exact (holds.framed frame (by simp [holds.split, member])).payload

/-- The headers of what has been written are those of messages that were enqueued. -/
theorem SenderHolds.headers_written
    (holds : SenderHolds x w enqueued finished current rest begun) :
    ∀ msg ∈ NetMsg.framing.headers (finished.flatMap frameBytes ++ begun),
      ∃ frame ∈ enqueued, frame.1 = msg := by
  rw [Framing.headers, holds.parse_written]
  intro msg member
  obtain whole | part := List.mem_append.mp member
  · obtain ⟨frame, sent, rfl⟩ := List.mem_map.mp whole
    exact ⟨frame, by simp [holds.split, sent], rfl⟩
  · split_ifs at part with enough
    · cases List.mem_singleton.mp part
      exact holds.begun_short.2 enough
    · cases part

theorem SenderHolds.fits_written
    (holds : SenderHolds x w enqueued finished current rest begun) :
    ∀ msg ∈ NetMsg.framing.headers (finished.flatMap frameBytes ++ begun), msg.Fits := by
  intro msg member
  obtain ⟨frame, listed, rfl⟩ := holds.headers_written msg member
  exact (holds.framed frame listed).fits

end Stream

/-- What has been written and not read is in the pipe. -/
def Framed (x y : SockId) (s : Connection) : Prop :=
  ∃ finished current rest begun consumed,
    SenderHolds x s.sender s.enqueued finished current rest begun ∧
      ReceiverHolds y s.receiver consumed s.received ∧
        consumed ++ s.pipe = finished.flatMap frameBytes ++ begun ∧ s.sent = finished.length

section Steps

variable {x y : SockId} {s s' : Connection} {label : ConnectionLabel}

theorem connectionSystem_fdOut {sys : Sys}
    (stepped : (connectionSystem x y).step s (.fdOut sys) = some s') :
    ∃ w, feed sys x kNetSockSrcFd kNetWorkerFdOut s.sender = .ok w ∧
      s' = { s with
        sender := w
        pipe := s.pipe ++ bytesWritten (w.since s.sender)
        sent := s.sent + sentCount x (w.since s.sender) } := by
  simp only [connectionSystem] at stepped
  split at stepped
  next => cases stepped
  next w fed =>
    cases stepped
    exact ⟨w, fed, rfl⟩

theorem connectionSystem_fdIn {sys : Sys} {segments : Option Nat × Option Nat}
    (stepped : (connectionSystem x y).step s (.fdIn sys segments) = some s') :
    ∃ w, feed (sys.reading (s.receiver.sock y) s.pipe segments) y kNetSockSrcFd kNetWorkerFdIn
        s.receiver = .ok w ∧
      s' = { s with
        receiver := w
        pipe := s.pipe.drop (bytesRead (w.since s.receiver)).length
        received := s.received ++ (receivedMsgs y (w.since s.receiver)).map fun msg =>
          frameAt w.memory msg (w.device.token2Dptr msg.dst) } := by
  simp only [connectionSystem] at stepped
  split at stepped
  next => cases stepped
  next w fed =>
    cases stepped
    exact ⟨w, fed, rfl⟩

theorem Framed.step (framed : Framed x y s)
    (stepped : (connectionSystem x y).step s label = some s') (allowed : label.Allowed x y s) :
    Framed x y s' := by
  obtain ⟨finished, current, rest, begun, consumed, sends, receives, bytes, count⟩ := framed
  cases label with
  | asyncSendMsg msg =>
      cases stepped
      exact ⟨finished, current, _, begun, consumed, sends.asyncSendMsg allowed.1 allowed.2,
        receives, bytes, count⟩
  | fdOut sys =>
      obtain ⟨w, fed, rfl⟩ := connectionSystem_fdOut stepped
      obtain ⟨finished', current', rest', begun', sends', count', bytes'⟩ :=
        sends.fdOut (sends.connected.feedFdOut.symm.trans fed)
      refine ⟨finished', current', rest', begun', consumed, sends', receives, ?_, ?_⟩
      · rw [bytes', ← bytes, List.append_assoc]
      · rw [count', ← count]
  | fdIn sys segments =>
      obtain ⟨w, fed, rfl⟩ := connectionSystem_fdIn stepped
      obtain ⟨begins, receives'⟩ := receives.fdIn (bytes ▸ sends.fits_written)
        (receives.connected.feedFdIn.symm.trans fed)
      refine ⟨finished, current, rest, begun, _, sends, receives', ?_, count⟩
      have split := List.prefix_iff_eq_append.mp begins
      rw [List.append_assoc, split]
      exact bytes
  | sender w =>
      cases stepped
      exact ⟨finished, current, rest, begun, consumed, sends.keeps allowed, receives, bytes, count⟩
  | receiver w =>
      cases stepped
      exact ⟨finished, current, rest, begun, consumed, sends, receives.keeps allowed, bytes, count⟩

theorem Connection.Fresh.framed (fresh : s.Fresh x y) : Framed x y s := by
  have nothing : NetMsg.framing.parse [] = ([], []) :=
    Framing.parse_of_not_whole fun whole => absurd whole.1 (by decide)
  refine ⟨[], none, [], [], [],
    ⟨fresh.sender, fresh.enqueued, ?_, fresh.queue, ?_, fresh.busy, rfl⟩,
    ⟨fresh.receiver, ?_, ?_, ?_⟩, fresh.pipe, fresh.sent⟩
  · rw [fresh.enqueued]
    rintro _ ⟨⟩
  · rintro _ ⟨⟩
  · rw [nothing, fresh.received]
  · rw [nothing]
    exact Holding.nil fresh.inOffset
  · rw [nothing]
    rfl

/-- What has been raised is what has been sent, without the frames that are still on the way. -/
theorem Framed.delivered (framed : Framed x y s) :
    s.sent ≤ s.enqueued.length ∧ s.received <+: s.enqueued.take s.sent ∧
      s.received <+: s.enqueued ∧ (s.pipe = [] → s.received = s.enqueued.take s.sent) := by
  obtain ⟨finished, current, rest, begun, consumed, sends, receives, bytes, count⟩ := framed
  have sent : s.enqueued.take s.sent = finished := by
    rw [sends.split, count, List.append_assoc, List.take_left]
  have written := sends.parse_written
  rw [← bytes] at written
  have received : s.received <+: finished := by
    rw [Framing.parse_append] at written
    have frames := congrArg Prod.fst written
    dsimp only at frames
    rw [receives.received_eq, ← frames]
    exact List.prefix_append _ _
  refine ⟨?_, sent.symm ▸ received, received.trans ?_, fun all => ?_⟩
  · rw [sends.split, count, List.append_assoc, List.length_append]
    exact Nat.le_add_right _ _
  · rw [← sent]
    exact List.take_prefix _ _
  · rw [all, List.append_nil] at written
    rw [receives.received_eq, written, sent]

/-- However the writes and the reads are cut and in whatever order they are made: the messages that
the receiver has raised are the first ones that were enqueued, in that order, with their headers and
with their payloads in the memory of the receiver, and all of them have been sent; when everything
that was written has been read, they are the messages that have been sent. -/
theorem connection_framed {initial : Connection} {labels : List ConnectionLabel}
    (fresh : initial.Fresh x y)
    (guarded : (connectionSystem x y).Guarded (fun s label => label.Allowed x y s) initial labels)
    (execution : (connectionSystem x y).run initial labels = some s) :
    s.sent ≤ s.enqueued.length ∧ s.received <+: s.enqueued.take s.sent ∧
      s.received <+: s.enqueued ∧ (s.pipe = [] → s.received = s.enqueued.take s.sent) := by
  have preserved (before : Connection) (label : ConnectionLabel) (after : Connection)
      (framed : Framed x y before) (allowed : label.Allowed x y before)
      (stepped : (connectionSystem x y).step before label = some after) : Framed x y after :=
    framed.step stepped allowed
  exact (run_invariant_of_guarded preserved fresh.framed guarded execution).delivered

end Steps

/-- A command, and data that is found at address 64 and goes to address 256. -/
def twoMsgs : List NetMsg :=
  [{ NetMsg.new with extra := 9 },
    { NetMsg.new with msgType := 1, src := 64, dst := 256, extra := 3 }]

/-- A process whose memory is not empty. -/
def numbered : World := { (default : World) with memory := fun address => address.setWidth 8 }

theorem toOption_eq_some {ε α : Type*} {outcome : Except ε α} {value : α}
    (succeeds : outcome.toOption = some value) : outcome = .ok value := by
  cases outcome with
  | error fault => cases succeeds
  | ok other => rw [Option.some.inj succeeds]

/-- Two sockets in processes of their own. -/
def twoProcesses (w : World) : Connection := ⟨w, w, [], [], [], 0⟩

/-- Both messages, cut at other places when they are written than when they are read. -/
def shortTransfers : List ConnectionLabel :=
  twoMsgs.map .asyncSendMsg ++
    [.fdOut { writeHeader := .accepts 30 }, .fdIn {} (some 4, none),
      .fdOut { writeHeader := .fails EAGAIN }, .fdOut { writeHeader := .accepts 99 },
      .fdIn {} (some 99, none), .fdOut { writeHeader := .accepts 99, writePayload := .accepts 1 },
      .fdIn {} (none, none), .fdIn {} (some 99, some 0), .fdOut { writePayload := .accepts 5 },
      .fdIn {} (none, some 99)]

theorem shortTransfers_allowed :
    ∀ label ∈ shortTransfers, ∀ s, label.Allowed 1 1 s := by
  intro label member s
  obtain enqueued | moved := List.mem_append.mp member
  · obtain ⟨msg, listed, rfl⟩ := List.mem_map.mp enqueued
    have fit : ∀ msg ∈ twoMsgs, msg.Sized ∧ msg.Fits := by decide +kernel
    exact fit msg listed
  · simp only [List.mem_cons, List.not_mem_nil, or_false] at moved
    obtain rfl | rfl | rfl | rfl | rfl | rfl | rfl | rfl | rfl | rfl := moved <;>
      exact True.intro

theorem connection_framed_shortTransfers :
    ∃ w s, connectAndReceive numbered = .ok w ∧
      (connectionSystem 1 1).run (twoProcesses w) shortTransfers = some s ∧
        s.received.length = 2 ∧ s.received = s.enqueued.take s.sent := by
  have observed : (connectAndReceive numbered).toOption.any (fun w =>
      decide (Connected w 1 ∧ (w.sock 1).isOutBufBusy = false ∧ (w.sock 1).msgBufferQueue = [] ∧
        (w.sock 1).inOffset = 0) &&
      ((connectionSystem 1 1).run (twoProcesses w) shortTransfers).any fun s =>
        decide (s.pipe = [] ∧ s.received.length = 2)) = true := by
    decide +kernel
  obtain ⟨w, reached, observed⟩ := (Option.any_eq_true _ _).mp observed
  rw [Bool.and_eq_true, decide_eq_true_eq] at observed
  obtain ⟨⟨connected, busy, queue, in_offset⟩, observed⟩ := observed
  obtain ⟨s, execution, observed⟩ := (Option.any_eq_true _ _).mp observed
  obtain ⟨empty, two⟩ := of_decide_eq_true observed
  have fresh : (twoProcesses w).Fresh 1 1 :=
    ⟨connected, connected, busy, queue, in_offset, rfl, rfl, rfl, rfl⟩
  have framed := connection_framed fresh (guarded_of_forall shortTransfers_allowed _) execution
  exact ⟨w, s, toOption_eq_some reached, execution, two, framed.2.2.2 empty⟩

end Klibmsg
