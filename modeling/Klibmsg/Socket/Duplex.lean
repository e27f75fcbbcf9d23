import Klibmsg.Socket.Connection
import Klibmsg.Socket.Outcome

/-!
# A connection in both directions

Both sockets of a connection send and receive.  Each direction is a connection of its own, to which
the other one makes no difference: sending changes no memory, and receiving stores payloads only
where the headers of the peer say, which is not where unsent messages have their payloads.
-/

namespace Klibmsg

open StepSystem

/-- The two ends of a connection. -/
inductive Side where
  | left
  | right
deriving DecidableEq, Repr

def Side.other : Side → Side
  | left => right
  | right => left

@[simp]
theorem Side.other_other (a : Side) : a.other.other = a := by cases a <;> rfl

theorem Side.other_ne (a : Side) : a.other ≠ a := by cases a <;> decide

theorem Side.eq_or_other (a b : Side) : b = a ∨ b = a.other := by
  cases a <;> cases b <;> decide

/-- One end, with the messages that its users have enqueued and that it has raised as received. -/
structure Endpoint where
  world : World
  enqueued : List (NetMsg × List Byte)
  received : List (NetMsg × List Byte)
  sent : Nat

/-- Both ends, and the bytes on the way to each of them. -/
structure Duplex where
  endpoint : Side → Endpoint
  pipe : Side → List Byte

/-- What happens at one end. -/
inductive EndpointLabel where
  | asyncSendMsg (msg : NetMsg)
  | fdOut (sys : Sys)
  | fdIn (sys : Sys) (segments : Option Nat × Option Nat)
  | task (name : TaskName) (sys : Sys)

namespace Duplex

/-- The direction in which one side sends. -/
def direction (s : Duplex) (a : Side) : Connection where
  sender := (s.endpoint a).world
  receiver := (s.endpoint a.other).world
  pipe := s.pipe a.other
  enqueued := (s.endpoint a).enqueued
  received := (s.endpoint a.other).received
  sent := (s.endpoint a).sent

/-- Replace the direction in which one side sends. -/
def setDirection (s : Duplex) (a : Side) (c : Connection) : Duplex where
  endpoint b :=
    if b = a then
      { s.endpoint b with world := c.sender, enqueued := c.enqueued, sent := c.sent }
    else { s.endpoint b with world := c.receiver, received := c.received }
  pipe := Function.update s.pipe a.other c.pipe

/-- Replace the process of one side. -/
def setWorld (s : Duplex) (a : Side) (w : World) : Duplex :=
  { s with endpoint := Function.update s.endpoint a { s.endpoint a with world := w } }

/-- A step of the direction in which one side sends. -/
def along (sock : Side → SockId) (s : Duplex) (a : Side) (label : ConnectionLabel) :
    Option Duplex :=
  ((connectionSystem (sock a) (sock a.other)).step (s.direction a) label).map (s.setDirection a)

/-- The runs of a connection whose ends are the sockets `sock`. -/
def system (sock : Side → SockId) : StepSystem Duplex (Side × EndpointLabel) where
  step s
    | (a, .asyncSendMsg msg) => s.along sock a (.asyncSendMsg msg)
    | (a, .fdOut sys) => s.along sock a (.fdOut sys)
    | (a, .fdIn sys segments) => s.along sock a.other (.fdIn sys segments)
    | (a, .task name sys) =>
        match feed sys (sock a) name.src kNetWorkerTaskExecute (s.endpoint a).world with
        | .error _ => none
        | .ok w => some (s.setWorld a w)

end Duplex

/-- Where the two processes keep what they send and what they receive. -/
structure DuplexLayout where
  token2Dptr : Side → Token → Address
  sources : Side → Set Address
  sinks : Side → Set Address
  separate : ∀ a address, address ∈ sources a → address ∉ sinks a

/-- The payload of a message lies in some places. -/
def NetMsg.PayloadIn (msg : NetMsg) (address : Address) (places : Set Address) : Prop :=
  ∀ index < msg.payloadLen, address + BitVec.ofNat 64 index ∈ places

/-- Messages fit the offsets and take their payloads from places where none are stored; the stop
task is not due. -/
def EndpointLabel.Allowed (layout : DuplexLayout) (a : Side) : EndpointLabel → Prop
  | asyncSendMsg msg =>
      msg.Sized ∧ msg.Fits ∧ msg.PayloadIn msg.src (layout.sources a) ∧
        msg.PayloadIn (layout.token2Dptr a.other msg.dst) (layout.sinks a.other)
  | fdOut _ => True
  | fdIn _ _ => True
  | task name _ => name ≠ .stop

/-- A connection on which nothing has been sent in either direction. -/
structure Duplex.Fresh (layout : DuplexLayout) (sock : Side → SockId) (s : Duplex) : Prop where
  direction : ∀ a, (s.direction a).Fresh (sock a) (sock a.other)
  token2Dptr : ∀ a, (s.endpoint a).world.device.token2Dptr = layout.token2Dptr a

/-! ## What a step leaves alone -/

section Frames

variable {x : SockId} {sys : Sys} {w middle w' : World}

/-- The outgoing side of a connection is not changed. -/
structure KeepsOutgoing (x : SockId) (w w' : World) : Prop where
  connected : Connected w' x
  outBuf : (w'.sock x).outBuf = (w.sock x).outBuf
  outOffset : (w'.sock x).outOffset = (w.sock x).outOffset
  busy : (w'.sock x).isOutBufBusy = (w.sock x).isOutBufBusy
  queue : (w'.sock x).msgBufferQueue = (w.sock x).msgBufferQueue

/-- The incoming side of a connection and the memory are not changed. -/
structure KeepsIncoming (x : SockId) (w w' : World) : Prop where
  connected : Connected w' x
  inBuf : (w'.sock x).inBuf = (w.sock x).inBuf
  inOffset : (w'.sock x).inOffset = (w.sock x).inOffset
  memory_eq : w'.memory = w.memory
  device_eq : w'.device = w.device

theorem KeepsOutgoing.trans (first : KeepsOutgoing x w middle)
    (second : KeepsOutgoing x middle w') : KeepsOutgoing x w w' :=
  ⟨second.connected, second.outBuf.trans first.outBuf, second.outOffset.trans first.outOffset,
    second.busy.trans first.busy, second.queue.trans first.queue⟩

theorem KeepsIncoming.trans (first : KeepsIncoming x w middle)
    (second : KeepsIncoming x middle w') : KeepsIncoming x w w' :=
  ⟨second.connected, second.inBuf.trans first.inBuf, second.inOffset.trans first.inOffset,
    second.memory_eq.trans first.memory_eq, second.device_eq.trans first.device_eq⟩

theorem KeepsIncoming.keepsReceiving (keeps : KeepsIncoming x w w') : KeepsReceiving x w w' := by
  refine ⟨keeps.connected, keeps.inBuf, keeps.inOffset, ?_, ?_⟩
  · rw [keeps.memory_eq, keeps.device_eq]
  · rw [keeps.device_eq]

theorem KeepsOutgoing.keepsSending (keeps : KeepsOutgoing x w w')
    (source : ∀ msg ∈ (w.sock x).unsent,
      frameAt w'.memory msg msg.src = frameAt w.memory msg msg.src) : KeepsSending x w w' :=
  ⟨keeps.connected, keeps.outBuf, keeps.outOffset, keeps.busy, keeps.queue, source⟩

theorem Connected.of_sock (connected : Connected w x) {sock : NetSocket}
    (sock_eq : w'.sock x = sock) (state : sock.state = (w.sock x).state)
    (fsm : sock.fsm = (w.sock x).fsm) (freed : w'.freed = w.freed) : Connected w' x := by
  refine ⟨?_, ?_, freed ▸ connected.alive⟩
  · rw [sock_eq, state]
    exact connected.active
  · rw [sock_eq, fsm]
    exact connected.running

/-- A change of the registration. -/
theorem keeps_setHandle (connected : Connected w x)
    (result : NetPollerHandle × NetPoller Handle) (calls : List SysCall) :
    KeepsOutgoing x w ((w.setHandle x result).logCalls calls) ∧
      KeepsIncoming x w ((w.setHandle x result).logCalls calls) := by
  have sock : ((w.setHandle x result).logCalls calls).sock x =
      { w.sock x with wfd := result.1 } := by simp [World.setHandle]
  have connected' := connected.of_sock sock rfl rfl (show _ = w.freed from rfl)
  exact ⟨⟨connected', by rw [sock], by rw [sock], by rw [sock], by rw [sock]⟩,
    ⟨connected', by rw [sock], by rw [sock], rfl, rfl⟩⟩

/-- An internal task changes the registration only. -/
theorem keeps_internalTask (connected : Connected w x) (name : TaskName) :
    KeepsOutgoing x w (w.internalTask x name) ∧ KeepsIncoming x w (w.internalTask x name) := by
  cases name with
  | send => exact keeps_setHandle connected _ _
  | recv => exact keeps_setHandle connected _ _
  | connected => exact keeps_setHandle connected _ _
  | connecting =>
      obtain ⟨outgoing, incoming⟩ := keeps_setHandle connected _ _
      obtain ⟨outgoing', incoming'⟩ := keeps_setHandle outgoing.connected _ _
      exact ⟨outgoing.trans outgoing', incoming.trans incoming'⟩
  | accept =>
      obtain ⟨outgoing, incoming⟩ := keeps_setHandle connected _ _
      obtain ⟨outgoing', incoming'⟩ := keeps_setHandle outgoing.connected _ _
      exact ⟨outgoing.trans outgoing', incoming.trans incoming'⟩
  | stop =>
      exact ⟨⟨connected, rfl, rfl, rfl, rfl⟩, ⟨connected, rfl, rfl, rfl, rfl⟩⟩

theorem keepsIncoming_modify (connected : Connected w x) {change : NetSocket → NetSocket}
    (state : (change (w.sock x)).state = (w.sock x).state)
    (fsm : (change (w.sock x)).fsm = (w.sock x).fsm)
    (in_buf : (change (w.sock x)).inBuf = (w.sock x).inBuf)
    (in_offset : (change (w.sock x)).inOffset = (w.sock x).inOffset) :
    KeepsIncoming x w (w.modify x change) := by
  have sock := w.sock_modify_self x change
  exact ⟨connected.of_sock sock state fsm rfl, by rw [sock, in_buf], by rw [sock, in_offset], rfl,
    rfl⟩

theorem keepsIncoming_raise (connected : Connected w x) (name : EventName) (type : Int)
    (srcptr : Pointer) : KeepsIncoming x w (w.raise x name type srcptr) := by
  obtain ⟨_, _, others⟩ := w.raise_others x name type srcptr
  refine ⟨connected.raise _ _ _, ?_, ?_, memory_raise w x name type srcptr, by rw [others]⟩
  · rw [World.sock_raise_self]
  · rw [World.sock_raise_self]

/-- Enqueueing leaves the incoming side alone. -/
theorem keepsIncoming_asyncSendMsg (connected : Connected w x) (msg : NetMsg) :
    KeepsIncoming x w (w.asyncSendMsg x msg) := by
  have sock : (w.asyncSendMsg x msg).sock x =
      { w.sock x with
        msgBufferQueue := (w.sock x).msgBufferQueue ++ [msg]
        task := Function.update (w.sock x).task .send true } := by
    rw [World.asyncSendMsg, World.sock_execute_self, World.pushMsg, World.sock_modify_self]
  refine ⟨connected.of_sock sock rfl rfl (World.freed_execute _ _), by rw [sock], by rw [sock],
    World.memory_execute _ _, World.device_execute _ _⟩

/-- `SendRaw` changes an offset. -/
theorem sendRaw_offset (header payload : WriteReply) (sock : NetSocket) (memory : Memory) :
    (∃ offset, (sock.sendRaw header payload memory).sock = { sock with outOffset := offset }) ∧
      (sock.sendRaw header payload memory).memory = memory := by
  unfold NetSocket.sendRaw NetSocket.sendPayload NetSocket.sendFinish
  dsimp only
  split_ifs <;> exact ⟨⟨_, rfl⟩, rfl⟩

theorem keepsIncoming_activeFdOutBusy (connected : Connected w x)
    (done : activeFdOutBusy x sys w = .ok w') : KeepsIncoming x w w' := by
  obtain ⟨⟨offset, sock_eq⟩, memory_eq⟩ :=
    sendRaw_offset sys.writeHeader sys.writePayload (w.sock x) w.memory
  simp only [activeFdOutBusy] at done
  generalize (w.sock x).sendRaw sys.writeHeader sys.writePayload w.memory = transfer
    at done sock_eq memory_eq
  have sock : (w.applyTransfer x transfer).sock x = { w.sock x with outOffset := offset } :=
    (sock_applyTransfer w x transfer).trans sock_eq
  have applied : KeepsIncoming x w (w.applyTransfer x transfer) :=
    ⟨connected.of_sock sock rfl rfl rfl, by rw [sock], by rw [sock], memory_eq, rfl⟩
  split_ifs at done <;> cases done
  · have idle : KeepsIncoming x (w.applyTransfer x transfer)
        ((w.applyTransfer x transfer).modify x fun sock => { sock with isOutBufBusy := false }) :=
      keepsIncoming_modify applied.connected rfl rfl rfl rfl
    exact (applied.trans idle).trans (keepsIncoming_raise idle.connected _ _ _)
  · exact applied
  · exact applied

/-- Handling a writable descriptor leaves the incoming side alone. -/
theorem keepsIncoming_activeFdOut (connected : Connected w x)
    (done : activeFdOut x sys w = .ok w') : KeepsIncoming x w w' := by
  simp only [activeFdOut] at done
  split_ifs at done
  · exact keepsIncoming_activeFdOutBusy connected done
  · split at done
    next sock dequeued =>
      simp only [NetSocket.dequeueNetMsgToBuf] at dequeued
      split at dequeued
      next => cases dequeued
      next msg rest queue =>
        cases dequeued
        refine KeepsIncoming.trans ?_ (keepsIncoming_activeFdOutBusy ?_ done)
        · exact keepsIncoming_modify connected rfl rfl rfl rfl
        · exact (keepsIncoming_modify connected rfl rfl rfl rfl).connected
    next =>
      obtain ⟨result, _, returned⟩ := bind_eq_ok.mp done
      cases returned
      exact (keeps_setHandle connected _ _).2

/-- `RecvRaw` changes the buffer, the offset and the memory. -/
theorem recvRaw_incoming (token2Dptr : Token → Address) (header payload : ReadReply)
    (sock : NetSocket) (memory : Memory) :
    ∃ inBuf inOffset, (sock.recvRaw token2Dptr header payload memory).sock =
      { sock with inBuf := inBuf, inOffset := inOffset } := by
  unfold NetSocket.recvRaw NetSocket.recvPayload NetSocket.recvFinish
  dsimp only
  split_ifs <;> exact ⟨_, _, rfl⟩

/-- Handling a readable descriptor leaves the outgoing side alone. -/
theorem keepsOutgoing_activeFdIn (connected : Connected w x)
    (done : activeFdIn x sys w = .ok w') : KeepsOutgoing x w w' := by
  obtain ⟨inBuf, inOffset, sock_eq⟩ :=
    recvRaw_incoming w.device.token2Dptr sys.readHeader sys.readPayload (w.sock x) w.memory
  simp only [activeFdIn] at done
  generalize (w.sock x).recvRaw w.device.token2Dptr sys.readHeader sys.readPayload w.memory =
    transfer at done sock_eq
  have sock : (w.applyTransfer x transfer).sock x =
      { w.sock x with inBuf := inBuf, inOffset := inOffset } :=
    (sock_applyTransfer w x transfer).trans sock_eq
  have applied : KeepsOutgoing x w (w.applyTransfer x transfer) :=
    ⟨connected.of_sock sock rfl rfl rfl, by rw [sock], by rw [sock], by rw [sock], by rw [sock]⟩
  split_ifs at done <;> cases done
  · refine applied.trans ⟨applied.connected.raise _ _ _, ?_, ?_, ?_, ?_⟩
    · rw [World.sock_raise_self]
    · rw [World.sock_raise_self]
    · rw [World.sock_raise_self]
    · rw [World.sock_raise_self]
  · exact applied
  · exact applied

/-- A call of `RecvRaw` stores bytes only where the header says. -/
theorem Advances.memory_outside {token2Dptr : Token → Address} {sock : NetSocket}
    {memory : Memory} {before got : List Byte} {transfer : Transfer} {location : Address}
    (advances : Advances token2Dptr sock memory before got transfer)
    (outside : NetMsg.size ≤ got.length → ∀ index < (NetMsg.decode got).payloadLen,
      location ≠ token2Dptr (NetMsg.decode got).dst + BitVec.ofNat 64 index) :
    transfer.memory location = memory location := by
  rw [advances.memory_eq]
  refine Memory.write_of_ne _ _ fun index index_lt => ?_
  rw [List.length_drop] at index_lt
  have enough : NetMsg.size ≤ got.length := by omega
  have inside : got.length ≤ NetMsg.size + (NetMsg.decode got).payloadLen := by
    obtain ⟨-, -, -, exact⟩ | ⟨-, holding⟩ := advances.outcome
    · exact exact.le
    · exact (holding.unfinished enough).le
  rw [BitVec.add_assoc, ← BitVec.ofNat_add]
  exact outside enough _ (by omega)

end Frames

/-! ## Both directions -/

namespace Duplex

variable {sock : Side → SockId} {s s' : Duplex} {a : Side} {c : Connection}

@[simp]
theorem direction_setDirection : (s.setDirection a c).direction a = c := by
  simp [direction, setDirection, Side.other_ne]

@[simp]
theorem direction_setDirection_other :
    (s.setDirection a c).direction a.other =
      { s.direction a.other with sender := c.receiver, receiver := c.sender } := by
  simp [direction, setDirection, Side.other_ne, Ne.symm (Side.other_ne a)]

@[simp]
theorem direction_setWorld {w : World} :
    (s.setWorld a w).direction a = { s.direction a with sender := w } := by
  simp [direction, setWorld, Side.other_ne]

@[simp]
theorem direction_setWorld_other {w : World} :
    (s.setWorld a w).direction a.other = { s.direction a.other with receiver := w } := by
  simp [direction, setWorld, Side.other_ne]

end Duplex

/-- A direction is a framed connection whose payloads lie where the layout says. -/
structure Flows (layout : DuplexLayout) (sock : Side → SockId) (a b : Side) (c : Connection) :
    Prop where
  framed : Framed (sock a) (sock b) c
  sender : c.sender.device.token2Dptr = layout.token2Dptr a
  receiver : c.receiver.device.token2Dptr = layout.token2Dptr b
  placed : ∀ frame ∈ c.enqueued, frame.1.PayloadIn frame.1.src (layout.sources a) ∧
    frame.1.PayloadIn (layout.token2Dptr b frame.1.dst) (layout.sinks b)

section Directions

variable {layout : DuplexLayout} {sock : Side → SockId} {a b : Side} {c c' : Connection}
  {w : World}

theorem Framed.connected (framed : Framed (sock a) (sock b) c) :
    Connected c.sender (sock a) ∧ Connected c.receiver (sock b) := by
  obtain ⟨_, _, _, _, _, sends, receives, _⟩ := framed
  exact ⟨sends.connected, receives.connected⟩

/-- The receiving process does something that leaves the connection alone. -/
theorem Flows.keepsIncoming (flows : Flows layout sock a b c)
    (keeps : KeepsIncoming (sock b) c.receiver w) :
    Flows layout sock a b { c with receiver := w } :=
  have stepped : (connectionSystem (sock a) (sock b)).step c (.receiver w) =
      some { c with receiver := w } := rfl
  ⟨flows.framed.step stepped keeps.keepsReceiving, flows.sender,
    (congrArg NetDevice.token2Dptr keeps.device_eq).trans flows.receiver, flows.placed⟩

/-- The sending process does something that leaves the connection and the sources alone. -/
theorem Flows.keepsOutgoing (flows : Flows layout sock a b c)
    (keeps : KeepsOutgoing (sock a) c.sender w) (device_eq : w.device = c.sender.device)
    (memory_eq : ∀ location ∈ layout.sources a, w.memory location = c.sender.memory location) :
    Flows layout sock a b { c with sender := w } := by
  have unchanged : ∀ msg ∈ (c.sender.sock (sock a)).unsent,
      frameAt w.memory msg msg.src = frameAt c.sender.memory msg msg.src := by
    obtain ⟨_, _, _, _, _, sends, -, -, -⟩ := flows.framed
    intro msg member
    rw [sends.unsent_eq] at member
    obtain ⟨frame, listed, rfl⟩ := List.mem_map.mp member
    have placed := (flows.placed frame (by
      rw [sends.split, List.append_assoc]
      exact List.mem_append_right _ listed)).1
    rw [frameAt, frameAt, Memory.read_congr fun index inside => memory_eq _ (placed index inside)]
  have stepped : (connectionSystem (sock a) (sock b)).step c (.sender w) =
      some { c with sender := w } := rfl
  exact ⟨flows.framed.step stepped (keeps.keepsSending unchanged),
    (congrArg NetDevice.token2Dptr device_eq).trans flows.sender, flows.receiver, flows.placed⟩

theorem Flows.asyncSendMsg {msg : NetMsg} (flows : Flows layout sock a b c)
    (sized : msg.Sized) (fits : msg.Fits) (source : msg.PayloadIn msg.src (layout.sources a))
    (sink : msg.PayloadIn (layout.token2Dptr b msg.dst) (layout.sinks b))
    (stepped : (connectionSystem (sock a) (sock b)).step c (.asyncSendMsg msg) = some c') :
    Flows layout sock a b c' ∧ c'.receiver = c.receiver ∧
      KeepsIncoming (sock a) c.sender c'.sender := by
  have framed := flows.framed.step stepped ⟨sized, fits⟩
  cases stepped
  have incoming := keepsIncoming_asyncSendMsg flows.framed.connected.1 msg
  refine ⟨⟨framed, ?_, flows.receiver, fun frame member => ?_⟩, rfl, incoming⟩
  · exact (congrArg NetDevice.token2Dptr incoming.device_eq).trans flows.sender
  · obtain old | new := List.mem_append.mp member
    · exact flows.placed frame old
    · cases List.mem_singleton.mp new
      exact ⟨source, sink⟩

theorem Flows.fdOut {sys : Sys} (flows : Flows layout sock a b c)
    (stepped : (connectionSystem (sock a) (sock b)).step c (.fdOut sys) = some c') :
    Flows layout sock a b c' ∧ c'.receiver = c.receiver ∧
      KeepsIncoming (sock a) c.sender c'.sender := by
  have framed := flows.framed.step stepped trivial
  have connected := flows.framed.connected.1
  obtain ⟨w, fed, rfl⟩ := connectionSystem_fdOut stepped
  have incoming := keepsIncoming_activeFdOut connected (connected.feedFdOut.symm.trans fed)
  exact ⟨⟨framed, (congrArg NetDevice.token2Dptr incoming.device_eq).trans flows.sender,
    flows.receiver, flows.placed⟩, rfl, incoming⟩

/-- Reading stores payloads in the sinks only. -/
theorem Flows.fdIn {sys : Sys} {segments : Option Nat × Option Nat}
    (flows : Flows layout sock a b c)
    (stepped : (connectionSystem (sock a) (sock b)).step c (.fdIn sys segments) = some c') :
    Flows layout sock a b c' ∧ c'.sender = c.sender ∧
      KeepsOutgoing (sock b) c.receiver c'.receiver ∧ c'.receiver.device = c.receiver.device ∧
        ∀ location ∈ layout.sources b,
          c'.receiver.memory location = c.receiver.memory location := by
  have framed := flows.framed.step stepped trivial
  have connected := flows.framed.connected.2
  obtain ⟨w, fed, rfl⟩ := connectionSystem_fdIn stepped
  have done := connected.feedFdIn.symm.trans fed
  obtain ⟨finished, current, rest, begun, consumed, sends, receives, bytes, -⟩ := flows.framed
  obtain ⟨_, transfer, taken, handled, -, -, receiving⟩ :=
    receives.receiving (bytes ▸ sends.fits_written) sys segments
  cases handled.symm.trans done
  obtain ⟨-, memory_eq, device_eq, -⟩ := receiving.after connected
  refine ⟨⟨framed, flows.sender, (congrArg NetDevice.token2Dptr device_eq).trans flows.receiver,
    flows.placed⟩, rfl, keepsOutgoing_activeFdIn connected done, device_eq, ?_⟩
  intro location isSource
  change w.memory location = _
  rw [memory_eq]
  refine receiving.advances.memory_outside fun enough index inside same => ?_
  obtain ⟨frame, listed, header⟩ := sends.headers_written _ (bytes ▸ receiving.header enough)
  have isSink := (flows.placed frame listed).2 index (by rw [header]; exact inside)
  rw [header, ← flows.receiver, ← same] at isSink
  exact layout.separate b _ isSource isSink

end Directions

namespace Duplex

variable {layout : DuplexLayout} {sock : Side → SockId} {s s' : Duplex} {a : Side}

/-- Both directions flow. -/
def Holds (layout : DuplexLayout) (sock : Side → SockId) (s : Duplex) : Prop :=
  ∀ a, Flows layout sock a a.other (s.direction a)

theorem holds_setDirection {c : Connection} (here : Flows layout sock a a.other c)
    (there : Flows layout sock a.other a
      { s.direction a.other with sender := c.receiver, receiver := c.sender }) :
    (s.setDirection a c).Holds layout sock := by
  intro b
  obtain rfl | rfl := a.eq_or_other b
  · rw [direction_setDirection]
    exact here
  · rw [direction_setDirection_other, Side.other_other]
    exact there

theorem holds_setWorld {w : World}
    (here : Flows layout sock a a.other { s.direction a with sender := w })
    (there : Flows layout sock a.other a { s.direction a.other with receiver := w }) :
    (s.setWorld a w).Holds layout sock := by
  intro b
  obtain rfl | rfl := a.eq_or_other b
  · rw [direction_setWorld]
    exact here
  · rw [direction_setWorld_other, Side.other_other]
    exact there

theorem along_eq_some {label : ConnectionLabel} (stepped : s.along sock a label = some s') :
    ∃ c, (connectionSystem (sock a) (sock a.other)).step (s.direction a) label = some c ∧
      s' = s.setDirection a c := by
  obtain ⟨c, moved, same⟩ := Option.map_eq_some_iff.mp stepped
  exact ⟨c, moved, same.symm⟩

/-- The process that sends in one direction receives in the other one. -/
theorem receiver_other (s : Duplex) (a : Side) :
    (s.direction a.other).receiver = (s.direction a).sender := by
  simp [direction]

theorem Holds.back (holds : s.Holds layout sock) (a : Side) :
    Flows layout sock a.other a (s.direction a.other) := by
  have there := holds a.other
  rwa [Side.other_other] at there

theorem Holds.step {label : EndpointLabel} (holds : s.Holds layout sock)
    (allowed : label.Allowed layout a) (stepped : (system sock).step s (a, label) = some s') :
    s'.Holds layout sock := by
  have here := holds a
  have there := holds.back a
  cases label with
  | asyncSendMsg msg =>
      obtain ⟨sized, fits, source, sink⟩ := allowed
      have moving : s.along sock a (.asyncSendMsg msg) = some s' := stepped
      obtain ⟨c, moved, rfl⟩ := along_eq_some moving
      obtain ⟨flows, receiver, incoming⟩ := here.asyncSendMsg sized fits source sink moved
      refine holds_setDirection flows ?_
      rw [receiver]
      exact there.keepsIncoming (s.receiver_other a ▸ incoming)
  | fdOut sys =>
      have moving : s.along sock a (.fdOut sys) = some s' := stepped
      obtain ⟨c, moved, rfl⟩ := along_eq_some moving
      obtain ⟨flows, receiver, incoming⟩ := here.fdOut moved
      refine holds_setDirection flows ?_
      rw [receiver]
      exact there.keepsIncoming (s.receiver_other a ▸ incoming)
  | fdIn sys segments =>
      have moving : s.along sock a.other (.fdIn sys segments) = some s' := stepped
      obtain ⟨c, moved, rfl⟩ := along_eq_some moving
      rw [Side.other_other] at moved
      obtain ⟨flows, sender, outgoing, device_eq, memory_eq⟩ := there.fdIn moved
      rw [s.receiver_other a] at outgoing device_eq memory_eq
      refine holds_setDirection (by rw [Side.other_other]; exact flows) ?_
      rw [Side.other_other, sender]
      exact here.keepsOutgoing outgoing device_eq memory_eq
  | task name sys =>
      have connected := here.framed.connected.1
      obtain ⟨outgoing, incoming⟩ := keeps_internalTask connected name
      have fed : feed sys (sock a) name.src kNetWorkerTaskExecute (s.endpoint a).world =
          .ok ((s.direction a).sender.internalTask (sock a) name) :=
        feed_task connected.alive allowed
      simp only [system, fed] at stepped
      cases stepped
      refine holds_setWorld ?_ ?_
      · exact here.keepsOutgoing outgoing incoming.device_eq fun _ _ => by rw [incoming.memory_eq]
      · exact there.keepsIncoming (s.receiver_other a ▸ incoming)

theorem Fresh.holds (fresh : s.Fresh layout sock) : s.Holds layout sock := by
  intro a
  refine ⟨(fresh.direction a).framed, fresh.token2Dptr a, fresh.token2Dptr a.other, ?_⟩
  rw [(fresh.direction a).enqueued]
  rintro _ ⟨⟩

/-- Two sockets that send to each other, with any interleaving of what happens at both ends and any
segmentation in both directions: each end has raised the first messages that the other one has
enqueued, in that order, with their headers and payloads, and when nothing is on the way to it, all
that the other one has sent. -/
theorem duplex_framed {initial : Duplex} {labels : List (Side × EndpointLabel)}
    (fresh : initial.Fresh layout sock) (allowed : ∀ label ∈ labels, label.2.Allowed layout label.1)
    (execution : (system sock).run initial labels = some s) (a : Side) :
    (s.endpoint a.other).received <+: (s.endpoint a).enqueued.take (s.endpoint a).sent ∧
      (s.endpoint a).sent ≤ (s.endpoint a).enqueued.length ∧
        (s.pipe a.other = [] →
          (s.endpoint a.other).received = (s.endpoint a).enqueued.take (s.endpoint a).sent) := by
  have preserved (before : Duplex) (label : Side × EndpointLabel) (after : Duplex)
      (holds : before.Holds layout sock) (permitted : label.2.Allowed layout label.1)
      (stepped : (system sock).step before label = some after) : after.Holds layout sock :=
    holds.step permitted stepped
  have guarded : (system sock).Guarded (fun _ label => label.2.Allowed layout label.1) initial
      labels := guarded_of_forall (fun label member _ => allowed label member) initial
  have holds := run_invariant_of_guarded preserved fresh.holds guarded execution
  obtain ⟨sent, received, -, all⟩ := (holds a).framed.delivered
  exact ⟨received, sent, all⟩

/-- The same process at both ends. -/
def mirrored (w : World) : Duplex := ⟨fun _ => ⟨w, [], [], 0⟩, fun _ => []⟩

/-- Payloads are stored below address 64 and taken from above. -/
def halves (w : World) : DuplexLayout where
  token2Dptr _ := w.device.token2Dptr
  sources _ := { location | 64 ≤ location }
  sinks _ := { location | location < 64 }
  separate _ _ high low := BitVec.not_lt.mpr high low

/-- Both ends send two messages; the right one reads while its own frame is cut. -/
def bothSend : List (Side × EndpointLabel) :=
  twoMsgs.map (fun msg => (.left, .asyncSendMsg msg)) ++
    twoMsgs.map (fun msg => (.right, .asyncSendMsg msg)) ++
    [(.left, .task .send {}), (.left, .fdOut { writeHeader := .accepts 99 }),
      (.right, .fdOut { writeHeader := .accepts 99 }),
      (.right, .fdOut { writeHeader := .accepts 20 }), (.right, .fdIn {} (some 9, none)),
      (.left, .fdOut { writeHeader := .accepts 99, writePayload := .accepts 99 }),
      (.right, .fdIn {} (some 99, none)), (.right, .fdIn {} (some 99, some 1)),
      (.right, .fdOut { writeHeader := .accepts 99, writePayload := .accepts 99 }),
      (.right, .fdIn {} (none, some 1))]

theorem duplex_framed_bothSend :
    ∃ w s, connectAndReceive numbered = .ok w ∧
      (system fun _ => 1).run (mirrored w) bothSend = some s ∧
        (s.endpoint .right).received.length = 2 ∧
          (s.endpoint .right).received =
            (s.endpoint .left).enqueued.take (s.endpoint .left).sent := by
  have observed : (connectAndReceive numbered).toOption.any (fun w =>
      decide (Connected w 1 ∧ (w.sock 1).isOutBufBusy = false ∧ (w.sock 1).msgBufferQueue = [] ∧
        (w.sock 1).inOffset = 0 ∧ w.device.token2Dptr 256 = 0) &&
      ((system fun _ => 1).run (mirrored w) bothSend).any fun s =>
        s.pipe .right = [] && (s.endpoint .right).received.length = 2) = true := by
    decide +kernel
  obtain ⟨w, reached, observed⟩ := (Option.any_eq_true _ _).mp observed
  rw [Bool.and_eq_true, decide_eq_true_eq] at observed
  obtain ⟨⟨connected, busy, queue, in_offset, sink⟩, observed⟩ := observed
  obtain ⟨s, execution, observed⟩ := (Option.any_eq_true _ _).mp observed
  rw [Bool.and_eq_true, decide_eq_true_eq, decide_eq_true_eq] at observed
  have fresh : (mirrored w).Fresh (halves w) fun _ => 1 :=
    ⟨fun _ => ⟨connected, connected, busy, queue, in_offset, rfl, rfl, rfl, rfl⟩, fun _ => rfl⟩
  have permitted : ∀ msg ∈ twoMsgs, ∀ a,
      EndpointLabel.Allowed (halves w) a (.asyncSendMsg msg) := by
    have fit : ∀ msg ∈ twoMsgs, msg.Sized ∧ msg.Fits ∧
        (∀ index < msg.payloadLen, 64 ≤ msg.src + BitVec.ofNat 64 index) ∧
          (0 < msg.payloadLen → msg.dst = 256) ∧ msg.payloadLen < 64 := by decide +kernel
    intro msg listed a
    obtain ⟨sized, fits, source, target, short⟩ := fit msg listed
    refine ⟨sized, fits, source, fun index inside => ?_⟩
    change w.device.token2Dptr msg.dst + BitVec.ofNat 64 index < 64
    rw [target (by omega), sink]
    bv_omega
  have allowed : ∀ label ∈ bothSend, label.2.Allowed (halves w) label.1 := by
    intro label member
    simp only [bothSend, List.mem_append, List.mem_map] at member
    obtain (⟨msg, listed, rfl⟩ | ⟨msg, listed, rfl⟩) | moved := member
    · exact permitted msg listed _
    · exact permitted msg listed _
    · simp only [List.mem_cons, List.not_mem_nil, or_false] at moved
      obtain rfl | rfl | rfl | rfl | rfl | rfl | rfl | rfl | rfl | rfl := moved <;>
        first | exact True.intro | exact TaskName.noConfusion
  have framed := duplex_framed fresh allowed execution .left
  exact ⟨w, s, toOption_eq_some reached, execution, observed.2, framed.2.2 observed.1⟩

end Duplex

end Klibmsg
