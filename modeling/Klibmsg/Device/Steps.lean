import Klibmsg.Socket.Steps

/-!
# What the device's own code can do

`SendMsg` and the functions that call it are sequences of socket steps and of a few changes of the
device's tables.  Socket steps leave the tables, the addresses of sockets and the callbacks alone.
-/

namespace Klibmsg

/-- The callback that an effect hands to the completion queue. -/
def Effect.callback : Effect → Option Callback
  | sendCallback callback => some callback
  | _ => none

/-- The callbacks that were handed to the completion queue, in order. -/
def sentCallbacks (trace : List Effect) : List Callback := trace.filterMap Effect.callback

@[simp]
theorem sentCallbacks_append (left right : List Effect) :
    sentCallbacks (left ++ right) = sentCallbacks left ++ sentCallbacks right :=
  List.filterMap_append

/-- A callback that was sent is among the loud effects. -/
theorem sentCallbacks_loud (trace : List Effect) :
    sentCallbacks (trace.filter Effect.isLoud) = sentCallbacks trace := by
  rw [sentCallbacks, List.filterMap_filter, sentCallbacks]
  congr 1
  funext effect
  cases effect <;> rfl

/-- A change that the device's tables and the addresses of sockets do not see. -/
structure World.SameDevice (w w' : World) : Prop where
  device_eq : w'.device = w.device
  nextSock_eq : w'.nextSock = w.nextSock
  freed_eq : w'.freed = w.freed
  ipAddr_eq : ∀ y, (w'.sock y).ipAddr = (w.sock y).ipAddr
  sent_eq : sentCallbacks w'.trace = sentCallbacks w.trace

namespace World.SameDevice

theorem refl (w : World) : SameDevice w w := ⟨rfl, rfl, rfl, fun _ => rfl, rfl⟩

theorem trans {w middle w' : World} (first : SameDevice w middle)
    (second : SameDevice middle w') : SameDevice w w' :=
  ⟨second.device_eq.trans first.device_eq, second.nextSock_eq.trans first.nextSock_eq,
    second.freed_eq.trans first.freed_eq,
    fun y => (second.ipAddr_eq y).trans (first.ipAddr_eq y),
    second.sent_eq.trans first.sent_eq⟩

theorem of_quiet {w w' : World} (quiet : Quiet w w') : SameDevice w w' := by
  have same := quiet.view_eq
  refine ⟨congrArg EventView.device same, congrArg EventView.nextSock same,
    congrArg EventView.freed same, fun y => congrFun (congrArg EventView.ipAddr same) y, ?_⟩
  have loud : w'.trace.filter Effect.isLoud = w.trace.filter Effect.isLoud :=
    congrArg EventView.loud same
  rw [← sentCallbacks_loud, loud, sentCallbacks_loud]

theorem modify (w : World) (x : SockId) (change : NetSocket → NetSocket)
    (same : (change (w.sock x)).ipAddr = (w.sock x).ipAddr) : SameDevice w (w.modify x change) := by
  refine ⟨rfl, rfl, rfl, fun y => ?_, rfl⟩
  by_cases equal : y = x
  · subst equal
    simpa using same
  · simp [Function.update_of_ne equal]

theorem setEvent (w : World) (event : EventId) (change : NetFsmEvent → NetFsmEvent) :
    SameDevice w (w.setEvent event change) := modify w event.sock _ rfl

theorem log_raise (w : World) (event : EventId) (payload : Payload) :
    SameDevice w (w.log (.raise event payload)) :=
  ⟨rfl, rfl, rfl, fun _ => rfl, by simp [sentCallbacks, Effect.callback]⟩

theorem ctxRaise (w : World) (x : SockId) (event : EventId) :
    SameDevice w (w.ctxRaise x event) := by
  rw [World.ctxRaise]
  split
  · exact refl w
  · exact (setEvent w event _).trans (modify _ x _ rfl)

theorem ctxRaiseTo (w : World) (x : SockId) (event : EventId) :
    SameDevice w (w.ctxRaiseTo x event) := by
  rw [World.ctxRaiseTo]
  split
  · exact refl w
  · exact (setEvent w event _).trans (modify _ x _ rfl)

theorem raise (w : World) (x : SockId) (name : EventName) (type : Int) (srcptr : Pointer) :
    SameDevice w (w.raise x name type srcptr) :=
  ((log_raise w _ _).trans (setEvent _ _ _)).trans (ctxRaise _ x _)

theorem raiseTo (w : World) (x dst : SockId) (name : EventName) (src type : Int)
    (srcptr : Pointer) : SameDevice w (w.raiseTo x dst name src type srcptr) :=
  ((log_raise w _ _).trans (setEvent _ _ _)).trans (ctxRaiseTo _ x _)

end World.SameDevice

theorem SocketStep.sameDevice {may : Entitled} {w w' : World} (step : SocketStep may w w') :
    World.SameDevice w w' := by
  obtain same | ⟨x, name, type, srcptr, _, rfl⟩ | ⟨x, dst, name, src, type, srcptr, _, rfl⟩ :=
    step.quiet_or_raised
  · exact .of_quiet same
  · exact .raise w x name type srcptr
  · exact .raiseTo w x dst name src type srcptr

theorem SocketSteps.sameDevice {may : Entitled} {w w' : World} (steps : SocketSteps may w w') :
    World.SameDevice w w' := by
  induction steps with
  | refl => exact .refl w
  | tail _ step ih => exact ih.trans step.sameDevice

/-! ## Steps of the device -/

/-- The sockets that the device owns. -/
def World.Known (w : World) (x : SockId) : Prop :=
  x ∈ w.device.sockSets ∨ x = w.device.listenSock

/-- A change made by the device's code.  An entry of `token2sock_` gets a socket of the device with
the address of its token, and only sockets of the device are shut down or deleted. -/
inductive DeviceStep : World → World → Prop
  | socket {w w' : World} (step : SocketStep ⟨w.Known, True⟩ w w') : DeviceStep w w'
  | createSocket (w : World) (addr : SockAddr) : DeviceStep w (w.createSocket addr).2
  | emplaceSock (w : World) (token : Token) (x : SockId)
      (address : (w.sock x).ipAddr = w.device.token2Ip token) (known : x ∈ w.device.sockSets) :
      DeviceStep w (w.modifyDevice (·.emplaceSock token x))
  | emplaceCallback (w : World) (token : Token) (callback : Callback) :
      DeviceStep w (w.modifyDevice (·.emplaceCallback token callback))
  | finishRead (w : World) (token : Token) (callback : Callback) :
      DeviceStep w ((w.cqSend callback).modifyDevice (·.eraseCallback token))
  | deleteSocket {w w' : World} {x : SockId} (known : x ∈ w.device.sockSets)
      (deleted : w.deleteSocket x = .ok w') : DeviceStep w w'

/-- A sequence of changes made by the device's code. -/
def DeviceSteps : World → World → Prop := Relation.ReflTransGen DeviceStep

theorem SocketSteps.device {w w' : World} (steps : SocketSteps ⟨w.Known, True⟩ w w') :
    DeviceSteps w w' := by
  induction steps with
  | refl => exact .refl
  | @tail middle last before step ih =>
      have same : middle.Known = w.Known := by
        funext x
        rw [World.Known, World.Known, (SocketSteps.sameDevice before).device_eq]
      exact ih.tail (.socket (same ▸ step))

namespace DeviceSteps

variable {w w' w'' : World}

theorem refl (w : World) : DeviceSteps w w := Relation.ReflTransGen.refl

theorem trans (first : DeviceSteps w w') (second : DeviceSteps w' w'') : DeviceSteps w w'' :=
  Relation.ReflTransGen.trans first second

end DeviceSteps

/-! ## The tables -/

/-- `token2sock_` maps a token to a socket of the device that has the address of the token. -/
structure World.Tables (w : World) : Prop where
  routed : ∀ {token x}, (token, x) ∈ w.device.token2sock →
    (w.sock x).ipAddr = w.device.token2Ip token ∧ x ∈ w.device.sockSets
  allocated : ∀ {x}, x ∈ w.device.sockSets → x < w.nextSock

/-- What the code of the device never takes back. -/
structure World.DeviceGrows (w w' : World) : Prop where
  token2Ip_eq : w'.device.token2Ip = w.device.token2Ip
  token2Dptr_eq : w'.device.token2Dptr = w.device.token2Dptr
  token2DptrSize_eq : w'.device.token2DptrSize = w.device.token2DptrSize
  listenSock_eq : w'.device.listenSock = w.device.listenSock
  sockSets_grow : ∀ {x}, x ∈ w.device.sockSets → x ∈ w'.device.sockSets
  freed_known : ∀ {x}, x ∈ w'.freed → x ∈ w.freed ∨ x ∈ w'.device.sockSets

namespace World.DeviceGrows

variable {w w' w'' : World}

theorem refl (w : World) : DeviceGrows w w := ⟨rfl, rfl, rfl, rfl, id, .inl⟩

theorem trans (first : DeviceGrows w w') (second : DeviceGrows w' w'') : DeviceGrows w w'' where
  token2Ip_eq := second.token2Ip_eq.trans first.token2Ip_eq
  token2Dptr_eq := second.token2Dptr_eq.trans first.token2Dptr_eq
  token2DptrSize_eq := second.token2DptrSize_eq.trans first.token2DptrSize_eq
  listenSock_eq := second.listenSock_eq.trans first.listenSock_eq
  sockSets_grow member := second.sockSets_grow (first.sockSets_grow member)
  freed_known freed :=
    (second.freed_known freed).elim
      (fun before => (first.freed_known before).imp_right second.sockSets_grow) .inr

theorem known (grows : DeviceGrows w w') {x : SockId} (known : w.Known x) : w'.Known x :=
  known.imp grows.sockSets_grow fun equal => equal.trans grows.listenSock_eq.symm

theorem of_same (same : SameDevice w w') : DeviceGrows w w' := by
  refine ⟨?_, ?_, ?_, ?_, ?_, ?_⟩
  iterate 4 rw [same.device_eq]
  · exact fun member => same.device_eq ▸ member
  · exact fun freed => .inl (same.freed_eq ▸ freed)

end World.DeviceGrows

/-- Placing an entry changes nothing but `token2sock_`. -/
theorem emplaceSock_others (device : NetDevice) (token : Token) (x : SockId) :
    ∃ token2sock, device.emplaceSock token x = { device with token2sock := token2sock } ∧
      ∀ entry ∈ token2sock, entry ∈ device.token2sock ∨ entry = (token, x) := by
  rw [NetDevice.emplaceSock]
  split
  · exact ⟨_, rfl, fun _ => .inl⟩
  · exact ⟨_, rfl, fun entry member => by simpa using member⟩

theorem emplaceCallback_others (device : NetDevice) (token : Token) (callback : Callback) :
    ∃ token2callback, device.emplaceCallback token callback =
      { device with token2callback := token2callback } := by
  rw [NetDevice.emplaceCallback]
  split
  · exact ⟨_, rfl⟩
  · exact ⟨_, rfl⟩

theorem finishRead_others (w : World) (token : Token) (callback : Callback) :
    ∃ token2callback cq trace, (w.cqSend callback).modifyDevice (·.eraseCallback token) =
      { w with
        device := { w.device with token2callback := token2callback, cq := cq }
        trace := trace } := by
  simp only [World.cqSend]
  split
  · exact ⟨_, _, _, rfl⟩
  · exact ⟨_, _, _, rfl⟩

theorem DeviceStep.grows {w w' : World} (step : DeviceStep w w') : World.DeviceGrows w w' := by
  cases step with
  | socket step => exact .of_same step.sameDevice
  | createSocket addr => exact ⟨rfl, rfl, rfl, rfl, List.mem_cons_of_mem _, .inl⟩
  | emplaceSock token x address known =>
      obtain ⟨token2sock, others, _⟩ := emplaceSock_others w.device token x
      simp only [World.modifyDevice, others]
      exact ⟨rfl, rfl, rfl, rfl, id, .inl⟩
  | emplaceCallback token callback =>
      obtain ⟨token2callback, others⟩ := emplaceCallback_others w.device token callback
      simp only [World.modifyDevice, others]
      exact ⟨rfl, rfl, rfl, rfl, id, .inl⟩
  | finishRead token callback =>
      obtain ⟨token2callback, cq, trace, others⟩ := finishRead_others w token callback
      rw [others]
      exact ⟨rfl, rfl, rfl, rfl, id, .inl⟩
  | @deleteSocket _ x known deleted =>
      simp only [World.deleteSocket] at deleted
      split_ifs at deleted
      cases deleted
      refine ⟨rfl, rfl, rfl, rfl, id, fun freed => ?_⟩
      obtain rfl | before := List.mem_cons.mp freed
      · exact .inr known
      · exact .inl before

/-- A change of the process that keeps the tables and the addresses of sockets. -/
theorem World.Tables.of_same {w w' : World} (tables : w.Tables)
    (token2sock : w'.device.token2sock = w.device.token2sock)
    (token2Ip : w'.device.token2Ip = w.device.token2Ip)
    (sockSets : w'.device.sockSets = w.device.sockSets)
    (nextSock : w'.nextSock = w.nextSock)
    (ipAddr : ∀ x, (w'.sock x).ipAddr = (w.sock x).ipAddr) : w'.Tables where
  routed member := by
    rw [token2sock] at member
    rw [ipAddr, token2Ip, sockSets]
    exact tables.routed member
  allocated member := by
    rw [sockSets] at member
    rw [nextSock]
    exact tables.allocated member

theorem World.Tables.createSocket {w : World} (tables : w.Tables) (addr : SockAddr) :
    (w.createSocket addr).2.Tables where
  routed {token x} member := by
    obtain ⟨address, known⟩ := tables.routed member
    have old : x ≠ w.nextSock := Nat.ne_of_lt (tables.allocated known)
    refine ⟨Eq.trans ?_ address, List.mem_cons_of_mem _ known⟩
    simp [World.createSocket, World.newNetSocket, World.socketInit, World.chooseWorker, old]
  allocated {x} member := by
    have next : (w.createSocket addr).2.nextSock = w.nextSock + 1 := rfl
    rw [next]
    obtain rfl | known := List.mem_cons.mp member
    · exact Nat.lt_succ_self w.nextSock
    · exact Nat.lt_succ_of_lt (tables.allocated known)

theorem DeviceStep.tables {w w' : World} (tables : w.Tables) (step : DeviceStep w w') :
    w'.Tables := by
  cases step with
  | socket step =>
      have same := step.sameDevice
      exact tables.of_same (by rw [same.device_eq]) (by rw [same.device_eq])
        (by rw [same.device_eq]) same.nextSock_eq same.ipAddr_eq
  | createSocket addr => exact tables.createSocket addr
  | emplaceSock token x address known =>
      obtain ⟨token2sock, others, entries⟩ := emplaceSock_others w.device token x
      simp only [World.modifyDevice, others]
      refine ⟨fun {token' x'} member => ?_, tables.allocated⟩
      obtain old | new := entries _ member
      · exact tables.routed old
      · cases new
        exact ⟨address, known⟩
  | emplaceCallback token callback =>
      obtain ⟨token2callback, others⟩ := emplaceCallback_others w.device token callback
      simp only [World.modifyDevice, others]
      exact tables.of_same rfl rfl rfl rfl fun _ => rfl
  | finishRead token callback =>
      obtain ⟨token2callback, cq, trace, others⟩ := finishRead_others w token callback
      rw [others]
      exact tables.of_same rfl rfl rfl rfl fun _ => rfl
  | deleteSocket known deleted =>
      simp only [World.deleteSocket] at deleted
      split_ifs at deleted
      cases deleted
      exact tables.of_same rfl rfl rfl rfl fun _ => rfl

/-- The code of the device keeps the tables, and it only adds to what the device knows. -/
theorem DeviceSteps.tables_grows {w w' : World} (steps : DeviceSteps w w') (tables : w.Tables) :
    w'.Tables ∧ World.DeviceGrows w w' := by
  induction steps with
  | refl => exact ⟨tables, .refl w⟩
  | tail _ step ih => exact ⟨step.tables ih.1, ih.2.trans step.grows⟩

/-! ## Sending a message -/

section Send

variable {w w' : World} {sys : Sys} {x : SockId} {token : Token}

theorem mem_of_token2Socket {device : NetDevice} (entry : device.token2Socket token = some x) :
    (token, x) ∈ device.token2sock := by
  obtain ⟨before, after, split, _⟩ := List.lookup_eq_some_iff.mp entry
  simp [split]

theorem mem_iteration {device : NetDevice} {order : List (Token × SockId)}
    {entry : Token × SockId} :
    entry ∈ device.iteration order ↔ entry ∈ device.token2sock := by
  rw [NetDevice.iteration]
  split_ifs with permutes
  · exact permutes.mem_iff
  · rfl

/-- The search finds a socket with the address, in an entry that it was given. -/
theorem findSameIp_some {dstAddr : SockAddr} {entries : List (Token × SockId)}
    (found : w.findSameIp dstAddr entries = .ok (some x)) :
    (w.sock x).ipAddr = dstAddr ∧ ∃ other, (other, x) ∈ entries := by
  induction entries with
  | nil => cases found
  | cons entry rest ih =>
      simp only [World.findSameIp] at found
      split_ifs at found with freed equal
      · cases found
        exact ⟨isIpEqual_iff.mp equal, entry.1, List.mem_cons_self⟩
      · obtain ⟨address, other, member⟩ := ih found
        exact ⟨address, other, List.mem_cons_of_mem entry member⟩

theorem ipAddr_createSocket (w : World) (addr : SockAddr) :
    ((w.createSocket addr).2.sock (w.createSocket addr).1).ipAddr = addr := by
  simp [World.createSocket, World.newNetSocket, World.socketInit, World.chooseWorker,
    NetSocket.initialised]

/-- How `SendMsg` selects the socket: the entry of the token, a socket with the same address, or a
new one. -/
inductive Routed (w : World) (token : Token) : SockId → World → Prop
  | cached {x : SockId} (entry : w.device.token2Socket token = some x) : Routed w token x w
  | shared {x : SockId} (missing : w.device.token2Socket token = none)
      (address : (w.sock x).ipAddr = w.device.token2Ip token)
      (known : ∃ other, (other, x) ∈ w.device.token2sock) :
      Routed w token x (w.modifyDevice (·.emplaceSock token x))
  | created (missing : w.device.token2Socket token = none) :
      Routed w token w.nextSock
        ((w.createSocket (w.device.token2Ip token)).2.modifyDevice
          (·.emplaceSock token w.nextSock))

theorem routeMsg_routed (done : w.routeMsg sys token = .ok (x, w')) : Routed w token x w' := by
  simp only [World.routeMsg] at done
  split at done
  next y entry =>
    cases done
    exact .cached entry
  next missing =>
    obtain ⟨found, searching, rest⟩ := bind_eq_ok.mp done
    cases found with
    | some y =>
        cases rest
        obtain ⟨address, other, member⟩ := findSameIp_some searching
        exact .shared missing address ⟨other, mem_iteration.mp member⟩
    | none =>
        dsimp only at rest
        split_ifs at rest
        cases rest
        exact .created missing

/-- The selected socket belongs to the device and has the address of the token. -/
theorem Routed.steps (routed : Routed w token x w') (tables : w.Tables) :
    DeviceSteps w w' ∧ x ∈ w'.device.sockSets ∧ (w'.sock x).ipAddr = w.device.token2Ip token := by
  cases routed with
  | cached entry =>
      obtain ⟨address, known⟩ := tables.routed (mem_of_token2Socket entry)
      exact ⟨.refl w, known, address⟩
  | shared missing address known =>
      obtain ⟨other, member⟩ := known
      have owned := (tables.routed member).2
      have step : DeviceStep w (w.modifyDevice (·.emplaceSock token x)) :=
        .emplaceSock w token x address owned
      exact ⟨Relation.ReflTransGen.single step, step.grows.sockSets_grow owned, address⟩
  | created missing =>
      have created : DeviceSteps w (w.createSocket (w.device.token2Ip token)).2 :=
        Relation.ReflTransGen.single (.createSocket w _)
      have owned : w.nextSock ∈ (w.createSocket (w.device.token2Ip token)).2.device.sockSets :=
        List.mem_cons_self
      have address := ipAddr_createSocket w (w.device.token2Ip token)
      have step := DeviceStep.emplaceSock _ token w.nextSock address owned
      exact ⟨created.tail step, step.grows.sockSets_grow owned, address⟩

theorem ensureStarted_steps {may : Entitled} (allowed : may.stops x)
    (done : ensureStarted sys x w = .ok w') : SocketSteps may w w' := by
  simp only [ensureStarted] at done
  split_ifs at done
  · obtain ⟨⟨rc, started⟩, starting, connecting⟩ := bind_eq_ok.mp done
    exact (start_steps starting).trans (connect_steps allowed connecting)
  · cases done
    exact .refl w

/-- `SendMsg` selects a socket and uses it. -/
theorem sendMsgTo_routed {msg : NetMsg} (done : sendMsgTo sys msg w = .ok (x, w')) :
    ∃ routed started, Routed w msg.dst x routed ∧ ensureStarted sys x routed = .ok started ∧
      w' = started.asyncSendMsg x msg := by
  obtain ⟨⟨y, routed⟩, routing, rest⟩ := bind_eq_ok.mp done
  obtain ⟨started, starting, returned⟩ := bind_eq_ok.mp rest
  cases returned
  exact ⟨routed, started, routeMsg_routed routing, starting, rfl⟩

/-- Sending a message is made of steps of the device, and the message is enqueued on a socket of
the device with the address of the destination token. -/
theorem sendMsgTo_steps {msg : NetMsg} (tables : w.Tables)
    (done : sendMsgTo sys msg w = .ok (x, w')) :
    DeviceSteps w w' ∧ (w'.sock x).ipAddr = w.device.token2Ip msg.dst := by
  obtain ⟨routed, started, routing, starting, rfl⟩ := sendMsgTo_routed done
  obtain ⟨steps, owned, address⟩ := routing.steps tables
  have ready : SocketSteps ⟨routed.Known, True⟩ routed started :=
    ensureStarted_steps (.inl owned) starting
  have used := ready.trans (asyncSendMsg_steps started x msg)
  exact ⟨steps.trans used.device, (used.sameDevice.ipAddr_eq x).trans address⟩

theorem sendMsg_to {msg : NetMsg} (done : sendMsg sys msg w = .ok w') :
    ∃ x, sendMsgTo sys msg w = .ok (x, w') := by
  obtain ⟨⟨x, sent⟩, sending, returned⟩ := bind_eq_ok.mp done
  cases returned
  exact ⟨x, sending⟩

end Send

end Klibmsg
