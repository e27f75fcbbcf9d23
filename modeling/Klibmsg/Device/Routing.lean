import Klibmsg.Device.Process
import Klibmsg.Socket.Connecting
import Mathlib.Data.Finset.Card

/-!
# Which socket carries a message

`SendMsg` finds the socket of a token by its entry, by the address of another entry, or by creating
a socket.  The runs of the device are recorded here together with the calls of `SendMsg` that they
make and the sockets that these calls create.
-/

namespace Klibmsg

open StepSystem

/-- A process with the calls of `SendMsg` so far. -/
structure Routing where
  runtime : Runtime
  /-- The socket on which each message was enqueued, in the order of the calls. -/
  sent : List (SockId × NetMsg)
  /-- The sockets that were allocated in the calls of `SendMsg`. -/
  created : List SockId

/-! ## The calls of `SendMsg` that a step makes -/

/-- A call of `SendMsg` that succeeds. -/
def sendMsgSent (sys : Sys) (msg : NetMsg) (w : World) : Option (SockId × NetMsg) :=
  match sendMsgTo sys msg w with
  | .ok (x, _) => some (x, msg)
  | .error _ => none

/-- The call that an operation of the users makes. -/
def DeviceCall.sent (sys : Sys) (w : World) : DeviceCall → Option (SockId × NetMsg)
  | socket _ => none
  | sendData srcToken dstToken =>
      let srcDptr := w.device.token2Dptr srcToken
      let srcSz := w.device.token2DptrSize srcToken
      if srcDptr = 0 ∨ srcSz = 0 then none else sendMsgSent sys (dataMsg srcDptr dstToken srcSz) w
  | readData srcToken dstToken callback =>
      sendMsgSent sys (readMsg srcToken dstToken)
        (w.modifyDevice (·.emplaceCallback srcToken callback))

/-- The call that `ParseNetMsg` makes. -/
def parseNetMsgSent (sys : Sys) (msg : NetMsg) (w : World) : Option (SockId × NetMsg) :=
  if msg.msgType = 0 ∧ msg.cmd = kNetMsgCmdRead then
    sendMsgSent sys
      (dataMsg (w.device.token2Dptr msg.src) msg.dst (w.device.token2DptrSize msg.src)) w
  else none

/-- The call that the device makes when an event is delivered. -/
def processSent (sys : Sys) (event : EventId) (w : World) : Option (SockId × NetMsg) :=
  let payload := (w.eventAt event).payload
  if payload.src = kNetDeviceSrcSocketEvent ∧ payload.type = kNetSockEventTypeReceived then
    match payload.srcptr with
    | .msg msg => parseNetMsgSent sys msg (w.takeEvent event)
    | _ => none
  else none

/-- The call that a step of the process makes. -/
def stepSent (r : Runtime) : RuntimeLabel DeviceCall → Option (SockId × NetMsg)
  | .call sys op => op.sent sys r.world
  | .advance k sys =>
      match (r.thread k).frames with
      | .enter (.event event) :: _ => processSent sys event r.world
      | .process _ event :: _ => processSent sys event r.world
      | _ => none
  | _ => none

/-- The sockets that were allocated on the way from one process to the other. -/
def World.allocated (w w' : World) : List SockId :=
  List.range' w.nextSock (w'.nextSock - w.nextSock)

/-- The sockets that a step allocates when it makes a call of `SendMsg`. -/
def stepCreated (r r' : Runtime) (label : RuntimeLabel DeviceCall) : List SockId :=
  if (stepSent r label).isSome then r.world.allocated r'.world else []

/-- The runs of the device, with the calls of `SendMsg`. -/
def routingSystem : StepSystem Routing (RuntimeLabel DeviceCall) where
  step s label :=
    (deviceOwner.step s.runtime label).map fun r =>
      ⟨r, s.sent ++ (stepSent s.runtime label).toList,
        s.created ++ stepCreated s.runtime r label⟩

/-! ## What a call of `SendMsg` does -/

/-- Nothing that the routes depend on is changed. -/
structure World.KeepsRoutes (w w' : World) : Prop where
  token2sock_eq : w'.device.token2sock = w.device.token2sock
  token2Ip_eq : w'.device.token2Ip = w.device.token2Ip
  nextSock_le : w.nextSock ≤ w'.nextSock
  ipAddr_eq : ∀ y, y < w.nextSock → (w'.sock y).ipAddr = (w.sock y).ipAddr

namespace World.KeepsRoutes

variable {w middle w' : World}

theorem trans (first : KeepsRoutes w middle) (second : KeepsRoutes middle w') :
    KeepsRoutes w w' where
  token2sock_eq := second.token2sock_eq.trans first.token2sock_eq
  token2Ip_eq := second.token2Ip_eq.trans first.token2Ip_eq
  nextSock_le := first.nextSock_le.trans second.nextSock_le
  ipAddr_eq y old :=
    (second.ipAddr_eq y (old.trans_le first.nextSock_le)).trans (first.ipAddr_eq y old)

theorem of_same (same : SameDevice w w') : KeepsRoutes w w' :=
  ⟨by rw [same.device_eq], by rw [same.device_eq], same.nextSock_eq.ge, fun y _ => same.ipAddr_eq y⟩

theorem of_steps (steps : SocketSteps .all w w') : KeepsRoutes w w' :=
  of_same steps.sameDevice

theorem of_shuffled (shuffled : Shuffled w w') : KeepsRoutes w w' :=
  ⟨by rw [shuffled.device_eq], by rw [shuffled.device_eq], shuffled.nextSock_eq.ge,
    fun y _ => shuffled.ipAddr_eq y⟩

theorem createSocket (w : World) (addr : SockAddr) : KeepsRoutes w (w.createSocket addr).2 := by
  refine ⟨rfl, rfl, Nat.le_succ _, fun y old => ?_⟩
  simp [World.createSocket, newNetSocket, socketInit, chooseWorker, Nat.ne_of_lt old]

end World.KeepsRoutes

section Send

variable {w w' : World} {sys : Sys} {x : SockId} {token : Token}

theorem findSameIp_none {dstAddr : SockAddr} {entries : List (Token × SockId)}
    (missing : w.findSameIp dstAddr entries = .ok none) :
    ∀ entry ∈ entries, (w.sock entry.2).ipAddr ≠ dstAddr := by
  induction entries with
  | nil => exact fun entry member => absurd member List.not_mem_nil
  | cons entry rest ih =>
      simp only [World.findSameIp] at missing
      split_ifs at missing with freed equal
      · cases missing
      · exact List.forall_mem_cons.mpr ⟨fun same => equal (isIpEqual_iff.mpr same), ih missing⟩

/-- A socket is created only when no entry has the address of the token. -/
theorem routeMsg_fresh (tables : w.Tables) (done : w.routeMsg sys token = .ok (w.nextSock, w')) :
    ∀ entry ∈ w.device.token2sock, (w.sock entry.2).ipAddr ≠ w.device.token2Ip token := by
  have old {y : SockId} {other : Token} (member : (other, y) ∈ w.device.token2sock) :
      y ≠ w.nextSock := Nat.ne_of_lt (tables.allocated (tables.routed member).2)
  simp only [World.routeMsg] at done
  split at done
  next y entry =>
    cases done
    exact absurd rfl (old (mem_of_token2Socket entry))
  next =>
    obtain ⟨found, searching, rest⟩ := bind_eq_ok.mp done
    cases found with
    | some y =>
        cases rest
        obtain ⟨_, other, member⟩ := findSameIp_some searching
        exact absurd rfl (old (mem_iteration.mp member))
    | none =>
        intro entry member
        exact findSameIp_none searching entry (mem_iteration.mpr member)

theorem emplaceSock_token2sock {device : NetDevice} (missing : device.token2Socket token = none) :
    (device.emplaceSock token x).token2sock = device.token2sock ++ [(token, x)] := by
  rw [NetDevice.emplaceSock, missing]

theorem ensureStarted_queues (done : ensureStarted sys x w = .ok w') : w.SameQueues w' := by
  simp only [ensureStarted] at done
  split_ifs at done with _ idle
  · obtain ⟨⟨rc, started⟩, starting, connecting⟩ := bind_eq_ok.mp done
    obtain ⟨queues, outcome⟩ := start_outcome starting
    have running : (started.sock x).fsm.state ≠ .stopping := by
      obtain ⟨_, same⟩ | ⟨_, active, _⟩ := outcome
      · simp only [NetSocket.isIdle, Bool.and_eq_true, decide_eq_true_eq] at idle
        rw [same, idle.1]
        decide
      · rw [active]
        decide
    exact queues.trans (connect_outcome running connecting).queues
  · cases done
    exact fun _ => rfl

theorem asyncSendMsg_queue (w : World) (x : SockId) (msg : NetMsg) :
    ((w.asyncSendMsg x msg).sock x).msgBufferQueue = (w.sock x).msgBufferQueue ++ [msg] := by
  rw [World.asyncSendMsg, World.sock_execute_self, World.pushMsg]
  simp

/-- What a successful call of `SendMsg` does to the routes and to the queue of the socket. -/
structure SendOutcome (msg : NetMsg) (x : SockId) (w w' : World) : Prop where
  token2Ip_eq : w'.device.token2Ip = w.device.token2Ip
  ipAddr_eq : ∀ y, y < w.nextSock → (w'.sock y).ipAddr = (w.sock y).ipAddr
  address : (w'.sock x).ipAddr = w.device.token2Ip msg.dst
  routed : (msg.dst, x) ∈ w'.device.token2sock
  table : w'.device.token2sock = w.device.token2sock ∨
    w'.device.token2sock = w.device.token2sock ++ [(msg.dst, x)]
  found : x ≠ w.nextSock → w'.nextSock = w.nextSock ∧ (∃ token, (token, x) ∈ w.device.token2sock) ∧
    (w'.sock x).msgBufferQueue = (w.sock x).msgBufferQueue ++ [msg]
  created : x = w.nextSock → w'.nextSock = w.nextSock + 1 ∧
    (∀ entry ∈ w.device.token2sock, (w.sock entry.2).ipAddr ≠ w.device.token2Ip msg.dst) ∧
    (w'.sock x).msgBufferQueue = [msg]

/-- A call allocates the socket that it selects, or none. -/
theorem SendOutcome.allocated_eq {msg : NetMsg} (outcome : SendOutcome msg x w w') :
    w.allocated w' = [x].filter (· = w.nextSock) := by
  rw [World.allocated]
  by_cases isNew : x = w.nextSock
  · rw [(outcome.created isNew).1, Nat.add_sub_cancel_left]
    simp [isNew]
  · rw [(outcome.found isNew).1, Nat.sub_self]
    simp [isNew]

theorem sendMsgTo_outcome {msg : NetMsg} (tables : w.Tables)
    (done : sendMsgTo sys msg w = .ok (x, w')) : SendOutcome msg x w w' := by
  obtain ⟨⟨y, routed⟩, routing, rest⟩ := bind_eq_ok.mp done
  obtain ⟨started, starting, returned⟩ := bind_eq_ok.mp rest
  cases returned
  have steps : SocketSteps .all routed (started.asyncSendMsg x msg) :=
    (ensureStarted_steps trivial starting).trans (asyncSendMsg_steps started x msg)
  have same := steps.sameDevice
  have queue : ((started.asyncSendMsg x msg).sock x).msgBufferQueue =
      (routed.sock x).msgBufferQueue ++ [msg] := by
    rw [asyncSendMsg_queue, ensureStarted_queues starting x]
  have old {y : SockId} {other : Token} (member : (other, y) ∈ w.device.token2sock) :
      y ≠ w.nextSock := Nat.ne_of_lt (tables.allocated (tables.routed member).2)
  have address := (sendMsgTo_steps tables done).2
  have fresh := fun isNew : x = w.nextSock => routeMsg_fresh tables (isNew ▸ routing)
  cases routeMsg_routed routing with
  | cached entry =>
      have member := mem_of_token2Socket entry
      refine ⟨by rw [same.device_eq], fun y _ => same.ipAddr_eq y, address,
        same.device_eq ▸ member, .inl (by rw [same.device_eq]),
        fun _ => ⟨same.nextSock_eq, ⟨msg.dst, member⟩, queue⟩,
        fun isNew => absurd isNew (old member)⟩
  | shared missing shares known =>
      obtain ⟨other, member⟩ := known
      have table := emplaceSock_token2sock (x := x) missing
      obtain ⟨token2sock, others, _⟩ := emplaceSock_others w.device msg.dst x
      have device := same.device_eq
      simp only [World.modifyDevice_device] at device
      refine ⟨by rw [device, others], fun y _ => same.ipAddr_eq y, address, ?_,
        .inr (by rw [device, table]), fun _ => ⟨same.nextSock_eq, ⟨other, member⟩, queue⟩,
        fun isNew => absurd isNew (old member)⟩
      rw [device, table]
      simp
  | created missing =>
      have kept := World.KeepsRoutes.createSocket w (w.device.token2Ip msg.dst)
      obtain ⟨token2sock, others, _⟩ := emplaceSock_others
        (w.createSocket (w.device.token2Ip msg.dst)).2.device msg.dst w.nextSock
      have unrouted : (w.createSocket (w.device.token2Ip msg.dst)).2.device.token2Socket msg.dst =
          none := missing
      have table := emplaceSock_token2sock (x := w.nextSock) unrouted
      have device := same.device_eq
      simp only [World.modifyDevice_device] at device
      refine ⟨?_, fun y before => ?_, address, ?_, .inr ?_, fun notNew => absurd rfl notNew,
        fun isNew => ⟨same.nextSock_eq, fresh isNew, ?_⟩⟩
      · rw [device, others]
        rfl
      · exact (same.ipAddr_eq y).trans (kept.ipAddr_eq y before)
      · rw [device, table]
        simp
      · rw [device, table]
        rfl
      · rw [queue]
        simp [World.createSocket, World.newNetSocket, World.socketInit, World.chooseWorker,
          NetSocket.initialised]

/-- A change before the call that neither the routes nor the queues depend on. -/
structure World.SameRoutes (w w' : World) : Prop where
  token2sock_eq : w'.device.token2sock = w.device.token2sock
  token2Ip_eq : w'.device.token2Ip = w.device.token2Ip
  nextSock_eq : w'.nextSock = w.nextSock
  ipAddr_eq : ∀ y, (w'.sock y).ipAddr = (w.sock y).ipAddr
  queues : w.SameQueues w'

theorem World.SameRoutes.takeEvent (w : World) (event : EventId) :
    w.SameRoutes (w.takeEvent event) := by
  refine ⟨rfl, rfl, rfl, (World.SameDevice.setEvent (w.log _) event _).ipAddr_eq, fun y => ?_⟩
  rw [World.takeEvent, World.setEvent]
  exact World.sameQueues_modify (w.log _) event.sock _ rfl y

theorem World.SameRoutes.emplaceCallback (w : World) (token : Token) (callback : Callback) :
    w.SameRoutes (w.modifyDevice (·.emplaceCallback token callback)) := by
  obtain ⟨token2callback, others⟩ := emplaceCallback_others w.device token callback
  simp only [World.modifyDevice, others]
  exact ⟨rfl, rfl, rfl, fun _ => rfl, fun _ => rfl⟩

theorem World.SameRoutes.keepsRoutes {w w' : World} (same : w.SameRoutes w') : w.KeepsRoutes w' :=
  ⟨same.token2sock_eq, same.token2Ip_eq, same.nextSock_eq.ge, fun y _ => same.ipAddr_eq y⟩

theorem SendOutcome.after {msg : NetMsg} {first : World} (same : w.SameRoutes first)
    (outcome : SendOutcome msg x first w') : SendOutcome msg x w w' := by
  obtain ⟨token2Ip_eq, ipAddr_eq, address, routed, table, found, created⟩ := outcome
  obtain ⟨same_token2sock, same_token2Ip, same_nextSock, same_ipAddr, queues⟩ := same
  rw [same_token2Ip] at token2Ip_eq address created
  rw [same_token2sock] at table found created
  rw [same_nextSock] at ipAddr_eq found created
  rw [queues x] at found
  exact ⟨token2Ip_eq, fun y old => (ipAddr_eq y old).trans (same_ipAddr y), address, routed, table,
    found, fun isNew => ⟨(created isNew).1,
      fun entry member => same_ipAddr entry.2 ▸ (created isNew).2.1 entry member,
      (created isNew).2.2⟩⟩

/-- A step that makes a call of `SendMsg`, or none. -/
def RoutesBy (sent : Option (SockId × NetMsg)) (w w' : World) : Prop :=
  sent = none ∧ w.KeepsRoutes w' ∨ ∃ x msg, sent = some (x, msg) ∧ SendOutcome msg x w w'

theorem sendMsg_routes {msg : NetMsg} (tables : w.Tables) (done : sendMsg sys msg w = .ok w') :
    RoutesBy (sendMsgSent sys msg w) w w' := by
  obtain ⟨x, sending⟩ := sendMsg_to done
  exact .inr ⟨x, msg, by rw [sendMsgSent, sending], sendMsgTo_outcome tables sending⟩

theorem RoutesBy.after {sent : Option (SockId × NetMsg)} {first : World}
    (same : w.SameRoutes first) (routes : RoutesBy sent first w') : RoutesBy sent w w' := by
  obtain ⟨nothing, keeps⟩ | ⟨x, msg, equal, outcome⟩ := routes
  · exact .inl ⟨nothing, same.keepsRoutes.trans keeps⟩
  · exact .inr ⟨x, msg, equal, outcome.after same⟩

theorem call_routes {op : DeviceCall} (tables : w.Tables) (done : op.run sys w = .ok w') :
    RoutesBy (op.sent sys w) w w' := by
  cases op with
  | socket op =>
      simp only [DeviceCall.run] at done
      split_ifs at done
      exact .inl ⟨rfl, .of_steps
        (SocketCall.run_steps (fun _ _ => trivial) done)⟩
  | sendData srcToken dstToken =>
      obtain ⟨⟨rc, sent⟩, sending, returned⟩ := map_eq_ok.mp done
      cases returned
      simp only [sendData] at sending
      split_ifs at sending with noPointer noSize
      · cases sending
        exact .inl ⟨if_pos (.inl noPointer), .of_same (.refl w)⟩
      · cases sending
        exact .inl ⟨if_pos (.inr noSize), .of_same (.refl w)⟩
      · obtain ⟨after, calling, returned⟩ := bind_eq_ok.mp sending
        cases returned
        simp only [DeviceCall.sent, if_neg (not_or.mpr ⟨noPointer, noSize⟩)]
        exact sendMsg_routes tables calling
  | readData srcToken dstToken callback =>
      have stored : DeviceStep w (w.modifyDevice (·.emplaceCallback srcToken callback)) :=
        .emplaceCallback w srcToken callback
      exact (sendMsg_routes (stored.tables tables) done).after (.emplaceCallback w _ _)

theorem parseNetMsg_routes {msg : NetMsg} (tables : w.Tables)
    (done : parseNetMsg sys msg w = .ok w') : RoutesBy (parseNetMsgSent sys msg w) w w' := by
  simp only [parseNetMsg] at done
  split_ifs at done with command read sized data
  · rw [parseNetMsgSent, if_pos ⟨command, read⟩]
    exact sendMsg_routes tables done
  · refine .inl ⟨if_neg fun reads => command reads.1, ?_⟩
    split at done
    next callback _ =>
      cases done
      obtain ⟨token2callback, cq, trace, others⟩ := finishRead_others w msg.dst callback
      rw [others]
      exact ⟨rfl, rfl, le_rfl, fun _ _ => rfl⟩
    next =>
      cases done
      exact .of_same (.refl w)

theorem process_routes {event : EventId} (tables : w.Tables)
    (done : deviceOwner.process sys event w = .ok w') :
    RoutesBy (processSent sys event w) w w' := by
  simp only [Owner.process] at done
  split_ifs at done
  split at done
  next => cases done
  next fsm _ =>
    have taken := World.SameRoutes.takeEvent w event
    refine RoutesBy.after taken ?_
    have takenTables : (w.takeEvent event).Tables :=
      tables.of_same rfl rfl rfl rfl taken.ipAddr_eq
    change netDeviceFsmHandler sys (w.eventAt event).payload (w.takeEvent event) = .ok w' at done
    simp only [netDeviceFsmHandler] at done
    by_cases received : (w.eventAt event).payload.src = kNetDeviceSrcSocketEvent ∧
        (w.eventAt event).payload.type = kNetSockEventTypeReceived
    · have notTask : ¬kNetDeviceSrcSocketEvent = kNetDeviceSrcWorkerTaskExecute := by decide
      have notConnected : ¬kNetSockEventTypeReceived = kNetSockEventTypeConnected := by decide
      simp only [received.1, received.2, if_neg notTask, if_neg notConnected, if_true] at done
      cases pointer : (w.eventAt event).payload.srcptr with
      | null | sock =>
          rw [pointer] at done
          cases done
      | msg msg =>
          rw [pointer] at done
          simp only [processSent, if_pos received, pointer]
          exact parseNetMsg_routes takenTables done
    · refine .inl ⟨if_neg received, ?_⟩
      split_ifs at done with _ isSocket connected isReceived error acceptError accepted shutdown
      · split at done
        next x _ =>
          split_ifs at done
          cases done
          exact .of_steps ((SocketSteps.refl _).execute)
        next => cases done
      · exact absurd ⟨isSocket, isReceived⟩ received
      · split at done
        next x _ =>
          obtain ⟨activated, activating, pairing⟩ := bind_eq_ok.mp done
          have active : SocketSteps .all (w.takeEvent event) (activated.execute ⟨x, .recv⟩) :=
            SocketSteps.execute (activate_steps activating)
          exact ((World.KeepsRoutes.of_steps active).trans (.createSocket _ _)).trans
            (.of_steps (accept_steps pairing))
        next => cases done
      · split at done
        next x _ =>
          simp only [World.deleteSocket] at done
          split_ifs at done
          cases done
          exact ⟨rfl, rfl, le_rfl, fun _ _ => rfl⟩
        next => cases done
      · cases done
        exact .of_same (.refl _)
      · cases done
        exact .of_same (.refl _)

end Send

/-! ## Runs -/

/-- Every step of the process makes the call of `SendMsg` that is recorded, or none. -/
theorem step_routes {r r' : Runtime} {label : RuntimeLabel DeviceCall} (tables : r.world.Tables)
    (stepped : deviceOwner.step r label = some r') :
    RoutesBy (stepSent r label) r.world r'.world := by
  cases label with
  | call sys op =>
      obtain ⟨w, called, rfl⟩ := Owner.apply_eq_some.mp stepped
      exact call_routes tables called
  | poll k x pevent =>
      simp only [Owner.step] at stepped
      split_ifs at stepped
      cases stepped
      exact .inl ⟨rfl, .of_same (.refl _)⟩
  | snapshot k =>
      simp only [Owner.step] at stepped
      split_ifs at stepped
      cases stepped
      exact .inl ⟨rfl, .of_shuffled (.clearTasks _ k)⟩
  | pop k =>
      simp only [Owner.step] at stepped
      split at stepped
      next task tasks _ _ =>
        split_ifs at stepped
        cases stepped
        exact .inl ⟨rfl, .of_shuffled (.unqueueTask _ task)⟩
      next => cases stepped
  | advance k sys =>
      change deviceOwner.advance r k sys = some r' at stepped
      simp only [Owner.advance] at stepped
      split at stepped
      next => cases stepped
      next body rest top =>
        split at stepped
        next => cases stepped
        next ctx _ =>
          split_ifs at stepped
          obtain ⟨w, ran, rfl⟩ := Owner.apply_eq_some.mp stepped
          simp only [stepSent, top]
          cases body with
          | task task =>
              exact .inl ⟨rfl, .of_steps (feedTask_steps ran)⟩
          | fd x pevent =>
              exact .inl ⟨rfl, .of_steps (feedFd_steps ran)⟩
          | event event => exact process_routes tables ran
      next ctx rest top =>
        simp only [stepSent, top]
        split_ifs at stepped
        split at stepped
        next event events _ =>
          split_ifs at stepped
          cases stepped
          exact .inl ⟨rfl, .of_shuffled ((World.Shuffled.setEvents _ ctx events).trans
            (.unqueueEvent _ event))⟩
        next =>
          cases stepped
          exact .inl ⟨rfl, .of_shuffled (.clearEventsto _ ctx)⟩
      next ctx event rest top =>
        obtain ⟨w, processed, rfl⟩ := Owner.apply_eq_some.mp stepped
        simp only [stepSent, top]
        exact process_routes tables processed
      next rest top =>
        cases stepped
        simp only [stepSent, top]
        exact .inl ⟨rfl, .of_same (.refl _)⟩
      next event events rest top =>
        split_ifs at stepped
        cases stepped
        simp only [stepSent, top]
        exact .inl ⟨rfl, .of_shuffled (.unqueueEvent _ event)⟩

/-- What the runs keep: every entry and every socket that was created goes back to a call, and no
two of these sockets have one address. -/
structure Routing.Kept (s : Routing) : Prop where
  consistent : s.runtime.world.Consistent
  shared : ∀ entry ∈ s.runtime.world.device.token2sock,
    ∀ other ∈ s.runtime.world.device.token2sock,
      (s.runtime.world.sock entry.2).ipAddr = (s.runtime.world.sock other.2).ipAddr →
        entry.2 = other.2
  sent_routed : ∀ call ∈ s.sent, (call.2.dst, call.1) ∈ s.runtime.world.device.token2sock
  entry_created : ∀ entry ∈ s.runtime.world.device.token2sock, entry.2 ∈ s.created
  created_sent : ∀ x ∈ s.created, ∃ call ∈ s.sent, call.1 = x
  created_nodup : (s.created.map fun x => (s.runtime.world.sock x).ipAddr).Nodup

section Kept

variable {s s' : Routing} {label : RuntimeLabel DeviceCall}

theorem Routing.Kept.old (kept : s.Kept) {entry : Token × SockId}
    (member : entry ∈ s.runtime.world.device.token2sock) :
    entry.2 < s.runtime.world.nextSock :=
  kept.consistent.tables.allocated (kept.consistent.tables.routed member).2

theorem Routing.Kept.created_old (kept : s.Kept) {x : SockId} (member : x ∈ s.created) :
    x < s.runtime.world.nextSock := by
  obtain ⟨call, sent, rfl⟩ := kept.created_sent x member
  exact kept.old (kept.sent_routed call sent)

theorem routingSystem_step (stepped : routingSystem.step s label = some s') :
    ∃ r', deviceOwner.step s.runtime label = some r' ∧
      s' = ⟨r', s.sent ++ (stepSent s.runtime label).toList,
        s.created ++ stepCreated s.runtime r' label⟩ := by
  obtain ⟨r', moved, rfl⟩ := Option.map_eq_some_iff.mp stepped
  exact ⟨r', moved, rfl⟩

/-- A step without a call. -/
theorem Routing.Kept.keeps {r' : Runtime} (kept : s.Kept) (consistent : r'.world.Consistent)
    (keeps : s.runtime.world.KeepsRoutes r'.world) : Routing.Kept ⟨r', s.sent, s.created⟩ := by
  refine ⟨consistent, ?_, ?_, ?_, kept.created_sent, ?_⟩
  · simp only [keeps.token2sock_eq]
    intro entry member other member' same
    rw [keeps.ipAddr_eq _ (kept.old member), keeps.ipAddr_eq _ (kept.old member')] at same
    exact kept.shared entry member other member' same
  · simp only [keeps.token2sock_eq]
    exact kept.sent_routed
  · simp only [keeps.token2sock_eq]
    exact kept.entry_created
  · refine (List.map_congr_left fun x member => ?_).symm ▸ kept.created_nodup
    exact keeps.ipAddr_eq x (kept.created_old member)

/-- A step with a call. -/
theorem Routing.Kept.sends {r' : Runtime} {x : SockId} {msg : NetMsg} (kept : s.Kept)
    (consistent : r'.world.Consistent) (outcome : SendOutcome msg x s.runtime.world r'.world) :
    Routing.Kept ⟨r', s.sent ++ [(x, msg)],
      s.created ++ [x].filter (· = s.runtime.world.nextSock)⟩ := by
  have tables := kept.consistent.tables
  have old_address {entry : Token × SockId}
      (member : entry ∈ s.runtime.world.device.token2sock) :
      (r'.world.sock entry.2).ipAddr = (s.runtime.world.sock entry.2).ipAddr :=
    outcome.ipAddr_eq _ (kept.old member)
  have entries : ∀ entry ∈ r'.world.device.token2sock,
      entry ∈ s.runtime.world.device.token2sock ∨ entry = (msg.dst, x) := by
    intro entry member
    obtain same | grown := outcome.table
    · exact .inl (same ▸ member)
    · rw [grown] at member
      simpa using member
  have grows : ∀ entry ∈ s.runtime.world.device.token2sock,
      entry ∈ r'.world.device.token2sock := by
    intro entry member
    obtain same | grown := outcome.table
    · exact same.symm ▸ member
    · rw [grown]
      exact List.mem_append_left _ member
  -- an old entry with the address of the destination belongs to the selected socket
  have selected : ∀ entry ∈ s.runtime.world.device.token2sock,
      (s.runtime.world.sock entry.2).ipAddr = (r'.world.sock x).ipAddr → entry.2 = x := by
    intro entry member same
    by_cases isNew : x = s.runtime.world.nextSock
    · obtain ⟨_, unshared, _⟩ := outcome.created isNew
      exact absurd (same.trans outcome.address) (unshared entry member)
    · obtain ⟨_, ⟨token, known⟩, _⟩ := outcome.found isNew
      rw [old_address known] at same
      exact kept.shared entry member (token, x) known same
  refine ⟨consistent, ?_, ?_, ?_, ?_, ?_⟩
  · intro entry member other member' same
    obtain before | rfl := entries entry member <;> obtain before' | rfl := entries other member'
    · rw [old_address before, old_address before'] at same
      exact kept.shared entry before other before' same
    · exact selected entry before (old_address before ▸ same)
    · exact (selected other before' (old_address before' ▸ same.symm)).symm
    · rfl
  · intro call member
    obtain before | last := List.mem_append.mp member
    · exact grows _ (kept.sent_routed call before)
    · rw [List.mem_singleton.mp last]
      exact outcome.routed
  · intro entry member
    obtain before | rfl := entries entry member
    · exact List.mem_append_left _ (kept.entry_created entry before)
    · by_cases isNew : x = s.runtime.world.nextSock
      · exact List.mem_append_right _ (by simp [isNew])
      · obtain ⟨_, ⟨token, known⟩, _⟩ := outcome.found isNew
        exact List.mem_append_left _ (kept.entry_created (token, x) known)
  · intro y member
    obtain before | last := List.mem_append.mp member
    · obtain ⟨call, sent, equal⟩ := kept.created_sent y before
      exact ⟨call, List.mem_append_left _ sent, equal⟩
    · have equal := List.mem_singleton.mp (List.mem_of_mem_filter last)
      exact ⟨(x, msg), List.mem_append_right _ (List.mem_singleton_self _), equal.symm⟩
  · have before : (s.created.map fun y => (r'.world.sock y).ipAddr) =
        s.created.map fun y => (s.runtime.world.sock y).ipAddr :=
      List.map_congr_left fun y member => outcome.ipAddr_eq y (kept.created_old member)
    rw [List.map_append, before]
    by_cases isNew : x = s.runtime.world.nextSock
    · obtain ⟨_, unshared, _⟩ := outcome.created isNew
      have fresh : (r'.world.sock x).ipAddr ∉
          s.created.map fun y => (s.runtime.world.sock y).ipAddr := by
        rw [outcome.address, List.mem_map]
        rintro ⟨y, member, same⟩
        obtain ⟨call, sent, rfl⟩ := kept.created_sent y member
        exact unshared _ (kept.sent_routed call sent) same
      have last : [x].filter (· = s.runtime.world.nextSock) = [x] := by simp [isNew]
      rw [last, List.map_singleton, ← List.concat_eq_append]
      exact kept.created_nodup.concat fresh
    · have none : [x].filter (· = s.runtime.world.nextSock) = [] := by simp [isNew]
      rw [none, List.map_nil, List.append_nil]
      exact kept.created_nodup

theorem Routing.Kept.step (kept : s.Kept) (stepped : routingSystem.step s label = some s') :
    s'.Kept := by
  obtain ⟨r', moved, rfl⟩ := routingSystem_step stepped
  have consistent := (kept.consistent.runtimeStep (Owner.step_runtimeStep moved)).1
  obtain ⟨nothing, keeps⟩ | ⟨x, msg, call, outcome⟩ :=
    step_routes kept.consistent.tables moved
  · simpa [stepCreated, nothing] using kept.keeps consistent keeps
  · rw [stepCreated, call, Option.isSome_some, if_pos rfl, outcome.allocated_eq]
    exact kept.sends consistent outcome

/-- One outbound connection for each machine: an entry leads to a socket with the address of its
token, tokens with one address share a socket, and a socket is created for each address once. -/
structure OneConnection (token2Ip : Token → SockAddr) (s : Routing) : Prop where
  address : ∀ token x, (token, x) ∈ s.runtime.world.device.token2sock →
    (s.runtime.world.sock x).ipAddr = token2Ip token
  shared : ∀ token x token' x', (token, x) ∈ s.runtime.world.device.token2sock →
    (token', x') ∈ s.runtime.world.device.token2sock → token2Ip token = token2Ip token' → x = x'
  created_length :
    s.created.length = (s.sent.map fun call => token2Ip call.2.dst).toFinset.card
  routed : ∀ call ∈ s.sent, (call.2.dst, call.1) ∈ s.runtime.world.device.token2sock
  one_socket : ∀ call ∈ s.sent, ∀ other ∈ s.sent,
    token2Ip call.2.dst = token2Ip other.2.dst → call.1 = other.1

/-- A step changes no entry, and a call puts its message behind the others on its socket. -/
structure KeepsConnections (s s' : Routing) : Prop where
  entries : s.runtime.world.device.token2sock <+: s'.runtime.world.device.token2sock
  enqueued : ∀ x msg, s'.sent = s.sent ++ [(x, msg)] →
    (s'.runtime.world.sock x).msgBufferQueue =
      (if x ∈ s.created then (s.runtime.world.sock x).msgBufferQueue else []) ++ [msg]

theorem Routing.Kept.oneConnection (kept : s.Kept) :
    OneConnection s.runtime.world.device.token2Ip s := by
  have tables := kept.consistent.tables
  have address (token : Token) (x : SockId)
      (member : (token, x) ∈ s.runtime.world.device.token2sock) :
      (s.runtime.world.sock x).ipAddr = s.runtime.world.device.token2Ip token :=
    (tables.routed member).1
  have shared (token : Token) (x : SockId) (token' : Token) (x' : SockId)
      (member : (token, x) ∈ s.runtime.world.device.token2sock)
      (member' : (token', x') ∈ s.runtime.world.device.token2sock)
      (same : s.runtime.world.device.token2Ip token = s.runtime.world.device.token2Ip token') :
      x = x' := by
    rw [← address _ _ member, ← address _ _ member'] at same
    exact kept.shared _ member _ member' same
  refine ⟨address, shared, ?_, kept.sent_routed, fun call sent other sent' same => ?_⟩
  · have addressed : (s.sent.map fun call => s.runtime.world.device.token2Ip call.2.dst).toFinset =
        (s.created.map fun x => (s.runtime.world.sock x).ipAddr).toFinset := by
      ext addr
      simp only [List.mem_toFinset, List.mem_map]
      constructor
      · rintro ⟨call, sent, rfl⟩
        have routed := kept.sent_routed call sent
        exact ⟨call.1, kept.entry_created _ routed, address _ _ routed⟩
      · rintro ⟨x, created, rfl⟩
        obtain ⟨call, sent, rfl⟩ := kept.created_sent x created
        exact ⟨call, sent, (address _ _ (kept.sent_routed call sent)).symm⟩
    rw [addressed, List.toFinset_card_of_nodup kept.created_nodup, List.length_map]
  · exact shared _ _ _ _ (kept.sent_routed call sent) (kept.sent_routed other sent') same

theorem Routing.Kept.keepsConnections (kept : s.Kept)
    (stepped : routingSystem.step s label = some s') : KeepsConnections s s' := by
  obtain ⟨r', moved, rfl⟩ := routingSystem_step stepped
  obtain ⟨nothing, keeps⟩ | ⟨x, msg, call, outcome⟩ :=
    step_routes kept.consistent.tables moved
  · refine ⟨keeps.token2sock_eq ▸ List.prefix_rfl, fun x msg equal => ?_⟩
    simp [nothing] at equal
  · refine ⟨?_, fun y msg' equal => ?_⟩
    · obtain same | grown := outcome.table
      · exact same ▸ List.prefix_rfl
      · exact grown ▸ List.prefix_append _ _
    · simp only [call, Option.toList_some, List.append_cancel_left_eq, List.cons.injEq,
        Prod.mk.injEq, and_true] at equal
      obtain ⟨rfl, rfl⟩ := equal
      by_cases isNew : x = s.runtime.world.nextSock
      · have fresh : x ∉ s.created := fun member =>
          Nat.ne_of_lt (kept.created_old member) isNew
        rw [if_neg fresh, (outcome.created isNew).2.2]
        rfl
      · obtain ⟨_, ⟨token, known⟩, queue⟩ := outcome.found isNew
        rw [if_pos (kept.entry_created (token, x) known), queue]

end Kept

/-- Right after `Init` there is no entry. -/
theorem Runtime.DeviceReady.token2sock {r : Runtime} {token2Dptr : Token → Address}
    {token2DptrSize : Token → BitVec 64} {token2Ip : Token → SockAddr}
    (ready : r.DeviceReady token2Dptr token2DptrSize token2Ip) :
    r.world.device.token2sock = [] := by
  obtain ⟨blank, sys, isBlank, done⟩ := ready.initialised
  obtain ⟨⟨rc, started⟩, starting, rest⟩ := bind_eq_ok.mp done
  obtain ⟨⟨rc', bound⟩, binding, rest⟩ := bind_eq_ok.mp rest
  obtain ⟨⟨rc'', listening⟩, listen, pairing⟩ := bind_eq_ok.mp rest
  have prepared : SocketSteps .all _ listening :=
    ((start_steps starting).trans (bind_steps binding)).trans (listen_steps listen)
  have paired : SocketSteps .all _ r.world := accept_steps pairing
  rw [paired.sameDevice.device_eq]
  exact (congrArg NetDevice.token2sock prepared.sameDevice.device_eq).trans isBlank.token2sock

/-- What holds in every state that a device reaches. -/
theorem Runtime.DeviceReady.routing {token2Dptr : Token → Address}
    {token2DptrSize : Token → BitVec 64} {token2Ip : Token → SockAddr} {initial : Runtime}
    {labels : List (RuntimeLabel DeviceCall)} {s : Routing}
    (ready : initial.DeviceReady token2Dptr token2DptrSize token2Ip)
    (execution : routingSystem.run ⟨initial, [], []⟩ labels = some s) :
    s.Kept ∧ s.runtime.world.device.token2Ip = token2Ip := by
  have preserved (before : Routing) (label : RuntimeLabel DeviceCall) (after : Routing)
      (kept : before.Kept ∧ before.runtime.world.device.token2Ip = token2Ip)
      (stepped : routingSystem.step before label = some after) :
      after.Kept ∧ after.runtime.world.device.token2Ip = token2Ip := by
    obtain ⟨r', moved, rfl⟩ := routingSystem_step stepped
    have grows := (kept.1.consistent.runtimeStep (Owner.step_runtimeStep moved)).2
    exact ⟨kept.1.step stepped, grows.token2Ip_eq.trans kept.2⟩
  obtain ⟨consistent, configured⟩ := ready.consistent
  have start : Routing.Kept ⟨initial, [], []⟩ := by
    refine ⟨consistent, ?_, ?_, ?_, ?_, List.nodup_nil⟩ <;> simp [ready.token2sock]
  exact run_invariant preserved ⟨start, configured⟩ execution

/-- From `Init` on, whatever the process does and in whatever order the entries are iterated: there
is one outbound connection for each machine that was addressed, and the messages for the machine are
enqueued on it in the order of the calls. -/
theorem one_connection_per_machine {token2Dptr : Token → Address}
    {token2DptrSize : Token → BitVec 64} {token2Ip : Token → SockAddr} {initial : Runtime}
    {labels : List (RuntimeLabel DeviceCall)} {s : Routing}
    (ready : initial.DeviceReady token2Dptr token2DptrSize token2Ip)
    (execution : routingSystem.run ⟨initial, [], []⟩ labels = some s) :
    OneConnection token2Ip s ∧
      ∀ label s', routingSystem.step s label = some s' → KeepsConnections s s' := by
  obtain ⟨kept, rfl⟩ := ready.routing execution
  exact ⟨kept.oneConnection, fun label s' => kept.keepsConnections⟩

/-- The odd tokens live on one machine and the even ones on another. -/
def parityAddress (token : Token) : SockAddr := ⟨2, 80, token.setWidth 32 &&& 1⟩

/-- A device right after `Init` with two machines around it. -/
def parityDevice : Runtime := .initialised (fun _ => 1) (fun _ => 8) parityAddress

theorem parityDevice_ready :
    parityDevice.DeviceReady (fun _ => 1) (fun _ => 8) parityAddress :=
  Runtime.initialised_ready (by decide +kernel)

/-- Three messages for two machines create two sockets. -/
theorem one_connection_per_machine_parity :
    ∃ s, routingSystem.run ⟨parityDevice, [], []⟩
        [.call { socket := .fd 4 } (.sendData 9 1), .call { socket := .fd 5 } (.sendData 9 2),
          .call {} (.sendData 9 3)] = some s ∧
      s.sent.map Prod.fst = [2, 3, 2] ∧ s.created = [2, 3] ∧ OneConnection parityAddress s := by
  have observed : (routingSystem.run ⟨parityDevice, [], []⟩
      [.call { socket := .fd 4 } (.sendData 9 1), .call { socket := .fd 5 } (.sendData 9 2),
        .call {} (.sendData 9 3)]).any
      (fun s => s.sent.map Prod.fst = [2, 3, 2] ∧ s.created = [2, 3]) = true := by decide +kernel
  obtain ⟨s, execution, facts⟩ := (Option.any_eq_true _ _).mp observed
  obtain ⟨sent, created⟩ := of_decide_eq_true facts
  exact ⟨s, execution, sent, created,
    (one_connection_per_machine parityDevice_ready execution).1⟩

end Klibmsg
