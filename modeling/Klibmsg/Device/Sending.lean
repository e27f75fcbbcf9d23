import Klibmsg.Device.Routing

/-!
# Messages that cannot be sent

`SendMsg` looks neither at what `Start` returns nor at the state in which `Connect` leaves the
socket, and it never looks at the state of a socket that is not idle.  It returns zero in any case.
-/

namespace Klibmsg

open StepSystem

variable {w w' : World} {sys : Sys} {x y : SockId} {token : Token}

/-- `connect` on the descriptor -1, which a failed `socket` leaves, is refused. -/
def Sys.Refuses (sys : Sys) : Prop := ∀ errno, sys.socket = .fails errno → sys.connect = EBADF

/-- The part of `SendMsg` that starts an idle socket ends with a socket that is connected or about
to be exactly when it finds one, or starts one and connects it. -/
theorem ensureStarted_canSend_iff (refuses : sys.Refuses)
    (done : ensureStarted sys x w = .ok w') :
    (w'.sock x).CanSend ↔
      (w.sock x).isIdle = false ∧ (w.sock x).CanSend ∨
        (w.sock x).isIdle = true ∧ (w.sock x).state = .idle ∧ (∃ fd, sys.socket = .fd fd) ∧
          sys.Connects := by
  simp only [ensureStarted] at done
  split_ifs at done with _ idle
  · simp only [idle, Bool.true_eq_false, false_and, false_or, true_and]
    obtain ⟨⟨rc, started⟩, starting, connecting⟩ := bind_eq_ok.mp done
    obtain ⟨_, ⟨⟨errno, failed⟩, same⟩ | ⟨opened, active, moved⟩⟩ := start_outcome starting
    · have running : (started.sock x).fsm.state ≠ .stopping := by
        simp only [NetSocket.isIdle, Bool.and_eq_true, decide_eq_true_eq] at idle
        rw [same, idle.1]
        decide
      have refused : ¬sys.Connects := by
        rw [Sys.Connects, refuses errno failed]
        decide
      exact iff_of_false ((connect_outcome running connecting).fails refused)
        fun sends => refused sends.2.2
    · have running : (started.sock x).fsm.state ≠ .stopping := by
        rw [active]
        decide
      obtain ⟨_, fails, connects, accepted⟩ := connect_outcome running connecting
      obtain ⟨state, starting⟩ | ⟨state, waiting⟩ := moved
      · exact ⟨fun sends => ⟨state, opened, not_not.mp fun refused => fails refused sends⟩,
          fun sends => connects (.inr starting) sends.2.2⟩
      · exact iff_of_false (accepted waiting) fun sends => by simp [state] at sends
  · cases done
    simp [idle]

/-- The socket belongs to the token, by its entry or by its address. -/
def World.Serves (w : World) (token : Token) (x : SockId) : Prop :=
  w.device.token2Socket token = some x ∨
    w.device.token2Socket token = none ∧ (∃ other, (other, x) ∈ w.device.token2sock) ∧
      (w.sock x).ipAddr = w.device.token2Ip token

/-- There is an open or opening connection to the machine of the token, or one can be made: the
socket of the machine, if there is one, is idle, and the system does not refuse it. -/
def CanReach (w : World) (sys : Sys) (token : Token) : Prop :=
  (∃ x, w.Serves token x ∧ (w.sock x).isIdle = false ∧ (w.sock x).CanSend) ∨
    (∀ x, w.Serves token x → (w.sock x).isIdle = true ∧ (w.sock x).state = .idle) ∧
      (∃ fd, sys.socket = .fd fd) ∧ sys.Connects

/-- The message is at the tail of the queue of a socket that is connected or about to be, for the
machine of its destination token. -/
structure SentLive (msg : NetMsg) (w : World) (x : SockId) (w' : World) : Prop where
  live : (w'.sock x).CanSend
  address : (w'.sock x).ipAddr = w.device.token2Ip msg.dst
  tail : (w'.sock x).msgBufferQueue.getLast? = some msg

theorem serves_entry (serves : w.Serves token x) (tables : w.Tables) :
    ∃ other, (other, x) ∈ w.device.token2sock ∧ (w.sock x).ipAddr = w.device.token2Ip token := by
  obtain entry | ⟨_, ⟨other, member⟩, address⟩ := serves
  · have member := mem_of_token2Socket entry
    exact ⟨token, member, (tables.routed member).1⟩
  · exact ⟨other, member, address⟩

theorem isIdle_createSocket (w : World) (addr : SockAddr) :
    ((w.createSocket addr).2.sock w.nextSock).isIdle = true ∧
      ((w.createSocket addr).2.sock w.nextSock).state = .idle := by
  simp [World.createSocket, World.newNetSocket, World.socketInit, World.chooseWorker,
    NetSocket.initialised, NetSocket.isIdle, NetFsmEvent.init]

/-- The socket that `SendMsg` selects is the one that belongs to the token, or a new one. -/
theorem routeMsg_serves {routed : World} (tables : w.Tables)
    (routing : w.routeMsg sys token = .ok (x, routed)) :
    w.Serves token x ∧ routed.sock x = w.sock x ∨
      (∀ y, ¬w.Serves token y) ∧ (routed.sock x).isIdle = true ∧
        (routed.sock x).state = .idle := by
  cases routeMsg_routed routing with
  | cached entry => exact .inl ⟨.inl entry, rfl⟩
  | shared missing address known => exact .inl ⟨.inr ⟨missing, known, address⟩, rfl⟩
  | created missing =>
      have fresh := routeMsg_fresh tables routing
      refine .inr ⟨fun y serves => ?_, isIdle_createSocket w _⟩
      obtain ⟨other, member, address⟩ := serves_entry serves tables
      exact fresh _ member address

/-- In a state in which the entries of one address share a socket, `SendMsg` enqueues the message
on a live socket exactly when the machine can be reached. -/
theorem sendMsgTo_live_iff {msg : NetMsg} (tables : w.Tables)
    (shared : ∀ entry ∈ w.device.token2sock, ∀ other ∈ w.device.token2sock,
      (w.sock entry.2).ipAddr = (w.sock other.2).ipAddr → entry.2 = other.2)
    (refuses : sys.Refuses) (done : sendMsgTo sys msg w = .ok (x, w')) :
    SentLive msg w x w' ↔ CanReach w sys msg.dst := by
  have address := (sendMsgTo_steps tables done).2
  obtain ⟨⟨y, routed⟩, routing, rest⟩ := bind_eq_ok.mp done
  obtain ⟨started, starting, returned⟩ := bind_eq_ok.mp rest
  cases returned
  have unique {first second : SockId} (left : w.Serves msg.dst first)
      (right : w.Serves msg.dst second) : first = second := by
    obtain ⟨other, member, address⟩ := serves_entry left tables
    obtain ⟨other', member', address'⟩ := serves_entry right tables
    exact shared _ member _ member' (address.trans address'.symm)
  have state : ((started.asyncSendMsg x msg).sock x).state = (started.sock x).state := by
    rw [World.asyncSendMsg, World.state_execute, World.pushMsg, World.state_modify _ _ _ rfl]
  have tail : ((started.asyncSendMsg x msg).sock x).msgBufferQueue.getLast? = some msg := by
    rw [asyncSendMsg_queue, List.getLast?_concat]
  have live : SentLive msg w x (started.asyncSendMsg x msg) ↔ (started.sock x).CanSend := by
    simp only [NetSocket.CanSend, ← state]
    exact ⟨fun sent => sent.live, fun live => ⟨live, address, tail⟩⟩
  rw [live, ensureStarted_canSend_iff refuses starting]
  obtain ⟨serves, same⟩ | ⟨unserved, idle, fresh⟩ := routeMsg_serves tables routing
  · rw [same]
    constructor
    · rintro (⟨busy, live⟩ | ⟨idle, fresh, answers⟩)
      · exact .inl ⟨x, serves, busy, live⟩
      · exact .inr ⟨fun y other => unique serves other ▸ ⟨idle, fresh⟩, answers⟩
    · rintro (⟨y, other, busy, live⟩ | ⟨idle, answers⟩)
      · rw [unique other serves] at busy live
        exact .inl ⟨busy, live⟩
      · exact .inr ⟨(idle x serves).1, (idle x serves).2, answers⟩
  · constructor
    · rintro (⟨busy, _⟩ | ⟨_, _, answers⟩)
      · simp [idle] at busy
      · exact .inr ⟨fun y serves => absurd serves (unserved y), answers⟩
    · rintro (⟨y, serves, _⟩ | ⟨_, answers⟩)
      · exact absurd serves (unserved y)
      · exact .inr ⟨idle, fresh, answers⟩

/-- A run of the device is a run with its calls of `SendMsg`. -/
theorem routingSystem_run {r r' : Runtime} {labels : List (RuntimeLabel DeviceCall)}
    (execution : deviceOwner.system.run r labels = some r') (sent : List (SockId × NetMsg))
    (created : List SockId) :
    ∃ s, routingSystem.run ⟨r, sent, created⟩ labels = some s ∧ s.runtime = r' := by
  induction labels generalizing r sent created with
  | nil =>
      cases execution
      exact ⟨_, rfl, rfl⟩
  | cons label labels ih =>
      obtain ⟨next, stepped, remaining⟩ := run_cons_eq_some.mp execution
      have moved : deviceOwner.step r label = some next := stepped
      obtain ⟨s, continued, same⟩ := ih remaining (sent ++ (stepSent r label).toList)
        (created ++ stepCreated r next label)
      refine ⟨s, run_cons_eq_some.mpr ⟨_, ?_, continued⟩, same⟩
      simp [routingSystem, moved]

/-- In every state that a device reaches: `SendMsg`, which always returns zero, leaves its message
on a socket that is connected or about to be exactly when the machine can be reached. -/
theorem sent_live_iff {token2Dptr : Token → Address} {token2DptrSize : Token → BitVec 64}
    {token2Ip : Token → SockAddr} {initial r : Runtime} {labels : List (RuntimeLabel DeviceCall)}
    {msg : NetMsg} (ready : initial.DeviceReady token2Dptr token2DptrSize token2Ip)
    (execution : deviceOwner.system.run initial labels = some r) (refuses : sys.Refuses)
    (done : sendMsgTo sys msg r.world = .ok (x, w')) :
    SentLive msg r.world x w' ↔ CanReach r.world sys msg.dst := by
  obtain ⟨s, recorded, rfl⟩ := routingSystem_run execution [] []
  have kept := (ready.routing recorded).1
  exact sendMsgTo_live_iff kept.consistent.tables kept.shared refuses done

/-- There is no descriptor left. -/
def exhausted : Sys := { socket := .fails EMFILE, connect := EBADF }

/-- A message for token 1 has opened a connection, which token 3 shares and token 2 does not. -/
theorem sent_live_iff_exhausted :
    ∃ r, deviceOwner.system.run parityDevice [.call { socket := .fd 4 } (.sendData 9 1)] = some r ∧
      (∃ x w', sendMsgTo exhausted (dataMsg 1 3 8) r.world = .ok (x, w') ∧
        (SentLive (dataMsg 1 3 8) r.world x w' ↔ CanReach r.world exhausted 3) ∧
          SentLive (dataMsg 1 3 8) r.world x w') ∧
      ∃ x w', sendMsgTo exhausted (dataMsg 1 2 8) r.world = .ok (x, w') ∧
        (SentLive (dataMsg 1 2 8) r.world x w' ↔ CanReach r.world exhausted 2) ∧
          ¬SentLive (dataMsg 1 2 8) r.world x w' := by
  have observed : (deviceOwner.system.run parityDevice
      [.call { socket := .fd 4 } (.sendData 9 1)]).any (fun r =>
        (sendMsgTo exhausted (dataMsg 1 3 8) r.world).toOption.any (fun result =>
          (result.2.sock result.1).CanSend ∧
            (result.2.sock result.1).ipAddr = r.world.device.token2Ip 3 ∧
              (result.2.sock result.1).msgBufferQueue.getLast? = some (dataMsg 1 3 8)) ∧
          (sendMsgTo exhausted (dataMsg 1 2 8) r.world).toOption.any (fun result =>
            (result.2.sock result.1).state = .done)) = true := by decide +kernel
  obtain ⟨r, execution, facts⟩ := (Option.any_eq_true _ _).mp observed
  obtain ⟨shared, alone⟩ := of_decide_eq_true facts
  obtain ⟨⟨x, w⟩, sending, live⟩ := (Option.any_eq_true _ _).mp shared
  obtain ⟨⟨y, v⟩, refused, state⟩ := (Option.any_eq_true _ _).mp alone
  have refuses : exhausted.Refuses := fun _ _ => rfl
  obtain ⟨live, address, tail⟩ : (w.sock x).CanSend ∧
    (w.sock x).ipAddr = r.world.device.token2Ip 3 ∧
      (w.sock x).msgBufferQueue.getLast? = some (dataMsg 1 3 8) := of_decide_eq_true live
  refine ⟨r, execution, ⟨x, w, ok_of_toOption sending, ?_, ⟨live, address, tail⟩⟩,
    ⟨y, v, ok_of_toOption refused, ?_, fun sent => ?_⟩⟩
  · exact sent_live_iff parityDevice_ready execution refuses (ok_of_toOption sending)
  · exact sent_live_iff parityDevice_ready execution refuses (ok_of_toOption refused)
  · have closed : (v.sock y).state = .done := of_decide_eq_true state
    have live := sent.live
    simp [NetSocket.CanSend, closed] at live

/-- The first message for a machine, when there is no descriptor left: the socket is closed, and
the message stays in its queue. -/
theorem sent_on_closed_socket :
    ∃ x w', sendMsgTo { socket := .fails EMFILE, connect := EBADF } (dataMsg 1 2 8)
        parityDevice.world = .ok (x, w') ∧
      (w'.sock x).state = .done ∧ (w'.sock x).msgBufferQueue = [dataMsg 1 2 8] ∧
      ¬SentLive (dataMsg 1 2 8) parityDevice.world x w' := by
  have observed : (sendMsgTo { socket := .fails EMFILE, connect := EBADF } (dataMsg 1 2 8)
      parityDevice.world).toOption.any (fun result => (result.2.sock result.1).state = .done ∧
        (result.2.sock result.1).msgBufferQueue = [dataMsg 1 2 8]) = true := by decide +kernel
  obtain ⟨⟨x, w'⟩, done, facts⟩ := (Option.any_eq_true _ _).mp observed
  obtain ⟨closed, queued⟩ : (w'.sock x).state = .done ∧
    (w'.sock x).msgBufferQueue = [dataMsg 1 2 8] := of_decide_eq_true facts
  refine ⟨x, w', ok_of_toOption done, closed, queued, fun sent => ?_⟩
  have live := sent.live
  simp [NetSocket.CanSend, closed] at live

end Klibmsg
