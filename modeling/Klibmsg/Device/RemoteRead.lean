import Klibmsg.Device.Process

/-!
# Reading the memory of another machine

`ReadData` puts the token of the local buffer into the field by which `SendMsg` routes, so the
request is enqueued for the machine that makes it.  The answer, which swaps nothing, would be routed
to the right machine.
-/

namespace Klibmsg

open StepSystem

section TokenWorld

variable {Machine : Type} (owner : Token → Machine) (address : Machine → SockAddr)

/-- A state that the device of a machine reaches, when all machines agree on the owners of tokens
and on the addresses of machines, and a token is backed by memory on its owner only. -/
structure Runtime.OnMachine (machine : Machine) (r : Runtime) : Prop where
  reached : ∃ (token2Dptr : Token → Address) (token2DptrSize : Token → BitVec 64)
      (initial : Runtime) (labels : List (RuntimeLabel DeviceCall)),
    (∀ token, token2Dptr token ≠ 0 ↔ owner token = machine) ∧
      (∀ token, token2DptrSize token ≠ -1 ↔ owner token = machine) ∧
      initial.DeviceReady token2Dptr token2DptrSize (fun token => address (owner token)) ∧
      deviceOwner.system.run initial labels = some r

/-- The message is enqueued on a socket with the address. -/
def EnqueuedFor (sys : Sys) (msg : NetMsg) (w : World) (addr : SockAddr) : Prop :=
  ∃ x w', sendMsgTo sys msg w = .ok (x, w') ∧ (w'.sock x).ipAddr = addr

/-- The message with which `ParseNetMsg` answers a read request. -/
def replyMsg (w : World) (request : NetMsg) : NetMsg :=
  dataMsg (w.device.token2Dptr request.src) request.dst (w.device.token2DptrSize request.src)

/-- The request of `ReadData` goes to the machine `there`, whose answer comes back to `here`, and a
data message for the token hands the callback over. -/
structure RemoteRead (sys : Sys) (here there : World) (a b : Token) (callback : Callback)
    (addrHere addrThere : SockAddr) : Prop where
  request : EnqueuedFor sys (readMsg a b)
    (here.modifyDevice (·.emplaceCallback a callback)) addrThere
  reply : ∀ sys x w, sendMsgTo sys (replyMsg there (readMsg a b)) there = .ok (x, w) →
    (w.sock x).ipAddr = addrHere
  completion : ∀ w w', w.device.token2callback a = some callback →
    w.device.cq.isSendClosed = false →
    parseNetMsg sys (replyMsg there (readMsg a b)) w = .ok w' → callback ∈ sentCallbacks w'.trace

variable {owner address}

/-- Every message that a device sends goes to the owner of its destination token. -/
theorem sendMsgTo_ownerAddress {machine : Machine} {r : Runtime}
    (reached : r.OnMachine owner address machine) {w w' : World} {sys : Sys} {msg : NetMsg}
    {x : SockId} (same : w.Tables ∧ w.device.token2Ip = r.world.device.token2Ip)
    (done : sendMsgTo sys msg w = .ok (x, w')) :
    (w'.sock x).ipAddr = address (owner msg.dst) := by
  obtain ⟨dptr, size, initial, labels, _, _, ready, execution⟩ := reached.reached
  obtain ⟨consistent, token2Ip⟩ := ready.consistent
  have grows := (run_consistent consistent execution).2
  rw [(sendMsgTo_steps same.1 done).2, same.2, grows.token2Ip_eq, token2Ip]

theorem Runtime.OnMachine.tables {machine : Machine} {r : Runtime}
    (reached : r.OnMachine owner address machine) : r.world.Tables := by
  obtain ⟨dptr, size, initial, labels, _, _, ready, execution⟩ := reached.reached
  exact (run_consistent ready.consistent.1 execution).1.tables

/-- The request of `ReadData` is enqueued for the owner of the local buffer. -/
theorem request_enqueuedFor {machine : Machine} {r : Runtime}
    (reached : r.OnMachine owner address machine) {sys : Sys} {a b : Token} {callback : Callback}
    {addr : SockAddr} (enqueued : EnqueuedFor sys (readMsg a b)
      (r.world.modifyDevice (·.emplaceCallback a callback)) addr) : addr = address (owner a) := by
  have stored : DeviceStep r.world (r.world.modifyDevice (·.emplaceCallback a callback)) :=
    .emplaceCallback _ a callback
  obtain ⟨x, w', sent, equal⟩ := enqueued
  rw [← equal]
  exact sendMsgTo_ownerAddress reached ⟨stored.tables reached.tables, stored.grows.token2Ip_eq⟩ sent

theorem not_remoteRead {here there : Runtime} {a b : Token}
    (ownsA : here.OnMachine owner address (owner a))
    (distinct : address (owner a) ≠ address (owner b)) (sys : Sys) (callback : Callback) :
    ¬RemoteRead sys here.world there.world a b callback (address (owner a))
      (address (owner b)) := by
  intro read
  exact distinct (request_enqueuedFor ownsA read.request).symm

/-- Whatever the two devices have done before, the request of `ReadData` is enqueued for the machine
that makes it and never for the owner of the memory to be read. -/
theorem request_routed_to_itself {here there : Runtime} {a b : Token}
    (ownsA : here.OnMachine owner address (owner a))
    (ownsB : there.OnMachine owner address (owner b))
    (distinct : address (owner a) ≠ address (owner b)) (sys : Sys) (callback : Callback) :
    ¬RemoteRead sys here.world there.world a b callback (address (owner a)) (address (owner b)) ∧
      (∀ w', readData sys a b callback here.world = .ok w' →
        EnqueuedFor sys (readMsg a b)
          (here.world.modifyDevice (·.emplaceCallback a callback)) (address (owner a))) ∧
      ∀ sys x w, sendMsgTo sys (replyMsg there.world (readMsg a b)) there.world = .ok (x, w) →
        (w.sock x).ipAddr = address (owner a) := by
  refine ⟨not_remoteRead ownsA distinct sys callback, fun w' done => ?_, fun sys x w sent => ?_⟩
  · obtain ⟨x, sent⟩ := sendMsg_to done
    exact ⟨x, w', sent, request_enqueuedFor ownsA ⟨x, w', sent, rfl⟩⟩
  · exact sendMsgTo_ownerAddress ownsB ⟨ownsB.tables, rfl⟩ sent

end TokenWorld

/-! ## Two machines -/

/-- Machine `true` owns token 2, machine `false` the others. -/
def ownerOfTwo (token : Token) : Bool := token = 2

/-- The addresses of the two machines. -/
def addressOf (machine : Bool) : SockAddr := ⟨2, 80, if machine then 2 else 1⟩

/-- The device of one of the machines right after `Init`; every token has eight bytes. -/
def deviceOf (machine : Bool) : Runtime :=
  .initialised (fun token => if ownerOfTwo token = machine then 1 else 0)
    (fun token => if ownerOfTwo token = machine then 8 else -1)
    fun token => addressOf (ownerOfTwo token)

theorem deviceOf_onMachine (machine : Bool) :
    (deviceOf machine).OnMachine ownerOfTwo addressOf machine where
  reached := by
    refine ⟨_, _, deviceOf machine, [], fun token => ?_, fun token => ?_,
      Runtime.initialised_ready ?_, rfl⟩
    · split <;> simp_all
    · split <;> simp_all
    · cases machine <;> decide +kernel

theorem request_routed_to_itself_two_machines :
    ¬RemoteRead { socket := .fd 4 } (deviceOf false).world (deviceOf true).world 1 2 0
        (addressOf false) (addressOf true) :=
  (request_routed_to_itself (a := 1) (b := 2) (deviceOf_onMachine false) (deviceOf_onMachine true)
    (by decide) { socket := .fd 4 } 0).1

/-- The only socket that the request for token 2 creates has the address of the machine itself. -/
theorem request_loops_back :
    ∃ w', readData { socket := .fd 4 } 1 2 0 (deviceOf false).world = .ok w' ∧
      (w'.sock 2).msgBufferQueue = [readMsg 1 2] ∧ (w'.sock 2).ipAddr = addressOf false ∧
      w'.device.token2sock = [(1, 2)] ∧
      ¬RemoteRead { socket := .fd 4 } (deviceOf false).world (deviceOf true).world 1 2 0
        (addressOf false) (addressOf true) := by
  have observed : (readData { socket := .fd 4 } 1 2 0 (deviceOf false).world).toOption.any
      (fun w' => (w'.sock 2).msgBufferQueue = [readMsg 1 2] ∧
        (w'.sock 2).ipAddr = addressOf false ∧ w'.device.token2sock = [(1, 2)]) = true := by
    decide +kernel
  obtain ⟨w', done, facts⟩ := (Option.any_eq_true _ _).mp observed
  obtain ⟨queue, addr, routed⟩ := of_decide_eq_true facts
  exact ⟨w', ok_of_toOption done, queue, addr, routed,
    not_remoteRead (a := 1) (b := 2) (deviceOf_onMachine false) (by decide) _ 0⟩

end Klibmsg
