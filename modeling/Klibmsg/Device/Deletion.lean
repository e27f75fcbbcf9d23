import Klibmsg.Device.Process
import Klibmsg.Runtime.Delivery

/-!
# Deleting a socket

A shutdown event is raised together with the stop task of the socket, and the device deletes the
socket when the event is delivered.  Nothing is ever taken out of `sock_sets_`, so every socket that
is deleted is still referred to.
-/

namespace Klibmsg

open StepSystem

/-- Nothing in the process refers to the socket. -/
structure Runtime.Unreferenced (r : Runtime) (x : SockId) : Prop where
  no_task : ∀ k, ∀ task ∈ (r.thread k).tasks ++ (r.world.worker k).tasks, task.sock ≠ x
  no_event : ∀ place, ∀ event ∈ places r.world r.thread place, event.sock ≠ x
  unregistered : ∀ fd event, (r.world.pollerOf x).interest fd = some event → event.data ≠ .sock x
  closed : (r.world.sock x).s = -1
  no_token : ∀ token, (token, x) ∉ r.world.device.token2sock
  no_set : x ∉ r.world.device.sockSets
  no_asock : ∀ y, (r.world.sock y).asock ≠ some x

/-- Whenever a step of a device deletes a socket, `sock_sets_` still refers to it. -/
theorem deleted_while_referenced {token2Dptr : Token → Address}
    {token2DptrSize : Token → BitVec 64} {token2Ip : Token → SockAddr} {initial r r' : Runtime}
    {labels : List (RuntimeLabel DeviceCall)} {label : RuntimeLabel DeviceCall} {x : SockId}
    (ready : initial.DeviceReady token2Dptr token2DptrSize token2Ip)
    (execution : deviceOwner.system.run initial labels = some r)
    (stepped : deviceOwner.step r label = some r') (alive : x ∉ r.world.freed)
    (deleted : x ∈ r'.world.freed) : x ∈ r'.world.device.sockSets ∧ ¬r'.Unreferenced x := by
  have consistent := (run_consistent ready.consistent.1 execution).1
  have grows := (consistent.runtimeStep (Owner.step_runtimeStep stepped)).2
  have member := (grows.freed_known deleted).resolve_left alive
  exact ⟨member, fun unreferenced => unreferenced.no_set member⟩

/-- A device with a memory of eight bytes behind every token. -/
def readyDevice : Runtime := .initialised (fun _ => 1) (fun _ => 8) fun _ => default

theorem readyDevice_ready :
    readyDevice.DeviceReady (fun _ => 1) (fun _ => 8) (fun _ => default) :=
  Runtime.initialised_ready (by decide +kernel)

/-- A message is sent over a connection that is made at once, and the socket is stopped.  Its
worker executes the first of the queued tasks and delivers the connection. -/
def stoppedSender : List (RuntimeLabel DeviceCall) :=
  [.call { socket := .fd 4, connect := 0 } (.sendData 1 2), .call {} (.socket (.asyncStop 2)),
    .snapshot 2, .pop 2, .advance 2 {}, .advance 2 {}, .advance 2 {}, .advance 2 {}]

theorem stoppedSender_deletes : ∃ r r', deviceOwner.system.run readyDevice stoppedSender = some r ∧
    deviceOwner.step r (.advance 2 {}) = some r' ∧ r.world.freed = [] ∧ r'.world.freed = [2] ∧
    (r'.thread 2).tasks = [⟨2, .send⟩, ⟨2, .stop⟩] ∧ (r'.world.sock 2).s = 4 ∧
    r'.world.fds 4 = true ∧ r'.world.device.token2sock = [(2, 2)] := by
  have observed : (deviceOwner.system.run readyDevice stoppedSender).any (fun r =>
      (deviceOwner.step r (.advance 2 {})).any fun r' => r.world.freed = [] ∧ r'.world.freed = [2] ∧
        (r'.thread 2).tasks = [⟨2, .send⟩, ⟨2, .stop⟩] ∧ (r'.world.sock 2).s = 4 ∧
        r'.world.fds 4 = true ∧ r'.world.device.token2sock = [(2, 2)]) = true := by
    decide +kernel
  obtain ⟨r, execution, next⟩ := (Option.any_eq_true _ _).mp observed
  obtain ⟨r', stepped, facts⟩ := (Option.any_eq_true _ _).mp next
  exact ⟨r, r', execution, stepped, of_decide_eq_true facts⟩

theorem deleted_while_referenced_stoppedSender :
    ∃ r r', deviceOwner.system.run readyDevice stoppedSender = some r ∧
      deviceOwner.step r (.advance 2 {}) = some r' ∧ 2 ∈ r'.world.device.sockSets ∧
      ¬r'.Unreferenced 2 := by
  obtain ⟨r, r', execution, stepped, alive, deleted, _⟩ := stoppedSender_deletes
  exact ⟨r, r', execution, stepped, deleted_while_referenced readyDevice_ready execution stepped
    (by simp [alive]) (by simp [deleted])⟩

/-- The socket is deleted while two of its tasks are queued, its descriptor is open and messages
are routed to it. -/
theorem socket_deleted_with_queued_tasks :
    ∃ r r', readyDevice.DeviceReady (fun _ => 1) (fun _ => 8) (fun _ => default) ∧
      deviceOwner.system.run readyDevice stoppedSender = some r ∧
      deviceOwner.step r (.advance 2 {}) = some r' ∧ r.world.freed = [] ∧ r'.world.freed = [2] ∧
      (r'.thread 2).tasks = [⟨2, .send⟩, ⟨2, .stop⟩] ∧ (r'.world.sock 2).s = 4 ∧
      r'.world.fds 4 = true ∧ r'.world.device.token2sock = [(2, 2)] ∧ ¬r'.Unreferenced 2 := by
  obtain ⟨r, r', execution, stepped, alive, deleted, tasks, descriptor, is_open, routed⟩ :=
    stoppedSender_deletes
  refine ⟨r, r', readyDevice_ready, execution, stepped, alive, deleted, tasks, descriptor, is_open,
    routed, fun unreferenced => ?_⟩
  exact unreferenced.no_token 2 (by simp [routed])

end Klibmsg
