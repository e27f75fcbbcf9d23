import Mathlib.Data.List.Basic

/-!
# The completion channel

The critical sections of `Channel`.  The wait of `Receive` is not part of them: `receive` is the
body that runs once its predicate holds.
-/

namespace Klibmsg

/-- `Channel<T>`: the queued values and the two close flags. -/
structure Channel (α : Type) where
  val : List α
  isSendClosed : Bool
  isReceiveClosed : Bool

namespace Channel

variable {α : Type}

/-- A new channel. -/
def new : Channel α := ⟨[], false, false⟩

/-- `Channel::Send`. -/
def send (channel : Channel α) (item : α) : Int × Channel α :=
  if channel.isSendClosed then (-1, channel)
  else (0, { channel with val := channel.val ++ [item] })

/-- `Channel::Receive` after its wait. -/
def receive (channel : Channel α) : Option α × Channel α :=
  match channel.val with
  | [] => (none, channel)
  | item :: rest =>
      if channel.isReceiveClosed then (none, channel) else (some item, { channel with val := rest })

/-- `Channel::CloseSendEnd`. -/
def closeSendEnd (channel : Channel α) : Channel α := { channel with isSendClosed := true }

/-- `Channel::CloseReceiveEnd`. -/
def closeReceiveEnd (channel : Channel α) : Channel α := { channel with isReceiveClosed := true }

end Channel
end Klibmsg
