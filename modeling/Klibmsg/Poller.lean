import Klibmsg.Utils
import Mathlib.Logic.Function.Basic

/-!
# The poller

`NetPoller` keeps the batch of the last `epoll_wait` and changes the kernel's interest list through
`epoll_ctl`.  Handles are compared by address only, so the model is generic in the type of handles.
A failing `epoll_ctl` has no effect, because the source never looks at its result.
-/

namespace Klibmsg

def EPOLLIN : BitVec 32 := 1
def EPOLLOUT : BitVec 32 := 4

/-- `NetPollerHandle`: the remembered descriptor and the remembered interest mask. -/
structure NetPollerHandle where
  fd : Fd
  events : BitVec 32
deriving DecidableEq, Repr, Inhabited

/-- `struct epoll_event`, as an entry of a batch and as an entry of the interest list. -/
structure EpollEvent (η : Type) where
  events : BitVec 32
  data : η
deriving DecidableEq, Repr

/-- `NetPoller` with the kernel's interest list of its epoll descriptor. -/
structure NetPoller (η : Type) where
  nevents : Int
  index : Nat
  /-- The array `events_`. -/
  events : List (EpollEvent η)
  /-- Registrations by descriptor number. -/
  interest : Fd → Option (EpollEvent η)

namespace NetPoller

variable {η : Type} [DecidableEq η]

/-- Loop `for (i = index_; i < nevents_; ++i)` over the entries from `i` on. -/
def scanLt (update : EpollEvent η → EpollEvent η) (nevents : Int) :
    Nat → List (EpollEvent η) → Option (List (EpollEvent η))
  | i, entries =>
    if (i : Int) < nevents then
      match entries with
      | [] => none
      | entry :: rest => (scanLt update nevents (i + 1) rest).map (update entry :: ·)
    else
      some entries

/-- Loop `for (i = index_; i != nevents_; ++i)` over the entries from `i` on. -/
def scanNe (update : EpollEvent η → EpollEvent η) (nevents : Int) :
    Nat → List (EpollEvent η) → Option (List (EpollEvent η))
  | i, entries =>
    if (i : Int) ≠ nevents then
      match entries with
      | [] => none
      | entry :: rest => (scanNe update nevents (i + 1) rest).map (update entry :: ·)
    else
      some entries

/-- Clear bits of the entries of one handle. -/
def clearBits (hndl : η) (mask : BitVec 32) (entry : EpollEvent η) : EpollEvent η :=
  if entry.data = hndl then { entry with events := entry.events &&& ~~~mask } else entry

/-- Store the entries from `index_` on. -/
def storeTail (poller : NetPoller η) : Option (List (EpollEvent η)) → Except Fault (NetPoller η)
  | none => .error .outOfBounds
  | some tail => .ok { poller with events := poller.events.take poller.index ++ tail }

/-- `epoll_ctl(EPOLL_CTL_ADD)`: fails on a closed or already registered descriptor. -/
def ctlAdd (poller : NetPoller η) (isOpen : Bool) (fd : Fd) (event : EpollEvent η) :
    NetPoller η :=
  if isOpen = true ∧ poller.interest fd = none then
    { poller with interest := Function.update poller.interest fd (some event) }
  else
    poller

/-- `epoll_ctl(EPOLL_CTL_MOD)`: fails on a descriptor that is not registered. -/
def ctlMod (poller : NetPoller η) (fd : Fd) (event : EpollEvent η) : NetPoller η :=
  match poller.interest fd with
  | none => poller
  | some _ => { poller with interest := Function.update poller.interest fd (some event) }

/-- `epoll_ctl(EPOLL_CTL_DEL)`; the kernel does the same when the descriptor is closed. -/
def ctlDel (poller : NetPoller η) (fd : Fd) : NetPoller η :=
  { poller with interest := Function.update poller.interest fd none }

/-- `NetPoller::Add`. -/
def add (poller : NetPoller η) (isOpen : Bool) (fd : Fd) (hndl : η) :
    NetPollerHandle × NetPoller η :=
  (⟨fd, 0⟩, poller.ctlAdd isOpen fd ⟨0, hndl⟩)

/-- `NetPoller::Rm`. -/
def rm (poller : NetPoller η) (hndl : η) (handle : NetPollerHandle) :
    Except Fault (NetPoller η) :=
  let poller := poller.ctlDel handle.fd
  poller.storeTail
    (scanLt (clearBits hndl (BitVec.allOnes 32)) poller.nevents poller.index
      (poller.events.drop poller.index))

/-- `NetPoller::SetIn` and `NetPoller::SetOut`, for the bit they set. -/
def setBit (poller : NetPoller η) (bit : BitVec 32) (hndl : η) (handle : NetPollerHandle) :
    NetPollerHandle × NetPoller η :=
  if handle.events &&& bit ≠ 0 then
    (handle, poller)
  else
    let handle := { handle with events := handle.events ||| bit }
    (handle, poller.ctlMod handle.fd ⟨handle.events, hndl⟩)

/-- `NetPoller::ResetIn` and `NetPoller::ResetOut`, for the bit they clear. -/
def resetBit (poller : NetPoller η) (bit : BitVec 32) (hndl : η) (handle : NetPollerHandle) :
    Except Fault (NetPollerHandle × NetPoller η) :=
  if handle.events &&& bit = 0 then
    .ok (handle, poller)
  else
    let handle := { handle with events := handle.events &&& ~~~bit }
    let poller := poller.ctlMod handle.fd ⟨handle.events, hndl⟩
    (poller.storeTail
      (scanNe (clearBits hndl bit) poller.nevents poller.index
        (poller.events.drop poller.index))).map (handle, ·)

/-- `NetPoller::SetIn`. -/
def setIn (poller : NetPoller η) := poller.setBit EPOLLIN

/-- `NetPoller::SetOut`. -/
def setOut (poller : NetPoller η) := poller.setBit EPOLLOUT

/-- `NetPoller::ResetOut`. -/
def resetOut (poller : NetPoller η) := poller.resetBit EPOLLOUT

/-! ## What the operations do to the interest list -/

omit [DecidableEq η] in
theorem interest_storeTail {poller after : NetPoller η} {tail : Option (List (EpollEvent η))}
    (stored : poller.storeTail tail = .ok after) : after.interest = poller.interest := by
  cases tail with
  | none => simp [storeTail] at stored
  | some tail =>
      simp only [storeTail, Except.ok.injEq] at stored
      rw [← stored]

theorem interest_rm {poller after : NetPoller η} {hndl : η} {handle : NetPollerHandle}
    (removed : poller.rm hndl handle = .ok after) :
    after.interest = Function.update poller.interest handle.fd none :=
  interest_storeTail removed

/-! ## What the operations keep of the batch -/

omit [DecidableEq η] in
theorem length_scanLt {update : EpollEvent η → EpollEvent η} {nevents : Int} {i : Nat}
    {entries tail : List (EpollEvent η)} (scanned : scanLt update nevents i entries = some tail) :
    tail.length = entries.length := by
  induction entries generalizing i tail with
  | nil =>
      rw [scanLt] at scanned
      split_ifs at scanned
      cases scanned
      rfl
  | cons entry rest ih =>
      rw [scanLt] at scanned
      split_ifs at scanned
      · obtain ⟨scannedRest, scans, rfl⟩ := Option.map_eq_some_iff.mp scanned
        rw [List.length_cons, List.length_cons, ih scans]
      · cases scanned
        rfl

omit [DecidableEq η] in
theorem length_scanNe {update : EpollEvent η → EpollEvent η} {nevents : Int} {i : Nat}
    {entries tail : List (EpollEvent η)} (scanned : scanNe update nevents i entries = some tail) :
    tail.length = entries.length := by
  induction entries generalizing i tail with
  | nil =>
      rw [scanNe] at scanned
      split_ifs at scanned
      cases scanned
      rfl
  | cons entry rest ih =>
      rw [scanNe] at scanned
      split_ifs at scanned
      · obtain ⟨scannedRest, scans, rfl⟩ := Option.map_eq_some_iff.mp scanned
        rw [List.length_cons, List.length_cons, ih scans]
      · cases scanned
        rfl

omit [DecidableEq η] in
/-- A batch that fits into the array is scanned to its end. -/
theorem scanLt_isSome (update : EpollEvent η → EpollEvent η) {nevents : Int} {i : Nat}
    {entries : List (EpollEvent η)} (fits : nevents ≤ i + entries.length) :
    ∃ tail, scanLt update nevents i entries = some tail := by
  induction entries generalizing i with
  | nil =>
      rw [scanLt, if_neg (by simp at fits; omega)]
      exact ⟨_, rfl⟩
  | cons entry rest ih =>
      rw [scanLt]
      split_ifs
      · obtain ⟨tail, scans⟩ := ih (i := i + 1) (by simp at fits ⊢; omega)
        exact ⟨update entry :: tail, by simp [scans]⟩
      · exact ⟨_, rfl⟩

omit [DecidableEq η] in
/-- The loop that runs up to `nevents_` ends when it starts below. -/
theorem scanNe_isSome (update : EpollEvent η → EpollEvent η) {nevents : Int} {i : Nat}
    {entries : List (EpollEvent η)} (below : (i : Int) ≤ nevents)
    (fits : nevents ≤ i + entries.length) :
    ∃ tail, scanNe update nevents i entries = some tail := by
  induction entries generalizing i with
  | nil =>
      rw [scanNe, if_neg (by simp at fits ⊢; omega)]
      exact ⟨_, rfl⟩
  | cons entry rest ih =>
      rw [scanNe]
      split_ifs
      · obtain ⟨tail, scans⟩ := ih (i := i + 1) (by omega) (by simp at fits ⊢; omega)
        exact ⟨update entry :: tail, by simp [scans]⟩
      · exact ⟨_, rfl⟩

omit [DecidableEq η] in
theorem batch_storeTail {poller after : NetPoller η} {tail : Option (List (EpollEvent η))}
    (same : ∀ entries, tail = some entries →
      entries.length = (poller.events.drop poller.index).length)
    (stored : poller.storeTail tail = .ok after) :
    after.nevents = poller.nevents ∧ after.events.length = poller.events.length := by
  cases tail with
  | none => cases stored
  | some entries =>
      cases stored
      refine ⟨rfl, ?_⟩
      rw [List.length_append, same entries rfl, ← List.length_append, List.take_append_drop]

omit [DecidableEq η] in
theorem closed_ctlAdd {poller : NetPoller η} {isOpen : Bool} {fd : Fd} {event : EpollEvent η}
    {other : Fd} (closed : other = fd → isOpen = false) (absent : poller.interest other = none) :
    (poller.ctlAdd isOpen fd event).interest other = none := by
  rw [ctlAdd]
  split_ifs with added
  · by_cases equal : other = fd
    · rw [closed equal] at added
      exact absurd added.1 (by decide)
    · simp [equal, absent]
  · exact absent

omit [DecidableEq η] in
theorem closed_ctlMod {poller : NetPoller η} {fd : Fd} {event : EpollEvent η} {other : Fd}
    (absent : poller.interest other = none) : (poller.ctlMod fd event).interest other = none := by
  rw [ctlMod]
  split
  · exact absent
  next registered =>
    by_cases equal : other = fd
    · subst equal
      rw [absent] at registered
      cases registered
    · simp [equal, absent]

omit [DecidableEq η] in
theorem closed_ctlDel {poller : NetPoller η} {fd other : Fd}
    (absent : poller.interest other = none) :
    (poller.ctlDel fd).interest other = none := by
  by_cases equal : other = fd
  · simp [ctlDel, equal]
  · simp [ctlDel, equal, absent]

omit [DecidableEq η] in
theorem batch_ctlAdd (poller : NetPoller η) (isOpen : Bool) (fd : Fd) (event : EpollEvent η) :
    (poller.ctlAdd isOpen fd event).nevents = poller.nevents ∧
      (poller.ctlAdd isOpen fd event).events = poller.events := by
  rw [ctlAdd]
  split_ifs <;> exact ⟨rfl, rfl⟩

omit [DecidableEq η] in
theorem batch_ctlMod (poller : NetPoller η) (fd : Fd) (event : EpollEvent η) :
    (poller.ctlMod fd event).nevents = poller.nevents ∧
      (poller.ctlMod fd event).events = poller.events := by
  rw [ctlMod]
  split <;> exact ⟨rfl, rfl⟩

/-- An operation that registers no closed descriptor and keeps the size of the batch. -/
structure Tame (fds : Fd → Bool) (poller after : NetPoller η) : Prop where
  closed : ∀ fd, fds fd = false → poller.interest fd = none → after.interest fd = none
  nevents : after.nevents = poller.nevents
  length : after.events.length = poller.events.length

omit [DecidableEq η] in
theorem tame_add (poller : NetPoller η) (fds : Fd → Bool) (fd : Fd) (hndl : η) :
    Tame fds poller (poller.add (fds fd) fd hndl).2 where
  closed _ isClosed absent := closed_ctlAdd (fun equal => equal ▸ isClosed) absent
  nevents := (batch_ctlAdd poller _ _ _).1
  length := congrArg List.length (batch_ctlAdd poller _ _ _).2

omit [DecidableEq η] in
theorem tame_setBit (poller : NetPoller η) (fds : Fd → Bool) (bit : BitVec 32) (hndl : η)
    (handle : NetPollerHandle) : Tame fds poller (poller.setBit bit hndl handle).2 := by
  rw [setBit]
  split_ifs
  · exact ⟨fun _ _ absent => absent, rfl, rfl⟩
  · exact ⟨fun _ _ => closed_ctlMod, (batch_ctlMod poller _ _).1,
      congrArg List.length (batch_ctlMod poller _ _).2⟩

theorem tame_rm {poller after : NetPoller η} (fds : Fd → Bool) {hndl : η}
    {handle : NetPollerHandle} (removed : poller.rm hndl handle = .ok after) :
    Tame fds poller after := by
  obtain ⟨nevents, length⟩ := batch_storeTail (fun _ => length_scanLt) removed
  refine ⟨fun fd _ absent => ?_, nevents, length⟩
  rw [interest_rm removed]
  exact closed_ctlDel absent

theorem tame_resetBit {poller : NetPoller η} (fds : Fd → Bool) {bit : BitVec 32} {hndl : η}
    {handle : NetPollerHandle} {result : NetPollerHandle × NetPoller η}
    (reset : poller.resetBit bit hndl handle = .ok result) : Tame fds poller result.2 := by
  rw [resetBit] at reset
  split_ifs at reset
  · cases reset
    exact ⟨fun _ _ absent => absent, rfl, rfl⟩
  · dsimp only at reset
    generalize stores : NetPoller.storeTail _ _ = stored at reset
    cases stored with
    | error fault => cases reset
    | ok after =>
        cases reset
        obtain ⟨nevents, length⟩ := batch_storeTail (fun _ scans => by
          rw [length_scanNe scans, (batch_ctlMod poller _ _).2]) stores
        have batch := batch_ctlMod poller handle.fd ⟨handle.events &&& ~~~bit, hndl⟩
        refine ⟨fun fd _ absent => ?_, nevents.trans batch.1,
          length.trans (congrArg List.length batch.2)⟩
        rw [interest_storeTail stores]
        exact closed_ctlMod absent

/-- A batch that fits into the array can be purged. -/
theorem rm_ok {poller : NetPoller η} (hndl : η) (handle : NetPollerHandle)
    (fits : poller.nevents ≤ poller.events.length) :
    ∃ after, poller.rm hndl handle = .ok after := by
  have inside : poller.nevents ≤ poller.index + (poller.events.drop poller.index).length := by
    rw [List.length_drop]
    omega
  obtain ⟨tail, scans⟩ := scanLt_isSome (clearBits hndl (BitVec.allOnes 32)) inside
  refine ⟨{ poller.ctlDel handle.fd with events := poller.events.take poller.index ++ tail }, ?_⟩
  change NetPoller.storeTail _ (scanLt _ poller.nevents poller.index
    (poller.events.drop poller.index)) = _
  rw [scans]
  rfl

/-- Inside a batch that fits into the array a bit can be cleared. -/
theorem resetBit_ok {poller : NetPoller η} (bit : BitVec 32) (hndl : η) (handle : NetPollerHandle)
    (inside : (poller.index : Int) ≤ poller.nevents)
    (fits : poller.nevents ≤ poller.events.length) :
    ∃ result, poller.resetBit bit hndl handle = .ok result := by
  rw [resetBit]
  split_ifs
  · exact ⟨_, rfl⟩
  · obtain ⟨nevents, events⟩ :=
      batch_ctlMod poller handle.fd ⟨handle.events &&& ~~~bit, hndl⟩
    have index : (poller.ctlMod handle.fd ⟨handle.events &&& ~~~bit, hndl⟩).index =
        poller.index := by
      rw [ctlMod]
      split <;> rfl
    have rest : poller.nevents ≤ poller.index + (poller.events.drop poller.index).length := by
      rw [List.length_drop]
      omega
    obtain ⟨tail, scans⟩ := scanNe_isSome (clearBits hndl bit) inside rest
    simp only [nevents, events, index, scans]
    exact ⟨_, rfl⟩

end NetPoller
end Klibmsg
