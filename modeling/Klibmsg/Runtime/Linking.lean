import Klibmsg.Runtime.Waking
import Klibmsg.Socket.Wire

/-!
# Linking a socket to its poller

`Outbound` is what the wakeups of a socket depend on, and `Move` what a step does to it.  The
descriptor of a connected socket is registered by exactly one task.
-/

namespace Klibmsg

open StepSystem

/-! ## Moves -/

/-- An outbound socket between its senders, its worker and the thread that connects it. -/
structure Outbound where
  point : ConnectPoint
  callers : Nat
  frames : List Frame
  taken : List TaskId
  wire : Wire

/-- What the wakeups of the socket depend on. -/
def Sending.outbound (s : Sending) (x : SockId) : Outbound :=
  ⟨s.point, s.callers, s.frames x, (s.runtime.thread (s.worker x)).tasks, s.world.wire x⟩

namespace Outbound

variable (x : SockId) (o : Outbound)

/-- The tasks of the socket that wait, in order. -/
def waits : List TaskId := (o.taken ++ o.wire.tasks).filter (·.sock = x)

/-- The worker is inside a critical section of the socket or about to enter one. -/
def Engaged : Prop := ∃ frame ∈ o.frames, frame.Concerns x

/-- `task_send` waits ahead of `task_connected`. -/
def SendAhead : Prop :=
  ⟨x, .connected⟩ ∈ o.waits x ∧ ⟨x, .send⟩ ∈ (o.waits x).takeWhile (· ≠ ⟨x, .connected⟩)

end Outbound

/-- What a step does to an outbound socket. -/
inductive Move (x : SockId) (o : Outbound) : Outbound → Prop
  | same : Move x o o
  | start {fd : Fd} (idle : o.wire.sock.state = .idle) (nonneg : 0 ≤ fd) :
      Move x o { o with
        wire := { o.wire with
          sock := { o.wire.sock with
            s := fd, state := .starting, fsm := { o.wire.sock.fsm with state := .active } }
          entry := none
          isOpen := true } }
  | enter (here : o.point = .before)
      (state : o.wire.sock.state = .idle ∨ o.wire.sock.state = .starting) :
      Move x o { o with
        point := .entered, wire := o.wire.modify ({ · with state := .connecting }) }
  | activate (here : o.point = .entered) (valid : o.wire.sock.s ≠ -1) :
      Move x o { o with
        point := .activated, wire := o.wire.modify ({ · with state := .active }) }
  | dial (here : o.point = .entered) (valid : o.wire.sock.s ≠ -1) :
      Move x o { o with point := .returned, wire := o.wire.execute x .connecting }
  | refuse {v : Wire} (here : o.point = .entered) (fails : o.wire.Fails x v) :
      Move x o { o with point := .returned, wire := v }
  | execute (here : o.point = .activated) :
      Move x o { o with point := .executed, wire := o.wire.execute x .connected }
  | announce (here : o.point = .executed) (ordered : ¬(o.Engaged x ∧ o.SendAhead x)) :
      Move x o { o with
        point := .returned
        wire := o.wire.raise x .established kNetSockEventTypeConnected (.sock x) }
  | push (msg : NetMsg) :
      Move x o { o with
        callers := o.callers + 1
        wire := o.wire.modify fun sock =>
          { sock with msgBufferQueue := sock.msgBufferQueue ++ [msg] } }
  | send (waiting : 0 < o.callers) :
      Move x o { o with callers := o.callers - 1, wire := o.wire.execute x .send }
  | poll {pevent : FdEvent} {entry : EpollEvent Handle} (idle : o.frames = [])
      (registered : o.wire.entry = some entry) (asked : pevent.In entry.events) :
      Move x o { o with frames := [.enter (.fd x pevent)] }
  | snapshot (idle : o.frames = []) (empty : o.taken = []) :
      Move x o { o with taken := o.wire.tasks, wire := { o.wire with tasks := [] } }
  | pop {task : TaskId} {tasks : List TaskId} (idle : o.frames = [])
      (front : o.taken = task :: tasks) (own : task.sock = x) :
      Move x o { o with
        frames := [.enter (.task task)]
        taken := tasks
        wire := o.wire.modify fun sock =>
          { sock with task := Function.update sock.task task.name false } }
  | task {name : TaskName} (held : o.frames = [.enter (.task ⟨x, name⟩)]) :
      Move x o { o with frames := [.drain x], wire := o.wire.internalTask x name }
  | connects (held : o.frames = [.enter (.fd x .fdOut)])
      (connecting : o.wire.sock.state = .connecting) :
      Move x o { o with
        frames := [.drain x]
        wire := ((o.wire.resetOut x).modify ({ · with state := .active })).raise x .established
          kNetSockEventTypeConnected (.sock x) }
  | fail {pevent : FdEvent} {v : Wire} (held : o.frames = [.enter (.fd x pevent)])
      (fails : o.wire.Fails x v) : Move x o { o with frames := [.drain x], wire := v }
  | write {v : Wire} (held : o.frames = [.enter (.fd x .fdOut)])
      (active : o.wire.sock.state = .active) (sends : o.wire.Sends x v) :
      Move x o { o with frames := [.drain x], wire := v }
  | rest (held : o.frames = [.enter (.fd x .fdOut)]) (active : o.wire.sock.state = .active)
      (free : o.wire.sock.isOutBufBusy = false) (empty : o.wire.sock.msgBufferQueue = []) :
      Move x o { o with frames := [.drain x], wire := o.wire.resetOut x }
  | ignore {pevent : FdEvent} (held : o.frames = [.enter (.fd x pevent)])
      (done : o.wire.sock.state = .done) : Move x o { o with frames := [.drain x] }
  | popEvent {event : EventId} {events : List EventId} (inside : o.frames = [.drain x])
      (front : o.wire.sock.ctx.events = event :: events) :
      Move x o { o with frames := [.process x event], wire := o.wire.popEvent event events }
  | leave (inside : o.frames = [.drain x]) (drained : o.wire.sock.ctx.events = []) :
      Move x o { o with
        frames := [.external []]
        wire := o.wire.modify fun sock => { sock with ctx := { sock.ctx with eventsto := [] } } }
  | process {event : EventId} (inside : o.frames = [.process x event])
      (other : (o.wire.sock.event event.name).payload.type ≠ kNetSockEventTypeConnected) :
      Move x o { o with frames := [.drain x], wire := o.wire.takeEvent event }
  | wake {event : EventId} (inside : o.frames = [.process x event])
      (connected : (o.wire.sock.event event.name).payload.type = kNetSockEventTypeConnected) :
      Move x o { o with frames := [.drain x], wire := (o.wire.takeEvent event).execute x .send }
  | elsewhere {o' : Outbound} (point : o'.point = o.point) (callers : o'.callers = o.callers)
      (sock : o'.wire.sock = o.wire.sock) (entry : o'.wire.entry = o.wire.entry)
      (isOpen : o'.wire.isOpen = o.wire.isOpen) (alive : x ∉ o'.wire.freed)
      (waits : o'.waits x = o.waits x)
      (frames : o'.frames = o.frames ∨ ¬o.Engaged x ∧ ¬o'.Engaged x) : Move x o o'

/-! ## What holds of it -/

/-- What an event of an outbound socket carries. -/
def Payload.Outbound (x : SockId) (payload : Payload) : Prop :=
  payload = .cleared ∨ ∃ type, payload = ⟨kNetDeviceSrcSocketEvent, type, .sock x⟩ ∧
    (type = kNetSockEventTypeConnected ∨ type = kNetSockEventTypeSent ∨
      type = kNetSockEventTypeError)

/-- What holds of the members whatever the state of the socket is. -/
structure Wire.Calm (x : SockId) (v : Wire) : Prop where
  running : v.sock.fsm.state ≠ .stopping
  src : v.sock.fsm.src = kNetDeviceSrcSocketEvent
  alive : x ∉ v.freed
  eventsto : v.sock.ctx.eventsto = []
  events : ∀ event ∈ v.sock.ctx.events, event.sock = x
  payloads : ∀ name, (v.sock.event name).payload.Outbound x

/-- The place of the worker. -/
inductive Outbound.Place (x : SockId) : List Frame → Prop
  | away {frames : List Frame} (free : ∀ frame ∈ frames, ¬frame.Concerns x) : Place x frames
  | task {name : TaskName} (known : name = .connecting ∨ name = .connected ∨ name = .send) :
      Place x [.enter (.task ⟨x, name⟩)]
  | fd (pevent : FdEvent) : Place x [.enter (.fd x pevent)]
  | drain : Place x [.drain x]
  | process {event : EventId} (own : event.sock = x) : Place x [.process x event]

namespace Outbound

variable (x : SockId) (o : Outbound)

/-- A task waits or is about to be fed. -/
def Flies (name : TaskName) : Prop :=
  ⟨x, name⟩ ∈ o.waits x ∨ o.frames = [.enter (.task ⟨x, name⟩)]

/-- No descriptor event is about to be fed. -/
def NoFd : Prop := ∀ pevent, o.frames ≠ [.enter (.fd x pevent)]

/-- The marks of the tasks say what waits, and each task waits once. -/
structure Tasks : Prop where
  marks : ∀ name, o.wire.sock.task name = true ↔ ⟨x, name⟩ ∈ o.waits x
  nodup : (o.waits x).Nodup
  only : ∀ task ∈ o.waits x,
    task.name = .connecting ∨ task.name = .connected ∨ task.name = .send
  once : ∀ name, o.frames = [.enter (.task ⟨x, name⟩)] → name ≠ .send → ⟨x, name⟩ ∉ o.waits x

/-- The worker is not about to feed `IN`. -/
def NoIn : Prop := o.frames ≠ [.enter (.fd x .fdIn)]

/-- `Connected` has not been raised. -/
def Silent : Prop := (o.wire.sock.event .established).inQueue = false

/-- Nothing is under way that would register the descriptor. -/
structure Apart : Prop where
  connecting : ¬o.Flies x .connecting
  connected : ¬o.Flies x .connected

/-- How far the socket is linked to its poller. -/
inductive Link : Prop
  | idle (point : o.point = .before) (state : o.wire.sock.state = .idle)
      (s : o.wire.sock.s = -1) (entry : o.wire.entry = none) (apart : o.Apart x)
      (silent : o.Silent) (noFd : o.NoFd x)
  | opened (place : o.point = .before ∧ o.wire.sock.state = .starting ∨
        o.point = .entered ∧ o.wire.sock.state = .connecting ∨
        o.point = .activated ∧ o.wire.sock.state = .active)
      (descriptor : o.wire.isOpen = true ∨ o.point = .entered ∧ o.wire.sock.s = -1)
      (entry : o.wire.entry = none) (apart : o.Apart x) (silent : o.Silent) (noFd : o.NoFd x)
  | dialled (point : o.point = .returned) (state : o.wire.sock.state = .connecting)
      (flies : o.Flies x .connecting) (other : ¬o.Flies x .connected)
      (isOpen : o.wire.isOpen = true) (entry : o.wire.entry = none) (silent : o.Silent)
      (noFd : o.NoFd x)
  | dialling (point : o.point = .returned) (state : o.wire.sock.state = .connecting)
      (apart : o.Apart x) (registered : o.wire.Registered x) (silent : o.Silent) (noIn : o.NoIn x)
  | queued (state : o.wire.sock.state = .active)
      (point : o.point = .executed ∧ o.Silent ∨ o.point = .returned)
      (flies : o.Flies x .connected) (other : ¬o.Flies x .connecting)
      (isOpen : o.wire.isOpen = true) (entry : o.wire.entry = none) (noFd : o.NoFd x)
  | linked (state : o.wire.sock.state = .active)
      (point : o.point = .executed ∧ o.Silent ∨ o.point = .returned) (apart : o.Apart x)
      (registered : o.wire.Registered x) (noIn : o.NoIn x)
  | done (state : o.wire.sock.state = .done) (point : o.point = .executed ∨ o.point = .returned)

end Outbound

/-! ## The members -/

namespace Wire.Calm

variable {x : SockId} {v v' : Wire}

/-- A change that keeps the machine and the events. -/
theorem same (calm : v.Calm x) (freed : v'.freed = v.freed) (fsm : v'.sock.fsm = v.sock.fsm)
    (ctx : v'.sock.ctx = v.sock.ctx) (event : v'.sock.event = v.sock.event) : v'.Calm x where
  running := fsm ▸ calm.running
  src := fsm ▸ calm.src
  alive := freed ▸ calm.alive
  eventsto := ctx ▸ calm.eventsto
  events := ctx ▸ calm.events
  payloads := event ▸ calm.payloads

theorem control (calm : v.Calm x) {sock : NetSocket} (same : SameControl v.sock sock) :
    ({ v with sock := sock } : Wire).Calm x := calm.same rfl same.fsm same.ctx same.event

theorem execute (calm : v.Calm x) (name : TaskName) : (v.execute x name).Calm x :=
  calm.same rfl rfl rfl rfl

theorem setOut (calm : v.Calm x) : (v.setOut x).Calm x := by
  obtain ⟨wfd, entry, stored⟩ := v.setOut_store x
  rw [stored]
  exact calm.same rfl rfl rfl rfl

theorem resetOut (calm : v.Calm x) : (v.resetOut x).Calm x := by
  obtain ⟨wfd, entry, stored⟩ := v.resetOut_store x
  rw [stored]
  exact calm.same rfl rfl rfl rfl

theorem addFd (calm : v.Calm x) : (v.addFd x).Calm x := calm.same rfl rfl rfl rfl

theorem elsewhere (calm : v.Calm x) (sock : v'.sock = v.sock) (alive : x ∉ v'.freed) :
    v'.Calm x := by
  obtain ⟨running, src, -, eventsto, events, payloads⟩ := calm
  exact ⟨sock ▸ running, sock ▸ src, alive, sock ▸ eventsto, sock ▸ events, sock ▸ payloads⟩

theorem start (calm : v.Calm x) {fd : Fd} {entry : Option (EpollEvent Handle)} {isOpen : Bool} :
    Wire.Calm x
      { v with
        sock := { v.sock with
          s := fd, state := .starting, fsm := { v.sock.fsm with state := .active } }
        entry := entry
        isOpen := isOpen } where
  running := by rintro ⟨⟩
  src := calm.src
  alive := calm.alive
  eventsto := calm.eventsto
  events := calm.events
  payloads := calm.payloads

theorem leave (calm : v.Calm x) :
    Wire.Calm x (v.modify fun sock => { sock with ctx := { sock.ctx with eventsto := [] } }) where
  running := calm.running
  src := calm.src
  alive := calm.alive
  eventsto := rfl
  events := calm.events
  payloads := calm.payloads

theorem raise (calm : v.Calm x) (name : EventName) {type : Int}
    (known : type = kNetSockEventTypeConnected ∨ type = kNetSockEventTypeSent ∨
      type = kNetSockEventTypeError) : (v.raise x name type (.sock x)).Calm x where
  running := calm.running
  src := calm.src
  alive := calm.alive
  eventsto := by
    rw [Wire.raise]
    dsimp only
    split_ifs <;> exact calm.eventsto
  events := by
    rw [Wire.raise]
    dsimp only
    split_ifs
    · exact calm.events
    · intro event member
      obtain earlier | new := List.mem_append.mp member
      · exact calm.events event earlier
      · rw [List.mem_singleton.mp new]
  payloads other := by
    rw [Wire.raise]
    dsimp only
    by_cases equal : other = name
    · subst equal
      rw [Function.update_self]
      refine .inr ⟨type, ?_, known⟩
      simp [calm.src]
    · rw [Function.update_of_ne equal]
      exact calm.payloads other

theorem fails (calm : v.Calm x) (fails : v.Fails x v') : v'.Calm x := by
  obtain ⟨wfd, errnum, entry, isOpen, rfl⟩ := fails
  have dropped : Wire.Calm x
      { v with
        sock := { v.sock with wfd := wfd, errnum := errnum, s := -1, state := .done }
        entry := entry
        isOpen := isOpen } := calm.same rfl rfl rfl rfl
  exact dropped.raise .error (.inr (.inr rfl))

theorem sends (calm : v.Calm x) (sends : v.Sends x v') : v'.Calm x := by
  obtain ⟨_, sock, same, rfl | rfl⟩ := sends
  · exact calm.control same
  · exact (calm.control same).raise .sent (.inr (.inl rfl))

theorem popEvent (calm : v.Calm x) {event : EventId} {events : List EventId}
    (front : v.sock.ctx.events = event :: events) : (v.popEvent event events).Calm x where
  running := calm.running
  src := calm.src
  alive := calm.alive
  eventsto := calm.eventsto
  events other member := calm.events other (front ▸ List.mem_cons_of_mem event member)
  payloads name := by
    change (Function.update v.sock.event event.name _ name).payload.Outbound x
    by_cases equal : name = event.name
    · subst equal
      rw [Function.update_self]
      exact calm.payloads event.name
    · rw [Function.update_of_ne equal]
      exact calm.payloads name

theorem takeEvent (calm : v.Calm x) (event : EventId) : (v.takeEvent event).Calm x where
  running := calm.running
  src := calm.src
  alive := calm.alive
  eventsto := calm.eventsto
  events := calm.events
  payloads name := by
    change (Function.update v.sock.event event.name _ name).payload.Outbound x
    by_cases equal : name = event.name
    · subst equal
      rw [Function.update_self]
      exact .inl rfl
    · rw [Function.update_of_ne equal]
      exact calm.payloads name

end Wire.Calm

/-! ## The tasks -/

namespace Outbound

variable {x : SockId} {o o' : Outbound} {name : TaskName}

/-- The worker is about to feed no task of the socket that it was not about to feed before. -/
def HoldsLess (x : SockId) (o o' : Outbound) : Prop :=
  ∀ name, o'.frames = [.enter (.task ⟨x, name⟩)] → o.frames = [.enter (.task ⟨x, name⟩)]

/-- `Execute` queues the task at the end unless it waits already. -/
structure Executes (x : SockId) (name : TaskName) (o o' : Outbound) : Prop where
  marks : o'.wire.sock.task = Function.update o.wire.sock.task name true
  waits : o'.waits x = if ⟨x, name⟩ ∈ o.waits x then o.waits x else o.waits x ++ [⟨x, name⟩]
  holds : HoldsLess x o o'

theorem Tasks.executes (tasks : o.Tasks x) (taken : o'.taken = o.taken) {v : Wire}
    (same : v.sock.task = o.wire.sock.task) (queue : v.tasks = o.wire.tasks)
    (wire : o'.wire = v.execute x name) (holds : HoldsLess x o o') : Executes x name o o' where
  marks := by
    rw [wire, Wire.execute]
    exact congrArg (Function.update · name true) same
  waits := by
    have marked := tasks.marks name
    rw [Outbound.waits, taken, wire, Wire.execute]
    dsimp only
    rw [same, queue]
    by_cases waiting : ⟨x, name⟩ ∈ o.waits x
    · rw [if_pos (marked.mpr waiting), if_pos waiting]
      rfl
    · rw [if_neg (fun set => waiting (marked.mp set)), if_neg waiting, ← List.append_assoc,
        List.filter_append]
      simp [Outbound.waits]
  holds := holds

theorem Executes.mem (executes : Executes x name o o') (task : TaskId) :
    task ∈ o'.waits x ↔ task ∈ o.waits x ∨ task = ⟨x, name⟩ := by
  rw [executes.waits]
  split_ifs with waiting
  · refine ⟨.inl, ?_⟩
    rintro (old | rfl)
    · exact old
    · exact waiting
  · rw [List.mem_append, List.mem_singleton]

theorem Tasks.execute (tasks : o.Tasks x) (executes : Executes x name o o')
    (known : name = .connecting ∨ name = .connected ∨ name = .send)
    (free : name ≠ .send → o.frames ≠ [.enter (.task ⟨x, name⟩)]) : o'.Tasks x where
  marks other := by
    rw [executes.mem, executes.marks, ← tasks.marks]
    by_cases equal : other = name
    · simp [equal]
    · simp [equal]
  nodup := by
    rw [executes.waits]
    split_ifs with waiting
    · exact tasks.nodup
    · exact List.nodup_append.mpr ⟨tasks.nodup, List.nodup_singleton _, by
        rintro task old _ new rfl
        exact waiting (List.mem_singleton.mp new ▸ old)⟩
  only task waiting := by
    obtain old | rfl := (executes.mem task).mp waiting
    · exact tasks.only task old
    · exact known
  once other held notSend waiting := by
    have before := executes.holds _ held
    obtain old | same := (executes.mem _).mp waiting
    · exact tasks.once other before notSend old
    · cases same
      exact free notSend before

theorem Tasks.same (tasks : o.Tasks x) (marks : o'.wire.sock.task = o.wire.sock.task)
    (waits : o'.waits x = o.waits x) (holds : HoldsLess x o o') : o'.Tasks x where
  marks other := by rw [marks, waits, tasks.marks]
  nodup := waits ▸ tasks.nodup
  only := waits ▸ tasks.only
  once other held := waits ▸ tasks.once other (holds _ held)

/-- The worker turns to the first task. -/
theorem Tasks.pop (tasks : o.Tasks x) {task : TaskId} {rest : List TaskId} (own : task.sock = x)
    (front : o.waits x = task :: rest) (waits : o'.waits x = rest)
    (frames : o'.frames = [.enter (.task task)])
    (marks : o'.wire.sock.task = Function.update o.wire.sock.task task.name false) :
    o'.Tasks x := by
  have nodup := tasks.nodup
  rw [front, List.nodup_cons] at nodup
  have self : (⟨x, task.name⟩ : TaskId) = task := by rw [← own]
  refine ⟨fun other => ?_, waits ▸ nodup.2, fun waiting member => ?_, fun other held _ member => ?_⟩
  · rw [marks, waits]
    by_cases equal : other = task.name
    · subst equal
      simp [self, nodup.1]
    · rw [Function.update_of_ne equal, tasks.marks, front, List.mem_cons, or_iff_right]
      rintro rfl
      exact equal rfl
  · rw [waits] at member
    exact tasks.only waiting (front ▸ List.mem_cons_of_mem task member)
  · rw [frames] at held
    cases held
    rw [waits] at member
    exact nodup.1 member

/-! ## The link to the poller -/

/-- A step that neither registers the descriptor nor brings a registration on its way. -/
structure SameLink (x : SockId) (o o' : Outbound) : Prop where
  point : o'.point = o.point
  state : o'.wire.sock.state = o.wire.sock.state
  s : o'.wire.sock.s = o.wire.sock.s
  wfd : o'.wire.sock.wfd = o.wire.sock.wfd
  entry : o'.wire.entry = o.wire.entry
  isOpen : o'.wire.isOpen = o.wire.isOpen
  silent : o.Silent → o'.Silent
  flies : ∀ name, name ≠ .send → (o'.Flies x name ↔ o.Flies x name)
  fd : ∀ pevent, o'.frames = [.enter (.fd x pevent)] → o.frames = [.enter (.fd x pevent)]

namespace SameLink

variable (same : SameLink x o o')
include same

theorem apart (apart : o.Apart x) : o'.Apart x :=
  ⟨fun flies => apart.connecting ((same.flies _ (by decide)).mp flies),
    fun flies => apart.connected ((same.flies _ (by decide)).mp flies)⟩

theorem noFd (noFd : o.NoFd x) : o'.NoFd x := fun pevent held => noFd pevent (same.fd pevent held)

theorem noIn (noIn : o.NoIn x) : o'.NoIn x := fun held => noIn (same.fd _ held)

theorem registered (registered : o.wire.Registered x) : o'.wire.Registered x where
  fd := by rw [same.wfd, same.s, registered.fd]
  entry := by rw [same.entry, same.wfd, registered.entry]
  out := by rw [same.wfd, registered.out]

theorem link (link : o.Link x) : o'.Link x := by
  have point (raised : o.point = .executed ∧ o.Silent ∨ o.point = .returned) :
      o'.point = .executed ∧ o'.Silent ∨ o'.point = .returned := by
    rw [same.point]
    exact raised.imp_left (And.imp_right same.silent)
  cases link with
  | idle here state s entry apart silent noFd =>
      exact .idle (same.point ▸ here) (same.state ▸ state) (same.s ▸ s) (same.entry ▸ entry)
        (same.apart apart) (same.silent silent) (same.noFd noFd)
  | opened place descriptor entry apart silent noFd =>
      exact .opened (by rwa [same.point, same.state]) (by rwa [same.isOpen, same.point, same.s])
        (same.entry ▸ entry) (same.apart apart) (same.silent silent) (same.noFd noFd)
  | dialled here state flies other isOpen entry silent noFd =>
      exact .dialled (same.point ▸ here) (same.state ▸ state)
        ((same.flies _ (by decide)).mpr flies)
        (fun flies => other ((same.flies _ (by decide)).mp flies)) (same.isOpen ▸ isOpen)
        (same.entry ▸ entry) (same.silent silent) (same.noFd noFd)
  | dialling here state apart registered silent noIn =>
      exact .dialling (same.point ▸ here) (same.state ▸ state) (same.apart apart)
        (same.registered registered) (same.silent silent) (same.noIn noIn)
  | queued state here flies other isOpen entry noFd =>
      exact .queued (same.state ▸ state) (point here) ((same.flies _ (by decide)).mpr flies)
        (fun flies => other ((same.flies _ (by decide)).mp flies)) (same.isOpen ▸ isOpen)
        (same.entry ▸ entry) (same.noFd noFd)
  | linked state here apart registered noIn =>
      exact .linked (same.state ▸ state) (point here) (same.apart apart)
        (same.registered registered) (same.noIn noIn)
  | done state here => exact .done (same.state ▸ state) (same.point ▸ here)

end SameLink

theorem flies_of_executes (executes : Executes x name o o') (frames : o'.frames = o.frames)
    (other : TaskName) : o'.Flies x other ↔ o.Flies x other ∨ other = name := by
  rw [Flies, Flies, executes.mem, frames, TaskId.mk.injEq]
  tauto

/-- A task that is not `task_send` has been fed. -/
theorem Tasks.fed (tasks : o.Tasks x) (held : o.frames = [.enter (.task ⟨x, name⟩)])
    (other : name ≠ .send) (waits : o'.waits x = o.waits x) (frames : o'.frames = [.drain x]) :
    ¬o'.Flies x name := by
  rintro (waiting | held')
  · exact tasks.once name held other (waits ▸ waiting)
  · rw [frames] at held'
    cases held'

theorem Link.not_beingAccepted (link : o.Link x) : o.wire.sock.state ≠ .beingAccepted := by
  intro accepted
  cases link with
  | opened place => simp [accepted] at place
  | idle _ state | dialled _ state | dialling _ state | queued state | linked state | done state =>
      cases accepted.symm.trans state

/-- Before `Connect`. -/
theorem Link.before (link : o.Link x) (here : o.point = .before) :
    o.wire.sock.state = .idle ∨ o.wire.sock.state = .starting := by
  cases link with
  | idle _ state => exact .inl state
  | opened place => exact .inr (by simpa [here] using place)
  | dialled point | dialling point => rw [here] at point; cases point
  | queued _ point | linked _ point | done _ point => simp [here] at point

/-- After the action that enters `Connecting`. -/
theorem Link.entered (link : o.Link x) (here : o.point = .entered) :
    o.wire.sock.state = .connecting ∧ (o.wire.isOpen = true ∨ o.wire.sock.s = -1) ∧
      o.wire.entry = none ∧ o.Apart x ∧ o.Silent ∧ o.NoFd x := by
  cases link with
  | opened place descriptor entry apart silent noFd =>
      refine ⟨?_, descriptor.imp_right And.right, entry, apart, silent, noFd⟩
      simpa [here] using place
  | idle point | dialled point | dialling point => rw [here] at point; cases point
  | queued _ point | linked _ point | done _ point => simp [here] at point

/-- After `connect()` has returned 0. -/
theorem Link.activated (link : o.Link x) (here : o.point = .activated) :
    o.wire.sock.state = .active ∧ o.wire.isOpen = true ∧ o.wire.entry = none ∧ o.Apart x ∧
      o.Silent ∧ o.NoFd x := by
  cases link with
  | opened place descriptor entry apart silent noFd =>
      refine ⟨by simpa [here] using place, ?_, entry, apart, silent, noFd⟩
      simpa [here] using descriptor
  | idle point | dialled point | dialling point => rw [here] at point; cases point
  | queued _ point | linked _ point | done _ point => simp [here] at point

/-- An active socket that nothing is to register is registered. -/
theorem Link.registered (link : o.Link x) (active : o.wire.sock.state = .active)
    (returned : o.point = .returned) (apart : ¬o.Flies x .connected) : o.wire.Registered x := by
  cases link with
  | linked _ _ _ registered => exact registered
  | queued _ _ flies => exact absurd flies apart
  | opened place => simp [returned] at place
  | idle _ state | dialled _ state | dialling _ state | done state =>
      cases state.symm.trans active

/-- Descriptor events are fed once the descriptor is registered. -/
theorem Link.holdsFd {pevent : FdEvent} (link : o.Link x)
    (held : o.frames = [.enter (.fd x pevent)]) :
    o.NoIn x ∧ o.Apart x ∧ o.wire.Registered x ∧
        (o.wire.sock.state = .connecting ∧ o.point = .returned ∧ o.Silent ∨
          o.wire.sock.state = .active ∧ (o.point = .executed ∧ o.Silent ∨ o.point = .returned)) ∨
      o.wire.sock.state = .done ∧ (o.point = .executed ∨ o.point = .returned) := by
  cases link with
  | dialling point state apart registered silent noIn =>
      exact .inl ⟨noIn, apart, registered, .inl ⟨state, point, silent⟩⟩
  | linked state point apart registered noIn =>
      exact .inl ⟨noIn, apart, registered, .inr ⟨state, point⟩⟩
  | done state point => exact .inr ⟨state, point⟩
  | idle _ _ _ _ _ _ noFd | opened _ _ _ _ _ noFd | dialled _ _ _ _ _ _ _ noFd
  | queued _ _ _ _ _ _ noFd => exact absurd held (noFd pevent)

theorem Place.known {frames : List Frame} (place : Place x frames)
    (held : frames = [.enter (.task ⟨x, name⟩)]) :
    name = .connecting ∨ name = .connected ∨ name = .send := by
  subst held
  cases place with
  | away free => exact absurd rfl (free _ (List.mem_singleton_self _))
  | task known => exact known

theorem silent_takeEvent (o : Outbound) (event : EventId) (silent : o.Silent) :
    ((o.wire.takeEvent event).sock.event .established).inQueue = false := by
  change (Function.update o.wire.sock.event event.name _ .established).inQueue = false
  rw [Function.update_apply]
  split_ifs with equal
  · rw [← equal]
    exact silent
  · exact silent

section Fed

variable {v : Wire}

/-- Frames that feed nothing bring no registration on its way. -/
theorem Apart.drain (apart : o.Apart x) (queue : v.tasks = o.wire.tasks) :
    Apart x { o with frames := [.drain x], wire := v } := by
  refine ⟨fun flies => apart.connecting (.inl ?_), fun flies => apart.connected (.inl ?_)⟩
  · simpa [Flies, waits, queue] using flies
  · simpa [Flies, waits, queue] using flies

/-- The worker goes on to drain after it has not fed the task. -/
theorem flies_drain {frame : Frame} (held : o.frames = [frame])
    (other : frame ≠ .enter (.task ⟨x, name⟩)) (queue : v.tasks = o.wire.tasks) :
    Flies x { o with frames := [.drain x], wire := v } name ↔ o.Flies x name := by
  simp [Flies, waits, queue, held, other]

theorem engaged_of_frames {frame : Frame} (held : o.frames = [frame])
    (concerns : frame.Concerns x) : o.Engaged x := ⟨frame, by simp [held], concerns⟩

/-- What happens elsewhere feeds no task of the socket. -/
theorem flies_elsewhere (waits : o'.waits x = o.waits x)
    (frames : o'.frames = o.frames ∨ ¬o.Engaged x ∧ ¬o'.Engaged x) :
    o'.Flies x name ↔ o.Flies x name := by
  rw [Flies, Flies, waits]
  obtain same | ⟨before, after⟩ := frames
  · rw [same]
  · exact or_congr_right ⟨fun held => absurd (engaged_of_frames held rfl) after,
      fun held => absurd (engaged_of_frames held rfl) before⟩

/-- `task_send` has been fed. -/
theorem Link.fedSend (link : o.Link x) (held : o.frames = [.enter (.task ⟨x, .send⟩)]) :
    Link x { o with frames := [.drain x], wire := o.wire.setOut x } := by
  obtain ⟨wfd, entry', stored⟩ := o.wire.setOut_store x
  have absent (entry : o.wire.entry = none) : entry' = none := by
    rw [← Wire.entry_setOut entry (x := x), stored]
    rfl
  have linked (registered : o.wire.Registered x) : (o.wire.store wfd entry').Registered x :=
    stored ▸ registered.setOut
  have flies (other : TaskName) (different : other ≠ .send) :
      Flies x { o with frames := [.drain x], wire := o.wire.store wfd entry' } other ↔
        o.Flies x other := by
    refine flies_drain held ?_ rfl
    rintro ⟨⟩
    exact different rfl
  rw [stored]
  cases link with
  | idle point state s entry apart silent =>
      exact .idle point state s (absent entry) (apart.drain rfl) silent (by rintro _ ⟨⟩)
  | opened place descriptor entry apart silent =>
      exact .opened place descriptor (absent entry) (apart.drain rfl) silent (by rintro _ ⟨⟩)
  | dialled point state connecting other isOpen entry silent =>
      exact .dialled point state ((flies _ (by decide)).mpr connecting)
        (fun connected => other ((flies _ (by decide)).mp connected)) isOpen (absent entry) silent
        (by rintro _ ⟨⟩)
  | dialling point state apart registered silent =>
      exact .dialling point state (apart.drain rfl) (linked registered) silent (by rintro ⟨⟩)
  | queued state point connected other isOpen entry =>
      exact .queued state point ((flies _ (by decide)).mpr connected)
        (fun connecting => other ((flies _ (by decide)).mp connecting)) isOpen (absent entry)
        (by rintro _ ⟨⟩)
  | linked state point apart registered =>
      exact .linked state point (apart.drain rfl) (linked registered) (by rintro ⟨⟩)
  | done state point => exact .done state point

/-- `task_connected` has been fed. -/
theorem Link.fedConnected (link : o.Link x) (tasks : o.Tasks x)
    (held : o.frames = [.enter (.task ⟨x, .connected⟩)]) :
    Link x { o with frames := [.drain x], wire := o.wire.addFd x } := by
  cases link with
  | queued state point connected other isOpen entry =>
      refine .linked state point ⟨fun flies => other ?_, tasks.fed held (by decide) rfl rfl⟩
        (Wire.registered_addFd isOpen entry) (by rintro ⟨⟩)
      exact (flies_drain held (by rintro ⟨⟩) rfl).mp flies
  | done state point => exact .done state point
  | idle _ _ _ _ apart | opened _ _ _ apart | dialling _ _ apart | linked _ _ apart =>
      exact absurd (.inr held) apart.connected
  | dialled _ _ _ other => exact absurd (.inr held) other

/-- `task_connecting` has been fed. -/
theorem Link.fedConnecting (link : o.Link x) (tasks : o.Tasks x)
    (held : o.frames = [.enter (.task ⟨x, .connecting⟩)]) :
    Link x { o with frames := [.drain x], wire := (o.wire.addFd x).setOut x } := by
  obtain ⟨wfd, entry', stored⟩ := (o.wire.addFd x).setOut_store x
  cases link with
  | dialled point state connecting other isOpen entry silent =>
      have registered := (Wire.registered_addFd (x := x) isOpen entry).setOut
      rw [stored] at registered ⊢
      refine .dialling point state ⟨tasks.fed held (by decide) rfl rfl, fun flies => other ?_⟩
        registered silent (by rintro ⟨⟩)
      exact (flies_drain held (by rintro ⟨⟩) rfl).mp flies
  | done state point =>
      rw [stored]
      exact .done state point
  | idle _ _ _ _ apart | opened _ _ _ apart | dialling _ _ apart | linked _ _ apart =>
      exact absurd (.inr held) apart.connecting
  | queued _ _ _ other => exact absurd (.inr held) other

end Fed

/-- The link after a step. -/
theorem Link.move (link : o.Link x) (place : Place x o.frames) (tasks : o.Tasks x)
    (move : Move x o o') : o'.Link x := by
  cases move with
  | same => exact link
  | start idle nonneg =>
      cases link with
      | idle point state s entry apart silent noFd =>
          exact .opened (.inl ⟨point, rfl⟩) (.inl rfl) rfl ⟨apart.connecting, apart.connected⟩
            silent noFd
      | opened place => simp [idle] at place
      | dialled _ state | dialling _ state | queued state | linked state | done state =>
          rw [idle] at state
          cases state
  | enter here state =>
      cases link with
      | idle point _ s entry apart silent noFd =>
          exact .opened (.inr (.inl ⟨rfl, rfl⟩)) (.inr ⟨rfl, s⟩) entry
            ⟨apart.connecting, apart.connected⟩ silent noFd
      | opened _ descriptor entry apart silent noFd =>
          have isOpen : o.wire.isOpen = true := by simpa [here] using descriptor
          exact .opened (.inr (.inl ⟨rfl, rfl⟩)) (.inl isOpen) entry
            ⟨apart.connecting, apart.connected⟩ silent noFd
      | dialled point | dialling point => rw [here] at point; cases point
      | queued _ point | linked _ point | done _ point => simp [here] at point
  | activate here valid =>
      obtain ⟨_, descriptor, entry, apart, silent, noFd⟩ := link.entered here
      exact .opened (.inr (.inr ⟨rfl, rfl⟩)) (.inl (descriptor.resolve_right valid)) entry
        ⟨apart.connecting, apart.connected⟩ silent noFd
  | dial here valid =>
      obtain ⟨state, descriptor, entry, apart, silent, noFd⟩ := link.entered here
      have executes : Executes x .connecting o
          { o with point := .returned, wire := o.wire.execute x .connecting } :=
        tasks.executes rfl rfl rfl rfl fun _ => id
      have flies := flies_of_executes executes rfl
      refine .dialled rfl state ((flies _).mpr (.inr rfl)) (fun connected => ?_)
        (descriptor.resolve_right valid) entry silent noFd
      exact apart.connected (((flies _).mp connected).resolve_right (by decide))
  | refuse here fails =>
      obtain ⟨wfd, errnum, entry, isOpen, rfl⟩ := fails
      exact .done rfl (.inr rfl)
  | execute here =>
      obtain ⟨state, isOpen, entry, apart, silent, noFd⟩ := link.activated here
      have executes : Executes x .connected o
          { o with point := .executed, wire := o.wire.execute x .connected } :=
        tasks.executes rfl rfl rfl rfl fun _ => id
      have flies := flies_of_executes executes rfl
      refine .queued state (.inl ⟨rfl, silent⟩) ((flies _).mpr (.inr rfl))
        (fun connecting => ?_) isOpen entry noFd
      exact apart.connecting (((flies _).mp connecting).resolve_right (by decide))
  | announce here =>
      cases link with
      | queued state _ flies other isOpen entry noFd =>
          exact .queued state (.inr rfl) flies other isOpen entry noFd
      | linked state _ apart registered noIn =>
          exact .linked state (.inr rfl) ⟨apart.connecting, apart.connected⟩
            ⟨registered.fd, registered.entry, registered.out⟩ noIn
      | done state => exact .done state (.inr rfl)
      | opened place => simp [here] at place
      | idle point | dialled point | dialling point => rw [here] at point; cases point
  | push msg =>
      have same : SameLink x o { o with
          callers := o.callers + 1
          wire := o.wire.modify fun sock =>
            { sock with msgBufferQueue := sock.msgBufferQueue ++ [msg] } } :=
        ⟨rfl, rfl, rfl, rfl, rfl, rfl, id, fun _ _ => .rfl, fun _ => id⟩
      exact same.link link
  | send waiting =>
      have executes : Executes x .send o
          { o with callers := o.callers - 1, wire := o.wire.execute x .send } :=
        tasks.executes rfl rfl rfl rfl fun _ => id
      have same : SameLink x o
          { o with callers := o.callers - 1, wire := o.wire.execute x .send } := by
        refine ⟨rfl, rfl, rfl, rfl, rfl, rfl, id, fun name other => ?_, fun _ => id⟩
        rw [flies_of_executes executes rfl]
        exact or_iff_left other
      exact same.link link
  | @poll pevent entry idle registered asked =>
      have apart' (apart : o.Apart x) : Apart x { o with frames := [.enter (.fd x pevent)] } := by
        refine ⟨fun flies => apart.connecting ?_, fun flies => apart.connected ?_⟩
        · exact .inl (flies.resolve_right (by rintro ⟨⟩))
        · exact .inl (flies.resolve_right (by rintro ⟨⟩))
      have noIn (link : o.wire.Registered x) :
          NoIn x { o with frames := [.enter (.fd x pevent)] } := by
        rintro ⟨⟩
        cases registered.symm.trans link.entry
        exact asked link.out
      cases link with
      | dialling point state apart link silent =>
          exact .dialling point state (apart' apart) link silent (noIn link)
      | linked state point apart link => exact .linked state point (apart' apart) link (noIn link)
      | done state point => exact .done state point
      | idle _ _ _ entry | opened _ _ entry | dialled _ _ _ _ _ entry | queued _ _ _ _ _ entry =>
          rw [entry] at registered
          cases registered
  | snapshot idle empty =>
      have same : SameLink x o
          { o with taken := o.wire.tasks, wire := { o.wire with tasks := [] } } := by
        refine ⟨rfl, rfl, rfl, rfl, rfl, rfl, id, fun name _ => ?_, fun _ => id⟩
        simp [Flies, waits, empty]
      exact same.link link
  | @pop task tasks idle front own =>
      have same : SameLink x o
          { o with
            frames := [.enter (.task task)]
            taken := tasks
            wire := o.wire.modify fun sock =>
              { sock with task := Function.update sock.task task.name false } } := by
        refine ⟨rfl, rfl, rfl, rfl, rfl, rfl, id, fun name _ => ?_, by rintro _ ⟨⟩⟩
        simp only [Flies, waits, front, idle, Wire.modify, List.cons_append, List.filter_cons,
          decide_eq_true own, if_true, List.mem_cons, List.cons.injEq, Frame.enter.injEq,
          Body.task.injEq, and_true]
        rw [eq_comm (a := task)]
        tauto
      exact same.link link
  | task held =>
      obtain rfl | rfl | rfl := place.known held
      · exact link.fedConnecting tasks held
      · exact link.fedConnected tasks held
      · exact link.fedSend held
  | connects held connecting =>
      obtain ⟨wfd, entry, stored⟩ := o.wire.resetOut_store x
      obtain ⟨_, apart, registered, ⟨_, point, _⟩ | ⟨state, _⟩⟩ | ⟨state, _⟩ := link.holdsFd held
      · have reset := registered.resetOut
        rw [stored] at reset ⊢
        exact .linked rfl (.inr point) (apart.drain rfl) ⟨reset.fd, reset.entry, reset.out⟩
          (by rintro ⟨⟩)
      · rw [connecting] at state
        cases state
      · rw [connecting] at state
        cases state
  | fail held fails =>
      obtain ⟨wfd, errnum, entry, isOpen, rfl⟩ := fails
      obtain ⟨_, _, _, ⟨_, point, _⟩ | ⟨_, point⟩⟩ | ⟨_, point⟩ := link.holdsFd held
      · exact .done rfl (.inr point)
      · exact .done rfl (point.imp_left And.left)
      · exact .done rfl point
  | @write v held active sends =>
      have same : SameLink x o { o with frames := [.drain x], wire := v } := by
        have kept := sends.kept
        refine ⟨rfl, kept.state, kept.s, kept.wfd, kept.entry, kept.isOpen, ?_, fun name _ => ?_,
          by rintro _ ⟨⟩⟩
        · intro silent
          rw [Silent, kept.established]
          exact silent
        · exact flies_drain held (by rintro ⟨⟩) kept.tasks
      exact same.link link
  | rest held active free empty =>
      obtain ⟨wfd, entry, stored⟩ := o.wire.resetOut_store x
      obtain ⟨_, apart, registered, ⟨state, _⟩ | ⟨_, point⟩⟩ | ⟨state, _⟩ := link.holdsFd held
      · rw [active] at state
        cases state
      · have reset := registered.resetOut
        rw [stored] at reset ⊢
        exact .linked active point (apart.drain rfl) reset (by rintro ⟨⟩)
      · rw [active] at state
        cases state
  | ignore held done =>
      have same : SameLink x o { o with frames := [.drain x] } :=
        ⟨rfl, rfl, rfl, rfl, rfl, rfl, id,
          fun name _ => flies_drain held (by rintro ⟨⟩) rfl, by rintro _ ⟨⟩⟩
      exact same.link link
  | @popEvent event events inside front =>
      have same : SameLink x o
          { o with frames := [.process x event], wire := o.wire.popEvent event events } := by
        refine ⟨rfl, rfl, rfl, rfl, rfl, rfl, fun silent => ?_, fun name _ => ?_, by rintro _ ⟨⟩⟩
        · change (Function.update o.wire.sock.event event.name _ .established).inQueue = false
          rw [Function.update_apply]
          split_ifs
          · rfl
          · exact silent
        · simp [Flies, waits, inside, Wire.popEvent, Wire.modify]
      exact same.link link
  | leave inside drained =>
      have same : SameLink x o { o with
          frames := [.external []]
          wire := o.wire.modify fun sock =>
            { sock with ctx := { sock.ctx with eventsto := [] } } } := by
        refine ⟨rfl, rfl, rfl, rfl, rfl, rfl, id, fun name _ => ?_, by rintro _ ⟨⟩⟩
        simp [Flies, waits, inside, Wire.modify]
      exact same.link link
  | @process event inside other =>
      have same : SameLink x o
          { o with frames := [.drain x], wire := o.wire.takeEvent event } := by
        refine ⟨rfl, rfl, rfl, rfl, rfl, rfl, o.silent_takeEvent event, fun name _ => ?_,
          by rintro _ ⟨⟩⟩
        exact flies_drain inside (by rintro ⟨⟩) rfl
      exact same.link link
  | @wake event inside connected =>
      have executes : Executes x .send o
          { o with frames := [.drain x], wire := (o.wire.takeEvent event).execute x .send } := by
        have same : (o.wire.takeEvent event).sock.task = o.wire.sock.task := rfl
        exact tasks.executes rfl same rfl rfl (by rintro _ ⟨⟩)
      have same : SameLink x o
          { o with frames := [.drain x], wire := (o.wire.takeEvent event).execute x .send } := by
        refine ⟨rfl, rfl, rfl, rfl, rfl, rfl, o.silent_takeEvent event, fun name other => ?_,
          by rintro _ ⟨⟩⟩
        rw [Flies, Flies, executes.mem, inside]
        simp [other]
      exact same.link link
  | elsewhere point _ sock entry isOpen _ waits frames =>
      refine SameLink.link ⟨point, ?_, ?_, ?_, entry, isOpen, ?_, fun name _ => ?_,
        fun pevent held => ?_⟩ link
      · rw [sock]
      · rw [sock]
      · rw [sock]
      · rw [Silent, Silent, sock]
        exact id
      · exact flies_elsewhere waits frames
      · obtain same | ⟨-, away⟩ := frames
        · rw [← same, held]
        · exact absurd (engaged_of_frames held rfl) away

/-- The members after a step. -/
theorem calm_move (calm : o.wire.Calm x) (move : Move x o o') : o'.wire.Calm x := by
  cases move with
  | same | poll | ignore => exact calm
  | elsewhere _ _ sock _ _ alive => exact calm.elsewhere sock alive
  | start idle nonneg => exact calm.start
  | enter | activate | push | pop | snapshot => exact calm.same rfl rfl rfl rfl
  | dial | execute | send => exact calm.execute _
  | refuse _ fails | fail _ fails => exact calm.fails fails
  | announce => exact calm.raise .established (.inl rfl)
  | @task name held =>
      cases name with
      | send => exact calm.setOut
      | connected => exact calm.addFd
      | connecting => exact calm.addFd.setOut
      | _ => exact calm
  | connects =>
      have active : Wire.Calm x ((o.wire.resetOut x).modify ({ · with state := .active })) :=
        calm.resetOut.same rfl rfl rfl rfl
      exact active.raise .established (.inl rfl)
  | write _ _ sends => exact calm.sends sends
  | rest => exact calm.resetOut
  | popEvent _ front => exact calm.popEvent front
  | leave _ drained => exact calm.leave
  | process => exact calm.takeEvent _
  | wake => exact (calm.takeEvent _).execute .send

/-- The worker after a step. -/
theorem Place.move (place : Place x o.frames) (tasks : o.Tasks x) (calm : o.wire.Calm x)
    (move : Move x o o') : Place x o'.frames := by
  cases move with
  | poll => exact .fd _
  | @pop task rest idle front own =>
      subst own
      exact .task (tasks.only task (by simp [waits, front]))
  | popEvent inside front => exact .process (calm.events _ (by simp [front]))
  | leave => exact .away (by simp [Frame.Concerns])
  | elsewhere _ _ _ _ _ _ _ frames =>
      obtain same | ⟨-, away⟩ := frames
      · rw [same]
        exact place
      · exact .away fun frame member concerns => away ⟨frame, member, concerns⟩
  | task | connects | fail | write | rest | ignore | process | wake => exact .drain
  | _ => exact place

/-- The tasks after a step. -/
theorem Tasks.move (tasks : o.Tasks x) (place : Place x o.frames) (link : o.Link x)
    (move : Move x o o') : o'.Tasks x := by
  cases move with
  | same => exact tasks
  | start | enter | activate | announce | push => exact tasks.same rfl rfl fun _ => id
  | dial here =>
      obtain ⟨_, _, _, apart, _, _⟩ := link.entered here
      exact tasks.execute (tasks.executes rfl rfl rfl rfl fun _ => id) (.inl rfl)
        fun _ held => apart.connecting (.inr held)
  | refuse here fails =>
      obtain ⟨wfd, errnum, entry, isOpen, rfl⟩ := fails
      exact tasks.same rfl rfl fun _ => id
  | execute here =>
      obtain ⟨_, _, _, apart, _, _⟩ := link.activated here
      exact tasks.execute (tasks.executes rfl rfl rfl rfl fun _ => id) (.inr (.inl rfl))
        fun _ held => apart.connected (.inr held)
  | send =>
      exact tasks.execute (tasks.executes rfl rfl rfl rfl fun _ => id) (.inr (.inr rfl))
        fun other => absurd rfl other
  | poll | popEvent | leave | process => exact tasks.same rfl rfl (by rintro _ ⟨⟩)
  | elsewhere _ _ sock _ _ _ waits frames =>
      refine tasks.same (by rw [sock]) waits fun name held => ?_
      obtain same | ⟨-, away⟩ := frames
      · rw [← same, held]
      · exact absurd (engaged_of_frames held rfl) away
  | snapshot idle empty => exact tasks.same rfl (by simp [waits, empty]) fun _ => id
  | @pop task rest idle front own =>
      have first : o.waits x = task :: (rest ++ o.wire.tasks).filter (·.sock = x) := by
        simp [waits, front, own]
      exact tasks.pop own first rfl rfl rfl
  | @task name held =>
      obtain rfl | rfl | rfl := place.known held
      · obtain ⟨wfd, entry, stored⟩ := (o.wire.addFd x).setOut_store x
        change Tasks x { o with frames := [.drain x], wire := (o.wire.addFd x).setOut x }
        rw [stored]
        exact tasks.same rfl rfl (by rintro _ ⟨⟩)
      · exact tasks.same rfl rfl (by rintro _ ⟨⟩)
      · obtain ⟨wfd, entry, stored⟩ := o.wire.setOut_store x
        change Tasks x { o with frames := [.drain x], wire := o.wire.setOut x }
        rw [stored]
        exact tasks.same rfl rfl (by rintro _ ⟨⟩)
  | connects | rest =>
      obtain ⟨wfd, entry, stored⟩ := o.wire.resetOut_store x
      rw [stored]
      exact tasks.same rfl rfl (by rintro _ ⟨⟩)
  | fail held fails =>
      obtain ⟨wfd, errnum, entry, isOpen, rfl⟩ := fails
      exact tasks.same rfl rfl (by rintro _ ⟨⟩)
  | write held active sends =>
      exact tasks.same sends.kept.task (by simp [waits, sends.kept.tasks]) (by rintro _ ⟨⟩)
  | ignore => exact tasks.same rfl rfl (by rintro _ ⟨⟩)
  | @wake event =>
      have same : (o.wire.takeEvent event).sock.task = o.wire.sock.task := rfl
      exact tasks.execute (tasks.executes rfl same rfl rfl (by rintro _ ⟨⟩)) (.inr (.inr rfl))
        fun other => absurd rfl other

end Outbound

end Klibmsg
