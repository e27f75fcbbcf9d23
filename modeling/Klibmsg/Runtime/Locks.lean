import Klibmsg.Runtime

/-!
# Locks

`ExecuteCriticalSection` gives up the lock of its context before it enters the sections of the
external events, so that a thread holds at most one lock and waits while it holds none.  A thread
that waits therefore waits for one that does not.
-/

namespace Klibmsg

open StepSystem

namespace Runtime

/-- The thread holds the lock of the context. -/
def Holds (r : Runtime) (k : WorkerId) (ctx : SockId) : Prop :=
  ∃ frame ∈ (r.thread k).frames, frame.holds = some ctx

/-- The thread is blocked on the lock of the context. -/
def WaitsFor (r : Runtime) (k : WorkerId) (ctx : SockId) : Prop :=
  ∃ body rest, (r.thread k).frames = .enter body :: rest ∧
    Owner.context r.world body = some ctx ∧ r.locked ctx = true

/-- The next step of the thread uses a socket that was deleted, or the owner ends the program. -/
def Ends {ω : Type} (owner : Owner ω) (r : Runtime) (k : WorkerId) (sys : Sys) : Prop :=
  match (r.thread k).frames with
  | .drain ctx :: _ =>
      ctx ∈ r.world.freed ∨
        ∃ event ∈ (r.world.sock ctx).ctx.events.head?, event.sock ∈ r.world.freed
  | .process _ event :: _ => ∃ fault, owner.process sys event r.world = .error fault
  | .external events :: _ => ∃ event ∈ events.head?, event.sock ∈ r.world.freed
  | _ => False

theorem locked_iff {r : Runtime} {ctx : SockId} : r.locked ctx = true ↔ ∃ k, r.Holds k ctx := by
  simp [locked, Holds]

end Runtime

/-- Below the innermost section of a thread there are only sections that it has left and whose
external events it still has to feed. -/
def Nested : List Frame → Prop
  | [] => True
  | _ :: rest => ∀ frame ∈ rest, ∃ events, frame = .external events

section Nested

variable {frame : Frame} {rest : List Frame}

theorem Nested.holds_top (nested : Nested (frame :: rest)) {inner : Frame} {ctx : SockId}
    (member : inner ∈ frame :: rest) (holds : inner.holds = some ctx) : inner = frame := by
  obtain rfl | below := List.mem_cons.mp member
  · rfl
  · obtain ⟨events, rfl⟩ := nested inner below
    cases holds

theorem Nested.push (nested : Nested (frame :: rest)) (inner : Frame) (events : List EventId) :
    Nested (inner :: .external events :: rest) := by
  intro below member
  obtain rfl | further := List.mem_cons.mp member
  · exact ⟨events, rfl⟩
  · exact nested below further

theorem Nested.pop (nested : Nested (frame :: rest)) : Nested rest := by
  cases rest with
  | nil => trivial
  | cons next rest => exact fun inner member => nested inner (List.mem_cons_of_mem _ member)

end Nested

/-- Sections are nested only once their lock is released, and no lock is held twice. -/
structure Runtime.Locking (r : Runtime) : Prop where
  nested : ∀ k, Nested (r.thread k).frames
  exclusive : ∀ {k k' ctx}, r.Holds k ctx → r.Holds k' ctx → k = k'

namespace Runtime.Locking

variable {ω : Type} {owner : Owner ω} {r r' : Runtime} {k : WorkerId}

theorem of_frames (locking : r.Locking) (same : ∀ k, (r'.thread k).frames = (r.thread k).frames) :
    r'.Locking := by
  refine ⟨fun k => ?_, fun {k k' ctx} here there => ?_⟩
  · rw [same]
    exact locking.nested k
  · simp only [Holds, same] at here there
    exact locking.exclusive here there

/-- The thread holds one lock at most. -/
theorem single (locking : r.Locking) {a b : SockId} (first : r.Holds k a) (second : r.Holds k b) :
    a = b := by
  obtain ⟨frame, member, holds⟩ := first
  obtain ⟨frame', member', holds'⟩ := second
  have nested := locking.nested k
  cases frames : (r.thread k).frames with
  | nil =>
      rw [frames] at member
      cases member
  | cons top rest =>
      rw [frames] at member member' nested
      obtain rfl := nested.holds_top member holds
      obtain rfl := nested.holds_top member' holds'
      exact Option.some.inj (holds.symm.trans holds')

/-- A thread moves on, and takes no lock but one that is free. -/
theorem setFrames (locking : r.Locking) (frames : List Frame) (nested : Nested frames)
    (held : ∀ frame ∈ frames, ∀ ctx, frame.holds = some ctx →
      r.Holds k ctx ∨ r.locked ctx = false) {r' : Runtime}
    (same : r'.thread = (r.setFrames k frames).thread) : r'.Locking := by
  have taken {ctx : SockId} (here : r'.Holds k ctx) : r.Holds k ctx ∨ r.locked ctx = false := by
    obtain ⟨frame, member, holds⟩ := here
    rw [same] at member
    simp only [Runtime.setFrames, Function.update_self] at member
    exact held frame member ctx holds
  have others {k' : WorkerId} (other : k' ≠ k) {ctx : SockId} :
      r'.Holds k' ctx ↔ r.Holds k' ctx := by
    simp only [Holds, same, Runtime.setFrames, Function.update_of_ne other]
  have apart {k' : WorkerId} (other : k' ≠ k) {ctx : SockId} (here : r'.Holds k ctx)
      (there : r'.Holds k' ctx) : False := by
    have before := (others other).mp there
    obtain mine | free := taken here
    · exact other (locking.exclusive before mine)
    · rw [Runtime.locked_iff.mpr ⟨k', before⟩] at free
      cases free
  refine ⟨fun k' => ?_, fun {first second ctx} here there => ?_⟩
  · rw [same]
    by_cases equal : k' = k
    · subst equal
      simpa [Runtime.setFrames] using nested
    · simpa [Runtime.setFrames, equal] using locking.nested k'
  · by_cases one : first = k
    · by_cases two : second = k
      · exact one.trans two.symm
      · subst one
        exact (apart two here there).elim
    · by_cases two : second = k
      · subst two
        exact (apart one there here).elim
      · exact locking.exclusive ((others one).mp here) ((others two).mp there)

/-- The frames that a thread replaces its innermost one by. -/
theorem replace (locking : r.Locking) {top : Frame} {rest : List Frame}
    (frames : (r.thread k).frames = top :: rest) (frame : Frame)
    (held : ∀ ctx, frame.holds = some ctx → top.holds = some ctx ∨ r.locked ctx = false)
    {r' : Runtime} (same : r'.thread = (r.setFrames k (frame :: rest)).thread) : r'.Locking := by
  have nested : Nested (frame :: rest) := by
    have before := locking.nested k
    rwa [frames] at before
  refine locking.setFrames (frame :: rest) nested (fun inner member ctx holds => ?_) same
  obtain rfl := nested.holds_top member holds
  obtain before | free := held ctx holds
  · exact .inl ⟨top, by simp [frames], before⟩
  · exact .inr free

theorem step {label : RuntimeLabel ω} (locking : r.Locking) (step : RuntimeStep owner r label r') :
    r'.Locking := by
  cases step with
  | call called => exact locking.of_frames fun _ => rfl
  | @poll k x pevent idle =>
      refine locking.setFrames (k := k) [.enter (.fd x pevent)] ?_ ?_ rfl
      · simp [Nested]
      · simp [Frame.holds]
  | @snapshot k idle empty =>
      refine locking.of_frames fun k' => ?_
      by_cases equal : k' = k
      · subst equal
        simp [Runtime.setTasks]
      · simp [Runtime.setTasks, equal]
  | @pop k task tasks idle front =>
      have moved : (r.setTasks k tasks).Locking := by
        refine locking.of_frames fun k' => ?_
        by_cases equal : k' = k
        · subst equal
          simp [Runtime.setTasks]
        · simp [Runtime.setTasks, equal]
      refine moved.setFrames (k := k) [.enter (.task task)] ?_ ?_ rfl
      · simp [Nested]
      · simp [Frame.holds]
  | @enter k sys body ctx rest w top context free ran =>
      refine locking.replace top (.drain ctx) (fun other holds => .inr ?_) rfl
      cases holds
      exact free
  | @popEvent k sys ctx rest event events top front =>
      exact locking.replace top (.process ctx event) (fun _ => .inl) rfl
  | @leave k sys ctx rest top drained =>
      refine locking.replace top (.external (r.world.sock ctx).ctx.eventsto) ?_ rfl
      rintro other ⟨⟩
  | @process k sys ctx event rest w top processed =>
      exact locking.replace top (.drain ctx) (fun _ => .inl) rfl
  | @finish k sys rest top =>
      have nested := locking.nested k
      rw [top] at nested
      refine locking.setFrames rest nested.pop (fun frame member ctx holds => ?_) rfl
      exact .inl ⟨frame, by simp [top, member], holds⟩
  | @external k sys event events rest top =>
      have nested := locking.nested k
      rw [top] at nested
      have deeper := nested.push (.enter (.event event)) events
      refine locking.setFrames _ deeper (fun frame member ctx holds => ?_) rfl
      obtain rfl := deeper.holds_top member holds
      cases holds

theorem of_idle (idle : ∀ k, (r.thread k).frames = []) : r.Locking := by
  refine ⟨fun k => ?_, fun {k k' ctx} here _ => ?_⟩
  · rw [idle]
    trivial
  · obtain ⟨frame, member, _⟩ := here
    rw [idle] at member
    cases member

theorem run {initial : Runtime} {labels : List (RuntimeLabel ω)} (locking : initial.Locking)
    (execution : owner.system.run initial labels = some r) : r.Locking :=
  run_invariant (fun _ _ _ locking stepped => locking.step (Owner.step_runtimeStep stepped))
    locking execution

/-- Who holds a lock is not blocked. -/
theorem holder_runs (locking : r.Locking) {ctx other : SockId} (holds : r.Holds k ctx) :
    ¬r.WaitsFor k other := by
  rintro ⟨body, rest, frames, _, _⟩
  obtain ⟨frame, member, holds⟩ := holds
  have nested := locking.nested k
  rw [frames] at member nested
  obtain rfl := nested.holds_top member holds
  cases holds

end Runtime.Locking

/-- A thread in a critical section that is not blocked can make its next step, unless this step
ends the program. -/
theorem Owner.advance_of_not_waiting {ω : Type} (owner : Owner ω) {r : Runtime} {k : WorkerId}
    {frame : Frame} {rest : List Frame} (top : (r.thread k).frames = frame :: rest)
    (inside : ∀ body, frame ≠ .enter body) (sys : Sys) :
    (∃ r', owner.step r (.advance k sys) = some r') ∨ r.Ends owner k sys := by
  cases frame with
  | enter body => exact absurd rfl (inside body)
  | drain ctx =>
      simp only [Owner.step, Owner.advance, Runtime.Ends, top]
      split_ifs with freed
      · exact .inr (.inl freed)
      · split
        next event events front =>
          split_ifs with gone
          · exact .inr (.inr ⟨event, by simp [front], gone⟩)
          · exact .inl ⟨_, rfl⟩
        next => exact .inl ⟨_, rfl⟩
  | process ctx event =>
      simp only [Owner.step, Owner.advance, Runtime.Ends, top]
      cases outcome : owner.process sys event r.world with
      | ok w => exact .inl ⟨{ r.setFrames k (.drain ctx :: rest) with world := w }, rfl⟩
      | error fault => exact .inr ⟨fault, rfl⟩
  | external events =>
      cases events with
      | nil =>
          simp only [Owner.step, Owner.advance, Runtime.Ends, top]
          exact .inl ⟨_, rfl⟩
      | cons event events =>
          simp only [Owner.step, Owner.advance, Runtime.Ends, top]
          split_ifs with gone
          · exact .inr ⟨event, by simp, gone⟩
          · exact .inl ⟨_, rfl⟩

/-- The locks of the contexts in a state of the process. -/
structure Runtime.LocksSound {ω : Type} (owner : Owner ω) (r : Runtime) : Prop where
  /-- A lock has one holder. -/
  exclusive : ∀ k k' ctx, r.Holds k ctx → r.Holds k' ctx → k = k'
  /-- A thread holds one lock at most, and none while it waits for another. -/
  single : ∀ k ctx ctx', r.Holds k ctx → r.Holds k ctx' → ctx = ctx'
  waits_without : ∀ k ctx ctx', r.WaitsFor k ctx → ¬r.Holds k ctx'
  /-- The holder of a lock that another thread waits for can make its next step. -/
  holder_proceeds : ∀ k ctx sys, r.WaitsFor k ctx →
    ∃ k', r.Holds k' ctx ∧
      ((∃ r', owner.step r (.advance k' sys) = some r') ∨ r.Ends owner k' sys)
  /-- While a thread is in a critical section, some thread in one is not blocked. -/
  no_deadlock : ∀ k, (r.thread k).frames ≠ [] →
    ∃ k', (r.thread k').frames ≠ [] ∧ ∀ ctx, ¬r.WaitsFor k' ctx

/-- In every run of every owner, no two threads hold the lock of one context and no thread waits
while it holds one, so that the threads never block each other. -/
theorem locks_sound {ω : Type} {owner : Owner ω} {initial final : Runtime}
    {labels : List (RuntimeLabel ω)} (idle : ∀ k, (initial.thread k).frames = [])
    (execution : owner.system.run initial labels = some final) : final.LocksSound owner := by
  have locking := (Runtime.Locking.of_idle idle).run execution
  refine ⟨fun _ _ _ => locking.exclusive, fun _ _ _ => locking.single,
    fun _ _ _ waits holds => locking.holder_runs holds waits, fun k ctx sys waits => ?_,
    fun k inside => ?_⟩
  · obtain ⟨_, _, _, _, locked⟩ := waits
    obtain ⟨k', holds⟩ := Runtime.locked_iff.mp locked
    refine ⟨k', holds, ?_⟩
    obtain ⟨frame, member, held⟩ := holds
    have nested := locking.nested k'
    cases frames : (final.thread k').frames with
    | nil =>
        rw [frames] at member
        cases member
    | cons top rest =>
        rw [frames] at member nested
        obtain rfl := nested.holds_top member held
        refine owner.advance_of_not_waiting frames (fun body entering => ?_) sys
        subst entering
        cases held
  · by_cases blocked : ∃ ctx, final.WaitsFor k ctx
    · obtain ⟨ctx, waits⟩ := blocked
      obtain ⟨_, _, _, _, locked⟩ := waits
      obtain ⟨k', holds⟩ := Runtime.locked_iff.mp locked
      refine ⟨k', fun empty => ?_, fun other => locking.holder_runs holds⟩
      obtain ⟨frame, member, _⟩ := holds
      rw [empty] at member
      cases member
    · exact ⟨k, inside, not_exists.mp blocked⟩

/-- One worker is inside the section of socket 1, another is about to enter it. -/
def contended : List (RuntimeLabel SocketCall) :=
  [.poll 0 1 .fdIn, .advance 0 {}, .poll 1 1 .fdIn]

theorem locks_sound_contended :
    ∃ final, socketOwner.system.run default contended = some final ∧ final.WaitsFor 1 1 ∧
      (∀ ctx, ¬final.Holds 1 ctx) ∧
        ∃ k', final.Holds k' 1 ∧
          ((∃ r', socketOwner.step final (.advance k' {}) = some r') ∨
            final.Ends socketOwner k' {}) := by
  have computed : (socketOwner.system.run default contended).any (fun final =>
      decide ((final.thread 1).frames = [.enter (.fd 1 .fdIn)]) && final.locked 1) = true := by
    decide +kernel
  obtain ⟨final, execution, facts⟩ := (Option.any_eq_true _ _).mp computed
  rw [Bool.and_eq_true, decide_eq_true_eq] at facts
  have waits : final.WaitsFor 1 1 := ⟨.fd 1 .fdIn, [], facts.1, rfl, facts.2⟩
  have sound := locks_sound (fun _ => rfl) execution
  exact ⟨final, execution, waits, fun ctx => sound.waits_without 1 1 ctx waits,
    sound.holder_proceeds 1 1 {} waits⟩

end Klibmsg
