import Klibmsg.Device.Steps
import Klibmsg.Library.StepSystem
import Mathlib.Data.List.Nodup

/-!
# Callbacks of read requests

`ReadData` stores its callback under the token that the reply will carry, and `ParseNetMsg` hands
the stored callback over when a data message for the token arrives.  `emplace` keeps a callback that
is already stored, so the callback of a second request for the same token is dropped while the
first one is outstanding.  The callback of a request is its position among all requests.
-/

namespace Klibmsg

open StepSystem

/-! ## Sending a message keeps the callbacks -/

/-- A change that keeps the stored callbacks, the queue and what was handed to it. -/
structure World.SameCallbacks (w w' : World) : Prop where
  callback_eq : w'.device.token2callback = w.device.token2callback
  cq_eq : w'.device.cq = w.device.cq
  sent_eq : sentCallbacks w'.trace = sentCallbacks w.trace

theorem World.SameCallbacks.trans {w middle w' : World} (first : SameCallbacks w middle)
    (second : SameCallbacks middle w') : SameCallbacks w w' :=
  ⟨second.callback_eq.trans first.callback_eq, second.cq_eq.trans first.cq_eq,
    second.sent_eq.trans first.sent_eq⟩

theorem World.SameDevice.sameCallbacks {w w' : World} (same : SameDevice w w') :
    SameCallbacks w w' :=
  ⟨by rw [same.device_eq], by rw [same.device_eq], same.sent_eq⟩

theorem sameCallbacks_emplaceSock (w : World) (token : Token) (x : SockId) :
    World.SameCallbacks w (w.modifyDevice (·.emplaceSock token x)) := by
  have kept : (w.device.emplaceSock token x).token2callback = w.device.token2callback ∧
      (w.device.emplaceSock token x).cq = w.device.cq := by
    rw [NetDevice.emplaceSock]
    split <;> exact ⟨rfl, rfl⟩
  exact ⟨kept.1, kept.2, rfl⟩

theorem Routed.sameCallbacks {w w' : World} {token : Token} {x : SockId}
    (routed : Routed w token x w') : World.SameCallbacks w w' := by
  cases routed with
  | cached entry => exact ⟨rfl, rfl, rfl⟩
  | shared missing address known => exact sameCallbacks_emplaceSock w token x
  | created missing =>
      have created : World.SameCallbacks w (w.createSocket (w.device.token2Ip token)).2 :=
        ⟨rfl, rfl, rfl⟩
      exact created.trans (sameCallbacks_emplaceSock _ token w.nextSock)

theorem sendMsg_sameCallbacks {sys : Sys} {msg : NetMsg} {w w' : World}
    (done : sendMsg sys msg w = .ok w') : World.SameCallbacks w w' := by
  obtain ⟨x, sending⟩ := sendMsg_to done
  obtain ⟨routed, started, routing, starting, rfl⟩ := sendMsgTo_routed sending
  have used : SocketSteps ⟨fun _ => True, False⟩ routed (started.asyncSendMsg x msg) :=
    (ensureStarted_steps trivial starting).trans (asyncSendMsg_steps started x msg)
  exact routing.sameCallbacks.trans used.sameDevice.sameCallbacks

/-! ## Requests and replies -/

/-- The device, the tokens of the requests that were made and of the replies that arrived. -/
structure ReadHistory where
  world : World
  issued : List Token
  arrived : List Token

/-- A call of `ReadData`, or a data message for `ParseNetMsg`. -/
inductive ReadLabel where
  | read (sys : Sys) (srcToken dstToken : Token)
  | reply (sys : Sys) (msg : NetMsg)

namespace ReadHistory

/-- The callbacks that were handed over. -/
def sent (h : ReadHistory) : List Callback := sentCallbacks h.world.trace

/-- The callback stored for a token. -/
def stored (h : ReadHistory) (token : Token) : Option Callback :=
  h.world.device.token2callback token

/-- The callback belongs to a request for the token. -/
def IssuedFor (h : ReadHistory) (callback : Callback) (token : Token) : Prop :=
  h.issued[callback]? = some token

/-- One request, or one reply to a request that was made and not answered. -/
def step (h : ReadHistory) : ReadLabel → Option ReadHistory
  | .read sys srcToken dstToken =>
      match readData sys srcToken dstToken h.issued.length h.world with
      | .ok w => some ⟨w, h.issued ++ [srcToken], h.arrived⟩
      | .error _ => none
  | .reply sys msg =>
      if msg.msgType = 1 ∧ h.arrived.count msg.dst < h.issued.count msg.dst then
        match parseNetMsg sys msg h.world with
        | .ok w => some ⟨w, h.issued, h.arrived ++ [msg.dst]⟩
        | .error _ => none
      else
        none

/-- Sequences of requests and replies in any order. -/
def system : StepSystem ReadHistory ReadLabel where
  step := step

/-- Nothing has been requested, and the completion queue is open. -/
structure Initial (h : ReadHistory) : Prop where
  stored : ∀ token, h.stored token = none
  is_open : h.world.device.cq.isSendClosed = false
  sent : h.sent = []
  issued : h.issued = []
  arrived : h.arrived = []

/-- No callback was sent twice, or before a data message for its token arrived. -/
structure AtMostOnce (h : ReadHistory) : Prop where
  nodup : h.sent.Nodup
  after_reply : ∀ callback ∈ h.sent, ∃ token, h.IssuedFor callback token ∧ token ∈ h.arrived

/-- Every request has been answered. -/
def Complete (h : ReadHistory) : Prop := ∀ token, h.arrived.count token = h.issued.count token

/-- The callback of every request was sent exactly once. -/
def AllDelivered (h : ReadHistory) : Prop :=
  ∀ callback < h.issued.length, h.sent.count callback = 1

/-- A request is made while no callback is stored for its token. -/
def Free (h : ReadHistory) : ReadLabel → Prop
  | .read _ srcToken _ => h.stored srcToken = none
  | .reply _ _ => True

instance (h : ReadHistory) (label : ReadLabel) : Decidable (h.Free label) :=
  match label with
  | .read _ srcToken _ => inferInstanceAs (Decidable (h.stored srcToken = none))
  | .reply _ _ => isTrue trivial

theorem IssuedFor.lt {h : ReadHistory} {callback : Callback} {token : Token}
    (issued : h.IssuedFor callback token) : callback < h.issued.length :=
  (List.getElem?_eq_some_iff.mp issued).1

theorem IssuedFor.token_eq {h : ReadHistory} {callback : Callback} {token other : Token}
    (issued : h.IssuedFor callback token) (again : h.IssuedFor callback other) : token = other :=
  Option.some.inj (issued.symm.trans again)

/-! ## What one step does -/

/-- A request stores its callback unless one is stored. -/
theorem step_read {h h' : ReadHistory} {sys : Sys} {srcToken dstToken : Token}
    (stepped : h.step (.read sys srcToken dstToken) = some h') :
    h'.issued = h.issued ++ [srcToken] ∧ h'.arrived = h.arrived ∧ h'.sent = h.sent ∧
      h'.world.device.cq = h.world.device.cq ∧
      h'.stored = match h.stored srcToken with
        | some _ => h.stored
        | none => Function.update h.stored srcToken (some h.issued.length) := by
  simp only [step] at stepped
  split at stepped
  next w read =>
    cases stepped
    have same := sendMsg_sameCallbacks read
    have emplaced : (h.world.device.emplaceCallback srcToken h.issued.length).cq =
        h.world.device.cq := by
      rw [NetDevice.emplaceCallback]
      split <;> rfl
    refine ⟨rfl, rfl, same.sent_eq, same.cq_eq.trans emplaced, ?_⟩
    refine same.callback_eq.trans ?_
    change (h.world.device.emplaceCallback srcToken h.issued.length).token2callback = _
    cases found : h.world.device.token2callback srcToken with
    | some callback => simp only [NetDevice.emplaceCallback, stored, found]; rfl
    | none => simp only [NetDevice.emplaceCallback, stored, found]; rfl
  next => cases stepped

/-- A reply hands the stored callback over and forgets it. -/
theorem step_reply {h h' : ReadHistory} {sys : Sys} {msg : NetMsg}
    (is_open : h.world.device.cq.isSendClosed = false)
    (stepped : h.step (.reply sys msg) = some h') :
    h.arrived.count msg.dst < h.issued.count msg.dst ∧ h'.issued = h.issued ∧
      h'.arrived = h.arrived ++ [msg.dst] ∧ h'.world.device.cq.isSendClosed = false ∧
      h'.sent = h.sent ++ (h.stored msg.dst).toList ∧
      h'.stored = Function.update h.stored msg.dst none := by
  simp only [step] at stepped
  split_ifs at stepped with enabled
  obtain ⟨data, unanswered⟩ := enabled
  have not_command : ¬msg.msgType = 0 := by rw [data]; decide
  simp only [parseNetMsg, if_neg not_command, if_pos data] at stepped
  cases found : h.world.device.token2callback msg.dst with
  | some callback =>
      simp only [found] at stepped
      cases stepped
      refine ⟨unanswered, rfl, rfl, ?_, ?_, ?_⟩
      · simp only [World.cqSend, Channel.send, is_open]
        rfl
      · simp [sent, stored, found, World.cqSend, Channel.send, is_open, sentCallbacks,
          Effect.callback]
      · simp only [World.cqSend, Channel.send, is_open]
        rfl
  | none =>
      simp only [found] at stepped
      cases stepped
      refine ⟨unanswered, rfl, rfl, is_open, by simp [sent, stored, found], ?_⟩
      funext token
      by_cases equal : token = msg.dst
      · subst equal
        simpa [stored] using found
      · simp [Function.update_of_ne equal, stored]

/-! ## What every run keeps -/

/-- A callback is stored for the token of its own request and has not been sent; a callback that
was sent belongs to a request that was answered. -/
structure Sound (h : ReadHistory) : Prop where
  is_open : h.world.device.cq.isSendClosed = false
  stored : ∀ {token callback}, h.stored token = some callback →
    h.IssuedFor callback token ∧ callback ∉ h.sent
  sent : ∀ {callback}, callback ∈ h.sent →
    ∃ token, h.IssuedFor callback token ∧ token ∈ h.arrived
  nodup : h.sent.Nodup

theorem Sound.atMostOnce {h : ReadHistory} (sound : h.Sound) : h.AtMostOnce :=
  ⟨sound.nodup, fun _ member => sound.sent member⟩

theorem Initial.sound {h : ReadHistory} (initial : h.Initial) : h.Sound where
  is_open := initial.is_open
  stored {token} _ found := by simp [initial.stored token] at found
  sent {_} member := by simp [initial.sent] at member
  nodup := by simp [initial.sent]

/-- A new request does not change which token an old callback belongs to. -/
theorem IssuedFor.concat {h h' : ReadHistory} {callback : Callback} {token srcToken : Token}
    (issued_eq : h'.issued = h.issued ++ [srcToken]) (issued : h.IssuedFor callback token) :
    h'.IssuedFor callback token := by
  rw [IssuedFor, issued_eq, List.getElem?_append_left issued.lt]
  exact issued

theorem issuedFor_last {h h' : ReadHistory} {srcToken : Token}
    (issued_eq : h'.issued = h.issued ++ [srcToken]) :
    h'.IssuedFor h.issued.length srcToken := by
  simp [IssuedFor, issued_eq]

/-- The next callback has not been sent. -/
theorem Sound.next_not_sent {h : ReadHistory} (sound : h.Sound) : h.issued.length ∉ h.sent := by
  intro member
  obtain ⟨token, issued, _⟩ := sound.sent member
  exact lt_irrefl _ issued.lt

theorem Sound.step {h h' : ReadHistory} {label : ReadLabel} (sound : h.Sound)
    (stepped : h.step label = some h') : h'.Sound := by
  cases label with
  | read sys srcToken dstToken =>
      obtain ⟨issued_eq, arrived_eq, sent_eq, cq_eq, stored_eq⟩ := step_read stepped
      refine ⟨cq_eq ▸ sound.is_open, fun {token callback} found => ?_, fun {callback} member => ?_,
        sent_eq ▸ sound.nodup⟩
      · rw [stored_eq] at found
        rw [sent_eq]
        cases present : h.stored srcToken with
        | some earlier =>
            simp only [present] at found
            exact ⟨(sound.stored found).1.concat issued_eq, (sound.stored found).2⟩
        | none =>
            simp only [present] at found
            by_cases equal : token = srcToken
            · subst equal
              rw [Function.update_self] at found
              cases found
              exact ⟨issuedFor_last issued_eq, sound.next_not_sent⟩
            · rw [Function.update_of_ne equal] at found
              exact ⟨(sound.stored found).1.concat issued_eq, (sound.stored found).2⟩
      · rw [sent_eq] at member
        obtain ⟨token, issued, answered⟩ := sound.sent member
        exact ⟨token, issued.concat issued_eq, arrived_eq ▸ answered⟩
  | reply sys msg =>
      obtain ⟨_, issued_eq, arrived_eq, is_open, sent_eq, stored_eq⟩ :=
        step_reply sound.is_open stepped
      have same {callback : Callback} {token : Token} (issued : h.IssuedFor callback token) :
          h'.IssuedFor callback token := by rwa [IssuedFor, issued_eq]
      refine ⟨is_open, fun {token callback} found => ?_, fun {callback} member => ?_, ?_⟩
      · rw [stored_eq] at found
        by_cases equal : token = msg.dst
        · subst equal
          simp at found
        · rw [Function.update_of_ne equal] at found
          obtain ⟨issued, unsent⟩ := sound.stored found
          refine ⟨same issued, ?_⟩
          rw [sent_eq, List.mem_append, Option.mem_toList]
          rintro (early | now)
          · exact unsent early
          · exact equal (issued.token_eq (sound.stored now).1)
      · rw [sent_eq, List.mem_append, Option.mem_toList] at member
        rw [arrived_eq]
        obtain early | now := member
        · obtain ⟨token, issued, answered⟩ := sound.sent early
          exact ⟨token, same issued, List.mem_append_left _ answered⟩
        · exact ⟨msg.dst, same (sound.stored now).1, by simp⟩
      · rw [sent_eq, List.nodup_append]
        refine ⟨sound.nodup, ?_, ?_⟩
        · cases h.stored msg.dst <;> simp
        · intro early early_mem now now_mem same_callback
          rw [Option.mem_toList] at now_mem
          exact (sound.stored now_mem).2 (same_callback ▸ early_mem)

theorem run_sound {h h' : ReadHistory} {labels : List ReadLabel} (sound : h.Sound)
    (execution : system.run h labels = some h') : h'.Sound := by
  have preserved (before : ReadHistory) (label : ReadLabel) (after : ReadHistory)
      (kept : before.Sound) (stepped : system.step before label = some after) : after.Sound :=
    kept.step stepped
  exact run_invariant preserved sound execution

/-! ## Runs without overlapping requests lose nothing -/

/-- Each token has as many unanswered requests as stored callbacks, and every callback is stored
until it is sent. -/
structure Exact (h : ReadHistory) : Prop where
  outstanding : ∀ token,
    h.issued.count token = h.arrived.count token + (h.stored token).toList.length
  kept : ∀ {callback token}, h.IssuedFor callback token →
    callback ∈ h.sent ∨ h.stored token = some callback

theorem Initial.exact {h : ReadHistory} (initial : h.Initial) : h.Exact where
  outstanding token := by simp [initial.issued, initial.arrived, initial.stored token]
  kept {_ _} issued := by simp [IssuedFor, initial.issued] at issued

/-- A callback of the history after a request is an old one or the new one. -/
theorem IssuedFor.old_or_new {h h' : ReadHistory} {callback : Callback} {token srcToken : Token}
    (issued_eq : h'.issued = h.issued ++ [srcToken]) (issued : h'.IssuedFor callback token) :
    h.IssuedFor callback token ∨ callback = h.issued.length ∧ token = srcToken := by
  rw [IssuedFor, issued_eq] at issued
  by_cases old : callback < h.issued.length
  · rw [List.getElem?_append_left old] at issued
    exact .inl issued
  · have above : h.issued.length ≤ callback := Nat.not_lt.mp old
    rw [List.getElem?_append_right above] at issued
    obtain ⟨position, found⟩ := List.getElem?_eq_some_iff.mp issued
    simp only [List.length_singleton] at position
    simp only [List.getElem_singleton] at found
    have below : callback ≤ h.issued.length :=
      Nat.sub_eq_zero_iff_le.mp (Nat.lt_one_iff.mp position)
    exact .inr ⟨Nat.le_antisymm below above, found.symm⟩

theorem Exact.step {h h' : ReadHistory} {label : ReadLabel} (sound : h.Sound) (exact_ : h.Exact)
    (free : h.Free label) (stepped : h.step label = some h') : h'.Exact := by
  cases label with
  | read sys srcToken dstToken =>
      obtain ⟨issued_eq, arrived_eq, sent_eq, _, stored_eq⟩ := step_read stepped
      have nothing : h.stored srcToken = none := free
      simp only [nothing] at stored_eq
      refine ⟨fun token => ?_, fun {callback token} issued => ?_⟩
      · have before := exact_.outstanding token
        rw [issued_eq, arrived_eq, stored_eq, List.count_append]
        by_cases equal : token = srcToken
        · subst equal
          simp [nothing] at before ⊢
          omega
        · rw [Function.update_of_ne equal, List.count_singleton,
            if_neg (by simpa using Ne.symm equal)]
          exact before
      · rw [sent_eq, stored_eq]
        obtain old | ⟨rfl, rfl⟩ := issued.old_or_new issued_eq
        · obtain delivered | waiting := exact_.kept old
          · exact .inl delivered
          · have different : token ≠ srcToken := by
              rintro rfl
              rw [nothing] at waiting
              cases waiting
            rw [Function.update_of_ne different]
            exact .inr waiting
        · exact .inr (Function.update_self _ _ _)
  | reply sys msg =>
      obtain ⟨unanswered, issued_eq, arrived_eq, _, sent_eq, stored_eq⟩ :=
        step_reply sound.is_open stepped
      refine ⟨fun token => ?_, fun {callback token} issued => ?_⟩
      · have before := exact_.outstanding token
        rw [issued_eq, arrived_eq, stored_eq, List.count_append]
        by_cases equal : token = msg.dst
        · subst equal
          have one : (h.stored msg.dst).toList.length ≤ 1 := by
            cases h.stored msg.dst <;> simp
          simp
          omega
        · rw [Function.update_of_ne equal, List.count_singleton,
            if_neg (by simpa using Ne.symm equal)]
          exact before
      · rw [IssuedFor, issued_eq] at issued
        rw [sent_eq, stored_eq, List.mem_append, Option.mem_toList]
        obtain delivered | waiting := exact_.kept issued
        · exact .inl (.inl delivered)
        · by_cases equal : token = msg.dst
          · subst equal
            exact .inl (.inr waiting)
          · rw [Function.update_of_ne equal]
            exact .inr waiting

theorem Exact.allDelivered {h : ReadHistory} (sound : h.Sound) (exact_ : h.Exact)
    (complete : h.Complete) : h.AllDelivered := by
  intro callback inside
  have issued : h.IssuedFor callback h.issued[callback] := List.getElem?_eq_getElem inside
  obtain delivered | waiting := exact_.kept issued
  · exact List.count_eq_one_of_mem sound.nodup delivered
  · have balance := exact_.outstanding h.issued[callback]
    rw [complete, waiting] at balance
    simp at balance

/-! ## An overlapping request loses its callback -/

/-- The callback has not been sent and is not stored. -/
def Lost (h : ReadHistory) (callback : Callback) : Prop :=
  ∃ token, h.IssuedFor callback token ∧ callback ∉ h.sent ∧ h.stored token ≠ some callback

theorem lost_of_overlap {h h' : ReadHistory} {sys : Sys} {srcToken dstToken : Token}
    {earlier : Callback} (sound : h.Sound) (present : h.stored srcToken = some earlier)
    (stepped : h.step (.read sys srcToken dstToken) = some h') : h'.Lost h.issued.length := by
  obtain ⟨issued_eq, _, sent_eq, _, stored_eq⟩ := step_read stepped
  refine ⟨srcToken, issuedFor_last issued_eq, sent_eq ▸ sound.next_not_sent, ?_⟩
  simp only [present] at stored_eq
  rw [stored_eq, present]
  intro same
  exact absurd (sound.stored present).1.lt (by rw [Option.some.inj same]; exact lt_irrefl _)

theorem Lost.step {h h' : ReadHistory} {label : ReadLabel} {callback : Callback}
    (sound : h.Sound) (lost : h.Lost callback) (stepped : h.step label = some h') :
    h'.Lost callback := by
  obtain ⟨token, issued, unsent, missing⟩ := lost
  cases label with
  | read sys srcToken dstToken =>
      obtain ⟨issued_eq, _, sent_eq, _, stored_eq⟩ := step_read stepped
      refine ⟨token, issued.concat issued_eq, sent_eq ▸ unsent, ?_⟩
      rw [stored_eq]
      cases present : h.stored srcToken with
      | some earlier => exact missing
      | none =>
          by_cases equal : token = srcToken
          · subst equal
            simp only [Function.update_self]
            exact fun same => absurd issued.lt (by rw [Option.some.inj same]; exact lt_irrefl _)
          · simpa only [Function.update_of_ne equal] using missing
  | reply sys msg =>
      obtain ⟨_, issued_eq, _, _, sent_eq, stored_eq⟩ := step_reply sound.is_open stepped
      refine ⟨token, by rwa [IssuedFor, issued_eq], ?_, ?_⟩
      · rw [sent_eq, List.mem_append, Option.mem_toList]
        rintro (early | now)
        · exact unsent early
        · have same := issued.token_eq (sound.stored now).1
          exact missing (same ▸ now)
      · rw [stored_eq]
        by_cases equal : token = msg.dst
        · subst equal
          simp
        · rwa [Function.update_of_ne equal]

theorem Lost.not_allDelivered {h : ReadHistory} {callback : Callback} (lost : h.Lost callback) :
    ¬h.AllDelivered := by
  intro delivered
  obtain ⟨token, issued, unsent, _⟩ := lost
  have once := delivered callback issued.lt
  rw [List.count_eq_zero_of_not_mem unsent] at once
  cases once

/-- Every run from a sound history is free of overlaps or has lost a callback. -/
theorem guarded_or_lost {h final : ReadHistory} {labels : List ReadLabel} (sound : h.Sound)
    (execution : system.run h labels = some final) :
    system.Guarded Free h labels ∨ ∃ callback, final.Lost callback := by
  induction labels generalizing h with
  | nil => exact .inl trivial
  | cons label labels ih =>
      obtain ⟨next, stepped, remaining⟩ := run_cons_eq_some.mp execution
      have next_sound := sound.step stepped
      by_cases free : h.Free label
      · refine (ih next_sound remaining).imp_left fun guarded => ⟨free, fun other again => ?_⟩
        cases stepped.symm.trans again
        exact guarded
      · cases label with
        | reply sys msg => exact absurd trivial free
        | read sys srcToken dstToken =>
            obtain ⟨earlier, present⟩ := Option.ne_none_iff_exists'.mp free
            have preserved (before : ReadHistory) (label : ReadLabel) (after : ReadHistory)
                (kept : before.Sound ∧ before.Lost h.issued.length)
                (stepped : system.step before label = some after) :
                after.Sound ∧ after.Lost h.issued.length :=
              ⟨kept.1.step stepped, kept.2.step kept.1 stepped⟩
            exact .inr ⟨_, (run_invariant preserved
              ⟨next_sound, lost_of_overlap sound present stepped⟩ remaining).2⟩

/-- At every point of a run no callback was sent twice or too early, and at its end the callback of
every request was sent exactly once. -/
def ExactlyOnce (initial : ReadHistory) (labels : List ReadLabel) (final : ReadHistory) : Prop :=
  (∀ earlier middle, earlier <+: labels → system.run initial earlier = some middle →
    middle.AtMostOnce) ∧ final.AllDelivered

/-- When all requests of a run have been answered, their callbacks were delivered exactly once if
and only if every request was made while none was outstanding for its token. -/
theorem exactlyOnce_iff {initial final : ReadHistory} {labels : List ReadLabel}
    (start : initial.Initial) (execution : system.run initial labels = some final)
    (complete : final.Complete) :
    ExactlyOnce initial labels final ↔ system.Guarded Free initial labels := by
  constructor
  · rintro ⟨_, delivered⟩
    obtain guarded | ⟨callback, lost⟩ := guarded_or_lost start.sound execution
    · exact guarded
    · exact absurd delivered lost.not_allDelivered
  · intro guarded
    refine ⟨fun earlier middle _ reached => (run_sound start.sound reached).atMostOnce, ?_⟩
    have preserved (before : ReadHistory) (label : ReadLabel) (after : ReadHistory)
        (kept : before.Sound ∧ before.Exact) (free : before.Free label)
        (stepped : system.step before label = some after) : after.Sound ∧ after.Exact :=
      ⟨kept.1.step stepped, kept.2.step kept.1 free stepped⟩
    obtain ⟨sound, exact_⟩ :=
      run_invariant_of_guarded preserved ⟨start.sound, start.exact⟩ guarded execution
    exact exact_.allDelivered sound complete

/-- A device that has not been used. -/
def unused : ReadHistory := ⟨default, [], []⟩

theorem unused_initial : unused.Initial := ⟨fun _ => rfl, rfl, rfl, rfl, rfl⟩

/-- A request for a token. -/
def readFor (token : Token) : ReadLabel := .read { socket := .fd 3 } token 2

/-- A reply for a token. -/
def replyFor (token : Token) : ReadLabel := .reply {} (dataMsg 0 token 0)

theorem complete_of_perm {h : ReadHistory} (perm : h.arrived.Perm h.issued) : h.Complete :=
  perm.count_eq

/-- Two requests are outstanding, and the second one is answered first. -/
def reordered : List ReadLabel := [readFor 1, readFor 5, replyFor 5, replyFor 1]

theorem exactlyOnce_iff_reordered :
    ∃ final, system.run unused reordered = some final ∧ final.Complete ∧
      final.issued = [1, 5] ∧ final.arrived = [5, 1] ∧ final.sent = [1, 0] ∧
      (ExactlyOnce unused reordered final ↔ system.Guarded Free unused reordered) ∧
      ExactlyOnce unused reordered final := by
  have concrete : ∃ final, system.run unused reordered = some final ∧
      final.issued = [1, 5] ∧ final.arrived = [5, 1] ∧ final.sent = [1, 0] :=
    ⟨_, rfl, rfl, rfl, rfl⟩
  obtain ⟨final, execution, issued, arrived, sent⟩ := concrete
  have complete : final.Complete := complete_of_perm (by rw [arrived, issued]; decide)
  have decided := exactlyOnce_iff unused_initial execution complete
  exact ⟨final, execution, complete, issued, arrived, sent, decided,
    decided.mpr (by decide +kernel)⟩

/-- Two outstanding requests for one token: both are answered and one callback is sent. -/
theorem overlapping_reads_lose_callback :
    ∃ final, system.run unused [readFor 1, readFor 1, replyFor 1, replyFor 1] = some final ∧
      final.Complete ∧ final.issued.length = 2 ∧ final.sent = [0] ∧
      ¬ExactlyOnce unused [readFor 1, readFor 1, replyFor 1, replyFor 1] final := by
  have concrete : ∃ final,
      system.run unused [readFor 1, readFor 1, replyFor 1, replyFor 1] = some final ∧
      final.arrived = final.issued ∧ final.issued.length = 2 ∧ final.sent = [0] :=
    ⟨_, rfl, rfl, rfl, rfl⟩
  obtain ⟨final, execution, same, two, only⟩ := concrete
  refine ⟨final, execution, complete_of_perm (.of_eq same), two, only, ?_⟩
  rintro ⟨_, delivered⟩
  have second := delivered 1 (by rw [two]; decide)
  rw [only] at second
  exact absurd second (by decide)

end ReadHistory

end Klibmsg
