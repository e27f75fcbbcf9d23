import Mathlib.Data.List.Basic

/-!
# Streams of frames

A frame is a header of a fixed size, which tells the length of the payload that follows it.  The
parser of a stream takes frames as long as there are whole ones.  What it makes of a longer stream
depends on the shorter one only through the part that is left over, so that it can be resumed.
-/

/-- How frames are laid out. -/
structure Framing (α μ : Type*) where
  /-- The size of a header. -/
  size : Nat
  size_pos : 0 < size
  /-- The header at the start of a list. -/
  decode : List α → μ
  decode_take : ∀ stream, decode (stream.take size) = decode stream
  payloadLen : μ → Nat

namespace Framing

variable {α μ : Type*} (F : Framing α μ)

/-- The length of the frame at the start of a stream, when its header is there. -/
def frameLen (stream : List α) : Nat := F.size + F.payloadLen (F.decode stream)

/-- A stream begins with a whole frame. -/
def Whole (stream : List α) : Prop := F.size ≤ stream.length ∧ F.frameLen stream ≤ stream.length

instance (stream : List α) : Decidable (F.Whole stream) := inferInstanceAs (Decidable (_ ∧ _))

/-- The header and the payload at the start of a stream. -/
def first (stream : List α) : μ × List α :=
  (F.decode stream, (stream.drop F.size).take (F.payloadLen (F.decode stream)))

/-- The frames of a stream, and what is left over. -/
def parse (stream : List α) : List (μ × List α) × List α :=
  if _whole : F.Whole stream then
    let (frames, rest) := parse (stream.drop (F.frameLen stream))
    (F.first stream :: frames, rest)
  else
    ([], stream)
termination_by stream.length
decreasing_by
  have positive := F.size_pos
  have enough := _whole.2
  simp only [frameLen] at enough
  simp only [List.length_drop, frameLen]
  omega

variable {F} {stream more : List α}

theorem parse_of_whole (whole : F.Whole stream) :
    F.parse stream =
      (F.first stream :: (F.parse (stream.drop (F.frameLen stream))).1,
        (F.parse (stream.drop (F.frameLen stream))).2) := by
  rw [parse, dif_pos whole]

theorem parse_of_not_whole (short : ¬F.Whole stream) : F.parse stream = ([], stream) := by
  rw [parse, dif_neg short]

theorem decode_append (enough : F.size ≤ stream.length) :
    F.decode (stream ++ more) = F.decode stream := by
  rw [← F.decode_take (stream ++ more), List.take_append_of_le_length enough, F.decode_take]

theorem frameLen_append (enough : F.size ≤ stream.length) :
    F.frameLen (stream ++ more) = F.frameLen stream := by
  rw [frameLen, frameLen, decode_append enough]

theorem Whole.append (whole : F.Whole stream) (more : List α) : F.Whole (stream ++ more) := by
  obtain ⟨enough, complete⟩ := whole
  rw [Whole, frameLen_append enough, List.length_append]
  omega

theorem first_append (whole : F.Whole stream) (more : List α) :
    F.first (stream ++ more) = F.first stream := by
  obtain ⟨enough, complete⟩ := whole
  simp only [frameLen] at complete
  have inside : F.payloadLen (F.decode stream) ≤ (stream.drop F.size).length := by
    rw [List.length_drop]
    omega
  rw [first, first, decode_append enough, List.drop_append_of_le_length enough,
    List.take_append_of_le_length inside]

/-- The parser goes on where it stopped. -/
theorem parse_append (stream more : List α) :
    F.parse (stream ++ more) =
      ((F.parse stream).1 ++ (F.parse ((F.parse stream).2 ++ more)).1,
        (F.parse ((F.parse stream).2 ++ more)).2) := by
  induction stream using parse.induct F with
  | case1 stream whole frames rest parsed ih =>
      have tail : (stream ++ more).drop (F.frameLen stream) =
          stream.drop (F.frameLen stream) ++ more := List.drop_append_of_le_length whole.2
      rw [parse_of_whole (whole.append more), parse_of_whole whole, first_append whole,
        frameLen_append whole.1, tail, ih]
      rfl
  | case2 stream short =>
      rw [parse_of_not_whole short]
      rfl

/-- A stream that is exactly one frame. -/
theorem parse_frame (enough : F.size ≤ stream.length) (exact : stream.length = F.frameLen stream) :
    F.parse stream = ([(F.decode stream, stream.drop F.size)], []) := by
  have payload : (stream.drop F.size).take (F.payloadLen (F.decode stream)) =
      stream.drop F.size := by
    refine List.take_of_length_le ?_
    rw [List.length_drop, exact, frameLen]
    omega
  have nothing : ¬F.Whole ([] : List α) := fun whole =>
    absurd whole.1 (Nat.not_le.mpr F.size_pos)
  rw [parse_of_whole ⟨enough, Nat.le_of_eq exact.symm⟩, first, payload,
    List.drop_eq_nil_of_le (Nat.le_of_eq exact), parse_of_not_whole nothing]

/-- A frame that is written out, followed by other bytes. -/
theorem parse_encoded {encode : μ → List α} (length_encode : ∀ msg, (encode msg).length = F.size)
    (decode_encode : ∀ msg, F.decode (encode msg) = msg) {frame : μ × List α}
    (payload : frame.2.length = F.payloadLen frame.1) (more : List α) :
    F.parse (encode frame.1 ++ frame.2 ++ more) =
      (frame :: (F.parse more).1, (F.parse more).2) := by
  have size_eq := length_encode frame.1
  have decoded : F.decode (encode frame.1 ++ frame.2) = frame.1 := by
    rw [decode_append (Nat.le_of_eq size_eq.symm), decode_encode]
  have enough : F.size ≤ (encode frame.1 ++ frame.2).length := by
    rw [List.length_append, size_eq]
    exact Nat.le_add_right _ _
  have exact : (encode frame.1 ++ frame.2).length = F.frameLen (encode frame.1 ++ frame.2) := by
    rw [frameLen, decoded, List.length_append, size_eq, payload]
  rw [parse_append, parse_frame enough exact, decoded, ← size_eq, List.drop_left]
  rfl

/-- Frames that are written out one after the other, followed by a part of a frame. -/
theorem parse_flatten {encode : μ → List α} (length_encode : ∀ msg, (encode msg).length = F.size)
    (decode_encode : ∀ msg, F.decode (encode msg) = msg) {frames : List (μ × List α)}
    (payloads : ∀ frame ∈ frames, frame.2.length = F.payloadLen frame.1) {rest : List α}
    (short : ¬F.Whole rest) :
    F.parse (frames.flatMap (fun frame => encode frame.1 ++ frame.2) ++ rest) =
      (frames, rest) := by
  induction frames with
  | nil => exact parse_of_not_whole short
  | cons frame frames ih =>
      obtain ⟨payload, payloads⟩ := List.forall_mem_cons.mp payloads
      rw [List.flatMap_cons, List.append_assoc,
        parse_encoded length_encode decode_encode payload, ih payloads]

/-! ## Headers -/

/-- The headers in a stream, also that of a frame whose payload is not whole. -/
def headers (F : Framing α μ) (stream : List α) : List μ :=
  (F.parse stream).1.map Prod.fst ++
    if F.size ≤ (F.parse stream).2.length then [F.decode (F.parse stream).2] else []

theorem headers_append (stream more : List α) :
    F.headers (stream ++ more) =
      (F.parse stream).1.map Prod.fst ++ F.headers ((F.parse stream).2 ++ more) := by
  simp only [headers, parse_append stream more, List.map_append, List.append_assoc]

/-- The header at the start of a stream. -/
theorem decode_mem_headers (enough : F.size ≤ stream.length) (more : List α) :
    F.decode stream ∈ F.headers (stream ++ more) := by
  have longer : F.size ≤ (stream ++ more).length := by
    rw [List.length_append]
    omega
  have same : F.decode (stream ++ more) = F.decode stream := F.decode_append enough
  rw [← same, headers]
  by_cases whole : F.Whole (stream ++ more)
  · rw [parse_of_whole whole]
    simp [first]
  · rw [parse_of_not_whole whole]
    simp only [longer, if_true, List.map_nil, List.nil_append, List.mem_singleton]

end Framing
