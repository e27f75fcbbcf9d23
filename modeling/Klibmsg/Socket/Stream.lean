import Klibmsg.Library.Framing
import Klibmsg.Socket.Offsets

/-!
# Receiving a stream

The bytes of a peer arrive in segments of any size, with calls that find nothing in between, and
`RecvRaw` resumes at any byte of a header or a payload.  It takes the same frames from the stream as
a parser that reads it in one pass, whatever the headers say, as long as the frames fit its offsets.
-/

namespace Klibmsg

open StepSystem

/-- The frames of the protocol. -/
def NetMsg.framing : Framing Byte NetMsg where
  size := NetMsg.size
  size_pos := by decide
  decode := NetMsg.decode
  decode_take := NetMsg.decode_take
  payloadLen := NetMsg.payloadLen

/-- The memory after the payloads of some frames have been stored, one after the other. -/
def storeFrames (token2Dptr : Token → Address) (memory : Memory)
    (frames : List (NetMsg × List Byte)) : Memory :=
  frames.foldl (fun memory frame => memory.write (token2Dptr frame.1.dst) frame.2) memory

/-- What a `read` finds of a stream: nothing yet, or a number of bytes behind the first one. -/
def readReply (stream : List Byte) : Option Nat → ReadReply
  | none => .fails EAGAIN
  | some more =>
      match stream.take (more + 1) with
      | [] => .fails EAGAIN
      | first :: rest => .data first rest

/-- Each `read` of a call finds something, if anything is left. -/
def Finds (segments : Option Nat × Option Nat) : Bool :=
  segments.1.isSome && segments.2.isSome

/-- The bytes that a call of `RecvRaw` takes for the header. -/
def NetSocket.headerBytes (sock : NetSocket) (reply : ReadReply) : List Byte :=
  if sock.inOffset.toNat < NetMsg.size then (sock.headerRead reply).bytes else []

/-- A socket that receives a stream. -/
structure StreamState where
  sock : NetSocket
  memory : Memory
  /-- The bytes that have not been read. -/
  stream : List Byte
  /-- For each return of zero, the header in the buffer and the payload in memory. -/
  frames : List (NetMsg × List Byte)
  /-- What the calls returned. -/
  codes : List Int

/-- A stream that is about to be received. -/
def StreamState.start (sock : NetSocket) (memory : Memory) (stream : List Byte) : StreamState :=
  ⟨sock, memory, stream, [], []⟩

/-- Repeated calls of `RecvRaw`, with the segments that their two reads find. -/
def streamSystem (token2Dptr : Token → Address) :
    StepSystem StreamState (Option Nat × Option Nat) where
  step s segments :=
    let header := readReply s.stream segments.1
    let payload := readReply (s.stream.drop (s.sock.headerBytes header).length) segments.2
    let transfer := s.sock.recvRaw token2Dptr header payload s.memory
    let msg := transfer.sock.inMsg
    some
      { sock := transfer.sock
        memory := transfer.memory
        stream := s.stream.drop (transferred transfer.calls).length
        frames :=
          if transfer.rc = 0 then
            s.frames ++ [(msg, transfer.memory.read (token2Dptr msg.dst) msg.payloadLen)]
          else
            s.frames
        codes := s.codes ++ [transfer.rc] }

/-- The socket has done with a part of the stream what the parser does with it. -/
structure Parsed (token2Dptr : Token → Address) (memory : Memory) (consumed : List Byte)
    (s : StreamState) : Prop where
  frames : s.frames = (NetMsg.framing.parse consumed).1
  memory_eq : s.memory = (storeFrames token2Dptr memory (NetMsg.framing.parse consumed).1).write
    (token2Dptr (NetMsg.decode (NetMsg.framing.parse consumed).2).dst)
    ((NetMsg.framing.parse consumed).2.drop NetMsg.size)
  codes : ∀ code ∈ s.codes, code = 0 ∨ code = -EAGAIN
  count : s.codes.count 0 = s.frames.length
  last : s.codes.getLast? = some 0 → (NetMsg.framing.parse consumed).2 = []

section Calls

variable {token2Dptr : Token → Address} {sock : NetSocket} {memory : Memory} {stream : List Byte}

theorem readReply_soft (stream : List Byte) (segment : Option Nat) :
    (readReply stream segment).isHard = false := by
  cases segment with
  | none => rfl
  | some more =>
      simp only [readReply]
      split
      · rfl
      · rfl

theorem readReply_prefix (stream : List Byte) (segment : Option Nat) (count : Nat) :
    (readReply stream segment).bytes count <+: stream := by
  cases segment with
  | none => exact List.nil_prefix
  | some more =>
      simp only [readReply]
      split
      · exact List.nil_prefix
      next first rest taken =>
        rw [ReadReply.bytes, ← taken]
        exact (List.take_prefix _ _).trans (List.take_prefix _ _)

theorem recvFinish_rc (sock : NetSocket) (memory : Memory) (calls : List SysCall)
    (totalMsgSz : BitVec 64) :
    (sock.recvFinish memory calls totalMsgSz).rc = 0 ∨
      (sock.recvFinish memory calls totalMsgSz).rc = -EAGAIN := by
  rw [NetSocket.recvFinish]
  split_ifs
  · exact .inr rfl
  · exact .inl rfl

/-- The rest of `RecvRaw` takes bytes with one read at most, and a read that does not fail for good
leaves one of two codes. -/
theorem recvPayload_takes (token2Dptr : Token → Address) {reply : ReadReply}
    (soft : reply.isHard = false) (sock : NetSocket) (memory : Memory) (calls : List SysCall) :
    let transfer := NetSocket.recvPayload token2Dptr reply sock memory calls
    (transfer.rc = 0 ∨ transfer.rc = -EAGAIN) ∧
      ∃ bytes, transferred transfer.calls = transferred calls ++ bytes ∧
        (bytes = [] ∨ ∃ count, bytes = reply.bytes count) := by
  simp only [NetSocket.recvPayload, soft, Bool.false_eq_true, if_false]
  split_ifs
  · exact ⟨.inr rfl, [], (List.append_nil _).symm, .inl rfl⟩
  · refine ⟨recvFinish_rc .., reply.bytes (sock.inMsg.extra +
      (headerSize - sock.inOffset.signExtend 64)).toNat, ?_, .inr ⟨_, rfl⟩⟩
    rw [recvFinish_calls, transferred_append, transferred_singleton]
    rfl
  · exact ⟨recvFinish_rc .., [], by rw [recvFinish_calls, List.append_nil], .inl rfl⟩

/-- A call of `RecvRaw` takes the next bytes of the stream. -/
theorem recvRaw_takes (token2Dptr : Token → Address) (small : sock.inOffset.toNat < 2 ^ 31)
    (memory : Memory) (stream : List Byte) (segments : Option Nat × Option Nat) :
    let header := readReply stream segments.1
    let payload := readReply (stream.drop (sock.headerBytes header).length) segments.2
    let transfer := sock.recvRaw token2Dptr header payload memory
    (transfer.rc = 0 ∨ transfer.rc = -EAGAIN) ∧ transferred transfer.calls <+: stream := by
  intro header payload transfer
  have soft : payload.isHard = false := readReply_soft ..
  have inside (count : Nat) :
      payload.bytes count <+: stream.drop (sock.headerBytes header).length :=
    readReply_prefix ..
  by_cases due : sock.inOffset.toNat < NetMsg.size
  · have taken : sock.headerBytes header = (sock.headerRead header).bytes := if_pos due
    have first : (sock.headerRead header).bytes <+: stream := by
      rw [headerRead_bytes due]
      exact readReply_prefix ..
    have resumed : transfer = NetSocket.recvPayload token2Dptr payload
        (sock.withHeader (sock.headerRead header).bytes) memory [sock.headerRead header] := by
      have gentle : header.isHard = false := readReply_soft ..
      change sock.recvRaw token2Dptr header payload memory = _
      rw [recvRaw_of_due due, gentle, if_neg Bool.false_ne_true]
    obtain ⟨rc, bytes, all, cases⟩ := recvPayload_takes token2Dptr soft
      (sock.withHeader (sock.headerRead header).bytes) memory [sock.headerRead header]
    rw [← resumed] at rc all
    refine ⟨rc, ?_⟩
    rw [all, transferred_singleton]
    have next : bytes <+: stream.drop (sock.headerRead header).bytes.length := by
      obtain rfl | ⟨count, rfl⟩ := cases
      · exact List.nil_prefix
      · exact taken ▸ inside count
    obtain ⟨rest, split⟩ := first
    rw [← split, List.drop_left] at next
    rw [← split]
    exact (List.prefix_append_right_inj _).mpr next
  · have none : sock.headerBytes header = [] := if_neg due
    have resumed : transfer = NetSocket.recvPayload token2Dptr payload sock memory [] :=
      recvRaw_of_behind (Nat.not_lt.mp due) small
    obtain ⟨rc, bytes, all, cases⟩ := recvPayload_takes token2Dptr soft sock memory []
    rw [← resumed] at rc all
    refine ⟨rc, ?_⟩
    rw [all]
    obtain rfl | ⟨count, rfl⟩ := cases
    · exact List.nil_prefix
    · have next := inside count
      rw [none] at next
      exact next

end Calls

section Step

variable {token2Dptr : Token → Address} {memory : Memory} {consumed got taken : List Byte}

theorem storeFrames_concat (token2Dptr : Token → Address) (memory : Memory)
    (frames : List (NetMsg × List Byte)) (frame : NetMsg × List Byte) :
    storeFrames token2Dptr memory (frames ++ [frame]) =
      (storeFrames token2Dptr memory frames).write (token2Dptr frame.1.dst) frame.2 := by
  rw [storeFrames, List.foldl_append]
  rfl

/-- The offset stays far from its bound. -/
theorem Holding.small {sock : NetSocket} (holding : Holding sock got)
    (fits : NetMsg.size ≤ got.length → (NetMsg.decode got).Fits) : got.length < 2 ^ 31 := by
  by_cases whole : NetMsg.size ≤ got.length
  · have bounded : (NetMsg.decode got).frameLen < 2 ^ 31 := fits whole
    exact (holding.unfinished whole).trans bounded
  · simp only [NetMsg.size] at whole
    omega

/-- What has been stored of the payload goes on where it stopped. -/
theorem write_resumed (stored : Memory) (got taken : List Byte)
    (small : (got ++ taken).length < 2 ^ 31) :
    (stored.write (token2Dptr (NetMsg.decode got).dst) (got.drop NetMsg.size)).write
        (token2Dptr (NetMsg.decode (got ++ taken)).dst +
          BitVec.ofNat 64 (got.length - NetMsg.size))
        ((got ++ taken).drop (max got.length NetMsg.size)) =
      stored.write (token2Dptr (NetMsg.decode (got ++ taken)).dst)
        ((got ++ taken).drop NetMsg.size) := by
  by_cases whole : NetMsg.size ≤ got.length
  · have length : (got.drop NetMsg.size).length = got.length - NetMsg.size := List.length_drop ..
    rw [List.length_append] at small
    rw [decode_append whole, Nat.max_eq_left whole, List.drop_left, ← length,
      Memory.write_append _ _ (by rw [length]; omega), List.drop_append_of_le_length whole]
  · have before : got.length ≤ NetMsg.size := (Nat.not_le.mp whole).le
    rw [List.drop_eq_nil_of_le before, Memory.write_nil, Nat.max_eq_right before,
      Nat.sub_eq_zero_of_le before, BitVec.add_zero]

/-- One call of `RecvRaw` does with the bytes that it takes what the parser does with them. -/
theorem Parsed.step {s s' : StreamState} {segments : Option Nat × Option Nat}
    (parsed : Parsed token2Dptr memory consumed s)
    (holding : Holding s.sock (NetMsg.framing.parse consumed).2)
    (fits : ∀ msg ∈ NetMsg.framing.headers (consumed ++ s.stream), msg.Fits)
    (stepped : (streamSystem token2Dptr).step s segments = some s') :
    ∃ taken, s.stream = taken ++ s'.stream ∧
      Parsed token2Dptr memory (consumed ++ taken) s' ∧
        Holding s'.sock (NetMsg.framing.parse (consumed ++ taken)).2 := by
  cases stepped
  obtain ⟨got, got_eq⟩ : ∃ got, got = (NetMsg.framing.parse consumed).2 := ⟨_, rfl⟩
  have fit (more : List Byte) (begins : more <+: s.stream)
      (enough : NetMsg.size ≤ (got ++ more).length) : (NetMsg.decode (got ++ more)).Fits := by
    obtain ⟨rest, split⟩ := begins
    refine fits _ ?_
    rw [← split, Framing.headers_append, ← got_eq, ← List.append_assoc got]
    exact List.mem_append_right _ (Framing.decode_mem_headers (F := NetMsg.framing) enough rest)
  rw [← got_eq] at holding
  have narrow := holding.small fun enough => by
    simpa using fit [] List.nil_prefix (by simpa using enough)
  obtain ⟨rc, begins⟩ := recvRaw_takes token2Dptr (holding.offset ▸ narrow) s.memory s.stream
    segments
  have advances := recvRaw_advances token2Dptr (readReply s.stream segments.1)
    (readReply (s.stream.drop (s.sock.headerBytes (readReply s.stream segments.1)).length)
      segments.2) s.memory holding fun enough => fit _ begins enough
  generalize s.sock.recvRaw token2Dptr _ _ s.memory = transfer at rc begins advances ⊢
  obtain ⟨taken, taken_eq⟩ : ∃ taken, taken = transferred transfer.calls := ⟨_, rfl⟩
  rw [← taken_eq] at begins advances ⊢
  have resumed := Framing.parse_append (F := NetMsg.framing) consumed taken
  rw [← got_eq] at resumed
  obtain ⟨-, memory_eq, head, -, outcome⟩ := advances
  have stored (small : (got ++ taken).length < 2 ^ 31) : transfer.memory =
      (storeFrames token2Dptr memory (NetMsg.framing.parse consumed).1).write
        (token2Dptr (NetMsg.decode (got ++ taken)).dst) ((got ++ taken).drop NetMsg.size) := by
    have before := parsed.memory_eq
    rw [← got_eq] at before
    rw [memory_eq, before, write_resumed _ got taken small]
  refine ⟨taken, (List.prefix_iff_eq_append.mp begins).symm, ?_⟩
  have codes : ∀ code ∈ s.codes ++ [transfer.rc], code = 0 ∨ code = -EAGAIN := by
    intro code member
    obtain earlier | now := List.mem_append.mp member
    · exact parsed.codes code earlier
    · rw [List.mem_singleton.mp now]
      exact rc
  obtain ⟨finished, offset, enough, exact⟩ | ⟨unfinished, holding'⟩ := outcome
  · -- the frame is whole
    have whole := Framing.parse_frame (F := NetMsg.framing) enough exact
    have bounded : (NetMsg.decode (got ++ taken)).frameLen < 2 ^ 31 := fit _ begins enough
    have decoded : transfer.sock.inMsg = NetMsg.decode (got ++ taken) := inMsg_of_head enough head
    have payload : ((got ++ taken).drop NetMsg.size).length =
        (NetMsg.decode (got ++ taken)).payloadLen := by
      rw [List.length_drop, exact, NetMsg.frameLen]
      omega
    have now := stored (by omega)
    have kept : transfer.memory.read (token2Dptr (NetMsg.decode (got ++ taken)).dst)
        (NetMsg.decode (got ++ taken)).payloadLen = (got ++ taken).drop NetMsg.size := by
      rw [now, ← payload]
      refine Memory.read_write _ _ ?_
      rw [List.length_drop]
      omega
    rw [whole] at resumed
    simp only [resumed, decoded, kept, finished, if_true]
    refine ⟨⟨?_, ?_, finished ▸ codes, ?_, fun _ => by rw [resumed]⟩, Holding.nil offset⟩
    · simp only [parsed.frames, resumed]
      rfl
    · simp only [resumed]
      rw [now, List.drop_nil, Memory.write_nil]
      exact (storeFrames_concat token2Dptr memory (NetMsg.framing.parse consumed).1
        (NetMsg.decode (got ++ taken), (got ++ taken).drop NetMsg.size)).symm
    · rw [List.count_append, parsed.count, List.length_append]
      rfl
  · -- a part of the frame is missing
    have short : ¬NetMsg.framing.Whole (got ++ taken) := fun whole =>
      Nat.not_le.mpr (holding'.unfinished whole.1) whole.2
    have again : transfer.rc = -EAGAIN := rc.resolve_left unfinished
    have wider := holding'.small fun enough => fit _ begins enough
    rw [Framing.parse_of_not_whole short, List.append_nil] at resumed
    simp only [resumed, if_neg unfinished]
    refine ⟨⟨?_, ?_, codes, ?_, fun last => ?_⟩, holding'⟩
    · simp only [parsed.frames, resumed]
    · simp only [resumed]
      exact stored wider
    · rw [List.count_append, parsed.count, again]
      rfl
    · rw [List.getLast?_concat, again] at last
      exact absurd (Option.some.inj last) (by decide)

/-- A run of calls does with the bytes that it takes what the parser does with them. -/
theorem Parsed.run {s s' : StreamState} {segments : List (Option Nat × Option Nat)}
    (parsed : Parsed token2Dptr memory consumed s)
    (holding : Holding s.sock (NetMsg.framing.parse consumed).2)
    (fits : ∀ msg ∈ NetMsg.framing.headers (consumed ++ s.stream), msg.Fits)
    (execution : (streamSystem token2Dptr).run s segments = some s') :
    ∃ taken, s.stream = taken ++ s'.stream ∧
      Parsed token2Dptr memory (consumed ++ taken) s' ∧
        Holding s'.sock (NetMsg.framing.parse (consumed ++ taken)).2 := by
  induction segments generalizing s consumed with
  | nil =>
      cases execution
      exact ⟨[], rfl, by simpa using parsed, by simpa using holding⟩
  | cons segment segments ih =>
      obtain ⟨middle, stepped, remaining⟩ := run_cons_eq_some.mp execution
      obtain ⟨first, split, parsed', holding'⟩ := parsed.step holding fits stepped
      obtain ⟨second, split', parsed'', holding''⟩ := ih parsed' holding'
        (by rw [List.append_assoc, ← split]; exact fits) remaining
      refine ⟨first ++ second, ?_, ?_, ?_⟩
      · rw [split, split', List.append_assoc]
      · rw [← List.append_assoc]
        exact parsed''
      · rw [← List.append_assoc]
        exact holding''

theorem Parsed.start (token2Dptr : Token → Address) (sock : NetSocket) (memory : Memory)
    (stream : List Byte) :
    Parsed token2Dptr memory [] (.start sock memory stream) := by
  have nothing : NetMsg.framing.parse [] = ([], []) :=
    Framing.parse_of_not_whole fun whole => absurd whole.1 (by decide)
  refine ⟨?_, ?_, by rintro _ ⟨⟩, rfl, by rintro ⟨⟩⟩
  · rw [nothing]
    rfl
  · rw [nothing, List.drop_nil, Memory.write_nil]
    rfl

end Step

section Moves

variable {stream : List Byte}

theorem readReply_moves {count : Nat} (due : 0 < count) (some_left : stream ≠ []) (more : Nat) :
    (readReply stream (some more)).bytes count ≠ [] := by
  cases stream with
  | nil => exact absurd rfl some_left
  | cons first rest =>
      obtain ⟨short, rfl⟩ := Nat.exists_eq_succ_of_ne_zero (Nat.ne_of_gt due)
      simp [readReply, ReadReply.bytes]

/-- `RecvRaw` takes something of a stream that is not empty. -/
theorem recvRaw_moves (token2Dptr : Token → Address) {sock : NetSocket} {got : List Byte}
    (holding : Holding sock got)
    (fits : NetMsg.size ≤ got.length → (NetMsg.decode got).Fits) (some_left : stream ≠ [])
    (more more' : Nat) (memory : Memory) :
    transferred (sock.recvRaw token2Dptr (readReply stream (some more))
      (readReply (stream.drop (sock.headerBytes (readReply stream (some more))).length)
        (some more'))
      memory).calls ≠ [] := by
  have small : sock.inOffset.toNat < 2 ^ 31 := holding.offset ▸ holding.small fits
  by_cases due : sock.inOffset.toNat < NetMsg.size
  · have soft := readReply_soft stream (some more)
    rw [recvRaw_of_due due, soft, if_neg Bool.false_ne_true]
    obtain ⟨-, bytes, all, -⟩ := recvPayload_takes token2Dptr
      (readReply_soft (stream.drop (sock.headerBytes (readReply stream (some more))).length)
        (some more'))
      (sock.withHeader (sock.headerRead (readReply stream (some more))).bytes) memory
      [sock.headerRead (readReply stream (some more))]
    rw [all, transferred_singleton, headerRead_bytes due]
    exact List.append_ne_nil_of_left_ne_nil
      (readReply_moves (Nat.sub_pos_of_lt due) some_left more) _
  · have behind := Nat.not_lt.mp due
    have whole : NetMsg.size ≤ got.length := holding.offset ▸ behind
    have unfinished : sock.inOffset.toNat < (NetMsg.decode got).frameLen :=
      holding.offset ▸ holding.unfinished whole
    have decoded : sock.inMsg = NetMsg.decode got := inMsg_of_head whole holding.head
    have count := payload_count (fits whole) behind unfinished
    have goes_on : sock.inOffset.toInt < (NetMsg.decode got).totalMsgSz.toInt := by
      rw [toInt_of_small small]
      exact (NetMsg.lt_totalMsgSz (fits whole) behind).mpr unfinished
    have none : sock.headerBytes (readReply stream (some more)) = [] := if_neg due
    have wide := signExtend_toNat small
    have size_eq : headerSize.toNat = NetMsg.size := rfl
    rw [recvRaw_of_behind behind small, none, List.length_nil, List.drop_zero]
    simp only [NetSocket.recvPayload, wide, size_eq, if_neg due, decoded, goes_on, if_true,
      readReply_soft, Bool.false_eq_true, if_false, recvFinish_calls, List.nil_append,
      transferred_singleton]
    rw [SysCall.bytes, count]
    exact readReply_moves (Nat.sub_pos_of_lt unfinished) some_left more'

end Moves

section Progress

variable {token2Dptr : Token → Address} {memory : Memory} {consumed : List Byte}

/-- While something of the stream is left, a call whose reads find something takes some of it. -/
theorem Parsed.moves {s s' : StreamState} {segments : Option Nat × Option Nat}
    (holding : Holding s.sock (NetMsg.framing.parse consumed).2)
    (fits : ∀ msg ∈ NetMsg.framing.headers (consumed ++ s.stream), msg.Fits)
    (finds : Finds segments) (some_left : s.stream ≠ [])
    (stepped : (streamSystem token2Dptr).step s segments = some s') :
    s'.stream.length < s.stream.length := by
  obtain ⟨header, payload⟩ := segments
  obtain ⟨header_finds, payload_finds⟩ := Bool.and_eq_true_iff.mp finds
  obtain ⟨more, rfl⟩ := Option.isSome_iff_exists.mp header_finds
  obtain ⟨more', rfl⟩ := Option.isSome_iff_exists.mp payload_finds
  cases stepped
  have fit (whole : NetMsg.size ≤ (NetMsg.framing.parse consumed).2.length) :
      (NetMsg.decode (NetMsg.framing.parse consumed).2).Fits := by
    refine fits _ ?_
    rw [Framing.headers_append]
    exact List.mem_append_right _
      (Framing.decode_mem_headers (F := NetMsg.framing) whole s.stream)
  have taken := List.length_pos_of_ne_nil
    (recvRaw_moves token2Dptr holding fit some_left more more' s.memory)
  rw [List.length_drop]
  exact Nat.sub_lt (List.length_pos_of_ne_nil some_left) taken

/-- As many calls that find something as there are bytes leave nothing of the stream. -/
theorem Parsed.exhausts {s s' : StreamState} {segments : List (Option Nat × Option Nat)}
    (parsed : Parsed token2Dptr memory consumed s)
    (holding : Holding s.sock (NetMsg.framing.parse consumed).2)
    (fits : ∀ msg ∈ NetMsg.framing.headers (consumed ++ s.stream), msg.Fits)
    (execution : (streamSystem token2Dptr).run s segments = some s')
    (enough : s.stream.length ≤ segments.countP Finds) : s'.stream = [] := by
  induction segments generalizing s consumed with
  | nil =>
      cases execution
      exact List.eq_nil_of_length_eq_zero (Nat.le_zero.mp enough)
  | cons segment segments ih =>
      obtain ⟨middle, stepped, remaining⟩ := run_cons_eq_some.mp execution
      obtain ⟨taken, split, parsed', holding'⟩ := parsed.step holding fits stepped
      have shorter : middle.stream.length ≤ s.stream.length := by
        rw [split, List.length_append]
        exact Nat.le_add_left ..
      refine ih parsed' holding' (by rw [List.append_assoc, ← split]; exact fits) remaining ?_
      rw [List.countP_cons] at enough
      by_cases finds : Finds segment
      · rw [if_pos finds] at enough
        by_cases nothing : s.stream = []
        · rw [nothing, List.length_nil] at shorter
          omega
        · have moved := Parsed.moves holding fits finds nothing stepped
          omega
      · rw [if_neg finds] at enough
        omega

end Progress

/-- For every stream of frames that fit the offsets and every segmentation of it: what has been read
of the stream is a part of it from the start on, of which `RecvRaw` has returned exactly the frames
that the parser takes from it, headers and stored payloads, with one return of zero for each and
otherwise `-EAGAIN`; after a return of zero nothing of the next frame has been read.  Any other
segmentation that has read as much gives the same frames and the same memory.  From every state on,
as many calls that find something as there are bytes left read the whole stream and have returned
all of its frames. -/
theorem stream_parsed (token2Dptr : Token → Address) {sock : NetSocket} {memory : Memory}
    {stream : List Byte} {segments : List (Option Nat × Option Nat)} {s : StreamState}
    (start : sock.inOffset = 0) (fits : ∀ msg ∈ NetMsg.framing.headers stream, msg.Fits)
    (execution : (streamSystem token2Dptr).run (.start sock memory stream) segments = some s) :
    (∃ consumed, stream = consumed ++ s.stream ∧ Parsed token2Dptr memory consumed s ∧
        s.sock.inOffset.toNat = (NetMsg.framing.parse consumed).2.length) ∧
      (∀ segments' s', (streamSystem token2Dptr).run (.start sock memory stream) segments' =
        some s' → s'.stream = s.stream → s'.frames = s.frames ∧ s'.memory = s.memory) ∧
      ∀ further s', (streamSystem token2Dptr).run s further = some s' →
        s.stream.length ≤ further.countP Finds →
          s'.stream = [] ∧ Parsed token2Dptr memory stream s' := by
  have empty : NetMsg.framing.parse [] = ([], []) :=
    Framing.parse_of_not_whole fun whole => absurd whole.1 (by decide)
  have parses {segments' : List (Option Nat × Option Nat)} {s' : StreamState}
      (execution : (streamSystem token2Dptr).run (.start sock memory stream) segments' = some s') :
      ∃ consumed, stream = consumed ++ s'.stream ∧ Parsed token2Dptr memory consumed s' ∧
        Holding s'.sock (NetMsg.framing.parse consumed).2 :=
    (Parsed.start token2Dptr sock memory stream).run (empty ▸ Holding.nil start) fits execution
  obtain ⟨consumed, split, parsed, holding⟩ := parses execution
  refine ⟨⟨consumed, split, parsed, holding.offset⟩, fun segments' s' execution' same => ?_,
    fun further s' execution' enough => ?_⟩
  · obtain ⟨consumed', split', parsed', -⟩ := parses execution'
    have equal : consumed' = consumed := by
      rw [split, same] at split'
      exact (List.append_cancel_right split').symm
    subst equal
    exact ⟨parsed'.frames.trans parsed.frames.symm, parsed'.memory_eq.trans parsed.memory_eq.symm⟩
  · have nothing : s'.stream = [] := parsed.exhausts holding (split ▸ fits) execution' enough
    obtain ⟨rest, split', parsed', -⟩ := parsed.run holding (split ▸ fits) execution'
    rw [nothing, List.append_nil] at split'
    rw [← split', ← split] at parsed'
    exact ⟨nothing, parsed'⟩

/-- A frame with bits in its header that `SendRaw` never sets. -/
def oddFrame : List Byte :=
  ({ NetMsg.new with msgType := 1, reserved := 5, dst := 7, extra := 3 } : NetMsg).encode ++
    [8, 9, 10]

/-- The frame in four segments, with a call between them that finds nothing: three calls leave a
part of it, the last one returns it with its payload.  A byte at a time from the start on, it has
been returned after as many calls as it has bytes. -/
theorem stream_parsed_oddFrame :
    ∃ s, (streamSystem fun _ => 64).run (.start default (fun _ => 0) oddFrame)
        [(some 9, none), (none, none), (some 40, some 0), (none, some 5)] = some s ∧
      s.codes = [-EAGAIN, -EAGAIN, -EAGAIN, 0] ∧
      s.frames =
        [({ NetMsg.new with msgType := 1, reserved := 5, dst := 7, extra := 3 }, [8, 9, 10])] ∧
      s.stream = [] ∧ Parsed (fun _ => 64) (fun _ => 0) oddFrame s ∧
      ∀ s', (streamSystem fun _ => 64).run (.start default (fun _ => 0) oddFrame)
          (List.replicate 35 (some 0, some 0)) = some s' → s'.frames = s.frames := by
  have observed : ((streamSystem fun _ => 64).run (.start default (fun _ => 0) oddFrame)
      [(some 9, none), (none, none), (some 40, some 0), (none, some 5)]).any (fun s => decide
        (s.codes = [-EAGAIN, -EAGAIN, -EAGAIN, 0] ∧ s.frames =
          [({ NetMsg.new with msgType := 1, reserved := 5, dst := 7, extra := 3 }, [8, 9, 10])] ∧
        s.stream = [])) = true := by
    decide +kernel
  obtain ⟨s, execution, reached⟩ := (Option.any_eq_true _ _).mp observed
  obtain ⟨codes, frames, stream⟩ := of_decide_eq_true reached
  have one : NetMsg.framing.parse oddFrame =
      ([(NetMsg.decode oddFrame, oddFrame.drop NetMsg.size)], []) :=
    Framing.parse_frame (F := NetMsg.framing) (by decide +kernel) (by decide +kernel)
  have fits : ∀ msg ∈ NetMsg.framing.headers oddFrame, msg.Fits := by
    have headers : NetMsg.framing.headers oddFrame = [NetMsg.decode oddFrame] := by
      rw [Framing.headers, one]
      rfl
    rw [headers]
    decide +kernel
  obtain ⟨⟨consumed, split, parsed, -⟩, -, -⟩ := stream_parsed (fun _ => 64) rfl fits execution
  rw [stream, List.append_nil] at split
  rw [← split] at parsed
  refine ⟨s, execution, codes, frames, stream, parsed, fun s' execution' => ?_⟩
  have begun : (streamSystem fun _ => 64).run (.start default (fun _ => 0) oddFrame) [] =
      some (.start default (fun _ => 0) oddFrame) := rfl
  obtain ⟨-, -, reads_on⟩ := stream_parsed (fun _ => 64) rfl fits begun
  obtain ⟨-, parsed'⟩ := reads_on _ _ execution' (by decide +kernel)
  exact parsed'.frames.trans parsed.frames.symm

end Klibmsg
