import DbcNode.Coder.Chunking

namespace DbcNode

/-- A decoder on a connection. `stream` is what has arrived, `popped` the
frames that `decode` has taken off the front, and `failed` says that a call
of `recv_message` has returned an error, after which the channel reads no
more. -/
inductive Receives (snappy : Snappy) : Bytes → List Bytes → Receiver → Bool → Prop
  | start (protos : Protos) : Receives snappy [] [] ⟨protos, []⟩ false
  | chunk {stream : Bytes} {popped : List Bytes} {r : Receiver} {status : DecodeStatus} {box : Inbox}
    (input : ByteBuf)
      (before : Receives snappy stream popped r false) (some : input.data ≠ [])
      (call : recvMessage ⟨input, r.recvMessages⟩ = (.ok status, box)) :
      Receives snappy (stream ++ input.data) popped { r with recvMessages := box.recvMessages } (status = .error)
  | decode {stream : Bytes} {popped : List Bytes} {r r' : Receiver} {ctx : Ctx} {front : NetMessage}
      {rest : List NetMessage} {result : DecodeStatus × Option Message}
      (before : Receives snappy stream popped r false) (queue : r.recvMessages = front :: rest)
      (complete : front.complete = true) (call : decode snappy ctx r = (.ok result, r')) :
      Receives snappy stream (popped ++ [front.msgStream.data]) r' false

/-- A whole frame passes the checks before its decoding. -/
theorem decode_front {snappy : Snappy} {ctx : Ctx} {r : Receiver} {front : NetMessage} {rest : List NetMessage}
    {frame : Bytes} (queue : r.recvMessages = front :: rest) (holds : front.Holds frame)
    (whole : matrixFraming.Whole frame) :
    decode snappy ctx r = match Coder.decodeFrame snappy ctx ⟨r.protos, front.msgStream⟩ with
      | (.ok result, desk) => (.ok result, ⟨desk.protos, rest⟩)
      | (.error e, desk) => (.error e, ⟨desk.protos, { front with msgStream := desk.buf } :: rest⟩) := by
  have complete := Built.complete_of_whole holds whole
  have range := legal_iff.mp whole.legal
  have size : ofBE (front.msgStream.data.take 4) = frame.length := by
    rw [holds.data, whole.length]
    rfl
  have length : front.msgStream.validReadLen = frame.length := by rw [ByteBuf.validReadLen, holds.data]
  rw [← whole.length] at range
  rw [decode, queue]
  simp only [complete, size, length, matrixMsgMinReadLength, maxMatrixMsgLen, minMatrixMsgCodeLen]
  refine (if_neg (by decide)).trans ?_
  refine (if_neg (by omega)).trans ?_
  refine (if_neg (by omega)).trans ?_
  refine (if_neg (by omega)).trans ?_
  exact (if_neg (by omega)).trans rfl

/-- Decoding a frame that is there takes it off the queue, and no other. -/
theorem Built.decode {snappy : Snappy} {ctx : Ctx} {r r' : Receiver} {front : NetMessage} {rest : List NetMessage}
    {frames : List Bytes} {part : Bytes} {result : DecodeStatus × Option Message}
    (built : Built r.recvMessages frames part) (queue : r.recvMessages = front :: rest)
    (complete : front.complete = true) (call : DbcNode.decode snappy ctx r = (.ok result, r')) :
    ∃ frames', frames = front.msgStream.data :: frames' ∧ Built r'.recvMessages frames' part := by
  obtain ⟨done, last, parts, held, tail⟩ := built.queue
  cases held with
  | nil =>
    rcases tail with ⟨_, rfl⟩ | ⟨some, m, rfl, holds⟩
    · rw [queue] at parts
      cases parts
    · rw [queue] at parts
      cases parts
      rw [Built.not_complete holds some built.waits] at complete
      cases complete
  | @cons first frame done' frames' holds held' =>
    rw [queue] at parts
    cases parts
    have whole := built.whole frame List.mem_cons_self
    rw [decode_front queue holds whole] at call
    refine ⟨frames', by rw [holds.data], ?_⟩
    have popped : r'.recvMessages = done' ++ last := by
      split at call
      · cases call
        rfl
      · cases call
    rw [popped]
    exact ⟨⟨done', last, rfl, held', tail⟩, fun other member => built.whole other (List.mem_cons_of_mem _ member),
      built.waits⟩

/-- What the decoder holds after any run: it has read the whole stream, or
stopped at a frame with a length that is not allowed. -/
theorem Receives.shape {snappy : Snappy} {stream : Bytes} {popped : List Bytes} {r : Receiver} {failed : Bool}
    (run : Receives snappy stream popped r failed) :
    (∀ frame ∈ popped, matrixFraming.Whole frame) ∧
      ((failed = false ∧ ∃ frames part, Built r.recvMessages frames part ∧
          (popped ++ frames).flatten ++ part = stream) ∨
        (failed = true ∧ ∃ frames bad unread, Refused r.recvMessages frames bad ∧
          (popped ++ frames).flatten ++ (bad ++ unread) = stream)) := by
  induction run with
  | start protos =>
    exact ⟨fun _ member => (List.not_mem_nil member).elim, Or.inl ⟨rfl, [], [], Built.start, rfl⟩⟩
  | @chunk stream popped r status box input before some call ih =>
    obtain ⟨whole, ⟨_, frames, part, built, sofar⟩ | ⟨failed, _⟩⟩ := ih
    · refine ⟨whole, ?_⟩
      obtain ⟨box', ⟨ran, _, frames', part', built', moved⟩ | ⟨ran, frames', bad, refused, moved⟩⟩ :=
        Built.recvMessage (show Built (Inbox.mk input r.recvMessages).recvMessages frames part from built)
      · rw [ran] at call
        cases call
        refine Or.inl ⟨rfl, frames', part', built', ?_⟩
        rw [← sofar]
        simp only [List.flatten_append, List.append_assoc] at moved ⊢
        rw [moved]
      · rw [ran] at call
        cases call
        refine Or.inr ⟨rfl, frames', bad, box.input.data, refused, ?_⟩
        rw [← sofar]
        simp only [List.flatten_append, List.append_assoc] at moved ⊢
        rw [moved]
    · cases failed
  | @decode stream popped r r' ctx front rest result before queue complete call ih =>
    obtain ⟨whole, ⟨_, frames, part, built, sofar⟩ | ⟨failed, _⟩⟩ := ih
    · obtain ⟨frames', rfl, built'⟩ := built.decode queue complete call
      refine ⟨?_, Or.inl ⟨rfl, frames', part, built', ?_⟩⟩
      · intro frame member
        rcases List.mem_append.mp member with old | new
        · exact whole frame old
        · rw [List.mem_singleton.mp new]
          exact built.whole _ List.mem_cons_self
      · rw [← sofar]
        simp
    · cases failed

theorem Holds.map_data {queue : List NetMessage} {frames : List Bytes}
    (held : List.Forall₂ NetMessage.Holds queue frames) : queue.map (·.msgStream.data) = frames := by
  induction held with
  | nil => rfl
  | cons holds _ ih => rw [List.map_cons, holds.data, ih]

theorem Built.all_complete {queue : List NetMessage} {frames : List Bytes}
    (held : List.Forall₂ NetMessage.Holds queue frames) (whole : ∀ frame ∈ frames, matrixFraming.Whole frame) :
    ∀ m ∈ queue, m.complete = true := by
  intro m member
  obtain ⟨frame, inside, holds⟩ := exists_of_mem_left held member
  exact Built.complete_of_whole holds (whole frame inside)

/-- The complete frames of the decoder are the whole frames, and only the
last frame may be incomplete. -/
theorem Built.delivered {queue : List NetMessage} {frames : List Bytes} {part : Bytes}
    (built : Built queue frames part) :
    (queue.filter (·.complete)).map (·.msgStream.data) = frames ∧ ∀ m ∈ queue.dropLast, m.complete = true := by
  obtain ⟨done, last, rfl, held, tail⟩ := built.queue
  have all := Built.all_complete held built.whole
  have kept : done.filter (·.complete) = done := List.filter_eq_self.mpr all
  rcases tail with ⟨_, rfl⟩ | ⟨some, m, rfl, holds⟩
  · rw [List.append_nil, kept]
    exact ⟨Holds.map_data held, fun m member => all m (List.mem_of_mem_dropLast member)⟩
  · have open_ := Built.not_complete holds some built.waits
    rw [List.filter_append, kept, List.dropLast_concat]
    refine ⟨?_, all⟩
    rw [List.filter_cons_of_neg (by rw [open_]; decide), List.filter_nil, List.append_nil]
    exact Holds.map_data held

/-- However the stream was divided into chunks and whenever frames were
decoded, the decoder builds the frames that the length prefixes cut the
stream into. It reads every chunk to its end, and it fails exactly at a
length out of range. -/
theorem recvMessage_cuts_stream {snappy : Snappy} {stream : Bytes} {popped : List Bytes} {r : Receiver}
    {failed : Bool} (run : Receives snappy stream popped r failed) :
    (failed = false →
      popped ++ (r.recvMessages.filter (·.complete)).map (·.msgStream.data) = (matrixFraming.cut stream).1) ∧
    (failed = true →
      ∀ later, popped ++ r.recvMessages.dropLast.map (·.msgStream.data) = (matrixFraming.cut (stream ++ later)).1) ∧
    (∀ m ∈ r.recvMessages.dropLast, m.complete = true) ∧
    (failed = true ↔ matrixFraming.Rejected (matrixFraming.cut stream).2) ∧
    (failed = false → ∀ input : ByteBuf, ∃ status box, recvMessage ⟨input, r.recvMessages⟩ = (.ok status, box) ∧
      (status = .success ∧ box.input.data = [] ∨ status = .error)) := by
  obtain ⟨whole, ⟨rfl, frames, part, built, rfl⟩ | ⟨rfl, frames, bad, unread, refused, rfl⟩⟩ := run.shape
  · have all : ∀ frame ∈ popped ++ frames, matrixFraming.Whole frame := by
      intro frame member
      rcases List.mem_append.mp member with old | new
      · exact whole frame old
      · exact built.whole frame new
    rw [Framing.cut_flatten all (Or.inl built.waits)]
    obtain ⟨data, complete⟩ := built.delivered
    refine ⟨fun _ => by rw [data], fun failed => (Bool.false_ne_true failed).elim, complete, ?_, ?_⟩
    · exact ⟨fun failed => (Bool.false_ne_true failed).elim,
        fun rejected => (built.waits.not_rejected rejected).elim⟩
    · intro _ input
      obtain ⟨box, ⟨ran, empty, _⟩ | ⟨ran, _⟩⟩ :=
        Built.recvMessage (show Built (Inbox.mk input r.recvMessages).recvMessages frames part from built)
      · exact ⟨_, box, ran, Or.inl ⟨rfl, empty⟩⟩
      · exact ⟨_, box, ran, Or.inr rfl⟩
  · have all : ∀ frame ∈ popped ++ frames, matrixFraming.Whole frame := by
      intro frame member
      rcases List.mem_append.mp member with old | new
      · exact whole frame old
      · exact refused.whole frame new
    have cut := fun later => Framing.cut_flatten all (Or.inr (refused.rejected.append later))
    obtain ⟨done, m, queue, held, _⟩ := refused.queue
    have last : r.recvMessages.dropLast = done := by rw [queue, List.dropLast_concat]
    rw [last]
    refine ⟨fun ok => (Bool.false_ne_true ok.symm).elim, fun _ later => ?_,
      Built.all_complete held refused.whole, ?_,
      fun ok => (Bool.false_ne_true ok.symm).elim⟩
    · rw [List.append_assoc, List.append_assoc, cut, Holds.map_data held]
    · rw [cut]
      exact ⟨fun _ => refused.rejected.append unread, fun _ => rfl⟩

/-- Two chunks divide the length of a frame that is too short. -/
theorem recvMessage_cuts_length_in_two :
    ∃ r, Receives ⟨id, some⟩ [0, 0, 0, 29, 7] [] r true ∧
      r.recvMessages.dropLast.map (·.msgStream.data) = (matrixFraming.cut [0, 0, 0, 29, 7, 8]).1 := by
  have start : Receives ⟨id, some⟩ [] [] ⟨Protos.fresh, []⟩ false := Receives.start Protos.fresh
  have first := Receives.chunk ⟨64, false, 0, [0, 0], by decide, by decide⟩ start (by decide) rfl
  have second := Receives.chunk ⟨64, false, 0, [0, 29, 7], by decide, by decide⟩ first (by decide) rfl
  exact ⟨_, second, (recvMessage_cuts_stream second).2.1 rfl [8]⟩

end DbcNode
