import DbcNode.Coder.Receive
import DbcNode.Lib.Frames

namespace DbcNode

/-- Four big-endian bytes give the length of a frame, which has limits. -/
def matrixFraming : Framing UInt8 where
  header := 4
  size stream := ofBE (stream.take 4)
  legal n := minMatrixMsgCodeLen ≤ n ∧ n ≤ maxMatrixMsgLen
  positive := by decide
  size_append frame rest arrived := by rw [List.take_append_of_le_length arrived]
  header_le n legal := by
    have low : 30 ≤ n := (of_decide_eq_true legal).1
    omega

theorem legal_iff {n : Nat} : matrixFraming.legal n = true ↔ 30 ≤ n ∧ n ≤ 4194304 := decide_eq_true_iff

theorem size_lt (bytes : Bytes) : matrixFraming.size bytes < 2 ^ 32 := by
  have bound := ofBE_lt (bytes.take 4)
  have width : (bytes.take 4).length ≤ 4 := by rw [List.length_take]; omega
  exact bound.trans_le (Nat.pow_le_pow_right (by decide : 0 < 256) width)

namespace NetMessage

/-- The message has taken these bytes off the stream. -/
structure Holds (m : NetMessage) (bytes : Bytes) : Prop where
  appendable : m.msgStream.Appendable
  data : m.msgStream.data = bytes
  pos : m.pos = bytes.length
  known : (bytes.length < 4 ∧ m.inData = false ∧ m.packetLen = 0 ∧ m.theBytes = bytes) ∨
    (4 ≤ bytes.length ∧ m.inData = true ∧ m.packetLen = BitVec.ofNat 32 (matrixFraming.size bytes))

theorem fresh_holds : fresh.Holds [] := ⟨ByteBuf.fresh_appendable, rfl, rfl, Or.inl ⟨by decide, rfl, rfl, rfl⟩⟩

/-- A length word from `2 ^ 31` on is negative for the code, and out of
range too. -/
theorem toInt_size (bytes : Bytes) : (BitVec.ofNat 32 (matrixFraming.size bytes)).toInt =
    if matrixFraming.size bytes < 2 ^ 31 then (matrixFraming.size bytes : Int)
    else matrixFraming.size bytes - 2 ^ 32 := by
  have bound := size_lt bytes
  rw [BitVec.toInt_eq_toNat_cond, BitVec.toNat_ofNat, Nat.mod_eq_of_lt bound]
  split <;> split <;> omega

theorem Holds.outOfRange {m : NetMessage} {bytes : Bytes} (holds : m.Holds bytes) :
    m.outOfRange = true ↔ matrixFraming.Rejected bytes := by
  rcases holds.known with ⟨short, unread, _, _⟩ | ⟨arrived, read, length⟩
  · have here : ¬ 4 ≤ bytes.length := by omega
    simp [NetMessage.outOfRange, Framing.Rejected, unread, matrixFraming, here]
  · have bound := size_lt bytes
    have value := toInt_size bytes
    have range : m.outOfRange = true ↔ ¬ (30 ≤ matrixFraming.size bytes ∧ matrixFraming.size bytes ≤ 4194304) := by
      rw [NetMessage.outOfRange, decide_eq_true_iff, read, length, value]
      simp only [maxMatrixMsgLen, minMatrixMsgCodeLen, true_and]
      split <;> omega
    rw [range, ← legal_iff, Bool.not_eq_true]
    exact ⟨fun illegal => ⟨arrived, illegal⟩, fun rejected => rejected.2⟩

theorem Holds.complete_iff {m : NetMessage} {bytes : Bytes} (holds : m.Holds bytes) (some : bytes ≠ [])
    (fine : ¬ matrixFraming.Rejected bytes) : m.complete = true ↔ matrixFraming.Whole bytes := by
  have positive := List.length_pos_of_ne_nil some
  rw [NetMessage.complete, decide_eq_true_iff, holds.pos]
  rcases holds.known with ⟨short, _, length, _⟩ | ⟨arrived, _, length⟩
  · rw [length]
    have zero : (0 : BitVec 32).toInt = 0 := rfl
    constructor
    · intro equal
      rw [zero] at equal
      omega
    · intro whole
      have header := matrixFraming.header_le _ whole.legal
      have size : 4 ≤ matrixFraming.size bytes := header
      rw [← whole.length] at size
      omega
  · have legal : matrixFraming.legal (matrixFraming.size bytes) = true := by
      by_contra illegal
      exact fine ⟨arrived, Bool.not_eq_true _ ▸ illegal⟩
    have range := legal_iff.mp legal
    rw [length, toInt_size, if_pos (by omega)]
    constructor
    · intro equal
      exact ⟨legal, by omega⟩
    · intro whole
      rw [← whole.length]

theorem Holds.store {m : NetMessage} {bytes more : Bytes} (holds : m.Holds bytes) (some : more ≠ [])
    (room : bytes.length + more.length < ByteBuf.capacity) (input : ByteBuf) :
    ∃ stream, m.store more input = (.ok stream, input) ∧ stream.Appendable ∧ stream.data = bytes ++ more := by
  rcases holds.appendable.write some with ⟨stream, ran, still, appended⟩ | ⟨_, full⟩
  · exact ⟨stream, by rw [NetMessage.store, ran], still, by rw [appended, holds.data]⟩
  · rw [holds.data] at full
    omega

/-- The length of a frame arrives, or a part of it. -/
theorem Holds.readPacketLen {m : NetMessage} {part : Bytes} (holds : m.Holds part) (short : part.length < 4)
    {input : ByteBuf} (some : input.data ≠ []) :
    ∃ m' input', m.readPacketLen input = (.ok m', input') ∧
      input'.data = input.data.drop (min (4 - part.length) input.data.length) ∧
      m'.Holds (part ++ input.data.take (min (4 - part.length) input.data.length)) := by
  have positive := List.length_pos_of_ne_nil some
  obtain ⟨_, unread, length, sofar⟩ | ⟨arrived, _, _⟩ := holds.known
  · obtain ⟨n, count⟩ : ∃ n, n = min (4 - part.length) input.data.length := ⟨_, rfl⟩
    have taken : (input.data.take n).length = n := by rw [List.length_take]; omega
    have nonempty : input.data.take n ≠ [] := List.ne_nil_of_length_pos (by omega)
    have room : part.length + (input.data.take n).length < ByteBuf.capacity := by
      unfold ByteBuf.capacity
      omega
    obtain ⟨stream, stored, still, data⟩ := holds.store nonempty room input
    have read := ByteBuf.readFromByteBuf_run (b := input) (n := n) (by omega)
    have total : (part ++ input.data.take n).length = part.length + n := by rw [List.length_append, taken]
    rw [← count]
    have run : m.readPacketLen input = (if part.length + n < 4 then
        (.ok { m with theBytes := part ++ input.data.take n, pos := part.length + n, msgStream := stream },
          input.advance n)
      else (.ok {
          packetLen := BitVec.ofNat 32 (ofBE (part ++ input.data.take n)), theBytes := part ++ input.data.take n,
          pos := part.length + n, msgStream := stream, inData := true }, input.advance n)) := by
      rw [NetMessage.readPacketLen, Prog.bind_ok (Prog.fetch_run _ _), ByteBuf.validReadLen, holds.pos, ← count,
        Prog.bind_ok (Prog.fetch_run _ _), Prog.bind_ok stored, Prog.bind_ok read, sofar]
      split <;> rfl
    by_cases more : part.length + n < 4
    · rw [if_pos more] at run
      exact ⟨_, _, run, rfl, still, data, total.symm, Or.inl ⟨by omega, unread, length, rfl⟩⟩
    · rw [if_neg more] at run
      refine ⟨_, _, run, rfl, still, data, total.symm, Or.inr ⟨by omega, rfl, ?_⟩⟩
      have whole : (part ++ input.data.take n).take 4 = part ++ input.data.take n :=
        List.take_of_length_le (by omega)
      change _ = BitVec.ofNat 32 (ofBE ((part ++ input.data.take n).take 4))
      rw [whole]
  · omega

/-- The rest of a frame arrives, or a part of it. -/
theorem Holds.readPacketBody {m : NetMessage} {part : Bytes} (holds : m.Holds part) (arrived : 4 ≤ part.length)
    (legal : matrixFraming.legal (matrixFraming.size part) = true) (open_ : part.length < matrixFraming.size part)
    {input : ByteBuf} (some : input.data ≠ []) :
    ∃ m' input', m.readPacketBody input = (.ok m', input') ∧
      input'.data = input.data.drop (min (matrixFraming.size part - part.length) input.data.length) ∧
      m'.Holds (part ++ input.data.take (min (matrixFraming.size part - part.length) input.data.length)) := by
  have positive := List.length_pos_of_ne_nil some
  have range := legal_iff.mp legal
  obtain ⟨_, _, _, _⟩ | ⟨_, read, length⟩ := holds.known
  · omega
  · obtain ⟨n, count⟩ : ∃ n, n = min (matrixFraming.size part - part.length) input.data.length := ⟨_, rfl⟩
    have taken : (input.data.take n).length = n := by rw [List.length_take]; omega
    have nonempty : input.data.take n ≠ [] := List.ne_nil_of_length_pos (by omega)
    have room : part.length + (input.data.take n).length < ByteBuf.capacity := by
      unfold ByteBuf.capacity
      omega
    obtain ⟨stream, stored, still, data⟩ := holds.store nonempty room input
    obtain ⟨moved, move, rest⟩ := ByteBuf.moveReadPtr_run (show n ≤ input.data.length by omega)
    have left : m.packetLen.toInt - m.pos = (matrixFraming.size part - part.length : Nat) := by
      rw [length, toInt_size, if_pos (by omega), holds.pos]
      omega
    have total : (part ++ input.data.take n).length = part.length + n := by rw [List.length_append, taken]
    rw [← count]
    refine ⟨{ m with pos := part.length + n, msgStream := stream }, moved, ?_, rest, still, data, total.symm,
      Or.inr ⟨by omega, read, ?_⟩⟩
    · rw [NetMessage.readPacketBody, left, if_neg (by omega), Int.toNat_natCast, Prog.bind_ok (Prog.fetch_run _ _),
        ByteBuf.validReadLen, ← count, Prog.bind_ok (Prog.fetch_run _ _), Prog.bind_ok stored, Prog.bind_ok move,
        holds.pos]
      rfl
    · rw [matrixFraming.size_append part _ arrived]
      exact length

/-- Some bytes go over from the input to the frame, and never past its
end. -/
theorem Holds.read {m : NetMessage} {part : Bytes} (holds : m.Holds part) (waits : matrixFraming.Waits part)
    {input : ByteBuf} (some : input.data ≠ []) :
    ∃ n m' input', (0 < n ∧ n ≤ input.data.length) ∧
      (if m.inData then m.readPacketBody else m.readPacketLen) input = (.ok m', input') ∧
      input'.data = input.data.drop n ∧ m'.Holds (part ++ input.data.take n) ∧
      (matrixFraming.Waits (part ++ input.data.take n) ∨ matrixFraming.Whole (part ++ input.data.take n) ∨
        matrixFraming.Rejected (part ++ input.data.take n)) := by
  have positive := List.length_pos_of_ne_nil some
  have header : matrixFraming.header = 4 := rfl
  rcases holds.known with ⟨short, unread, _, _⟩ | ⟨arrived, read, _⟩
  · obtain ⟨m', input', ran, rest, held⟩ := holds.readPacketLen short some
    refine ⟨_, m', input', ⟨by omega, by omega⟩, by rw [unread]; exact ran, rest, held, ?_⟩
    have length : (part ++ input.data.take (min (4 - part.length) input.data.length)).length ≤ 4 := by
      rw [List.length_append, List.length_take]
      omega
    by_cases here : (part ++ input.data.take (min (4 - part.length) input.data.length)).length < 4
    · exact Or.inl (Or.inl here)
    · by_cases legal : matrixFraming.legal (matrixFraming.size
          (part ++ input.data.take (min (4 - part.length) input.data.length))) = true
      · have range := legal_iff.mp legal
        exact Or.inl (Or.inr ⟨legal, by omega⟩)
      · exact Or.inr (Or.inr ⟨by omega, Bool.not_eq_true _ ▸ legal⟩)
  · have inside : matrixFraming.legal (matrixFraming.size part) = true ∧ part.length < matrixFraming.size part := by
      rcases waits with short | inside
      · omega
      · exact inside
    obtain ⟨m', input', ran, rest, held⟩ := holds.readPacketBody arrived inside.1 inside.2 some
    refine ⟨_, m', input', ⟨by omega, by omega⟩, by rw [read]; exact ran, rest, held, ?_⟩
    have size := matrixFraming.size_append part
      (input.data.take (min (matrixFraming.size part - part.length) input.data.length)) arrived
    have length : (part ++ input.data.take (min (matrixFraming.size part - part.length) input.data.length)).length ≤
        matrixFraming.size part := by
      rw [List.length_append, List.length_take]
      omega
    by_cases full :
      (part ++ input.data.take (min (matrixFraming.size part - part.length) input.data.length)).length =
        matrixFraming.size part
    · exact Or.inr (Or.inl ⟨by rw [size]; exact inside.1, by rw [size]; exact full⟩)
    · exact Or.inl (Or.inr ⟨by rw [size]; exact inside.1, by rw [size]; omega⟩)

end NetMessage

/-- The frames in the decoder: whole ones, and the bytes of one that is not,
if there are any. -/
structure Built (recvMessages : List NetMessage) (frames : List Bytes) (part : Bytes) : Prop where
  queue : ∃ done last, recvMessages = done ++ last ∧ List.Forall₂ NetMessage.Holds done frames ∧
    (part = [] ∧ last = [] ∨ part ≠ [] ∧ ∃ m, last = [m] ∧ m.Holds part)
  whole : ∀ frame ∈ frames, matrixFraming.Whole frame
  waits : matrixFraming.Waits part

theorem exists_of_mem_left {α β : Type} {R : α → β → Prop} {xs : List α} {ys : List β} {x : α}
    (related : List.Forall₂ R xs ys) (member : x ∈ xs) : ∃ y ∈ ys, R x y := by
  induction related with
  | nil => cases member
  | @cons a b _ _ head _ ih =>
    rcases List.mem_cons.mp member with rfl | later
    · exact ⟨b, List.mem_cons_self, head⟩
    · obtain ⟨y, inside, holds⟩ := ih later
      exact ⟨y, List.mem_cons_of_mem _ inside, holds⟩

namespace Built

theorem start : Built [] [] [] :=
  ⟨⟨[], [], rfl, List.Forall₂.nil, Or.inl ⟨rfl, rfl⟩⟩, fun _ member => (List.not_mem_nil member).elim,
    Framing.waits_nil⟩

/-- A frame in the decoder is complete for the code when it is whole. -/
theorem complete_of_whole {m : NetMessage} {frame : Bytes} (holds : m.Holds frame)
    (whole : matrixFraming.Whole frame) : m.complete = true := by
  have some : frame ≠ [] := List.ne_nil_of_length_pos whole.positive
  refine (holds.complete_iff some ?_).mpr whole
  rintro ⟨_, illegal⟩
  rw [whole.legal] at illegal
  cases illegal

theorem not_complete {m : NetMessage} {part : Bytes} (holds : m.Holds part) (some : part ≠ [])
    (waits : matrixFraming.Waits part) : m.complete = false := by
  by_contra complete
  rw [Bool.not_eq_false] at complete
  have whole := (holds.complete_iff some waits.not_rejected).mp complete
  rcases waits with short | ⟨_, short⟩
  · have size := matrixFraming.header_le _ whole.legal
    rw [← whole.length] at size
    omega
  · have exact_ := whole.length
    omega

theorem openFrame {recvMessages : List NetMessage} {frames : List Bytes} {part : Bytes}
    (built : Built recvMessages frames part) :
    ∃ done m, DbcNode.openFrame recvMessages = (done, m) ∧ List.Forall₂ NetMessage.Holds done frames ∧
      m.Holds part := by
  obtain ⟨done, last, rfl, held, ⟨rfl, rfl⟩ | ⟨some, m, rfl, holds⟩⟩ := built.queue
  · refine ⟨done, NetMessage.fresh, ?_, held, NetMessage.fresh_holds⟩
    rw [List.append_nil, DbcNode.openFrame]
    cases tail : done.getLast? with
    | none => rw [List.getLast?_eq_none_iff.mp tail]
    | some m =>
      have complete : m.complete = true := by
        have member := List.mem_of_getLast? tail
        obtain ⟨frame, inFrames, holds⟩ := exists_of_mem_left held member
        exact complete_of_whole holds (built.whole frame inFrames)
      simp only [complete, if_true]
  · refine ⟨done, m, ?_, held, holds⟩
    simp only [DbcNode.openFrame, List.getLast?_concat, not_complete holds some built.waits, List.dropLast_concat]
    rfl

end Built

/-- The decoder after a rejected length: the frames before it are whole, and
`bad` is where the stream stopped being read. -/
structure Refused (recvMessages : List NetMessage) (frames : List Bytes) (bad : Bytes) : Prop where
  queue : ∃ done m, recvMessages = done ++ [m] ∧ List.Forall₂ NetMessage.Holds done frames ∧ m.Holds bad
  whole : ∀ frame ∈ frames, matrixFraming.Whole frame
  rejected : matrixFraming.Rejected bad

/-- One round of the loop moves some bytes from the input to the frames, in
order. -/
theorem Built.round {box : Inbox} {frames : List Bytes} {part : Bytes}
    (built : Built box.recvMessages frames part) (some : box.input.data ≠ []) :
    ∃ n box', (0 < n ∧ n ≤ box.input.data.length) ∧ box'.input.data = box.input.data.drop n ∧
      ((recvRound box = (.ok (.inl ()), box') ∧ ∃ frames' part', Built box'.recvMessages frames' part' ∧
          frames'.flatten ++ part' = frames.flatten ++ part ++ box.input.data.take n) ∨
        (recvRound box = (.ok (.inr .error), box') ∧
          Refused box'.recvMessages frames (part ++ box.input.data.take n))) := by
  obtain ⟨done, m, opened, held, holds⟩ := built.openFrame
  obtain ⟨n, m', input', count, ran, rest, holds', kind⟩ := holds.read built.waits some
  have positive := List.length_pos_of_ne_nil some
  have busy : box.input.validReadLen ≠ 0 := by
    rw [ByteBuf.validReadLen]
    omega
  have longer : part ++ box.input.data.take n ≠ [] := by
    refine List.ne_nil_of_length_pos ?_
    rw [List.length_append, List.length_take]
    omega
  have run : recvRound box = (if m'.outOfRange then (.ok (.inr .error), ⟨input', done ++ [m']⟩)
      else (.ok (.inl ()), ⟨input', done ++ [m']⟩)) := by
    rw [recvRound, if_neg busy, opened]
    simp only [ran]
  refine ⟨n, ⟨input', done ++ [m']⟩, count, rest, ?_⟩
  by_cases range : m'.outOfRange = true
  · rw [if_pos range] at run
    exact Or.inr ⟨run, ⟨done, m', rfl, held, holds'⟩, built.whole, holds'.outOfRange.mp range⟩
  · rw [if_neg range] at run
    refine Or.inl ⟨run, ?_⟩
    rcases kind with waits | whole | rejected
    · refine ⟨frames, _, ⟨⟨done, [m'], rfl, held, Or.inr ⟨longer, m', rfl, holds'⟩⟩, built.whole, waits⟩, ?_⟩
      rw [List.append_assoc]
    · refine ⟨frames ++ [part ++ box.input.data.take n], [], ⟨⟨done ++ [m'], [], by rw [List.append_nil],
        List.rel_append held (List.Forall₂.cons holds' List.Forall₂.nil), Or.inl ⟨rfl, rfl⟩⟩, ?_,
          Framing.waits_nil⟩, ?_⟩
      · intro frame member
        rcases List.mem_append.mp member with old | new
        · exact built.whole frame old
        · rw [List.mem_singleton.mp new]
          exact whole
      · simp [List.flatten_append]
    · exact (range (holds'.outOfRange.mpr rejected)).elim

/-- A call of `recv_message`: all the input goes into the frames, or a
length was rejected and the rest of the input stays. -/
theorem Built.recvMessage {box : Inbox} {frames : List Bytes} {part : Bytes}
    (built : Built box.recvMessages frames part) :
    ∃ box', (recvMessage box = (.ok .success, box') ∧ box'.input.data = [] ∧ ∃ frames' part',
        Built box'.recvMessages frames' part' ∧
        frames'.flatten ++ part' = frames.flatten ++ part ++ box.input.data) ∨
      (recvMessage box = (.ok .error, box') ∧ ∃ frames' bad, Refused box'.recvMessages frames' bad ∧
        frames'.flatten ++ bad ++ box'.input.data = frames.flatten ++ part ++ box.input.data) := by
  have loop : ∀ rounds (box : Inbox) frames part, Built box.recvMessages frames part →
      box.input.data.length < rounds →
      ∃ box', (Prog.loop rounds (fun _ => recvRound) () box = (.ok .success, box') ∧ box'.input.data = [] ∧
          ∃ frames' part', Built box'.recvMessages frames' part' ∧
            frames'.flatten ++ part' = frames.flatten ++ part ++ box.input.data) ∨
        (Prog.loop rounds (fun _ => recvRound) () box = (.ok .error, box') ∧ ∃ frames' bad,
          Refused box'.recvMessages frames' bad ∧
          frames'.flatten ++ bad ++ box'.input.data = frames.flatten ++ part ++ box.input.data) := by
    intro rounds
    induction rounds with
    | zero => intro _ _ _ _ enough; omega
    | succ rounds ih =>
      intro box frames part built enough
      by_cases empty : box.input.data = []
      · refine ⟨box, Or.inl ⟨?_, empty, frames, part, built, by rw [empty, List.append_nil]⟩⟩
        have run : recvRound box = (.ok (.inr .success), box) := by
          rw [recvRound, if_pos (by rw [ByteBuf.validReadLen, empty]; rfl)]
        rw [Prog.loop, Prog.bind_ok run]
        rfl
      · obtain ⟨n, box', count, rest, ⟨run, frames', part', built', moved⟩ | ⟨run, refused⟩⟩ := built.round empty
        · have shorter : box'.input.data.length < rounds := by
            rw [rest, List.length_drop]
            omega
          obtain ⟨box'', after⟩ := ih box' frames' part' built' shorter
          have whole : frames'.flatten ++ part' ++ box'.input.data = frames.flatten ++ part ++ box.input.data := by
            rw [moved, rest, List.append_assoc, List.take_append_drop]
          rw [whole] at after
          refine ⟨box'', ?_⟩
          rw [Prog.loop, Prog.bind_ok run]
          exact after
        · refine ⟨box', Or.inr ⟨?_, frames, _, refused, ?_⟩⟩
          · rw [Prog.loop, Prog.bind_ok run]
            rfl
          · rw [rest]
            simp only [List.append_assoc, List.take_append_drop]
  have run : DbcNode.recvMessage box =
      Prog.loop (box.input.data.length + 1) (fun _ => recvRound) () box := Prog.bind_ok (Prog.fetch_run _ _)
  rw [run]
  exact loop _ box frames part built (Nat.lt_succ_self _)

end DbcNode
