import DbcNode.Channel.Handler
import DbcNode.Coder.ChunkingRuns
import DbcNode.Coder.Robust

namespace DbcNode

/-- A buffer with these unread bytes, which no frame is longer than. -/
def ByteBuf.holding (bytes : Bytes) : ByteBuf where
  len := 2 ^ 31 - 1
  autoAlloc := false
  readPos := 0
  data := bytes.take (2 ^ 31 - 1)
  fits := by rw [List.length_take]; omega
  bounded := by decide

/-- What a frame decodes to at this node. -/
def decoded (conf : NodeConf) (frame : Bytes) : Except (Stop Exn) (DecodeStatus × Option Message) :=
  (Coder.decodeFrame conf.snappy ⟨false, 0, conf.nodeId⟩ ⟨Protos.fresh, ByteBuf.holding frame⟩).1

theorem decodeFrame_ends {snappy : Snappy} {ctx : Ctx} {protos : Protos} {frame : ByteBuf}
    (settled : protos.Settled) (long : 30 ≤ frame.data.length)
    (prefixed : ofBE (frame.data.take 4) = frame.data.length) :
    (Coder.decodeFrame snappy ctx ⟨protos, frame⟩).1 ≠ .error .diverged := by
  rw [Coder.decodeFrame, catching]
  rcases inflate_cases (d := ⟨protos, frame⟩) long prefixed with
    ⟨packet, inflated, deep, _, _⟩ | ⟨inflated, _⟩ | ⟨inflated, _⟩
  · rw [Prog.bind_ok inflated, if_pos rfl]
    rcases ran : Coder.decodePacket ctx ⟨protos, packet⟩ with ⟨e | result, d'⟩
    · by_cases hollow : Coder.HollowPacket ctx packet
      · have asserted := Coder.decodePacket_asserted (d := ⟨protos, packet⟩) settled deep hollow
        rw [ran] at asserted
        cases asserted
        simp
      · have caught := Coder.decodePacket_caught (d := ⟨protos, packet⟩) settled deep hollow
        rw [ran] at caught
        obtain ⟨x, rfl⟩ := caught
        simp
    · simp
  · rw [Prog.bind_ok inflated]
    intro wrong
    cases wrong
  · rw [Prog.bind_error inflated]
    simp

theorem ByteBuf.holding_data {frame : Bytes} (whole : matrixFraming.Whole frame) :
    (ByteBuf.holding frame).data = frame := by
  have range := legal_iff.mp whole.legal
  have length := whole.length
  exact List.take_of_length_le (by omega)

theorem decoded_ends (conf : NodeConf) {frame : Bytes} (whole : matrixFraming.Whole frame) :
    decoded conf frame ≠ .error .diverged := by
  have data := ByteBuf.holding_data whole
  have range := legal_iff.mp whole.legal
  have length := whole.length
  refine decodeFrame_ends Protos.fresh_settled ?_ ?_
  · rw [data]
    omega
  · rw [data]
    exact length.symm

/-- The decoder takes a whole frame off its queue, and what comes of it is
what the bytes of the frame say. -/
theorem decode_decoded (conf : NodeConf) {r : Receiver} {front : NetMessage} {rest : List NetMessage}
    {frame : Bytes} (queue : r.recvMessages = front :: rest) (holds : front.Holds frame)
    (whole : matrixFraming.Whole frame) (settled : r.protos.Settled) :
    ∃ r', decode conf.snappy ⟨false, 0, conf.nodeId⟩ r = (decoded conf frame, r') ∧
      (∀ result, decoded conf frame = .ok result → r'.recvMessages = rest ∧ r'.protos.Settled) := by
  have twin : front.msgStream.Twin (ByteBuf.holding frame) := by
    rw [ByteBuf.Twin, holds.data, ByteBuf.holding_data whole]
  have same : (Coder.decodeFrame conf.snappy ⟨false, 0, conf.nodeId⟩ ⟨r.protos, front.msgStream⟩).1 =
    decoded conf frame :=
    (Coder.decodeFrame_blind.same settled Protos.fresh_settled twin).1
  obtain ⟨desk, ran⟩ := Prog.ends same
  have calm := Coder.decodeFrame_blind.settled rfl settled ran
  rw [decode_front queue holds whole, ran]
  cases outcome : decoded conf frame with
  | ok result => exact ⟨_, rfl, fun _ _ => ⟨rfl, calm⟩⟩
  | error e =>
    refine ⟨_, rfl, ?_⟩
    intro result wrong
    cases wrong

namespace Handler
variable {B : Bloom}

/-- What a frame does to a handler. -/
def onFrame (conf : NodeConf) (frame : Bytes) (h : Handler B) : Except (Stop Exn) (Unit ⊕ ReadStatus) × Handler B :=
  match decoded conf frame with
  | .ok result => (.ok (h.onDecoded conf result).1, (h.onDecoded conf result).2)
  | .error e => (.error e, h)

/-- The frames that are there, up to one at which `on_read` returns, and
what is left of them. -/
def readFrames (conf : NodeConf) : List Bytes → Handler B → Except (Stop Exn) ReadStatus × Handler B × List Bytes
  | [], h => (.ok .success, h, [])
  | frame :: rest, h =>
    match h.onFrame conf frame with
    | (.ok (.inl ()), heard) => readFrames conf rest heard
    | (.ok (.inr status), heard) => (.ok status, heard, rest)
    | (.error e, heard) => (.error e, heard, rest)

theorem onFrame_ends (conf : NodeConf) {frame : Bytes} (whole : matrixFraming.Whole frame) (h : Handler B) :
    (h.onFrame conf frame).1 ≠ .error .diverged := by
  have ends := decoded_ends conf whole
  rw [onFrame]
  split
  · simp
  · rename_i e outcome
    rw [outcome] at ends
    intro wrong
    cases wrong
    exact ends rfl

theorem readFrames_ends (conf : NodeConf) {frames : List Bytes}
    (whole : ∀ frame ∈ frames, matrixFraming.Whole frame) (h : Handler B) :
    (readFrames conf frames h).1 ≠ .error .diverged := by
  induction frames generalizing h with
  | nil => simp [readFrames]
  | cons frame rest ih =>
    have first := onFrame_ends conf (whole frame List.mem_cons_self) h
    rw [readFrames]
    split
    · exact ih (fun other member => whole other (List.mem_cons_of_mem _ member)) _
    · simp
    · rename_i e heard outcome
      rw [outcome] at first
      intro wrong
      cases wrong
      exact first rfl

end Handler

/-- The front of the queue is complete exactly when there is a whole
frame. -/
theorem Built.hasCompleteMessage {queue : List NetMessage} {frames : List Bytes} {part : Bytes}
    (built : Built queue frames part) : hasCompleteMessage queue = true ↔ frames ≠ [] := by
  obtain ⟨done, last, rfl, held, tail⟩ := built.queue
  cases held with
  | nil =>
    refine ⟨fun complete => ?_, fun wrong => (wrong rfl).elim⟩
    rcases tail with ⟨_, rfl⟩ | ⟨some, m, rfl, holds⟩
    · cases complete
    · rw [List.nil_append, DbcNode.hasCompleteMessage, List.head?_cons, Option.any_some,
        Built.not_complete holds some built.waits] at complete
      cases complete
  | @cons first frame done' frames' holds _ =>
    refine ⟨fun _ => List.cons_ne_nil frame frames', fun _ => ?_⟩
    rw [List.cons_append, DbcNode.hasCompleteMessage, List.head?_cons, Option.any_some]
    exact Built.complete_of_whole holds (built.whole frame List.mem_cons_self)

namespace Line
variable {B : Bloom}

/-- A decoder that the loop can work on: whole frames in front of a part. -/
structure Fed (l : Line B) (frames : List Bytes) (part : Bytes) : Prop where
  built : Built l.decoder.recvMessages frames part
  settled : l.decoder.protos.Settled

/-- One round: the loop is left when there is no frame, and the first frame
is handled otherwise. -/
theorem Fed.round (conf : NodeConf) {l : Line B} {frame : Bytes} {rest : List Bytes} {part : Bytes}
    (fed : Fed l (frame :: rest) part) :
    ∃ l', readRound conf l = ((l.handler.onFrame conf frame).1, l') ∧
      l'.handler = (l.handler.onFrame conf frame).2 ∧
      (∀ turn, (l.handler.onFrame conf frame).1 = .ok turn → Fed l' rest part) := by
  have complete := fed.built.hasCompleteMessage.mpr (List.cons_ne_nil frame rest)
  have whole := fed.built.whole frame List.mem_cons_self
  obtain ⟨done, last, queue, held, tail⟩ := fed.built.queue
  cases held with
  | @cons front _ done' _ holds held' =>
    obtain ⟨r', ran, after⟩ := decode_decoded conf queue holds whole fed.settled
    rw [readRound, if_neg (by rw [complete]; decide), ran]
    rw [Handler.onFrame]
    cases outcome : decoded conf frame with
    | error e => exact ⟨_, rfl, rfl, fun _ wrong => by cases wrong⟩
    | ok result =>
      obtain ⟨popped, calm⟩ := after result outcome
      refine ⟨_, rfl, rfl, fun _ _ => ⟨?_, calm⟩⟩
      refine ⟨⟨done', last, popped, held', tail⟩, ?_, fed.built.waits⟩
      exact fun other member => fed.built.whole other (List.mem_cons_of_mem _ member)

theorem Fed.loop (conf : NodeConf) {part : Bytes} {frames : List Bytes} {l : Line B} {rounds : Nat}
    (fed : Fed l frames part) (enough : frames.length < rounds) :
    ∃ l', Prog.loop rounds (fun _ => readRound conf) () l = ((Handler.readFrames conf frames l.handler).1, l') ∧
      l'.handler = (Handler.readFrames conf frames l.handler).2.1 ∧
      (∀ status, (Handler.readFrames conf frames l.handler).1 = .ok status →
        Fed l' (Handler.readFrames conf frames l.handler).2.2 part) := by
  induction frames generalizing l rounds with
  | nil =>
    obtain ⟨rounds, rfl⟩ : ∃ n, rounds = n + 1 := Nat.exists_eq_succ_of_ne_zero (by simp at enough; omega)
    have none : hasCompleteMessage l.decoder.recvMessages = false := by
      rw [← Bool.not_eq_true, fed.built.hasCompleteMessage]
      simp
    have run : readRound conf l = (.ok (.inr .success), l) := by rw [readRound, if_pos none]
    refine ⟨l, ?_, rfl, fun _ _ => fed⟩
    rw [Prog.loop, Prog.bind_ok run]
    rfl
  | cons frame rest ih =>
    obtain ⟨rounds, rfl⟩ : ∃ n, rounds = n + 1 := Nat.exists_eq_succ_of_ne_zero (by simp at enough; omega)
    obtain ⟨l', ran, handler, after⟩ := fed.round conf
    rw [Handler.readFrames, Prog.loop]
    rcases turn : l.handler.onFrame conf frame with ⟨e | ⟨_ | status⟩, heard⟩
    · rw [turn] at ran handler
      exact ⟨l', Prog.bind_error ran, handler, fun _ wrong => by cases wrong⟩
    · rw [turn] at ran handler after
      rw [Prog.bind_ok ran]
      have later := ih (after _ rfl) (show rest.length < rounds by simp at enough; omega)
      rwa [handler] at later
    · rw [turn] at ran handler after
      rw [Prog.bind_ok ran]
      exact ⟨l', rfl, handler, fun _ _ => after _ rfl⟩

end Line

namespace Handler
variable {B : Bloom}

/-- A message that the login checks let pass has a path that is not valid,
while there are frames behind it. -/
def Stalls (conf : NodeConf) : List Bytes → Handler B → Prop
  | [], _ => False
  | frame :: rest, h =>
    match h.onFrame conf frame with
    | (.ok (.inl ()), heard) => Stalls conf rest heard
    | (.ok (.inr .success), _) => rest ≠ []
    | _ => False

theorem stalls_iff (conf : NodeConf) (frames : List Bytes) (h : Handler B) :
    Stalls conf frames h ↔ (readFrames conf frames h).1 = .ok .success ∧ (readFrames conf frames h).2.2 ≠ [] := by
  induction frames generalizing h with
  | nil => simp [Stalls, readFrames]
  | cons frame rest ih =>
    rw [Stalls, readFrames]
    rcases h.onFrame conf frame with ⟨e | ⟨_ | status⟩, heard⟩
    · simp
    · exact ih heard
    · cases status <;> simp

/-- What a handler should do: it goes through the frames one by one, passes
over a message whose path is not valid, and ends at the first error. -/
def follow (conf : NodeConf) : List (Bytes ⊕ Outside) → Handler B → Bool × Handler B
  | [], h => (true, h)
  | .inl frame :: later, h =>
    match h.onFrame conf frame with
    | (.ok (.inl ()), heard) => follow conf later heard
    | (.ok (.inr .success), heard) => follow conf later heard
    | (_, heard) => (false, heard)
  | .inr event :: later, h => follow conf later (h.outside event)

theorem follow_append {conf : NodeConf} {story : List (Bytes ⊕ Outside)} (later : List (Bytes ⊕ Outside))
    {h heard : Handler B} (ran : follow conf story h = (true, heard)) :
    follow conf (story ++ later) h = follow conf later heard := by
  induction story generalizing h with
  | nil =>
    cases ran
    rfl
  | cons turn rest ih =>
    cases turn with
    | inr event => exact ih ran
    | inl frame =>
      rw [follow] at ran
      rw [List.cons_append, follow]
      rcases outcome : h.onFrame conf frame with ⟨e | ⟨_ | status⟩, next⟩
      · rw [outcome] at ran
        cases ran
      · rw [outcome] at ran
        exact ih ran
      · rw [outcome] at ran
        cases status with
        | success => exact ih ran
        | default => cases ran
        | decode => cases ran

/-- A call that does not stall goes through all the frames, or ends at an
error. -/
theorem readFrames_follow {conf : NodeConf} {frames : List Bytes} {h : Handler B} (free : ¬ Stalls conf frames h) :
    ((readFrames conf frames h).1 = .ok .success ∧ (readFrames conf frames h).2.2 = [] ∧
        follow conf (frames.map .inl) h = (true, (readFrames conf frames h).2.1)) ∨
      ((readFrames conf frames h).1 ≠ .ok .success ∧
        follow conf (frames.map .inl) h = (false, (readFrames conf frames h).2.1)) := by
  induction frames generalizing h with
  | nil => exact Or.inl ⟨rfl, rfl, rfl⟩
  | cons frame rest ih =>
    rw [Stalls] at free
    rw [readFrames, List.map_cons, follow]
    rcases outcome : h.onFrame conf frame with ⟨e | ⟨_ | status⟩, heard⟩
    · exact Or.inr ⟨by simp, rfl⟩
    · rw [outcome] at free
      exact ih free
    · rw [outcome] at free
      cases status with
      | success =>
        have last : rest = [] := not_not.mp free
        rw [last]
        exact Or.inl ⟨rfl, rfl, rfl⟩
      | default => exact Or.inr ⟨by simp, rfl⟩
      | decode => exact Or.inr ⟨by simp, rfl⟩

end Handler

/-- The bytes in a decoder. -/
def Receiver.pending (r : Receiver) : Bytes := (r.recvMessages.map (·.msgStream.data)).flatten

theorem Built.pending {r : Receiver} {frames : List Bytes} {part : Bytes}
    (built : Built r.recvMessages frames part) :
    r.pending = frames.flatten ++ part := by
  obtain ⟨done, last, queue, held, tail⟩ := built.queue
  rw [Receiver.pending, queue, List.map_append, Holds.map_data held, List.flatten_append]
  rcases tail with ⟨rfl, rfl⟩ | ⟨_, m, rfl, holds⟩
  · rfl
  · rw [List.map_cons, List.map_nil, List.flatten_cons, List.flatten_nil, List.append_nil, holds.data]

namespace Line
variable {B : Bloom}

/-- A call of `on_read` on some bytes: it handles the frames that are there
now, or it returns an error because of a length and handles none. -/
theorem Fed.onRead (conf : NodeConf) {l : Line B} {frames : List Bytes} {part : Bytes} (fed : Fed l frames part)
    {input : ByteBuf} (some : input.data ≠ []) :
    (matrixFraming.Rejected (matrixFraming.cut (l.decoder.pending ++ input.data)).2 ∧
        ∃ l', l.onRead conf input = (.ok (.decode .error), l') ∧ l'.handler = l.handler) ∨
      (¬ matrixFraming.Rejected (matrixFraming.cut (l.decoder.pending ++ input.data)).2 ∧
        ∃ l', l.onRead conf input =
            ((Handler.readFrames conf (matrixFraming.cut (l.decoder.pending ++ input.data)).1 l.handler).1, l') ∧
          l'.handler = (Handler.readFrames conf (matrixFraming.cut (l.decoder.pending ++ input.data)).1
            l.handler).2.1 ∧
          (∀ status, (Handler.readFrames conf (matrixFraming.cut (l.decoder.pending ++ input.data)).1 l.handler).1 =
              .ok status →
            Fed l' (Handler.readFrames conf (matrixFraming.cut (l.decoder.pending ++ input.data)).1 l.handler).2.2
              (matrixFraming.cut (l.decoder.pending ++ input.data)).2)) := by
  have busy : ¬ input.validReadLen = 0 := by
    rw [ByteBuf.validReadLen]
    have positive := List.length_pos_of_ne_nil some
    omega
  rw [fed.built.pending, Line.onRead, if_neg busy]
  obtain ⟨box, ⟨ran, _, frames', part', built, moved⟩ | ⟨ran, frames', bad, refused, moved⟩⟩ :=
    Built.recvMessage (show Built (Inbox.mk input l.decoder.recvMessages).recvMessages frames part from fed.built)
  · have cut := Framing.cut_flatten built.whole (Or.inl built.waits)
    rw [moved] at cut
    rw [ran, cut]
    refine Or.inr ⟨built.waits.not_rejected, ?_⟩
    have ready : Fed (Line.mk l.handler ⟨l.decoder.protos, box.recvMessages⟩) frames' part' := ⟨built, fed.settled⟩
    have few : frames'.length < box.recvMessages.length + 1 := by
      obtain ⟨done, last, queue, held, _⟩ := built.queue
      rw [queue, List.length_append, held.length_eq]
      omega
    obtain ⟨l', loop, handler, after⟩ := ready.loop conf few
    refine ⟨l', ?_, handler, after⟩
    simp only [ne_eq, not_true_eq_false, if_false]
    rw [readLoop, Prog.bind_ok (Prog.fetch_run _ _)]
    exact loop
  · have cut := Framing.cut_flatten refused.whole (Or.inr (refused.rejected.append box.input.data))
    rw [← List.append_assoc, moved] at cut
    rw [ran, cut]
    exact Or.inl ⟨refused.rejected.append _, _, rfl, rfl⟩

theorem onRead_empty (conf : NodeConf) (l : Line B) {input : ByteBuf} (none : input.data = []) :
    l.onRead conf input = (.ok .success, l) := by
  rw [onRead, if_pos (by rw [ByteBuf.validReadLen, none]; rfl)]

/-- No call of `on_read` runs for ever. -/
theorem Fed.onRead_ends (conf : NodeConf) {l : Line B} {frames : List Bytes} {part : Bytes}
    (fed : Fed l frames part) (input : ByteBuf) : (l.onRead conf input).1 ≠ .error .diverged := by
  by_cases none : input.data = []
  · rw [onRead_empty conf l none]
    simp
  rcases fed.onRead conf none with ⟨_, l', ran, _⟩ | ⟨_, l', ran, _⟩
  · rw [ran]
    simp
  · rw [ran]
    exact Handler.readFrames_ends conf (Framing.cut_spec _).1 l.handler

end Line

end DbcNode
