import DbcNode.Channel.Frames

namespace DbcNode

theorem ReadStatus.fine_iff {result : Except (Stop Exn) ReadStatus} : fine result = true ↔
    result = .ok .success := by
  rcases result with e | ⟨_ | _ | _⟩
  · simp [fine]
  · simp [fine]
  · simp [fine]
  · simp [fine]

namespace Session
variable {B : Bloom} {conf : NodeConf}

theorem step_read {s t : Session B} {input : ByteBuf} (ran : s.step conf (.read input) = some t) :
    s.open_ = true ∧ t = ⟨(s.line.onRead conf input).2, ReadStatus.fine (s.line.onRead conf input).1⟩ := by
  rw [step] at ran
  split at ran
  · cases ran
  · rename_i opened
    cases ran
    exact ⟨Bool.not_eq_false _ ▸ opened, rfl⟩

theorem step_outside {s t : Session B} {event : Handler.Outside} (ran : s.step conf (.outside event) = some t) :
    s.open_ = true ∧ t = { s with line := { s.line with handler := s.line.handler.outside event } } := by
  rw [step] at ran
  split at ran
  · cases ran
  · rename_i opened
    cases ran
    exact ⟨Bool.not_eq_false _ ▸ opened, rfl⟩

/-- The decoder of an open channel is one that the loop can work on. -/
def Ready (s : Session B) : Prop := s.open_ = true → ∃ frames part, s.line.Fed frames part

theorem start_fed (type : SocketType) : (start type : Session B).line.Fed [] [] :=
    ⟨Built.start, Protos.fresh_settled⟩

theorem Ready.step {s t : Session B} {event : LineEvent} (ready : Ready s) (ran : s.step conf event = some t) :
    Ready t := by
  intro alive
  cases event with
  | outside event =>
    obtain ⟨opened, rfl⟩ := step_outside ran
    obtain ⟨frames, part, fed⟩ := ready opened
    exact ⟨frames, part, fed.built, fed.settled⟩
  | read input =>
    obtain ⟨opened, rfl⟩ := step_read ran
    obtain ⟨frames, part, fed⟩ := ready opened
    have success := ReadStatus.fine_iff.mp alive
    by_cases none : input.data = []
    · rw [Line.onRead_empty conf s.line none]
      exact ⟨frames, part, fed⟩
    rcases fed.onRead conf none with ⟨_, l', call, _⟩ | ⟨_, l', call, _, after⟩
    · rw [call] at success
      cases success
    · rw [call] at success ⊢
      exact ⟨_, _, after _ success⟩

theorem ready {type : SocketType} {trace : List LineEvent} {s : Session B}
    (run : Reaches (step conf) (start type) trace s) : Ready s :=
  run.invariant (P := Ready) (fun _ => ⟨[], [], start_fed type⟩) (fun ready _ ran => ready.step ran)

/-- No length is rejected, but a message whose path is not valid stands
before another complete frame. -/
def Stuck (conf : NodeConf) (s : Session B) : LineEvent → Prop
  | .read input => ¬ matrixFraming.Rejected (matrixFraming.cut (s.line.decoder.pending ++ input.data)).2 ∧
      s.line.handler.Stalls conf (matrixFraming.cut (s.line.decoder.pending ++ input.data)).1
  | .outside _ => False

/-- A call on some bytes leaves a complete frame behind exactly when it gets
stuck. -/
theorem Ready.stuck_iff {s : Session B} {input : ByteBuf} (ready : Ready s) (opened : s.open_ = true)
    (some : input.data ≠ []) :
    ((s.line.onRead conf input).1 = .ok .success ∧
      hasCompleteMessage (s.line.onRead conf input).2.decoder.recvMessages = true) ↔
        s.Stuck conf (.read input) := by
  obtain ⟨frames, part, fed⟩ := ready opened
  rw [Stuck, Handler.stalls_iff]
  rcases fed.onRead conf some with ⟨rejected, l', call, _⟩ | ⟨legal, l', call, _, after⟩
  · rw [call]
    constructor
    · rintro ⟨wrong, _⟩
      cases wrong
    · rintro ⟨legal, _⟩
      exact (legal rejected).elim
  · rw [call]
    constructor
    · rintro ⟨success, complete⟩
      exact ⟨legal, success, (after _ success).built.hasCompleteMessage.mp complete⟩
    · rintro ⟨_, success, left⟩
      exact ⟨success, (after _ success).built.hasCompleteMessage.mpr left⟩

end Session

/-- Without anything from outside a handler goes through the frames of the
stream. -/
theorem storyOf_reads {trace : List LineEvent} (reads : ∀ event ∈ trace, ∃ input, event = .read input) :
    storyOf trace = (matrixFraming.cut (streamOf trace)).1.map .inl := by
  induction trace with
  | nil => rfl
  | cons event earlier ih =>
    obtain ⟨input, rfl⟩ := reads event List.mem_cons_self
    have before := ih (fun other member => reads other (List.mem_cons_of_mem _ member))
    rw [storyOf, before, streamOf, Framing.cut_append, List.drop_left, List.map_append]

namespace Session
variable {B : Bloom} {conf : NodeConf}

/-- A channel that has kept up with its stream: an open one has handled
every frame, and a closed one has met a bad length or done what its story
says. -/
def KeptUp (conf : NodeConf) (type : SocketType) (trace : List LineEvent) (s : Session B) : Prop :=
  (s.open_ = true ∧ s.line.Fed [] (matrixFraming.cut (streamOf trace)).2 ∧
      Handler.follow conf (storyOf trace) (Handler.fresh type) = (true, s.line.handler)) ∨
    (s.open_ = false ∧ (matrixFraming.Rejected (matrixFraming.cut (streamOf trace)).2 ∨
      Handler.follow conf (storyOf trace) (Handler.fresh type) = (false, s.line.handler)))

theorem KeptUp.read {type : SocketType} {trace : List LineEvent} {s : Session B} {input : ByteBuf}
    (fed : s.line.Fed [] (matrixFraming.cut (streamOf trace)).2)
    (heard : Handler.follow conf (storyOf trace) (Handler.fresh type) = (true, s.line.handler))
    (free : ¬ s.Stuck conf (.read input)) :
    KeptUp conf type (.read input :: trace)
      ⟨(s.line.onRead conf input).2, ReadStatus.fine (s.line.onRead conf input).1⟩ := by
  have pending : s.line.decoder.pending = (matrixFraming.cut (streamOf trace)).2 := by rw [fed.built.pending]; rfl
  have story : storyOf (.read input :: trace) = storyOf trace ++
      (matrixFraming.cut ((matrixFraming.cut (streamOf trace)).2 ++ input.data)).1.map .inl := by
    rw [storyOf, streamOf, Framing.cut_append, List.drop_left]
  rw [KeptUp, story, streamOf, Framing.cut_append, Handler.follow_append _ heard]
  by_cases none : input.data = []
  · have idle : matrixFraming.cut (matrixFraming.cut (streamOf trace)).2 =
      ([], (matrixFraming.cut (streamOf trace)).2) :=
      Framing.cutWithin_rest (Or.inl fed.built.waits) _
    rw [Line.onRead_empty conf s.line none, none, List.append_nil, idle]
    exact Or.inl ⟨rfl, fed, rfl⟩
  rw [Stuck, pending] at free
  have call := fed.onRead conf none
  rw [pending] at call
  rcases call with ⟨rejected, l', call, _⟩ | ⟨legal, l', call, handler, after⟩
  · rw [call]
    exact Or.inr ⟨rfl, Or.inl rejected⟩
  · rw [call]
    have flows : ¬ s.line.handler.Stalls conf
        (matrixFraming.cut ((matrixFraming.cut (streamOf trace)).2 ++ input.data)).1 :=
          fun stalls => free ⟨legal, stalls⟩
    rcases Handler.readFrames_follow flows with ⟨success, left, told⟩ | ⟨failed, told⟩
    · refine Or.inl ⟨ReadStatus.fine_iff.mpr success, ?_, ?_⟩
      · have fed' := after _ success
        rwa [left] at fed'
      · rw [told, handler]
    · refine Or.inr ⟨?_, Or.inr ?_⟩
      · rw [← Bool.not_eq_true, ReadStatus.fine_iff]
        exact failed
      · rw [told, handler]

theorem keptUp {type : SocketType} {trace : List LineEvent} {s : Session B}
    (run : Run (step conf) (fun s event => ¬ s.Stuck conf event) (start type) trace s) :
    KeptUp conf type trace s := by
  refine run.history (P := KeptUp conf type) (Or.inl ⟨rfl, start_fed type, rfl⟩) ?_
  intro trace s t event kept free ran
  cases event with
  | read input =>
    obtain ⟨opened, rfl⟩ := step_read ran
    rcases kept with ⟨_, fed, heard⟩ | ⟨closed, _⟩
    · exact KeptUp.read fed heard free
    · rw [closed] at opened
      cases opened
  | outside event =>
    obtain ⟨opened, rfl⟩ := step_outside ran
    rcases kept with ⟨_, fed, heard⟩ | ⟨closed, _⟩
    · refine Or.inl ⟨opened, ⟨fed.built, fed.settled⟩, ?_⟩
      rw [storyOf, Handler.follow_append _ heard]
      rfl
    · rw [closed] at opened
      cases opened

/-- Every call of `on_read` comes back. On some bytes it leaves a complete
frame behind exactly when a message with a bad path stands before one. As
long as that does not happen an open channel has no complete frame left, and
what a channel has published is what the frames of its stream say, and what
came from outside between them, however the stream was divided. -/
theorem onRead_drains (conf : NodeConf) (type : SocketType) :
    (∀ trace (s : Session B), Reaches (step conf) (start type) trace s → s.open_ = true → ∀ input : ByteBuf,
      (s.line.onRead conf input).1 ≠ .error .diverged ∧
      (input.data ≠ [] → (((s.line.onRead conf input).1 = .ok .success ∧
        hasCompleteMessage (s.line.onRead conf input).2.decoder.recvMessages = true) ↔
          s.Stuck conf (.read input)))) ∧
    (∀ trace (s : Session B), Run (step conf) (fun s event => ¬ s.Stuck conf event) (start type) trace s →
      (s.open_ = true → hasCompleteMessage s.line.decoder.recvMessages = false) ∧
      (¬ matrixFraming.Rejected (matrixFraming.cut (streamOf trace)).2 →
        Handler.follow conf (storyOf trace) (Handler.fresh type) = (s.open_, s.line.handler) ∧
        ((∀ event ∈ trace, ∃ input, event = .read input) → s.line.handler.published =
          (Handler.follow conf ((matrixFraming.cut (streamOf trace)).1.map .inl)
            (Handler.fresh type : Handler B)).2.published))) := by
  refine ⟨?_, ?_⟩
  · intro trace s run opened input
    obtain ⟨frames, part, fed⟩ := ready run opened
    exact ⟨fed.onRead_ends conf input, fun some => (ready run).stuck_iff opened some⟩
  · intro trace s run
    have kept := keptUp run
    refine ⟨?_, ?_⟩
    · intro opened
      rcases kept with ⟨_, fed, _⟩ | ⟨closed, _⟩
      · rw [← Bool.not_eq_true, fed.built.hasCompleteMessage]
        exact fun some => some rfl
      · rw [closed] at opened
        cases opened
    · intro legal
      have told : Handler.follow conf (storyOf trace) (Handler.fresh type) = (s.open_, s.line.handler) := by
        rcases kept with ⟨opened, _, told⟩ | ⟨closed, rejected | told⟩
        · rw [told, opened]
        · exact (legal rejected).elim
        · rw [told, closed]
      refine ⟨told, ?_⟩
      intro reads
      rw [← storyOf_reads reads, told]

end Session

/-- Node `b`. -/
def NodeConf.lone : NodeConf := ⟨str "b", 0, ⟨id, some⟩⟩

/-- A login response of node `a`, in the binary protocol. -/
def loginFrame : Bytes :=
  [0, 0, 0, 54, 0, 0, 0, 0, 8, 0, 1, 0, 0, 0, 0, 11, 0, 2, 0, 0, 0, 8] ++ str "ver_resp" ++
    [127, 11, 0, 1, 0, 0, 0, 1, 97, 8, 0, 2, 0, 0, 0, 0, 8, 0, 3, 0, 0, 0, 0, 127]

/-- A request for tasks without a path, in the binary protocol. -/
def pathlessFrame : Bytes :=
  [0, 0, 0, 49, 0, 0, 0, 0, 8, 0, 1, 0, 0, 0, 0, 11, 0, 2, 0, 0, 0, 18] ++ str "node_list_task_req" ++
    [127, 11, 0, 1, 0, 0, 0, 0, 127]

/-- With one frame there is nothing to leave behind. -/
theorem Handler.not_stalls_last {B : Bloom} (conf : NodeConf) (frame : Bytes) (h : Handler B) :
    ¬ h.Stalls conf [frame] := by
  rw [Handler.Stalls]
  split
  · exact fun stalls => stalls
  · exact fun some => some rfl
  · exact fun stalls => stalls

namespace Session

theorem not_stuck_at_last {B : Bloom} {conf : NodeConf} {s : Session B} {input : ByteBuf} {frame rest : Bytes}
    (cut : matrixFraming.cut (s.line.decoder.pending ++ input.data) = ([frame], rest)) :
    ¬ s.Stuck conf (.read input) := by
  rw [Stuck, cut]
  exact fun stuck => Handler.not_stalls_last conf frame _ stuck.2

theorem onRead_drains_login :
    ∃ s : Session Bloom.blank, Run (step NodeConf.lone) (fun s event => ¬ s.Stuck NodeConf.lone event)
      (start .client)
        [.read (.holding loginFrame)] s ∧ s.open_ = true ∧ s.line.handler.published.length = 1 ∧
      hasCompleteMessage s.line.decoder.recvMessages = false := by
  have cut : matrixFraming.cut ((start .client : Session Bloom.blank).line.decoder.pending ++
      (ByteBuf.holding loginFrame).data) = ([loginFrame], []) := by decide +kernel
  have free : ¬ (start .client : Session Bloom.blank).Stuck NodeConf.lone (.read (.holding loginFrame)) :=
    not_stuck_at_last cut
  have facts : ((start .client : Session Bloom.blank).step NodeConf.lone (.read (.holding loginFrame))).any
      (fun t => t.open_ ∧ t.line.handler.published.length = 1) = true := by decide +kernel
  obtain ⟨s, ran, fine⟩ := (Option.any_eq_true _ _).mp facts
  obtain ⟨opened, one⟩ := of_decide_eq_true fine
  have run : Run (step NodeConf.lone) (fun s event => ¬ s.Stuck NodeConf.lone event) (start .client)
      [.read (.holding loginFrame)] s := .next .start free ran
  exact ⟨s, run, opened, one, ((onRead_drains NodeConf.lone .client).2 _ s run).1 opened⟩

/-- The request is dropped while another one waits behind it, and the call
reports success. -/
theorem frame_left_behind :
    ∃ trace s, Reaches (step NodeConf.lone) (start .client : Session Bloom.blank) trace s ∧ s.open_ = true ∧
      hasCompleteMessage s.line.decoder.recvMessages = true := by
  have run : Reaches (step NodeConf.lone) (start .client : Session Bloom.blank)
      [.read (.holding (loginFrame ++ pathlessFrame ++ pathlessFrame))] _ := .next .start trivial rfl
  exact ⟨_, _, run, by decide +kernel, by decide +kernel⟩

end Session

end DbcNode
