import DbcNode.Coder.ChunkingRuns
import DbcNode.Coder.Unpack

namespace DbcNode

/-- `recv_message` on each chunk that arrives, up to the first error. -/
def recvChunks : List ByteBuf → Prog Exn (List NetMessage) DecodeStatus
  | [] => fun queue => (.ok .success, queue)
  | chunk :: chunks => fun queue =>
    match recvMessage ⟨chunk, queue⟩ with
    | (.ok .success, box) => recvChunks chunks box.recvMessages
    | (result, box) => (result, box.recvMessages)

/-- The receiving side: the chunks arrive, and then a frame that is complete
is decoded. -/
def receive (snappy : Snappy) (ctx : Ctx) (chunks : List ByteBuf) :
    Prog Exn Receiver (DecodeStatus × Option Message) :=
  fun r => match recvChunks chunks r.recvMessages with
    | (.ok .success, recvMessages) =>
      if hasCompleteMessage recvMessages then decode snappy ctx { r with recvMessages }
      else (.ok (.needMoreData, none), { r with recvMessages })
    | (.ok status, recvMessages) => (.ok (status, none), { r with recvMessages })
    | (.error e, recvMessages) => (.error e, { r with recvMessages })

theorem Built.recvChunks {queue : List NetMessage} {frames : List Bytes} {part : Bytes}
    (built : Built queue frames part) (chunks : List ByteBuf) :
    ∃ queue', (DbcNode.recvChunks chunks queue = (.ok .success, queue') ∧ ∃ frames' part',
      Built queue' frames' part' ∧
        frames'.flatten ++ part' = frames.flatten ++ part ++ chunks.flatMap (·.data)) ∨
      (DbcNode.recvChunks chunks queue = (.ok .error, queue') ∧ ∃ frames' bad, Refused queue' frames' bad ∧
        ∃ unread, frames'.flatten ++ (bad ++ unread) = frames.flatten ++ part ++ chunks.flatMap (·.data)) := by
  induction chunks generalizing queue frames part with
  | nil => exact ⟨queue, Or.inl ⟨rfl, frames, part, built, by simp⟩⟩
  | cons chunk chunks ih =>
    obtain ⟨box, ⟨ran, _, frames', part', built', moved⟩ | ⟨ran, frames', bad, refused, moved⟩⟩ :=
      Built.recvMessage (show Built (Inbox.mk chunk queue).recvMessages frames part from built)
    · obtain ⟨queue', after⟩ := ih built'
      rw [moved] at after
      refine ⟨queue', ?_⟩
      simp only [DbcNode.recvChunks, ran]
      simpa only [List.flatMap_cons, List.append_assoc] using after
    · refine ⟨box.recvMessages, Or.inr ⟨?_, frames', bad, refused, box.input.data ++ chunks.flatMap (·.data), ?_⟩⟩
      · simp only [DbcNode.recvChunks, ran]
      · rw [List.flatMap_cons, ← List.append_assoc _ chunk.data, ← moved]
        simp only [List.append_assoc]

/-- A frame of an allowed length is built from its chunks, whatever they
are. -/
theorem recvChunks_whole {frame : Bytes} (whole : matrixFraming.Whole frame) {chunks : List ByteBuf}
    (arrives : chunks.flatMap (·.data) = frame) :
    ∃ front, front.Holds frame ∧ recvChunks chunks [] = (.ok .success, [front]) := by
  have one : ∀ other ∈ [frame], matrixFraming.Whole other := fun other member => by
    rw [List.mem_singleton.mp member]
    exact whole
  have cut := Framing.cut_flatten one (Or.inl Framing.waits_nil)
  obtain ⟨queue, ⟨ran, frames, part, built, all⟩ | ⟨_, frames, bad, refused, unread, all⟩⟩ :=
    Built.start.recvChunks chunks
  · have same := Framing.cut_flatten built.whole (Or.inl built.waits)
    rw [all, List.flatten_nil, List.nil_append, List.nil_append, arrives] at same
    rw [List.flatten_singleton, List.append_nil, same] at cut
    cases cut
    obtain ⟨done, last, rfl, held, ⟨_, rfl⟩ | ⟨some, _⟩⟩ := built.queue
    · cases held with
      | cons holds rest =>
        cases rest
        exact ⟨_, holds, ran⟩
    · exact (some rfl).elim
  · have same := Framing.cut_flatten refused.whole (Or.inr (refused.rejected.append unread))
    rw [all, List.flatten_nil, List.nil_append, List.nil_append, arrives] at same
    rw [List.flatten_singleton, List.append_nil, same] at cut
    have rejected := (refused.rejected.append unread).1
    rw [(Prod.mk.inj cut).2] at rejected
    exact absurd rejected (by decide)

theorem recvChunks_rejected {frame : Bytes} (rejected : matrixFraming.Rejected frame) {chunks : List ByteBuf}
    (arrives : chunks.flatMap (·.data) = frame) : ∃ queue, recvChunks chunks [] = (.ok .error, queue) := by
  have none : ∀ other ∈ ([] : List Bytes), matrixFraming.Whole other :=
    fun _ member => (List.not_mem_nil member).elim
  have cut := Framing.cut_flatten none (Or.inr rejected)
  obtain ⟨queue, ⟨_, frames, part, built, all⟩ | ⟨ran, _⟩⟩ := Built.start.recvChunks chunks
  · have same := Framing.cut_flatten built.whole (Or.inl built.waits)
    rw [all, List.flatten_nil, List.nil_append, List.nil_append, arrives] at same
    rw [List.flatten_nil, List.nil_append, same] at cut
    exact (built.waits.not_rejected ((Prod.mk.inj cut).2 ▸ rejected)).elim
  · exact ⟨queue, ran⟩

/-- A frame whose prefix is its length is received as `decode_frame` decodes
it, when that length is allowed, and not at all otherwise. -/
theorem receive_frame {snappy : Snappy} {ctx : Ctx} {protos : Protos} {frame : Bytes} {chunks : List ByteBuf}
    (prefixed : matrixFraming.size frame = frame.length) (header : 4 ≤ frame.length)
    (arrives : chunks.flatMap (·.data) = frame) :
    ((30 ≤ frame.length ∧ frame.length ≤ 4194304) ∧ ∃ buf : ByteBuf, buf.data = frame ∧
        (receive snappy ctx chunks ⟨protos, []⟩).1 = (Coder.decodeFrame snappy ctx ⟨protos, buf⟩).1) ∨
      (¬ (30 ≤ frame.length ∧ frame.length ≤ 4194304) ∧
        (receive snappy ctx chunks ⟨protos, []⟩).1 = .ok (.error, none)) := by
  by_cases legal : 30 ≤ frame.length ∧ frame.length ≤ 4194304
  · have whole : matrixFraming.Whole frame := ⟨legal_iff.mpr (prefixed ▸ legal), prefixed.symm⟩
    obtain ⟨front, holds, ran⟩ := recvChunks_whole whole arrives
    have complete := Built.complete_of_whole holds whole
    refine Or.inl ⟨legal, front.msgStream, holds.data, ?_⟩
    rw [receive, ran]
    simp only [hasCompleteMessage, List.head?_cons, Option.any_some, complete, if_true]
    rw [decode_front rfl holds whole]
    obtain ⟨_ | result, desk⟩ := Coder.decodeFrame snappy ctx ⟨protos, front.msgStream⟩
    · rfl
    · rfl
  · have rejected : matrixFraming.Rejected frame := by
      refine ⟨header, ?_⟩
      rw [prefixed, ← Bool.not_eq_true, legal_iff]
      exact legal
    obtain ⟨queue, ran⟩ := recvChunks_rejected rejected arrives
    refine Or.inr ⟨legal, ?_⟩
    rw [receive, ran]

/-- What the receiving side takes of what the sending side may send: a frame
of an allowed length, with strings and containers within the reader's limits
and no empty map in the compact format, that fits a new buffer when it is
inflated. -/
structure Receivable (snappy : Snappy) (enableCompress : Bool) (p : Proto) (content : Content) : Prop where
  length : 30 ≤ (Packet.frame snappy enableCompress p (content.enc p.wire)).length ∧
    (Packet.frame snappy enableCompress p (content.enc p.wire)).length ≤ 4194304
  within : content.Within p.wire
  room : Packet.Compressed enableCompress (content.enc p.wire) → 8 + (content.enc p.wire).length < ByteBuf.capacity

theorem frame_prefixed {snappy : Snappy} {enableCompress : Bool} {p : Proto} {payload : Bytes}
    (small : (Packet.frame snappy enableCompress p payload).length < 2 ^ 31) :
    matrixFraming.size (Packet.frame snappy enableCompress p payload) =
        (Packet.frame snappy enableCompress p payload).length ∧
      4 ≤ (Packet.frame snappy enableCompress p payload).length := by
  have bytes : ∀ flag rest, (Packet.bytes flag p rest).length < 2 ^ 31 →
      matrixFraming.size (Packet.bytes flag p rest) = (Packet.bytes flag p rest).length ∧
        4 ≤ (Packet.bytes flag p rest).length := by
    intro flag rest small
    change ofBE ((Packet.bytes flag p rest).take 4) = _ ∧ _
    rw [Packet.bytes_length] at small ⊢
    rw [Packet.bytes_size, ofBE_toBE]
    omega
  rw [Packet.frame] at small ⊢
  split at small
  · rename_i compressed
    rw [if_pos compressed]
    exact bytes 1 _ small
  · rename_i brief
    rw [if_neg brief]
    exact bytes 0 _ small

theorem forwards_home {ctx : Ctx} {header : BaseHeader}
    (home : ∀ dest ∈ header.exten "dest_id", ctx.localNodeId <:+: dest) : Coder.forwards ctx header = false := by
  rw [Coder.forwards, decide_eq_false_iff_not]
  rintro ⟨_, _, dest, member, elsewhere⟩
  exact elsewhere (home dest member)

theorem receive_frame_iff {snappy : Snappy} {ctx : Ctx} {protos : Protos} {enableCompress : Bool}
    {p : Proto} {m : Typed} {chunks : List ByteBuf} (undoes : snappy.Undoes) (settled : protos.Settled)
    (home : ∀ dest ∈ m.header.exten "dest_id", ctx.localNodeId <:+: dest)
    (small : (Packet.frame snappy enableCompress p (m.message.content.enc p.wire)).length < 2 ^ 31)
    (arrives : chunks.flatMap (·.data) = Packet.frame snappy enableCompress p (m.message.content.enc p.wire)) :
    (receive snappy ctx chunks ⟨protos, []⟩).1 = .ok (.success, some m.message) ↔
      Receivable snappy enableCompress p m.message.content := by
  obtain ⟨prefixed, header⟩ := frame_prefixed small
  rcases receive_frame prefixed header arrives with ⟨length, buf, data, same⟩ | ⟨illegal, same⟩
  · rw [same, decodeFrame_frame_iff (d := ⟨protos, buf⟩) undoes settled (forwards_home home) data]
    exact ⟨fun ⟨within, room⟩ => ⟨length, within, room⟩, fun receivable => ⟨receivable.within, receivable.room⟩⟩
  · rw [same]
    exact ⟨fun wrong => (by cases wrong), fun receivable => (illegal receivable.length).elim⟩

/-- A message that `encode` sends arrives as it was, exactly when it
respects the limits of the receiving side, which `encode` does not check. -/
theorem receive_sent_iff {snappy : Snappy} {ctx ctx' : Ctx} {m : Typed} {d d' : Desk} {protos : Protos}
    {chunks : List ByteBuf} (undoes : snappy.Undoes) (appendable : d.buf.Appendable) (empty : d.buf.data = [])
    (sent : Coder.encode snappy ctx m.message d = (.ok .success, d')) (history : History snappy protos)
    (home : ∀ dest ∈ m.header.exten "dest_id", ctx'.localNodeId <:+: dest)
    (arrives : chunks.flatMap (·.data) = d'.buf.data) :
    ∃ p, getProtocol ctx.thriftProto = some p ∧
      ((receive snappy ctx' chunks ⟨protos, []⟩).1 = .ok (.success, some m.message) ↔
        Receivable snappy ctx.enableCompress p m.message.content) := by
  obtain ⟨p, negotiated, data⟩ := encode_success m.sendable appendable empty sent
  have fits := d'.buf.fits
  have bounded := d'.buf.bounded
  rw [data] at arrives
  refine ⟨p, negotiated, receive_frame_iff undoes history.settled home ?_ arrives⟩
  rw [← data]
  omega

/-- A heartbeat with this `exten_info`. -/
def shakeHandReq (extenInfo : Option (OrdMap Bytes Bytes)) : Typed where
  type := ⟨str "shake_hand_req", emptyBody⟩
  header := ⟨0x12345678, str "shake_hand_req", none, none, none, extenInfo⟩
  body := ()
  registered := rfl
  named := rfl

theorem shakeHandReq_within {w : Wire} (extenInfo : Option (OrdMap Bytes Bytes)) :
    (shakeHandReq extenInfo).message.content.Within w ↔ ∀ m, extenInfo = some m → (Ty.map .string).Within w m := by
  have short : (str "shake_hand_req").length ≤ maxStringLimit := by decide
  simp [shakeHandReq, Typed.message, Content.Within, BaseHeader.fields, BaseHeader.toVal, emptyBody, Fields.Within,
    Ty.Within, short]

theorem receive_sent_heartbeat :
    ∃ d', Coder.encode ⟨id, some⟩ ⟨false, 0, []⟩ (shakeHandReq (some OrdMap.empty)).message ⟨Protos.fresh,
      ByteBuf.fresh⟩ =
        (.ok .success, d') ∧
      (receive ⟨id, some⟩ ⟨false, 0, []⟩ [d'.buf] ⟨Protos.fresh, []⟩).1 =
        .ok (.success, some (shakeHandReq (some OrdMap.empty)).message) := by
  have status : (Coder.encode ⟨id, some⟩ ⟨false, 0, []⟩ (shakeHandReq (some OrdMap.empty)).message
      ⟨Protos.fresh, ByteBuf.fresh⟩).1 = .ok .success := by decide +kernel
  have undoes : Snappy.Undoes ⟨id, some⟩ := fun _ => rfl
  have home : ∀ dest ∈ (shakeHandReq (some OrdMap.empty)).header.exten "dest_id",
      (Ctx.mk false 0 []).localNodeId <:+: dest := fun _ _ => List.nil_infix
  obtain ⟨d', sent⟩ := Prog.ends status
  have arrives : [d'.buf].flatMap (·.data) = d'.buf.data := List.append_nil _
  obtain ⟨p, negotiated, iff⟩ :=
    receive_sent_iff undoes ByteBuf.fresh_appendable rfl sent History.fresh home arrives
  obtain rfl : Proto.binary = p := Option.some.inj negotiated
  refine ⟨d', sent, iff.mpr ⟨by decide +kernel, ?_, fun compressed => (Bool.false_ne_true compressed.1).elim⟩⟩
  refine (shakeHandReq_within _).mpr (fun m same => ?_)
  cases same
  exact ⟨⟨Nat.zero_le _, rfl⟩, fun _ member => (List.not_mem_nil member).elim⟩

/-- The compact protocol writes an empty map as a zero byte and cannot read
it. -/
theorem empty_exten_info_not_received :
    (Coder.encode ⟨id, some⟩ ⟨false, 1, []⟩ (shakeHandReq (some OrdMap.empty)).message
      ⟨Protos.fresh, ByteBuf.fresh⟩).1 = .ok .success ∧
    ∀ chunks : List ByteBuf, chunks.flatMap (·.data) = (Coder.encode ⟨id, some⟩ ⟨false, 1, []⟩
        (shakeHandReq (some OrdMap.empty)).message ⟨Protos.fresh, ByteBuf.fresh⟩).2.buf.data →
      (receive ⟨id, some⟩ ⟨false, 1, []⟩ chunks ⟨Protos.fresh, []⟩).1 ≠
        .ok (.success, some (shakeHandReq (some OrdMap.empty)).message) := by
  refine ⟨by decide +kernel, fun chunks arrives received => ?_⟩
  have frame : (Coder.encode ⟨id, some⟩ ⟨false, 1, []⟩ (shakeHandReq (some OrdMap.empty)).message
      ⟨Protos.fresh, ByteBuf.fresh⟩).2.buf.data = Packet.frame ⟨id, some⟩ false .compact
        ((shakeHandReq (some OrdMap.empty)).message.content.enc Proto.compact.wire) := by decide +kernel
  have undoes : Snappy.Undoes ⟨id, some⟩ := fun _ => rfl
  have home : ∀ dest ∈ (shakeHandReq (some OrdMap.empty)).header.exten "dest_id",
      (Ctx.mk false 1 []).localNodeId <:+: dest := fun _ _ => List.nil_infix
  have receivable := (receive_frame_iff undoes Protos.fresh_settled home (by decide +kernel)
    (arrives.trans frame)).mp received
  have readable := ((shakeHandReq_within _).mp receivable.within OrdMap.empty rfl).1.2
  cases readable

end DbcNode
