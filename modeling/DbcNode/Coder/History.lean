import DbcNode.Coder.Packet
import DbcNode.Thrift.TameWires
import DbcNode.Thrift.Tame
import DbcNode.Thrift.Steady

namespace DbcNode

namespace Proto

theorem tame : (p : Proto) → p.protocol.Tame p.wire
  | .binary => Binary.tame
  | .compact => Compact.tame

theorem steady : (p : Proto) → p.protocol.Steady p.wire
  | .binary => Binary.steady
  | .compact => Compact.steady

end Proto

/-- No boolean waits in either protocol object. Their field cursors and
stacks may be anything. -/
structure Protos.Settled (protos : Protos) : Prop where
  each : ∀ p, (protos.get p).Settled

theorem Protos.fresh_settled : Protos.fresh.Settled := ⟨fun p => by cases p <;> exact ⟨rfl, rfl⟩⟩

theorem Protos.Settled.set {protos : Protos} {st : ProtState} (settled : protos.Settled) (new : st.Settled)
    (p : Proto) : (protos.set st p).Settled := by
  refine ⟨fun q => ?_⟩
  cases p <;> cases q
  · exact new
  · exact settled.each .compact
  · exact settled.each .binary
  · exact new

/-- The same unread bytes, however much room there is around them. -/
def ByteBuf.Twin (a b : ByteBuf) : Prop := a.data = b.data

/-- Two coders with related buffers whose objects have different
histories. -/
structure Alike (R : ByteBuf → ByteBuf → Prop) (d e : Desk) : Prop where
  buf : R d.buf e.buf
  left : d.protos.Settled
  right : e.protos.Settled

/-- The job does the same in both coders. -/
def Blind {α : Type} (R : ByteBuf → ByteBuf → Prop) (m : Job α) (P : α → Prop) : Prop :=
  Prog.Couples (Alike R) m (fun a d e => Alike R d e ∧ P a) (fun _ => Alike R)

namespace Blind
variable {α β : Type} {R : ByteBuf → ByteBuf → Prop} {P : α → Prop} {Q : β → Prop}

theorem pure {a : α} (holds : P a) : Blind R (Pure.pure a) P :=
    Prog.Couples.pure a (fun _ _ alike => ⟨alike, holds⟩)

theorem stop (e : Stop Exn) : Blind R (Prog.stop e : Job α) P := Prog.Couples.stop e (fun _ _ alike => alike)

theorem bind {m : Job α} {f : α → Job β} (first : Blind R m P) (second : ∀ a, P a → Blind R (f a) Q) :
    Blind R (m >>= f) Q := by
  refine Prog.Couples.bind first (fun a => ?_)
  have swapped := Prog.Couples.assume (second a)
  exact swapped.mono (fun _ _ held => ⟨held.2, held.1⟩) (fun _ _ _ held => held)

theorem ite {p : Prop} [Decidable p] {m n : Job α} (yes : p → Blind R m P) (no : ¬ p → Blind R n P) :
    Blind R (if p then m else n) P := by
  by_cases holds : p
  · rw [if_pos holds]
    exact yes holds
  · rw [if_neg holds]
    exact no holds

/-- Work on the buffer alone. -/
theorem inBuf (m : Prog Exn ByteBuf α) : Blind Eq (DbcNode.inBuf m) (fun _ => True) := by
  intro d e alike
  rw [DbcNode.inBuf, DbcNode.inBuf, ← alike.buf]
  obtain ⟨_ | _, buf⟩ := m d.buf
  · exact ⟨rfl, rfl, alike.left, alike.right⟩
  · exact ⟨rfl, ⟨rfl, alike.left, alike.right⟩, trivial⟩

/-- Work on the unread bytes alone. -/
theorem inData {m : Prog Exn ByteBuf α}
    (same : ∀ a b : ByteBuf, a.Twin b → (m a).1 = (m b).1 ∧ (m a).2.Twin (m b).2) :
    Blind ByteBuf.Twin (DbcNode.inBuf m) (fun _ => True) := by
  intro d e alike
  obtain ⟨result, after⟩ := same d.buf e.buf alike.buf
  rw [DbcNode.inBuf, DbcNode.inBuf]
  rcases left : m d.buf with ⟨_ | _, a⟩ <;> rcases right : m e.buf with
    ⟨_ | _, b⟩ <;> rw [left, right] at result after
  · cases result
    exact ⟨rfl, after, alike.left, alike.right⟩
  · cases result
  · cases result
  · cases result
    exact ⟨rfl, ⟨after, alike.left, alike.right⟩, trivial⟩

theorem fetch {f : Desk → α} (same : ∀ d e : Desk, R d.buf e.buf → f d = f e) :
    Blind R (Prog.fetch f) (fun _ => True) :=
  Prog.Couples.fetch (fun d e alike => ⟨same d e alike.buf, alike, trivial⟩)

/-- A read on a protocol object. -/
theorem reads {p : Proto} {m : Call α} (runs : Runs p.wire 0 m P) : Blind ByteBuf.Twin (onProto p m) P := by
  intro d e alike
  have calm := (alike.left.each p)
  have calm' := (alike.right.each p)
  have agree : Agree p.wire ⟨p.wire.cursor { d.protos.get p with buf := d.buf },
      p.wire.cursor { e.protos.get p with buf := e.buf }, (d.protos.get p).lastField, (e.protos.get p).lastField⟩
      d.buf.data.length False { d.protos.get p with buf := d.buf } { e.protos.get p with buf := e.buf } := by
    refine ⟨alike.buf, Nat.le_refl _, rfl, rfl, rfl, rfl, ?_, fun waits => (waits calm.bool).elim, calm.field,
      calm'.field⟩
    exact calm.bool.trans calm'.bool.symm
  rw [onProto, onProto]
  rcases (runs _ _).cases agree with ⟨a, s, t, left, right, _, after, holds⟩ | ⟨x, s, t, left, right, broke⟩
  · rw [left, right]
    exact ⟨rfl, ⟨after.buf, alike.left.set after.settled.1 p, alike.right.set after.settled.2 p⟩, holds⟩
  · rw [left, right]
    exact ⟨rfl, broke.buf, alike.left.set broke.left p, alike.right.set broke.right p⟩

/-- A write on a protocol object. -/
theorem writes {p : Proto} {m : Call Unit} (keeps : Keeps p.wire m) : Blind Eq (onProto p m) (fun _ => True) := by
  intro d e alike
  have calm := (alike.left.each p)
  have calm' := (alike.right.each p)
  have level : Level p.wire ⟨p.wire.cursor { d.protos.get p with buf := d.buf },
      p.wire.cursor { e.protos.get p with buf := e.buf }, (d.protos.get p).lastField, (e.protos.get p).lastField⟩
      { d.protos.get p with buf := d.buf } { e.protos.get p with buf := e.buf } :=
    ⟨alike.buf, rfl, rfl, rfl, rfl, ⟨calm.bool, calm.field⟩, ⟨calm'.bool, calm'.field⟩⟩
  rw [onProto, onProto]
  rcases (keeps _).cases level with ⟨a, s, t, left, right, after⟩ | ⟨x, s, t, left, right, spoilt⟩
  · rw [left, right]
    exact ⟨rfl, ⟨after.buf, alike.left.set after.leftSettled p, alike.right.set after.rightSettled p⟩, trivial⟩
  · rw [left, right]
    exact ⟨rfl, spoilt.buf, alike.left.set spoilt.left p, alike.right.set spoilt.right p⟩

theorem catching {m : Job α} {caught : α} (blind : Blind R m (fun _ => True)) :
    Blind R (DbcNode.catching m caught) (fun _ => True) := by
  intro d e alike
  rw [DbcNode.catching, DbcNode.catching]
  rcases Prog.Couples.cases blind alike with ⟨a, d', e', left, right, held⟩ | ⟨x, d', e', left, right, held⟩
  · rw [left, right]
    exact ⟨rfl, held⟩
  · rw [left, right]
    cases x with
    | thrown x => exact ⟨rfl, held, trivial⟩
    | asserted => exact ⟨rfl, held⟩
    | diverged => exact ⟨rfl, held⟩

end Blind

/-- Dropping bytes that have been read looks at no more than the bytes. -/
theorem ByteBuf.moveReadPtr_twin (n : Nat) {a b : ByteBuf} (twin : a.Twin b) :
    (ByteBuf.moveReadPtr n a).1 = (ByteBuf.moveReadPtr n b).1 ∧
      (ByteBuf.moveReadPtr n a).2.Twin (ByteBuf.moveReadPtr n b).2 := by
  have same : a.data = b.data := twin
  rw [ByteBuf.moveReadPtr, ByteBuf.moveReadPtr, ← same]
  split
  · refine ⟨rfl, ?_⟩
    rw [ByteBuf.Twin, ByteBuf.advance_data, ByteBuf.advance_data, same]
  · split
    · exact ⟨rfl, rfl⟩
    · exact ⟨rfl, twin⟩

theorem PacketHeader.read_long {a moved : ByteBuf} (long : 8 ≤ a.data.length)
    (move : ByteBuf.moveReadPtr 8 a = (.ok (), moved)) :
    PacketHeader.read a =
      (.ok (BitVec.ofNat 32 (ofBE (a.data.take 4)), BitVec.ofNat 32 (Compress.packetType a.data)), moved) := by
  rw [PacketHeader.read, Prog.bind_ok (Prog.fetch_run _ _), decide_eq_true long, Prog.check]
  simp only [if_true]
  rw [Prog.bind_ok (Prog.pure_run _ _), Prog.bind_ok (Prog.fetch_run _ _), Prog.bind_ok move]
  rfl

theorem PacketHeader.read_short {a : ByteBuf} (short : ¬ 8 ≤ a.data.length) :
    PacketHeader.read a = (.error .asserted, a) := by
  rw [PacketHeader.read, Prog.bind_ok (Prog.fetch_run _ _), decide_eq_false short, Prog.check]
  rfl

/-- The header that is read is within the limits of the reader. -/
theorem readHeader_runs (p : Proto) :
    Runs p.wire 0 (BaseHeader.read p.protocol) (fun h => BaseHeader.fields.Within p.wire h.toVal) := by
  have read := p.tame.ty (.struct BaseHeader.fields) _ (Ty.init_fair p.wire _)
  refine read.map (fun x within => ?_)
  obtain ⟨magic, msgName, nonce, sessionId, path, extenInfo, ⟨⟩⟩ := x
  exact within

theorem readBody_runs (p : Proto) (t : Ty) : Runs p.wire 0 (t.read p.protocol t.init) (t.Within p.wire) :=
  p.tame.ty t _ (Ty.init_fair p.wire t)

/-- What a reader of the format takes, for a whole message. -/
def Content.Within (w : Wire) : Content → Prop
  | .typed t _ header body => BaseHeader.fields.Within w header.toVal ∧ t.body.Within w body
  | .forward header _ => BaseHeader.fields.Within w header.toVal

namespace Coder
variable {snappy : Snappy} {ctx : Ctx}

theorem forwardRest_blind (header : BaseHeader) :
    Blind ByteBuf.Twin (forwardRest header) (fun msg => ∃ body, msg.content = .forward header body) := by
  intro d e alike
  have same : d.buf.data = e.buf.data := alike.buf
  rw [forwardRest, forwardRest, ByteBuf.validReadLen, ByteBuf.validReadLen, ← same]
  obtain ⟨_ | _, body⟩ := ByteBuf.writeToByteBuf d.buf.data ByteBuf.fresh
  · exact ⟨rfl, alike⟩
  · have moved : Blind ByteBuf.Twin (do
        inBuf (ByteBuf.moveReadPtr d.buf.data.length)
        return Message.mk binaryForwardMsg (.forward header body.data))
        (fun msg => ∃ body, msg.content = .forward header body) :=
      (Blind.inData (fun _ _ => ByteBuf.moveReadPtr_twin _)).bind (fun _ _ => Blind.pure ⟨_, rfl⟩)
    exact moved d e alike

/-- The message that a service frame gives is within the limits of the
reader. -/
theorem decodeServiceFrame_blind (p : Proto) :
    Blind ByteBuf.Twin (decodeServiceFrame ctx p) (fun r => ∀ msg, r.2 = some msg → msg.content.Within p.wire) := by
  refine (Blind.reads (readHeader_runs p)).bind (fun header small => Blind.ite (fun _ => ?_) (fun _ => ?_))
  · refine (forwardRest_blind header).bind (fun msg same => Blind.pure (fun msg' filled => ?_))
    obtain ⟨body, content⟩ := same
    cases filled
    rw [content]
    exact small
  · rw [decodeInvoke]
    split
    · exact Blind.pure (fun _ unfilled => (Option.some_ne_none _ unfilled.symm).elim)
    · refine (Blind.reads (readBody_runs p _)).bind (fun body small' => Blind.pure (fun msg filled => ?_))
      cases filled
      exact ⟨small, small'⟩

theorem readPacketHeader_twin {a b : ByteBuf} (twin : a.Twin b) :
    (PacketHeader.read a).1 = (PacketHeader.read b).1 ∧ (PacketHeader.read a).2.Twin (PacketHeader.read b).2 := by
  have same : a.data = b.data := twin
  by_cases long : 8 ≤ a.data.length
  · obtain ⟨moved, ran, rest⟩ := ByteBuf.moveReadPtr_run long
    obtain ⟨moved', ran', rest'⟩ := ByteBuf.moveReadPtr_run (same ▸ long)
    rw [PacketHeader.read_long long ran, PacketHeader.read_long (same ▸ long) ran', ← same]
    refine ⟨rfl, ?_⟩
    rw [ByteBuf.Twin, rest, rest', same]
  · rw [PacketHeader.read_short long, PacketHeader.read_short (same ▸ long)]
    exact ⟨rfl, twin⟩

theorem validReadLen_twin (d e : Desk) (twin : d.buf.Twin e.buf) : d.buf.validReadLen = e.buf.validReadLen := by
  rw [ByteBuf.validReadLen, ByteBuf.validReadLen, twin]

theorem decodePacket_blind : Blind ByteBuf.Twin (decodePacket ctx) (fun _ => True) := by
  have left := validReadLen_twin
  refine (Blind.fetch left).bind (fun before _ => (Blind.inData (fun _ _ => readPacketHeader_twin)).bind
    (fun header _ => ?_))
  obtain ⟨packetLen, packetType⟩ := header
  dsimp only
  cases getProtocol (packetType &&& 0xff) with
  | none => exact Blind.pure trivial
  | some p =>
    refine (decodeServiceFrame_blind p).bind (fun result _ => (Blind.fetch left).bind (fun after _ => ?_))
    exact Blind.ite (fun _ => Blind.pure trivial) (fun _ => Blind.pure trivial)

theorem inflate_blind : Blind ByteBuf.Twin (inflate snappy) (fun _ => True) := by
  intro d e alike
  have same : d.buf.data = e.buf.data := alike.buf
  rw [inflate, inflate, ← same]
  by_cases flag : Compress.hasCompressFlag d.buf.data = true
  · rw [if_pos flag, if_pos flag]
    rcases Compress.uncompress snappy d.buf.data ByteBuf.fresh with ⟨_ | _ | _, out⟩
    · exact ⟨rfl, alike⟩
    · exact ⟨rfl, alike, trivial⟩
    · exact ⟨rfl, ⟨rfl, alike.left, alike.right⟩, trivial⟩
  · rw [if_neg flag, if_neg flag]
    exact ⟨rfl, alike, trivial⟩

theorem decodeFrame_blind : Blind ByteBuf.Twin (decodeFrame snappy ctx) (fun _ => True) :=
  Blind.catching
    (inflate_blind.bind (fun _ _ => Blind.ite (fun _ => decodePacket_blind) (fun _ => Blind.pure trivial)))

theorem encodeContent_blind (p : Proto) (msg : Message) : Blind Eq (encodeContent p msg) (fun _ => True) := by
  have header : ∀ h : BaseHeader, Blind Eq (onProto p (h.write p.protocol)) (fun _ => True) := fun h =>
    Blind.writes (p.steady.ty (.struct BaseHeader.fields) h.toVal)
  rw [encodeContent]
  split
  · exact (header _).bind (fun _ _ => (Blind.writes (Keeps.put _)).bind (fun _ _ => Blind.pure trivial))
  · split
    · exact Blind.pure trivial
    · refine Blind.ite (fun _ => Blind.stop _) (fun _ => (header _).bind (fun _ _ => ?_))
      exact (Blind.writes (p.steady.ty _ _)).bind (fun _ _ => Blind.pure trivial)

theorem encodePacket_blind (p : Proto) (msg : Message) :
    Blind Eq (encodePacket snappy ctx p msg) (fun _ => True) := by
  refine (encodeContent_blind p msg).bind (fun _ _ => Blind.ite (fun _ => ?_) (fun _ => Blind.pure trivial))
  refine (Blind.fetch (fun d e same => by rw [same])).bind (fun packetLen _ => (Blind.inBuf _).bind (fun _ _ => ?_))
  refine Blind.ite (fun _ => Blind.ite (fun _ => ?_) (fun _ => Blind.pure trivial)) (fun _ => Blind.pure trivial)
  exact (Blind.inBuf _).bind (fun _ _ => Blind.ite (fun _ => Blind.pure trivial) (fun _ => Blind.pure trivial))

theorem encode_blind (msg : Message) : Blind Eq (encode snappy ctx msg) (fun _ => True) := by
  refine Blind.catching ((Blind.inBuf _).bind (fun _ _ => ?_))
  split
  · exact Blind.pure trivial
  · exact encodePacket_blind _ msg

end Coder

/-- A job that does not look at the history leaves settled objects
behind. -/
theorem Blind.settled {α : Type} {R : ByteBuf → ByteBuf → Prop} {m : Job α} {P : α → Prop} (blind : Blind R m P)
    {d d' : Desk} {r : Except (Stop Exn) α} (same : R d.buf d.buf) (settled : d.protos.Settled)
    (run : m d = (r, d')) :
    d'.protos.Settled := by
  rcases Prog.Couples.cases blind ⟨same, settled, settled⟩ with
    ⟨a, s, t, left, _, held, _⟩ | ⟨e, s, t, left, _, held⟩
  · rw [run] at left
    cases left
    exact held.left
  · rw [run] at left
    cases left
    exact held.left

/-- Two histories, and two buffers that are alike, give the same result. -/
theorem Blind.same {α : Type} {R : ByteBuf → ByteBuf → Prop} {m : Job α} {P : α → Prop} (blind : Blind R m P)
    {protos protos' : Protos} (settled : protos.Settled) (settled' : protos'.Settled) {buf buf' : ByteBuf}
    (same : R buf buf') :
    (m ⟨protos, buf⟩).1 = (m ⟨protos', buf'⟩).1 ∧ R (m ⟨protos, buf⟩).2.buf (m ⟨protos', buf'⟩).2.buf := by
  have alike : Alike R ⟨protos, buf⟩ ⟨protos', buf'⟩ := ⟨same, settled, settled'⟩
  rcases Prog.Couples.cases blind alike with ⟨a, s, t, left, right, held, _⟩ | ⟨e, s, t, left, right, held⟩
  · rw [left, right]
    exact ⟨rfl, held.buf⟩
  · rw [left, right]
    exact ⟨rfl, held.buf⟩

/-- The protocol objects of a coder that has decoded and encoded anything,
with any outcome. -/
inductive History (snappy : Snappy) : Protos → Prop
  | fresh : History snappy Protos.fresh
  | decoded {ctx : Ctx} {d d' : Desk} {result : Except (Stop Exn) (DecodeStatus × Option Message)}
      (before : History snappy d.protos) (call : Coder.decodeFrame snappy ctx d = (result, d')) :
      History snappy d'.protos
  | encoded {ctx : Ctx} {msg : Message} {d d' : Desk} {result : Except (Stop Exn) EncodeStatus}
      (before : History snappy d.protos) (call : Coder.encode snappy ctx msg d = (result, d')) :
      History snappy d'.protos

theorem History.settled {snappy : Snappy} {protos : Protos} (history : History snappy protos) : protos.Settled := by
  induction history with
  | fresh => exact Protos.fresh_settled
  | decoded _ call ih => exact Coder.decodeFrame_blind.settled rfl ih call
  | encoded _ call ih => exact (Coder.encode_blind _).settled rfl ih call

/-- What a frame decodes to, and which bytes a message is encoded as, does
not depend on what the coder has done before, also where a call before has
thrown. -/
theorem coder_history_independent {snappy : Snappy} {protos : Protos} (history : History snappy protos) :
    (∀ ctx frame, (Coder.decodeFrame snappy ctx ⟨protos, frame⟩).1 =
      (Coder.decodeFrame snappy ctx ⟨Protos.fresh, frame⟩).1) ∧
    (∀ ctx msg out, (Coder.encode snappy ctx msg ⟨protos, out⟩).1 =
      (Coder.encode snappy ctx msg ⟨Protos.fresh, out⟩).1 ∧
      (Coder.encode snappy ctx msg ⟨protos, out⟩).2.buf =
        (Coder.encode snappy ctx msg ⟨Protos.fresh, out⟩).2.buf) := by
  refine ⟨fun ctx frame => ?_, fun ctx msg out => ?_⟩
  · exact (Coder.decodeFrame_blind.same history.settled Protos.fresh_settled
      (show ByteBuf.Twin frame frame from rfl)).1
  · exact (Coder.encode_blind msg).same history.settled Protos.fresh_settled rfl

/-- A frame that ends inside two nested structs, before another frame. -/
theorem coder_history_independent_broken_frame :
    ∃ result d', Coder.decodeFrame ⟨id, some⟩ ⟨false, 1, []⟩ ⟨Protos.fresh,
        ⟨64, false, 0, [0, 0, 0, 30, 0, 0, 0, 1, 0x1c, 0x1c, 0x15], by decide, by decide⟩⟩ = (result, d') ∧
      ∀ next, (Coder.decodeFrame ⟨id, some⟩ ⟨false, 1, []⟩ ⟨d'.protos, next⟩).1 =
        (Coder.decodeFrame ⟨id, some⟩ ⟨false, 1, []⟩ ⟨Protos.fresh, next⟩).1 := by
  refine ⟨_, _, Prod.mk.eta.symm, fun next => ?_⟩
  exact (coder_history_independent (History.decoded History.fresh Prod.mk.eta.symm)).1 _ next

end DbcNode
