import DbcNode.Coder.Unpack

namespace DbcNode

/-- The call comes back with a status or an exception, not with an
assertion. -/
def Stop.Caught {α : Type} : Except (Stop Exn) α → Prop
  | .ok _ => True
  | .error e => ∃ x, e = .thrown x

/-- A read by a protocol object is the read by a new one, and it returns or
throws. -/
theorem onProto_reads {α : Type} {p : Proto} {m : Call α} {P : α → Prop} {d : Desk} (runs : Runs p.wire 0 m P)
    (settled : d.protos.Settled) :
    (∃ a st d', m { ProtState.fresh with buf := d.buf } = (.ok a, st) ∧ onProto p m d = (.ok a, d') ∧
        d'.buf.data = st.buf.data ∧ d'.protos.Settled ∧ d'.buf.data.length ≤ d.buf.data.length) ∨
      (∃ x st d', m { ProtState.fresh with buf := d.buf } = (.error (.thrown x), st) ∧
        onProto p m d = (.error (.thrown x), d')) := by
  have calm := settled.each p
  have agree : Agree p.wire ⟨p.wire.cursor { d.protos.get p with buf := d.buf },
      p.wire.cursor { ProtState.fresh with buf := d.buf }, (d.protos.get p).lastField, []⟩
      d.buf.data.length False { d.protos.get p with buf := d.buf } { ProtState.fresh with buf := d.buf } :=
    ⟨rfl, Nat.le_refl _, rfl, rfl, rfl, rfl, calm.bool, fun waits => (waits calm.bool).elim, calm.field, rfl⟩
  rcases (runs _ _).cases agree with ⟨a, s, t, left, right, _, after, _⟩ | ⟨e, s, t, left, right, broke⟩
  · refine Or.inl ⟨a, t, ⟨d.protos.set s p, s.buf⟩, right, by rw [onProto, left], after.buf, ?_, after.short⟩
    exact settled.set after.settled.1 p
  · obtain ⟨x, rfl⟩ := broke.thrown
    exact Or.inr ⟨x, t, ⟨d.protos.set s p, s.buf⟩, right, by rw [onProto, left]⟩

/-- The buffer holds a header for another node and nothing behind it. -/
def HeaderOnly (ctx : Ctx) (p : Proto) (buf : ByteBuf) : Prop :=
  ∃ header st, BaseHeader.read p.protocol { ProtState.fresh with buf } = (.ok header, st) ∧
    Coder.forwards ctx header = true ∧ st.buf.data = []

namespace Coder
variable {snappy : Snappy} {ctx : Ctx} {p : Proto} {d : Desk}

theorem forwardRest_empty {header : BaseHeader} (empty : d.buf.data = []) :
    (forwardRest header d).1 = .error .asserted := by
  rw [forwardRest, empty, ByteBuf.writeToByteBuf, if_pos rfl]

theorem forwardRest_some (header : BaseHeader) (some : d.buf.data ≠ []) : Stop.Caught (forwardRest header d).1 := by
  rw [forwardRest]
  rcases ByteBuf.fresh_appendable.write some with ⟨body, ran, _⟩ | ⟨ran, _⟩
  · obtain ⟨moved, move, _⟩ := ByteBuf.moveReadPtr_run (Nat.le_refl d.buf.data.length)
    have run : inBuf (ByteBuf.moveReadPtr d.buf.validReadLen) d = (.ok (), { d with buf := moved }) := by
      rw [inBuf, ByteBuf.validReadLen, move]
    rw [ran]
    simp only
    rw [Prog.bind_ok run]
    trivial
  · rw [ran]
    exact ⟨_, rfl⟩

theorem decodeInvoke_none {header : BaseHeader} (missing : findInvoker header.msgName = none) :
    decodeInvoke p header = return (.unknownMsg, none) := by
  rw [decodeInvoke]
  split
  · rfl
  · rename_i t bound
    rw [missing] at bound
    cases bound

theorem decodeInvoke_caught {header : BaseHeader} (settled : d.protos.Settled) :
    Stop.Caught (decodeInvoke p header d).1 := by
  cases found : findInvoker header.msgName with
  | none =>
    rw [decodeInvoke_none found]
    trivial
  | some t =>
    rw [decodeInvoke_eq found]
    rcases onProto_reads (readBody_runs p (.struct t.body)) settled with ⟨_, _, d', _, ran, _⟩ | ⟨x, _, d', _, ran⟩
    · rw [Prog.bind_ok ran]
      trivial
    · rw [Prog.bind_error ran]
      exact ⟨x, rfl⟩

/-- The one assertion on the way through a service frame. -/
theorem decodeServiceFrame_asserted (settled : d.protos.Settled) (hollow : HeaderOnly ctx p d.buf) :
    (decodeServiceFrame ctx p d).1 = .error .asserted := by
  obtain ⟨header, st, read, elsewhere, empty⟩ := hollow
  rcases onProto_reads (readHeader_runs p) settled with
    ⟨header', st', d', fresh, ran, buf, _⟩ | ⟨x, st', d', fresh, _⟩
  · rw [read] at fresh
    cases fresh
    have stopped : (forwardRest header d').1 = .error .asserted := forwardRest_empty (by rw [buf, empty])
    obtain ⟨d'', asserted⟩ := Prog.ends stopped
    rw [decodeServiceFrame, Prog.bind_ok ran, if_pos elsewhere, Prog.bind_error asserted]
  · rw [read] at fresh
    cases fresh

theorem decodeServiceFrame_caught (settled : d.protos.Settled) (full : ¬ HeaderOnly ctx p d.buf) :
    Stop.Caught (decodeServiceFrame ctx p d).1 := by
  rcases onProto_reads (readHeader_runs p) settled with
    ⟨header, st, d', fresh, ran, buf, calm, _⟩ | ⟨x, st, d', _, ran⟩
  · rw [decodeServiceFrame, Prog.bind_ok ran]
    by_cases elsewhere : forwards ctx header = true
    · rw [if_pos elsewhere]
      have some : d'.buf.data ≠ [] := fun empty => full ⟨header, st, fresh, elsewhere, by rw [← buf, empty]⟩
      have caught := forwardRest_some header some
      rcases result : forwardRest header d' with ⟨e | msg, d''⟩
      · rw [result] at caught
        rw [Prog.bind_error result]
        exact caught
      · rw [Prog.bind_ok result]
        trivial
    · rw [if_neg elsewhere]
      exact decodeInvoke_caught calm
  · rw [decodeServiceFrame, Prog.bind_error ran]
    exact ⟨x, rfl⟩

/-- Reading never adds to what is left to read. -/
theorem decodeServiceFrame_shrinks {d' : Desk} {r : DecodeStatus × Option Message} (settled : d.protos.Settled)
    (run : decodeServiceFrame ctx p d = (.ok r, d')) : d'.buf.data.length ≤ d.buf.data.length := by
  rcases onProto_reads (readHeader_runs p) settled with ⟨header, st, e, _, ran, _, calm, less⟩ | ⟨x, st, e, _, ran⟩
  · rw [decodeServiceFrame, Prog.bind_ok ran] at run
    split at run
    · obtain ⟨msg, e', forwarded, last⟩ | ⟨x, _, wrong⟩ := Prog.bind_cases run
      · cases last
        rw [forwardRest] at forwarded
        split at forwarded
        · cases forwarded
        · obtain ⟨_, e'', moved, last⟩ | ⟨x, _, wrong⟩ := Prog.bind_cases forwarded
          · cases last
            obtain ⟨b, move, rest⟩ := ByteBuf.moveReadPtr_run (Nat.le_refl e.buf.data.length)
            rw [inBuf, ByteBuf.validReadLen, move] at moved
            cases moved
            change b.data.length ≤ _
            rw [rest, List.drop_length]
            exact Nat.zero_le _
          · cases wrong
      · cases wrong
    · cases found : findInvoker header.msgName with
      | none =>
        rw [decodeInvoke_none found] at run
        cases run
        exact less
      | some t =>
        rw [decodeInvoke_eq found] at run
        rcases onProto_reads (readBody_runs p (.struct t.body)) calm with
          ⟨_, _, e', _, ran', _, _, less'⟩ | ⟨x, _, e', _, ran'⟩
        · rw [Prog.bind_ok ran'] at run
          cases run
          exact less'.trans less
        · rw [Prog.bind_error ran'] at run
          cases run
  · rw [decodeServiceFrame, Prog.bind_error ran] at run
    cases run

/-- Success means that the packet header gave the length that was read. -/
theorem decodeRest_success {d' : Desk} {n : Nat} {packetLen : BitVec 32} {msg : Option Message}
    (settled : d.protos.Settled) (run : decodeRest ctx p n packetLen d = (.ok (.success, msg), d')) :
    packetLen = BitVec.ofNat 32 (n - d'.buf.data.length) ∧ d'.buf.data.length ≤ d.buf.data.length := by
  rw [decodeRest] at run
  obtain ⟨⟨status, msg'⟩, e, served, last⟩ | ⟨x, _, wrong⟩ := Prog.bind_cases run
  · have less := decodeServiceFrame_shrinks settled served
    dsimp only at last
    rw [Prog.bind_ok (Prog.fetch_run _ _)] at last
    split at last
    · cases last
    · rename_i same
      cases last
      refine ⟨?_, less⟩
      by_contra differs
      exact same ⟨rfl, differs⟩
  · cases wrong

theorem decodeRest_caught {n : Nat} {packetLen : BitVec 32} (settled : d.protos.Settled)
    (full : ¬ HeaderOnly ctx p d.buf) : Stop.Caught (decodeRest ctx p n packetLen d).1 := by
  have caught := decodeServiceFrame_caught settled full
  rw [decodeRest]
  rcases result : decodeServiceFrame ctx p d with ⟨e | ⟨status, msg⟩, d'⟩
  · rw [result] at caught
    rw [Prog.bind_error result]
    exact caught
  · rw [Prog.bind_ok result]
    dsimp only
    rw [Prog.bind_ok (Prog.fetch_run _ _)]
    split <;> trivial

/-- The packet is a header for another node with no body. -/
def HollowPacket (ctx : Ctx) (packet : ByteBuf) : Prop :=
  ∃ p, getProtocol (BitVec.ofNat 32 (Compress.packetType packet.data) &&& 0xff) = some p ∧
    HeaderOnly ctx p (packet.advance 8)

theorem decodePacket_asserted (settled : d.protos.Settled) (long : 8 < d.buf.data.length)
    (hollow : HollowPacket ctx d.buf) : (decodePacket ctx d).1 = .error .asserted := by
  obtain ⟨p, type, hollow⟩ := hollow
  have stopped := decodeServiceFrame_asserted (d := { d with buf := d.buf.advance 8 }) settled hollow
  obtain ⟨d', asserted⟩ := Prog.ends stopped
  rw [decodePacket_run long, type]
  dsimp only
  rw [decodeRest, Prog.bind_error asserted]

theorem decodePacket_caught (settled : d.protos.Settled) (long : 8 < d.buf.data.length)
    (full : ¬ HollowPacket ctx d.buf) : Stop.Caught (decodePacket ctx d).1 := by
  rw [decodePacket_run long]
  cases type : getProtocol (BitVec.ofNat 32 (Compress.packetType d.buf.data) &&& 0xff) with
  | none => trivial
  | some p =>
    exact decodeRest_caught (d := { d with buf := d.buf.advance 8 }) settled (fun hollow => full ⟨p, type, hollow⟩)

/-- Success means that the whole packet was read. -/
theorem decodePacket_success {d' : Desk} {msg : Option Message} (settled : d.protos.Settled)
    (long : 8 < d.buf.data.length) (run : decodePacket ctx d = (.ok (.success, msg), d')) :
    ofBE (d.buf.data.take 4) + d'.buf.data.length = d.buf.data.length := by
  rw [decodePacket_run long] at run
  cases type : getProtocol (BitVec.ofNat 32 (Compress.packetType d.buf.data) &&& 0xff) with
  | none =>
    rw [type] at run
    cases run
  | some p =>
    rw [type] at run
    obtain ⟨same, less⟩ := decodeRest_success (d := { d with buf := d.buf.advance 8 }) settled run
    have size := ofBE_lt (d.buf.data.take 4)
    have width : (d.buf.data.take 4).length = 4 := by rw [List.length_take]; omega
    have shorter : (d.buf.advance 8).data.length ≤ d.buf.data.length := by
      rw [ByteBuf.advance_data, List.length_drop]
      omega
    have fits := d.buf.fits
    have bounded := d.buf.bounded
    have equal := congrArg BitVec.toNat same
    rw [BitVec.toNat_ofNat, BitVec.toNat_ofNat] at equal
    rw [width] at size
    have whole : d'.buf.data.length ≤ d.buf.data.length := less.trans shorter
    omega

end Coder

/-- The packet in a frame, inflated where the frame says that it is
compressed. -/
def Packet.inflated (snappy : Snappy) (frame : Bytes) : Option Bytes :=
  if Compress.hasCompressFlag frame then
    (snappy.uncompress (frame.drop 8)).map (fun text =>
      toBE 4 (8 + text.length) ++ (toBE 4 (Compress.packetType frame &&& 0xFFFF00FF) ++ text))
  else some frame

/-- A frame that reaches a write of no bytes: its compressed text is empty,
or its packet is a header for another node with no body. -/
def HollowFrame (snappy : Snappy) (ctx : Ctx) (frame : ByteBuf) : Prop :=
  if Compress.hasCompressFlag frame.data then
    snappy.uncompress (frame.data.drop 8) = some [] ∨
      ∃ packet, Compress.uncompress snappy frame.data ByteBuf.fresh = (.ok true, packet) ∧
        Coder.HollowPacket ctx packet
  else Coder.HollowPacket ctx frame

/-- How the packet of a frame comes out of the decompression. -/
theorem inflate_cases {snappy : Snappy} {d : Desk} (long : 30 ≤ d.buf.data.length)
    (prefixed : ofBE (d.buf.data.take 4) = d.buf.data.length) :
    (∃ packet : ByteBuf, Coder.inflate snappy d = (.ok true, { d with buf := packet }) ∧ 8 < packet.data.length ∧
        Packet.inflated snappy d.buf.data = some packet.data ∧
        (∀ ctx, HollowFrame snappy ctx d.buf ↔ Coder.HollowPacket ctx packet)) ∨
      (Coder.inflate snappy d = (.ok false, d) ∧ ∀ ctx, ¬ HollowFrame snappy ctx d.buf) ∨
      (Coder.inflate snappy d = (.error .asserted, d) ∧ ∀ ctx, HollowFrame snappy ctx d.buf) := by
  by_cases flag : Compress.hasCompressFlag d.buf.data = true
  · simp only [Coder.inflate, HollowFrame, Packet.inflated, if_pos flag]
    cases found : snappy.uncompress (d.buf.data.drop 8) with
    | none =>
      have failed : Compress.uncompress snappy d.buf.data ByteBuf.fresh = (.ok false, ByteBuf.fresh) := by
        rw [Compress.uncompress, if_neg (by rw [flag]; decide), if_neg (fun wrong => wrong prefixed.symm),
          Compress.packetHeaderLen, found]
        rfl
      refine Or.inr (Or.inl ⟨by rw [failed], fun ctx hollow => ?_⟩)
      rcases hollow with wrong | ⟨packet, ran, _⟩
      · cases wrong
      · rw [failed] at ran
        cases ran
    | some text =>
      obtain ⟨out, still, _, header, start⟩ := Coder.uncompress_text flag prefixed found
      rw [start]
      by_cases empty : text = []
      · have stopped : Compress.orFalse (ByteBuf.writeToByteBuf text) out = (.error .asserted, out) := by
          rw [Compress.orFalse, ByteBuf.writeToByteBuf, if_pos empty]
        exact Or.inr (Or.inr ⟨by rw [stopped], fun ctx => Or.inl (by rw [empty])⟩)
      · rcases still.write empty with ⟨packet, ran, _, data⟩ | ⟨ran, _⟩
        · have written : Compress.orFalse (ByteBuf.writeToByteBuf text) out = (.ok true, packet) := by
            rw [Compress.orFalse, ran]
          have positive := List.length_pos_of_ne_nil empty
          refine Or.inl ⟨packet, by rw [written], ?_, ?_, fun ctx => ⟨?_, fun hollow => ?_⟩⟩
          · rw [data, header, List.length_append, List.length_append, toBE_length, toBE_length]
            omega
          · rw [Option.map_some, data, header, List.append_assoc]
          · rintro (wrong | ⟨packet', ran', hollow⟩)
            · exact (empty (Option.some.inj wrong)).elim
            · rw [written] at ran'
              cases ran'
              exact hollow
          · exact Or.inr ⟨packet, written, hollow⟩
        · have failed : Compress.orFalse (ByteBuf.writeToByteBuf text) out = (.ok false, out) := by
            rw [Compress.orFalse, ran]
          refine Or.inr (Or.inl ⟨by rw [failed], fun ctx hollow => ?_⟩)
          rcases hollow with wrong | ⟨packet, ran', _⟩
          · exact empty (Option.some.inj wrong)
          · rw [failed] at ran'
            cases ran'
  · simp only [Coder.inflate, HollowFrame, Packet.inflated, if_neg flag]
    exact Or.inl ⟨d.buf, rfl, by omega, rfl, fun ctx => Iff.rfl⟩

/-- A frame with the length that its prefix says is decoded without an
assertion, unless it makes the coder copy no bytes; and a frame that decodes
is read to the byte that its packet header says. The stack of the source is
taken to be deep enough for the structures that a frame nests. -/
theorem decodeFrame_robust_iff {snappy : Snappy} {ctx : Ctx} {protos : Protos} {frame : ByteBuf}
    (history : History snappy protos) (long : 30 ≤ frame.data.length)
    (prefixed : ofBE (frame.data.take 4) = frame.data.length) :
    ((∃ result, (Coder.decodeFrame snappy ctx ⟨protos, frame⟩).1 = .ok result) ∧
        ∀ msg d', Coder.decodeFrame snappy ctx ⟨protos, frame⟩ = (.ok (.success, msg), d') →
          ∃ packet, Packet.inflated snappy frame.data = some packet ∧
            ofBE (packet.take 4) + d'.buf.data.length = packet.length) ↔
      ¬ HollowFrame snappy ctx frame := by
  have settled := history.settled
  rcases inflate_cases (d := ⟨protos, frame⟩) long prefixed with
    ⟨packet, inflated, deep, inner, same⟩ | ⟨inflated, full⟩ | ⟨inflated, hollow⟩
  · rw [same ctx, Coder.decodeFrame]
    constructor
    · rintro ⟨⟨result, returned⟩, _⟩ hollow
      have stopped := Coder.decodePacket_asserted (d := ⟨protos, packet⟩) settled deep hollow
      obtain ⟨d', asserted⟩ := Prog.ends stopped
      rw [catching, Prog.bind_ok inflated, if_pos rfl, asserted] at returned
      cases returned
    · intro full
      have caught := Coder.decodePacket_caught (d := ⟨protos, packet⟩) settled deep full
      rw [catching, Prog.bind_ok inflated, if_pos rfl]
      rcases decoded : Coder.decodePacket ctx ⟨protos, packet⟩ with ⟨e | result, d'⟩
      · rw [decoded] at caught
        obtain ⟨x, rfl⟩ := caught
        exact ⟨⟨_, rfl⟩, fun msg d'' wrong => (by cases wrong)⟩
      · refine ⟨⟨_, rfl⟩, fun msg d'' run => ⟨packet.data, inner, ?_⟩⟩
        cases run
        exact Coder.decodePacket_success (d := ⟨protos, packet⟩) settled deep decoded
  · refine ⟨fun _ => full ctx, fun _ => ?_⟩
    rw [Coder.decodeFrame, catching, Prog.bind_ok inflated]
    exact ⟨⟨_, rfl⟩, fun msg d'' wrong => (by cases wrong)⟩
  · refine ⟨fun fine => ?_, fun full => (full (hollow ctx)).elim⟩
    obtain ⟨result, returned⟩ := fine.1
    rw [Coder.decodeFrame, catching, Prog.bind_error inflated] at returned
    cases returned

theorem decodeFrame_robust_unknown_protocol :
    ∃ result, (Coder.decodeFrame ⟨id, some⟩ ⟨false, 0, str "b"⟩ ⟨Protos.fresh,
      ⟨64, false, 0, [0, 0, 0, 30, 0, 0, 0, 7] ++ List.replicate 22 1, by decide, by decide⟩⟩).1 = .ok result := by
  refine ((decodeFrame_robust_iff History.fresh (by decide) (by decide)).mpr ?_).1
  rw [HollowFrame, if_neg (by decide)]
  rintro ⟨p, type, _⟩
  cases type

/-- Whether a call ended in an assertion. -/
def Stop.isAsserted {α : Type} : Except (Stop Exn) α → Bool
  | .error .asserted => true
  | _ => false

/-- A request for node `c`, in the binary protocol: its header and no
body. -/
def bodilessFrame : ByteBuf where
  len := 128
  autoAlloc := false
  readPos := 0
  data := [0, 0, 0, 66, 0, 0, 0, 0, 8, 0, 1, 0, 0, 0, 0, 11, 0, 2, 0, 0, 0, 18] ++ str "node_list_task_req" ++
    [13, 0, 255, 11, 11, 0, 0, 0, 1, 0, 0, 0, 7] ++ str "dest_id" ++ [0, 0, 0, 1, 99, 127]
  fits := by decide
  bounded := by decide

/-- At node `b` the body that is passed on has no bytes. -/
theorem header_without_body_asserts :
    (30 ≤ bodilessFrame.data.length ∧ ofBE (bodilessFrame.data.take 4) = bodilessFrame.data.length) ∧
      ¬ ∃ result, (Coder.decodeFrame ⟨id, some⟩ ⟨false, 0, str "b"⟩ ⟨Protos.fresh, bodilessFrame⟩).1 =
        .ok result := by
  refine ⟨by decide, ?_⟩
  rintro ⟨result, returned⟩
  have stopped :
    Stop.isAsserted (Coder.decodeFrame ⟨id, some⟩ ⟨false, 0, str "b"⟩ ⟨Protos.fresh, bodilessFrame⟩).1 =
    true := by decide +kernel
  rw [returned] at stopped
  cases stopped

end DbcNode
