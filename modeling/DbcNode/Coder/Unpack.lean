import DbcNode.Coder.History
import DbcNode.Coder.Packet

namespace DbcNode

/-- A write past the default allocation only succeeds below the capacity. -/
theorem ByteBuf.grow_lt {b grown : ByteBuf} {bytes : Bytes} {rounds j : Nat}
    (ran : b.grow bytes rounds (defaultBufLen * 2 ^ j) = .ok grown) :
    b.data.length + bytes.length < ByteBuf.capacity := by
  induction rounds generalizing j with
  | zero => cases ran
  | succ rounds ih =>
    rw [ByteBuf.grow] at ran
    split at ran
    · rename_i small
      split at ran
      · rename_i room
        have exponent : j ≤ 10 := by
          by_contra more
          have large : defaultBufLen * 2 ^ 11 ≤ defaultBufLen * 2 ^ j :=
            Nat.mul_le_mul_left defaultBufLen (Nat.pow_le_pow_right (by decide) (by omega))
          have limit : maxByteBufLen < defaultBufLen * 2 ^ 11 := by decide
          omega
        have within : defaultBufLen * 2 ^ j ≤ ByteBuf.capacity :=
          Nat.mul_le_mul_left defaultBufLen (Nat.pow_le_pow_right (by decide) exponent)
        omega
      · have doubled : defaultBufLen * 2 ^ j * 2 = defaultBufLen * 2 ^ (j + 1) := by
          rw [Nat.pow_succ, Nat.mul_assoc]
        rw [doubled] at ran
        exact ih ran
    · cases ran

/-- A write into the allocation that is there. -/
theorem ByteBuf.Appendable.within {b : ByteBuf} {bytes : Bytes} (appendable : b.Appendable) (some : bytes ≠ [])
    (room : b.data.length + bytes.length ≤ b.len) :
    ∃ written, ByteBuf.writeToByteBuf bytes b = (.ok (), written) ∧ written.Appendable ∧ written.len = b.len ∧
      written.data = b.data ++ bytes := by
  have start := appendable.start
  refine ⟨{ b with data := b.data ++ bytes, fits := by rw [List.length_append]; omega }, ?_,
    ⟨appendable.auto, appendable.start, appendable.doubled⟩, rfl, rfl⟩
  rw [ByteBuf.writeToByteBuf, if_neg some, dif_pos (by omega)]

/-- On a buffer of the default length the capacity decides whether a write
fits. -/
theorem ByteBuf.Appendable.write_lt {b written : ByteBuf} {bytes : Bytes} (appendable : b.Appendable)
    (small : b.len = defaultBufLen) (ran : ByteBuf.writeToByteBuf bytes b = (.ok (), written)) :
    b.data.length + bytes.length < ByteBuf.capacity := by
  rw [ByteBuf.writeToByteBuf] at ran
  split at ran
  · cases ran
  · split at ran
    · rename_i room
      have start := appendable.start
      have limit : defaultBufLen < ByteBuf.capacity := by decide
      omega
    · rw [if_pos appendable.auto, small] at ran
      cases grown : b.grow bytes 26 (defaultBufLen * 2) with
      | ok out => exact ByteBuf.grow_lt (j := 1) grown
      | error e =>
        rw [grown] at ran
        cases ran

theorem onProto_parses {α : Type} {p : Proto} {m : Call α} {bytes rest : Bytes} {x : α} {d : Desk}
    (parses : ∀ c, p.wire.Parses m c c bytes x) (data : d.buf.data = bytes ++ rest) :
    ∃ d', onProto p m d = (.ok x, d') ∧ d'.buf.data = rest := by
  obtain ⟨st, ran, consumed, _⟩ := parses _ { d.protos.get p with buf := d.buf } rest rfl data
  refine ⟨⟨d.protos.set st p, st.buf⟩, by rw [onProto, ran], ?_⟩
  change st.buf.data = rest
  rw [consumed.buf, ByteBuf.advance_data]
  change List.drop _ d.buf.data = rest
  rw [data, List.drop_left]

theorem readHeader_parses {p : Proto} {header : BaseHeader} (within : BaseHeader.fields.Within p.wire header.toVal)
    (c : BitVec 16) : p.wire.Parses (BaseHeader.read p.protocol) c c (header.enc p.wire) header :=
  (p.reads.ty (.struct BaseHeader.fields) c header.toVal BaseHeader.fields_distinct within).map BaseHeader.ofVal

namespace Coder
variable {snappy : Snappy} {ctx : Ctx} {p : Proto} {d : Desk}

theorem decodeInvoke_eq {header : BaseHeader} {t : MsgType} (found : findInvoker header.msgName = some t) :
    decodeInvoke p header = (do
      let body ← onProto p ((Ty.struct t.body).read p.protocol (Ty.struct t.body).init)
      return (.success, some ⟨header.msgName, .typed t (findInvoker_registered found).2 header body⟩)) := by
  rw [decodeInvoke]
  split
  · rename_i missing
    rw [found] at missing
    cases missing
  · rename_i t' found'
    obtain rfl : t' = t := Option.some.inj (found'.symm.trans found)
    rfl

/-- The service frame of a message for this node. -/
theorem decodeServiceFrame_typed {m : Typed} (within : m.message.content.Within p.wire)
    (home : forwards ctx m.header = false) (data : d.buf.data = m.message.content.enc p.wire) :
    ∃ d', decodeServiceFrame ctx p d = (.ok (.success, some m.message), d') ∧ d'.buf.data = [] := by
  obtain ⟨header, headerRan, left⟩ := onProto_parses (readHeader_parses within.1) data
  have body := fun c => p.reads.ty (.struct m.type.body) c m.body (body_distinct m.registered) within.2
  obtain ⟨d', bodyRan, done⟩ := onProto_parses body (left.trans (List.append_nil _).symm)
  refine ⟨d', ?_, done⟩
  have found : findInvoker m.header.msgName = some m.type := by
    rw [m.named]
    exact m.registered
  rw [decodeServiceFrame, Prog.bind_ok headerRan, if_neg (by rw [home]; decide), decodeInvoke_eq found,
    Prog.bind_ok bodyRan]
  simp only [Typed.message, ← m.named]
  rfl

/-- What is left to do when the packet header has been read: `before` bytes
were there, and the header says `packetLen`. -/
def decodeRest (ctx : Ctx) (p : Proto) (before : Nat) (packetLen : BitVec 32) :
    Job (DecodeStatus × Option Message) := do
  let (status, msg) ← decodeServiceFrame ctx p
  let after ← Prog.fetch (·.buf.validReadLen)
  if status = .success ∧ packetLen ≠ BitVec.ofNat 32 (before - after) then return (.error, msg)
  else return (status, msg)

/-- The packet header is read and the protocol it names is looked up. -/
theorem decodePacket_run (long : 8 < d.buf.data.length) : decodePacket ctx d =
    match getProtocol (BitVec.ofNat 32 (Compress.packetType d.buf.data) &&& 0xff) with
    | none => (.ok (.error, none), { d with buf := d.buf.advance 8 })
    | some p => decodeRest ctx p d.buf.data.length (BitVec.ofNat 32 (ofBE (d.buf.data.take 4)))
      { d with buf := d.buf.advance 8 } := by
  have moved : ByteBuf.moveReadPtr 8 d.buf = (.ok (), d.buf.advance 8) := if_pos long
  have header : PacketHeader.read d.buf = (.ok (BitVec.ofNat 32 (ofBE (d.buf.data.take 4)),
      BitVec.ofNat 32 (Compress.packetType d.buf.data)), d.buf.advance 8) :=
    PacketHeader.read_long (Nat.le_of_lt long) moved
  have inside : inBuf PacketHeader.read d = (.ok (BitVec.ofNat 32 (ofBE (d.buf.data.take 4)),
      BitVec.ofNat 32 (Compress.packetType d.buf.data)), { d with buf := d.buf.advance 8 }) := by rw [inBuf, header]
  rw [decodePacket, Prog.bind_ok (Prog.fetch_run _ _), Prog.bind_ok inside]
  dsimp only
  cases getProtocol (BitVec.ofNat 32 (Compress.packetType d.buf.data) &&& 0xff) with
  | none => rfl
  | some p => rfl

theorem packetType_bytes (flag : UInt8) (p : Proto) (rest : Bytes) :
    Compress.packetType (Packet.bytes flag p rest) = flag.toNat * 256 + p.code.toNat := by
  rw [Compress.packetType, Packet.bytes_word]
  cases p <;> simp [ofBE, Proto.code]

theorem hasCompressFlag_bytes (p : Proto) (rest : Bytes) :
    Compress.hasCompressFlag (Packet.bytes 0 p rest) = false ∧
      Compress.hasCompressFlag (Packet.bytes 1 p rest) = true := by
  rw [Compress.hasCompressFlag, Compress.hasCompressFlag, packetType_bytes, packetType_bytes]
  cases p <;> decide

/-- A packet that is not compressed: the rest of it is the service frame. -/
theorem decodePacket_bytes {payload : Bytes} (some : payload ≠ []) (data : d.buf.data = Packet.bytes 0 p payload) :
    decodePacket ctx d = decodeRest ctx p (8 + payload.length) (BitVec.ofNat 32 (8 + payload.length))
      { d with buf := d.buf.advance 8 } := by
  have length : d.buf.data.length = 8 + payload.length := by rw [data, Packet.bytes_length]
  have positive := List.length_pos_of_ne_nil some
  have fits := d.buf.fits
  have bounded := d.buf.bounded
  have size : ofBE (d.buf.data.take 4) = 8 + payload.length := by
    rw [data, Packet.bytes_size, ofBE_toBE]
    omega
  have type : getProtocol (BitVec.ofNat 32 (Compress.packetType d.buf.data) &&& 0xff) = Option.some p := by
    rw [data, packetType_bytes]
    cases p <;> rfl
  rw [decodePacket_run (by omega), type, size, length]

/-- The packet header without its flag is written to a new buffer before the
text. -/
theorem uncompress_text {packet text : Bytes} (flag : Compress.hasCompressFlag packet = true)
    (prefixed : ofBE (packet.take 4) = packet.length) (found : snappy.uncompress (packet.drop 8) = some text) :
    ∃ out : ByteBuf, out.Appendable ∧ out.len = defaultBufLen ∧
      out.data = toBE 4 (8 + text.length) ++ toBE 4 (Compress.packetType packet &&& 0xFFFF00FF) ∧
      Compress.uncompress snappy packet ByteBuf.fresh = Compress.orFalse (ByteBuf.writeToByteBuf text) out := by
  obtain ⟨one, first, still, wide, held⟩ := ByteBuf.fresh_appendable.within (toBE_four_ne_nil (8 + text.length)) (by
    rw [toBE_length]
    decide)
  obtain ⟨two, second, still', wide', held'⟩ :=
    still.within (toBE_four_ne_nil (Compress.packetType packet &&& 0xFFFF00FF)) (by
      rw [wide, held, ByteBuf.fresh_data, List.length_append, toBE_length, toBE_length]
      decide)
  refine ⟨two, still', wide'.trans wide, by rw [held', held, ByteBuf.fresh_data, List.nil_append], ?_⟩
  rw [Compress.uncompress, if_neg (by rw [flag]; decide), if_neg (fun wrong => wrong prefixed.symm),
    Compress.packetHeaderLen, found]
  simp only
  rw [Prog.bind_ok first, Prog.bind_ok second]

/-- A compressed packet becomes the packet it was made from, where that
fits. -/
theorem uncompress_cases {ctext payload : Bytes} (small : 8 + ctext.length < 2 ^ 31)
    (text : snappy.uncompress ctext = some payload) (some : payload ≠ []) :
    (8 + payload.length < ByteBuf.capacity ∧ ∃ out,
        Compress.uncompress snappy (Packet.bytes 1 p ctext) ByteBuf.fresh = (.ok true, out) ∧
        out.data = Packet.bytes 0 p payload) ∨
      (ByteBuf.capacity ≤ 8 + payload.length ∧ ∃ out,
        Compress.uncompress snappy (Packet.bytes 1 p ctext) ByteBuf.fresh = (.ok false, out)) := by
  have prefixed : ofBE ((Packet.bytes 1 p ctext).take 4) = (Packet.bytes 1 p ctext).length := by
    rw [Packet.bytes_length, Packet.bytes_size, ofBE_toBE]
    omega
  obtain ⟨out, still, wide, header, start⟩ := uncompress_text (hasCompressFlag_bytes p ctext).2 prefixed
    (by rw [Packet.bytes_drop, text])
  have type : toBE 4 (Compress.packetType (Packet.bytes 1 p ctext) &&& 0xFFFF00FF) =
      [0, 0, 0, UInt8.ofNat p.code.toNat] := by
    rw [packetType_bytes]
    cases p <;> decide
  have length : out.data.length = 8 := by rw [header, List.length_append, toBE_length, toBE_length]
  rw [start, Compress.orFalse]
  rcases still.write some with ⟨written, ran, _, data⟩ | ⟨ran, full⟩
  · refine Or.inl ⟨?_, written, by rw [ran], ?_⟩
    · have room := still.write_lt wide ran
      omega
    · rw [data, header, type, Packet.bytes, List.append_assoc]
  · exact Or.inr ⟨by omega, out, by rw [ran]⟩

/-- A frame on its way to the service frame in it: it is there in full, or
the packet that was compressed does not fit a buffer. -/
theorem decodeFrame_frame (ctx : Ctx) {enableCompress : Bool} {payload : Bytes} (undoes : snappy.Undoes)
    (some : payload ≠ []) (data : d.buf.data = Packet.frame snappy enableCompress p payload) :
    if Packet.Compressed enableCompress payload ∧ ByteBuf.capacity ≤ 8 + payload.length then
      decodeFrame snappy ctx d = (.ok (.error, none), d)
    else ∃ b, b.data = payload ∧ decodeFrame snappy ctx d = catching
      (decodeRest ctx p (8 + payload.length) (BitVec.ofNat 32 (8 + payload.length))) (.error, none)
        { d with buf := b } := by
  rw [Packet.frame] at data
  by_cases compressed : Packet.Compressed enableCompress payload
  · rw [if_pos compressed] at data
    have fits := d.buf.fits
    have bounded := d.buf.bounded
    have length : d.buf.data.length = 8 + (snappy.compress payload).length := by rw [data, Packet.bytes_length]
    have flag : Compress.hasCompressFlag d.buf.data = true := by rw [data, (hasCompressFlag_bytes p _).2]
    rcases uncompress_cases (p := p) (show 8 + (snappy.compress payload).length < 2 ^ 31 by omega)
      (undoes payload) some with ⟨room, out, ran, packet⟩ | ⟨full, out, ran⟩
    · rw [if_neg (fun wrong => absurd wrong.2 (by omega))]
      have inflated : inflate snappy d = (.ok true, { d with buf := out }) := by
        rw [inflate, if_pos flag, data, ran]
      have run : decodePacket ctx ⟨d.protos, out⟩ = _ := decodePacket_bytes some packet
      refine ⟨out.advance 8, by rw [ByteBuf.advance_data, packet, Packet.bytes_drop], ?_⟩
      rw [decodeFrame, catching, Prog.bind_ok inflated, if_pos rfl, run, catching]
    · rw [if_pos ⟨compressed, full⟩]
      have inflated : inflate snappy d = (.ok false, d) := by
        rw [inflate, if_pos flag, data, ran]
      rw [decodeFrame, catching, Prog.bind_ok inflated]
      rfl
  · rw [if_neg compressed] at data
    rw [if_neg (fun wrong => compressed wrong.1)]
    have inflated : inflate snappy d = (.ok true, d) := by
      rw [inflate, if_neg (by rw [data, (hasCompressFlag_bytes p payload).1]; decide)]
    refine ⟨d.buf.advance 8, by rw [ByteBuf.advance_data, data, Packet.bytes_drop], ?_⟩
    rw [decodeFrame, catching, Prog.bind_ok inflated, if_pos rfl, decodePacket_bytes some data, catching]

/-- A service frame that was read to its end has the length it should
have. -/
theorem decodeRest_done {d' : Desk} {msg : Message}
    (ran : decodeServiceFrame ctx p d = (.ok (.success, some msg), d')) (done : d'.buf.data = []) (n : Nat) :
    decodeRest ctx p n (BitVec.ofNat 32 n) d = (.ok (.success, some msg), d') := by
  rw [decodeRest, Prog.bind_ok ran]
  simp only
  rw [Prog.bind_ok (Prog.fetch_run _ _), ByteBuf.validReadLen, done, List.length_nil, Nat.sub_zero,
    if_neg (fun wrong => wrong.2 rfl)]
  rfl

theorem decodeRest_typed {m : Typed} (within : m.message.content.Within p.wire)
    (home : forwards ctx m.header = false) (data : d.buf.data = m.message.content.enc p.wire) (n : Nat) :
    ∃ d', decodeRest ctx p n (BitVec.ofNat 32 n) d = (.ok (.success, some m.message), d') := by
  obtain ⟨d', ran, done⟩ := decodeServiceFrame_typed within home data
  exact ⟨d', decodeRest_done ran done n⟩

theorem decodeRest_blind (n : Nat) (packetLen : BitVec 32) :
    Blind ByteBuf.Twin (decodeRest ctx p n packetLen) (fun r => ∀ msg, r.2 = some msg →
      msg.content.Within p.wire) := by
  refine (decodeServiceFrame_blind p).bind (fun result within => (Blind.fetch validReadLen_twin).bind
    (fun after _ => ?_))
  exact Blind.ite (fun _ => Blind.pure within) (fun _ => Blind.pure within)

end Coder

theorem Content.enc_ne_nil (w : Wire) (content : Content) : content.enc w ≠ [] := by
  cases content <;> simp [Content.enc, BaseHeader.enc, Ty.enc]

/-- What a job that does not look at the history returns. -/
theorem Blind.holds {α : Type} {m : Job α} {P : α → Prop} (blind : Blind ByteBuf.Twin m P) {d d' : Desk} {a : α}
    (settled : d.protos.Settled) (run : m d = (.ok a, d')) : P a := by
  rcases Prog.Couples.cases blind ⟨rfl, settled, settled⟩ with ⟨a, s, t, left, _, _, held⟩ | ⟨e, s, t, left, _, _⟩
  · rw [run] at left
    cases left
    exact held
  · rw [run] at left
    cases left

/-- A message that was sent is decoded when it is within the reader's limits
and the packet fits its buffer. -/
theorem decodeFrame_frame_iff {snappy : Snappy} {ctx : Ctx} {p : Proto} {d : Desk}
    {enableCompress : Bool} {m : Typed} (undoes : snappy.Undoes) (settled : d.protos.Settled)
    (home : Coder.forwards ctx m.header = false)
    (data : d.buf.data = Packet.frame snappy enableCompress p (m.message.content.enc p.wire)) :
    (Coder.decodeFrame snappy ctx d).1 = .ok (.success, some m.message) ↔ m.message.content.Within p.wire ∧
      (Packet.Compressed enableCompress (m.message.content.enc p.wire) →
        8 + (m.message.content.enc p.wire).length < ByteBuf.capacity) := by
  have decoded := Coder.decodeFrame_frame ctx undoes (Content.enc_ne_nil p.wire _) data
  split at decoded
  · rename_i full
    rw [decoded]
    refine ⟨fun wrong => (by cases wrong), fun holds => ?_⟩
    have room := holds.2 full.1
    omega
  · rename_i room
    obtain ⟨b, rest, run⟩ := decoded
    rw [run, catching]
    constructor
    · intro ran
      refine ⟨?_, fun compressed => ?_⟩
      · rcases result : Coder.decodeRest ctx p (8 + (m.message.content.enc p.wire).length)
            (BitVec.ofNat 32 (8 + (m.message.content.enc p.wire).length)) { d with buf := b } with ⟨_ | a, d'⟩
        · rw [result] at ran
          split at ran
          · cases ran
          · rename_i other same
            cases same
            cases ran
        · rw [result] at ran
          cases ran
          have within := (Coder.decodeRest_blind _ _).holds (d := { d with buf := b }) settled result
          exact within m.message rfl
      · by_contra full
        exact room ⟨compressed, by omega⟩
    · rintro ⟨within, _⟩
      obtain ⟨d', ran⟩ := Coder.decodeRest_typed (d := { d with buf := b }) within home rest _
      rw [ran]

end DbcNode
