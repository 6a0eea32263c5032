import DbcNode.Coder.Coder
import DbcNode.Thrift.CompactRead

namespace DbcNode

namespace Proto

def wire : Proto → Wire
  | .binary => Binary.wire
  | .compact => Compact.wire

/-- The packet type that stands for the protocol. -/
def code : Proto → BitVec 32
  | .binary => 0
  | .compact => 1

theorem writes : (p : Proto) → p.protocol.Writes p.wire
  | .binary => Binary.writes
  | .compact => Compact.writes

theorem reads : (p : Proto) → p.protocol.Reads p.wire
  | .binary => Binary.reads
  | .compact => Compact.reads

end Proto

theorem getProtocol_eq {type : BitVec 32} {p : Proto} (found : getProtocol type = some p) : type = p.code := by
  rw [getProtocol] at found
  split at found
  · rename_i zero
    cases found
    exact zero
  · split at found
    · rename_i one
      cases found
      exact one
    · cases found

def BaseHeader.enc (w : Wire) (h : BaseHeader) : Bytes := (Ty.struct fields).enc w h.toVal

/-- What follows the packet header on the wire. -/
def Content.enc (w : Wire) : Content → Bytes
  | .typed t _ header body => header.enc w ++ (Ty.struct t.body).enc w body
  | .forward header body => header.enc w ++ body

namespace Packet

/-- The packet header with its length, its flag byte and its protocol, then
the rest. -/
def bytes (flag : UInt8) (p : Proto) (rest : Bytes) : Bytes :=
  toBE 4 (8 + rest.length) ++ ([0, 0, flag, UInt8.ofNat p.code.toNat] ++ rest)

/-- A packet is compressed when that is enabled and it is long enough. -/
def Compressed (enableCompress : Bool) (payload : Bytes) : Prop :=
  enableCompress = true ∧ Compress.minMsgLenToCompress ≤ 8 + payload.length

instance (enableCompress : Bool) (payload : Bytes) : Decidable (Compressed enableCompress payload) :=
  inferInstanceAs (Decidable (_ ∧ _))

/-- What goes to the socket for this payload. -/
def frame (snappy : Snappy) (enableCompress : Bool) (p : Proto) (payload : Bytes) : Bytes :=
  if Compressed enableCompress payload then bytes 1 p (snappy.compress payload) else bytes 0 p payload

theorem bytes_length (flag : UInt8) (p : Proto) (rest : Bytes) : (bytes flag p rest).length = 8 + rest.length := by
  simp only [bytes, List.length_append, toBE_length, List.length_cons, List.length_nil]
  omega

theorem bytes_drop (flag : UInt8) (p : Proto) (rest : Bytes) : (bytes flag p rest).drop 8 = rest := by
  rw [bytes, ← List.append_assoc]
  exact List.drop_left' (by rw [List.length_append, toBE_length]; rfl)

theorem bytes_size (flag : UInt8) (p : Proto) (rest : Bytes) :
    (bytes flag p rest).take 4 = toBE 4 (8 + rest.length) := by
  have header := toBE_length 4 (8 + rest.length)
  rw [bytes, List.take_append_of_le_length (by omega), List.take_of_length_le (by omega)]

theorem bytes_word (flag : UInt8) (p : Proto) (rest : Bytes) :
    ((bytes flag p rest).drop 4).take 4 = [0, 0, flag, UInt8.ofNat p.code.toNat] := by
  have header := toBE_length 4 (8 + rest.length)
  rw [bytes, List.drop_append_of_le_length (by omega), List.drop_of_length_le (by omega)]
  rfl

end Packet

/-- The job appends exactly these bytes to a buffer that is only appended
to, or throws because they do not fit. -/
def Appends {α : Type} (m : Job α) (a : α) (bytes : Bytes) : Prop :=
  ∀ d, d.buf.Appendable →
    (∃ d', m d = (.ok a, d') ∧ d'.buf.Appendable ∧ d'.buf.data = d.buf.data ++ bytes) ∨
      (∃ e d', m d = (.error (.thrown e), d') ∧ ByteBuf.capacity ≤ d.buf.data.length + bytes.length)

namespace Appends

theorem pure {α : Type} (a : α) : Appends (Pure.pure a) a [] :=
  fun d appendable => Or.inl ⟨d, rfl, appendable, by rw [List.append_nil]⟩

theorem bind {α : Type} {m : Job Unit} {n : Job α} {a : α} {bytes more : Bytes}
    (first : Appends m () bytes) (second : Appends n a more) : Appends (m >>= fun _ => n) a (bytes ++ more) := by
  intro d appendable
  rcases first d appendable with ⟨d', ran, still, data⟩ | ⟨e, d', ran, full⟩
  · rw [Prog.bind_ok ran]
    rcases second d' still with ⟨d'', ran', still', data'⟩ | ⟨e, d'', ran', full⟩
    · exact Or.inl ⟨d'', ran', still', by rw [data', data, List.append_assoc]⟩
    · refine Or.inr ⟨e, d'', ran', ?_⟩
      rw [data] at full
      simp only [List.length_append] at full ⊢
      omega
  · refine Or.inr ⟨e, d', Prog.bind_error ran, ?_⟩
    rw [List.length_append]
    omega

theorem onProto {p : Proto} {m : Call Unit} {bytes : Bytes} (emits : ∀ c, p.wire.Emits m c c bytes) :
    Appends (DbcNode.onProto p m) () bytes := by
  intro d appendable
  rw [DbcNode.onProto]
  rcases emits _ { d.protos.get p with buf := d.buf } appendable rfl with ⟨st, ran, wrote, _⟩ | ⟨e, st, ran, full⟩
  · rw [ran]
    exact Or.inl ⟨_, rfl, wrote.appendable, wrote.data⟩
  · rw [ran]
    exact Or.inr ⟨e, _, rfl, full⟩

theorem inBuf {bytes : Bytes} (some : bytes ≠ []) :
    Appends (DbcNode.inBuf (ByteBuf.writeToByteBuf bytes)) () bytes := by
  intro d appendable
  rw [DbcNode.inBuf]
  rcases appendable.write some with ⟨written, ran, still, data⟩ | ⟨ran, full⟩
  · rw [ran]
    exact Or.inl ⟨_, rfl, still, data⟩
  · rw [ran]
    exact Or.inr ⟨_, _, rfl, full⟩

end Appends

/-- The coder can write the message: its name is that of its class, or it
has a body to pass on. -/
def Message.Sendable (msg : Message) : Prop :=
  match msg.content with
  | .typed t _ _ _ => msg.name = t.name
  | .forward _ body => body ≠ []

theorem Typed.sendable (m : Typed) : m.message.Sendable := rfl

theorem encodeContent_appends {p : Proto} {msg : Message} (sendable : msg.Sendable) :
    Appends (Coder.encodeContent p msg) true (msg.content.enc p.wire) := by
  obtain ⟨name, content⟩ := msg
  have header : ∀ h : BaseHeader, Appends (onProto p (h.write p.protocol)) () (h.enc p.wire) := fun h =>
    Appends.onProto (fun c => p.writes.ty (.struct BaseHeader.fields) c h.toVal)
  cases content with
  | typed t registered h body =>
    obtain rfl : name = t.name := sendable
    have content : Appends (onProto p ((Ty.struct t.body).write p.protocol body)) ()
      ((Ty.struct t.body).enc p.wire body) :=
      Appends.onProto (fun c => p.writes.ty (.struct t.body) c body)
    have found : findInvoker t.name = some t := registered
    simp only [Coder.encodeContent, found, ne_eq, not_true_eq_false, if_false]
    have whole := (header h).bind (content.bind (Appends.pure true))
    rwa [List.append_nil] at whole
  | forward h body =>
    have content : Appends (onProto p (put body)) () body := Appends.onProto (fun _ => Wire.Emits.put sendable)
    simp only [Coder.encodeContent]
    have whole := (header h).bind (content.bind (Appends.pure true))
    rwa [List.append_nil] at whole

theorem inBuf_bind {α β : Type} (m : Prog Exn ByteBuf α) (f : α → Prog Exn ByteBuf β) :
    inBuf (m >>= f) = inBuf m >>= fun a => inBuf (f a) := by
  funext d
  rcases ran : m d.buf with ⟨e | a, buf⟩
  · have left : inBuf m d = (.error e, { d with buf }) := by rw [inBuf, ran]
    rw [Prog.bind_error left, inBuf, Prog.bind_error ran]
  · have left : inBuf m d = (.ok a, { d with buf }) := by rw [inBuf, ran]
    rw [Prog.bind_ok left, inBuf, Prog.bind_ok ran, inBuf]

/-- The packet header is written over the space left for it. -/
theorem update_run {p : Proto} {b : ByteBuf} {payload : Bytes} (appendable : b.Appendable)
    (data : b.data = toBE 4 0 ++ (toBE 4 0 ++ payload)) :
    ∃ b', PacketHeader.update (BitVec.ofNat 32 b.data.length) p.code b = (.ok true, b') ∧ b'.Appendable ∧
      b'.data = Packet.bytes 0 p payload := by
  refine ⟨b.patch (toBE 4 (BitVec.ofNat 32 b.data.length).toNat ++ toBE 4 p.code.toNat), ?_,
    ⟨appendable.auto, appendable.start, appendable.doubled⟩, ?_⟩
  · rw [PacketHeader.update, if_neg (fun wrong => wrong.1 rfl)]
  · have length : b.data.length = 8 + payload.length := by
      rw [data, List.length_append, List.length_append, toBE_length]
      omega
    have fits := b.fits
    have bounded := b.bounded
    have small := (toInt_ofNat_small (show b.data.length < 2 ^ 31 by omega)).2
    have header : (toBE 4 (BitVec.ofNat 32 b.data.length).toNat ++ toBE 4 p.code.toNat).length = 8 := by
      rw [List.length_append, toBE_length, toBE_length]
    have type : toBE 4 p.code.toNat = [0, 0, 0, UInt8.ofNat p.code.toNat] := by cases p <;> decide
    have rest : b.data.drop 8 = payload := by
      rw [data, ← List.append_assoc]
      exact List.drop_left' (by rw [List.length_append, toBE_length])
    change _ ++ b.data.drop _ = _
    rw [header, rest, List.take_of_length_le (by omega), small, length, type, Packet.bytes, List.append_assoc]

/-- A write that certainly fits. -/
theorem ByteBuf.Appendable.fits {b : ByteBuf} {bytes : Bytes} (appendable : b.Appendable) (some : bytes ≠ [])
    (room : b.data.length + bytes.length < ByteBuf.capacity) :
    ∃ written, ByteBuf.writeToByteBuf bytes b = (.ok (), written) ∧ written.Appendable ∧
      written.data = b.data ++ bytes := by
  rcases appendable.write some with written | ⟨_, full⟩
  · exact written
  · omega

theorem toBE_four_ne_nil (n : Nat) : toBE 4 n ≠ [] := Binary.toBE_ne_nil 3 n

/-- The flag is set and the rest of the packet is compressed, or there was
no room for the text. -/
theorem compress_cases (snappy : Snappy) {p : Proto} {b : ByteBuf} {payload : Bytes} (appendable : b.Appendable)
    (data : b.data = Packet.bytes 0 p payload) :
    (∃ b', Compress.compress snappy b = (.ok true, b') ∧ b'.Appendable ∧
        b'.data = Packet.bytes 1 p (snappy.compress payload)) ∨
      (∃ r b', Compress.compress snappy b = (r, b') ∧ (r = .ok false ∨ r = .error .asserted) ∧
        (snappy.compress payload = [] ∨ ByteBuf.capacity ≤ 8 + (snappy.compress payload).length)) := by
  obtain ⟨ctext, text⟩ : ∃ ctext, ctext = snappy.compress payload := ⟨_, rfl⟩
  obtain ⟨one, first, still, held⟩ := appendable.reset.fits (toBE_four_ne_nil (8 + ctext.length)) (by
    rw [ByteBuf.reset_data, toBE_length]
    decide)
  obtain ⟨two, second, still', held'⟩ := still.fits (show [0, 0, 1, UInt8.ofNat p.code.toNat] ≠ [] by simp) (by
    rw [held, ByteBuf.reset_data, List.length_append, toBE_length]
    exact (by decide : 0 + 4 + 4 < ByteBuf.capacity))
  have start : Compress.compress snappy b = Compress.orFalse (do
      ByteBuf.writeToByteBuf (toBE 4 (8 + ctext.length))
      ByteBuf.writeToByteBuf [0, 0, 1, UInt8.ofNat p.code.toNat]
      ByteBuf.writeToByteBuf ctext) b.reset := by
    rw [Compress.compress, Prog.bind_ok (Prog.fetch_run _ _), Prog.bind_ok (Prog.update_run _ _), data,
      Compress.packetHeaderLen, Packet.bytes_drop, Packet.bytes_word, ← text]
    rfl
  have header : two.data = toBE 4 (8 + ctext.length) ++ [0, 0, 1, UInt8.ofNat p.code.toNat] := by
    rw [held', held, ByteBuf.reset_data, List.nil_append]
  rw [start, Compress.orFalse, Prog.bind_ok first, Prog.bind_ok second, ← text]
  by_cases empty : ctext = []
  · refine Or.inr ⟨.error .asserted, two, ?_, Or.inr rfl, Or.inl empty⟩
    rw [empty, ByteBuf.writeToByteBuf, if_pos rfl]
  · rcases still'.write empty with ⟨three, third, still'', held''⟩ | ⟨third, full⟩
    · refine Or.inl ⟨three, by rw [third], still'', ?_⟩
      rw [held'', header, Packet.bytes, List.append_assoc]
    · refine Or.inr ⟨.ok false, two, by rw [third], Or.inl rfl, Or.inr ?_⟩
      rw [header, List.length_append, toBE_length] at full
      exact full

/-- Why a message that the coder can write is not sent: it does not fit the
buffer, or its compressed text does not, or that is empty. -/
def Unsent (snappy : Snappy) (enableCompress : Bool) (payload : Bytes) : Prop :=
  ByteBuf.capacity ≤ 8 + payload.length ∨ Packet.Compressed enableCompress payload ∧
    (snappy.compress payload = [] ∨ ByteBuf.capacity ≤ 8 + (snappy.compress payload).length)

/-- What `encode` does when the message stands behind eight zero bytes. -/
def Coder.closePacket (snappy : Snappy) (ctx : Ctx) (p : Proto) : Job EncodeStatus := do
  let packetLen ← Prog.fetch (fun d => BitVec.ofNat 32 d.buf.validReadLen)
  if ← inBuf (PacketHeader.update packetLen p.code) then
    if ctx.enableCompress ∧ packetLen.toInt ≥ Compress.minMsgLenToCompress then
      if ← inBuf (Compress.compress snappy) then return .success else return .error
    else return .success
  else return .error

theorem encode_start {snappy : Snappy} {ctx : Ctx} {p : Proto} {msg : Message} {d : Desk}
    (negotiated : getProtocol ctx.thriftProto = some p) :
    Coder.encode snappy ctx msg d = catching ((do
      inBuf (ByteBuf.writeToByteBuf (toBE 4 0))
      inBuf (ByteBuf.writeToByteBuf (toBE 4 0))
      Coder.encodeContent p msg) >>= fun sent =>
        if sent then Coder.closePacket snappy ctx p else return .error) .error d := by
  have type : ctx.thriftProto = p.code := getProtocol_eq negotiated
  rw [Coder.encode, negotiated, PacketHeader.write, inBuf_bind]
  simp only [bind_assoc, Coder.encodePacket, Coder.closePacket, type]
  rfl

/-- The packet gets its length and its type, and is compressed or not. -/
theorem closePacket_cases {snappy : Snappy} {ctx : Ctx} {p : Proto} {payload : Bytes} {d : Desk}
    (appendable : d.buf.Appendable) (data : d.buf.data = toBE 4 0 ++ (toBE 4 0 ++ payload)) :
    (∃ d', Coder.closePacket snappy ctx p d = (.ok .success, d') ∧
        d'.buf.data = Packet.frame snappy ctx.enableCompress p payload) ∨
      (∃ r d', Coder.closePacket snappy ctx p d = (r, d') ∧ (r = .ok .error ∨ r = .error .asserted) ∧
        Unsent snappy ctx.enableCompress payload) := by
  have length : d.buf.data.length = 8 + payload.length := by
    rw [data, List.length_append, List.length_append, toBE_length]
    omega
  have fits := d.buf.fits
  have bounded := d.buf.bounded
  have small := (toInt_ofNat_small (show d.buf.data.length < 2 ^ 31 by omega)).1
  obtain ⟨b, updated, still, packet⟩ := update_run (p := p) appendable data
  have update : inBuf (PacketHeader.update (BitVec.ofNat 32 d.buf.data.length) p.code) d =
      (.ok true, { d with buf := b }) := by rw [inBuf, updated]
  have long : (ctx.enableCompress = true ∧
      (BitVec.ofNat 32 d.buf.data.length).toInt ≥ Compress.minMsgLenToCompress) ↔
        Packet.Compressed ctx.enableCompress payload := by
    refine and_congr_right fun _ => ?_
    rw [small, length]
    omega
  rw [Coder.closePacket, Prog.bind_ok (Prog.fetch_run _ _), ByteBuf.validReadLen, Prog.bind_ok update, if_pos rfl]
  by_cases compressed : Packet.Compressed ctx.enableCompress payload
  · rw [if_pos (long.mpr compressed)]
    rcases compress_cases snappy still packet with ⟨b', ran, _, text⟩ | ⟨r, b', ran, cause, why⟩
    · have run : inBuf (Compress.compress snappy) { d with buf := b } = (.ok true, { d with buf := b' }) := by
        rw [inBuf, ran]
      rw [Prog.bind_ok run, Packet.frame, if_pos compressed]
      exact Or.inl ⟨_, rfl, text⟩
    · have run : inBuf (Compress.compress snappy) { d with buf := b } = (r, { d with buf := b' }) := by
        rw [inBuf, ran]
      rcases cause with rfl | rfl
      · rw [Prog.bind_ok run]
        exact Or.inr ⟨_, _, rfl, Or.inl rfl, Or.inr ⟨compressed, why⟩⟩
      · rw [Prog.bind_error run]
        exact Or.inr ⟨_, _, rfl, Or.inr rfl, Or.inr ⟨compressed, why⟩⟩
  · rw [if_neg (long.not.mpr compressed), Packet.frame, if_neg compressed]
    exact Or.inl ⟨_, rfl, packet⟩

/-- `encode` on an empty buffer sends the frame of the message, unless the
message does not fit. -/
theorem encode_cases {snappy : Snappy} {ctx : Ctx} {p : Proto} {msg : Message} {d : Desk}
    (negotiated : getProtocol ctx.thriftProto = some p) (sendable : msg.Sendable) (appendable : d.buf.Appendable)
    (empty : d.buf.data = []) :
    (∃ d', Coder.encode snappy ctx msg d = (.ok .success, d') ∧
        d'.buf.data = Packet.frame snappy ctx.enableCompress p (msg.content.enc p.wire)) ∨
      (∃ r d', Coder.encode snappy ctx msg d = (r, d') ∧ (r = .ok .error ∨ r = .error .asserted) ∧
        Unsent snappy ctx.enableCompress (msg.content.enc p.wire)) := by
  have written := (Appends.inBuf (toBE_four_ne_nil 0)).bind
    ((Appends.inBuf (toBE_four_ne_nil 0)).bind (encodeContent_appends (p := p) sendable))
  rw [encode_start negotiated, catching]
  rcases written d appendable with ⟨d', ran, still, data⟩ | ⟨e, d', ran, full⟩
  · rw [empty, List.nil_append] at data
    rw [Prog.bind_ok ran, if_pos rfl]
    rcases closePacket_cases still data with ⟨sent, closed, packet⟩ | ⟨r, left, closed, cause, why⟩
    · exact Or.inl ⟨sent, by rw [closed], packet⟩
    · rcases cause with rfl | rfl
      · exact Or.inr ⟨_, left, by rw [closed], Or.inl rfl, why⟩
      · exact Or.inr ⟨_, left, by rw [closed], Or.inr rfl, why⟩
  · rw [Prog.bind_error ran]
    refine Or.inr ⟨_, _, rfl, Or.inl rfl, Or.inl ?_⟩
    rw [empty, List.length_append, List.length_append, toBE_length] at full
    simp only [List.length_nil] at full
    omega

/-- What a message was sent as. -/
theorem encode_success {snappy : Snappy} {ctx : Ctx} {msg : Message} {d d' : Desk} (sendable : msg.Sendable)
    (appendable : d.buf.Appendable) (empty : d.buf.data = [])
    (sent : Coder.encode snappy ctx msg d = (.ok .success, d')) :
    ∃ p, getProtocol ctx.thriftProto = some p ∧
      d'.buf.data = Packet.frame snappy ctx.enableCompress p (msg.content.enc p.wire) := by
  cases negotiated : getProtocol ctx.thriftProto with
  | none =>
    have written := (Appends.inBuf (toBE_four_ne_nil 0)).bind (Appends.inBuf (toBE_four_ne_nil 0))
    have start : Coder.encode snappy ctx msg d = catching ((do
        inBuf (ByteBuf.writeToByteBuf (toBE 4 0))
        inBuf (ByteBuf.writeToByteBuf (toBE 4 0))) >>= fun _ => return .error) .error d := by
      rw [Coder.encode, negotiated, PacketHeader.write, inBuf_bind]
      rfl
    rcases written d appendable with ⟨d'', ran, _⟩ | ⟨e, d'', ran, _⟩
    · rw [catching, Prog.bind_ok ran, sent] at start
      cases start
    · rw [catching, Prog.bind_error ran, sent] at start
      cases start
  | some p =>
    refine ⟨p, rfl, ?_⟩
    rcases encode_cases negotiated sendable appendable empty with ⟨d'', ran, data⟩ | ⟨r, d'', ran, failed, _⟩
    · rw [ran] at sent
      cases sent
      exact data
    · rw [ran] at sent
      cases sent
      rcases failed with failed | failed <;> cases failed

end DbcNode
