import DbcNode.Coder.RoundTrip
import DbcNode.Thrift.Mixed

namespace DbcNode

/-- The classes that may be passed on carry a text, or a list of peers. -/
theorem forwardable_body {t : MsgType} (registered : t.Registered)
    (free : t.name ∉ Coder.legacyNoneForwardingMessages) : t.body = dataBody ∨ t.body = peerNodesBody := by
  have member := List.mem_of_find?_eq_some registered
  rcases List.mem_append.mp member with own | data
  · simp only [List.mem_cons, List.not_mem_nil, or_false] at own
    rcases own with rfl | rfl | rfl | rfl | rfl | rfl | rfl | rfl
    · exact absurd free (by decide)
    · exact absurd free (by decide)
    · exact absurd free (by decide)
    · exact absurd free (by decide)
    · exact absurd free (by decide)
    · exact absurd free (by decide)
    · exact Or.inr rfl
    · exact absurd free (by decide)
  · obtain ⟨name, _, rfl⟩ := List.mem_map.mp data
    exact Or.inl rfl

/-- A body in one format is not read in the other. -/
theorem readBody_foreign {t : MsgType} (registered : t.Registered)
    (free : t.name ∉ Coder.legacyNoneForwardingMessages) {p q : Proto} (differ : p ≠ q) (body : t.body.Val)
    (small : ((Ty.struct t.body).enc p.wire body).length < 2 ^ 24) (c : BitVec 16) :
    q.wire.Fails ((Ty.struct t.body).read q.protocol (Ty.struct t.body).init) c
      ((Ty.struct t.body).enc p.wire body) := by
  have kinds := forwardable_body registered free
  obtain ⟨name, fields⟩ := t
  dsimp only at kinds body small ⊢
  rcases kinds with rfl | rfl
  · cases p <;> cases q
    · exact (differ rfl).elim
    · refine Compact.string_foreign c body ?_
      obtain ⟨text, ⟨⟩⟩ := body
      simp only [dataBody, Ty.enc, Fields.enc, Proto.wire, Binary.wire, List.length_append] at small
      dsimp only
      omega
    · exact Binary.string_foreign c body
    · exact (differ rfl).elim
  · cases p <;> cases q
    · exact (differ rfl).elim
    · exact Compact.list_foreign c body
    · exact Binary.list_foreign c body
    · exact (differ rfl).elim

namespace Coder
variable {snappy : Snappy} {ctx : Ctx} {p : Proto} {d : Desk}

/-- The service frame of a message for another node: its body is kept as it
is. -/
theorem decodeServiceFrame_forward {header : BaseHeader} {body : Bytes}
    (within : BaseHeader.fields.Within p.wire header.toVal) (elsewhere : forwards ctx header = true)
    (some : body ≠ []) (room : body.length < ByteBuf.capacity) (data : d.buf.data = header.enc p.wire ++ body) :
    ∃ d', decodeServiceFrame ctx p d = (.ok (.success, Option.some ⟨binaryForwardMsg, .forward header body⟩), d') ∧
      d'.buf.data = [] := by
  obtain ⟨d', headerRan, left⟩ := onProto_parses (readHeader_parses within) data
  obtain ⟨kept, copied, _, held⟩ :=
    ByteBuf.fresh_appendable.fits some (by rwa [ByteBuf.fresh_data, List.length_nil, Nat.zero_add])
  obtain ⟨moved, move, rest⟩ := ByteBuf.moveReadPtr_run (Nat.le_refl d'.buf.data.length)
  have run : inBuf (ByteBuf.moveReadPtr d'.buf.validReadLen) d' = (.ok (), { d' with buf := moved }) := by
    rw [inBuf, ByteBuf.validReadLen, move]
  have forwarded : forwardRest header d' =
      (.ok ⟨binaryForwardMsg, .forward header body⟩, { d' with buf := moved }) := by
    rw [forwardRest, left, copied]
    simp only
    rw [Prog.bind_ok run, held, ByteBuf.fresh_data, List.nil_append]
    rfl
  refine ⟨{ d' with buf := moved }, ?_, by rw [rest, List.drop_length]⟩
  rw [decodeServiceFrame, Prog.bind_ok headerRan, if_pos elsewhere, Prog.bind_ok forwarded]
  rfl

/-- A service frame whose body is in another format than its header is not
decoded. -/
theorem decodeServiceFrame_foreign {m : Typed} {q : Proto} (differ : p ≠ q)
    (free : m.header.msgName ∉ legacyNoneForwardingMessages)
    (within : BaseHeader.fields.Within q.wire m.header.toVal) (home : forwards ctx m.header = false)
    (small : ((Ty.struct m.type.body).enc p.wire m.body).length < 2 ^ 24)
    (data : d.buf.data = m.header.enc q.wire ++ (Ty.struct m.type.body).enc p.wire m.body) :
    ∃ e d', decodeServiceFrame ctx q d = (.error e, d') := by
  obtain ⟨d', headerRan, left⟩ := onProto_parses (readHeader_parses within) data
  rw [m.named] at free
  obtain ⟨e, st, failed⟩ := readBody_foreign m.registered free differ m.body small _
    { d'.protos.get q with buf := d'.buf } [] rfl (left.trans (List.append_nil _).symm)
  have bodyRan : onProto q ((Ty.struct m.type.body).read q.protocol (Ty.struct m.type.body).init) d' =
      (.error e, ⟨d'.protos.set st q, st.buf⟩) := by rw [onProto, failed]
  have found : findInvoker m.header.msgName = some m.type := by
    rw [m.named]
    exact m.registered
  refine ⟨e, ⟨d'.protos.set st q, st.buf⟩, ?_⟩
  rw [decodeServiceFrame, Prog.bind_ok headerRan, if_neg (by rw [home]; decide), decodeInvoke_eq found,
    Prog.bind_error bodyRan]

end Coder

theorem Typed.forward_sendable (m : Typed) (p : Proto) :
    Message.Sendable ⟨binaryForwardMsg, .forward m.header ((Ty.struct m.type.body).enc p.wire m.body)⟩ := by
  simp [Message.Sendable, Ty.enc]

/-- What a message that arrives at its receiver weighs in any buffer. -/
theorem Receivable.small {snappy : Snappy} {enableCompress : Bool} {p : Proto} {content : Content}
    (receivable : Receivable snappy enableCompress p content) :
    8 + (content.enc p.wire).length < ByteBuf.capacity := by
  by_cases compressed : Packet.Compressed enableCompress (content.enc p.wire)
  · exact receivable.room compressed
  · have length := receivable.length.2
    rw [Packet.frame, if_neg compressed, Packet.bytes_length] at length
    exact length.trans_lt (by decide)

/-- A message that can be received can be sent. -/
theorem Receivable.sent {snappy : Snappy} {enableCompress : Bool} {p : Proto} {content : Content}
    (receivable : Receivable snappy enableCompress p content) :
    ¬ Unsent snappy enableCompress (content.enc p.wire) := by
  have small := receivable.small
  rintro (full | ⟨compressed, full⟩)
  · omega
  · have length := receivable.length
    rw [Packet.frame, if_pos compressed, Packet.bytes_length] at length
    have limit : 4194304 < ByteBuf.capacity := by decide
    rcases full with none | full
    · rw [none, List.length_nil] at length
      omega
    · omega

/-- The relay keeps the header and the bytes of the body. -/
theorem receive_forward {snappy : Snappy} {ctx : Ctx} (protos : Protos) {enableCompress : Bool}
    {p : Proto} {m : Typed} {chunks : List ByteBuf} (undoes : snappy.Undoes)
    (elsewhere : Coder.forwards ctx m.header = true)
    (receivable : Receivable snappy enableCompress p m.message.content)
    (arrives : chunks.flatMap (·.data) = Packet.frame snappy enableCompress p (m.message.content.enc p.wire)) :
    (receive snappy ctx chunks ⟨protos, []⟩).1 = .ok (.success, some ⟨binaryForwardMsg,
      .forward m.header ((Ty.struct m.type.body).enc p.wire m.body)⟩) := by
  have small := receivable.small
  have short := receivable.length.2
  have light : (Packet.frame snappy enableCompress p (m.message.content.enc p.wire)).length < 2 ^ 31 := by omega
  obtain ⟨prefixed, header⟩ := frame_prefixed light
  rcases receive_frame prefixed header arrives with ⟨_, buf, data, same⟩ | ⟨illegal, _⟩
  · have decoded := Coder.decodeFrame_frame (d := ⟨protos, buf⟩) ctx undoes (Content.enc_ne_nil p.wire _) data
    rw [if_neg (fun wrong => absurd wrong.2 (by omega))] at decoded
    obtain ⟨b, rest, run⟩ := decoded
    have body : (Ty.struct m.type.body).enc p.wire m.body ≠ [] := by simp [Ty.enc]
    have room : ((Ty.struct m.type.body).enc p.wire m.body).length < ByteBuf.capacity := by
      have whole : (m.message.content.enc p.wire).length = _ := List.length_append
      omega
    obtain ⟨d', ran, done⟩ :=
      Coder.decodeServiceFrame_forward (d := ⟨protos, b⟩) receivable.within.1 elsewhere body room rest
    rw [same, run, catching, Coder.decodeRest_done ran done]
  · exact (illegal receivable.length).elim

/-- A frame whose body is in another format than its header does not give
the message. -/
theorem receive_foreign {snappy : Snappy} {ctx : Ctx} {protos : Protos} {enableCompress : Bool}
    {p q : Proto} {m : Typed} {chunks : List ByteBuf} (undoes : snappy.Undoes) (settled : protos.Settled)
    (differ : p ≠ q) (free : m.header.msgName ∉ Coder.legacyNoneForwardingMessages)
    (home : ∀ dest ∈ m.header.exten "dest_id", ctx.localNodeId <:+: dest)
    (light : ((Ty.struct m.type.body).enc p.wire m.body).length < 2 ^ 24)
    (small : (Packet.frame snappy enableCompress q
      (m.header.enc q.wire ++ (Ty.struct m.type.body).enc p.wire m.body)).length < 2 ^ 31)
    (arrives : chunks.flatMap (·.data) = Packet.frame snappy enableCompress q
      (m.header.enc q.wire ++ (Ty.struct m.type.body).enc p.wire m.body)) :
    (receive snappy ctx chunks ⟨protos, []⟩).1 ≠ .ok (.success, some m.message) := by
  intro received
  obtain ⟨prefixed, header⟩ := frame_prefixed small
  rcases receive_frame prefixed header arrives with ⟨_, buf, data, same⟩ | ⟨_, same⟩
  · have some : m.header.enc q.wire ++ (Ty.struct m.type.body).enc p.wire m.body ≠ [] := by
      simp [BaseHeader.enc, Ty.enc]
    have decoded := Coder.decodeFrame_frame (d := ⟨protos, buf⟩) ctx undoes some data
    rw [same] at received
    split at decoded
    · rw [decoded] at received
      cases received
    · obtain ⟨b, rest, run⟩ := decoded
      rw [run, catching] at received
      rcases result : Coder.decodeRest ctx q _ _ ⟨protos, b⟩ with ⟨e | a, d'⟩
      · rw [result] at received
        split at received
        · cases received
        · rename_i other same
          cases same
          cases received
      · rw [result] at received
        cases received
        have within := (Coder.decodeRest_blind _ _).holds (d := ⟨protos, b⟩) settled result m.message rfl
        obtain ⟨e, d'', failed⟩ := Coder.decodeServiceFrame_foreign (d := ⟨protos, b⟩) differ free within.1
          (forwards_home home) light rest
        rw [Coder.decodeRest, Prog.bind_error failed] at result
        cases result
  · rw [same] at received
    cases received

theorem forwards_free {ctx : Ctx} {header : BaseHeader} (elsewhere : Coder.forwards ctx header = true) :
    header.msgName ∉ Coder.legacyNoneForwardingMessages := by
  rw [Coder.forwards, decide_eq_true_iff] at elsewhere
  exact elsewhere.2.1

/-- A message that is passed on arrives as it would have arrived directly,
exactly when both channels of the relay use one protocol and the frame that
leaves it has an allowed length. -/
theorem relay_transparent_iff {snappy : Snappy} {ctxA ctxIn ctxOut ctxC : Ctx} {m : Typed} {d d' out : Desk}
    {protosB protosC : Protos} {chunks : List ByteBuf} {q : Proto} (undoes : snappy.Undoes)
    (appendable : d.buf.Appendable) (empty : d.buf.data = [])
    (sent : Coder.encode snappy ctxA m.message d = (.ok .success, d'))
    (arrives : chunks.flatMap (·.data) = d'.buf.data) (elsewhere : Coder.forwards ctxIn m.header = true)
    (home : ∀ dest ∈ m.header.exten "dest_id", ctxC.localNodeId <:+: dest) (history : History snappy protosC)
    (direct : (receive snappy ctxC chunks ⟨protosC, []⟩).1 = .ok (.success, some m.message))
    (outgoing : getProtocol ctxOut.thriftProto = some q) (appendable' : out.buf.Appendable)
    (empty' : out.buf.data = []) :
    ∃ p msg, getProtocol ctxA.thriftProto = some p ∧
      (receive snappy ctxIn chunks ⟨protosB, []⟩).1 = .ok (.success, some msg) ∧
      ((∃ out', Coder.encode snappy ctxOut msg out = (.ok .success, out') ∧
          ∀ chunks' : List ByteBuf, chunks'.flatMap (·.data) = out'.buf.data →
            (receive snappy ctxC chunks' ⟨protosC, []⟩).1 = .ok (.success, some m.message)) ↔
        p = q ∧
          30 ≤ (Packet.frame snappy ctxOut.enableCompress q (m.message.content.enc q.wire)).length ∧
          (Packet.frame snappy ctxOut.enableCompress q (m.message.content.enc q.wire)).length ≤ 4194304) := by
  obtain ⟨p, negotiated, data⟩ := encode_success m.sendable appendable empty sent
  have fits := d'.buf.fits
  have bounded := d'.buf.bounded
  have light : (Packet.frame snappy ctxA.enableCompress p (m.message.content.enc p.wire)).length < 2 ^ 31 := by
    rw [← data]
    omega
  rw [data] at arrives
  have receivable := (receive_frame_iff undoes history.settled home light arrives).mp direct
  have small := receivable.small
  refine ⟨p, _, negotiated, receive_forward protosB undoes elsewhere receivable arrives, ?_⟩
  have sendable := m.forward_sendable p
  constructor
  · rintro ⟨out', relayed, all⟩
    obtain ⟨q', outgoing', data'⟩ := encode_success sendable appendable' empty' relayed
    obtain rfl : q = q' := Option.some.inj (outgoing.symm.trans outgoing')
    have fits' := out'.buf.fits
    have bounded' := out'.buf.bounded
    have light' : out'.buf.data.length < 2 ^ 31 := by omega
    have whole : [out'.buf].flatMap (·.data) = out'.buf.data := List.append_nil _
    have received := all [out'.buf] whole
    rw [data'] at light' whole
    by_cases same : p = q
    · subst same
      exact ⟨rfl, ((receive_frame_iff undoes history.settled home light' whole).mp received).length⟩
    · have weight : ((Ty.struct m.type.body).enc p.wire m.body).length < 2 ^ 24 := by
        have whole : (m.message.content.enc p.wire).length = _ := List.length_append
        unfold ByteBuf.capacity at small
        omega
      exact (receive_foreign undoes history.settled same (forwards_free elsewhere) home weight light' whole
        received).elim
  · rintro ⟨rfl, length⟩
    have again : Receivable snappy ctxOut.enableCompress p m.message.content :=
      ⟨length, receivable.within, fun _ => small⟩
    rcases encode_cases outgoing sendable appendable' empty' with ⟨out', relayed, data'⟩ | ⟨r, out', _, _, unsent⟩
    · refine ⟨out', relayed, fun chunks' arrives' => ?_⟩
      exact (receive_frame_iff undoes history.settled home (by omega) (arrives'.trans data')).mpr again
    · exact (again.sent unsent).elim

/-- A request for the images of node `c`. -/
def nodeListImagesReq : Typed where
  type := ⟨str "node_list_images_req", dataBody⟩
  header := ⟨0x12345678, str "node_list_images_req", none, none, none,
    some (OrdMap.empty.insert (str "dest_id") (str "c"))⟩
  body := (str "data", ())
  registered := rfl
  named := rfl

theorem nodeListImagesReq_within (p : Proto) : nodeListImagesReq.message.content.Within p.wire := by
  have name : (str "node_list_images_req").length ≤ maxStringLimit := by decide
  have data : (str "data").length ≤ maxStringLimit := by decide
  have map : (Ty.map .string).Within p.wire (OrdMap.empty.insert (str "dest_id") (str "c")) := by
    have entries : (OrdMap.empty.insert (str "dest_id") (str "c")).entries = [(str "dest_id", str "c")] := by decide
    simp only [Ty.Within]
    rw [entries]
    refine ⟨⟨by decide, by cases p <;> rfl⟩, fun entry member => ?_⟩
    rw [List.mem_singleton.mp member]
    decide
  refine ⟨⟨trivial, name, fun _ unset => (by cases unset), fun _ unset => (by cases unset),
    fun _ unset => (by cases unset),
    fun m set => ?_, trivial⟩, data, trivial⟩
  cases set
  exact map

theorem nodeListImagesReq_home :
    ∀ dest ∈ nodeListImagesReq.header.exten "dest_id", (Ctx.mk false 0 (str "c")).localNodeId <:+: dest := by
  decide

/-- Node `a` sends the request in the binary protocol, and node `c` could
read it. -/
theorem nodeListImagesReq_sent :
    ∃ d', Coder.encode ⟨id, some⟩ ⟨false, 0, str "a"⟩ nodeListImagesReq.message ⟨Protos.fresh, ByteBuf.fresh⟩ =
        (.ok .success, d') ∧
      d'.buf.data = Packet.frame ⟨id, some⟩ false .binary
        (nodeListImagesReq.message.content.enc Proto.binary.wire) ∧
      Receivable ⟨id, some⟩ false .binary nodeListImagesReq.message.content ∧
      (receive ⟨id, some⟩ ⟨false, 0, str "c"⟩ [d'.buf] ⟨Protos.fresh, []⟩).1 =
        .ok (.success, some nodeListImagesReq.message) := by
  have status :
    (Coder.encode ⟨id, some⟩ ⟨false, 0, str "a"⟩ nodeListImagesReq.message ⟨Protos.fresh, ByteBuf.fresh⟩).1 =
    .ok .success := by decide +kernel
  obtain ⟨d', sent⟩ := Prog.ends status
  obtain ⟨p, negotiated, data⟩ := encode_success nodeListImagesReq.sendable ByteBuf.fresh_appendable rfl sent
  obtain rfl : Proto.binary = p := Option.some.inj negotiated
  have receivable : Receivable ⟨id, some⟩ false .binary nodeListImagesReq.message.content :=
    ⟨by decide +kernel, nodeListImagesReq_within .binary, fun compressed => (Bool.false_ne_true compressed.1).elim⟩
  have undoes : Snappy.Undoes ⟨id, some⟩ := fun _ => rfl
  have whole : [d'.buf].flatMap (·.data) = d'.buf.data := List.append_nil _
  have received := (receive_frame_iff undoes Protos.fresh_settled nodeListImagesReq_home
    (receivable.length.2.trans_lt (by decide)) (whole.trans data)).mpr receivable
  exact ⟨d', sent, data, receivable, received⟩

theorem nodeListImagesReq_elsewhere : Coder.forwards ⟨false, 0, str "b"⟩ nodeListImagesReq.header = true := by
  decide

theorem relay_transparent_binary :
    ∃ d' msg out', Coder.encode ⟨id, some⟩ ⟨false, 0, str "a"⟩ nodeListImagesReq.message ⟨Protos.fresh,
      ByteBuf.fresh⟩ =
        (.ok .success, d') ∧
      (receive ⟨id, some⟩ ⟨false, 0, str "b"⟩ [d'.buf] ⟨Protos.fresh, []⟩).1 = .ok (.success, some msg) ∧
      Coder.encode ⟨id, some⟩ ⟨false, 0, str "b"⟩ msg ⟨Protos.fresh, ByteBuf.fresh⟩ = (.ok .success, out') ∧
      (receive ⟨id, some⟩ ⟨false, 0, str "c"⟩ [out'.buf] ⟨Protos.fresh, []⟩).1 =
        .ok (.success, some nodeListImagesReq.message) := by
  obtain ⟨d', sent, _, receivable, direct⟩ := nodeListImagesReq_sent
  have undoes : Snappy.Undoes ⟨id, some⟩ := fun _ => rfl
  have whole : [d'.buf].flatMap (·.data) = d'.buf.data := List.append_nil _
  have outgoing : getProtocol (Ctx.mk false 0 (str "b")).thriftProto = some .binary := rfl
  obtain ⟨p, msg, negotiated, relayed, iff⟩ := relay_transparent_iff undoes ByteBuf.fresh_appendable rfl sent whole
    nodeListImagesReq_elsewhere nodeListImagesReq_home History.fresh direct outgoing ByteBuf.fresh_appendable
    (show (Desk.mk Protos.fresh ByteBuf.fresh).buf.data = [] from rfl)
  obtain rfl : Proto.binary = p := Option.some.inj negotiated
  obtain ⟨out', reencoded, all⟩ := iff.mpr ⟨rfl, receivable.length⟩
  exact ⟨d', msg, out', sent, relayed, reencoded, all [out'.buf] (List.append_nil _)⟩

/-- Node `b` has the compact protocol on its channel to node `c`. The body
stays in the binary one, and node `c` does not get the request. -/
theorem relay_to_compact_fails :
    ∃ d' msg out', Coder.encode ⟨id, some⟩ ⟨false, 0, str "a"⟩ nodeListImagesReq.message ⟨Protos.fresh,
      ByteBuf.fresh⟩ =
        (.ok .success, d') ∧
      (receive ⟨id, some⟩ ⟨false, 0, str "c"⟩ [d'.buf] ⟨Protos.fresh, []⟩).1 =
        .ok (.success, some nodeListImagesReq.message) ∧
      (receive ⟨id, some⟩ ⟨false, 0, str "b"⟩ [d'.buf] ⟨Protos.fresh, []⟩).1 = .ok (.success, some msg) ∧
      Coder.encode ⟨id, some⟩ ⟨false, 1, str "b"⟩ msg ⟨Protos.fresh, ByteBuf.fresh⟩ = (.ok .success, out') ∧
      (receive ⟨id, some⟩ ⟨false, 0, str "c"⟩ [out'.buf] ⟨Protos.fresh, []⟩).1 ≠
        .ok (.success, some nodeListImagesReq.message) := by
  obtain ⟨d', sent, data, receivable, direct⟩ := nodeListImagesReq_sent
  have undoes : Snappy.Undoes ⟨id, some⟩ := fun _ => rfl
  have whole : [d'.buf].flatMap (·.data) = d'.buf.data := List.append_nil _
  have relayed := receive_forward Protos.fresh undoes nodeListImagesReq_elsewhere receivable (whole.trans data)
  have status : (Coder.encode ⟨id, some⟩ ⟨false, 1, str "b"⟩ ⟨binaryForwardMsg, .forward nodeListImagesReq.header
      ((Ty.struct nodeListImagesReq.type.body).enc Proto.binary.wire nodeListImagesReq.body)⟩
      ⟨Protos.fresh, ByteBuf.fresh⟩).1 = .ok .success := by decide +kernel
  obtain ⟨out', reencoded⟩ := Prog.ends status
  obtain ⟨q, outgoing, data'⟩ :=
    encode_success (nodeListImagesReq.forward_sendable .binary) ByteBuf.fresh_appendable rfl reencoded
  obtain rfl : Proto.compact = q := Option.some.inj outgoing
  have whole' : [out'.buf].flatMap (·.data) = out'.buf.data := List.append_nil _
  refine ⟨d', _, out', sent, direct, relayed, reencoded, ?_⟩
  exact receive_foreign undoes Protos.fresh_settled (by decide) (forwards_free nodeListImagesReq_elsewhere)
    nodeListImagesReq_home (by decide +kernel) (by decide +kernel) (whole'.trans data')

end DbcNode
