import DbcNode.Message
import DbcNode.Thrift.Binary
import DbcNode.Thrift.CompactRead

namespace DbcNode

namespace Wire
variable {w : Wire} {α β : Type} {c c' : BitVec 16} {bytes more : Bytes}

/-- Where these bytes are next in the buffer, the call does not return. -/
def Fails (w : Wire) (m : Call α) (c : BitVec 16) (bytes : Bytes) : Prop :=
  ∀ st rest, w.cursor st = c → st.buf.data = bytes ++ rest → ∃ e st', m st = (.error e, st')

theorem Fails.throwing (e : Exn) : w.Fails (Prog.throwing e : Call α) c bytes :=
  fun st _ _ _ => ⟨.thrown e, st, rfl⟩

theorem Fails.append {m : Call α} (fails : w.Fails m c bytes) (more : Bytes) : w.Fails m c (bytes ++ more) :=
  fun st rest placed holds => fails st (more ++ rest) placed (by rw [holds, List.append_assoc])

theorem Fails.bind {m : Call α} (fails : w.Fails m c bytes) (f : α → Call β) : w.Fails (m >>= f) c bytes := by
  intro st rest placed holds
  obtain ⟨e, st', ran⟩ := fails st rest placed holds
  exact ⟨e, st', Prog.bind_error ran⟩

theorem Parses.fails {m : Call α} {f : α → Call β} {x : α} (first : w.Parses m c c' bytes x)
    (second : w.Fails (f x) c' more) : w.Fails (m >>= f) c (bytes ++ more) := by
  intro st rest placed holds
  obtain ⟨st', ran, consumed, there⟩ := first st (more ++ rest) placed (by rw [holds, List.append_assoc])
  have left : st'.buf.data = more ++ rest := by
    rw [consumed.buf, ByteBuf.advance_data, holds, List.append_assoc, List.drop_left]
  obtain ⟨e, st'', ran'⟩ := second st' rest there left
  exact ⟨e, st'', (Prog.bind_ok ran).trans ran'⟩

end Wire

/-- A class whose first round fails is not read. -/
theorem Wire.Fails.struct {w : Wire} {p : Protocol} {fs : Fields} {x : (Ty.struct fs).Val} {c : BitVec 16}
    {bytes : Bytes} (start : ∀ st, ∃ st', p.readStructBegin st = (.ok (), st') ∧ w.cursor st' = 0 ∧
      st'.buf = st.buf) (round : ∀ draft, w.Fails (fs.round p draft) 0 bytes) :
    w.Fails ((Ty.struct fs).read p x) c bytes := by
  have loop : w.Fails (do Prog.loop (← remaining) (fs.round p) (fs.open x)) 0 bytes := by
    intro st rest placed holds
    obtain ⟨e, st', ran⟩ := round (fs.open x) st rest placed holds
    refine ⟨e, st', ?_⟩
    rw [remaining, Prog.bind_ok (Prog.fetch_run _ _), Prog.loop, Prog.bind_error ran]
  rw [Ty.read_struct]
  refine Wire.Fails.bind (fun st rest _ holds => ?_) fs.close
  obtain ⟨st', began, placed, same⟩ := start st
  obtain ⟨e, st'', ran⟩ := loop st' rest placed (by rw [same, holds])
  exact ⟨e, st'', (Prog.bind_ok began).trans (Prog.bind_error ran)⟩

/-- A type that `skip` has no case for. -/
theorem skip_fails {w : Wire} {p : Protocol} {c : BitVec 16} {bytes : Bytes} {type : TType}
    (unknown : ∀ depth, skipWithin p (depth + 1) type = Prog.throwing .invalidArgument) :
    w.Fails (skip p type) c bytes := by
  intro st rest _ _
  refine ⟨.thrown .invalidArgument, st, ?_⟩
  rw [skip, remaining, Prog.bind_ok (Prog.fetch_run _ _), unknown]
  rfl

/-- A class whose first field has no type that any member has is skipped
over. -/
theorem readField_fails {w : Wire} {p : Protocol} {c : BitVec 16} {bytes : Bytes} {type : TType} {fid : BitVec 16}
    (skipped : w.Fails (skip p type) c bytes) : (fs : Fields) → (draft : fs.Draft) →
      (∀ t : Ty, type ≠ t.ttype) → w.Fails (fs.readField p type fid draft) c bytes
  | .nil, _, _ => skipped
  | .required id t rest, ((x, isset), xs), other => by
    rw [Fields.readField]
    split
    · rw [if_neg (other t)]
      exact skipped.bind _
    · exact (readField_fails skipped rest xs other).bind _
  | .optional id t rest, (x, xs), other => by
    rw [Fields.readField]
    split
    · rw [if_neg (other t)]
      exact skipped.bind _
    · exact (readField_fails skipped rest xs other).bind _

namespace Binary

/-- The first byte of a class in the compact format is a field type that the
binary protocol does not know. -/
theorem readField_foreign {b : UInt8}
    (unknown : ∀ depth, skipWithin protocol (depth + 1) b = Prog.throwing .invalidArgument)
    (other : ∀ t : Ty, b ≠ t.ttype) (named : b ≠ tStop) {fs : Fields} {x : (Ty.struct fs).Val} {c : BitVec 16}
    {rest : Bytes} (more : 2 ≤ rest.length) : wire.Fails ((Ty.struct fs).read protocol x) c (b :: rest) := by
  obtain ⟨b1, b2, rest, rfl⟩ : ∃ b1 b2 rest', rest = b1 :: b2 :: rest' := by
    match rest, more with
    | b1 :: b2 :: rest', _ => exact ⟨b1, b2, rest', rfl⟩
  refine Wire.Fails.struct (fun st => ⟨st, rfl, rfl, rfl⟩) (fun draft => ?_)
  have id : wire.Parses readI16 0 0 [b1, b2] (BitVec.ofNat 16 (ofBE [b1, b2])) :=
    Wire.Parses.map (fun bytes => BitVec.ofNat 16 (ofBE bytes)) Wire.Parses.take
  have header : wire.Parses readFieldBegin 0 0 ([b] ++ [b1, b2]) (b, BitVec.ofNat 16 (ofBE [b1, b2])) := by
    refine (readByte_parses 0 b).bind ?_
    rw [if_neg named]
    exact id.map (fun fid => (b, fid))
  have round : wire.Fails (fs.round protocol draft) 0 (([b] ++ [b1, b2]) ++ []) := by
    refine header.fails ?_
    dsimp only
    rw [if_neg named]
    exact (readField_fails (skip_fails unknown) fs draft other).bind _
  exact round.append rest

theorem string_foreign (c : BitVec 16) (x : dataBody.Val) :
    wire.Fails ((Ty.struct dataBody).read protocol (Ty.struct dataBody).init) c
      ((Ty.struct dataBody).enc Compact.wire x) := by
  have header : (Ty.struct dataBody).enc Compact.wire x =
      0x18 :: (varint 5 (BitVec.ofNat 32 x.1.length).toNat ++ (x.1 ++ [tStop])) := by
    obtain ⟨text, ⟨⟩⟩ := x
    simp only [dataBody, Ty.enc, Fields.enc, Compact.wire, List.append_nil, List.append_assoc]
    rfl
  rw [header]
  refine readField_foreign (fun _ => rfl) (fun t => by cases t <;> simp only [Ty.ttype] <;> decide) (by decide) ?_
  have some : 0 < (varint 5 (BitVec.ofNat 32 x.1.length).toNat).length :=
    List.length_pos_of_ne_nil (varint_ne_nil 4 _)
  simp only [List.length_append, List.length_singleton]
  omega

theorem list_foreign (c : BitVec 16) (x : peerNodesBody.Val) :
    wire.Fails ((Ty.struct peerNodesBody).read protocol (Ty.struct peerNodesBody).init) c
      ((Ty.struct peerNodesBody).enc Compact.wire x) := by
  obtain ⟨nodes, ⟨⟩⟩ := x
  have header : (Ty.struct peerNodesBody).enc Compact.wire (nodes, ()) =
      0x19 :: (Compact.listHeader tStruct (BitVec.ofNat 32 nodes.length) ++
        (nodes.flatMap ((Ty.struct peerNodeInfo).enc Compact.wire) ++ [tStop])) := by
    simp only [peerNodesBody, Ty.enc, Fields.enc, List.append_nil, List.append_assoc]
    rfl
  rw [header]
  refine readField_foreign (fun _ => rfl) (fun t => by cases t <;> simp only [Ty.ttype] <;> decide) (by decide) ?_
  have some : 0 < (Compact.listHeader tStruct (BitVec.ofNat 32 nodes.length)).length := by
    rw [Compact.listHeader]
    split <;> simp
  simp only [List.length_append, List.length_singleton]
  omega

end Binary

namespace Compact

theorem begins (st : ProtState) :
    ∃ st', protocol.readStructBegin st = (.ok (), st') ∧ wire.cursor st' = 0 ∧ st'.buf = st.buf :=
  ⟨{ st with lastField := st.lastFieldId :: st.lastField, lastFieldId := 0 }, rfl, rfl, rfl⟩

theorem skipMap_fails {c : BitVec 16} {bytes : Bytes} (fails : wire.Fails readMapBegin c bytes) :
    wire.Fails (skip protocol tMap) c bytes := by
  intro st rest placed holds
  obtain ⟨e, st', ran⟩ := fails st rest placed holds
  refine ⟨e, st', ?_⟩
  rw [skip, remaining, Prog.bind_ok (Prog.fetch_run _ _)]
  exact Prog.bind_error ran

/-- One entry whose types are the zero byte. -/
theorem readMapBegin_untyped (c : BitVec 16) : wire.Fails readMapBegin c ([1] ++ [0]) := by
  refine (readVarint32_parses c 1).fails ?_
  rw [← List.append_nil [0]]
  refine (Wire.Parses.takeByte 0).fails ?_
  have size : checkSize 1 = return 1 := rfl
  have untyped : getTType ((0 : UInt8) >>> 4) = Prog.throwing .unknown := rfl
  rw [size, pure_bind, untyped]
  exact (Wire.Fails.throwing .unknown).bind _

/-- A text in the binary format begins with a map header of the compact one,
for entries of no type. -/
theorem string_foreign (c : BitVec 16) (x : dataBody.Val) (small : x.1.length < 2 ^ 24) :
    wire.Fails ((Ty.struct dataBody).read protocol (Ty.struct dataBody).init) c
      ((Ty.struct dataBody).enc Binary.wire x) := by
  have size : toBE 4 (BitVec.ofNat 32 x.1.length).toNat = 0 :: toBE 3 x.1.length := by
    rw [(toInt_ofNat_small (show x.1.length < 2 ^ 31 by omega)).2]
    exact toBE_small small
  have header : (Ty.struct dataBody).enc Binary.wire x =
      ([0x0B, 0] ++ ([1] ++ [0])) ++ (toBE 3 x.1.length ++ (x.1 ++ [tStop])) := by
    obtain ⟨text, ⟨⟩⟩ := x
    simp only [dataBody, Ty.enc, Fields.enc, Binary.wire, List.append_nil, List.append_assoc, size]
    rfl
  rw [header]
  refine Wire.Fails.append (Wire.Fails.struct begins (fun draft => ?_)) _
  have first : wire.Parses readFieldBegin 0 (wire.next 0) [0x0B, 0] (tMap, 0) :=
    field_parses (k := .map) (fun same => by cases same) (by decide) (by decide) (readI16_parses 0 0)
  refine first.fails ?_
  dsimp only
  rw [if_neg (by decide)]
  obtain ⟨⟨text, isset⟩, ⟨⟩⟩ := draft
  have unread : dataBody.readField protocol tMap 0 ((text, isset), ()) = do
    return ((text, isset), ← skip protocol tMap) := rfl
  rw [unread]
  exact ((skipMap_fails (readMapBegin_untyped _)).bind _).bind _

/-- A list in the binary format begins with a field of a type that the
compact one does not have. -/
theorem list_foreign (c : BitVec 16) (x : peerNodesBody.Val) :
    wire.Fails ((Ty.struct peerNodesBody).read protocol (Ty.struct peerNodesBody).init) c
      ((Ty.struct peerNodesBody).enc Binary.wire x) := by
  obtain ⟨nodes, ⟨⟩⟩ := x
  have header : (Ty.struct peerNodesBody).enc Binary.wire (nodes, ()) =
      ([0x0F] ++ ([0] ++ [])) ++ ([1] ++ (Binary.wire.listBegin tStruct nodes.length ++
        (nodes.flatMap ((Ty.struct peerNodeInfo).enc Binary.wire) ++ [tStop]))) := by
    simp only [peerNodesBody, Ty.enc, Fields.enc, List.append_nil, List.append_assoc]
    rfl
  rw [header]
  refine Wire.Fails.append (Wire.Fails.struct begins (fun draft => Wire.Fails.bind ?_ _)) _
  refine (Wire.Parses.takeByte 0x0F).fails ?_
  rw [if_neg (by decide)]
  refine (readI16_parses 0 0).fails ?_
  exact (Wire.Fails.throwing .unknown).bind _

end Compact

end DbcNode
