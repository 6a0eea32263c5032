import DbcNode.Thrift.Compact
import DbcNode.Thrift.Wire
import DbcNode.Thrift.ReadBack

namespace DbcNode.Compact

def fieldHeader (last : BitVec 16) (t : TType) (id : BitVec 16) : Bytes :=
  if inDelta last id then [UInt8.ofNat ((id - last).toNat * 16) ||| getCompactType t]
  else getCompactType t :: varint 5 (i32ToZigzag (id.signExtend 32)).toNat

def listHeader (elem : TType) (size : BitVec 32) : Bytes :=
  if size.toInt ≤ 14 then [UInt8.ofNat size.toNat <<< 4 ||| getCompactType elem]
  else (0xf0 ||| getCompactType elem) :: varint 5 size.toNat

def mapHeader (key value : TType) (size : BitVec 32) : Bytes :=
  if size = 0 then [0] else varint 5 size.toNat ++ [getCompactType key <<< 4 ||| getCompactType value]

/-- Zigzag varints, field ids relative to the last one, sizes of short lists
beside the type. An empty map is a single zero byte, which the reader takes
for a map of unknown types. -/
def wire : Wire where
  delta := true
  fieldBegin := fieldHeader
  listBegin elem size := listHeader elem (BitVec.ofNat 32 size)
  mapBegin key value size := mapHeader key value (BitVec.ofNat 32 size)
  i16 x := varint 5 (i32ToZigzag (x.signExtend 32)).toNat
  i32 x := varint 5 (i32ToZigzag x).toNat
  i64 x := varint 10 (i64ToZigzag x).toNat
  string x := varint 5 (BitVec.ofNat 32 x.length).toNat ++ x
  readsMap size := size ≠ 0

theorem writeByte_emits (c : BitVec 16) (b : UInt8) : wire.Emits (writeByte b) c c [b] :=
  Wire.Emits.put (List.cons_ne_nil b [])

theorem writeVarint32_emits (c : BitVec 16) (n : BitVec 32) :
    wire.Emits (writeVarint32 n) c c (varint 5 n.toNat) := Wire.Emits.put (varint_ne_nil 4 n.toNat)

theorem writeVarint64_emits (c : BitVec 16) (n : BitVec 64) :
    wire.Emits (writeVarint64 n) c c (varint 10 n.toNat) := Wire.Emits.put (varint_ne_nil 9 n.toNat)

theorem writeBinary_emits (c : BitVec 16) (x : Bytes) : wire.Emits (writeBinary x) c c (wire.string x) := by
  unfold writeBinary
  by_cases huge : x.length > 2 ^ 32 - 1
  · rw [if_pos huge]
    intro st _ _
    refine Or.inr ⟨.sizeLimit, st, rfl, ?_⟩
    simp only [wire, List.length_append, ByteBuf.capacity]
    omega
  · rw [if_neg huge]
    refine (writeVarint32_emits c (BitVec.ofNat 32 x.length)).bind ?_
    by_cases long : x.length > 2 ^ 32 - 1 - (varint 5 x.length).length
    · rw [if_pos long]
      have header := varint_length_le 5 x.length
      intro st _ _
      refine Or.inr ⟨.sizeLimit, st, rfl, ?_⟩
      unfold ByteBuf.capacity
      omega
    · rw [if_neg long]
      by_cases some : x.length > 0
      · rw [if_pos some]
        exact Wire.Emits.put (List.ne_nil_of_length_pos some)
      · rw [if_neg some, List.eq_nil_of_length_eq_zero (by omega : x.length = 0)]
        exact Wire.Emits.pure

theorem writeListBegin_emits (c : BitVec 16) (elem : TType) (size : Nat) :
    wire.Emits (writeListBegin elem size) c c (listHeader elem (BitVec.ofNat 32 size)) := by
  rw [writeListBegin, writeCollectionBegin, listHeader]
  split
  · exact writeByte_emits c _
  · exact (writeByte_emits c _).bind (writeVarint32_emits c _)

theorem writeMapBegin_emits (c : BitVec 16) (key value : TType) (size : Nat) :
    wire.Emits (writeMapBegin key value size) c c (mapHeader key value (BitVec.ofNat 32 size)) := by
  rw [writeMapBegin, mapHeader]
  split
  · exact writeByte_emits c _
  · exact (writeVarint32_emits c _).bind (writeByte_emits c _)

theorem fetch_emits {m : BitVec 16 → Call Unit} {c c' : BitVec 16} {bytes : Bytes}
    (rest : wire.Emits (m c) c c' bytes) : wire.Emits (Prog.fetch (·.lastFieldId) >>= m) c c' bytes := by
  intro st appendable placed
  have last : st.lastFieldId = c := placed
  rw [Prog.bind_ok (Prog.fetch_run (·.lastFieldId) st), last]
  exact rest st appendable placed

theorem move_emits (c id : BitVec 16) :
    wire.Emits (Prog.update ({ · with lastFieldId := id })) c (wire.next id) [] := by
  intro st appendable _
  exact Or.inl ⟨_, rfl, ⟨appendable, by simp, rfl, rfl, rfl⟩, rfl⟩

theorem writeFieldBegin_emits (c : BitVec 16) (t : Ty) (id : BitVec 16) :
    wire.Emits (writeFieldBegin t.ttype id) c (wire.next id) (fieldHeader c t.ttype id) := by
  rw [writeFieldBegin, if_neg t.ttype_ne_tBool, writeFieldBeginInternal, fieldHeader]
  refine fetch_emits ?_
  split
  · exact (writeByte_emits c _).bind (move_emits c id)
  · have both := (writeByte_emits c (getCompactType t.ttype)).bind
      ((writeVarint32_emits c (i32ToZigzag (id.signExtend 32))).bind (move_emits c id))
    rw [List.append_nil] at both
    exact both

theorem struct_emits {m : Call Unit} {c c' : BitVec 16} {bytes : Bytes} (emits : wire.Emits m 0 c' bytes) :
    wire.Emits (do structBegin; m; structEnd) c c bytes := by
  intro st appendable placed
  have last : st.lastFieldId = c := placed
  rcases emits { st with lastField := st.lastFieldId :: st.lastField, lastFieldId := 0 } appendable rfl with
    ⟨st', ran, wrote, _⟩ | ⟨e, st', ran, full⟩
  · refine Or.inl ⟨{ st' with lastField := st.lastField, lastFieldId := st.lastFieldId },
      (Prog.bind_ok rfl).trans ((Prog.bind_ok ran).trans ?_),
      ⟨wrote.appendable, wrote.data, rfl, wrote.bool, wrote.field⟩, last⟩
    simp only [structEnd, wrote.stack]
  · exact Or.inr ⟨e, st', (Prog.bind_ok rfl).trans (Prog.bind_error ran), full⟩

theorem writes : protocol.Writes wire where
  i16 c x := writeVarint32_emits c (i32ToZigzag (x.signExtend 32))
  i32 c x := writeVarint32_emits c (i32ToZigzag x)
  i64 c x := writeVarint64_emits c (i64ToZigzag x)
  string := writeBinary_emits
  listBegin := writeListBegin_emits
  mapBegin := writeMapBegin_emits
  fieldBegin := writeFieldBegin_emits
  fieldStop c := writeByte_emits c tStop
  struct _ _ _ _ emits := struct_emits emits

end DbcNode.Compact
