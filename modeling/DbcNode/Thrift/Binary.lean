import DbcNode.Thrift.Protocol
import DbcNode.Thrift.ReadBack
import DbcNode.Thrift.Wire

namespace DbcNode.Binary

def writeByte (byte : UInt8) : Call Unit := put [byte]

def writeBool (value : Bool) : Call Unit := put [if value then 1 else 0]

def writeI16 (i16 : BitVec 16) : Call Unit := put (toBE 2 i16.toNat)

def writeI32 (i32 : BitVec 32) : Call Unit := put (toBE 4 i32.toNat)

def writeI64 (i64 : BitVec 64) : Call Unit := put (toBE 8 i64.toNat)

def writeFieldBegin (fieldType : TType) (fieldId : BitVec 16) : Call Unit := do
  writeByte fieldType
  writeI16 fieldId

def writeMapBegin (keyType valType : TType) (size : Nat) : Call Unit := do
  writeByte keyType
  writeByte valType
  writeI32 (BitVec.ofNat 32 size)

def writeListBegin (elemType : TType) (size : Nat) : Call Unit := do
  writeByte elemType
  writeI32 (BitVec.ofNat 32 size)

def writeString (str : Bytes) : Call Unit :=
  if str.length > 2 ^ 31 - 1 then Prog.throwing .lengthError
  else do
    writeI32 (BitVec.ofNat 32 str.length)
    if str.length > 0 then put str

def readByte : Call UInt8 := takeByte

def readBool : Call Bool := do return (← takeByte) ≠ 0

def readI16 : Call (BitVec 16) := do return BitVec.ofNat 16 (ofBE (← take 2))

def readI32 : Call (BitVec 32) := do return BitVec.ofNat 32 (ofBE (← take 4))

def readI64 : Call (BitVec 64) := do return BitVec.ofNat 64 (ofBE (← take 8))

def readFieldBegin : Call (TType × BitVec 16) := do
  let fieldType ← readByte
  if fieldType = tStop then return (tStop, 0) else return (fieldType, ← readI16)

/-- The checks that a container's size passes before its elements are
read. -/
def readSize : Call Nat := do
  let sizei ← readI32
  if sizei.toInt < 0 then Prog.throwing .lengthError
  else if sizei.toInt > maxContainerLimit then Prog.throwing .lengthError
  else return sizei.toNat

def readMapBegin : Call (TType × TType × Nat) := do
  let keyType ← readByte
  let valType ← readByte
  return (keyType, valType, ← readSize)

def readListBegin : Call (TType × Nat) := do
  let elemType ← readByte
  return (elemType, ← readSize)

def readStringBody (size : BitVec 32) : Call Bytes :=
  if size.toInt < 0 then Prog.throwing .lengthError
  else if size.toInt > maxStringLimit then Prog.throwing .lengthError
  else if size = 0 then return []
  else take size.toNat

def readString : Call Bytes := do readStringBody (← readI32)

/-- Lists and sets have the same headers. -/
def protocol : Protocol where
  writeStructBegin := pure ()
  writeStructEnd := pure ()
  writeFieldBegin := writeFieldBegin
  writeFieldStop := writeByte tStop
  writeMapBegin := writeMapBegin
  writeListBegin := writeListBegin
  writeSetBegin := writeListBegin
  writeBool := writeBool
  writeByte := writeByte
  writeI16 := writeI16
  writeI32 := writeI32
  writeI64 := writeI64
  writeDouble := writeI64
  writeString := writeString
  readStructBegin := pure ()
  readStructEnd := pure ()
  readFieldBegin := readFieldBegin
  readMapBegin := readMapBegin
  readListBegin := readListBegin
  readSetBegin := readListBegin
  readBool := readBool
  readByte := readByte
  readI16 := readI16
  readI32 := readI32
  readI64 := readI64
  readDouble := readI64
  readString := readString

/-- Fixed-width big-endian numbers, and field ids written out in full. -/
def wire : Wire where
  delta := false
  fieldBegin _ t id := t :: toBE 2 id.toNat
  listBegin elem size := elem :: toBE 4 (BitVec.ofNat 32 size).toNat
  mapBegin key value size := key :: value :: toBE 4 (BitVec.ofNat 32 size).toNat
  i16 x := toBE 2 x.toNat
  i32 x := toBE 4 x.toNat
  i64 x := toBE 8 x.toNat
  string x := toBE 4 (BitVec.ofNat 32 x.length).toNat ++ x
  readsMap _ := true

theorem toBE_ne_nil (w n : Nat) : toBE (w + 1) n ≠ [] := by
  rw [← List.length_pos_iff_ne_nil, toBE_length]
  omega

theorem writeString_emits (c : BitVec 16) (x : Bytes) : wire.Emits (writeString x) c c (wire.string x) := by
  unfold writeString
  by_cases long : x.length > 2 ^ 31 - 1
  · rw [if_pos long]
    intro st _ _
    refine Or.inr ⟨.lengthError, st, rfl, ?_⟩
    simp only [wire, List.length_append, toBE_length, ByteBuf.capacity]
    omega
  · rw [if_neg long]
    refine (Wire.Emits.put (toBE_ne_nil _ _)).bind ?_
    by_cases some : x.length > 0
    · rw [if_pos some]
      exact Wire.Emits.put (List.ne_nil_of_length_pos some)
    · rw [if_neg some, List.eq_nil_of_length_eq_zero (by omega : x.length = 0)]
      exact Wire.Emits.pure

theorem writeByte_emits (c : BitVec 16) (b : UInt8) : wire.Emits (writeByte b) c c [b] :=
  Wire.Emits.put (List.cons_ne_nil b [])

theorem writeI16_emits (c : BitVec 16) (x : BitVec 16) : wire.Emits (writeI16 x) c c (wire.i16 x) :=
  Wire.Emits.put (toBE_ne_nil 1 x.toNat)

theorem writeI32_emits (c : BitVec 16) (x : BitVec 32) : wire.Emits (writeI32 x) c c (wire.i32 x) :=
  Wire.Emits.put (toBE_ne_nil 3 x.toNat)

theorem writeI64_emits (c : BitVec 16) (x : BitVec 64) : wire.Emits (writeI64 x) c c (wire.i64 x) :=
  Wire.Emits.put (toBE_ne_nil 7 x.toNat)

theorem cursor_eq {st : ProtState} {c : BitVec 16} (placed : wire.cursor st = c) : c = 0 := placed.symm

theorem writes : protocol.Writes wire where
  i16 := writeI16_emits
  i32 := writeI32_emits
  i64 := writeI64_emits
  string := writeString_emits
  listBegin c elem size := (writeByte_emits c elem).bind (writeI32_emits c (BitVec.ofNat 32 size))
  mapBegin c key value size :=
    (writeByte_emits c key).bind ((writeByte_emits c value).bind (writeI32_emits c (BitVec.ofNat 32 size)))
  fieldBegin c t id := by
    intro st appendable placed
    obtain rfl := cursor_eq placed
    exact (writeByte_emits 0 t.ttype).bind (writeI16_emits 0 id) st appendable placed
  fieldStop c := writeByte_emits c tStop
  struct c c' m bytes emits := by
    intro st appendable placed
    obtain rfl := cursor_eq placed
    rcases emits st appendable placed with ⟨st', ran, wrote, there⟩ | ⟨e, st', ran, full⟩
    · exact Or.inl ⟨st', (Prog.bind_ok rfl).trans (Prog.bind_ok ran), wrote, rfl⟩
    · exact Or.inr ⟨e, st', (Prog.bind_ok rfl).trans (Prog.bind_error ran), full⟩

theorem take_parses {c : BitVec 16} (k n : Nat) : wire.Parses (take k) c c (toBE k n) (toBE k n) := by
  have taken : wire.Parses (take (toBE k n).length) c c (toBE k n) (toBE k n) := Wire.Parses.take
  rwa [toBE_length] at taken

theorem readI16_parses (c : BitVec 16) (x : BitVec 16) : wire.Parses readI16 c c (wire.i16 x) x := by
  have read := (take_parses (c := c) 2 x.toNat).map (fun bytes => BitVec.ofNat 16 (ofBE bytes))
  rwa [ofNat_ofBE_toBE x (by decide)] at read

theorem readI32_parses (c : BitVec 16) (x : BitVec 32) : wire.Parses readI32 c c (wire.i32 x) x := by
  have read := (take_parses (c := c) 4 x.toNat).map (fun bytes => BitVec.ofNat 32 (ofBE bytes))
  rwa [ofNat_ofBE_toBE x (by decide)] at read

theorem readI64_parses (c : BitVec 16) (x : BitVec 64) : wire.Parses readI64 c c (wire.i64 x) x := by
  have read := (take_parses (c := c) 8 x.toNat).map (fun bytes => BitVec.ofNat 64 (ofBE bytes))
  rwa [ofNat_ofBE_toBE x (by decide)] at read

theorem readSize_parses (c : BitVec 16) {size : Nat} (small : size ≤ maxContainerLimit) :
    wire.Parses readSize c c (wire.i32 (BitVec.ofNat 32 size)) size := by
  unfold maxContainerLimit at small
  obtain ⟨signed, unsigned⟩ := toInt_ofNat_small (n := size) (by omega)
  rw [← List.append_nil (wire.i32 _)]
  refine (readI32_parses c (BitVec.ofNat 32 size)).bind ?_
  rw [if_neg (by omega), if_neg (by unfold maxContainerLimit; omega), unsigned]
  exact Wire.Parses.pure size

theorem readString_parses (c : BitVec 16) (x : Bytes) (short : x.length ≤ maxStringLimit) :
    wire.Parses readString c c (wire.string x) x := by
  unfold maxStringLimit at short
  obtain ⟨signed, unsigned⟩ := toInt_ofNat_small (n := x.length) (by omega)
  refine (readI32_parses c (BitVec.ofNat 32 x.length)).bind ?_
  rw [readStringBody, if_neg (by omega), if_neg (by unfold maxStringLimit; omega)]
  by_cases none : BitVec.ofNat 32 x.length = 0
  · have empty : x = [] := by
      rw [none] at unsigned
      exact List.eq_nil_of_length_eq_zero unsigned.symm
    rw [if_pos none, empty]
    exact Wire.Parses.pure []
  · rw [if_neg none, unsigned]
    exact Wire.Parses.take

theorem readByte_parses (c : BitVec 16) (b : UInt8) : wire.Parses readByte c c [b] b := Wire.Parses.takeByte b

theorem reads : protocol.Reads wire where
  i16 := readI16_parses
  i32 := readI32_parses
  i64 := readI64_parses
  string := readString_parses
  listBegin c elem size small :=
    (readByte_parses c elem.ttype).bind ((readSize_parses c small).map (fun n => (elem.ttype, n)))
  mapBegin c value size small _ :=
    (readByte_parses c tString).bind ((readByte_parses c value.ttype).bind
      ((readSize_parses c small).map (fun n => (tString, value.ttype, n))))
  fieldBegin c t id := by
    intro st rest placed holds
    obtain rfl := cursor_eq placed
    refine (readByte_parses 0 t.ttype).bind ?_ st rest placed holds
    rw [if_neg t.ttype_ne_tStop]
    exact (readI16_parses 0 id).map (fun fid => (t.ttype, fid))
  fieldBegin_ne_nil _ _ _ := List.cons_ne_nil _ _
  fieldStop c := by
    rw [← List.append_nil [tStop]]
    refine (readByte_parses c tStop).bind ?_
    rw [if_pos rfl]
    exact Wire.Parses.pure _
  struct c c' m bytes x parses := by
    intro st rest placed holds
    obtain rfl := cursor_eq placed
    obtain ⟨st', ran, consumed, there⟩ := parses st rest placed holds
    exact ⟨st', (Prog.bind_ok rfl).trans (Prog.bind_ok ran), consumed, rfl⟩

end DbcNode.Binary
