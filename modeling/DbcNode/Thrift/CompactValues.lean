import DbcNode.Thrift.CompactRead
import DbcNode.Thrift.SkipValues
import DbcNode.Thrift.Values

namespace DbcNode.Compact

/-- What stands for a boolean: its type in a field header, and its byte as
an element. -/
def boolCode (b : Bool) : UInt8 := if b then ctBooleanTrue else ctBooleanFalse

def boolHeader (last id : BitVec 16) (b : Bool) : Bytes :=
  if inDelta last id then [UInt8.ofNat ((id - last).toNat * 16) ||| boolCode b]
  else boolCode b :: varint 5 (i32ToZigzag (id.signExtend 32)).toNat

def format : Format where
  toWire := wire
  bool := boolCode
  boolField := boolHeader

theorem filled : format.Filled where
  i16 _ := varint_ne_nil 4 _
  i32 _ := varint_ne_nil 4 _
  i64 _ := varint_ne_nil 9 _
  string x := by
    have header : 0 < (varint 5 (BitVec.ofNat 32 x.length).toNat).length :=
      List.length_pos_of_ne_nil (varint_ne_nil 4 _)
    change x.length < (varint 5 (BitVec.ofNat 32 x.length).toNat ++ x).length
    rw [List.length_append]
    omega
  listBegin elem size := by
    change listHeader elem (BitVec.ofNat 32 size) ≠ []
    rw [listHeader]
    split
    · exact List.cons_ne_nil _ _
    · exact List.cons_ne_nil _ _
  mapBegin key value size := by
    change mapHeader key value (BitVec.ofNat 32 size) ≠ []
    rw [mapHeader]
    split
    · exact List.cons_ne_nil _ _
    · exact List.append_ne_nil_of_right_ne_nil _ (List.cons_ne_nil _ _)
  fieldBegin last type id := by
    change fieldHeader last type id ≠ []
    rw [fieldHeader]
    split
    · exact List.cons_ne_nil _ _
    · exact List.cons_ne_nil _ _
  boolField last id b := by
    change boolHeader last id b ≠ []
    rw [boolHeader]
    split
    · exact List.cons_ne_nil _ _
    · exact List.cons_ne_nil _ _

section Write
variable {pend : Option (TType × BitVec 16)}

theorem fetch_puts {m : BitVec 16 → Call Unit} {c c' : BitVec 16} {bytes : Bytes}
    (rest : format.Puts pend (m c) c c' bytes) :
    format.Puts pend (Prog.fetch (·.lastFieldId) >>= m) c c' bytes := by
  intro st st' calm placed done
  have last : st.lastFieldId = c := placed
  rw [Prog.bind_ok (Prog.fetch_run (·.lastFieldId) st), last] at done
  exact rest st st' calm placed done

theorem move_puts (c id : BitVec 16) :
    format.Puts pend (Prog.update ({ · with lastFieldId := id })) c (format.next id) [] := by
  intro st st' calm _ done
  cases done
  exact ⟨(List.append_nil _).symm, rfl, calm, rfl⟩

theorem writeFieldBeginInternal_puts (c id : BitVec 16) (code : UInt8) :
    format.Puts pend (writeFieldBeginInternal code id) c (format.next id)
      (if inDelta c id then [UInt8.ofNat ((id - c).toNat * 16) ||| code]
        else code :: varint 5 (i32ToZigzag (id.signExtend 32)).toNat) := by
  refine fetch_puts ?_
  split
  · exact (Format.Puts.put _).bind (move_puts c id)
  · have first : format.Puts pend (writeByte code) c c [code] := Format.Puts.put [code]
    have both := first.bind ((Format.Puts.put (varint 5 (i32ToZigzag (id.signExtend 32)).toNat)).bind
      (move_puts c id))
    rw [List.append_nil] at both
    exact both

theorem writeBinary_puts (c : BitVec 16) (x : Bytes) : format.Puts pend (writeBinary x) c c (format.string x) := by
  rw [writeBinary]
  split
  · exact Format.Puts.throwing _
  · refine (Format.Puts.put _).bind ?_
    split
    · exact Format.Puts.throwing _
    · split
      · exact Format.Puts.put x
      · rename_i none
        rw [List.eq_nil_of_length_eq_zero (by omega : x.length = 0)]
        exact Format.Puts.pure

theorem writeListBegin_puts (c : BitVec 16) (elem : TType) (size : Nat) :
    format.Puts pend (writeListBegin elem size) c c (listHeader elem (BitVec.ofNat 32 size)) := by
  rw [writeListBegin, writeCollectionBegin, listHeader]
  split
  · exact Format.Puts.put _
  · exact (Format.Puts.put [_]).bind (Format.Puts.put _)

theorem writeMapBegin_puts (c : BitVec 16) (key value : TType) (size : Nat) :
    format.Puts pend (writeMapBegin key value size) c c (mapHeader key value (BitVec.ofNat 32 size)) := by
  rw [writeMapBegin, mapHeader]
  split
  · exact Format.Puts.put _
  · exact (Format.Puts.put _).bind (Format.Puts.put _)

theorem writeBool_puts (c : BitVec 16) (b : Bool) : format.Puts none (writeBool b) c c [boolCode b] := by
  intro st st' calm placed done
  rw [writeBool, Prog.bind_ok (Prog.fetch_run _ st), calm] at done
  exact Format.Puts.put [boolCode b] st st' calm placed done

/-- The header of a boolean field waits for the value. -/
theorem boolField_puts (c id : BitVec 16) (b : Bool) :
    format.Puts none (do writeFieldBegin tBool id; writeBool b) c (format.next id) (boolHeader c id b) := by
  intro st st'' calm placed done
  have waits : writeFieldBegin tBool id st = (.ok (), { st with booleanField := some (tBool, id) }) := rfl
  rw [Prog.bind_ok waits, writeBool, Prog.bind_ok (Prog.fetch_run _ _)] at done
  rcases Prog.bind_cases done with ⟨⟨⟩, st', ran, cleared⟩ | ⟨e, _, failed⟩
  · obtain ⟨data, there, _, stack⟩ := writeFieldBeginInternal_puts c id (boolCode b)
      { st with booleanField := some (tBool, id) } st' rfl placed ran
    cases cleared
    exact ⟨data, there, rfl, stack⟩
  · cases failed

theorem struct_puts {m : Call Unit} {c c' : BitVec 16} {bytes : Bytes} (puts : format.Puts none m 0 c' bytes) :
    format.Puts none (do structBegin; m; structEnd) c c bytes := by
  intro st st'' calm placed done
  have last : st.lastFieldId = c := placed
  have begun : structBegin st =
    (.ok (), { st with lastField := st.lastFieldId :: st.lastField, lastFieldId := 0 }) := rfl
  rw [Prog.bind_ok begun] at done
  rcases Prog.bind_cases done with ⟨⟨⟩, st', ran, ended⟩ | ⟨e, _, failed⟩
  · obtain ⟨data, _, still, stack⟩ := puts
      { st with lastField := st.lastFieldId :: st.lastField, lastFieldId := 0 } st' calm rfl ran
    simp only [structEnd, stack] at ended
    cases ended
    exact ⟨data, last, still, rfl⟩
  · cases failed

end Write

theorem prints : protocol.Prints format where
  bool := writeBool_puts
  byte _ x := Format.Puts.put [x]
  i16 _ x := Format.Puts.put (varint 5 (i32ToZigzag (x.signExtend 32)).toNat)
  i32 _ x := Format.Puts.put (varint 5 (i32ToZigzag x).toNat)
  i64 _ x := Format.Puts.put (varint 10 (i64ToZigzag x).toNat)
  double _ x := Format.Puts.put (toBE 8 x.toNat)
  string := writeBinary_puts
  listBegin := writeListBegin_puts
  setBegin := writeListBegin_puts
  mapBegin := writeMapBegin_puts
  fieldBegin c type id other := by
    change format.Puts none (writeFieldBegin type id) c _ _
    rw [writeFieldBegin, if_neg other]
    exact writeFieldBeginInternal_puts c id (getCompactType type)
  boolField := boolField_puts
  fieldStop _ := Format.Puts.put [tStop]
  struct _ _ _ _ puts := struct_puts puts

theorem checkSize_throws {size : Nat} (range : size < 2 ^ 31) (large : ¬ size ≤ maxContainerLimit) :
    checkSize (BitVec.ofNat 32 size) = Prog.throwing .sizeLimit := by
  obtain ⟨signed, _⟩ := toInt_ofNat_small range
  rw [checkSize, if_neg (by omega), if_pos (by omega)]

theorem readBinary_settles (c : BitVec 16) (x : Bytes) (range : x.length < 2 ^ 31) :
    format.Settles readBinary c c (format.string x) x (x.length ≤ maxStringLimit) := by
  refine Format.Settles.cases (fun short => readBinary_parses c x short) (fun long => ?_)
  obtain ⟨signed, unsigned⟩ := toInt_ofNat_small range
  have some : ¬ BitVec.ofNat 32 x.length = 0 := by
    intro zero
    rw [zero] at unsigned
    exact long (unsigned ▸ Nat.zero_le _)
  have size : format.Settles readVarint32 c c (varint 5 (BitVec.ofNat 32 x.length).toNat)
    (BitVec.ofNat 32 x.length) True :=
    Format.Settles.of_parses (readVarint32_parses c _)
  refine (size.bind (fun _ => ?_)).congr (by rw [true_and])
  rw [if_neg some, if_neg (by omega), if_pos (by omega)]
  exact Format.Settles.throwing _ x

theorem readListBegin_settles (c : BitVec 16) (elem : Kind) (size : Nat) (range : size < 2 ^ 31) :
    format.Settles readListBegin c c (listHeader elem.ttype (BitVec.ofNat 32 size)) (elem.ttype, size)
      (size ≤ maxContainerLimit) := by
  refine Format.Settles.cases (fun small => readListBegin_parses c elem size small) (fun large => ?_)
  have header : format.Settles readListHeader c c (listHeader elem.ttype (BitVec.ofNat 32 size))
      (getCompactType elem.ttype, BitVec.ofNat 32 size) True :=
    Format.Settles.of_parses (readListHeader_parses c elem range)
  rw [readListBegin_eq, ← List.append_nil (listHeader _ _)]
  refine (header.bind (fun _ => ?_)).congr (by rw [true_and])
  rw [checkSize_throws range large]
  exact Format.Settles.throwing _ _

/-- An empty map names no types, and a map that is too large is refused for
its size. -/
theorem readMapBegin_settles (c : BitVec 16) (key value : Kind) (size : Nat) (range : size < 2 ^ 31) :
    format.Settles readMapBegin c c (mapHeader key.ttype value.ttype (BitVec.ofNat 32 size)) (key.ttype,
      value.ttype, size) (size ≤ maxContainerLimit ∧ format.readsMap size = true) := by
  refine Format.Settles.cases (fun good => readMapBegin_parses c key value size good.1 good.2) (fun bad => ?_)
  obtain ⟨_, unsigned⟩ := toInt_ofNat_small range
  have count : format.Settles readVarint32 c c (varint 5 (BitVec.ofNat 32 size).toNat)
    (BitVec.ofNat 32 size) True :=
    Format.Settles.of_parses (readVarint32_parses c _)
  rw [mapHeader]
  by_cases empty : size = 0
  · subst empty
    have zero : BitVec.ofNat 32 0 = 0 := rfl
    have header : ([0] : Bytes) = varint 5 (BitVec.ofNat 32 0).toNat ++ [] := rfl
    rw [if_pos zero, header]
    refine (count.bind (fun _ => ?_)).congr (by rw [true_and])
    rw [readKvType, if_neg (not_not.mpr zero), pure_bind, checkSize_run (Nat.zero_le _), pure_bind]
    exact Format.Settles.throwing .unknown _
  · have large : ¬ size ≤ maxContainerLimit := fun small => bad ⟨small, decide_eq_true empty⟩
    have some : ¬ BitVec.ofNat 32 size = 0 := by
      intro zero
      rw [zero] at unsigned
      exact empty unsigned.symm
    rw [if_neg some]
    refine (count.bind (fun _ => ?_)).congr (by rw [true_and])
    rw [readKvType, if_pos some, ← List.append_nil [_ ||| _]]
    have types := Format.Settles.of_parses (w := format) (Wire.Parses.takeByte (w := wire) (c := c)
      (getCompactType key.ttype <<< 4 ||| getCompactType value.ttype))
    refine (types.bind (fun _ => ?_)).congr (by rw [true_and])
    rw [checkSize_throws range large]
    exact Format.Settles.throwing _ _

theorem boolCode_eq (b : Bool) : decide (boolCode b = ctBooleanTrue) = b := by
  cases b <;> decide

theorem readBool_settles (c : BitVec 16) (b : Bool) : format.Settles readBool c c [boolCode b] b True := by
  intro st rest calm placed holds
  have read := (Wire.Parses.takeByte (w := wire) (c := c) (boolCode b)).map
    (fun byte => decide (byte = ctBooleanTrue))
  rw [boolCode_eq] at read
  rw [readBool, Prog.bind_ok (Prog.fetch_run _ st), calm]
  exact Format.Settles.of_parses read st rest calm placed holds

/-- The type and the value of a boolean field beside the difference of its
id. -/
theorem packed_bool (b : Bool) (d : Fin 16) :
    (UInt8.ofNat (d.val * 16) ||| boolCode b) >>> 4 = UInt8.ofNat d.val ∧
      (UInt8.ofNat (d.val * 16) ||| boolCode b) &&& 0x0f = boolCode b ∧
      (UInt8.ofNat (d.val * 16) ||| boolCode b) ≠ tStop := by
  revert d
  cases b <;> decide

/-- What is left of a boolean field once its id is read: its value is saved,
and is the one that is read. -/
theorem savedBool_settles (c id : BitVec 16) (b : Bool) :
    format.Settles (do
      let fieldType ← getTType (boolCode b)
      saveBool (boolCode b)
      Prog.update ({ · with lastFieldId := id })
      let x ← readBool
      return ((fieldType, id), x)) c (format.next id) [] ((tBool, id), b) True := by
  have type : getTType (boolCode b) = return tBool := by
    cases b <;> rfl
  have named : boolCode b = ctBooleanTrue ∨ boolCode b = ctBooleanFalse := by
    cases b
    · exact Or.inr rfl
    · exact Or.inl rfl
  intro st rest calm placed holds
  refine ⟨fun _ => ?_, fun never => absurd trivial never⟩
  refine ⟨{ st with lastFieldId := id, boolValue := none }, ?_,
    ⟨(ByteBuf.advance_zero _).symm, rfl, calm.symm, rfl⟩, rfl⟩
  rw [type, pure_bind, saveBool, if_pos named, Prog.bind_ok (Prog.update_run _ st),
    Prog.bind_ok (Prog.update_run _ _)]
  cases b <;> rfl

/-- A boolean field with this header byte, once the id is read. -/
theorem boolField_bytes {c id : BitVec 16} {b : Bool} {byte : UInt8} {bytes : Bytes} (named : byte ≠ tStop)
    (type : byte &&& 0x0f = boolCode b) (idRead : wire.Parses (readFieldId (byte >>> 4)) c c bytes id) :
    format.Settles (do let header ← readFieldBegin; let x ← readBool; return (header, x)) c (format.next id)
      (byte :: bytes) ((tBool, id), b) True := by
  have first : format.Settles readByte c c [byte] byte True := Format.Settles.of_parses (Wire.Parses.takeByte byte)
  have second : format.Settles (readFieldId (byte >>> 4)) c c bytes id True := Format.Settles.of_parses idRead
  have header : byte :: bytes = [byte] ++ bytes := rfl
  rw [readFieldBegin, bind_assoc, header]
  refine (first.bind (fun _ => ?_)).congr (by rw [true_and])
  rw [if_neg named, ← List.append_nil bytes]
  simp only [bind_assoc, pure_bind, type]
  exact (second.bind (fun _ => savedBool_settles c id b)).congr (by rw [true_and])

theorem boolField_settles (c id : BitVec 16) (b : Bool) :
    format.Settles (do let header ← readFieldBegin; let x ← readBool; return (header, x)) c (format.next id)
      (boolHeader c id b) ((tBool, id), b) True := by
  rw [boolHeader]
  by_cases near : inDelta c id = true
  · obtain ⟨high, low, named⟩ := packed_bool b ⟨(id - c).toNat, (inDelta_toNat near).2⟩
    rw [if_pos near]
    refine boolField_bytes named low ?_
    rw [high]
    exact readFieldId_near near
  · have high : boolCode b >>> 4 = 0 := by
      cases b <;> decide
    have low : boolCode b &&& 0x0f = boolCode b := by
      cases b <;> decide
    have named : boolCode b ≠ tStop := by
      cases b <;> decide
    rw [if_neg near]
    refine boolField_bytes named low ?_
    rw [high, readFieldId, if_pos rfl]
    exact readI16_parses c id

theorem struct_settles {m : Call Unit} {c c' : BitVec 16} {bytes : Bytes} {good : Prop}
    (settles : format.Settles m 0 c' bytes () good) :
    format.Settles (do structBegin; m; structEnd) c c bytes () good := by
  intro st rest calm placed holds
  have last : st.lastFieldId = c := placed
  have begun : structBegin st =
    (.ok (), { st with lastField := st.lastFieldId :: st.lastField, lastFieldId := 0 }) := rfl
  obtain ⟨reads, throws⟩ :=
    settles { st with lastField := st.lastFieldId :: st.lastField, lastFieldId := 0 } rest calm rfl holds
  rw [Prog.bind_ok begun]
  constructor
  · intro holdsGood
    obtain ⟨st', ran, consumed, _⟩ := reads holdsGood
    have ended : structEnd st' =
      (.ok (), { st' with lastField := st.lastField, lastFieldId := st.lastFieldId }) := by
      simp only [structEnd, consumed.stack]
    exact ⟨_, (Prog.bind_ok ran).trans ended, ⟨consumed.buf, rfl, consumed.bool, consumed.field⟩, last⟩
  · intro bad
    obtain ⟨e, st', ran⟩ := throws bad
    exact ⟨e, st', Prog.bind_error ran⟩

theorem skips : protocol.Skips format where
  bool := readBool_settles
  byte c x := Format.Settles.of_parses (Wire.Parses.takeByte x)
  i16 c x := Format.Settles.of_parses (readI16_parses c x)
  i32 c x := Format.Settles.of_parses (readI32_parses c x)
  i64 c x := Format.Settles.of_parses (readI64_parses c x)
  double c x := by
    have taken : wire.Parses (take (toBE 8 x.toNat).length) c c (toBE 8 x.toNat) (toBE 8 x.toNat) :=
      Wire.Parses.take
    rw [toBE_length] at taken
    have read := taken.map (fun bytes => BitVec.ofNat 64 (ofBE bytes))
    rw [ofNat_ofBE_toBE x (by decide)] at read
    exact Format.Settles.of_parses read
  string := readBinary_settles
  listBegin := readListBegin_settles
  setBegin := readListBegin_settles
  mapBegin := readMapBegin_settles
  fieldBegin c k id other := Format.Settles.of_parses (readFieldBegin_parses c other id)
  boolField := boolField_settles
  fieldStop c := Format.Settles.of_parses (reads.fieldStop c)
  struct _ _ _ _ _ settles := struct_settles settles

end DbcNode.Compact
