import DbcNode.Thrift.CompactWire
import DbcNode.Thrift.Values

namespace DbcNode.Compact

theorem varintRound_last {c : BitVec 16} {b : UInt8} {i val shift : Nat} (final : b < 0x80) :
    wire.Parses (varintRound (i, val, shift)) c c [b] (.inr (BitVec.ofNat 64 (varintStep val shift b))) := by
  rw [← List.append_nil [b]]
  refine (Wire.Parses.takeByte b).bind ?_
  rw [if_pos final]
  exact Wire.Parses.pure _

theorem varintRound_more {c : BitVec 16} {b : UInt8} {i val shift : Nat} (more : ¬ b < 0x80) (early : i + 1 < 10) :
    wire.Parses (varintRound (i, val, shift)) c c [b] (.inl (i + 1, varintStep val shift b, shift + 7)) := by
  rw [← List.append_nil [b]]
  refine (Wire.Parses.takeByte b).bind ?_
  rw [if_neg more, if_neg (by omega)]
  exact Wire.Parses.pure _

theorem varintLoop_last {c : BitVec 16} {n i val : Nat} (small : n < 128) (early : i < 10)
    (low : val < 2 ^ (7 * i)) (fits : val + n * 2 ^ (7 * i) < 2 ^ 64) :
    wire.Parses (Prog.loop (10 - i) varintRound (i, val, 7 * i)) c c [UInt8.ofNat n]
      (BitVec.ofNat 64 (val + n * 2 ^ (7 * i))) := by
  have byte : (UInt8.ofNat n).toNat = n := ofNat_small (by omega)
  have final : UInt8.ofNat n < 0x80 := by
    rw [UInt8.lt_iff_toNat_lt, byte]
    exact small
  have value : varintStep val (7 * i) (UInt8.ofNat n) = val + n * 2 ^ (7 * i) := by
    rw [varintStep_eq low (by rw [byte, Nat.mod_eq_of_lt small]; omega), byte, Nat.mod_eq_of_lt small]
  rw [show 10 - i = (9 - i) + 1 by omega, ← value, ← List.append_nil [UInt8.ofNat n]]
  exact (varintRound_last final).bind (Wire.Parses.pure _)

/-- The loop after `i` bytes, with the `7 * i` low bits in hand. -/
theorem varintLoop_parses {c : BitVec 16} (k : Nat) :
    ∀ n i val, n < 128 ^ (k + 1) → i + k + 1 ≤ 10 → val < 2 ^ (7 * i) → val + n * 2 ^ (7 * i) < 2 ^ 64 →
      wire.Parses (Prog.loop (10 - i) varintRound (i, val, 7 * i)) c c (varint (k + 1) n)
        (BitVec.ofNat 64 (val + n * 2 ^ (7 * i))) := by
  induction k with
  | zero =>
    intro n i val small rounds low fits
    rw [Nat.zero_add, Nat.pow_one] at small
    rw [varint, if_pos small]
    exact varintLoop_last small (by omega) low fits
  | succ k ih =>
    intro n i val small rounds low fits
    rw [varint]
    by_cases last : n < 128
    · rw [if_pos last]
      exact varintLoop_last last (by omega) low fits
    · have byte : (UInt8.ofNat (n % 128 + 128)).toNat = n % 128 + 128 := ofNat_small (by omega)
      have more : ¬ UInt8.ofNat (n % 128 + 128) < 0x80 := by
        rw [UInt8.lt_iff_toNat_lt, byte]
        simp
      have bits : (n % 128 + 128) % 128 = n % 128 := by omega
      have shift : 2 ^ (7 * (i + 1)) = 128 * 2 ^ (7 * i) := by
        rw [show 7 * (i + 1) = 7 + 7 * i by omega, Nat.pow_add]
      have split : n * 2 ^ (7 * i) = n % 128 * 2 ^ (7 * i) + n / 128 * 2 ^ (7 * (i + 1)) := by
        rw [shift, ← Nat.mul_assoc, ← Nat.add_mul]
        congr 1
        omega
      have value : varintStep val (7 * i) (UInt8.ofNat (n % 128 + 128)) = val + n % 128 * 2 ^ (7 * i) := by
        rw [varintStep_eq low (by rw [byte, bits]; omega), byte, bits]
      have lower : val + n % 128 * 2 ^ (7 * i) < 2 ^ (7 * (i + 1)) := by
        have digit : n % 128 * 2 ^ (7 * i) ≤ 127 * 2 ^ (7 * i) := Nat.mul_le_mul_right _ (by omega)
        rw [shift]
        omega
      have rest := ih (n / 128) (i + 1) (val + n % 128 * 2 ^ (7 * i))
        (by rw [Nat.div_lt_iff_lt_mul (by decide)]; rwa [Nat.pow_succ] at small) (by omega) lower (by omega)
      rw [if_neg last, show 10 - i = (10 - (i + 1)) + 1 by omega, split, ← Nat.add_assoc]
      refine (varintRound_more more (by omega)).bind ?_
      rw [value]
      exact rest

theorem readVarint64_parses {c : BitVec 16} {k n : Nat} (small : n < 128 ^ (k + 1)) (short : k < 10)
    (fits : n < 2 ^ 64) : wire.Parses readVarint64 c c (varint (k + 1) n) (BitVec.ofNat 64 n) := by
  have loop := varintLoop_parses (c := c) k n 0 0 small (by omega) (by decide) (by omega)
  unfold readVarint64
  simpa using loop

theorem readVarint32_parses (c : BitVec 16) (x : BitVec 32) :
    wire.Parses readVarint32 c c (varint 5 x.toNat) x := by
  have range := x.isLt
  have read := (readVarint64_parses (c := c) (k := 4) (n := x.toNat) (by omega) (by decide) (by omega)).map
    (fun y => y.setWidth 32)
  have same : (BitVec.ofNat 64 x.toNat).setWidth 32 = x := by
    apply BitVec.eq_of_toNat_eq
    rw [BitVec.toNat_setWidth, BitVec.toNat_ofNat]
    omega
  rwa [same] at read

theorem readI16_parses (c : BitVec 16) (x : BitVec 16) : wire.Parses readI16 c c (wire.i16 x) x := by
  have read := (readVarint32_parses c (i32ToZigzag (x.signExtend 32))).map (fun n => (zigzagToI32 n).setWidth 16)
  rwa [zigzagToI32, i32ToZigzag, unzigzag_zigzag, setWidth_signExtend x (by decide)] at read

theorem readI32_parses (c : BitVec 16) (x : BitVec 32) : wire.Parses readI32 c c (wire.i32 x) x := by
  have read := (readVarint32_parses c (i32ToZigzag x)).map zigzagToI32
  rwa [zigzagToI32, i32ToZigzag, unzigzag_zigzag] at read

theorem readI64_parses (c : BitVec 16) (x : BitVec 64) : wire.Parses readI64 c c (wire.i64 x) x := by
  have range := (i64ToZigzag x).isLt
  have read := (readVarint64_parses (c := c) (k := 9) (n := (i64ToZigzag x).toNat) (by omega) (by decide) range).map
    zigzagToI64
  rwa [BitVec.ofNat_toNat, BitVec.setWidth_eq, zigzagToI64, i64ToZigzag, unzigzag_zigzag] at read

theorem readBinary_parses (c : BitVec 16) (x : Bytes) (short : x.length ≤ maxStringLimit) :
    wire.Parses readBinary c c (wire.string x) x := by
  unfold maxStringLimit at short
  obtain ⟨signed, unsigned⟩ := toInt_ofNat_small (n := x.length) (by omega)
  refine (readVarint32_parses c (BitVec.ofNat 32 x.length)).bind ?_
  by_cases none : BitVec.ofNat 32 x.length = 0
  · have empty : x = [] := by
      rw [none] at unsigned
      exact List.eq_nil_of_length_eq_zero unsigned.symm
    rw [if_pos none, empty]
    exact Wire.Parses.pure []
  · rw [if_neg none, if_neg (by omega), if_neg (by unfold maxStringLimit; omega), unsigned]
    intro st rest placed holds
    obtain ⟨st', ran, consumed, there⟩ := Wire.Parses.take (w := wire) (c := c)
      { st with stringBufSize := max st.stringBufSize x.length } rest placed holds
    exact ⟨st', (Prog.bind_ok rfl).trans ran, ⟨consumed.buf, consumed.stack, consumed.bool, consumed.field⟩, there⟩

/-- A type beside a number below sixteen in one byte. -/
theorem packed (k : Kind) (d : Fin 16) :
    (UInt8.ofNat (d.val * 16) ||| getCompactType k.ttype) >>> 4 = UInt8.ofNat d.val ∧
      (UInt8.ofNat (d.val * 16) ||| getCompactType k.ttype) &&& 0x0f = getCompactType k.ttype ∧
      (UInt8.ofNat (d.val * 16) ||| getCompactType k.ttype) ≠ tStop := by
  revert d
  cases k <;> simp only [Kind.ttype] <;> decide

theorem shiftLeft_four : ∀ d : Fin 16, UInt8.ofNat d.val <<< 4 = UInt8.ofNat (d.val * 16) := by decide

theorem ofNat_ne_fifteen : ∀ d : Fin 15, ¬ UInt8.ofNat d.val = 15 := by decide

theorem getTType_getCompactType (k : Kind) : getTType (getCompactType k.ttype) = return k.ttype := by
  cases k <;> rfl

theorem getCompactType_ne_bool {k : Kind} (other : k ≠ .bool) :
    ¬ (getCompactType k.ttype = ctBooleanTrue ∨ getCompactType k.ttype = ctBooleanFalse) := by
  cases k <;> simp only [Kind.ttype] <;> first | decide | exact absurd rfl other

theorem checkSize_run {size : Nat} (small : size ≤ maxContainerLimit) :
    checkSize (BitVec.ofNat 32 size) = return size := by
  have range := small
  unfold maxContainerLimit at range
  obtain ⟨signed, unsigned⟩ := toInt_ofNat_small (n := size) (by omega)
  rw [checkSize, if_neg (by omega), if_neg (by omega), unsigned]

/-- The header of a list, before its size is checked. -/
def readListHeader : Call (UInt8 × BitVec 32) := do
  let sizeAndType ← readByte
  let lsize ← readListSize (sizeAndType >>> 4)
  return (sizeAndType &&& 0x0f, lsize)

theorem readListBegin_eq : readListBegin = readListHeader >>= fun header => do
    let size ← checkSize header.2
    let elemType ← getTType header.1
    return (elemType, size) := by
  simp only [readListBegin, readListHeader, bind_assoc, pure_bind]

theorem readListHeader_parses (c : BitVec 16) (elem : Kind) {size : Nat} (small : size < 2 ^ 31) :
    wire.Parses readListHeader c c (listHeader elem.ttype (BitVec.ofNat 32 size))
      (getCompactType elem.ttype, BitVec.ofNat 32 size) := by
  obtain ⟨signed, unsigned⟩ := toInt_ofNat_small small
  rw [listHeader]
  by_cases brief : (BitVec.ofNat 32 size).toInt ≤ 14
  · obtain ⟨high, low, _⟩ := packed elem ⟨size, by omega⟩
    have shifted : UInt8.ofNat size <<< 4 = UInt8.ofNat (size * 16) := shiftLeft_four ⟨size, by omega⟩
    have inByte : ¬ UInt8.ofNat size = 15 := ofNat_ne_fifteen ⟨size, by omega⟩
    have same : (UInt8.ofNat size).toNat = size := ofNat_small (by omega)
    rw [if_pos brief, unsigned, shifted]
    refine (Wire.Parses.takeByte _).bind ?_
    rw [high, low, readListSize, if_neg inByte, same]
    exact Wire.Parses.pure _
  · have high : (0xf0 ||| getCompactType elem.ttype) >>> 4 = 15 := (packed elem 15).1
    have low : (0xf0 ||| getCompactType elem.ttype) &&& 0x0f = getCompactType elem.ttype := (packed elem 15).2.1
    rw [if_neg brief, ← List.append_nil (_ :: varint 5 _)]
    refine (Wire.Parses.takeByte _).bind ?_
    rw [high, low, readListSize, if_pos rfl]
    exact (readVarint32_parses c (BitVec.ofNat 32 size)).bind (Wire.Parses.pure _)

theorem readListBegin_parses (c : BitVec 16) (elem : Kind) (size : Nat) (small : size ≤ maxContainerLimit) :
    wire.Parses readListBegin c c (listHeader elem.ttype (BitVec.ofNat 32 size)) (elem.ttype, size) := by
  have range := small
  unfold maxContainerLimit at range
  rw [readListBegin_eq, ← List.append_nil (listHeader _ _)]
  refine (readListHeader_parses c elem (by omega)).bind ?_
  rw [checkSize_run small, getTType_getCompactType]
  exact Wire.Parses.pure _

theorem mapTypes (key value : Kind) :
    (getCompactType key.ttype <<< 4 ||| getCompactType value.ttype) >>> 4 = getCompactType key.ttype ∧
      (getCompactType key.ttype <<< 4 ||| getCompactType value.ttype) &&& 0xf = getCompactType value.ttype := by
  revert value
  cases key <;> intro value <;> cases value <;> simp only [Kind.ttype] <;> decide

theorem readMapBegin_parses (c : BitVec 16) (key value : Kind) (size : Nat) (small : size ≤ maxContainerLimit)
    (some : wire.readsMap size = true) :
    wire.Parses readMapBegin c c (mapHeader key.ttype value.ttype (BitVec.ofNat 32 size))
      (key.ttype, value.ttype, size) := by
  have positive : size ≠ 0 := by simpa [wire] using some
  have range := small
  unfold maxContainerLimit at range
  obtain ⟨_, unsigned⟩ := toInt_ofNat_small (n := size) (by omega)
  have filled : ¬ BitVec.ofNat 32 size = 0 := by
    intro zero
    rw [zero] at unsigned
    exact positive unsigned.symm
  obtain ⟨high, low⟩ := mapTypes key value
  rw [mapHeader, if_neg filled]
  refine (readVarint32_parses c (BitVec.ofNat 32 size)).bind ?_
  rw [readKvType, if_pos filled, checkSize_run small, ← List.append_nil [_ ||| _]]
  refine (Wire.Parses.takeByte _).bind ?_
  simp only [pure_bind, high, low, getTType_getCompactType]
  exact Wire.Parses.pure _

theorem inDelta_toNat {last id : BitVec 16} (near : inDelta last id = true) :
    0 < (id - last).toNat ∧ (id - last).toNat < 16 := by
  simp only [inDelta, decide_eq_true_eq, BitVec.toInt_eq_toNat_cond] at near
  have first := last.isLt
  have second := id.isLt
  rw [BitVec.toNat_sub]
  omega

theorem move_parses (c id : BitVec 16) :
    wire.Parses (Prog.update ({ · with lastFieldId := id })) c (wire.next id) [] () := by
  intro st rest _ _
  exact ⟨_, rfl, ⟨(ByteBuf.advance_zero _).symm, rfl, rfl, rfl⟩, rfl⟩

/-- A header byte other than the stop byte, once the id is read. -/
theorem field_parses {c id : BitVec 16} {k : Kind} (other : k ≠ .bool) {b : UInt8} {bytes : Bytes}
    (named : b ≠ tStop) (type : b &&& 0x0f = getCompactType k.ttype)
    (idRead : wire.Parses (readFieldId (b >>> 4)) c c bytes id) :
    wire.Parses readFieldBegin c (wire.next id) (b :: bytes) (k.ttype, id) := by
  refine (Wire.Parses.takeByte b).bind ?_
  rw [if_neg named, ← List.append_nil bytes]
  refine idRead.bind ?_
  rw [type, getTType_getCompactType, saveBool, if_neg (getCompactType_ne_bool other)]
  simp only [pure_bind]
  exact (move_parses c id).map (fun _ => (k.ttype, id))

theorem inDelta_ofNat {c id : BitVec 16} (near : inDelta c id = true) :
    (UInt8.ofNat (id - c).toNat).toNat = (id - c).toNat ∧ UInt8.ofNat (id - c).toNat ≠ 0 := by
  obtain ⟨positive, small⟩ := inDelta_toNat near
  have digit : (UInt8.ofNat (id - c).toNat).toNat = (id - c).toNat := ofNat_small (by omega)
  refine ⟨digit, fun zero => ?_⟩
  rw [zero] at digit
  exact Nat.ne_of_lt positive digit

/-- The id behind a modifier is the last one and the difference. -/
theorem readFieldId_near {c id : BitVec 16} (near : inDelta c id = true) :
    wire.Parses (readFieldId (UInt8.ofNat (id - c).toNat)) c c [] id := by
  obtain ⟨digit, some⟩ := inDelta_ofNat near
  rw [readFieldId, if_neg some, digit]
  intro st rest placed _
  have last : st.lastFieldId = c := placed
  have sum : c + BitVec.ofNat 16 (id - c).toNat = id := by
    rw [BitVec.ofNat_toNat, BitVec.setWidth_eq, BitVec.add_comm, BitVec.sub_add_cancel]
  refine ⟨st, ?_, Consumed.refl st, placed⟩
  rw [Prog.fetch_run, last, sum]

theorem readFieldBegin_parses (c : BitVec 16) {k : Kind} (other : k ≠ .bool) (id : BitVec 16) :
    wire.Parses readFieldBegin c (wire.next id) (fieldHeader c k.ttype id) (k.ttype, id) := by
  rw [fieldHeader]
  by_cases near : inDelta c id = true
  · obtain ⟨_, small⟩ := inDelta_toNat near
    obtain ⟨high, low, named⟩ := packed k ⟨(id - c).toNat, small⟩
    rw [if_pos near]
    refine field_parses other named low ?_
    rw [high]
    exact readFieldId_near near
  · have high : getCompactType k.ttype >>> 4 = 0 := by
      cases k <;> simp only [Kind.ttype] <;> decide
    have low : getCompactType k.ttype &&& 0x0f = getCompactType k.ttype := by
      cases k <;> simp only [Kind.ttype] <;> decide
    have named : getCompactType k.ttype ≠ tStop := by
      cases k <;> simp only [Kind.ttype] <;> decide
    rw [if_neg near]
    refine field_parses other named low ?_
    rw [high, readFieldId, if_pos rfl]
    exact readI16_parses c id

theorem struct_parses {α : Type} {m : Call α} {c c' : BitVec 16} {bytes : Bytes} {x : α}
    (parses : wire.Parses m 0 c' bytes x) :
    wire.Parses (do structBegin; let y ← m; structEnd; return y) c c bytes x := by
  intro st rest placed holds
  have last : st.lastFieldId = c := placed
  obtain ⟨st', ran, consumed, _⟩ := parses
    { st with lastField := st.lastFieldId :: st.lastField, lastFieldId := 0 } rest rfl holds
  refine ⟨{ st' with lastField := st.lastField, lastFieldId := st.lastFieldId },
    (Prog.bind_ok rfl).trans ((Prog.bind_ok ran).trans (Prog.bind_ok (a := ()) ?_)),
    ⟨consumed.buf, rfl, consumed.bool, consumed.field⟩, last⟩
  simp only [structEnd, consumed.stack]

theorem reads : protocol.Reads wire where
  i16 := readI16_parses
  i32 := readI32_parses
  i64 := readI64_parses
  string := readBinary_parses
  listBegin c elem size small := by
    rw [elem.ttype_kind]
    exact readListBegin_parses c elem.kind size small
  mapBegin c value size small some := by
    rw [value.ttype_kind]
    exact readMapBegin_parses c .string value.kind size small some
  fieldBegin c t id := by
    rw [t.ttype_kind]
    exact readFieldBegin_parses c t.kind_ne_bool id
  fieldBegin_ne_nil c t id := by
    change fieldHeader c t.ttype id ≠ []
    rw [fieldHeader]
    split <;> simp
  fieldStop c := by
    rw [← List.append_nil [tStop]]
    refine (Wire.Parses.takeByte tStop).bind ?_
    rw [if_pos rfl]
    exact Wire.Parses.pure _
  struct _ _ _ _ _ parses := struct_parses parses

end DbcNode.Compact
