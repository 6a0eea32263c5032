import DbcNode.Thrift.Binary
import DbcNode.Thrift.SkipValues
import DbcNode.Thrift.Values

namespace DbcNode.Binary

def boolByte (b : Bool) : UInt8 := if b then 1 else 0

def format : Format where
  toWire := wire
  bool := boolByte
  boolField _ id b := (tBool :: toBE 2 id.toNat) ++ [boolByte b]

theorem filled : format.Filled where
  i16 _ := toBE_ne_nil 1 _
  i32 _ := toBE_ne_nil 3 _
  i64 _ := toBE_ne_nil 7 _
  string x := by
    change x.length < (toBE 4 (BitVec.ofNat 32 x.length).toNat ++ x).length
    rw [List.length_append, toBE_length]
    omega
  listBegin _ _ := List.cons_ne_nil _ _
  mapBegin _ _ _ := List.cons_ne_nil _ _
  fieldBegin _ _ _ := List.cons_ne_nil _ _
  boolField _ _ _ := List.cons_ne_nil _ _

theorem writeString_puts (c : BitVec 16) (x : Bytes) : format.Puts none (writeString x) c c (format.string x) := by
  rw [writeString]
  split
  · exact Format.Puts.throwing _
  · refine (Format.Puts.put _).bind ?_
    split
    · exact Format.Puts.put x
    · rename_i none
      rw [List.eq_nil_of_length_eq_zero (by omega : x.length = 0)]
      exact Format.Puts.pure

theorem writeFieldBegin_puts (c : BitVec 16) (type : TType) (id : BitVec 16) :
    format.Puts none (writeFieldBegin type id) c (format.next id) (type :: toBE 2 id.toNat) := by
  intro st st' calm placed done
  obtain rfl := cursor_eq placed
  exact (Format.Puts.put [type]).bind (Format.Puts.put (toBE 2 id.toNat)) st st' calm placed done

theorem prints : protocol.Prints format where
  bool _ b := Format.Puts.put [boolByte b]
  byte _ x := Format.Puts.put [x]
  i16 _ x := Format.Puts.put (toBE 2 x.toNat)
  i32 _ x := Format.Puts.put (toBE 4 x.toNat)
  i64 _ x := Format.Puts.put (toBE 8 x.toNat)
  double _ x := Format.Puts.put (toBE 8 x.toNat)
  string := writeString_puts
  listBegin _ elem size := (Format.Puts.put [elem]).bind (Format.Puts.put (toBE 4 (BitVec.ofNat 32 size).toNat))
  setBegin _ elem size := (Format.Puts.put [elem]).bind (Format.Puts.put (toBE 4 (BitVec.ofNat 32 size).toNat))
  mapBegin _ key value size := (Format.Puts.put [key]).bind
    ((Format.Puts.put [value]).bind (Format.Puts.put (toBE 4 (BitVec.ofNat 32 size).toNat)))
  fieldBegin c type id _ := writeFieldBegin_puts c type id
  boolField c id b := (writeFieldBegin_puts c tBool id).bind (Format.Puts.put [boolByte b])
  fieldStop _ := Format.Puts.put [tStop]
  struct c c' m bytes puts := by
    intro st st'' calm placed done
    obtain rfl := cursor_eq placed
    have begun : protocol.writeStructBegin st = (.ok (), st) := rfl
    rw [Prog.bind_ok begun] at done
    rcases Prog.bind_cases done with ⟨⟨⟩, st', ran, ended⟩ | ⟨e, _, failed⟩
    · obtain ⟨data, _, still, stack⟩ := puts st st' calm rfl ran
      cases ended
      exact ⟨data, rfl, still, stack⟩
    · cases failed

theorem readSize_throws {c : BitVec 16} {size : Nat} (range : size < 2 ^ 31)
    (large : ¬ size ≤ maxContainerLimit) (n : Nat) :
    format.Settles readSize c c (toBE 4 (BitVec.ofNat 32 size).toNat) n False := by
  obtain ⟨signed, _⟩ := toInt_ofNat_small range
  have read : format.Settles readI32 c c (toBE 4 (BitVec.ofNat 32 size).toNat) (BitVec.ofNat 32 size) True :=
    Format.Settles.of_parses (readI32_parses c _)
  rw [readSize, ← List.append_nil (toBE 4 _)]
  refine (read.bind (fun _ => ?_)).congr (by rw [true_and])
  rw [if_neg (by omega), if_pos (by omega)]
  exact Format.Settles.throwing _ n

theorem readSize_settles (c : BitVec 16) {size : Nat} (range : size < 2 ^ 31) :
    format.Settles readSize c c (toBE 4 (BitVec.ofNat 32 size).toNat) size (size ≤ maxContainerLimit) :=
  Format.Settles.cases (fun small => readSize_parses c small) (fun large => readSize_throws range large size)

theorem readString_settles (c : BitVec 16) (x : Bytes) (range : x.length < 2 ^ 31) :
    format.Settles readString c c (format.string x) x (x.length ≤ maxStringLimit) := by
  refine Format.Settles.cases (fun short => readString_parses c x short) (fun long => ?_)
  obtain ⟨signed, _⟩ := toInt_ofNat_small range
  have size : format.Settles readI32 c c (toBE 4 (BitVec.ofNat 32 x.length).toNat)
    (BitVec.ofNat 32 x.length) True :=
    Format.Settles.of_parses (readI32_parses c _)
  have refused : format.Settles (readStringBody (BitVec.ofNat 32 x.length)) c c x x False := by
    rw [readStringBody, if_neg (by omega), if_pos (by omega)]
    exact Format.Settles.throwing _ x
  exact (size.bind (fun _ => refused)).congr (by rw [true_and])

theorem readByte_settles (c : BitVec 16) (b : UInt8) : format.Settles readByte c c [b] b True :=
  Format.Settles.of_parses (readByte_parses c b)

theorem readListBegin_settles (c : BitVec 16) (elem : Kind) (size : Nat) (range : size < 2 ^ 31) :
    format.Settles readListBegin c c (format.listBegin elem.ttype size) (elem.ttype, size)
      (size ≤ maxContainerLimit) :=
  ((readByte_settles c elem.ttype).bind (fun _ => (readSize_settles c range).map (fun n => (elem.ttype, n)))).congr
    (by rw [true_and])

theorem readMapBegin_settles (c : BitVec 16) (key value : Kind) (size : Nat) (range : size < 2 ^ 31) :
    format.Settles readMapBegin c c (format.mapBegin key.ttype value.ttype size) (key.ttype, value.ttype, size)
      (size ≤ maxContainerLimit ∧ format.readsMap size = true) := by
  have all : format.readsMap size = true := rfl
  refine ((readByte_settles c key.ttype).bind (fun _ => (readByte_settles c value.ttype).bind (fun _ =>
    (readSize_settles c range).map (fun n => (key.ttype, value.ttype, n))))).congr ?_
  rw [true_and, true_and, all]
  exact (and_iff_left rfl).symm

theorem boolByte_eq (b : Bool) : decide (boolByte b ≠ 0) = b := by
  cases b <;> decide

theorem readBool_settles (c : BitVec 16) (b : Bool) : format.Settles readBool c c [boolByte b] b True := by
  have read := (Wire.Parses.takeByte (w := wire) (c := c) (boolByte b)).map (fun byte => decide (byte ≠ 0))
  rw [boolByte_eq] at read
  exact Format.Settles.of_parses read

theorem readFieldBegin_settles (c : BitVec 16) (k : Kind) (id : BitVec 16) :
    format.Settles readFieldBegin c (format.next id) (k.ttype :: toBE 2 id.toNat) (k.ttype, id) True := by
  intro st rest calm placed holds
  obtain rfl := cursor_eq placed
  have header : wire.Parses readFieldBegin 0 0 ([k.ttype] ++ toBE 2 id.toNat) (k.ttype, id) := by
    refine (readByte_parses 0 k.ttype).bind ?_
    rw [if_neg k.ttype_ne_tStop]
    exact (readI16_parses 0 id).map (fun fid => (k.ttype, fid))
  exact Format.Settles.of_parses header st rest calm placed holds

theorem skips : protocol.Skips format where
  bool := readBool_settles
  byte := readByte_settles
  i16 c x := Format.Settles.of_parses (readI16_parses c x)
  i32 c x := Format.Settles.of_parses (readI32_parses c x)
  i64 c x := Format.Settles.of_parses (readI64_parses c x)
  double c x := Format.Settles.of_parses (readI64_parses c x)
  string := readString_settles
  listBegin := readListBegin_settles
  setBegin := readListBegin_settles
  mapBegin := readMapBegin_settles
  fieldBegin c k id _ := readFieldBegin_settles c k id
  boolField c id b := ((readFieldBegin_settles c .bool id).bind (fun _ =>
    (readBool_settles _ b).map (fun x => ((tBool, id), x)))).congr (by rw [true_and])
  fieldStop c := Format.Settles.of_parses (reads.fieldStop c)
  struct c c' m bytes good settles := by
    intro st rest calm placed holds
    obtain rfl := cursor_eq placed
    obtain ⟨works, throws⟩ := settles st rest calm rfl holds
    have begun : protocol.readStructBegin st = (.ok (), st) := rfl
    rw [Prog.bind_ok begun]
    constructor
    · intro holdsGood
      obtain ⟨st', ran, consumed, _⟩ := works holdsGood
      exact ⟨st', Prog.bind_ok ran, consumed, rfl⟩
    · intro bad
      obtain ⟨e, st', ran⟩ := throws bad
      exact ⟨e, st', Prog.bind_error ran⟩

end DbcNode.Binary
