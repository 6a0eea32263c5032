import DbcNode.Thrift.Schema
import DbcNode.Thrift.Wire

namespace DbcNode

/-- The types that a value can have on the wire. -/
inductive Kind
  | bool
  | byte
  | i16
  | i32
  | i64
  | double
  | string
  | struct
  | map
  | set
  | list
  deriving DecidableEq, Repr

def Kind.ttype : Kind → TType
  | .bool => tBool
  | .byte => tByte
  | .i16 => tI16
  | .i32 => tI32
  | .i64 => tI64
  | .double => tDouble
  | .string => tString
  | .struct => tStruct
  | .map => tMap
  | .set => tSet
  | .list => tList

theorem Kind.ttype_ne_tStop (k : Kind) : k.ttype ≠ tStop := by
  cases k <;> simp only [Kind.ttype] <;> decide

theorem Kind.ttype_ne_tBool {k : Kind} (other : k ≠ .bool) : k.ttype ≠ tBool := by
  cases k <;> simp only [Kind.ttype] <;> first | decide | exact absurd rfl other

def Ty.kind : Ty → Kind
  | .i16 => .i16
  | .i32 => .i32
  | .i64 => .i64
  | .string => .string
  | .list _ => .list
  | .map _ => .map
  | .struct _ => .struct

theorem Ty.ttype_kind (t : Ty) : t.ttype = t.kind.ttype := by
  cases t <;> rfl

theorem Ty.kind_ne_bool (t : Ty) : t.kind ≠ .bool := by
  cases t <;> nofun

/- Values of every type and nesting. The members of a class name their own types;
the elements of a container share one. -/
mutual

inductive Value : Kind → Type
  | bool (b : Bool) : Value .bool
  | byte (x : UInt8) : Value .byte
  | i16 (x : BitVec 16) : Value .i16
  | i32 (x : BitVec 32) : Value .i32
  | i64 (x : BitVec 64) : Value .i64
  | double (bits : BitVec 64) : Value .double
  | string (x : Bytes) : Value .string
  | struct (members : Members) : Value .struct
  | map (key value : Kind) (entries : Entries key value) : Value .map
  | set (elem : Kind) (items : Items elem) : Value .set
  | list (elem : Kind) (items : Items elem) : Value .list

inductive Items : Kind → Type
  | nil (elem : Kind) : Items elem
  | cons {elem : Kind} (x : Value elem) (rest : Items elem) : Items elem

inductive Entries : Kind → Kind → Type
  | nil (key value : Kind) : Entries key value
  | cons {key value : Kind} (x : Value key) (y : Value value) (rest : Entries key value) : Entries key value

inductive Members
  | nil
  | cons (id : BitVec 16) (kind : Kind) (x : Value kind) (rest : Members)

end

def Items.length {k : Kind} : Items k → Nat
  | .nil _ => 0
  | .cons _ rest => rest.length + 1

def Entries.length {k l : Kind} : Entries k l → Nat
  | .nil _ _ => 0
  | .cons _ _ rest => rest.length + 1

def Members.length : Members → Nat
  | .nil => 0
  | .cons _ _ _ rest => rest.length + 1

mutual

/-- How the generated code writes a value. -/
def Value.write (p : Protocol) : {k : Kind} → Value k → Call Unit
  | _, .bool b => p.writeBool b
  | _, .byte x => p.writeByte x
  | _, .i16 x => p.writeI16 x
  | _, .i32 x => p.writeI32 x
  | _, .i64 x => p.writeI64 x
  | _, .double bits => p.writeDouble bits
  | _, .string x => p.writeString x
  | _, .struct members => do
    p.writeStructBegin
    members.write p
    p.writeFieldStop
    p.writeStructEnd
  | _, .map key value entries => do
    p.writeMapBegin key.ttype value.ttype entries.length
    entries.write p
  | _, .set elem items => do
    p.writeSetBegin elem.ttype items.length
    items.write p
  | _, .list elem items => do
    p.writeListBegin elem.ttype items.length
    items.write p

def Items.write (p : Protocol) : {k : Kind} → Items k → Call Unit
  | _, .nil _ => return ()
  | _, .cons x rest => do
    x.write p
    rest.write p

def Entries.write (p : Protocol) : {k l : Kind} → Entries k l → Call Unit
  | _, _, .nil _ _ => return ()
  | _, _, .cons x y rest => do
    x.write p
    y.write p
    rest.write p

def Members.write (p : Protocol) : Members → Call Unit
  | .nil => return ()
  | .cons id kind x rest => do
    p.writeFieldBegin kind.ttype id
    x.write p
    rest.write p

end

/-- A wire format with its booleans, which are a byte as elements and may be
part of the header as fields. -/
structure Format extends Wire where
  bool : Bool → UInt8
  boolField : BitVec 16 → BitVec 16 → Bool → Bytes

/-- A field on the wire, from the bytes of its value. -/
def Value.field (w : Format) (last id : BitVec 16) (bytes : Bytes) : {k : Kind} → Value k → Bytes
  | _, .bool b => w.boolField last id b
  | k, _ => w.fieldBegin last k.ttype id ++ bytes

mutual

def Value.enc (w : Format) : {k : Kind} → Value k → Bytes
  | _, .bool b => [w.bool b]
  | _, .byte x => [x]
  | _, .i16 x => w.i16 x
  | _, .i32 x => w.i32 x
  | _, .i64 x => w.i64 x
  | _, .double bits => toBE 8 bits.toNat
  | _, .string x => w.string x
  | _, .struct members => members.enc w 0 ++ [tStop]
  | _, .map key value entries => w.mapBegin key.ttype value.ttype entries.length ++ entries.enc w
  | _, .set elem items => w.listBegin elem.ttype items.length ++ items.enc w
  | _, .list elem items => w.listBegin elem.ttype items.length ++ items.enc w

def Items.enc (w : Format) : {k : Kind} → Items k → Bytes
  | _, .nil _ => []
  | _, .cons x rest => x.enc w ++ rest.enc w

def Entries.enc (w : Format) : {k l : Kind} → Entries k l → Bytes
  | _, _, .nil _ _ => []
  | _, _, .cons x y rest => x.enc w ++ (y.enc w ++ rest.enc w)

def Members.enc (w : Format) : Members → BitVec 16 → Bytes
  | .nil, _ => []
  | .cons id _ x rest, last => x.field w last id (x.enc w) ++ rest.enc w (w.next id)

end

mutual

/-- What the readers of the format take: strings and containers within the
limits, and no map of a size that it cannot read. -/
def Value.Within (w : Format) : {k : Kind} → Value k → Prop
  | _, .bool _ => True
  | _, .byte _ => True
  | _, .i16 _ => True
  | _, .i32 _ => True
  | _, .i64 _ => True
  | _, .double _ => True
  | _, .string x => x.length ≤ maxStringLimit
  | _, .struct members => members.Within w
  | _, .map _ _ entries =>
    (entries.length ≤ maxContainerLimit ∧ w.readsMap entries.length = true) ∧ entries.Within w
  | _, .set _ items => items.length ≤ maxContainerLimit ∧ items.Within w
  | _, .list _ items => items.length ≤ maxContainerLimit ∧ items.Within w

def Items.Within (w : Format) : {k : Kind} → Items k → Prop
  | _, .nil _ => True
  | _, .cons x rest => x.Within w ∧ rest.Within w

def Entries.Within (w : Format) : {k l : Kind} → Entries k l → Prop
  | _, _, .nil _ _ => True
  | _, _, .cons x y rest => x.Within w ∧ (y.Within w ∧ rest.Within w)

def Members.Within (w : Format) : Members → Prop
  | .nil => True
  | .cons _ _ x rest => x.Within w ∧ rest.Within w

end

theorem Value.field_other {k : Kind} (other : k ≠ .bool) (w : Format) (x : Value k) (last id : BitVec 16)
    (bytes : Bytes) :
    x.field w last id bytes = w.fieldBegin last k.ttype id ++ bytes := by
  cases x with
  | bool b => exact absurd rfl other
  | _ => rfl

/-- Every primitive of the format takes at least a byte. -/
structure Format.Filled (w : Format) : Prop where
  i16 : ∀ x, w.i16 x ≠ []
  i32 : ∀ x, w.i32 x ≠ []
  i64 : ∀ x, w.i64 x ≠ []
  string : ∀ x, x.length < (w.string x).length
  listBegin : ∀ elem size, w.listBegin elem size ≠ []
  mapBegin : ∀ key value size, w.mapBegin key value size ≠ []
  fieldBegin : ∀ last type id, w.fieldBegin last type id ≠ []
  boolField : ∀ last id b, w.boolField last id b ≠ []

namespace Format.Filled
variable {w : Format}

theorem value (filled : w.Filled) {k : Kind} (x : Value k) : 0 < (x.enc w).length := by
  refine List.length_pos_of_ne_nil ?_
  cases x with
  | bool b => exact List.cons_ne_nil _ _
  | byte x => exact List.cons_ne_nil _ _
  | i16 x => exact filled.i16 x
  | i32 x => exact filled.i32 x
  | i64 x => exact filled.i64 x
  | double bits =>
    rw [Value.enc, ← List.length_pos_iff_ne_nil, toBE_length]
    decide
  | string x => exact List.ne_nil_of_length_pos (Nat.zero_lt_of_lt (filled.string x))
  | struct members => exact List.append_ne_nil_of_right_ne_nil _ (List.cons_ne_nil _ _)
  | map key value entries => exact List.append_ne_nil_of_left_ne_nil (filled.mapBegin _ _ _) _
  | set elem items => exact List.append_ne_nil_of_left_ne_nil (filled.listBegin _ _) _
  | list elem items => exact List.append_ne_nil_of_left_ne_nil (filled.listBegin _ _) _

theorem field (filled : w.Filled) {k : Kind} (x : Value k) (last id : BitVec 16) (bytes : Bytes) :
    x.field w last id bytes ≠ [] := by
  cases x with
  | bool b => exact filled.boolField last id b
  | _ => exact List.append_ne_nil_of_left_ne_nil (filled.fieldBegin last _ id) _

theorem field_length (filled : w.Filled) {k : Kind} (x : Value k) (last id : BitVec 16) :
    (x.enc w).length ≤ (x.field w last id (x.enc w)).length := by
  by_cases isBool : k = .bool
  · subst isBool
    have header := List.length_pos_of_ne_nil (filled.field x last id (x.enc w))
    obtain ⟨b⟩ := x
    exact header
  · rw [Value.field_other isBool, List.length_append]
    exact Nat.le_add_left _ _

theorem items (filled : w.Filled) {k : Kind} : (xs : Items k) → xs.length ≤ (xs.enc w).length
  | .nil _ => le_rfl
  | .cons x rest => by
    have first := filled.value x
    have later := filled.items rest
    simp only [Items.length, Items.enc, List.length_append]
    omega

theorem entries (filled : w.Filled) {k l : Kind} : (xs : Entries k l) → xs.length ≤ (xs.enc w).length
  | .nil _ _ => le_rfl
  | .cons x y rest => by
    have first := filled.value x
    have later := filled.entries rest
    simp only [Entries.length, Entries.enc, List.length_append]
    omega

theorem members (filled : w.Filled) : (xs : Members) → (last : BitVec 16) → xs.length ≤ (xs.enc w last).length
  | .nil, _ => le_rfl
  | .cons id _ x rest, last => by
    have first := List.length_pos_of_ne_nil (filled.field x last id (x.enc w))
    have later := filled.members rest (w.next id)
    simp only [Members.length, Members.enc, List.length_append]
    omega

end Format.Filled

end DbcNode

namespace DbcNode

theorem ByteBuf.grow_data {b grown : ByteBuf} {bytes : Bytes} {rounds newLen : Nat}
    (done : b.grow bytes rounds newLen = .ok grown) : grown.data = b.data ++ bytes := by
  induction rounds generalizing newLen with
  | zero => cases done
  | succ rounds ih =>
    rw [ByteBuf.grow] at done
    split at done
    · split at done
      · cases done
        rfl
      · exact ih done
    · cases done

/-- A write that returns has appended, whatever buffer it was made to. -/
theorem ByteBuf.writeToByteBuf_data {b b' : ByteBuf} {bytes : Bytes}
    (done : writeToByteBuf bytes b = (.ok (), b')) :
    b'.data = b.data ++ bytes := by
  rw [writeToByteBuf] at done
  split at done
  · cases done
  · split at done
    · cases done
      rfl
    · split at done
      · split at done
        · rename_i grown
          cases done
          exact ByteBuf.grow_data grown
        · cases done
      · cases done

namespace Format
variable {w : Format} {pend : Option (TType × BitVec 16)} {m n : Call Unit} {c c' c'' : BitVec 16}
    {bytes more : Bytes}

/-- A call that returns has appended these bytes; the boolean field that
waits is the same before and after it. -/
def Puts (w : Format) (pend : Option (TType × BitVec 16)) (m : Call Unit) (c c' : BitVec 16)
    (bytes : Bytes) : Prop :=
  ∀ st st', st.booleanField = pend → w.cursor st = c → m st = (.ok (), st') →
    st'.buf.data = st.buf.data ++ bytes ∧ w.cursor st' = c' ∧ st'.booleanField = pend ∧ st'.lastField = st.lastField

theorem Puts.pure : w.Puts pend (Pure.pure ()) c c [] := by
  intro st st' calm placed done
  cases done
  exact ⟨(List.append_nil _).symm, placed, calm, rfl⟩

theorem Puts.bind (first : w.Puts pend m c c' bytes) (second : w.Puts pend n c' c'' more) :
    w.Puts pend (m >>= fun _ => n) c c'' (bytes ++ more) := by
  intro st st'' calm placed done
  rcases Prog.bind_cases done with ⟨⟨⟩, st', ran, ran'⟩ | ⟨e, _, failed⟩
  · obtain ⟨data, there, still, stack⟩ := first st st' calm placed ran
    obtain ⟨data', there', still', stack'⟩ := second st' st'' still there ran'
    refine ⟨?_, there', still', stack'.trans stack⟩
    rw [data', data, List.append_assoc]
  · cases failed

theorem Puts.put (bytes : Bytes) : w.Puts pend (DbcNode.put bytes) c c bytes := by
  intro st st' calm placed done
  rcases ran : ByteBuf.writeToByteBuf bytes st.buf with ⟨result, buf⟩
  rw [DbcNode.put, onBuf, ran] at done
  cases done
  exact ⟨ByteBuf.writeToByteBuf_data ran, placed, calm, rfl⟩

theorem Puts.throwing (e : Exn) : w.Puts pend (Prog.throwing e) c c' bytes := by
  intro st st' _ _ done
  cases done

end Format

/-- The writing half of a protocol puts every primitive of the format on the
wire. -/
structure Protocol.Prints (p : Protocol) (w : Format) : Prop where
  bool : ∀ c b, w.Puts none (p.writeBool b) c c [w.bool b]
  byte : ∀ c x, w.Puts none (p.writeByte x) c c [x]
  i16 : ∀ c x, w.Puts none (p.writeI16 x) c c (w.i16 x)
  i32 : ∀ c x, w.Puts none (p.writeI32 x) c c (w.i32 x)
  i64 : ∀ c x, w.Puts none (p.writeI64 x) c c (w.i64 x)
  double : ∀ c (x : BitVec 64), w.Puts none (p.writeDouble x) c c (toBE 8 x.toNat)
  string : ∀ c x, w.Puts none (p.writeString x) c c (w.string x)
  listBegin : ∀ c elem size, w.Puts none (p.writeListBegin elem size) c c (w.listBegin elem size)
  setBegin : ∀ c elem size, w.Puts none (p.writeSetBegin elem size) c c (w.listBegin elem size)
  mapBegin : ∀ c key value size, w.Puts none (p.writeMapBegin key value size) c c (w.mapBegin key value size)
  fieldBegin : ∀ c type id, type ≠ tBool →
    w.Puts none (p.writeFieldBegin type id) c (w.next id) (w.fieldBegin c type id)
  boolField : ∀ c id b, w.Puts none (do p.writeFieldBegin tBool id; p.writeBool b) c (w.next id)
    (w.boolField c id b)
  fieldStop : ∀ c, w.Puts none p.writeFieldStop c c [tStop]
  struct : ∀ c c' m bytes, w.Puts none m 0 c' bytes →
    w.Puts none (do p.writeStructBegin; m; p.writeStructEnd) c c bytes

namespace Protocol.Prints
variable {p : Protocol} {w : Format}

/-- The header of a field and its value, which for a boolean are written
together. -/
theorem field (prints : p.Prints w) {k : Kind} (x : Value k) (c id : BitVec 16)
    (value : w.Puts none (x.write p) (w.next id) (w.next id) (x.enc w)) :
    w.Puts none (do p.writeFieldBegin k.ttype id; x.write p) c (w.next id) (x.field w c id (x.enc w)) := by
  by_cases isBool : k = .bool
  · subst isBool
    obtain ⟨b⟩ := x
    exact prints.boolField c id b
  · rw [Value.field_other isBool]
    exact (prints.fieldBegin c _ id (Kind.ttype_ne_tBool isBool)).bind value

mutual

theorem value (prints : p.Prints w) : ∀ {k : Kind} (x : Value k) (c : BitVec 16),
    w.Puts none (x.write p) c c (x.enc w)
  | _, .bool b, c => prints.bool c b
  | _, .byte x, c => prints.byte c x
  | _, .i16 x, c => prints.i16 c x
  | _, .i32 x, c => prints.i32 c x
  | _, .i64 x, c => prints.i64 c x
  | _, .double bits, c => prints.double c bits
  | _, .string x, c => prints.string c x
  | _, .struct xs, c => by
    obtain ⟨c', wrote⟩ := members prints xs 0
    have body := prints.struct c c' _ _ (wrote.bind (prints.fieldStop c'))
    simpa only [Value.write, Value.enc, bind_assoc] using body
  | _, .map key value entries, c => by
    rw [Value.write, Value.enc]
    exact (prints.mapBegin c _ _ _).bind (pairs prints entries c)
  | _, .set elem xs, c => by
    rw [Value.write, Value.enc]
    exact (prints.setBegin c _ _).bind (items prints xs c)
  | _, .list elem xs, c => by
    rw [Value.write, Value.enc]
    exact (prints.listBegin c _ _).bind (items prints xs c)

theorem items (prints : p.Prints w) : ∀ {k : Kind} (xs : Items k) (c : BitVec 16),
    w.Puts none (xs.write p) c c (xs.enc w)
  | _, .nil _, _ => Format.Puts.pure
  | _, .cons x rest, c => (value prints x c).bind (items prints rest c)

theorem pairs (prints : p.Prints w) : ∀ {k l : Kind} (xs : Entries k l) (c : BitVec 16),
    w.Puts none (xs.write p) c c (xs.enc w)
  | _, _, .nil _ _, _ => Format.Puts.pure
  | _, _, .cons x y rest, c => (value prints x c).bind ((value prints y c).bind (pairs prints rest c))

theorem members (prints : p.Prints w) :
    ∀ (xs : Members) (c : BitVec 16), ∃ c', w.Puts none (xs.write p) c c' (xs.enc w c)
  | .nil, c => ⟨c, Format.Puts.pure⟩
  | .cons id k x rest, c => by
    obtain ⟨c', wrote⟩ := members prints rest (w.next id)
    have both := (field prints x c id (value prints x (w.next id))).bind wrote
    refine ⟨c', ?_⟩
    simpa only [Members.write, Members.enc, bind_assoc] using both

end

end Protocol.Prints

end DbcNode
