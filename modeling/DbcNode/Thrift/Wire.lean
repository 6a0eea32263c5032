import DbcNode.Thrift.Schema

namespace DbcNode

/-- A wire format, apart from any buffer: the bytes of each primitive. With
`delta`, a field header depends on the id of the field before it; `readsMap`
says which map sizes the reader of the format accepts. -/
structure Wire where
  delta : Bool
  fieldBegin : BitVec 16 → TType → BitVec 16 → Bytes
  listBegin : TType → Nat → Bytes
  mapBegin : TType → TType → Nat → Bytes
  i16 : BitVec 16 → Bytes
  i32 : BitVec 32 → Bytes
  i64 : BitVec 64 → Bytes
  string : Bytes → Bytes
  readsMap : Nat → Bool

namespace Wire

/-- The field id that the next field header is relative to. -/
def cursor (w : Wire) (st : ProtState) : BitVec 16 := if w.delta then st.lastFieldId else 0

def next (w : Wire) (id : BitVec 16) : BitVec 16 := if w.delta then id else 0

end Wire

mutual

def Ty.enc (w : Wire) : (t : Ty) → t.Val → Bytes
  | .i16, x => w.i16 x
  | .i32, x => w.i32 x
  | .i64, x => w.i64 x
  | .string, x => w.string x
  | .list elem, xs => w.listBegin elem.ttype xs.length ++ xs.flatMap (elem.enc w)
  | .map value, m =>
    w.mapBegin tString value.ttype m.entries.length ++
      m.entries.flatMap (fun entry => w.string entry.1 ++ value.enc w entry.2)
  | .struct fields, x => fields.enc w 0 x ++ [tStop]

def Fields.enc (w : Wire) : (fs : Fields) → BitVec 16 → fs.Val → Bytes
  | .nil, _, _ => []
  | .required id type rest, last, (x, xs) =>
    w.fieldBegin last type.ttype id ++ (type.enc w x ++ rest.enc w (w.next id) xs)
  | .optional _ _ rest, last, (none, xs) => rest.enc w last xs
  | .optional id type rest, last, (some x, xs) =>
    w.fieldBegin last type.ttype id ++ (type.enc w x ++ rest.enc w (w.next id) xs)

end

mutual

/-- What a reader of the format takes: strings and containers within the
limits, and no map of a size it cannot read. -/
def Ty.Within (w : Wire) : (t : Ty) → t.Val → Prop
  | .i16, _ => True
  | .i32, _ => True
  | .i64, _ => True
  | .string, x => List.length x ≤ maxStringLimit
  | .list elem, xs => xs.length ≤ maxContainerLimit ∧ ∀ x ∈ xs, elem.Within w x
  | .map value, m =>
    (m.entries.length ≤ maxContainerLimit ∧ w.readsMap m.entries.length = true) ∧
      ∀ entry ∈ m.entries, entry.1.length ≤ maxStringLimit ∧ value.Within w entry.2
  | .struct fields, x => fields.Within w x

def Fields.Within (w : Wire) : (fs : Fields) → fs.Val → Prop
  | .nil, _ => True
  | .required _ type rest, (x, xs) => type.Within w x ∧ rest.Within w xs
  | .optional _ type rest, (x, xs) => (∀ y, x = some y → type.Within w y) ∧ rest.Within w xs

end

/-- How many members the writer puts on the wire. -/
def Fields.present : (fs : Fields) → fs.Val → Nat
  | .nil, _ => 0
  | .required _ _ rest, (_, xs) => rest.present xs + 1
  | .optional _ _ rest, (none, xs) => rest.present xs
  | .optional _ _ rest, (some _, xs) => rest.present xs + 1

def Fields.ids : Fields → List (BitVec 16)
  | .nil => []
  | .required id _ rest => id :: rest.ids
  | .optional id _ rest => id :: rest.ids

mutual

/-- No class gives two of its members one id. -/
def Ty.Distinct : Ty → Prop
  | .list elem => elem.Distinct
  | .map value => value.Distinct
  | .struct fields => fields.ids.Nodup ∧ fields.Distinct
  | _ => True

def Fields.Distinct : Fields → Prop
  | .nil => True
  | .required _ type rest => type.Distinct ∧ rest.Distinct
  | .optional _ type rest => type.Distinct ∧ rest.Distinct

end

/-- The buffer has grown by these bytes and the rest of the object is as it
was, the last field id apart. -/
structure Wrote (st st' : ProtState) (bytes : Bytes) : Prop where
  appendable : st'.buf.Appendable
  data : st'.buf.data = st.buf.data ++ bytes
  stack : st'.lastField = st.lastField
  bool : st'.boolValue = st.boolValue
  field : st'.booleanField = st.booleanField

theorem Wrote.trans {a b c : ProtState} {first second : Bytes} (left : Wrote a b first)
    (right : Wrote b c second) : Wrote a c (first ++ second) where
  appendable := right.appendable
  data := by rw [right.data, left.data, List.append_assoc]
  stack := right.stack.trans left.stack
  bool := right.bool.trans left.bool
  field := right.field.trans left.field

namespace Wire
variable {w : Wire} {m n : Call Unit} {c c' c'' : BitVec 16} {bytes more : Bytes}

/-- From a buffer that is only appended to, the call appends exactly these
bytes, or throws because they do not fit. It never ends in another way. -/
def Emits (w : Wire) (m : Call Unit) (c c' : BitVec 16) (bytes : Bytes) : Prop :=
  ∀ st, st.buf.Appendable → w.cursor st = c →
    (∃ st', m st = (.ok (), st') ∧ Wrote st st' bytes ∧ w.cursor st' = c') ∨
      (∃ e st', m st = (.error (.thrown e), st') ∧ ByteBuf.capacity ≤ st.buf.data.length + bytes.length)

theorem Emits.pure : w.Emits (Pure.pure ()) c c [] := by
  intro st appendable placed
  exact Or.inl ⟨st, rfl, ⟨appendable, by simp, rfl, rfl, rfl⟩, placed⟩

theorem Emits.bind (first : w.Emits m c c' bytes) (second : w.Emits n c' c'' more) :
    w.Emits (m >>= fun _ => n) c c'' (bytes ++ more) := by
  intro st appendable placed
  rcases first st appendable placed with ⟨st', ran, wrote, there⟩ | ⟨e, st', ran, full⟩
  · rw [Prog.bind_ok ran]
    rcases second st' wrote.appendable there with ⟨st'', ran', wrote', there'⟩ | ⟨e, st'', ran', full⟩
    · exact Or.inl ⟨st'', ran', wrote.trans wrote', there'⟩
    · refine Or.inr ⟨e, st'', ran', ?_⟩
      rw [wrote.data] at full
      simp only [List.length_append] at full ⊢
      omega
  · refine Or.inr ⟨e, st', Prog.bind_error ran, ?_⟩
    rw [List.length_append]
    omega

theorem Emits.put (some : bytes ≠ []) : w.Emits (DbcNode.put bytes) c c bytes := by
  intro st appendable placed
  rcases appendable.write some with ⟨buf, ran, still, appended⟩ | ⟨ran, full⟩
  · refine Or.inl ⟨{ st with buf }, ?_, ⟨still, appended, rfl, rfl, rfl⟩, placed⟩
    simp only [DbcNode.put, onBuf, ran]
  · refine Or.inr ⟨.lengthError, st, ?_, full⟩
    simp only [DbcNode.put, onBuf, ran]

theorem Emits.forM {α : Type} {step : α → Call Unit} {enc : α → Bytes} (xs : List α)
    (one : ∀ x ∈ xs, w.Emits (step x) c c (enc x)) : w.Emits (xs.forM step) c c (xs.flatMap enc) := by
  induction xs with
  | nil => exact Emits.pure
  | cons x xs ih =>
    exact (one x List.mem_cons_self).bind (ih (fun y member => one y (List.mem_cons_of_mem _ member)))

end Wire

/-- The writing half of a protocol puts the primitives of the format on the
wire. -/
structure Protocol.Writes (p : Protocol) (w : Wire) : Prop where
  i16 : ∀ c x, w.Emits (p.writeI16 x) c c (w.i16 x)
  i32 : ∀ c x, w.Emits (p.writeI32 x) c c (w.i32 x)
  i64 : ∀ c x, w.Emits (p.writeI64 x) c c (w.i64 x)
  string : ∀ c x, w.Emits (p.writeString x) c c (w.string x)
  listBegin : ∀ c elem size, w.Emits (p.writeListBegin elem size) c c (w.listBegin elem size)
  mapBegin : ∀ c key value size, w.Emits (p.writeMapBegin key value size) c c (w.mapBegin key value size)
  fieldBegin : ∀ c (t : Ty) id,
    w.Emits (p.writeFieldBegin t.ttype id) c (w.next id) (w.fieldBegin c t.ttype id)
  fieldStop : ∀ c, w.Emits p.writeFieldStop c c [tStop]
  struct : ∀ c c' m bytes, w.Emits m 0 c' bytes →
    w.Emits (do p.writeStructBegin; m; p.writeStructEnd) c c bytes

namespace Protocol.Writes
variable {p : Protocol} {w : Wire}

mutual

theorem ty (writes : p.Writes w) : ∀ (t : Ty) (c : BitVec 16) (x : t.Val), w.Emits (t.write p x) c c (t.enc w x)
  | .i16, c, x => writes.i16 c x
  | .i32, c, x => writes.i32 c x
  | .i64, c, x => writes.i64 c x
  | .string, c, x => writes.string c x
  | .list elem, c, xs => by
    simp only [Ty.write, Ty.enc]
    exact (writes.listBegin c _ _).bind (Wire.Emits.forM _ (fun x _ => ty writes elem c x))
  | .map value, c, m => by
    simp only [Ty.write, Ty.enc]
    refine (writes.mapBegin c _ _ _).bind (Wire.Emits.forM _ (fun entry _ => ?_))
    exact (writes.string c entry.1).bind (ty writes value c entry.2)
  | .struct fs, c, x => by
    obtain ⟨c', wrote⟩ := fields writes fs 0 x
    have body := writes.struct c c' _ _ (wrote.bind (writes.fieldStop c'))
    simpa only [Ty.write, Ty.enc, bind_assoc] using body

theorem fields (writes : p.Writes w) :
    ∀ (fs : Fields) (c : BitVec 16) (x : fs.Val), ∃ c', w.Emits (fs.write p x) c c' (fs.enc w c x)
  | .nil, c, _ => ⟨c, Wire.Emits.pure⟩
  | .required id t rest, c, (x, xs) => by
    obtain ⟨c', wrote⟩ := fields writes rest (w.next id) xs
    exact ⟨c', (writes.fieldBegin c t id).bind ((ty writes t _ x).bind wrote)⟩
  | .optional _ _ rest, c, (none, xs) => fields writes rest c xs
  | .optional id t rest, c, (some x, xs) => by
    obtain ⟨c', wrote⟩ := fields writes rest (w.next id) xs
    exact ⟨c', (writes.fieldBegin c t id).bind ((ty writes t _ x).bind wrote)⟩

end

end Protocol.Writes

end DbcNode
