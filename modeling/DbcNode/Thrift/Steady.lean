import DbcNode.Thrift.Agree
import DbcNode.Thrift.Binary
import DbcNode.Thrift.CompactWire

namespace DbcNode

/-- Two protocol objects that write to the same buffer. -/
structure Level (w : Wire) (marks : Marks) (s t : ProtState) : Prop where
  buf : s.buf = t.buf
  left : w.cursor s = marks.left
  right : w.cursor t = marks.right
  leftStack : s.lastField = marks.leftStack
  rightStack : t.lastField = marks.rightStack
  leftSettled : s.Settled
  rightSettled : t.Settled

/-- What is left of that when a write does not end well. -/
structure Spoilt (s t : ProtState) : Prop where
  buf : s.buf = t.buf
  left : s.Settled
  right : t.Settled

theorem Level.spoilt {w : Wire} {marks : Marks} {s t : ProtState} (level : Level w marks s t) : Spoilt s t :=
  ⟨level.buf, level.leftSettled, level.rightSettled⟩

/-- The call writes the same to both buffers and restores the cursors. -/
def Keeps (w : Wire) (m : Call Unit) : Prop :=
  ∀ marks, Prog.Couples (Level w marks) m (fun _ => Level w marks) (fun _ => Spoilt)

namespace Keeps
variable {w : Wire} {m n : Call Unit}

theorem pure : Keeps w (Pure.pure ()) := fun _ => Prog.Couples.pure _ (fun _ _ level => level)

theorem throwing (x : Exn) : Keeps w (Prog.throwing x) :=
    fun _ => Prog.Couples.stop _ (fun _ _ level => level.spoilt)

theorem bind (first : Keeps w m) (second : Keeps w n) : Keeps w (m >>= fun _ => n) :=
  fun marks => (first marks).bind (fun _ => second marks)

theorem ite {p : Prop} [Decidable p] (yes : Keeps w m) (no : Keeps w n) : Keeps w (if p then m else n) := by
  split
  · exact yes
  · exact no

theorem put (bytes : Bytes) : Keeps w (DbcNode.put bytes) := by
  intro marks s t level
  rw [DbcNode.put, onBuf, onBuf, ← level.buf]
  obtain ⟨_ | _, buf⟩ := ByteBuf.writeToByteBuf bytes s.buf
  · exact ⟨rfl, rfl, ⟨level.leftSettled.bool, level.leftSettled.field⟩,
      ⟨level.rightSettled.bool, level.rightSettled.field⟩⟩
  · exact ⟨rfl, rfl, level.left, level.right, level.leftStack, level.rightStack,
      ⟨level.leftSettled.bool, level.leftSettled.field⟩, ⟨level.rightSettled.bool, level.rightSettled.field⟩⟩

theorem forM {α : Type} {step : α → Call Unit} (xs : List α) (one : ∀ x, Keeps w (step x)) :
    Keeps w (xs.forM step) := by
  induction xs with
  | nil => exact pure
  | cons x xs ih => exact (one x).bind ih

end Keeps

/-- The writing half of a protocol does the same for every history of its
object. -/
structure Protocol.Steady (p : Protocol) (w : Wire) : Prop where
  i16 : ∀ x, Keeps w (p.writeI16 x)
  i32 : ∀ x, Keeps w (p.writeI32 x)
  i64 : ∀ x, Keeps w (p.writeI64 x)
  string : ∀ x, Keeps w (p.writeString x)
  listBegin : ∀ elem size, Keeps w (p.writeListBegin elem size)
  mapBegin : ∀ key value size, Keeps w (p.writeMapBegin key value size)
  fieldStop : Keeps w p.writeFieldStop
  fieldBegin : ∀ (t : Ty) id c leftStack rightStack, Prog.Couples (Level w ⟨c, c, leftStack, rightStack⟩)
    (p.writeFieldBegin t.ttype id) (fun _ => Level w ⟨w.next id, w.next id, leftStack, rightStack⟩)
      (fun _ => Spoilt)
  struct : ∀ m, (∀ leftStack rightStack, Prog.Couples (Level w ⟨0, 0, leftStack, rightStack⟩) m
      (fun _ s t => ∃ c, Level w ⟨c, c, leftStack, rightStack⟩ s t) (fun _ => Spoilt)) →
    Keeps w (do p.writeStructBegin; m; p.writeStructEnd)

namespace Protocol.Steady
variable {p : Protocol} {w : Wire}

mutual

theorem ty (steady : p.Steady w) : (t : Ty) → (x : t.Val) → Keeps w (t.write p x)
  | .i16, x => steady.i16 x
  | .i32, x => steady.i32 x
  | .i64, x => steady.i64 x
  | .string, x => steady.string x
  | .list elem, xs => (steady.listBegin _ _).bind (Keeps.forM _ (fun x => ty steady elem x))
  | .map value, m => (steady.mapBegin _ _ _).bind
    (Keeps.forM _ (fun entry => (steady.string entry.1).bind (ty steady value entry.2)))
  | .struct fs, x => by
    have body := steady.struct (do fs.write p x; p.writeFieldStop) (fun leftStack rightStack =>
      (fields steady fs x 0 leftStack rightStack).bind (fun _ => Prog.Couples.some (fun c =>
        (steady.fieldStop ⟨c, c, leftStack, rightStack⟩).mono (fun _ _ level => level)
          (fun _ _ _ level => ⟨c, level⟩))))
    simpa only [Ty.write, bind_assoc] using body

theorem fields (steady : p.Steady w) : (fs : Fields) → (x : fs.Val) → ∀ c leftStack rightStack,
    Prog.Couples (Level w ⟨c, c, leftStack, rightStack⟩) (fs.write p x)
      (fun _ s t => ∃ c', Level w ⟨c', c', leftStack, rightStack⟩ s t) (fun _ => Spoilt)
  | .nil, _, c, _, _ => Prog.Couples.pure _ (fun _ _ level => ⟨c, level⟩)
  | .required id t rest, (x, xs), c, leftStack, rightStack =>
    (steady.fieldBegin t id c leftStack rightStack).bind (fun _ =>
      (ty steady t x _).bind (fun _ => fields steady rest xs _ leftStack rightStack))
  | .optional _ _ rest, (none, xs), c, leftStack, rightStack => fields steady rest xs c leftStack rightStack
  | .optional id t rest, (some x, xs), c, leftStack, rightStack =>
    (steady.fieldBegin t id c leftStack rightStack).bind (fun _ =>
      (ty steady t x _).bind (fun _ => fields steady rest xs _ leftStack rightStack))

end

end Protocol.Steady

namespace Binary

theorem writeByte_keeps (b : UInt8) : Keeps wire (writeByte b) := Keeps.put [b]

theorem writeI16_keeps (x : BitVec 16) : Keeps wire (writeI16 x) := Keeps.put (toBE 2 x.toNat)

theorem writeI32_keeps (x : BitVec 32) : Keeps wire (writeI32 x) := Keeps.put (toBE 4 x.toNat)

theorem writeI64_keeps (x : BitVec 64) : Keeps wire (writeI64 x) := Keeps.put (toBE 8 x.toNat)

theorem writeString_keeps (x : Bytes) : Keeps wire (writeString x) :=
  Keeps.ite (Keeps.throwing _) ((writeI32_keeps _).bind (Keeps.ite (Keeps.put x) Keeps.pure))

theorem steady : protocol.Steady wire where
  i16 := writeI16_keeps
  i32 := writeI32_keeps
  i64 := writeI64_keeps
  string := writeString_keeps
  listBegin elem size := (writeByte_keeps elem).bind (writeI32_keeps _)
  mapBegin key value size := (writeByte_keeps key).bind ((writeByte_keeps value).bind (writeI32_keeps _))
  fieldStop := writeByte_keeps tStop
  fieldBegin t id c leftStack rightStack := by
    intro s t' level
    have zero : 0 = c := level.left
    subst zero
    exact ((writeByte_keeps t.ttype).bind (writeI16_keeps id)) _ s t' level
  struct m body := by
    intro marks s t level
    obtain ⟨left, right, leftStack, rightStack⟩ := marks
    have atLeft : 0 = left := level.left
    have atRight : 0 = right := level.right
    subst atLeft atRight
    have whole := (body leftStack rightStack).mono (B := fun _ => Level wire ⟨0, 0, leftStack, rightStack⟩)
      (fun _ _ level => level) (by
        rintro _ s t ⟨c, after⟩
        have zero : 0 = c := after.left
        subst zero
        exact after)
    exact (whole.bind (f := fun _ => Pure.pure ())
      (fun _ => Prog.Couples.pure _ (fun _ _ level => level))) s t level

end Binary

namespace Compact

theorem writeByte_keeps (b : UInt8) : Keeps wire (writeByte b) := Keeps.put [b]

theorem writeVarint32_keeps (n : BitVec 32) : Keeps wire (writeVarint32 n) := Keeps.put (varint 5 n.toNat)

theorem writeVarint64_keeps (n : BitVec 64) : Keeps wire (writeVarint64 n) := Keeps.put (varint 10 n.toNat)

theorem writeBinary_keeps (x : Bytes) : Keeps wire (writeBinary x) :=
  Keeps.ite (Keeps.throwing _) ((writeVarint32_keeps _).bind
    (Keeps.ite (Keeps.throwing _) (Keeps.ite (Keeps.put x) Keeps.pure)))

theorem writeFieldBegin_couples (t : Ty) (id c : BitVec 16) (leftStack rightStack : List (BitVec 16)) :
    Prog.Couples (Level wire ⟨c, c, leftStack, rightStack⟩) (writeFieldBegin t.ttype id)
      (fun _ => Level wire ⟨wire.next id, wire.next id, leftStack, rightStack⟩) (fun _ => Spoilt) := by
  rw [writeFieldBegin, if_neg t.ttype_ne_tBool, writeFieldBeginInternal]
  refine Prog.Couples.bind (Q := fun _ => Level wire ⟨c, c, leftStack, rightStack⟩) (Prog.Couples.fetch ?_)
    (fun last => ?_)
  · intro s t' level
    have left : s.lastFieldId = c := level.left
    have right : t'.lastFieldId = c := level.right
    exact ⟨left.trans right.symm, level⟩
  · have moved : Prog.Couples (Level wire ⟨c, c, leftStack, rightStack⟩)
      (Prog.update ({ · with lastFieldId := id }))
        (fun _ => Level wire ⟨wire.next id, wire.next id, leftStack, rightStack⟩) (fun (_ : Stop Exn) => Spoilt) :=
      Prog.Couples.update (fun s t' level => ⟨level.buf, rfl, rfl, level.leftStack, level.rightStack,
        ⟨level.leftSettled.bool, level.leftSettled.field⟩, ⟨level.rightSettled.bool, level.rightSettled.field⟩⟩)
    split
    · exact (writeByte_keeps _ _).bind (fun _ => moved)
    · exact (writeByte_keeps _ _).bind (fun _ => (writeVarint32_keeps _ _).bind (fun _ => moved))

theorem struct_keeps {m : Call Unit} (body : ∀ leftStack rightStack,
    Prog.Couples (Level wire ⟨0, 0, leftStack, rightStack⟩) m
      (fun _ s t => ∃ c, Level wire ⟨c, c, leftStack, rightStack⟩ s t) (fun _ => Spoilt)) :
    Keeps wire (do structBegin; m; structEnd) := by
  intro marks
  refine Prog.Couples.bind (Q := fun _ => Level wire ⟨0, 0, marks.left :: marks.leftStack,
    marks.right :: marks.rightStack⟩) (Prog.Couples.update ?_) (fun _ => (body _ _).bind (fun _ => ?_))
  · intro s t level
    have left : s.lastFieldId = marks.left := level.left
    have right : t.lastFieldId = marks.right := level.right
    exact ⟨level.buf, rfl, rfl, by rw [← left, ← level.leftStack], by rw [← right, ← level.rightStack],
      ⟨level.leftSettled.bool, level.leftSettled.field⟩, ⟨level.rightSettled.bool, level.rightSettled.field⟩⟩
  · rintro s t ⟨c, level⟩
    have left : structEnd s = (.ok (), { s with lastField := marks.leftStack, lastFieldId := marks.left }) := by
      simp only [structEnd, level.leftStack]
    have right : structEnd t = (.ok (), { t with lastField := marks.rightStack, lastFieldId := marks.right }) := by
      simp only [structEnd, level.rightStack]
    rw [left, right]
    exact ⟨rfl, level.buf, rfl, rfl, rfl, rfl, ⟨level.leftSettled.bool, level.leftSettled.field⟩,
      ⟨level.rightSettled.bool, level.rightSettled.field⟩⟩

theorem steady : protocol.Steady wire where
  i16 _ := writeVarint32_keeps _
  i32 _ := writeVarint32_keeps _
  i64 _ := writeVarint64_keeps _
  string := writeBinary_keeps
  listBegin _ _ := Keeps.ite (writeByte_keeps _) ((writeByte_keeps _).bind (writeVarint32_keeps _))
  mapBegin _ _ _ := Keeps.ite (writeByte_keeps _) ((writeVarint32_keeps _).bind (writeByte_keeps _))
  fieldStop := writeByte_keeps tStop
  fieldBegin := writeFieldBegin_couples
  struct _ body := struct_keeps body

end Compact

end DbcNode
