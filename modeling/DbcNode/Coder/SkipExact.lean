import DbcNode.Coder.History
import DbcNode.Thrift.BinaryValues
import DbcNode.Thrift.Compact
import DbcNode.Thrift.CompactValues

namespace DbcNode

/-- The call leaves the last field id and the stack below it alone, however
it ends. -/
def Still {α : Type} (m : Call α) : Prop :=
  ∀ st, (m st).2.lastFieldId = st.lastFieldId ∧ (m st).2.lastField = st.lastField

namespace Still
variable {α β γ : Type}

theorem pure (a : α) : Still (Pure.pure a) := fun _ => ⟨rfl, rfl⟩

theorem stop (e : Stop Exn) : Still (Prog.stop e : Call α) := fun _ => ⟨rfl, rfl⟩

theorem onBuf (m : Prog Exn ByteBuf α) : Still (DbcNode.onBuf m) := fun _ => ⟨rfl, rfl⟩

theorem fetch (f : ProtState → α) : Still (Prog.fetch f) := fun _ => ⟨rfl, rfl⟩

theorem update {f : ProtState → ProtState}
    (same : ∀ st, (f st).lastFieldId = st.lastFieldId ∧ (f st).lastField = st.lastField) :
    Still (Prog.update f) := same

theorem bind {m : Call α} {f : α → Call β} (first : Still m) (second : ∀ a, Still (f a)) : Still (m >>= f) := by
  intro st
  rcases ran : m st with ⟨result, st'⟩
  have same := first st
  rw [ran] at same
  cases result with
  | ok a =>
    obtain ⟨id, stack⟩ := second a st'
    rw [Prog.bind_ok ran]
    exact ⟨id.trans same.1, stack.trans same.2⟩
  | error e =>
    rw [Prog.bind_error ran]
    exact same

theorem ite {p : Prop} [Decidable p] {m n : Call α} (yes : Still m) (no : Still n) :
    Still (if p then m else n) := by
  split
  · exact yes
  · exact no

theorem iterate {f : β → Call β} (one : ∀ b, Still (f b)) (n : Nat) (b : β) : Still (Prog.iterate n f b) := by
  induction n generalizing b with
  | zero => exact pure b
  | succ n ih => exact (one b).bind ih

theorem loop {f : β → Call (β ⊕ γ)} (one : ∀ b, Still (f b)) (n : Nat) (b : β) : Still (Prog.loop n f b) := by
  induction n generalizing b with
  | zero => exact stop .diverged
  | succ n ih =>
    refine (one b).bind (fun r => ?_)
    cases r with
    | inl next => exact ih next
    | inr result => exact pure result

theorem dropped {m : Call α} (still : Still m) : Still (do let _ ← m) := still.bind (fun _ => pure ())

end Still

namespace Binary

theorem takeByte_still : Still takeByte := (Still.onBuf _).bind (fun _ => Still.pure _)

theorem readBool_still : Still protocol.readBool := takeByte_still.bind (fun _ => Still.pure _)

theorem readI16_still : Still protocol.readI16 := (Still.onBuf _).bind (fun _ => Still.pure _)

theorem readI64_still : Still protocol.readI64 := (Still.onBuf _).bind (fun _ => Still.pure _)

theorem readI32_still : Still protocol.readI32 := (Still.onBuf _).bind (fun _ => Still.pure _)

theorem readString_still : Still protocol.readString :=
  readI32_still.bind
    (fun _ => Still.ite (Still.stop _) (Still.ite (Still.stop _) (Still.ite (Still.pure _) (Still.onBuf _))))

theorem readFieldBegin_still : Still protocol.readFieldBegin :=
  takeByte_still.bind (fun _ => Still.ite (Still.pure _) (readI16_still.bind (fun _ => Still.pure _)))

theorem readSize_still : Still readSize :=
  readI32_still.bind (fun _ => Still.ite (Still.stop _) (Still.ite (Still.stop _) (Still.pure _)))

theorem readListBegin_still : Still protocol.readListBegin :=
  takeByte_still.bind (fun _ => readSize_still.bind (fun _ => Still.pure _))

theorem readMapBegin_still : Still protocol.readMapBegin :=
  takeByte_still.bind (fun _ => takeByte_still.bind (fun _ => readSize_still.bind (fun _ => Still.pure _)))

theorem skipWithin_still (depth : Nat) (type : TType) : Still (skipWithin protocol depth type) := by
  induction depth generalizing type with
  | zero => exact Still.stop _
  | succ depth ih =>
    rw [skipWithin]
    refine Still.ite readBool_still.dropped (Still.ite takeByte_still.dropped (Still.ite readI16_still.dropped
      (Still.ite readI32_still.dropped (Still.ite readI64_still.dropped (Still.ite readI64_still.dropped
        (Still.ite readString_still.dropped (Still.ite ?_ (Still.ite ?_ (Still.ite ?_ (Still.ite ?_
          (Still.ite (Still.pure ()) (Still.stop _))))))))))))
    · refine (Still.pure ()).bind (fun _ => (Still.fetch _).bind (fun n => (Still.loop (fun _ => ?_) n ()).bind
        (fun _ => Still.pure ())))
      exact readFieldBegin_still.bind (fun r => Still.ite (Still.pure _) ((ih r.1).bind (fun _ => Still.pure _)))
    · exact readMapBegin_still.bind (fun r => Still.iterate (fun _ => (ih r.1).bind (fun _ => ih r.2.1)) _ ())
    · exact readListBegin_still.bind (fun r => Still.iterate (fun _ => ih r.1) _ ())
    · exact readListBegin_still.bind (fun r => Still.iterate (fun _ => ih r.1) _ ())

theorem skip_still (type : TType) : Still (skip protocol type) :=
  (Still.fetch _).bind (fun n => skipWithin_still n type)

end Binary

theorem Compact.readBool_still : Still Compact.protocol.readBool := by
  refine (Still.fetch _).bind (fun waiting => ?_)
  cases waiting with
  | none => exact Binary.takeByte_still.bind (fun _ => Still.pure _)
  | some value =>
    have cleared : Still (Prog.update fun st : ProtState => { st with boolValue := none }) :=
      Still.update (fun _ => ⟨rfl, rfl⟩)
    exact cleared.bind (fun _ => Still.pure value)

namespace Proto

def format : Proto → Format
  | .binary => Binary.format
  | .compact => Compact.format

theorem filled : (p : Proto) → p.format.Filled
  | .binary => Binary.filled
  | .compact => Compact.filled

theorem prints : (p : Proto) → p.protocol.Prints p.format
  | .binary => Binary.prints
  | .compact => Compact.prints

theorem skips : (p : Proto) → p.protocol.Skips p.format
  | .binary => Binary.skips
  | .compact => Compact.skips

theorem readBool_still : (p : Proto) → Still p.protocol.readBool
  | .binary => Binary.readBool_still
  | .compact => Compact.readBool_still

end Proto

/-- The read pointer is this much further, and the fields' state is as it
was. -/
structure Skipped (st st' : ProtState) (n : Nat) : Prop extends Consumed st st' n where
  last : st'.lastFieldId = st.lastFieldId

/-- `skip` returns, having consumed exactly this much. -/
def SkipsOver (p : Protocol) (type : TType) (st : ProtState) (n : Nat) : Prop :=
  ∃ st', skip p type st = (.ok (), st') ∧ Skipped st st' n

/-- The header of a field and `skip` of its type consume this much together.
The value of a boolean that the header held back is taken. -/
def SkipsField (p : Protocol) (type : TType) (id : BitVec 16) (st : ProtState) (n : Nat) : Prop :=
  ∃ st' st'', p.readFieldBegin st = (.ok (type, id), st') ∧ skip p type st' = (.ok (), st'') ∧ Consumed st st'' n ∧
    st'.lastField = st.lastField ∧ st''.lastFieldId = st'.lastFieldId

/-- These are the bytes of a value in a buffer that it was written to. -/
def Written (p : Protocol) {k : Kind} (x : Value k) (bytes : Bytes) : Prop :=
  ∃ st st', st.booleanField = none ∧ x.write p st = (.ok (), st') ∧ st'.buf.data = st.buf.data ++ bytes

/-- These are the bytes of a field, written after the field with the last
id. -/
def WrittenField (p : Protocol) (last id : BitVec 16) {k : Kind} (x : Value k) (bytes : Bytes) : Prop :=
  ∃ st st', st.booleanField = none ∧ st.lastFieldId = last ∧
    (do p.writeFieldBegin k.ttype id; x.write p) st = (.ok (), st') ∧ st'.buf.data = st.buf.data ++ bytes

/-- A reader at a value of this type: a boolean only waits for `skip` of a
boolean. -/
structure Proto.Ready (p : Proto) (st : ProtState) (type : TType) : Prop where
  field : st.booleanField = none
  bool : st.boolValue ≠ none → p = .compact ∧ type = tBool

/-- A call ends by returning or by throwing. -/
def Ends {α : Type} (m : Call α) (st : ProtState) : Prop :=
  (∃ a st', m st = (.ok a, st')) ∨ ∃ e st', m st = (.error (.thrown e), st')

theorem skip_ends (p : Proto) {st : ProtState} {type : TType} (ready : p.Ready st type) :
    Ends (skip p.protocol type) st := by
  have agree : Agree p.wire ⟨p.wire.cursor st, p.wire.cursor st, st.lastField, st.lastField⟩ st.buf.data.length
      (type = tBool) st st := by
    refine ⟨rfl, le_rfl, rfl, rfl, rfl, rfl, rfl, fun waits => ?_, ready.field, ready.field⟩
    obtain ⟨rfl, isBool⟩ := ready.bool waits
    exact ⟨rfl, isBool⟩
  rcases (p.tame.skip type _ _).cases agree with ⟨_, st', _, ran, _⟩ | ⟨e, st', _, ran, _, broke⟩
  · exact Or.inl ⟨_, st', ran⟩
  · obtain ⟨x, rfl⟩ := broke.thrown
    exact Or.inr ⟨x, st', ran⟩

section Exact
variable {p : Proto} {k : Kind} {x : Value k} {bytes rest : Bytes} {st : ProtState}

theorem Written.enc (written : Written p.protocol x bytes) : bytes = x.enc p.format := by
  obtain ⟨st, st', calm, ran, appended⟩ := written
  obtain ⟨data, _⟩ := p.prints.value x (p.format.cursor st) st st' calm rfl ran
  exact List.append_cancel_left (appended.symm.trans data)

theorem WrittenField.enc {last id : BitVec 16} (written : WrittenField p.protocol last id x bytes) {st : ProtState}
    (placed : st.lastFieldId = last) : bytes = x.field p.format (p.format.cursor st) id (x.enc p.format) := by
  obtain ⟨wr, wr', calm, at_last, ran, appended⟩ := written
  have same : p.format.cursor wr = p.format.cursor st := by
    rw [Wire.cursor, Wire.cursor, at_last, placed]
  have value := p.prints.value x (p.format.next id)
  obtain ⟨data, _⟩ := p.prints.field x (p.format.cursor st) id value wr wr' calm same ran
  exact List.append_cancel_left (appended.symm.trans data)

theorem data_small (st : ProtState) : st.buf.data.length < 2 ^ 31 := by
  have fits := st.buf.fits
  have bounded := st.buf.bounded
  omega

/-- The cursor of the format is the last field id, or that does not
change. -/
theorem skip_last {type : TType} {st st' : ProtState} (ran : skip p.protocol type st = (.ok (), st'))
    (same : p.format.cursor st' = p.format.cursor st) : st'.lastFieldId = st.lastFieldId := by
  cases p with
  | binary =>
    have still := (Binary.skip_still type st).1
    rwa [show skip Binary.protocol type st = (.ok (), st') from ran] at still
  | compact => exact same

theorem skip_settles (x : Value k) (c : BitVec 16) :
    p.format.Settles (skip p.protocol k.ttype) c c (x.enc p.format) () (x.Within p.format) := by
  intro st rest calm placed holds
  have size := data_small st
  have shorter : (x.enc p.format).length ≤ st.buf.data.length := by
    rw [holds, List.length_append]
    omega
  exact p.skips.value p.filled x st.buf.data.length c shorter (by omega) st rest calm placed holds

theorem skipsOver_iff (written : Written p.protocol x bytes) (calm : st.boolValue = none)
    (holds : st.buf.data = bytes ++ rest) :
    SkipsOver p.protocol k.ttype st bytes.length ↔ x.Within p.format := by
  obtain rfl := written.enc
  obtain ⟨reads, throws⟩ := skip_settles x (p.format.cursor st) st rest calm rfl holds
  constructor
  · rintro ⟨st', ran, _⟩
    by_contra bad
    obtain ⟨e, st'', failed⟩ := throws bad
    rw [ran] at failed
    cases failed
  · intro within
    obtain ⟨st', ran, consumed, there⟩ := reads within
    exact ⟨st', ran, consumed, skip_last ran there⟩

theorem skipsField_iff {last id : BitVec 16} (written : WrittenField p.protocol last id x bytes)
    (calm : st.boolValue = none) (placed : st.lastFieldId = last) (holds : st.buf.data = bytes ++ rest) :
    SkipsField p.protocol k.ttype id st bytes.length ↔ x.Within p.format := by
  obtain rfl := written.enc placed
  by_cases isBool : k = .bool
  · subst isBool
    obtain ⟨b⟩ := x
    refine iff_of_true ?_ trivial
    obtain ⟨st'', ran, consumed, there⟩ :=
      (p.skips.boolField (p.format.cursor st) id b st rest calm rfl holds).1 trivial
    rcases Prog.bind_cases ran with ⟨header, st', header_ran, ran⟩ | ⟨e, _, failed⟩
    · rcases Prog.bind_cases ran with ⟨read, _, read_ran, ran⟩ | ⟨e, _, failed⟩
      · cases ran
        have skipped : skip p.protocol tBool st' = (.ok (), st'') := Prog.bind_ok read_ran
        obtain ⟨id_still, stack_still⟩ := p.readBool_still st'
        rw [read_ran] at id_still stack_still
        exact ⟨st', st'', header_ran, skipped, consumed, stack_still.symm.trans consumed.stack, id_still⟩
      · cases failed
    · cases failed
  · rw [Value.field_other isBool, List.append_assoc] at holds
    obtain ⟨st', header_ran, first, there⟩ :=
      (p.skips.fieldBegin (p.format.cursor st) k id isBool st _ calm rfl holds).1 trivial
    have left : st'.buf.data = x.enc p.format ++ rest := by
      rw [first.buf, ByteBuf.advance_data, holds, List.drop_left]
    obtain ⟨reads, throws⟩ := skip_settles x (p.format.cursor st') st' rest (first.bool.trans calm) rfl left
    rw [Value.field_other isBool, List.length_append]
    constructor
    · rintro ⟨st1, st2, began, ran, _⟩
      by_contra bad
      obtain ⟨e, st'', failed⟩ := throws bad
      rw [header_ran] at began
      cases began
      rw [ran] at failed
      cases failed
    · intro within
      obtain ⟨st'', ran, second, there'⟩ := reads within
      exact ⟨st', st'', header_ran, ran, first.trans second, first.stack, skip_last ran there'⟩

end Exact

/-- What a protocol has written, as an element or as a field, is skipped to
the byte just where it is within what the readers of the format take, and
skipping always ends. -/
theorem skip_exact (p : Proto) :
    (∀ {k : Kind} (x : Value k) (bytes : Bytes), Written p.protocol x bytes → ∀ (st : ProtState) (rest : Bytes),
      st.boolValue = none → st.buf.data = bytes ++ rest →
        (SkipsOver p.protocol k.ttype st bytes.length ↔ x.Within p.format)) ∧
    (∀ {k : Kind} (x : Value k) (last id : BitVec 16) (bytes : Bytes), WrittenField p.protocol last id x bytes →
      ∀ (st : ProtState) (rest : Bytes), st.boolValue = none → st.lastFieldId = last → st.buf.data = bytes ++ rest →
        (SkipsField p.protocol k.ttype id st bytes.length ↔ x.Within p.format)) ∧
    ∀ (st : ProtState) (type : TType), p.Ready st type → Ends (skip p.protocol type) st :=
  ⟨fun _ _ written _ _ calm holds => skipsOver_iff written calm holds,
    fun _ _ _ _ written _ _ calm placed holds => skipsField_iff written calm placed holds,
    fun _ _ ready => skip_ends p ready⟩

section Example

/-- A class with a boolean field and a list of booleans. -/
def flags : Value .struct :=
  .struct (.cons 1 .bool (.bool true) (.cons 2 .list (.list .bool (.cons (.bool false) (.nil .bool))) .nil))

def writtenBuf (bytes : Bytes) (fits : bytes.length ≤ defaultBufLen) : ByteBuf :=
  { ByteBuf.fresh with data := bytes, fits := (Nat.zero_add _).trans_le fits }

/-- In the compact format the class takes five bytes. -/
theorem skip_exact_flags : SkipsOver Compact.protocol tStruct
    { ProtState.fresh with buf := writtenBuf [0x11, 0x19, 0x11, 2, 0x7F, 9] (by decide) } 5 := by
  have written : Written Compact.protocol flags [0x11, 0x19, 0x11, 2, 0x7F] := ⟨.fresh, _, rfl, rfl, rfl⟩
  have within : flags.Within Compact.format := by
    simp [flags, Value.Within, Members.Within, Items.Within, Items.length, maxContainerLimit]
  exact ((skip_exact .compact).1 flags _ written _ [9] rfl rfl).mpr within

/-- The compact protocol writes an empty map as one byte, and throws when
that is skipped. -/
theorem empty_map_refused : Written Compact.protocol (.map .string .i32 (.nil .string .i32)) [0] ∧
    ¬ SkipsOver Compact.protocol tMap { ProtState.fresh with buf := writtenBuf [0, 0x7F] (by decide) } 1 := by
  refine ⟨⟨.fresh, _, rfl, rfl, rfl⟩, ?_⟩
  rintro ⟨st', ran, _⟩
  have failed : (skip Compact.protocol tMap { ProtState.fresh with buf := writtenBuf [0, 0x7F] (by decide) }).1 =
    .error (.thrown .unknown) := rfl
  rw [ran] at failed
  cases failed

end Example

end DbcNode
