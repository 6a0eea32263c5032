import DbcNode.Thrift.Binary
import DbcNode.Thrift.CompactWire
import DbcNode.Thrift.Tame

namespace DbcNode.Binary

theorem readI16_runs : Runs wire 2 readI16 (fun _ => True) := (Runs.take 2).map (fun _ _ => trivial)

theorem readI32_runs : Runs wire 4 readI32 (fun _ => True) := (Runs.take 4).map (fun _ _ => trivial)

theorem readI64_runs : Runs wire 8 readI64 (fun _ => True) := (Runs.take 8).map (fun _ _ => trivial)

theorem readSize_runs : Runs wire 0 readSize (fun n => n ≤ maxContainerLimit) := by
  refine readI32_runs.any.seq (fun size _ => ?_)
  refine Runs.ite (fun _ => Runs.throwing _) (fun signed => Runs.ite (fun _ => Runs.throwing _) (fun small => ?_))
  exact Runs.pure (toNat_le_of_toInt signed small)

theorem readString_runs : Runs wire 0 readString (fun x => x.length ≤ maxStringLimit) := by
  refine readI32_runs.any.seq (fun size _ => ?_)
  refine Runs.ite (fun _ => Runs.throwing _) (fun signed => Runs.ite (fun _ => Runs.throwing _) (fun small => ?_))
  refine Runs.ite (fun _ => Runs.pure (Nat.zero_le _)) (fun _ => ?_)
  exact (Runs.take size.toNat).mono (Nat.zero_le _) (fun x taken => taken ▸ toNat_le_of_toInt signed small)

theorem readListBegin_runs : Runs wire 1 readListBegin (fun r => r.2 ≤ maxContainerLimit) :=
  Runs.takeByte.seq (fun _ _ => readSize_runs.map (fun _ small => small))

theorem readMapBegin_runs :
    Runs wire 1 readMapBegin (fun r => r.2.2 ≤ maxContainerLimit ∧ wire.readsMap r.2.2 = true) :=
  Runs.takeByte.seq (fun _ _ => Runs.takeByte.any.seq (fun _ _ =>
    readSize_runs.map (fun _ small => ⟨small, rfl⟩)))

theorem readFieldBegin_runs : Runs wire 1 readFieldBegin (fun _ => True) :=
  Runs.takeByte.seq (fun _ _ => Runs.ite (fun _ => Runs.pure trivial)
    (fun _ => readI16_runs.any.map (fun _ _ => trivial)))

/-- The cursor of this format never leaves zero. -/
theorem marks_zero {marks : Marks} {len : Nat} {pend : Prop} {s t : ProtState}
    (agree : Agree wire marks len pend s t) : marks = ⟨0, 0, marks.leftStack, marks.rightStack⟩ := by
  obtain ⟨left, right, leftStack, rightStack⟩ := marks
  have atLeft : 0 = left := agree.left
  have atRight : 0 = right := agree.right
  rw [← atLeft, ← atRight]

theorem tame : protocol.Tame wire where
  byte := Runs.takeByte.any
  i16 := readI16_runs.any
  i32 := readI32_runs.any
  i64 := readI64_runs.any
  double := readI64_runs.any
  string := readString_runs
  listBegin := readListBegin_runs
  setBegin := readListBegin_runs
  mapBegin := readMapBegin_runs
  smallerMap _ _ _ _ := rfl
  bool marks len pend := by
    have read := ((Runs.takeByte (w := wire)).map (f := fun b => decide (b ≠ 0)) (Q := fun _ => True)
      (fun _ _ => trivial)) marks len
    refine read.mono (fun _ _ agree => ?_) (fun _ _ _ held => held.2.1.longer (Nat.sub_le _ _))
    exact { agree with pending := fun waits => (Bool.false_ne_true (agree.pending waits).1).elim }
  fieldBegin c leftStack rightStack len :=
    (readFieldBegin_runs ⟨c, c, leftStack, rightStack⟩ len).mono (fun _ _ agree => agree)
      (fun _ _ _ held => ⟨held.1, c, held.2.1.pends False.elim⟩)
  struct m P len inside marks := by
    intro s t agree
    have body := inside marks.leftStack marks.rightStack
    have whole := body.bind (f := fun y => (Pure.pure y : Call _)) (R := fun a s t =>
      Agree wire marks len False s t ∧ P a) (fun a => Prog.Couples.pure a ?_)
    · exact whole s t (marks_zero agree ▸ agree)
    · rintro s t ⟨⟨c, after⟩, holds⟩
      have zero : 0 = c := after.left
      subst zero
      rw [marks_zero agree]
      exact ⟨after, holds⟩

end DbcNode.Binary

namespace DbcNode.Compact

theorem varintRound_runs (state : Nat × Nat × Nat) (early : state.1 < 10) :
    Runs wire 1 (varintRound state) (fun r => r.elim (fun next => next.1 = state.1 + 1 ∧ next.1 < 10)
      (fun _ => True)) := by
  refine Runs.takeByte.seq (fun byte _ => ?_)
  refine Runs.ite (fun _ => Runs.pure trivial) (fun _ => Runs.ite (fun _ => Runs.throwing _) (fun more => ?_))
  exact Runs.pure ⟨rfl, by omega⟩

theorem varintLoop_runs (rounds : Nat) : ∀ state : Nat × Nat × Nat, state.1 < 10 → state.1 + rounds = 10 →
    Runs wire 1 (Prog.loop rounds varintRound state) (fun _ => True) := by
  induction rounds with
  | zero => intro state early total; omega
  | succ rounds ih =>
    intro state early total
    refine (varintRound_runs state early).seq (fun r next => ?_)
    cases r with
    | inl next' => exact (ih next' next.2 (by have step := next.1; omega)).any
    | inr _ => exact Runs.pure trivial

theorem readVarint64_runs : Runs wire 1 readVarint64 (fun _ => True) :=
  varintLoop_runs 10 (0, 0, 0) (by decide) rfl

theorem readVarint32_runs : Runs wire 1 readVarint32 (fun _ => True) := readVarint64_runs.map (fun _ _ => trivial)

theorem readI16_runs : Runs wire 1 readI16 (fun _ => True) := readVarint32_runs.map (fun _ _ => trivial)

theorem readI32_runs : Runs wire 1 readI32 (fun _ => True) := readVarint32_runs.map (fun _ _ => trivial)

theorem readI64_runs : Runs wire 1 readI64 (fun _ => True) := readVarint64_runs.map (fun _ _ => trivial)

theorem readDouble_runs : Runs wire 8 readDouble (fun _ => True) := (Runs.take 8).map (fun _ _ => trivial)

/-- The types of a boolean field are its two values. -/
theorem getTType_runs (type : UInt8) :
    Runs wire 0 (getTType type) (fun t => type = ctBooleanTrue ∨ type = ctBooleanFalse → t = tBool) := by
  unfold getTType
  refine Runs.ite (fun stop => Runs.pure ?_) (fun _ => Runs.ite (fun _ => Runs.pure (fun _ => rfl))
    (fun other => ?_))
  · rw [stop]
    decide
  · have never : ¬ (type = ctBooleanTrue ∨ type = ctBooleanFalse) := fun isBool => other isBool.symm
    repeat' refine Runs.ite (fun _ => Runs.pure (fun isBool => (never isBool).elim)) (fun _ => ?_)
    exact Runs.throwing _

theorem checkSize_runs (size : BitVec 32) :
    Runs wire 0 (checkSize size) (fun n => n = size.toNat ∧ n ≤ maxContainerLimit) := by
  refine Runs.ite (fun _ => Runs.throwing _) (fun signed => Runs.ite (fun _ => Runs.throwing _) (fun small => ?_))
  exact Runs.pure ⟨rfl, toNat_le_of_toInt signed small⟩

theorem readListSize_runs (nibble : UInt8) : Runs wire 0 (readListSize nibble) (fun _ => True) :=
  Runs.ite (fun _ => readVarint32_runs.any) (fun _ => Runs.pure trivial)

theorem readListBegin_runs : Runs wire 1 readListBegin (fun r => r.2 ≤ maxContainerLimit) := by
  refine Runs.takeByte.seq (fun b _ => (readListSize_runs _).seq (fun lsize _ => ?_))
  exact (checkSize_runs lsize).seq (fun size small => (getTType_runs _).map (fun _ _ => small.2))

theorem readMapBegin_runs :
    Runs wire 1 readMapBegin (fun r => r.2.2 ≤ maxContainerLimit ∧ wire.readsMap r.2.2 = true) := by
  refine readVarint32_runs.seq (fun msize _ => ?_)
  by_cases empty : msize = 0
  · subst empty
    exact Runs.throwing .unknown
  · rw [readKvType, if_pos empty]
    refine Runs.takeByte.any.seq (fun kv _ => (checkSize_runs msize).seq (fun size small => ?_))
    refine (getTType_runs _).seq (fun _ _ => (getTType_runs _).map (fun _ _ => ⟨small.2, ?_⟩))
    have some : size ≠ 0 := by
      rw [small.1]
      exact fun zero => empty (BitVec.eq_of_toNat_eq zero)
    simpa [wire] using some

theorem readBinary_runs : Runs wire 0 readBinary (fun x => x.length ≤ maxStringLimit) := by
  refine readVarint32_runs.any.seq (fun size _ => ?_)
  refine Runs.ite (fun _ => Runs.pure (Nat.zero_le _)) (fun _ => ?_)
  refine Runs.ite (fun _ => Runs.throwing _) (fun signed => Runs.ite (fun _ => Runs.throwing _) (fun small => ?_))
  have noted : Runs wire 0 (Prog.update (fun st => { st with stringBufSize := max st.stringBufSize size.toNat }))
      (fun _ => True) := by
    intro marks len
    exact Prog.Couples.update (fun s t agree => ⟨Nat.zero_le _, ⟨agree.buf, agree.short, agree.left, agree.right,
      agree.leftStack, agree.rightStack, agree.bool, agree.pending, agree.leftField, agree.rightField⟩, trivial⟩)
  exact noted.seq (fun _ _ => (Runs.take size.toNat).mono (Nat.zero_le _)
    (fun x taken => taken ▸ toNat_le_of_toInt signed small))

theorem readBool_couples (marks : Marks) (len : Nat) (pend : Prop) :
    Prog.Couples (Agree wire marks len pend) readBool (fun _ => Agree wire marks len False) Broke := by
  refine Prog.Couples.bind (Q := fun value s t => s.boolValue = value ∧ Agree wire marks len pend s t)
    (Prog.Couples.fetch (fun s t agree => ⟨agree.bool, rfl, agree⟩)) (fun value => ?_)
  cases value with
  | some value =>
    refine Prog.Couples.bind (Q := fun _ => Agree wire marks len False) (Prog.Couples.update ?_)
      (fun _ => Prog.Couples.pure _ (fun _ _ agree => agree))
    rintro s t ⟨_, agree⟩
    exact { agree with bool := rfl, pending := fun waits => (waits rfl).elim }
  | none =>
    have read := ((Runs.takeByte (w := wire)).map (f := fun b => decide (b = ctBooleanTrue)) (Q := fun _ => True)
      (fun _ _ => trivial)) marks len
    refine read.mono ?_ (fun _ _ _ held => held.2.1.longer (Nat.sub_le _ _))
    rintro s t ⟨calm, agree⟩
    exact { agree with pending := fun waits => (waits calm).elim }

theorem readFieldId_couples (modifier : UInt8) (c : BitVec 16) (leftStack rightStack : List (BitVec 16))
    (len : Nat) :
    Prog.Couples (Agree wire ⟨c, c, leftStack, rightStack⟩ len False) (readFieldId modifier)
      (fun _ => Agree wire ⟨c, c, leftStack, rightStack⟩ len False) Broke := by
  rw [readFieldId]
  split
  · exact (readI16_runs.any ⟨c, c, leftStack, rightStack⟩ len).mono (fun _ _ agree => agree)
      (fun _ _ _ held => held.2.1)
  · refine Prog.Couples.fetch (fun s t agree => ⟨?_, agree⟩)
    have left : s.lastFieldId = c := agree.left
    have right : t.lastFieldId = c := agree.right
    rw [left, right]

theorem saveBool_couples (type : UInt8) (pend : Prop) (marks : Marks) (len : Nat)
    (isBool : type = ctBooleanTrue ∨ type = ctBooleanFalse → pend) :
    Prog.Couples (Agree wire marks len False) (saveBool type) (fun _ => Agree wire marks len pend) Broke := by
  rw [saveBool]
  split
  · rename_i boolean
    exact Prog.Couples.update
      (fun s t agree => { agree with bool := rfl, pending := fun _ => ⟨rfl, isBool boolean⟩ })
  · exact Prog.Couples.pure _ (fun s t agree => agree.pends False.elim)

theorem readFieldBegin_couples (c : BitVec 16) (leftStack rightStack : List (BitVec 16)) (len : Nat) :
    Prog.Couples (Agree wire ⟨c, c, leftStack, rightStack⟩ len False) readFieldBegin (fun r s t => 1 ≤ len ∧
      ∃ c', Agree wire ⟨c', c', leftStack, rightStack⟩ (len - 1) (r.1 = tBool) s t) Broke := by
  refine (Runs.takeByte ⟨c, c, leftStack, rightStack⟩ len).bind (fun byte => Prog.Couples.assume (fun some => ?_))
  refine Prog.Couples.mono (P := Agree wire ⟨c, c, leftStack, rightStack⟩ (len - 1) False) ?_
    (fun _ _ held => held.1) (fun _ _ _ held => held)
  by_cases stop : byte = tStop
  · rw [if_pos stop]
    exact Prog.Couples.pure _ (fun _ _ agree => ⟨some, c, agree.pends False.elim⟩)
  · rw [if_neg stop]
    refine (readFieldId_couples _ c leftStack rightStack _).bind (fun fieldId => ?_)
    refine (getTType_runs (byte &&& 0x0f) _ _).bind (fun fieldType => Prog.Couples.assume (fun _ => ?_))
    refine Prog.Couples.mono (P := fun s t => ((byte &&& 0x0f = ctBooleanTrue ∨ byte &&& 0x0f = ctBooleanFalse) →
      fieldType = tBool) ∧ Agree wire ⟨c, c, leftStack, rightStack⟩ (len - 1) False s t)
      (Prog.Couples.assume (fun isBool => ?_)) (fun _ _ held => ⟨held.2, held.1⟩) (fun _ _ _ held => held)
    refine (saveBool_couples _ (fieldType = tBool) _ _ isBool).bind (fun _ => ?_)
    refine Prog.Couples.bind (Q := fun _ => Agree wire ⟨fieldId, fieldId, leftStack, rightStack⟩ (len - 1)
      (fieldType = tBool)) (Prog.Couples.update (fun s t agree => { agree with left := rfl, right := rfl }))
        (fun _ => ?_)
    exact Prog.Couples.pure _ (fun _ _ agree => ⟨some, fieldId, agree⟩)

theorem struct_couples {α : Type} {m : Call α} {P : α → Prop} {len : Nat} (inside : Inside wire len m P)
    (marks : Marks) :
    Prog.Couples (Agree wire marks len False) (do structBegin; let y ← m; structEnd; return y)
      (fun a s t => Agree wire marks len False s t ∧ P a) Broke := by
  refine Prog.Couples.bind (Q := fun _ => Agree wire ⟨0, 0, marks.left :: marks.leftStack,
    marks.right :: marks.rightStack⟩ len False) (Prog.Couples.update ?_) (fun _ => (inside _ _).bind (fun y => ?_))
  · intro s t agree
    have left : s.lastFieldId = marks.left := agree.left
    have right : t.lastFieldId = marks.right := agree.right
    exact { agree with
      left := rfl
      right := rfl
      leftStack := by rw [← left, ← agree.leftStack]
      rightStack := by rw [← right, ← agree.rightStack] }
  · rintro s t ⟨⟨c, agree⟩, holds⟩
    have left : structEnd s = (.ok (), { s with lastField := marks.leftStack, lastFieldId := marks.left }) := by
      simp only [structEnd, agree.leftStack]
    have right : structEnd t = (.ok (), { t with lastField := marks.rightStack, lastFieldId := marks.right }) := by
      simp only [structEnd, agree.rightStack]
    rw [Prog.bind_ok left, Prog.bind_ok right]
    exact ⟨rfl, { agree with left := rfl, right := rfl, leftStack := rfl, rightStack := rfl }, holds⟩

theorem tame : protocol.Tame wire where
  byte := Runs.takeByte.any
  i16 := readI16_runs.any
  i32 := readI32_runs.any
  i64 := readI64_runs.any
  double := readDouble_runs.any
  string := readBinary_runs
  listBegin := readListBegin_runs
  setBegin := readListBegin_runs
  mapBegin := readMapBegin_runs
  smallerMap n m some smaller := by
    simp only [wire, decide_eq_true_eq] at some ⊢
    exact fun zero => some (smaller zero)
  bool := readBool_couples
  fieldBegin := readFieldBegin_couples
  struct _ _ _ inside marks := struct_couples inside marks

end DbcNode.Compact
