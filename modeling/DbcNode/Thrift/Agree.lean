import DbcNode.Lib.Prog
import DbcNode.Thrift.Wire

namespace DbcNode

/-- The field cursors and the stacks below them in two protocol objects. -/
structure Marks where
  left : BitVec 16
  right : BitVec 16
  leftStack : List (BitVec 16)
  rightStack : List (BitVec 16)

/-- No boolean waits to be read or to be written. -/
structure ProtState.Settled (st : ProtState) : Prop where
  bool : st.boolValue = none
  field : st.booleanField = none

/-- Two protocol objects over the same unread bytes, of which there are at
most `len`. A boolean may wait in both, where the format has such and `pend`
allows it. -/
structure Agree (w : Wire) (marks : Marks) (len : Nat) (pend : Prop) (s t : ProtState) : Prop where
  buf : s.buf.data = t.buf.data
  short : s.buf.data.length ≤ len
  left : w.cursor s = marks.left
  right : w.cursor t = marks.right
  leftStack : s.lastField = marks.leftStack
  rightStack : t.lastField = marks.rightStack
  bool : s.boolValue = t.boolValue
  pending : s.boolValue ≠ none → w.delta = true ∧ pend
  leftField : s.booleanField = none
  rightField : t.booleanField = none

/-- After an exception the unread bytes are still the same, and no boolean
waits; the cursors and the stacks are anything. No other end is reached. -/
structure Broke (e : Stop Exn) (s t : ProtState) : Prop where
  thrown : ∃ x, e = .thrown x
  buf : s.buf.data = t.buf.data
  left : s.Settled
  right : t.Settled

namespace Agree
variable {w : Wire} {marks : Marks} {len : Nat} {pend : Prop} {s t : ProtState}

theorem settled (agree : Agree w marks len False s t) : s.Settled ∧ t.Settled := by
  have calm : s.boolValue = none := by
    by_contra waits
    exact (agree.pending waits).2
  exact ⟨⟨calm, agree.leftField⟩, ⟨agree.bool ▸ calm, agree.rightField⟩⟩

theorem broke (agree : Agree w marks len False s t) (x : Exn) : Broke (.thrown x) s t :=
  ⟨⟨x, rfl⟩, agree.buf, agree.settled.1, agree.settled.2⟩

theorem longer {len' : Nat} (agree : Agree w marks len pend s t) (le : len ≤ len') : Agree w marks len' pend s t :=
  { agree with short := agree.short.trans le }

theorem pends {pend' : Prop} (agree : Agree w marks len pend s t) (weaker : pend → pend') :
    Agree w marks len pend' s t :=
  { agree with pending := fun waits => ⟨(agree.pending waits).1, weaker (agree.pending waits).2⟩ }

theorem tight (agree : Agree w marks len pend s t) : Agree w marks s.buf.data.length pend s t :=
  { agree with short := Nat.le_refl _ }

theorem advance (agree : Agree w marks len pend s t) (n : Nat) :
    Agree w marks (len - n) pend { s with buf := s.buf.advance n } { t with buf := t.buf.advance n } where
  buf := by rw [ByteBuf.advance_data, ByteBuf.advance_data, agree.buf]
  short := by
    have short := agree.short
    simp only [ByteBuf.advance_data, List.length_drop]
    omega
  left := agree.left
  right := agree.right
  leftStack := agree.leftStack
  rightStack := agree.rightStack
  bool := agree.bool
  pending := agree.pending
  leftField := agree.leftField
  rightField := agree.rightField

end Agree

/-- From objects that agree, the call ends the same way in both, having read
at least `k` bytes; it restores the cursors and gives a result with this
property, or throws. -/
def Runs {α : Type} (w : Wire) (k : Nat) (m : Call α) (P : α → Prop) : Prop :=
  ∀ marks len, Prog.Couples (Agree w marks len False) m
    (fun a s t => k ≤ len ∧ Agree w marks (len - k) False s t ∧ P a) Broke

namespace Runs
variable {α β : Type} {w : Wire} {j k : Nat} {m : Call α} {f : α → Call β} {P : α → Prop} {Q : β → Prop}

theorem pure {a : α} (holds : P a) : Runs w 0 (Pure.pure a) P :=
  fun _ _ => Prog.Couples.pure a (fun _ _ agree => ⟨Nat.zero_le _, agree, holds⟩)

theorem throwing (x : Exn) : Runs w k (Prog.throwing x : Call α) P :=
  fun _ _ => Prog.Couples.stop _ (fun _ _ agree => agree.broke x)

theorem bind (first : Runs w j m P) (second : ∀ a, P a → Runs w k (f a) Q) : Runs w (j + k) (m >>= f) Q := by
  intro marks len
  refine (first marks len).bind (fun a => ?_)
  have rest := Prog.Couples.assume (p := j ≤ len ∧ P a) (fun held =>
    (second a held.2 marks (len - j)).mono (B := fun b s t => j + k ≤ len ∧
      Agree w marks (len - (j + k)) False s t ∧ Q b) (fun _ _ agree => agree) (by
        rintro b s t ⟨more, agree, result⟩
        refine ⟨by omega, ?_, result⟩
        rwa [Nat.sub_add_eq]))
  exact rest.mono (fun _ _ held => ⟨⟨held.1, held.2.2⟩, held.2.1⟩) (fun _ _ _ held => held)

theorem seq (first : Runs w k m P) (second : ∀ a, P a → Runs w 0 (f a) Q) : Runs w k (m >>= f) Q :=
  first.bind second

theorem map {f : α → β} (first : Runs w k m P) (keeps : ∀ a, P a → Q (f a)) :
    Runs w k (m >>= fun a => Pure.pure (f a)) Q :=
  first.bind (fun a holds => Runs.pure (keeps a holds))

theorem mono {P' : α → Prop} (runs : Runs w j m P) (le : k ≤ j) (stronger : ∀ a, P a → P' a) : Runs w k m P' := by
  intro marks len
  refine (runs marks len).mono (fun _ _ agree => agree) ?_
  rintro a s t ⟨enough, agree, holds⟩
  exact ⟨le.trans enough, agree.longer (by omega), stronger a holds⟩

theorem any (runs : Runs w k m P) : Runs w 0 m (fun _ => True) := runs.mono (Nat.zero_le k) (fun _ _ => trivial)

theorem ite {p : Prop} [Decidable p] {n : Call α} (yes : p → Runs w k m P) (no : ¬ p → Runs w k n P) :
    Runs w k (if p then m else n) P := by
  by_cases holds : p
  · rw [if_pos holds]
    exact yes holds
  · rw [if_neg holds]
    exact no holds

theorem take (n : Nat) : Runs w n (DbcNode.take n) (fun bytes => bytes.length = n) := by
  intro marks len s t agree
  have short := agree.short
  rw [DbcNode.take, onBuf, onBuf]
  by_cases enough : n ≤ s.buf.data.length
  · rw [ByteBuf.readFromByteBuf_run enough, ByteBuf.readFromByteBuf_run (agree.buf ▸ enough), ← agree.buf]
    exact ⟨rfl, by omega, agree.advance n, List.length_take_of_le enough⟩
  · rw [ByteBuf.readFromByteBuf_short (by omega), ByteBuf.readFromByteBuf_short (by rw [← agree.buf]; omega)]
    have broke := agree.broke .lengthError
    exact ⟨rfl, broke.thrown, agree.buf, ⟨broke.left.bool, broke.left.field⟩, ⟨broke.right.bool, broke.right.field⟩⟩

theorem takeByte : Runs w 1 DbcNode.takeByte (fun _ => True) :=
  (take 1).bind (fun _ _ => pure trivial)

/-- A counted loop whose rounds keep a property of what has been built. -/
theorem iterate {step : β → Call β} {R : Nat → β → Prop} (n : Nat) {b : β} (start : R n b)
    (one : ∀ i b, R (i + 1) b → Runs w 0 (step b) (R i)) : Runs w 0 (Prog.iterate n step b) (R 0) := by
  intro marks len
  have looped := Prog.Couples.iterate (n := n) (I := fun i b s t => R i b ∧ Agree w marks len False s t)
    (E := Broke) (f := step) (fun i b => Prog.Couples.assume (fun holds =>
      (one i b holds marks len).mono (fun _ _ agree => agree) (fun _ _ _ held => ⟨held.2.2, held.2.1⟩))) b
  exact looped.mono (fun _ _ agree => ⟨start, agree⟩) (fun _ _ _ held => ⟨Nat.zero_le _, held.2, held.1⟩)

end Runs

end DbcNode
