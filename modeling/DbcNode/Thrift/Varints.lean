import DbcNode.Thrift.TameWires
import DbcNode.Thrift.CompactRead

namespace DbcNode.Compact

/-- What is written of a value is at most this many bytes, and read back
from them, whatever follows them. A write that does not fit into the buffer
leaves it alone. -/
def Carried {α : Type} (write : Call Unit) (read : Call α) (x : α) (most : Nat) : Prop :=
  ∃ bytes : Bytes, bytes.length ≤ most ∧
    (∀ st, st.buf.Appendable → (∃ st', write st = (.ok (), st') ∧ st'.buf.data = st.buf.data ++ bytes) ∨
      ByteBuf.capacity ≤ st.buf.data.length + bytes.length) ∧
    ∀ st rest, st.buf.data = bytes ++ rest → ∃ st', read st = (.ok x, st') ∧ st'.buf = st.buf.advance bytes.length

theorem carried_of_wire {α : Type} {write : Call Unit} {read : Call α} {x : α} {bytes : Bytes} {most : Nat}
    (short : bytes.length ≤ most) (emits : ∀ c, wire.Emits write c c bytes)
    (parses : ∀ c, wire.Parses read c c bytes x) :
    Carried write read x most := by
  refine ⟨bytes, short, fun st appendable => ?_, fun st rest held => ?_⟩
  · rcases emits _ st appendable rfl with ⟨st', ran, wrote, _⟩ | ⟨_, _, _, full⟩
    · exact Or.inl ⟨st', ran, wrote.data⟩
    · exact Or.inr full
  · obtain ⟨st', ran, consumed, _⟩ := parses _ st rest rfl held
    exact ⟨st', ran, consumed.buf⟩

theorem i16_carried (x : BitVec 16) : Carried (writeI16 x) readI16 x 5 :=
  carried_of_wire (varint_length_le 5 _) (fun c => writeVarint32_emits c _) (fun c => readI16_parses c x)

theorem i32_carried (x : BitVec 32) : Carried (writeI32 x) readI32 x 5 :=
  carried_of_wire (varint_length_le 5 _) (fun c => writeVarint32_emits c _) (fun c => readI32_parses c x)

theorem i64_carried (x : BitVec 64) : Carried (writeI64 x) readI64 x 10 :=
  carried_of_wire (varint_length_le 10 _) (fun c => writeVarint64_emits c _) (fun c => readI64_parses c x)

/-- A call that reads at most this many bytes, and throws or returns a value
with this property. -/
def ReadsAtMost {α : Type} (most : Nat) (m : Call α) (P : α → Prop) : Prop :=
  ∀ st, (∃ n ≤ most, (m st).2.buf = st.buf.advance n) ∧
    ((∃ x, (m st).1 = .ok x ∧ P x) ∨ ∃ e, (m st).1 = .error (.thrown e))

namespace ReadsAtMost
variable {α β : Type} {m n : Nat} {P : α → Prop} {Q : β → Prop}

theorem returning {x : α} (holds : P x) : ReadsAtMost 0 (pure x : Call α) P :=
  fun _ => ⟨⟨0, Nat.le_refl 0, (ByteBuf.advance_zero _).symm⟩, Or.inl ⟨x, rfl, holds⟩⟩

theorem throwing (e : Exn) : ReadsAtMost 0 (Prog.throwing e : Call α) P :=
  fun _ => ⟨⟨0, Nat.le_refl 0, (ByteBuf.advance_zero _).symm⟩, Or.inr ⟨e, rfl⟩⟩

theorem bind {call : Call α} {rest : α → Call β} (first : ReadsAtMost m call P)
    (second : ∀ x, P x → ReadsAtMost n (rest x) Q) : ReadsAtMost (m + n) (call >>= rest) Q := by
  intro st
  obtain ⟨⟨j, small, moved⟩, ended⟩ := first st
  rcases ran : call st with ⟨result, t⟩
  rw [ran] at moved ended
  rcases ended with ⟨x, rfl, holds⟩ | ⟨e, rfl⟩
  · obtain ⟨⟨k, little, later⟩, finish⟩ := second x holds t
    rw [Prog.bind_ok ran]
    refine ⟨⟨j + k, by omega, ?_⟩, finish⟩
    rw [later, moved, ByteBuf.advance_advance]
  · rw [Prog.bind_error ran]
    exact ⟨⟨j, by omega, moved⟩, Or.inr ⟨e, rfl⟩⟩

theorem takeByte : ReadsAtMost 1 DbcNode.takeByte (fun _ => True) := by
  intro st
  by_cases enough : 1 ≤ st.buf.data.length
  · have ran : DbcNode.takeByte st = (.ok ((st.buf.data.take 1).headD 0), { st with buf := st.buf.advance 1 }) := by
      unfold DbcNode.takeByte take onBuf
      refine Prog.bind_ok ?_
      simp only [ByteBuf.readFromByteBuf_run enough]
    rw [ran]
    exact ⟨⟨1, Nat.le_refl 1, rfl⟩, Or.inl ⟨_, rfl, trivial⟩⟩
  · have ran : DbcNode.takeByte st = (.error (.thrown .lengthError), st) := by
      unfold DbcNode.takeByte take onBuf
      refine Prog.bind_error ?_
      simp only [ByteBuf.readFromByteBuf_short (Nat.lt_of_not_le enough)]
    rw [ran]
    exact ⟨⟨0, Nat.zero_le 1, (ByteBuf.advance_zero _).symm⟩, Or.inr ⟨_, rfl⟩⟩

/-- A byte that is not the last one and comes after nine others is
refused. -/
theorem varintRound (state : Nat × Nat × Nat) : ReadsAtMost 1 (varintRound state)
    (fun r => r.elim (fun next => next.1 = state.1 + 1 ∧ next.1 < 10) (fun _ => True)) := by
  refine takeByte.bind (n := 0) (fun byte _ => ?_)
  split
  · exact returning trivial
  · split
    · exact throwing _
    · exact returning ⟨rfl, by omega⟩

theorem varintLoop (rounds : Nat) : ∀ state : Nat × Nat × Nat, state.1 < 10 → state.1 + rounds = 10 →
    ReadsAtMost rounds (Prog.loop rounds Compact.varintRound state) (fun _ => True) := by
  induction rounds with
  | zero =>
    intro state early total
    omega
  | succ rounds ih =>
    intro state early total
    have loops : ReadsAtMost (1 + rounds) (Prog.loop (rounds + 1) Compact.varintRound state) (fun _ => True) := by
      refine (varintRound state).bind (fun r next => ?_)
      cases r with
      | inl after =>
        obtain ⟨counted, few⟩ := next
        exact ih after few (by omega)
      | inr value =>
        intro st
        exact ⟨⟨0, Nat.zero_le _, (ByteBuf.advance_zero _).symm⟩, Or.inl ⟨value, rfl, trivial⟩⟩
    rwa [Nat.add_comm] at loops

end ReadsAtMost

/-- Every value comes back from at most five or ten bytes, and of no bytes
are more than ten read as one. The lengths are those of seven bits a
byte. -/
theorem varints_exact : (∀ x : BitVec 16, Carried (writeI16 x) readI16 x 5) ∧
    (∀ x : BitVec 32, Carried (writeI32 x) readI32 x 5) ∧ (∀ x : BitVec 64, Carried (writeI64 x) readI64 x 10) ∧
    ReadsAtMost 10 readVarint64 (fun _ => True) :=
  ⟨i16_carried, i32_carried, i64_carried, ReadsAtMost.varintLoop 10 (0, 0, 0) (by decide) rfl⟩

end DbcNode.Compact
