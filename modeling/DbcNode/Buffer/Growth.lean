import DbcNode.Buffer.Fifo

namespace DbcNode

namespace RawBuf
variable {b : RawBuf}

/-- A length that doubling reaches, from the `least` doubling on, has room
for the unread bytes and the new ones and does not pass the limit. -/
def HasRoom (b : RawBuf) (bytes : Bytes) (least : Nat) : Prop :=
  ∃ k, least ≤ k ∧ b.len * 2 ^ k ≤ maxByteBufLen ∧ b.readable.length + bytes.length < b.len * 2 ^ k

/-- The loop ends where a write comes to it, and the write succeeds just
where it fits behind the unread bytes or a doubled length has room. -/
structure GrowsRight (b : RawBuf) (bytes : Bytes) (place least : Nat) : Prop where
  ends : b.autoAlloc = true → b.writeBound < b.writePtr + bytes.length →
    ∃ rounds, b.grow bytes place rounds (b.len * 2 % 2 ^ 32) ≠ .error .diverged
  succeeds : b.autoAlloc = true → 0 < b.len → bytes ≠ [] →
    ((writeToByteBuf bytes place b).1 = .ok () ↔
      b.writePtr + bytes.length ≤ b.writeBound ∨ b.HasRoom bytes least)

/-- The doubling of nothing. -/
def Empty (b : RawBuf) (bytes : Bytes) : Prop := b.autoAlloc = true ∧ b.len = 0 ∧ bytes ≠ []

/-- There is room for the write in the buffer as it is, but in front of the
unread bytes, and no length after it is below the limit. -/
def Unmoved (b : RawBuf) (bytes : Bytes) : Prop :=
  b.autoAlloc = true ∧ b.writeBound < b.writePtr + bytes.length ∧ b.readable.length + bytes.length < b.len ∧
    b.len ≤ maxByteBufLen ∧ maxByteBufLen < b.len * 2

theorem Ordered.grow_iff (ordered : b.Ordered) (bytes : Bytes) (place : Nat) {rounds newLen : Nat}
    (least : b.len < newLen) (fits : newLen < 2 ^ 32) (enough : maxByteBufLen < newLen * 2 ^ rounds) :
    (∃ grown, b.grow bytes place (rounds + 1) newLen = .ok grown) ↔
      ∃ k, newLen * 2 ^ k ≤ maxByteBufLen ∧ b.readable.length + bytes.length < newLen * 2 ^ k := by
  have past : ∀ {n : Nat}, maxByteBufLen < n → ¬ ∃ k, n * 2 ^ k ≤ maxByteBufLen ∧
      b.readable.length + bytes.length < n * 2 ^ k := by
    rintro n above ⟨k, within, _⟩
    have larger : n ≤ n * 2 ^ k := Nat.le_mul_of_pos_right n (Nat.two_pow_pos k)
    omega
  induction rounds generalizing newLen with
  | zero =>
    have above : maxByteBufLen < newLen := by omega
    rw [RawBuf.grow, if_neg (by omega)]
    refine ⟨fun grows => ?_, fun found => absurd found (past above)⟩
    obtain ⟨_, thrown⟩ := grows
    cases thrown
  | succ rounds ih =>
    rw [RawBuf.grow]
    by_cases small : newLen ≤ maxByteBufLen
    · have limit : maxByteBufLen = 2 ^ 24 := rfl
      have unread := ordered.readLen
      have held := ordered.readable_length
      obtain ⟨start, behind, joint, room, stop, _, _, _⟩ := id ordered
      have difference : (newLen + 2 ^ 32 - b.getValidReadLen) % 2 ^ 32 = newLen - b.getValidReadLen := by omega
      rw [if_pos small, difference]
      by_cases enters : bytes.length < newLen - b.getValidReadLen
      · rw [if_pos enters]
        refine ⟨fun _ => ⟨0, ?_, ?_⟩, fun _ => ⟨_, rfl⟩⟩ <;> omega
      · have doubled : newLen * 2 % 2 ^ 32 = newLen * 2 := by omega
        have next : maxByteBufLen < newLen * 2 * 2 ^ rounds := by
          rw [Nat.pow_succ] at enough
          linarith
        have power : ∀ k, newLen * 2 * 2 ^ k = newLen * 2 ^ (k + 1) := by
          intro k
          rw [Nat.pow_succ]
          ring
        have rest := ih (show b.len < newLen * 2 by omega) (by omega) next
        rw [if_neg enters, doubled]
        refine rest.trans ⟨?_, ?_⟩
        · rintro ⟨k, within, larger⟩
          rw [power k] at within larger
          exact ⟨k + 1, within, larger⟩
        · rintro ⟨_ | k, within, larger⟩
          · omega
          · rw [← power k] at within larger
            exact ⟨k, within, larger⟩
    · rw [if_neg small]
      refine ⟨fun grows => ?_, fun found => absurd found (past (by omega))⟩
      obtain ⟨_, thrown⟩ := grows
      cases thrown

/-- The loop of a write with positive length passes the limit before its
rounds end. -/
theorem Ordered.grow_write (ordered : b.Ordered) (bytes : Bytes) (place : Nat) :
    b.grow bytes place 26 (b.len * 2 % 2 ^ 32) ≠ .error .diverged ∧
      ((∃ grown, b.grow bytes place 26 (b.len * 2 % 2 ^ 32) = .ok grown) ↔ b.HasRoom bytes 1) := by
  have small := ordered.small
  have positive := ordered.positive
  have limit : maxByteBufLen = 2 ^ 24 := rfl
  have doubled : b.len * 2 % 2 ^ 32 = b.len * 2 := by omega
  rw [doubled]
  constructor
  · rcases ordered.grow bytes place (show b.len < b.len * 2 by omega) (by omega)
      (show maxByteBufLen < b.len * 2 * 2 ^ 25 by omega)
      with thrown | ⟨grown, grew, _⟩
    · rw [thrown]
      simp
    · rw [grew]
      simp
  · rw [ordered.grow_iff bytes place (show b.len < b.len * 2 by omega) (by omega)
      (show maxByteBufLen < b.len * 2 * 2 ^ 25 by omega)]
    have power : ∀ k, b.len * 2 * 2 ^ k = b.len * 2 ^ (k + 1) := by
      intro k
      rw [Nat.pow_succ]
      ring
    constructor
    · rintro ⟨k, within, larger⟩
      rw [power k] at within larger
      exact ⟨k + 1, by omega, within, larger⟩
    · rintro ⟨_ | k, later, within, larger⟩
      · omega
      · rw [← power k] at within larger
        exact ⟨k, within, larger⟩

theorem Ordered.write_iff (ordered : b.Ordered) {bytes : Bytes} (place : Nat) (some : bytes ≠ [])
    (auto : b.autoAlloc = true) : (writeToByteBuf bytes place b).1 = .ok () ↔
      b.writePtr + bytes.length ≤ b.writeBound ∨ b.HasRoom bytes 1 := by
  rw [writeToByteBuf, if_neg some]
  by_cases fits : b.writePtr + bytes.length ≤ b.writeBound
  · rw [if_pos fits]
    exact ⟨fun _ => Or.inl fits, fun _ => rfl⟩
  · obtain ⟨_, grows⟩ := ordered.grow_write bytes place
    rw [if_neg fits, if_pos auto, ← grows]
    cases grew : b.grow bytes place 26 (b.len * 2 % 2 ^ 32) with
    | ok grown => simp
    | error stop => simp [fits]

theorem Ordered.growsRight (ordered : b.Ordered) (bytes : Bytes) (place : Nat) : b.GrowsRight bytes place 1 :=
  ⟨fun _ _ => ⟨26, (ordered.grow_write bytes place).1⟩, fun auto _ some => ordered.write_iff place some auto⟩

/-- Counting the length as it is among the doubled ones asks for more, in
just one case. -/
theorem Ordered.growsRight_iff (ordered : b.Ordered) (bytes : Bytes) (place : Nat) :
    b.GrowsRight bytes place 0 ↔ ¬ b.Unmoved bytes := by
  have held := ordered.readable_length
  obtain ⟨start, behind, joint, room, stop, _, positive, small⟩ := id ordered
  constructor
  · rintro right ⟨auto, beyond, larger, within, top⟩
    have some : bytes ≠ [] := by
      rintro rfl
      simp only [List.length_nil] at beyond
      omega
    have succeeded := (right.succeeds auto positive some).mpr (Or.inr ⟨0, le_rfl, by omega, by omega⟩)
    rcases (ordered.write_iff place some auto).mp succeeded with fits | ⟨k, later, below, _⟩
    · omega
    · have doubled : b.len * 2 ≤ b.len * 2 ^ k := Nat.mul_le_mul_left b.len (Nat.le_self_pow (by omega) 2)
      omega
  · intro moved
    refine ⟨(ordered.growsRight bytes place).ends, fun auto _ some => ?_⟩
    rw [ordered.write_iff place some auto]
    refine or_congr_right' ?_
    intro beyond
    constructor
    · rintro ⟨k, _, within, larger⟩
      exact ⟨k, Nat.zero_le k, within, larger⟩
    · rintro ⟨_ | k, _, within, larger⟩
      · refine ⟨1, le_rfl, ?_, by omega⟩
        by_contra top
        exact moved ⟨auto, by omega, by omega, by omega, by omega⟩
      · exact ⟨k + 1, by omega, within, larger⟩

/-- A loop that starts from no length never ends. -/
theorem grow_nothing {bytes : Bytes} {place : Nat} (none : b.getValidReadLen = 0) (rounds : Nat) :
    b.grow bytes place rounds 0 = .error .diverged := by
  induction rounds with
  | zero => rfl
  | succ rounds ih =>
    rw [RawBuf.grow, if_pos (Nat.zero_le _), none, if_neg (by omega)]
    exact ih

theorem void_state (p : Prog Exn RawBuf Unit) (b : RawBuf) :
    ((p >>= fun _ => pure ([] : Bytes)) b).2 = (p b).2 := by
  cases ran : p b with
  | mk result after =>
    cases result with
    | ok => rw [void_ok ran]
    | error stop => rw [void_error ran]

/-- A buffer without a byte stays as it was made. -/
theorem call_nothing (auto : Bool) (place : Nat) (c : BufCall) :
    (RawBuf.call c (.make 0 auto place)).2 = .make 0 auto place := by
  have none : (RawBuf.make 0 auto place).getValidReadLen = 0 := if_neg (Nat.lt_irrefl place)
  have full : (RawBuf.make 0 auto place).getValidWriteLen = 0 := if_neg (Nat.lt_irrefl place)
  cases c with
  | writeToByteBuf bytes there =>
    refine (void_state _ _).trans ?_
    rw [writeToByteBuf]
    by_cases empty : bytes = []
    · rw [if_pos empty]
    · have beyond :
        ¬ (RawBuf.make 0 auto place).writePtr + bytes.length ≤ (RawBuf.make 0 auto place).writeBound := by
        have some := List.length_pos_iff.mpr empty
        simp only [make]
        omega
      rw [if_neg empty, if_neg beyond]
      split
      · rw [show (RawBuf.make 0 auto place).len * 2 % 2 ^ 32 = 0 from rfl, grow_nothing none]
      · rfl
  | readFromByteBuf bufLen =>
    change (readFromByteBuf bufLen _).2 = _
    unfold readFromByteBuf
    split
    · rename_i fits
      have zero : bufLen = 0 := by
        simp only [make] at fits
        omega
      subst zero
      rfl
    · rfl
  | moveReadPtr moveLen =>
    refine (void_state _ _).trans ?_
    rw [moveReadPtr, none, if_neg (Nat.not_lt_zero _)]
    split <;> rfl
  | moveWritePtr moveLen =>
    refine (void_state _ _).trans ?_
    rw [moveWritePtr, full]
    by_cases zero : moveLen = 0
    · rw [if_pos zero]
    · rw [if_neg zero, if_neg (by omega)]
  | moveBuf =>
    refine (void_state _ _).trans ?_
    exact congrArg Prod.snd (if_pos rfl)
  | reset => rfl
  | fill bytes =>
    change (RawBuf.make 0 auto place).fill bytes = _
    unfold RawBuf.fill
    split
    · rename_i fits
      have empty : bytes = [] := by
        refine List.eq_nil_of_length_eq_zero ?_
        simp only [make] at fits
        omega
      subst empty
      simp [make, overwrite]
    · rfl

theorem growsRight_nothing (auto : Bool) (place : Nat) (bytes : Bytes) (there least : Nat) :
    (RawBuf.make 0 auto place).GrowsRight bytes there least ↔ ¬ (RawBuf.make 0 auto place).Empty bytes := by
  have none : (RawBuf.make 0 auto place).getValidReadLen = 0 := if_neg (Nat.lt_irrefl place)
  constructor
  · rintro right ⟨same, _, some⟩
    have positive := List.length_pos_iff.mpr some
    obtain ⟨rounds, ends⟩ := right.ends same (by simp only [make]; omega)
    exact ends (grow_nothing none rounds)
  · intro full
    refine ⟨fun same beyond => absurd ⟨same, rfl, ?_⟩ full, fun _ positive => absurd positive (Nat.lt_irrefl 0)⟩
    rintro rfl
    simp [make] at beyond

end RawBuf

namespace BufHistory

/-- A made buffer is in order after every sequence of calls, or it has no
byte and is as it was made. -/
theorem ordered_or_nothing {len place : Nat} {auto : Bool} (small : len < 2 ^ 31) {trace : List BufCall}
    {s : BufHistory} (run : Reaches step ⟨.make len auto place, []⟩ trace s) :
    s.buf.Ordered ∨ s.buf = .make 0 auto place := by
  refine run.invariant (P := fun s => s.buf.Ordered ∨ s.buf = .make 0 auto place) ?_ ?_
  · rcases Nat.eq_zero_or_pos len with rfl | positive
    · exact Or.inr rfl
    · exact Or.inl (RawBuf.make_ordered positive small auto place)
  · intro s next c before _ ran
    have after : next.buf = (RawBuf.call c s.buf).2 := by
      unfold BufHistory.step at ran
      split at ran <;> cases ran <;> simp only [*]
    rw [after]
    rcases before with ordered | nothing
    · obtain ⟨result, later, called, ends⟩ := ordered.call c
      rw [called]
      exact Or.inl ends.ordered
    · rw [nothing]
      exact Or.inr (RawBuf.call_nothing auto place c)

/-- After every sequence of calls on a made buffer, a write grows it as it
should unless the buffer has no length to double; where the length it has
counts as a candidate too, a write also fails to find the room in front of
the unread bytes of a buffer that cannot be doubled any more. -/
theorem growth_exact {len place : Nat} {auto : Bool} (small : len < 2 ^ 31) {trace : List BufCall} {s : BufHistory}
    (run : Reaches step ⟨.make len auto place, []⟩ trace s) (bytes : Bytes) (there : Nat) :
    (s.buf.GrowsRight bytes there 1 ↔ ¬ s.buf.Empty bytes) ∧
    (s.buf.GrowsRight bytes there 0 ↔ ¬ s.buf.Empty bytes ∧ ¬ s.buf.Unmoved bytes) := by
  rcases ordered_or_nothing small run with ordered | nothing
  · have full : ¬ s.buf.Empty bytes := fun empty => absurd empty.2.1 ordered.positive.ne'
    exact ⟨⟨fun _ => full, fun _ => ordered.growsRight bytes there⟩,
      (ordered.growsRight_iff bytes there).trans ⟨fun moved => ⟨full, moved⟩, fun both => both.2⟩⟩
  · have still : ¬ (RawBuf.make 0 auto place).Unmoved bytes := fun ⟨_, _, larger, _⟩ =>
      absurd larger (Nat.not_lt_zero _)
    rw [nothing, RawBuf.growsRight_nothing, RawBuf.growsRight_nothing]
    exact ⟨Iff.rfl, ⟨fun full => ⟨full, still⟩, fun both => both.1⟩⟩

/-- A write that doubles the length twice. -/
theorem growth_exact_twice : (RawBuf.make 2 true 100).GrowsRight [1, 2, 3, 4, 5] 200 1 :=
  (growth_exact (s := ⟨.make 2 true 100, []⟩) (by decide) .start [1, 2, 3, 4, 5] 200).1.mpr
    (fun empty => absurd empty.2.1 (by decide))

/-- One byte for a buffer that was made without length: the loop never
ends. -/
theorem growth_of_nothing : ¬ (RawBuf.make 0 true 100).GrowsRight [7] 200 1 := by
  intro right
  obtain ⟨rounds, ends⟩ := right.ends rfl (by decide)
  exact ends (RawBuf.grow_nothing rfl rounds)

end BufHistory

end DbcNode
