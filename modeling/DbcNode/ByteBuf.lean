import DbcNode.Lib.Bytes
import DbcNode.Lib.Prog

namespace DbcNode

/-- What the codec throws: the standard exceptions of the buffer and of the
binary protocol, and the `TProtocolException` kinds of the compact one. -/
inductive Exn
  | lengthError
  | invalidArgument
  | unknown
  | invalidData
  | negativeSize
  | sizeLimit
  deriving DecidableEq, Repr

def maxByteBufLen : Nat := 16 * 1024 * 1024

def defaultBufLen : Nat := 10 * 1024

/-- The bytes between the read and the write pointer, with the offset of the
read pointer and the size of the allocation that holds both. -/
@[ext] structure ByteBuf where
  len : Nat
  autoAlloc : Bool
  readPos : Nat
  data : Bytes
  fits : readPos + data.length ≤ len
  bounded : len < 2 ^ 31
  deriving DecidableEq

namespace ByteBuf

/-- `byte_buf()`: the default length, growing on demand. -/
def fresh : ByteBuf := ⟨defaultBufLen, true, 0, [], by decide, by decide⟩

def validReadLen (b : ByteBuf) : Nat := b.data.length

def reset (b : ByteBuf) : ByteBuf := { b with readPos := 0, data := [], fits := by simp }

def advance (b : ByteBuf) (n : Nat) : ByteBuf :=
  { b with
    readPos := b.readPos + min n b.data.length
    data := b.data.drop n
    fits := by
      have held := b.fits
      rw [List.length_drop]
      omega }

/-- A copy over the first unread bytes. -/
def patch (b : ByteBuf) (bytes : Bytes) : ByteBuf :=
  { b with
    data := bytes.take b.data.length ++ b.data.drop bytes.length
    fits := by
      have held := b.fits
      rw [List.length_append, List.length_take, List.length_drop]
      omega }

theorem fits_of_room {b : ByteBuf} {bytes : Bytes} {newLen : Nat}
    (room : bytes.length < newLen - b.data.length) : 0 + (b.data ++ bytes).length ≤ newLen := by
  rw [List.length_append]
  omega

theorem bounded_of_small {newLen : Nat} (small : newLen ≤ maxByteBufLen) : newLen < 2 ^ 31 := by
  unfold maxByteBufLen at small
  omega

/-- The reallocation loop of a write that does not fit: the length doubles
until the unread bytes and the new ones are strictly below it. -/
def grow (b : ByteBuf) (bytes : Bytes) : Nat → Nat → Except (Stop Exn) ByteBuf
  | 0, _ => .error .diverged
  | rounds + 1, newLen =>
    if small : newLen ≤ maxByteBufLen then
      if room : bytes.length < newLen - b.data.length then
        .ok {
          len := newLen
          autoAlloc := b.autoAlloc
          readPos := 0
          data := b.data ++ bytes
          fits := fits_of_room room
          bounded := bounded_of_small small }
      else grow b bytes rounds (newLen * 2)
    else .error (.thrown .lengthError)

/-- Twenty-six doublings pass the limit from any positive length. -/
def writeToByteBuf (bytes : Bytes) : Prog Exn ByteBuf Unit := fun b =>
  if bytes = [] then (.error .asserted, b)
  else if room : b.readPos + b.data.length + bytes.length ≤ b.len then
    (.ok (), { b with data := b.data ++ bytes, fits := by rw [List.length_append]; omega })
  else if b.autoAlloc then
    match grow b bytes 26 (b.len * 2) with
    | .ok grown => (.ok (), grown)
    | .error e => (.error e, b)
  else (.error (.thrown .lengthError), b)

def readFromByteBuf (n : Nat) : Prog Exn ByteBuf Bytes := fun b =>
  if n ≤ b.data.length then (.ok (b.data.take n), b.advance n) else (.error (.thrown .lengthError), b)

def moveReadPtr (n : Nat) : Prog Exn ByteBuf Unit := fun b =>
  if n < b.data.length then (.ok (), b.advance n)
  else if n = b.data.length then (.ok (), b.reset)
  else (.error (.thrown .lengthError), b)

@[simp] theorem fresh_data : fresh.data = [] := rfl

@[simp] theorem reset_data (b : ByteBuf) : b.reset.data = [] := rfl

@[simp] theorem advance_data (b : ByteBuf) (n : Nat) : (b.advance n).data = b.data.drop n := rfl

theorem advance_zero (b : ByteBuf) : b.advance 0 = b := by
  ext <;> simp [advance]

theorem advance_advance (b : ByteBuf) (m n : Nat) : (b.advance m).advance n = b.advance (m + n) := by
  ext
  · rfl
  · rfl
  · simp only [advance, List.length_drop]
    omega
  · simp [advance, List.drop_drop, Nat.add_comm]

theorem readFromByteBuf_run {b : ByteBuf} {n : Nat} (enough : n ≤ b.data.length) :
    readFromByteBuf n b = (.ok (b.data.take n), b.advance n) := if_pos enough

theorem readFromByteBuf_short {b : ByteBuf} {n : Nat} (short : b.data.length < n) :
    readFromByteBuf n b = (.error (.thrown .lengthError), b) := if_neg (by omega)

theorem moveReadPtr_run {b : ByteBuf} {n : Nat} (enough : n ≤ b.data.length) :
    ∃ moved, moveReadPtr n b = (.ok (), moved) ∧ moved.data = b.data.drop n := by
  rw [moveReadPtr]
  by_cases less : n < b.data.length
  · exact ⟨_, if_pos less, rfl⟩
  · have all : n = b.data.length := by omega
    refine ⟨b.reset, ?_, ?_⟩
    · rw [if_neg less, if_pos all]
    · rw [all, List.drop_length, reset_data]

/-- The largest allocation reached by doubling the default length. -/
def capacity : Nat := 10 * 1024 * 1024

/-- A buffer that has only been written since it was made or reset. -/
structure Appendable (b : ByteBuf) : Prop where
  auto : b.autoAlloc = true
  start : b.readPos = 0
  doubled : ∃ k, k ≤ 10 ∧ b.len = defaultBufLen * 2 ^ k

theorem fresh_appendable : fresh.Appendable := ⟨rfl, rfl, 0, by decide, rfl⟩

theorem Appendable.reset {b : ByteBuf} (appendable : b.Appendable) : b.reset.Appendable :=
  ⟨appendable.auto, rfl, appendable.doubled⟩

theorem Appendable.grow {b : ByteBuf} {bytes : Bytes} (appendable : b.Appendable) {rounds j : Nat}
    (enough : 12 ≤ rounds + j) (range : j ≤ 11) (full : j = 11 → capacity ≤ b.data.length + bytes.length) :
    (∃ grown, b.grow bytes rounds (defaultBufLen * 2 ^ j) = .ok grown ∧ grown.Appendable ∧
        grown.data = b.data ++ bytes) ∨
      (b.grow bytes rounds (defaultBufLen * 2 ^ j) = .error (.thrown .lengthError) ∧
        capacity ≤ b.data.length + bytes.length) := by
  induction rounds generalizing j with
  | zero => omega
  | succ rounds ih =>
    rw [ByteBuf.grow]
    by_cases last : j = 11
    · subst last
      rw [dif_neg (by decide)]
      exact Or.inr ⟨rfl, full rfl⟩
    · have within : defaultBufLen * 2 ^ j ≤ capacity :=
        Nat.mul_le_mul_left defaultBufLen (Nat.pow_le_pow_right (by decide) (show j ≤ 10 by omega))
      rw [dif_pos (within.trans (by decide))]
      by_cases room : bytes.length < defaultBufLen * 2 ^ j - b.data.length
      · rw [dif_pos room]
        exact Or.inl ⟨_, rfl, ⟨appendable.auto, rfl, j, by omega, rfl⟩, rfl⟩
      · have doubled : defaultBufLen * 2 ^ j * 2 = defaultBufLen * 2 ^ (j + 1) := by
          rw [Nat.pow_succ, Nat.mul_assoc]
        rw [dif_neg room, doubled]
        refine ih (by omega) (by omega) (fun next => ?_)
        have top : defaultBufLen * 2 ^ j = capacity := by
          rw [show j = 10 by omega]
          rfl
        omega

/-- A write to such a buffer appends, or throws with the capacity
reached. -/
theorem Appendable.write {b : ByteBuf} {bytes : Bytes} (appendable : b.Appendable) (some : bytes ≠ []) :
    (∃ written, writeToByteBuf bytes b = (.ok (), written) ∧ written.Appendable ∧
        written.data = b.data ++ bytes) ∨
      (writeToByteBuf bytes b = (.error (.thrown .lengthError), b) ∧
        capacity ≤ b.data.length + bytes.length) := by
  rw [writeToByteBuf, if_neg some]
  by_cases room : b.readPos + b.data.length + bytes.length ≤ b.len
  · rw [dif_pos room]
    exact Or.inl ⟨_, rfl, ⟨appendable.auto, appendable.start, appendable.doubled⟩, rfl⟩
  · rw [dif_neg room, if_pos appendable.auto]
    obtain ⟨k, range, length⟩ := appendable.doubled
    have doubled : b.len * 2 = defaultBufLen * 2 ^ (k + 1) := by
      rw [length, Nat.pow_succ, Nat.mul_assoc]
    have full : k + 1 = 11 → capacity ≤ b.data.length + bytes.length := by
      intro last
      have top : defaultBufLen * 2 ^ k = capacity := by
        rw [show k = 10 by omega]
        rfl
      rw [appendable.start, length] at room
      omega
    rw [doubled]
    rcases appendable.grow (show 12 ≤ 26 + (k + 1) by omega) (by omega) full with
      ⟨grown, ran, still, appended⟩ | ⟨ran, reached⟩
    · exact Or.inl ⟨grown, by rw [ran], still, appended⟩
    · exact Or.inr ⟨by rw [ran], reached⟩

end ByteBuf

end DbcNode
