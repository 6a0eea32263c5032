import DbcNode.Buffer.Fifo

namespace DbcNode

namespace RawBuf
variable {b : RawBuf}

theorem Ordered.fits (ordered : b.Ordered) : b.readPtr - b.buf + b.readable.length ≤ b.len := by
  have length := ordered.readable_length
  obtain ⟨start, unread, joint, room, stop, _, _, _⟩ := ordered
  omega

/-- The buffer that the codec is modelled with: the pointers by their
distances, and only the bytes that can be read. -/
def view (b : RawBuf) (ordered : b.Ordered) : ByteBuf :=
  ⟨b.len, b.autoAlloc, b.readPtr - b.buf, b.readable, ordered.fits, ordered.small⟩

/-- A call on the pointers and a call on the view end alike, in buffers that
agree. -/
def Mirrors {α : Type} (raw : Except (Stop Exn) α × RawBuf) (seen : Except (Stop Exn) α × ByteBuf) : Prop :=
  raw.1 = seen.1 ∧ ∃ ordered : raw.2.Ordered, raw.2.view ordered = seen.2

theorem Mirrors.refuse {α : Type} (ordered : b.Ordered) (stop : Stop Exn) :
    Mirrors ((.error stop : Except (Stop Exn) α), b) (.error stop, b.view ordered) := ⟨rfl, ordered, rfl⟩

theorem Mirrors.same {α : Type} {result : Except (Stop Exn) α} {after : RawBuf} {seen : ByteBuf}
    (ordered : after.Ordered) (len : after.len = seen.len) (auto : after.autoAlloc = seen.autoAlloc)
    (place : after.readPtr - after.buf = seen.readPos) (data : after.readable = seen.data) :
    Mirrors (result, after) (result, seen) :=
  ⟨rfl, ordered, ByteBuf.ext len auto place data⟩

theorem readFromByteBuf_mirrors (ordered : b.Ordered) (n : Nat) :
    Mirrors (readFromByteBuf n b) (ByteBuf.readFromByteBuf n (b.view ordered)) := by
  obtain ⟨result, after, ran, ends⟩ := ordered.read n
  have length := ordered.readable_length
  have unread := ordered.unread
  have start := ordered.start
  by_cases enough : b.readPtr + n ≤ b.readBound
  · have called :
      readFromByteBuf n b = (.ok (b.cells b.readPtr (b.readPtr + n)), { b with readPtr := b.readPtr + n }) :=
      if_pos enough
    change readFromByteBuf n b = (result, after) at ran
    rw [called, Prod.mk.injEq] at ran
    obtain ⟨rfl, rfl⟩ := ran
    obtain ⟨_, answer, queue⟩ := ends.returned _ rfl
    have fewer : n ≤ (b.view ordered).data.length := by
      simp only [view]
      omega
    rw [called, ByteBuf.readFromByteBuf_run fewer, answer]
    refine Mirrors.same ends.ordered rfl rfl ?_ queue
    simp only [ByteBuf.advance, view]
    omega
  · have called : readFromByteBuf n b = (.error (.thrown .lengthError), b) := if_neg enough
    have short : (b.view ordered).data.length < n := by
      simp only [view]
      omega
    rw [called, ByteBuf.readFromByteBuf_short short]
    exact Mirrors.refuse ordered _

theorem moveReadPtr_mirrors (ordered : b.Ordered) (n : Nat) :
    Mirrors (moveReadPtr n b) (ByteBuf.moveReadPtr n (b.view ordered)) := by
  have length : b.getValidReadLen = (b.view ordered).data.length := ordered.readLen
  have start := ordered.start
  have unread := ordered.unread
  rw [moveReadPtr, ByteBuf.moveReadPtr, length]
  by_cases less : n < (b.view ordered).data.length
  · rw [if_pos less, if_pos less]
    rw [← length, ordered.getValidReadLen] at less
    have after : ({ b with readPtr := b.readPtr + n } : RawBuf).Ordered := by
      obtain ⟨start, unread, joint, room, stop, backed, positive, small⟩ := ordered
      exact ⟨by simp only; omega, by simp only; omega, joint, room, stop, backed, positive, small⟩
    refine Mirrors.same after rfl rfl ?_ (readable_drop start n)
    have enough : n ≤ (b.view ordered).data.length := by
      rw [← length, ordered.getValidReadLen]
      omega
    simp only [ByteBuf.advance, min_eq_left enough]
    simp only [view]
    omega
  · rw [if_neg less, if_neg less]
    by_cases all : n = (b.view ordered).data.length
    · rw [if_pos all, if_pos all]
      exact Mirrors.same ordered.reset rfl rfl (Nat.sub_self _) (reset_readable b)
    · rw [if_neg all, if_neg all]
      exact Mirrors.refuse ordered _

theorem grow_mirrors (ordered : b.Ordered) (bytes : Bytes) (place : Nat) {newLen : Nat} (least : b.len < newLen)
    (fits : newLen < 2 ^ 32) (rounds : Nat) :
    (∃ stop, b.grow bytes place rounds newLen = .error stop ∧
        (b.view ordered).grow bytes rounds newLen = .error stop) ∨
      ∃ grown seen, b.grow bytes place rounds newLen = .ok grown ∧
        (b.view ordered).grow bytes rounds newLen = .ok seen ∧
        ∃ after : grown.Ordered, grown.view after = seen := by
  have length : b.getValidReadLen = (b.view ordered).data.length := ordered.readLen
  have held : b.getValidReadLen ≤ b.len := by
    rw [ordered.getValidReadLen]
    obtain ⟨start, unread, joint, room, stop, _, _, _⟩ := id ordered
    omega
  induction rounds generalizing newLen with
  | zero => exact Or.inl ⟨_, rfl, rfl⟩
  | succ rounds ih =>
    rw [RawBuf.grow, ByteBuf.grow]
    by_cases small : newLen ≤ maxByteBufLen
    · have limit : maxByteBufLen = 2 ^ 24 := rfl
      have difference : (newLen + 2 ^ 32 - b.getValidReadLen) % 2 ^ 32 = newLen - (b.view ordered).data.length := by
        omega
      rw [if_pos small, dif_pos small, difference]
      by_cases room : bytes.length < newLen - (b.view ordered).data.length
      · rw [if_pos room, dif_pos room]
        have moved :=
          ordered.moveInto place (by rw [← ordered.readLen]; omega : b.readable.length < newLen) (by omega)
        have within : (b.moveInto newLen place).writePtr + bytes.length ≤ (b.moveInto newLen place).writeBound := by
          simp only [RawBuf.moveInto]
          omega
        have appended := moved.1.append within
        refine Or.inr ⟨_, _, rfl, rfl, appended.1, ByteBuf.ext rfl rfl (Nat.sub_self _) ?_⟩
        change ((b.moveInto newLen place).append bytes).readable = b.readable ++ bytes
        rw [appended.2, moved.2]
      · have doubled : newLen * 2 % 2 ^ 32 = newLen * 2 := by omega
        rw [if_neg room, dif_neg room, doubled]
        exact ih (by omega) (by omega)
    · rw [if_neg small, dif_neg small]
      exact Or.inl ⟨_, rfl, rfl⟩

/-- Where the new allocation is made does not show. -/
theorem writeToByteBuf_mirrors (ordered : b.Ordered) (bytes : Bytes) (place : Nat) :
    Mirrors (writeToByteBuf bytes place b) (ByteBuf.writeToByteBuf bytes (b.view ordered)) := by
  have small := ordered.small
  have positive := ordered.positive
  have room : b.writePtr + bytes.length ≤ b.writeBound ↔
      (b.view ordered).readPos + (b.view ordered).data.length + bytes.length ≤ (b.view ordered).len := by
    have length := ordered.readable_length
    obtain ⟨start, unread, joint, below, stop, _, _, _⟩ := id ordered
    simp only [view]
    omega
  rw [writeToByteBuf, ByteBuf.writeToByteBuf]
  by_cases empty : bytes = []
  · rw [if_pos empty, if_pos empty]
    exact Mirrors.refuse ordered _
  rw [if_neg empty, if_neg empty]
  by_cases fits : b.writePtr + bytes.length ≤ b.writeBound
  · rw [if_pos fits, dif_pos (room.mp fits)]
    have appended := ordered.append fits
    exact Mirrors.same appended.1 rfl rfl rfl appended.2
  rw [if_neg fits, dif_neg (fun within => fits (room.mpr within))]
  by_cases auto : b.autoAlloc = true
  · have doubled : b.len * 2 % 2 ^ 32 = b.len * 2 := by omega
    rw [if_pos auto, if_pos (show (b.view ordered).autoAlloc = true from auto), doubled]
    rcases grow_mirrors ordered bytes place (by omega : b.len < b.len * 2) (by omega) 26 with
      ⟨stop, raw, seen⟩ | ⟨grown, result, raw, seen, after, agree⟩
    · rw [raw, show (b.view ordered).grow bytes 26 ((b.view ordered).len * 2) = _ from seen]
      exact Mirrors.refuse ordered _
    · rw [raw, show (b.view ordered).grow bytes 26 ((b.view ordered).len * 2) = _ from seen]
      exact ⟨rfl, after, agree⟩
  · rw [if_neg auto, if_neg (show ¬ (b.view ordered).autoAlloc = true from auto)]
    exact Mirrors.refuse ordered _

end RawBuf

end DbcNode
