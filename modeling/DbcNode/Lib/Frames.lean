import Mathlib.Tactic

namespace DbcNode

/-- How a stream is divided into frames: the first `header` elements of a
frame give its length, and some lengths are not allowed. -/
structure Framing (α : Type) where
  header : Nat
  size : List α → Nat
  legal : Nat → Bool
  positive : 0 < header
  size_append : ∀ frame rest, header ≤ frame.length → size (frame ++ rest) = size frame
  header_le : ∀ n, legal n = true → header ≤ n

namespace Framing
variable {α : Type} (F : Framing α)

/-- A whole frame of an allowed length. -/
structure Whole (frame : List α) : Prop where
  legal : F.legal (F.size frame) = true
  length : frame.length = F.size frame

/-- A frame that is not there yet. -/
def Waits (part : List α) : Prop :=
  part.length < F.header ∨ (F.legal (F.size part) = true ∧ part.length < F.size part)

/-- A frame whose length has arrived and is not allowed. -/
def Rejected (part : List α) : Prop := F.header ≤ part.length ∧ F.legal (F.size part) = false

def cutWithin : Nat → List α → List (List α) × List α
  | 0, stream => ([], stream)
  | rounds + 1, stream =>
    if F.header ≤ stream.length ∧ F.legal (F.size stream) = true ∧ F.size stream ≤ stream.length then
      let (frames, rest) := cutWithin rounds (stream.drop (F.size stream))
      (stream.take (F.size stream) :: frames, rest)
    else ([], stream)

/-- The frames at the front of a stream, and what follows the last of
them. -/
def cut (stream : List α) : List (List α) × List α := F.cutWithin stream.length stream

variable {F}

theorem Whole.positive {frame : List α} (whole : F.Whole frame) : 0 < frame.length := by
  have header := F.header_le _ whole.legal
  have some := F.positive
  rw [whole.length]
  omega

theorem Waits.not_rejected {part : List α} (waits : F.Waits part) : ¬ F.Rejected part := by
  rintro ⟨arrived, illegal⟩
  rcases waits with short | ⟨legal, _⟩
  · omega
  · rw [illegal] at legal
    cases legal

/-- More of the stream does not change a rejected length. -/
theorem Rejected.append {part : List α} (rejected : F.Rejected part) (more : List α) :
    F.Rejected (part ++ more) := by
  refine ⟨?_, ?_⟩
  · rw [List.length_append]
    exact Nat.le_add_right_of_le rejected.1
  · rw [F.size_append part more rejected.1]
    exact rejected.2

theorem waits_nil : F.Waits [] := Or.inl F.positive

theorem cutWithin_rest {part : List α} (stuck : F.Waits part ∨ F.Rejected part) (rounds : Nat) :
    F.cutWithin rounds part = ([], part) := by
  cases rounds with
  | zero => rfl
  | succ rounds =>
    rw [cutWithin, if_neg]
    rintro ⟨arrived, legal, whole⟩
    rcases stuck with (short | ⟨_, short⟩) | ⟨_, illegal⟩
    · omega
    · omega
    · rw [illegal] at legal
      cases legal

/-- A stream made of whole frames and a rest is cut into these frames. -/
theorem cut_flatten {frames : List (List α)} {part : List α} (whole : ∀ frame ∈ frames, F.Whole frame)
    (stuck : F.Waits part ∨ F.Rejected part) : F.cut (frames.flatten ++ part) = (frames, part) := by
  have within : ∀ rounds, frames.length ≤ rounds → F.cutWithin rounds (frames.flatten ++ part) =
    (frames, part) := by
    induction frames with
    | nil =>
      intro rounds _
      exact cutWithin_rest stuck rounds
    | cons frame frames ih =>
      intro rounds enough
      obtain ⟨rounds, rfl⟩ : ∃ n, rounds = n + 1 := Nat.exists_eq_succ_of_ne_zero (by simp at enough; omega)
      have first := whole frame List.mem_cons_self
      have header := F.header_le _ first.legal
      have arrived : F.header ≤ frame.length := by rw [first.length]; exact header
      have size : F.size ((frame :: frames).flatten ++ part) = frame.length := by
        rw [List.flatten_cons, List.append_assoc, F.size_append _ _ arrived, first.length]
      have later := ih (fun other member => whole other (List.mem_cons_of_mem _ member)) rounds
        (by simp at enough; omega)
      rw [cutWithin, size, if_pos]
      · simp only [List.flatten_cons, List.append_assoc, List.take_left, List.drop_left, later]
      · refine ⟨?_, first.length ▸ first.legal, ?_⟩ <;>
          simp only [List.flatten_cons, List.append_assoc, List.length_append] <;> omega
  refine within _ ?_
  have long : frames.length ≤ frames.flatten.length := by
    clear within stuck
    induction frames with
    | nil => simp
    | cons frame frames ih =>
      have first := (whole frame List.mem_cons_self).positive
      have later := ih (fun other member => whole other (List.mem_cons_of_mem _ member))
      simp only [List.flatten_cons, List.length_append, List.length_cons]
      omega
  rw [List.length_append]
  omega

theorem cutWithin_spec {rounds : Nat} {stream : List α} (enough : stream.length ≤ rounds) :
    (∀ frame ∈ (F.cutWithin rounds stream).1, F.Whole frame) ∧
    (F.Waits (F.cutWithin rounds stream).2 ∨ F.Rejected (F.cutWithin rounds stream).2) ∧
    (F.cutWithin rounds stream).1.flatten ++ (F.cutWithin rounds stream).2 = stream := by
  induction rounds generalizing stream with
  | zero =>
    have empty : stream = [] := List.eq_nil_of_length_eq_zero (by omega)
    rw [empty]
    exact ⟨fun _ member => (List.not_mem_nil member).elim, Or.inl waits_nil, rfl⟩
  | succ rounds ih =>
    rw [cutWithin]
    split
    · rename_i whole
      obtain ⟨arrived, legal, fits⟩ := whole
      have header := F.header_le _ legal
      have some := F.positive
      have shorter : (stream.drop (F.size stream)).length ≤ rounds := by rw [List.length_drop]; omega
      obtain ⟨first, last, same⟩ := ih shorter
      have length : (stream.take (F.size stream)).length = F.size stream := by rw [List.length_take]; omega
      have size : F.size (stream.take (F.size stream)) = F.size stream := by
        have split := F.size_append (stream.take (F.size stream)) (stream.drop (F.size stream)) (by omega)
        rwa [List.take_append_drop, eq_comm] at split
      refine ⟨?_, last, ?_⟩
      · intro frame member
        rcases List.mem_cons.mp member with rfl | later
        · exact ⟨by rw [size]; exact legal, by rw [size, length]⟩
        · exact first frame later
      · rw [List.flatten_cons, List.append_assoc, same, List.take_append_drop]
    · rename_i stuck
      refine ⟨fun _ member => (List.not_mem_nil member).elim, ?_, rfl⟩
      change F.Waits stream ∨ F.Rejected stream
      by_cases arrived : F.header ≤ stream.length
      · by_cases legal : F.legal (F.size stream) = true
        · exact Or.inl (Or.inr ⟨legal, by by_contra long; exact stuck ⟨arrived, legal, by omega⟩⟩)
        · exact Or.inr ⟨arrived, Bool.not_eq_true _ ▸ legal⟩
      · exact Or.inl (Or.inl (by omega))

/-- A stream is made of its whole frames and of what is not one. -/
theorem cut_spec (stream : List α) :
    (∀ frame ∈ (F.cut stream).1, F.Whole frame) ∧ (F.Waits (F.cut stream).2 ∨ F.Rejected (F.cut stream).2) ∧
    (F.cut stream).1.flatten ++ (F.cut stream).2 = stream := cutWithin_spec (Nat.le_refl _)

/-- What arrives later is cut together with the rest of what arrived
before. -/
theorem cut_append (stream later : List α) :
    F.cut (stream ++ later) =
      ((F.cut stream).1 ++ (F.cut ((F.cut stream).2 ++ later)).1, (F.cut ((F.cut stream).2 ++ later)).2) := by
  obtain ⟨whole, _, same⟩ := F.cut_spec stream
  obtain ⟨whole', stuck, same'⟩ := F.cut_spec ((F.cut stream).2 ++ later)
  have parts : stream ++ later = ((F.cut stream).1 ++ (F.cut ((F.cut stream).2 ++ later)).1).flatten ++
      (F.cut ((F.cut stream).2 ++ later)).2 := by
    rw [List.flatten_append, List.append_assoc, same', ← List.append_assoc, same]
  have all : ∀ frame ∈ (F.cut stream).1 ++ (F.cut ((F.cut stream).2 ++ later)).1, F.Whole frame :=
    fun frame member => (List.mem_append.mp member).elim (whole frame) (whole' frame)
  have cut := cut_flatten all stuck
  rwa [← parts] at cut

end Framing

end DbcNode
