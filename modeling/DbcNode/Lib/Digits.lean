import DbcNode.Lib.Bytes

namespace DbcNode

section Split
variable {separator b : UInt8} {text : Bytes}

theorem flatten_splitOnP (p : UInt8 → Bool) (text : Bytes) :
    (text.splitOnP p).flatten = text.filter (fun b => ! p b) := by
  induction text with
  | nil => rfl
  | cons b rest ih =>
    rw [List.splitOnP_cons_eq_if_modifyHead]
    split
    · rename_i here
      rw [List.flatten_cons, List.nil_append, ih, List.filter_cons_of_neg (by simp [here])]
    · rename_i apart
      rw [List.filter_cons_of_pos (by simpa using apart), ← ih]
      obtain ⟨part, parts, split⟩ := List.exists_cons_of_ne_nil (List.splitOnP_ne_nil p rest)
      rw [split]
      rfl

/-- The parts of a text hold all of it but the separators. -/
theorem flatten_splitText (separator : UInt8) (text : Bytes) :
    (splitText separator text).flatten = text.filter (· ≠ separator) := by
  have blanks : ∀ parts : List Bytes, (parts.filter (· ≠ [])).flatten = parts.flatten := by
    intro parts
    induction parts with
    | nil => rfl
    | cons part rest ih =>
      by_cases empty : part = []
      · rw [List.filter_cons_of_neg (by simpa using empty), ih, empty]
        rfl
      · rw [List.filter_cons_of_pos (by simpa using empty), List.flatten_cons, List.flatten_cons, ih]
  rw [splitText, blanks, List.splitOn_eq_splitOnP, flatten_splitOnP]
  refine List.filter_congr fun b _ => ?_
  simp [Bool.beq_eq_decide_eq]

theorem splitText_of_not_mem (filled : text ≠ []) (apart : separator ∉ text) :
    splitText separator text = [text] := by
  rw [splitText, List.splitOn_eq_singleton apart, List.filter_cons_of_pos (by simpa using filled), List.filter_nil]

/-- A text with a separator after it is the first part, unless there is
nothing before it. -/
theorem splitText_append (apart : separator ∉ text) (rest : Bytes) :
    splitText separator (text ++ separator :: rest) = [text].filter (· ≠ []) ++ splitText separator rest := by
  rw [splitText, List.splitOn_eq_splitOnP, List.splitOnP_append_cons _ _ (by simp), List.filter_append,
    ← List.splitOn_eq_splitOnP, ← List.splitOn_eq_splitOnP, List.splitOn_eq_singleton apart]
  rfl

/-- The parts between the separators are made of the other bytes of the
text. -/
theorem mem_splitOn {part : Bytes} (member : part ∈ text.splitOn separator) (inside : b ∈ part) :
    b ∈ text ∧ b ≠ separator := by
  have whole := flatten_splitOnP (· == separator) text
  rw [← List.splitOn_eq_splitOnP] at whole
  have listed : b ∈ (text.splitOn separator).flatten := List.mem_flatten.mpr ⟨part, member, inside⟩
  rw [whole, List.mem_filter] at listed
  exact ⟨listed.1, by simpa using listed.2⟩

theorem ne_nil_of_mem_splitText {part : Bytes} (member : part ∈ splitText separator text) : part ≠ [] :=
  of_decide_eq_true (List.mem_filter.mp member).2

end Split

theorem isDigits_iff {text : Bytes} : isDigits text = true ↔ text ≠ [] ∧ ∀ b ∈ text, isDigit b = true := by
  simp [isDigits]

/-- The two parts of a text, where it has two. -/
def pairOf (separator : UInt8) (text : Bytes) : Option (Bytes × Bytes) :=
  match splitText separator text with
  | [first, second] => some (first, second)
  | _ => none

theorem pairOf_eq_some {separator : UInt8} {text first second : Bytes} :
    pairOf separator text = some (first, second) ↔ splitText separator text = [first, second] := by
  unfold pairOf
  split
  · rename_i here
    rw [here]
    simp
  · rename_i other
    exact iff_of_false nofun fun two => other first second two

theorem pairOf_eq_none {separator : UInt8} {text : Bytes} :
    pairOf separator text = none ↔ ∀ first second, splitText separator text ≠ [first, second] := by
  constructor
  · intro missing first second two
    rw [pairOf_eq_some.mpr two] at missing
    cases missing
  · intro apart
    cases pair : pairOf separator text with
    | none => rfl
    | some both => exact absurd (pairOf_eq_some.mp pair) (apart both.1 both.2)

theorem pairOf_of_not_mem {separator : UInt8} {text : Bytes} (apart : separator ∉ text) :
    pairOf separator text = none := by
  refine pairOf_eq_none.mpr fun first second two => ?_
  have length := congrArg List.length two
  have short := List.length_filter_le (fun part : Bytes => decide (part ≠ [])) [text]
  rw [splitText, List.splitOn_eq_singleton apart] at length
  rw [length] at short
  simp at short

/-- What a pair is made of. -/
theorem mem_of_pairOf {separator b : UInt8} {text first second : Bytes}
    (pair : pairOf separator text = some (first, second)) : (b ∈ first ∨ b ∈ second) ↔
      (b ∈ text ∧ b ≠ separator) := by
  have parts := flatten_splitText separator text
  rw [pairOf_eq_some.mp pair] at parts
  have member : b ∈ [first, second].flatten ↔ b ∈ text.filter (· ≠ separator) := by rw [parts]
  simpa using member

theorem ne_nil_of_pairOf {separator : UInt8} {text first second : Bytes}
    (pair : pairOf separator text = some (first, second)) :
    first ≠ [] ∧ second ≠ [] := by
  have parts := pairOf_eq_some.mp pair
  constructor
  · exact ne_nil_of_mem_splitText (parts ▸ List.mem_cons_self)
  · exact ne_nil_of_mem_splitText (parts ▸ List.mem_cons_of_mem _ List.mem_cons_self)

end DbcNode
