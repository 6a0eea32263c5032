import Mathlib.Tactic

namespace DbcNode

section Amend
variable {α κ : Type} [DecidableEq κ] (key : α → κ) (k : κ)

/-- The list after a change, in place, to its first element under a key. -/
def amend (f : α → α) : List α → List α
  | [] => []
  | a :: rest => if key a = k then f a :: rest else a :: amend f rest

variable {key k}

@[simp] theorem amend_length (f : α → α) (l : List α) : (amend key k f l).length = l.length := by
  induction l with
  | nil => rfl
  | cons a rest ih =>
    rw [amend]
    split
    · rfl
    · rw [List.length_cons, List.length_cons, ih]

theorem amend_map_key {f : α → α} (kept : ∀ a, key (f a) = key a) (l : List α) :
    (amend key k f l).map key = l.map key := by
  induction l with
  | nil => rfl
  | cons a rest ih =>
    rw [amend]
    split
    · rw [List.map_cons, List.map_cons, kept]
    · rw [List.map_cons, List.map_cons, ih]

/-- What is in the list afterwards: an element as it was, or the changed
one. -/
theorem mem_amend {f : α → α} {l : List α} {b : α} (member : b ∈ amend key k f l) :
    b ∈ l ∨ ∃ a ∈ l, key a = k ∧ b = f a := by
  induction l with
  | nil => cases member
  | cons a rest ih =>
    rw [amend] at member
    split at member
    · rename_i same
      rcases List.mem_cons.mp member with head | tail
      · exact Or.inr ⟨a, List.mem_cons_self, same, head⟩
      · exact Or.inl (List.mem_cons_of_mem a tail)
    · rcases List.mem_cons.mp member with head | tail
      · exact Or.inl (head ▸ List.mem_cons_self)
      · rcases ih tail with old | ⟨c, found, same, changed⟩
        · exact Or.inl (List.mem_cons_of_mem a old)
        · exact Or.inr ⟨c, List.mem_cons_of_mem a found, same, changed⟩

/-- With distinct keys only the changed element is left under the key. -/
theorem mem_amend_distinct {f : α → α} {l : List α} (distinct : (l.map key).Nodup) {b : α}
    (member : b ∈ amend key k f l) : (b ∈ l ∧ key b ≠ k) ∨ ∃ a ∈ l, key a = k ∧ b = f a := by
  induction l with
  | nil => cases member
  | cons a rest ih =>
    obtain ⟨fresh, distinct⟩ := List.nodup_cons.mp distinct
    rw [amend] at member
    split at member
    · rename_i same
      rcases List.mem_cons.mp member with head | tail
      · exact Or.inr ⟨a, List.mem_cons_self, same, head⟩
      · refine Or.inl ⟨List.mem_cons_of_mem a tail, fun equal => fresh ?_⟩
        rw [same, ← equal]
        exact List.mem_map_of_mem tail
    · rename_i other
      rcases List.mem_cons.mp member with head | tail
      · exact Or.inl ⟨head ▸ List.mem_cons_self, head ▸ other⟩
      · rcases ih distinct tail with ⟨old, kept⟩ | ⟨c, found, same, changed⟩
        · exact Or.inl ⟨List.mem_cons_of_mem a old, kept⟩
        · exact Or.inr ⟨c, List.mem_cons_of_mem a found, same, changed⟩

end Amend

end DbcNode
