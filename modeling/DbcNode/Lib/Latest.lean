import Mathlib.Tactic

namespace DbcNode

namespace Latest
variable {α τ : Type} [LinearOrder τ] {stamp : α → τ}

/-- A register keeps the value with the latest stamp that it was given. Of
two values with the same stamp the older one stays. -/
def keep (stamp : α → τ) (held : Option α) (new : α) : Option α :=
  match held with
  | none => some new
  | some old => if stamp old < stamp new then some new else some old

/-- A value that is the latest of some values and of what was held before
them, and is the one held before unless a later one came. -/
structure Is (stamp : α → τ) (before : Option α) (values : List α) (a : α) : Prop where
  origin : a ∈ values ∨ before = some a
  latest : ∀ b ∈ values, stamp b ≤ stamp a
  after : ∀ b, before = some b → stamp b ≤ stamp a
  stays : ∀ b, before = some b → stamp b = stamp a → a = b

theorem Is.next {before : Option α} {new : α} {values : List α} {a : α}
    (found : Is stamp (keep stamp before new) values a) : Is stamp before (new :: values) a := by
  cases before with
  | none =>
    have newer : stamp new ≤ stamp a := found.after new rfl
    refine ⟨?_, ?_, ?_, ?_⟩
    · rcases found.origin with listed | held
      · exact Or.inl (List.mem_cons_of_mem new listed)
      · cases held
        exact Or.inl List.mem_cons_self
    · intro b member
      rcases List.mem_cons.mp member with rfl | later
      · exact newer
      · exact found.latest b later
    · intro b held
      cases held
    · intro b held
      cases held
  | some old =>
    by_cases newer : stamp old < stamp new
    · have kept : keep stamp (some old) new = some new := if_pos newer
      rw [kept] at found
      have above : stamp new ≤ stamp a := found.after new rfl
      refine ⟨?_, ?_, ?_, ?_⟩
      · rcases found.origin with listed | held
        · exact Or.inl (List.mem_cons_of_mem new listed)
        · cases held
          exact Or.inl List.mem_cons_self
      · intro b member
        rcases List.mem_cons.mp member with rfl | later
        · exact above
        · exact found.latest b later
      · intro b held
        cases held
        exact (lt_of_lt_of_le newer above).le
      · intro b held equal
        cases held
        exact absurd equal (lt_of_lt_of_le newer above).ne
    · have kept : keep stamp (some old) new = some old := if_neg newer
      rw [kept] at found
      have above : stamp old ≤ stamp a := found.after old rfl
      refine ⟨found.origin.imp_left (List.mem_cons_of_mem new), ?_, found.after, found.stays⟩
      intro b member
      rcases List.mem_cons.mp member with rfl | later
      · exact le_trans (not_lt.mp newer) above
      · exact found.latest b later

theorem foldl_is (stamp : α → τ) (before : Option α) (values : List α) :
    (values.foldl (keep stamp) before = none ∧ before = none ∧ values = []) ∨
      ∃ a, values.foldl (keep stamp) before = some a ∧ Is stamp before values a := by
  induction values generalizing before with
  | nil =>
    cases before with
    | none => exact Or.inl ⟨rfl, rfl, rfl⟩
    | some old =>
      refine Or.inr ⟨old, rfl, Or.inr rfl, by simp, ?_, ?_⟩
      · rintro b held
        cases held
        exact le_refl _
      · rintro b held _
        cases held
        rfl
  | cons new values ih =>
    rcases ih (keep stamp before new) with ⟨_, gone, _⟩ | ⟨a, found, is⟩
    · exfalso
      unfold keep at gone
      split at gone
      · cases gone
      · split at gone <;> cases gone
    · exact Or.inr ⟨a, found, is.next⟩

/-- What is held in the end depends neither on the order of the values nor
on how often each of them comes, where different values have different
stamps. -/
theorem foldl_same (before : Option α) {first second : List α} (same : ∀ a, a ∈ first ↔ a ∈ second)
    (distinct : ∀ a ∈ first, ∀ b ∈ first, stamp a = stamp b → a = b) :
    first.foldl (keep stamp) before = second.foldl (keep stamp) before := by
  have nothing : first = [] ↔ second = [] := by
    simp only [List.eq_nil_iff_forall_not_mem, same]
  rcases foldl_is stamp before first with ⟨one, gone, empty⟩ | ⟨a, one, isA⟩
  · rw [one, nothing.mp empty, gone]
    rfl
  rcases foldl_is stamp before second with ⟨two, gone, empty⟩ | ⟨b, two, isB⟩
  · rcases isA.origin with listed | held
    · rw [nothing.mpr empty] at listed
      cases listed
    · rw [gone] at held
      cases held
  rw [one, two, Option.some.injEq]
  rcases isA.origin with listedA | heldA
  · rcases isB.origin with listedB | heldB
    · exact distinct a listedA b ((same b).mpr listedB)
        (le_antisymm (isB.latest a ((same a).mp listedA)) (isA.latest b ((same b).mpr listedB)))
    · exact isA.stays b heldB (le_antisymm (isA.after b heldB) (isB.latest a ((same a).mp listedA)))
  · rcases isB.origin with listedB | heldB
    · exact (isB.stays a heldA (le_antisymm (isB.after a heldA) (isA.latest b ((same b).mpr listedB)))).symm
    · exact Option.some.inj (heldA.symm.trans heldB)

end Latest

end DbcNode
