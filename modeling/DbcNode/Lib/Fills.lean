import DbcNode.Lib.OrdMap

namespace DbcNode.OrdMap

theorem nodup_keys {κ α : Type} [LT κ] [Std.Asymm (α := κ) (· < ·)] (m : OrdMap κ α) : m.keys.Nodup := by
  refine List.pairwise_map.mpr (m.sorted.imp ?_)
  intro first second less same
  rw [same] at less
  exact Std.Asymm.asymm _ _ less less

section Fill
variable {κ α : Type} [LT κ] [DecidableLT κ] [DecidableEq κ] [Trans (α := κ) (· < ·) (· < ·) (· < ·)]
  [Std.Trichotomous (α := κ) (· < ·)] [Std.Asymm (α := κ) (· < ·)]

/-- A map that is filled from a list of entries, where a later entry takes
the place of an earlier one with the same key. -/
def fill (pairs : List (κ × α)) : OrdMap κ α := pairs.foldl (fun m pair => m.insert pair.1 pair.2) empty

variable {pairs : List (κ × α)}

theorem mem_of_find_fill {key : κ} {value : α} (found : (fill pairs).find key = some value) :
    (key, value) ∈ pairs := by
  induction pairs using List.reverseRecOn with
  | nil => cases found
  | append_singleton pairs pair ih =>
    rw [fill, List.foldl_append, List.foldl_cons, List.foldl_nil, find_insert] at found
    split at found
    · rename_i same
      cases found
      rw [same]
      exact List.mem_append_right pairs (List.mem_singleton_self pair)
    · exact List.mem_append_left _ (ih found)

theorem find_fill_isSome {key : κ} (listed : key ∈ pairs.map (·.1)) :
    ∃ value, (fill pairs).find key = some value := by
  induction pairs using List.reverseRecOn with
  | nil => cases listed
  | append_singleton pairs pair ih =>
    rw [fill, List.foldl_append, List.foldl_cons, List.foldl_nil, find_insert]
    split
    · exact ⟨_, rfl⟩
    · rename_i other
      rw [List.map_append, List.mem_append, List.map_singleton, List.mem_singleton] at listed
      rcases listed with before | last
      · exact ih before
      · exact absurd last other

/-- Where the values of the list differ, the map has every one of them once
just where their keys differ too. -/
theorem count_fill_iff [DecidableEq α] (distinct : (pairs.map (·.2)).Nodup) :
    (∀ value ∈ pairs.map (·.2), (fill pairs).values.count value = 1) ↔ (pairs.map (·.1)).Nodup := by
  constructor
  · intro once
    have fewer : (pairs.map (·.2)).length ≤ (fill pairs).values.length := by
      refine (distinct.subperm fun value member => ?_).length_le
      exact List.one_le_count_iff.mp (once value member).ge
    have listed : (fill pairs).keys ⊆ (pairs.map (·.1)).dedup := by
      intro key member
      obtain ⟨value, found⟩ := mem_keys.mp member
      exact List.mem_dedup.mpr (List.mem_map.mpr ⟨_, mem_of_find_fill found, rfl⟩)
    have most := ((nodup_keys (fill pairs)).subperm listed).length_le
    rw [keys, List.length_map] at most
    rw [values, List.length_map, List.length_map] at fewer
    have least := (List.dedup_sublist (pairs.map (·.1))).length_le
    have whole : (pairs.map (·.1)).length = pairs.length := List.length_map _
    have same := (List.dedup_sublist (pairs.map (·.1))).eq_of_length (by omega)
    rw [← same]
    exact List.nodup_dedup _
  · intro apart value member
    obtain ⟨⟨key, value⟩, paired, rfl⟩ := List.mem_map.mp member
    obtain ⟨other, found⟩ := find_fill_isSome (List.mem_map.mpr ⟨_, paired, rfl⟩)
    have same : other = value := by
      have both := List.inj_on_of_nodup_map apart (mem_of_find_fill found) paired rfl
      exact congrArg Prod.snd both
    subst same
    have entries : (fill pairs).values.Nodup := by
      refine List.Nodup.map_on ?_ (List.Nodup.of_map _ (nodup_keys (fill pairs)))
      intro first isFirst second isSecond equal
      have one := mem_of_find_fill (find_eq_some.mpr isFirst)
      have two := mem_of_find_fill (find_eq_some.mpr isSecond)
      exact List.inj_on_of_nodup_map distinct one two equal
    exact List.count_eq_one_of_mem entries (List.mem_map.mpr ⟨_, find_eq_some.mp found, rfl⟩)

end Fill

end DbcNode.OrdMap

namespace DbcNode

section Lasts
variable {α κ : Type} [DecidableEq κ] (key : α → κ)

/-- The elements of a list that no later one has the key of. -/
def lasts : List α → List α
  | [] => []
  | a :: rest => if ∃ b ∈ rest, key b = key a then lasts rest else a :: lasts rest

variable {key} {l : List α} {a : α}

theorem lasts_sublist (l : List α) : (lasts key l).Sublist l := by
  induction l with
  | nil => exact .slnil
  | cons a rest ih =>
    rw [lasts]
    split
    · exact ih.cons a
    · exact ih.cons_cons a

/-- All elements of a kind are such, where no later element has the key of
one. -/
theorem forall_mem_lasts_iff (distinct : l.Nodup) (p : α → Prop) :
    (∀ a ∈ l, p a → a ∈ lasts key l) ↔ l.Pairwise fun a b => p a → key a ≠ key b := by
  induction l with
  | nil => exact iff_of_true nofun .nil
  | cons a rest ih =>
    obtain ⟨fresh, distinct⟩ := List.nodup_cons.mp distinct
    have later : (∀ b ∈ rest, p b → b ∈ lasts key (a :: rest)) ↔ ∀ b ∈ rest, p b → b ∈ lasts key rest := by
      refine forall_congr' fun b => forall_congr' fun member => imp_congr_right fun _ => ?_
      have apart : b ≠ a := fun same => fresh (same ▸ member)
      rw [lasts]
      split
      · rfl
      · rw [List.mem_cons, or_iff_right apart]
    have first : a ∈ lasts key (a :: rest) ↔ ∀ b ∈ rest, key a ≠ key b := by
      rw [lasts]
      split
      · rename_i repeated
        obtain ⟨b, member, same⟩ := repeated
        refine iff_of_false (fun inside => fresh ((lasts_sublist rest).subset inside)) ?_
        exact fun apart => apart b member same.symm
      · rename_i unique
        exact iff_of_true List.mem_cons_self fun b member same => unique ⟨b, member, same.symm⟩
    rw [List.forall_mem_cons, List.pairwise_cons, later, ih distinct, first]
    refine and_congr_left fun _ => ?_
    exact ⟨fun all b member is => all is b member, fun all is b member => all b member is⟩

end Lasts

namespace OrdMap
variable {κ α β : Type} [LT κ] [DecidableLT κ] [DecidableEq κ] [Trans (α := κ) (· < ·) (· < ·) (· < ·)]
  [Std.Trichotomous (α := κ) (· < ·)] [Std.Asymm (α := κ) (· < ·)]

/-- Of what is put into a map one after the other, the last under each key
stays. -/
theorem find_foldl_insert {key : β → κ} {value : β → α} (l : List β) (m : OrdMap κ α) {k : κ} {v : α} :
    (l.foldl (fun m b => m.insert (key b) (value b)) m).find k = some v ↔
      (∃ b ∈ lasts key l, key b = k ∧ value b = v) ∨ (m.find k = some v ∧ ∀ b ∈ l, key b ≠ k) := by
  induction l generalizing m with
  | nil => simp [lasts]
  | cons a rest ih =>
    rw [List.foldl_cons, ih, find_insert, List.forall_mem_cons, lasts]
    by_cases here : k = key a
    · subst here
      by_cases repeated : ∃ b ∈ rest, key b = key a
      · have kept : ¬ ∀ b ∈ rest, key b ≠ key a := fun apart => by
          obtain ⟨b, member, same⟩ := repeated
          exact apart b member same
        simp only [if_pos repeated, kept, and_false]
      · have apart : ∀ b ∈ rest, key b ≠ key a := fun b member same => repeated ⟨b, member, same⟩
        have away : ¬ ∃ b ∈ lasts key rest, key b = key a ∧ value b = v := by
          rintro ⟨b, member, same, _⟩
          exact apart b ((lasts_sublist rest).subset member) same
        rw [if_pos rfl, if_neg repeated]
        constructor
        · rintro (later | ⟨stored, _⟩)
          · exact absurd later away
          · exact Or.inl ⟨a, List.mem_cons_self, rfl, Option.some.inj stored⟩
        · rintro (⟨b, member, same, stored⟩ | ⟨_, other, _⟩)
          · rcases List.mem_cons.mp member with rfl | later
            · exact Or.inr ⟨congrArg some stored, apart⟩
            · exact absurd ⟨b, later, same, stored⟩ away
          · exact absurd rfl other
    · have other : key a ≠ k := fun same => here same.symm
      have tail : (∃ b ∈ (if ∃ b ∈ rest, key b = key a then lasts key rest else a :: lasts key rest),
          key b = k ∧ value b = v) ↔ ∃ b ∈ lasts key rest, key b = k ∧ value b = v := by
        split
        · rfl
        · simp [other]
      rw [if_neg here, tail]
      simp [other]

end OrdMap

end DbcNode
