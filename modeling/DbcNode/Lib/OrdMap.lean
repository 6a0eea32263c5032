import Mathlib.Tactic

namespace DbcNode

/-- An ordered map kept as its entries in increasing key order, the order in
which iterating over it meets them. -/
@[ext] structure OrdMap (κ α : Type) [LT κ] where
  entries : List (κ × α)
  sorted : entries.Pairwise (fun a b => a.1 < b.1)

namespace OrdMap

section Entries
variable {κ α : Type} [LT κ] [DecidableLT κ]

def findIn (key : κ) : List (κ × α) → Option α
  | [] => none
  | (other, value) :: rest =>
    if key < other then none else if other < key then findIn key rest else some value

/-- Neither key being less is what makes two keys the same entry. -/
def insertIn (key : κ) (value : α) : List (κ × α) → List (κ × α)
  | [] => [(key, value)]
  | (other, old) :: rest =>
    if key < other then (key, value) :: (other, old) :: rest
    else if other < key then (other, old) :: insertIn key value rest
    else (other, value) :: rest

theorem insertIn_ne_nil (key : κ) (value : α) (entries : List (κ × α)) : insertIn key value entries ≠ [] := by
  cases entries with
  | nil => simp [insertIn]
  | cons entry rest =>
    simp only [insertIn]
    split
    · simp
    · split <;> simp

theorem insertIn_length_le (key : κ) (value : α) (entries : List (κ × α)) :
    (insertIn key value entries).length ≤ entries.length + 1 := by
  induction entries with
  | nil => simp [insertIn]
  | cons entry rest ih =>
    simp only [insertIn]
    split
    · simp
    · split <;> simp [ih]

theorem mem_insertIn {key : κ} {value : α} {entries : List (κ × α)} {entry : κ × α}
    (member : entry ∈ insertIn key value entries) :
    entry.2 = value ∧ (entry.1 = key ∨ ∃ old, (entry.1, old) ∈ entries) ∨ entry ∈ entries := by
  induction entries with
  | nil =>
    simp only [insertIn, List.mem_singleton] at member
    subst member
    exact Or.inl ⟨rfl, Or.inl rfl⟩
  | cons head rest ih =>
    obtain ⟨other, old⟩ := head
    simp only [insertIn] at member
    split at member
    · rcases List.mem_cons.mp member with same | later
      · subst same
        exact Or.inl ⟨rfl, Or.inl rfl⟩
      · exact Or.inr later
    · split at member
      · rcases List.mem_cons.mp member with same | later
        · exact Or.inr (same ▸ List.mem_cons_self)
        · rcases ih later with ⟨written, isKey | ⟨before, present⟩⟩ | present
          · exact Or.inl ⟨written, Or.inl isKey⟩
          · exact Or.inl ⟨written, Or.inr ⟨before, List.mem_cons_of_mem _ present⟩⟩
          · exact Or.inr (List.mem_cons_of_mem _ present)
      · rcases List.mem_cons.mp member with same | later
        · subst same
          exact Or.inl ⟨rfl, Or.inr ⟨old, List.mem_cons_self⟩⟩
        · exact Or.inr (List.mem_cons_of_mem _ later)

/-- In a total order the entry that is written stands under the key
itself. -/
theorem mem_insertIn_total [Std.Trichotomous (α := κ) (· < ·)] {key : κ} {value : α} {entries : List (κ × α)}
    {entry : κ × α} (member : entry ∈ insertIn key value entries) : entry = (key, value) ∨ entry ∈ entries := by
  induction entries with
  | nil => exact Or.inl (List.mem_singleton.mp member)
  | cons head rest ih =>
    obtain ⟨other, old⟩ := head
    simp only [insertIn] at member
    split at member
    · exact List.mem_cons.mp member
    · rename_i notLess
      split at member
      · rcases List.mem_cons.mp member with same | later
        · exact Or.inr (same ▸ List.mem_cons_self)
        · exact (ih later).imp_right (List.mem_cons_of_mem _)
      · rename_i notGreater
        rcases List.mem_cons.mp member with same | later
        · rw [Std.Trichotomous.trichotomous (r := (· < ·)) key other notLess notGreater]
          exact Or.inl same
        · exact Or.inr (List.mem_cons_of_mem _ later)

theorem findIn_mem {key : κ} {value : α} {entries : List (κ × α)} (found : findIn key entries = some value) :
    ∃ other, (other, value) ∈ entries := by
  induction entries with
  | nil => cases found
  | cons head rest ih =>
    obtain ⟨other, old⟩ := head
    simp only [findIn] at found
    split at found
    · cases found
    · split at found
      · obtain ⟨later, present⟩ := ih found
        exact ⟨later, List.mem_cons_of_mem _ present⟩
      · cases found
        exact ⟨other, List.mem_cons_self⟩

variable [Std.Asymm (α := κ) (· < ·)]

/-- A key above every entry is new, and goes last. -/
theorem findIn_of_above {key : κ} {entries : List (κ × α)} (above : ∀ entry ∈ entries, entry.1 < key) :
    findIn key entries = none := by
  induction entries with
  | nil => rfl
  | cons head rest ih =>
    have less := above head List.mem_cons_self
    simp only [findIn, if_neg (Std.Asymm.asymm _ _ less), if_pos less]
    exact ih (fun entry member => above entry (List.mem_cons_of_mem _ member))

theorem insertIn_of_above {key : κ} {value : α} {entries : List (κ × α)}
    (above : ∀ entry ∈ entries, entry.1 < key) : insertIn key value entries = entries ++ [(key, value)] := by
  induction entries with
  | nil => rfl
  | cons head rest ih =>
    have less := above head List.mem_cons_self
    simp only [insertIn, if_neg (Std.Asymm.asymm _ _ less), if_pos less, List.cons_append]
    rw [ih (fun entry member => above entry (List.mem_cons_of_mem _ member))]

/-- Looking a key up gives the entry that stands under it. -/
theorem findIn_eq_some [Std.Trichotomous (α := κ) (· < ·)] {key : κ} {value : α} {entries : List (κ × α)}
    (sorted : entries.Pairwise (fun a b => a.1 < b.1)) :
    findIn key entries = some value ↔ (key, value) ∈ entries := by
  induction entries with
  | nil => simp [findIn]
  | cons head rest ih =>
    obtain ⟨other, old⟩ := head
    obtain ⟨first, tail⟩ := List.pairwise_cons.mp sorted
    simp only [findIn, List.mem_cons, Prod.mk.injEq]
    split
    · rename_i less
      refine ⟨fun wrong => (by cases wrong), ?_⟩
      rintro (⟨rfl, _⟩ | later)
      · exact (Std.Asymm.asymm _ _ less less).elim
      · exact (Std.Asymm.asymm _ _ less (first _ later)).elim
    · rename_i notLess
      split
      · rename_i less
        rw [ih tail]
        refine ⟨Or.inr, ?_⟩
        rintro (⟨rfl, _⟩ | later)
        · exact (Std.Asymm.asymm _ _ less less).elim
        · exact later
      · rename_i notGreater
        have same := Std.Trichotomous.trichotomous (r := (· < ·)) key other notLess notGreater
        subst same
        refine ⟨fun found => Or.inl ⟨rfl, (Option.some.inj found).symm⟩, ?_⟩
        rintro (⟨_, rfl⟩ | later)
        · rfl
        · have never : key < key := first _ later
          exact (Std.Asymm.asymm _ _ never never).elim

end Entries

section Map
variable {κ α : Type} [LT κ] [DecidableLT κ] [Trans (α := κ) (· < ·) (· < ·) (· < ·)]

theorem insertIn_sorted {key : κ} {value : α} {entries : List (κ × α)}
    (sorted : entries.Pairwise (fun a b => a.1 < b.1)) :
    (insertIn key value entries).Pairwise (fun a b => a.1 < b.1) := by
  induction entries with
  | nil => simp [insertIn]
  | cons head rest ih =>
    obtain ⟨first, tail⟩ := List.pairwise_cons.mp sorted
    simp only [insertIn]
    split
    · rename_i less
      refine List.pairwise_cons.mpr ⟨?_, sorted⟩
      intro entry member
      rcases List.mem_cons.mp member with same | later
      · subst same
        exact less
      · exact Trans.trans less (first entry later)
    · split
      · rename_i less
        refine List.pairwise_cons.mpr ⟨?_, ih tail⟩
        intro entry member
        rcases mem_insertIn member with ⟨_, isKey | ⟨old, present⟩⟩ | present
        · rw [isKey]
          exact less
        · exact first (entry.1, old) present
        · exact first entry present
      · exact List.pairwise_cons.mpr ⟨first, tail⟩

def empty : OrdMap κ α := ⟨[], List.Pairwise.nil⟩

def find (m : OrdMap κ α) (key : κ) : Option α := findIn key m.entries

def insert (m : OrdMap κ α) (key : κ) (value : α) : OrdMap κ α :=
  ⟨insertIn key value m.entries, insertIn_sorted m.sorted⟩

/-- The map without the entries that do not pass a test. -/
def filter (m : OrdMap κ α) (p : κ × α → Bool) : OrdMap κ α :=
  ⟨m.entries.filter p, m.sorted.filter p⟩

/-- The map of the entries that get a new value. -/
def filterMap {β : Type} (m : OrdMap κ α) (f : κ → α → Option β) : OrdMap κ β where
  entries := m.entries.filterMap (fun entry => (f entry.1 entry.2).map (entry.1, ·))
  sorted := by
    refine List.Pairwise.filterMap _ ?_ m.sorted
    intro first second less firstNew firstSome secondNew secondSome
    obtain ⟨_, _, rfl⟩ := Option.map_eq_some_iff.mp firstSome
    obtain ⟨_, _, rfl⟩ := Option.map_eq_some_iff.mp secondSome
    exact less

@[simp] theorem insert_entries (m : OrdMap κ α) (key : κ) (value : α) :
    (m.insert key value).entries = insertIn key value m.entries := rfl

/-- Inserting sorted entries one after the other gives the map of these
entries. -/
theorem foldl_insert_entries [Std.Asymm (α := κ) (· < ·)] {entries : List (κ × α)}
    (sorted : entries.Pairwise (fun a b => a.1 < b.1)) :
    (entries.foldl (fun m entry => m.insert entry.1 entry.2) (empty : OrdMap κ α)).entries = entries := by
  induction entries using List.reverseRecOn with
  | nil => rfl
  | append_singleton entries entry ih =>
    obtain ⟨before, _, above⟩ := List.pairwise_append.mp sorted
    rw [List.foldl_append, List.foldl_cons, List.foldl_nil, insert_entries, ih before]
    exact insertIn_of_above (fun other member => above other member entry (List.mem_singleton_self entry))

/-- The map without the entry of a key. -/
def erase [DecidableEq κ] (m : OrdMap κ α) (key : κ) : OrdMap κ α := m.filter (fun entry => entry.1 ≠ key)

def keys (m : OrdMap κ α) : List κ := m.entries.map (·.1)

def values (m : OrdMap κ α) : List α := m.entries.map (·.2)

end Map

section Lookup
variable {κ α : Type} [LT κ] [DecidableLT κ]

@[simp] theorem find_empty (key : κ) : (empty : OrdMap κ α).find key = none := rfl

variable [Std.Trichotomous (α := κ) (· < ·)] [Std.Asymm (α := κ) (· < ·)]

theorem find_eq_some {m : OrdMap κ α} {key : κ} {value : α} : m.find key = some value ↔ (key, value) ∈ m.entries :=
  findIn_eq_some m.sorted

theorem mem_keys {m : OrdMap κ α} {key : κ} : key ∈ m.keys ↔ ∃ value, m.find key = some value := by
  constructor
  · intro member
    obtain ⟨entry, inside, rfl⟩ := List.mem_map.mp member
    exact ⟨entry.2, find_eq_some.mpr inside⟩
  · rintro ⟨value, found⟩
    exact List.mem_map.mpr ⟨(key, value), find_eq_some.mp found, rfl⟩

theorem find_filter {m : OrdMap κ α} {p : κ × α → Bool} {key : κ} :
    (m.filter p).find key = (m.find key).filter (fun value => p (key, value)) := by
  refine Option.ext (fun value => ?_)
  rw [Option.filter_eq_some_iff, find_eq_some, find_eq_some, filter, List.mem_filter]

theorem find_erase [DecidableEq κ] (m : OrdMap κ α) (key other : κ) :
    (m.erase key).find other = if other = key then none else m.find other := by
  rw [erase, find_filter]
  split
  · rename_i same
    rw [same]
    cases m.find key <;> simp [Option.filter]
  · rename_i different
    cases m.find other <;> simp [Option.filter, different]

theorem find_filterMap {β : Type} (m : OrdMap κ α) (f : κ → α → Option β) (key : κ) :
    (m.filterMap f).find key = (m.find key).bind (f key) := by
  refine Option.ext (fun value => ?_)
  rw [find_eq_some, Option.bind_eq_some_iff, filterMap, List.mem_filterMap]
  constructor
  · rintro ⟨⟨other, old⟩, member, new⟩
    obtain ⟨_, found, same⟩ := Option.map_eq_some_iff.mp new
    cases same
    exact ⟨old, find_eq_some.mpr member, found⟩
  · rintro ⟨old, found, new⟩
    exact ⟨(key, old), find_eq_some.mp found, by rw [new]; rfl⟩

theorem find_filterMap_none {β : Type} {m : OrdMap κ α} {f : κ → α → Option β} {key : κ}
    (missing : m.find key = none) : (m.filterMap f).find key = none := by
  rw [find_filterMap, missing]
  rfl

/-- Two maps with the same look-ups are the same. -/
theorem ext_find {m n : OrdMap κ α} (same : ∀ key, m.find key = n.find key) : m = n := by
  have distinct : ∀ o : OrdMap κ α, o.entries.Nodup := by
    intro o
    refine o.sorted.imp ?_
    intro a b less equal
    subst equal
    exact Std.Asymm.asymm _ _ less less
  have perm : m.entries.Perm n.entries := by
    refine (List.perm_ext_iff_of_nodup (distinct m) (distinct n)).mpr ?_
    rintro ⟨key, value⟩
    rw [← find_eq_some, ← find_eq_some, same]
  have entries : m.entries = n.entries := by
    refine perm.eq_of_pairwise ?_ m.sorted n.sorted
    intro a b _ _ less greater
    exact (Std.Asymm.asymm _ _ less greater).elim
  exact OrdMap.ext entries

end Lookup

section Update
variable {κ α : Type} [LT κ] [DecidableLT κ] [Trans (α := κ) (· < ·) (· < ·) (· < ·)]
  [Std.Trichotomous (α := κ) (· < ·)]

theorem findIn_insertIn {key other : κ} {value : α} (entries : List (κ × α)) :
    findIn other (insertIn key value entries) =
      if other < key ∨ key < other then findIn other entries else some value := by
  induction entries with
  | nil =>
    simp only [insertIn, findIn]
    by_cases less : other < key
    · simp [less]
    · by_cases greater : key < other
      · simp [less, greater]
      · simp [less, greater]
  | cons head rest ih =>
    obtain ⟨first, old⟩ := head
    simp only [insertIn]
    split
    · rename_i below
      simp only [findIn]
      by_cases less : other < key
      · have under : other < first := Trans.trans less below
        simp [less, under]
      · by_cases greater : key < other
        · simp [less, greater]
        · simp [less, greater]
    · rename_i notBelow
      split
      · rename_i above
        simp only [findIn, ih]
        by_cases less : other < first
        · have under : other < key := Trans.trans less above
          simp [less, under]
        · by_cases greater : first < other
          · simp [less, greater]
          · have same := Std.Trichotomous.trichotomous (r := (· < ·)) other first less greater
            subst same
            simp [less, above]
      · rename_i notAbove
        have same := Std.Trichotomous.trichotomous (r := (· < ·)) key first notBelow notAbove
        subst same
        simp only [findIn]
        by_cases less : other < key
        · simp [less]
        · by_cases greater : key < other
          · simp [less, greater]
          · simp [less, greater]

theorem find_insert_ne {key other : κ} (different : other ≠ key) (m : OrdMap κ α) (value : α) :
    (m.insert key value).find other = m.find other := by
  have apart : other < key ∨ key < other := by
    by_contra none
    rw [not_or] at none
    exact different (Std.Trichotomous.trichotomous (r := (· < ·)) other key none.1 none.2)
  rw [find, insert_entries, findIn_insertIn, if_pos apart, find]

variable [Std.Asymm (α := κ) (· < ·)]

@[simp] theorem find_insert_self (m : OrdMap κ α) (key : κ) (value : α) :
    (m.insert key value).find key = some value := by
  have never : ¬ key < key := fun less => Std.Asymm.asymm _ _ less less
  rw [find, insert_entries, findIn_insertIn, if_neg (by simpa using never)]

theorem find_insert [DecidableEq κ] (m : OrdMap κ α) (key other : κ) (value : α) :
    (m.insert key value).find other = if other = key then some value else m.find other := by
  split
  · rename_i same
    rw [same, find_insert_self]
  · rename_i different
    exact find_insert_ne different m value

theorem insert_find {m : OrdMap κ α} [DecidableEq κ] {key : κ} {value : α} (found : m.find key = some value) :
    m.insert key value = m := by
  refine ext_find (fun other => ?_)
  rw [find_insert]
  split
  · rename_i same
    rw [same, found]
  · rfl

end Update

end OrdMap

end DbcNode
