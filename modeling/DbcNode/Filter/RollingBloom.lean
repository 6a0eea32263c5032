import DbcNode.NonceFilter

namespace DbcNode

/-- The last `elements` insertions are found, in a log that has the last one
first. -/
def Bloom.Finds (B : Bloom) (elements : Nat) : Prop :=
  ∀ (log : List Bytes) (key : Bytes), key ∈ log.take elements → B.contains key (log.foldr B.insert B.fresh) = true

/-- What `CRollingBloomFilter` is made with. Its size comes from a rate in
floating point and its hash is `MurmurHash3` with a random tweak. -/
structure RollingConf where
  nElements : Nat
  nHashFuncs : Nat
  dataSize : Nat
  hash : Nat → Bytes → UInt32

/-- `CRollingBloomFilter`. Each cell of its data has two bits, the
generation 1, 2 or 3 that wrote it last, or 0. -/
structure RollingBloom where
  nEntriesThisGeneration : Nat
  nGeneration : Nat
  data : Nat → Nat

def RollingConf.nEntriesPerGeneration (conf : RollingConf) : Nat := (conf.nElements + 1) % 2 ^ 32 / 2

/-- Bit `h & 63` of the pair of words that `h >> 6` selects. -/
def RollingConf.cell (conf : RollingConf) (h : UInt32) : Nat := h.toNat / 64 % conf.dataSize / 2 * 64 + h.toNat % 64

def RollingConf.cells (conf : RollingConf) (key : Bytes) : List Nat :=
  (List.range conf.nHashFuncs).map fun n => conf.cell (conf.hash n key)

namespace RollingBloom

def reset : RollingBloom := ⟨0, 1, fun _ => 0⟩

def nextGeneration (g : Nat) : Nat := if g + 1 = 4 then 1 else g + 1

/-- The next generation, with what used its number wiped. -/
def roll (b : RollingBloom) : RollingBloom :=
  ⟨0, nextGeneration b.nGeneration, fun p => if b.data p = nextGeneration b.nGeneration then 0 else b.data p⟩

def insert (conf : RollingConf) (key : Bytes) (b : RollingBloom) : RollingBloom :=
  let b := if b.nEntriesThisGeneration = conf.nEntriesPerGeneration then b.roll else b
  ⟨b.nEntriesThisGeneration + 1, b.nGeneration, fun p => if p ∈ conf.cells key then b.nGeneration else b.data p⟩

def contains (conf : RollingConf) (key : Bytes) (b : RollingBloom) : Bool :=
  (conf.cells key).all fun p => b.data p ≠ 0

/-- A key whose cells are as old as the generation before the last at
most. -/
structure Marked (conf : RollingConf) (b : RollingBloom) (key : Bytes) (depth : Nat) : Prop where
  current : depth < b.nEntriesThisGeneration → ∀ p ∈ conf.cells key, b.data p = b.nGeneration
  recent : depth < b.nEntriesThisGeneration + conf.nEntriesPerGeneration →
    ∀ p ∈ conf.cells key, b.data p = b.nGeneration ∨ nextGeneration (b.data p) = b.nGeneration ∧ b.data p ≠ 0
  stored : depth < b.nEntriesThisGeneration + 2 * conf.nEntriesPerGeneration → ∀ p ∈ conf.cells key, b.data p ≠ 0

/-- The filter after these insertions, the last one first. -/
structure Logs (conf : RollingConf) (b : RollingBloom) (log : List Bytes) : Prop where
  generation : b.nGeneration = 1 ∨ b.nGeneration = 2 ∨ b.nGeneration = 3
  entries : b.nEntriesThisGeneration ≤ conf.nEntriesPerGeneration
  cells : ∀ p, b.data p ≤ 3
  marked : ∀ depth key, log[depth]? = some key → b.Marked conf key depth

variable {conf : RollingConf} {b : RollingBloom} {log : List Bytes} {key : Bytes} {depth : Nat}

theorem nextGeneration_mem {g : Nat} (range : g = 1 ∨ g = 2 ∨ g = 3) :
    nextGeneration g = 1 ∨ nextGeneration g = 2 ∨ nextGeneration g = 3 := by
  unfold nextGeneration
  split <;> omega

theorem nextGeneration_ne (g : Nat) : nextGeneration g ≠ g := by
  unfold nextGeneration
  split <;> omega

/-- Three generations in a row are all different. -/
theorem nextGeneration_twice {g : Nat} (range : g = 1 ∨ g = 2 ∨ g = 3) : nextGeneration (nextGeneration g) ≠ g := by
  rcases range with rfl | rfl | rfl <;> decide

theorem Logs.reset : Logs conf reset [] := by
  refine ⟨Or.inl rfl, Nat.zero_le _, fun p => by simp [RollingBloom.reset], ?_⟩
  intro depth key found
  simp at found

theorem Marked.roll (logs : b.Logs conf log) (full : b.nEntriesThisGeneration = conf.nEntriesPerGeneration)
    (marked : b.Marked conf key depth) : b.roll.Marked conf key depth := by
  have kept : ∀ p, b.data p = b.nGeneration ∨ nextGeneration (b.data p) = b.nGeneration ∧ b.data p ≠ 0 →
      b.roll.data p = b.data p ∧ b.data p ≠ 0 := by
    intro p written
    have range : b.data p = 1 ∨ b.data p = 2 ∨ b.data p = 3 := by
      have bound := logs.cells p
      have generation := logs.generation
      omega
    have other : b.data p ≠ nextGeneration b.nGeneration := by
      rcases written with same | ⟨before, _⟩
      · rw [same]
        exact (nextGeneration_ne b.nGeneration).symm
      · rw [← before]
        exact (nextGeneration_twice range).symm
    refine ⟨if_neg other, ?_⟩
    omega
  refine ⟨?_, ?_, ?_⟩
  · intro young
    exact absurd young (Nat.not_lt_zero depth)
  · intro young p cell
    have written := marked.current (by simp only [RollingBloom.roll] at young; omega) p cell
    obtain ⟨same, _⟩ := kept p (Or.inl written)
    rw [same, written]
    refine Or.inr ⟨rfl, ?_⟩
    have generation := logs.generation
    omega
  · intro young p cell
    have written := marked.recent (by simp only [RollingBloom.roll] at young; omega) p cell
    obtain ⟨same, there⟩ := kept p written
    rw [same]
    exact there

theorem Logs.roll (logs : b.Logs conf log) (full : b.nEntriesThisGeneration = conf.nEntriesPerGeneration) :
    b.roll.Logs conf log := by
  refine ⟨nextGeneration_mem logs.generation, Nat.zero_le _, ?_,
    fun depth key found => (logs.marked depth key found).roll logs full⟩
  intro p
  have bound := logs.cells p
  simp only [RollingBloom.roll]
  split <;> omega

/-- The entry of a key into a generation that has room. -/
theorem Logs.write (logs : b.Logs conf log) (room : b.nEntriesThisGeneration < conf.nEntriesPerGeneration)
    (new : Bytes) :
    Logs conf ⟨b.nEntriesThisGeneration + 1, b.nGeneration,
      fun p => if p ∈ conf.cells new then b.nGeneration else b.data p⟩ (new :: log) := by
  have generation := logs.generation
  refine ⟨generation, by simp only; omega, ?_, ?_⟩
  · intro p
    have bound := logs.cells p
    simp only
    split <;> omega
  intro depth key found
  cases depth with
  | zero =>
    cases found
    have fresh : ∀ p ∈ conf.cells new, (if p ∈ conf.cells new then b.nGeneration else b.data p) = b.nGeneration :=
      fun p cell => if_pos cell
    refine ⟨fun _ => fresh, fun _ p cell => Or.inl (fresh p cell), ?_⟩
    intro _ p cell
    simp only [fresh p cell]
    omega
  | succ depth =>
    have marked := logs.marked depth key found
    refine ⟨?_, ?_, ?_⟩
    · intro young p cell
      have old := marked.current (by simp only at young; omega) p cell
      simp only [old, ite_self]
    · intro young p cell
      have old := marked.recent (by simp only at young; omega) p cell
      simp only
      split
      · exact Or.inl rfl
      · exact old
    · intro young p cell
      have old := marked.stored (by simp only at young; omega) p cell
      simp only
      split
      · omega
      · exact old

theorem Logs.insert (logs : b.Logs conf log) (some : 0 < conf.nEntriesPerGeneration) (new : Bytes) :
    (b.insert conf new).Logs conf (new :: log) := by
  unfold RollingBloom.insert
  by_cases full : b.nEntriesThisGeneration = conf.nEntriesPerGeneration
  · rw [if_pos full]
    exact (logs.roll full).write some new
  · rw [if_neg full]
    exact logs.write (lt_of_le_of_ne logs.entries full) new

end RollingBloom

/-- The rolling filter as the rest of the node uses it. -/
def RollingConf.bloom (conf : RollingConf) : Bloom :=
  ⟨RollingBloom, RollingBloom.reset, RollingBloom.insert conf, RollingBloom.contains conf⟩

theorem RollingConf.logs (conf : RollingConf) (some : 0 < conf.nEntriesPerGeneration) (log : List Bytes) :
    RollingBloom.Logs conf (log.foldr conf.bloom.insert conf.bloom.fresh) log := by
  induction log with
  | nil => exact RollingBloom.Logs.reset
  | cons new log ih => exact ih.insert some new

/-- Two generations and what is in the third cover the last `nElements`
insertions. -/
theorem RollingConf.finds (conf : RollingConf) (some : 0 < conf.nElements) (fits : conf.nElements + 1 < 2 ^ 32) :
    conf.bloom.Finds conf.nElements := by
  have generations : conf.nElements ≤ 2 * conf.nEntriesPerGeneration := by
    rw [RollingConf.nEntriesPerGeneration, Nat.mod_eq_of_lt fits]
    omega
  have positive : 0 < 2 * conf.nEntriesPerGeneration := lt_of_lt_of_le some generations
  intro log key recent
  obtain ⟨depth, found⟩ := List.mem_iff_getElem?.mp recent
  rw [List.getElem?_take] at found
  split at found
  · rename_i young
    have marked := (conf.logs (by omega) log).marked depth key found
    refine List.all_eq_true.mpr fun p cell => decide_eq_true (marked.stored ?_ p cell)
    omega
  · cases found

end DbcNode
