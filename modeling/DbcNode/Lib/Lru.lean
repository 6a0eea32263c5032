import Mathlib.Tactic

namespace DbcNode

theorem mem_take_erase {α : Type} [BEq α] [LawfulBEq α] {l : List α} {x y : α} {n : Nat} (member : x ∈ l.take n)
    (different : x ≠ y) : x ∈ (l.erase y).take n := by
  induction l generalizing n with
  | nil => exact member
  | cons head tail ih =>
    cases n with
    | zero => cases member
    | succ n =>
      rw [List.take_succ_cons] at member
      rcases Classical.em (head = y) with same | same
      · rw [same, List.erase_cons_head]
        rcases List.mem_cons.mp member with equal | later
        · exact (different (equal.trans same)).elim
        · exact (List.take_subset_take_left tail (Nat.le_succ n)) later
      · rw [List.erase_cons_tail (by simpa using same), List.take_succ_cons]
        rcases List.mem_cons.mp member with rfl | later
        · exact List.mem_cons_self
        · exact List.mem_cons_of_mem _ (ih later)

namespace Lru
variable {κ : Type} [BEq κ] [LawfulBEq κ]

/-- A cache of keys that forgets the one whose last insertion is the longest
ago. The keys stand in the order of their last insertion, the newest first.
A cache of size 0 is unbounded. -/
def prune (maxSize : Nat) (keys : List κ) : List κ :=
  if maxSize = 0 ∨ keys.length < maxSize then keys else keys.take maxSize

/-- A known key moves to the front, and a new one may push the oldest
out. -/
def insert (maxSize : Nat) (key : κ) (keys : List κ) : List κ :=
  if key ∈ keys then key :: keys.erase key else prune maxSize (key :: keys)

/-- The cache after these insertions, the last one first. A key is no deeper
in the cache than in the log. -/
structure Logs (maxSize : Nat) (keys log : List κ) : Prop where
  recalls : ∀ n, maxSize = 0 ∨ n ≤ maxSize → ∀ key ∈ log.take n, key ∈ keys.take n
  known : ∀ key ∈ keys, key ∈ log

omit [BEq κ] [LawfulBEq κ] in
theorem take_prune {maxSize n : Nat} (within : maxSize = 0 ∨ n ≤ maxSize) (keys : List κ) :
    (prune maxSize keys).take n = keys.take n := by
  unfold prune
  split
  · rfl
  · rename_i full
    rw [not_or] at full
    rw [List.take_take, min_eq_left (within.resolve_left full.1)]

omit [BEq κ] [LawfulBEq κ] in
theorem mem_of_mem_prune {maxSize : Nat} {key : κ} {keys : List κ} (member : key ∈ prune maxSize keys) :
    key ∈ keys := by
  unfold prune at member
  split at member
  · exact member
  · exact List.mem_of_mem_take member

omit [BEq κ] [LawfulBEq κ] in
theorem Logs.nil (maxSize : Nat) : Logs maxSize ([] : List κ) [] := by
  refine ⟨?_, ?_⟩
  · intro n _ key member
    rw [List.take_nil] at member
    cases member
  · intro key member
    cases member

theorem Logs.insert {maxSize : Nat} {keys log : List κ} (logs : Logs maxSize keys log) (new : κ) :
    Logs maxSize (Lru.insert maxSize new keys) (new :: log) := by
  refine ⟨?_, ?_⟩
  · intro n within key member
    cases n with
    | zero => cases member
    | succ n =>
      rw [List.take_succ_cons] at member
      have front : key = new → key ∈ (Lru.insert maxSize new keys).take (n + 1) := by
        rintro rfl
        unfold Lru.insert
        split
        · exact List.mem_cons_self
        · rw [take_prune within]
          exact List.mem_cons_self
      rcases List.mem_cons.mp member with same | later
      · exact front same
      by_cases same : key = new
      · exact front same
      have deeper := logs.recalls n (within.imp_right fun bound => by omega) key later
      unfold Lru.insert
      split
      · rw [List.take_succ_cons]
        exact List.mem_cons_of_mem _ (mem_take_erase deeper same)
      · rw [take_prune within, List.take_succ_cons]
        exact List.mem_cons_of_mem _ deeper
  · intro key member
    unfold Lru.insert at member
    split at member
    · rcases List.mem_cons.mp member with rfl | later
      · exact List.mem_cons_self
      · exact List.mem_cons_of_mem _ (logs.known key (List.mem_of_mem_erase later))
    · rcases List.mem_cons.mp (mem_of_mem_prune member) with rfl | later
      · exact List.mem_cons_self
      · exact List.mem_cons_of_mem _ (logs.known key later)

end Lru

end DbcNode
