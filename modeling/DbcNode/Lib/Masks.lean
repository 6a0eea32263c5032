import Mathlib.Tactic

namespace DbcNode

/-- A number without its last digits in base two. -/
def roundDown (n k : Nat) : Nat := n / 2 ^ k * 2 ^ k

variable {w : Nat}

theorem and_mask_eq (x : BitVec w) (k : Nat) : x &&& BitVec.allOnes w <<< k = x >>> k <<< k := by
  ext i bound
  simp only [BitVec.getElem_and, BitVec.getElem_shiftLeft, BitVec.getElem_allOnes]
  by_cases low : i < k
  · simp [low]
  · have back : k + (i - k) = i := by omega
    simp [low, back, ← BitVec.getLsbD_eq_getElem]

/-- A mask of leading ones rounds down. -/
theorem toNat_and_mask (x : BitVec w) (k : Nat) : (x &&& BitVec.allOnes w <<< k).toNat = roundDown x.toNat k := by
  rw [and_mask_eq, BitVec.toNat_shiftLeft, BitVec.toNat_ushiftRight, Nat.shiftRight_eq_div_pow, Nat.shiftLeft_eq]
  refine Nat.mod_eq_of_lt (lt_of_le_of_lt ?_ x.isLt)
  exact Nat.div_mul_le_self _ _

theorem or_not_mask_eq (x mask : BitVec w) : x ||| ~~~mask = ~~~(~~~x &&& mask) := by
  rw [BitVec.not_and, BitVec.not_not]

/-- The complement of such a mask rounds up, to the last number before the
next multiple. -/
theorem toNat_or_not_mask (x : BitVec w) {k : Nat} (short : k ≤ w) :
    (x ||| ~~~(BitVec.allOnes w <<< k)).toNat = roundDown x.toNat k + (2 ^ k - 1) := by
  rw [or_not_mask_eq, BitVec.toNat_not, toNat_and_mask, BitVec.toNat_not]
  unfold roundDown
  have size : 2 ^ w = 2 ^ k * 2 ^ (w - k) := by rw [← pow_add]; congr 1; omega
  have bound := x.isLt
  rw [size] at bound
  have flipped : (2 ^ w - 1 - x.toNat) / 2 ^ k = 2 ^ (w - k) - (x.toNat / 2 ^ k + 1) := by
    have same : 2 ^ w - 1 - x.toNat = 2 ^ k * 2 ^ (w - k) - (x.toNat + 1) := by omega
    rw [same, Nat.mul_sub_div _ _ _ bound]
  rw [flipped]
  have quotient : x.toNat / 2 ^ k < 2 ^ (w - k) := Nat.div_lt_of_lt_mul bound
  obtain ⟨more, total⟩ := Nat.exists_eq_add_of_lt quotient
  have positive : 0 < 2 ^ k := Nat.two_pow_pos k
  have rest : 2 ^ (w - k) - (x.toNat / 2 ^ k + 1) = more := by omega
  have whole : 2 ^ w = x.toNat / 2 ^ k * 2 ^ k + more * 2 ^ k + 2 ^ k := by rw [size, total]; ring
  rw [rest]
  omega

end DbcNode
