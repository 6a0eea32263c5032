import DbcNode.Lib.Bytes

namespace DbcNode

/-- Seven bits a byte, low bits first, the top bit set on all bytes but the
last. The first argument bounds the number of bytes. -/
def varint : Nat → Nat → Bytes
  | 0, _ => []
  | k + 1, n => if n < 128 then [UInt8.ofNat n] else UInt8.ofNat (n % 128 + 128) :: varint k (n / 128)

/-- The bits one more byte adds to the value read so far, in a 64-bit
word. -/
def varintStep (value shift : Nat) (b : UInt8) : Nat := value ||| (b.toNat % 128) <<< shift % 2 ^ 64

theorem varint_ne_nil (k n : Nat) : varint (k + 1) n ≠ [] := by
  rw [varint]
  split <;> simp

theorem varint_length_le (k n : Nat) : (varint k n).length ≤ k := by
  induction k generalizing n with
  | zero => simp [varint]
  | succ k ih =>
    rw [varint]
    split
    · simp
    · simpa using ih (n / 128)

/-- A byte's bits land above the ones already read, as long as they fit. -/
theorem varintStep_eq {value shift : Nat} {b : UInt8} (low : value < 2 ^ shift)
    (fits : (b.toNat % 128) * 2 ^ shift < 2 ^ 64) :
    varintStep value shift b = value + (b.toNat % 128) * 2 ^ shift := by
  rw [varintStep, Nat.shiftLeft_eq, Nat.mod_eq_of_lt fits, Nat.or_comm, Nat.mul_comm,
    ← Nat.two_pow_add_eq_or_of_lt low, Nat.add_comm]

theorem ofNat_small {n : Nat} (small : n < 256) : (UInt8.ofNat n).toNat = n := by
  rw [UInt8.toNat_ofNat']
  omega

/-- Sign bit moved to the bottom, so that small magnitudes are small
numbers. -/
def zigzag {w : Nat} (n : BitVec w) : BitVec w := (n <<< 1) ^^^ n.sshiftRight (w - 1)

def unzigzag {w : Nat} (n : BitVec w) : BitVec w := (n >>> 1) ^^^ -(n &&& 1#w)

theorem sshiftRight_top {w : Nat} (n : BitVec (w + 1)) :
    n.sshiftRight w = if n.msb then BitVec.allOnes (w + 1) else 0#(w + 1) := by
  ext i hi
  by_cases sign : n.msb
  · simp only [sign, if_true, BitVec.getElem_sshiftRight, BitVec.getElem_allOnes]
    split
    · have bottom : i = 0 := by omega
      subst bottom
      simpa [BitVec.msb_eq_getLsbD_last, BitVec.getLsbD_eq_getElem] using sign
    · rfl
  · simp only [sign, BitVec.getElem_sshiftRight]
    split
    · have bottom : i = 0 := by omega
      subst bottom
      simpa [BitVec.msb_eq_getLsbD_last, BitVec.getLsbD_eq_getElem] using sign
    · simp

theorem low_bit {w : Nat} (n : BitVec w) : (n &&& 1#w).toNat = n.toNat % 2 := by
  cases w with
  | zero => simp [BitVec.of_length_zero]
  | succ w => simp [BitVec.toNat_and, Nat.and_one_is_mod]

theorem unzigzag_zigzag {w : Nat} (n : BitVec (w + 1)) : unzigzag (zigzag n) = n := by
  have range := n.isLt
  have double : (2 : Nat) ^ (w + 1) = 2 * 2 ^ w := by rw [Nat.pow_succ, Nat.mul_comm]
  have positive : 0 < 2 ^ w := Nat.two_pow_pos w
  have shifted : (n <<< 1).toNat = 2 * (n.toNat % 2 ^ w) := by
    rw [BitVec.toNat_shiftLeft, Nat.shiftLeft_eq, Nat.pow_one, Nat.mul_comm, double, Nat.mul_mod_mul_left]
  rw [zigzag, unzigzag, Nat.add_sub_cancel, sshiftRight_top]
  by_cases sign : n.msb
  · have large : 2 ^ w ≤ n.toNat := by simpa [BitVec.msb_eq_decide] using sign
    have wrapped : n.toNat % 2 ^ w = n.toNat - 2 ^ w := by
      rw [Nat.mod_eq_sub_mod large, Nat.mod_eq_of_lt (by omega)]
    have flipped : ((n <<< 1) ^^^ BitVec.allOnes (w + 1)).toNat = 2 ^ (w + 1) - 1 - 2 * (n.toNat - 2 ^ w) := by
      rw [BitVec.xor_allOnes, BitVec.toNat_not, shifted, wrapped]
    have odd : -(((n <<< 1) ^^^ BitVec.allOnes (w + 1)) &&& 1#(w + 1)) = BitVec.allOnes (w + 1) := by
      apply BitVec.eq_of_toNat_eq
      rw [BitVec.toNat_neg, low_bit, flipped, BitVec.toNat_allOnes]
      have one : (2 ^ (w + 1) - 1 - 2 * (n.toNat - 2 ^ w)) % 2 = 1 := by omega
      rw [one, Nat.mod_eq_of_lt (by omega)]
    rw [if_pos sign, odd, BitVec.xor_allOnes]
    apply BitVec.eq_of_toNat_eq
    rw [BitVec.toNat_not, BitVec.toNat_ushiftRight, flipped, Nat.shiftRight_eq_div_pow]
    omega
  · have small : n.toNat < 2 ^ w := by simpa [BitVec.msb_eq_decide] using sign
    have even : -(((n <<< 1) ^^^ 0#(w + 1)) &&& 1#(w + 1)) = 0#(w + 1) := by
      apply BitVec.eq_of_toNat_eq
      rw [BitVec.toNat_neg, low_bit, BitVec.xor_zero, shifted]
      simp
    rw [if_neg sign, even, BitVec.xor_zero, BitVec.xor_zero]
    apply BitVec.eq_of_toNat_eq
    rw [BitVec.toNat_ushiftRight, shifted, Nat.mod_eq_of_lt small, Nat.shiftRight_eq_div_pow]
    omega
theorem setWidth_signExtend {v w : Nat} (n : BitVec v) (wide : v ≤ w) : (n.signExtend w).setWidth v = n := by
  ext i inside
  have within : i < w := by omega
  rw [BitVec.getElem_setWidth, BitVec.getLsbD_eq_getElem within, BitVec.getElem_signExtend, dif_pos inside]

end DbcNode
