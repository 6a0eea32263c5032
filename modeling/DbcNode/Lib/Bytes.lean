import Mathlib.Tactic

namespace DbcNode

abbrev Bytes := List UInt8

instance lawfulBEqBytes : LawfulBEq Bytes := inferInstance

instance isPreorderUInt8 : Std.IsPreorder UInt8 := inferInstance

/-- The `w` big-endian digits of a number; higher digits are dropped. -/
def toBE : Nat → Nat → Bytes
  | 0, _ => []
  | w + 1, n => toBE w (n / 256) ++ [UInt8.ofNat n]

def ofBE (bytes : Bytes) : Nat := bytes.foldl (fun n b => n * 256 + b.toNat) 0

@[simp] theorem toBE_length (w n : Nat) : (toBE w n).length = w := by
  induction w generalizing n with
  | zero => rfl
  | succ w ih => simp [toBE, ih]

theorem ofBE_concat (bytes : Bytes) (b : UInt8) : ofBE (bytes ++ [b]) = ofBE bytes * 256 + b.toNat := by
  simp [ofBE]

theorem ofBE_toBE (w n : Nat) : ofBE (toBE w n) = n % 256 ^ w := by
  induction w generalizing n with
  | zero => simp [toBE, ofBE, Nat.mod_one]
  | succ w ih =>
    have split : n % 256 ^ (w + 1) = n % 256 + 256 * (n / 256 % 256 ^ w) := by
      rw [Nat.pow_succ, Nat.mul_comm (256 ^ w) 256, Nat.mod_mul]
    rw [toBE, ofBE_concat, ih, UInt8.toNat_ofNat', split]
    omega

theorem ofBE_lt (bytes : Bytes) : ofBE bytes < 256 ^ bytes.length := by
  induction bytes using List.reverseRecOn with
  | nil => simp [ofBE]
  | append_singleton bytes b ih =>
    have digit := b.toNat_lt
    rw [ofBE_concat, List.length_append, List.length_singleton, Nat.pow_succ]
    omega

theorem toBE_ofBE (bytes : Bytes) : toBE bytes.length (ofBE bytes) = bytes := by
  induction bytes using List.reverseRecOn with
  | nil => rfl
  | append_singleton bytes b ih =>
    have digit := b.toNat_lt
    rw [ofBE_concat, List.length_append, List.length_singleton, toBE]
    have high : (ofBE bytes * 256 + b.toNat) / 256 = ofBE bytes := by omega
    have low : UInt8.ofNat (ofBE bytes * 256 + b.toNat) = b := by
      apply UInt8.toNat_inj.mp
      rw [UInt8.toNat_ofNat']
      omega
    rw [high, low, ih]

theorem toBE_small {w n : Nat} (small : n < 256 ^ w) : toBE (w + 1) n = 0 :: toBE w n := by
  induction w generalizing n with
  | zero =>
    obtain rfl : n = 0 := by omega
    rfl
  | succ w ih =>
    have high : n / 256 < 256 ^ w := by
      rw [Nat.div_lt_iff_lt_mul (by decide)]
      rwa [Nat.pow_succ] at small
    rw [toBE, ih high, toBE, List.cons_append]

/-- A fixed-width integer survives its big-endian bytes. -/
theorem ofNat_ofBE_toBE {w k : Nat} (x : BitVec w) (wide : 256 ^ k = 2 ^ w) :
    BitVec.ofNat w (ofBE (toBE k x.toNat)) = x := by
  apply BitVec.eq_of_toNat_eq
  rw [ofBE_toBE, wide, BitVec.toNat_ofNat, Nat.mod_mod, Nat.mod_eq_of_lt x.isLt]

/-- A size below the sign bit reads as itself. -/
theorem toInt_ofNat_small {n : Nat} (small : n < 2 ^ 31) :
    (BitVec.ofNat 32 n).toInt = n ∧ (BitVec.ofNat 32 n).toNat = n := by
  have whole : (BitVec.ofNat 32 n).toNat = n := by
    rw [BitVec.toNat_ofNat]
    omega
  refine ⟨?_, whole⟩
  rw [BitVec.toInt_eq_toNat_of_lt (by omega), whole]

theorem toNat_le_of_toInt {n : BitVec 32} {limit : Nat} (signed : ¬ n.toInt < 0) (small : ¬ n.toInt > limit) :
    n.toNat ≤ limit := by
  have range := BitVec.toInt_eq_toNat_cond n
  split at range <;> omega

/-- The bytes of a name of the source. -/
def str (s : String) : Bytes := s.toList.map (fun c => UInt8.ofNat c.toNat)

/-- A text as it comes out of a `char*`, up to the first zero byte. -/
def cText (text : Bytes) : Bytes := text.takeWhile (· ≠ 0)

/-- `std::to_string`. -/
def decimal (n : Nat) : Bytes := str (toString n)

/-- A text holds another one. -/
def holdsText (text part : Bytes) : Bool := text.tails.any (part.isPrefixOf ·)

def isDigit (b : UInt8) : Bool := 48 ≤ b ∧ b ≤ 57

/-- What `isspace` takes for a blank. -/
def isBlank (b : UInt8) : Bool := b = 32 ∨ 9 ≤ b ∧ b ≤ 13

def isDigits (text : Bytes) : Bool := text ≠ [] ∧ text.all isDigit

def digitsValue (digits : Bytes) : Nat := digits.foldl (fun n b => n * 10 + (b.toNat - 48)) 0

/-- A number that is too large for 64 bits is cut off there, as `strtol`
does. -/
def saturate (n : Int) : Int := max (-2 ^ 63) (min n (2 ^ 63 - 1))

/-- `atoi`: blanks, a sign, and the digits up to the first other character,
cut down to 32 bits. -/
def atoi (text : Bytes) : Int :=
  match text.dropWhile isBlank with
  | 45 :: rest => Int.bmod (saturate (-(digitsValue (rest.takeWhile isDigit) : Int))) (2 ^ 32)
  | 43 :: rest => Int.bmod (saturate (digitsValue (rest.takeWhile isDigit))) (2 ^ 32)
  | rest => Int.bmod (saturate (digitsValue (rest.takeWhile isDigit))) (2 ^ 32)

/-- `atoll`, which reads as `atoi` does and keeps 64 bits. -/
def atoll (text : Bytes) : Int :=
  match text.dropWhile isBlank with
  | 45 :: rest => saturate (-(digitsValue (rest.takeWhile isDigit) : Int))
  | 43 :: rest => saturate (digitsValue (rest.takeWhile isDigit))
  | rest => saturate (digitsValue (rest.takeWhile isDigit))

/-- `(uint16_t) atoi`. -/
def portOf (text : Bytes) : UInt16 := UInt16.ofInt (atoi text)

/-- `util::split` at a character: parts that are empty are left out. -/
def splitText (separator : UInt8) (text : Bytes) : List Bytes := (text.splitOn separator).filter (· ≠ [])

def toLower (text : Bytes) : Bytes := text.map (fun b => if 65 ≤ b ∧ b ≤ 90 then b + 32 else b)

/-- The names that a path is made of. -/
def pathParts (path : Bytes) : List Bytes := (path.splitOn 47).filter (· ≠ [])

/-- One name of a path, from where the names before it lead to. -/
def enterName (place : List Bytes) (name : Bytes) : List Bytes :=
  if name = [46] then place else if name = [46, 46] then place.dropLast else place ++ [name]

/-- The place that an absolute path names, after its dots. -/
def resolvePath (path : Bytes) : List Bytes := (pathParts path).foldl enterName []

end DbcNode
