import Mathlib.Data.List.TakeWhile
import Mathlib.Data.Nat.Digits.Lemmas
import Mathlib.Tactic

namespace DbcNode

/-- One pass of long multiplication over a number kept with its last digit
first: the number times the factor plus what is carried. It goes on while
something is carried or `used` digits are not over; with the digits comes
what is carried out of the last one, and how many digits it has met. -/
def mulAdd (base factor : Nat) : Nat → Nat → List Nat → List Nat × Nat × Nat
  | carry, _, [] => ([], carry, 0)
  | carry, used, digit :: digits =>
    if carry ≠ 0 ∨ 0 < used then
      let (rest, left, visited) := mulAdd base factor ((carry + factor * digit) / base) (used - 1) digits
      ((carry + factor * digit) % base :: rest, left, visited + 1)
    else (digit :: digits, 0, 0)

/-- The digits of a number in this many places, of which the first `used`
may not be zero. -/
structure Places (base size used value : Nat) (digits : List Nat) : Prop where
  length : digits.length = size
  digit : ∀ d ∈ digits, d < base
  zeros : ∀ d ∈ digits.drop used, d = 0
  value : Nat.ofDigits base digits = value

section Pass
variable {base factor : Nat}

theorem ofDigits_zeros {digits : List Nat} (zeros : ∀ d ∈ digits, d = 0) : Nat.ofDigits base digits = 0 := by
  rw [List.eq_replicate_of_mem zeros]
  exact Nat.ofDigits_replicate_zero

theorem Places.zero (positive : 0 < base) (size : Nat) : Places base size 0 0 (List.replicate size 0) := by
  have zeros : ∀ d ∈ List.replicate size 0, d = 0 := fun d member => List.eq_of_mem_replicate member
  refine ⟨List.length_replicate, fun d member => ?_, zeros, ofDigits_zeros zeros⟩
  rw [zeros d member]
  exact positive

/-- Nothing is lost in a pass: what does not fit is carried out. -/
theorem mulAdd_spec (two : 1 < base) {digits : List Nat} {carry used : Nat} (small : ∀ d ∈ digits, d < base)
    (zeros : ∀ d ∈ digits.drop used, d = 0) {rest : List Nat} {left visited : Nat}
    (pass : mulAdd base factor carry used digits = (rest, left, visited)) :
    Places base digits.length visited (Nat.ofDigits base rest) rest ∧
      Nat.ofDigits base rest + base ^ digits.length * left = factor * Nat.ofDigits base digits + carry := by
  induction digits generalizing carry used rest left visited with
  | nil =>
    cases pass
    refine ⟨⟨rfl, List.forall_mem_nil _, List.forall_mem_nil _, rfl⟩, ?_⟩
    simp
  | cons digit digits ih =>
    rw [mulAdd] at pass
    split at pass
    · rcases later : mulAdd base factor ((carry + factor * digit) / base) (used - 1) digits with ⟨more, extra, met⟩
      rw [later] at pass
      cases pass
      have below : ∀ d ∈ digits.drop (used - 1), d = 0 := by
        intro d member
        cases used with
        | zero => exact zeros d (List.mem_cons_of_mem _ member)
        | succ used => exact zeros d member
      obtain ⟨places, whole⟩ := ih (fun d member => small d (List.mem_cons_of_mem _ member)) below later
      refine ⟨⟨?_, ?_, places.zeros, rfl⟩, ?_⟩
      · rw [List.length_cons, List.length_cons, places.length]
      · intro d member
        rcases List.mem_cons.mp member with rfl | member
        · exact Nat.mod_lt _ (by omega)
        · exact places.digit d member
      · have split := Nat.mod_add_div (carry + factor * digit) base
        rw [List.length_cons, Nat.ofDigits_cons, Nat.ofDigits_cons, Nat.pow_succ]
        calc (carry + factor * digit) % base + base * Nat.ofDigits base more + base ^ digits.length * base * left
            = (carry + factor * digit) % base +
                base * (Nat.ofDigits base more + base ^ digits.length * left) := by ring
          _ = (carry + factor * digit) % base + base * ((carry + factor * digit) / base) +
                base * (factor * Nat.ofDigits base digits) := by rw [whole]; ring
          _ = factor * (digit + base * Nat.ofDigits base digits) + carry := by rw [split]; ring
    · rename_i idle
      cases pass
      obtain ⟨none, unused⟩ : carry = 0 ∧ used = 0 := by omega
      rw [unused, List.drop_zero] at zeros
      refine ⟨⟨rfl, small, zeros, rfl⟩, ?_⟩
      rw [ofDigits_zeros zeros, none]
      simp

/-- A pass whose result fits carries nothing out. -/
theorem Places.mulAdd {digits rest : List Nat} {size used value carry left visited : Nat} (two : 1 < base)
    (places : Places base size used value digits) (fits : factor * value + carry < base ^ size)
    (pass : DbcNode.mulAdd base factor carry used digits = (rest, left, visited)) :
    left = 0 ∧ Places base size visited (factor * value + carry) rest := by
  obtain ⟨after, whole⟩ := mulAdd_spec two places.digit places.zeros pass
  rw [places.length, places.value] at whole
  have out : left = 0 := by
    rcases Nat.eq_zero_or_pos left with none | some
    · exact none
    · have large : base ^ size * 1 ≤ base ^ size * left := Nat.mul_le_mul_left _ some
      omega
  rw [out, Nat.mul_zero, Nat.add_zero] at whole
  rw [places.length, whole] at after
  exact ⟨out, after⟩

end Pass

/-- The number that digits with the first one first stand for. -/
def horner (factor : Nat) (digits : List Nat) : Nat := Nat.ofDigits factor digits.reverse

section Numbers
variable {base factor : Nat}

theorem takeWhile_same {α : Type} [DecidableEq α] (l : List α) (a : α) :
    l.takeWhile (· = a) = List.replicate (l.takeWhile (· = a)).length a := by
  refine List.eq_replicate_of_mem fun b member => ?_
  have same := List.mem_takeWhile_imp member
  simpa using same

theorem head_dropWhile_same {α : Type} [DecidableEq α] (l : List α) (a : α) :
    (l.dropWhile (· = a)).head? ≠ some a := by
  intro same
  have apart := List.head?_dropWhile_not (fun b : α => decide (b = a)) l
  rw [same] at apart
  simp at apart

theorem zero_of_mem_takeWhile {d : Nat} {digits : List Nat} (member : d ∈ digits.takeWhile (· = 0)) : d = 0 := by
  have zero := List.mem_takeWhile_imp member
  simpa using zero

theorem horner_concat (digits : List Nat) (digit : Nat) :
    horner factor (digits ++ [digit]) = factor * horner factor digits + digit := by
  rw [horner, List.reverse_append, List.reverse_singleton, List.singleton_append, Nat.ofDigits_cons, horner]
  exact Nat.add_comm _ _

theorem foldl_horner (digits : List Nat) : digits.foldl (fun value digit => factor * value + digit) 0 =
    horner factor digits := by
  induction digits using List.reverseRecOn with
  | nil => rfl
  | append_singleton digits digit ih => rw [List.foldl_append, ih, horner_concat, List.foldl_cons, List.foldl_nil]

/-- The digits of a number, the first one first and not zero. -/
def canonical (base value : Nat) : List Nat := (Nat.digits base value).reverse

theorem canonical_lt (two : 1 < base) {value d : Nat} (member : d ∈ canonical base value) : d < base :=
  Nat.digits_lt_base two (List.mem_reverse.mp member)

theorem horner_canonical (base value : Nat) : horner base (canonical base value) = value := by
  rw [horner, canonical, List.reverse_reverse, Nat.ofDigits_digits]

theorem canonical_horner (two : 1 < base) {digits : List Nat} (small : ∀ d ∈ digits, d < base)
    (first : digits.head? ≠ some 0) : canonical base (horner base digits) = digits := by
  rw [canonical, horner, Nat.digits_ofDigits base two _ (fun d member => small d (List.mem_reverse.mp member)),
    List.reverse_reverse]
  intro filled last
  have head : digits.reverse.getLast? = some 0 := by rw [List.getLast?_eq_some_getLast filled, last]
  rw [List.getLast?_reverse] at head
  exact first head

theorem canonical_head (base value : Nat) : (canonical base value).head? ≠ some 0 := by
  intro zero
  have filled : Nat.digits base value ≠ [] := by
    intro empty
    rw [canonical, empty] at zero
    cases zero
  rw [canonical, List.head?_reverse, List.getLast?_eq_some_getLast filled] at zero
  exact Nat.getLast_digit_ne_zero base (Nat.digits_ne_nil_iff_ne_zero.mp filled) (Option.some.inj zero)

/-- The places in use, without the zeros before the first digit, are the
digits of the number. -/
theorem Places.canonical {digits : List Nat} {size used value : Nat} (two : 1 < base)
    (places : Places base size used value digits) :
    (digits.take used).reverse.dropWhile (· = 0) = canonical base value := by
  have kept : horner base ((digits.take used).reverse.dropWhile (· = 0)) = value := by
    have zeros : ∀ l : List Nat, horner base (l.dropWhile (· = 0)) = horner base l := by
      intro l
      have whole := List.takeWhile_append_dropWhile (p := fun d : Nat => decide (d = 0)) (l := l)
      have none : Nat.ofDigits base (l.takeWhile (fun d => decide (d = 0))).reverse = 0 :=
        ofDigits_zeros fun d member => zero_of_mem_takeWhile (List.mem_reverse.mp member)
      conv_rhs => rw [← whole, horner, List.reverse_append, Nat.ofDigits_append, none, Nat.mul_zero, Nat.add_zero]
      rfl
    rw [zeros, horner, List.reverse_reverse, ← places.value]
    conv_rhs => rw [← List.take_append_drop used digits, Nat.ofDigits_append, ofDigits_zeros places.zeros,
      Nat.mul_zero, Nat.add_zero]
  have small : ∀ d ∈ (digits.take used).reverse.dropWhile (· = 0), d < base := by
    intro d member
    have inside := List.mem_reverse.mp (List.dropWhile_sublist _ |>.subset member)
    exact places.digit d (List.mem_of_mem_take inside)
  have first := head_dropWhile_same (digits.take used).reverse 0
  rw [← canonical_horner two small first, kept]

/-- The digits in one base for the digits in another, where zeros in front
stay as they are. -/
def reradix (factor base : Nat) (digits : List Nat) : List Nat :=
  digits.takeWhile (· = 0) ++ canonical base (horner factor (digits.dropWhile (· = 0)))

theorem reradix_lt (two : 1 < base) {digits : List Nat} {d : Nat} (member : d ∈ reradix factor base digits) :
    d < base := by
  rcases List.mem_append.mp member with zero | member
  · have none := zero_of_mem_takeWhile zero
    omega
  · exact canonical_lt two member

theorem reradix_zeros {digits : List Nat} (first : digits.head? ≠ some 0) (zeroes : Nat) :
    reradix factor base (List.replicate zeroes 0 ++ digits) = List.replicate zeroes 0 ++ canonical base
      (horner factor digits) := by
  have zeros : ∀ d ∈ List.replicate zeroes 0, decide (d = 0) = true := fun d member =>
    decide_eq_true (List.eq_of_mem_replicate member)
  have stay : digits.takeWhile (· = 0) = [] ∧ digits.dropWhile (· = 0) = digits := by
    cases digits with
    | nil => exact ⟨rfl, rfl⟩
    | cons d rest =>
      have some : ¬ d = 0 := fun zero => first (by rw [zero]; rfl)
      exact ⟨List.takeWhile_cons_of_neg (by simpa using some), List.dropWhile_cons_of_neg (by simpa using some)⟩
  rw [reradix, List.takeWhile_append_of_pos zeros, List.dropWhile_append_of_pos zeros, stay.1, stay.2,
    List.append_nil]

/-- Changing the base and back. -/
theorem reradix_reradix (two : 1 < factor) {digits : List Nat} (small : ∀ d ∈ digits, d < factor) :
    reradix base factor (reradix factor base digits) = digits := by
  have rest : ∀ d ∈ digits.dropWhile (· = 0), d < factor := fun d member =>
    small d ((List.dropWhile_sublist _).subset member)
  have whole := List.takeWhile_append_dropWhile (p := fun d : Nat => decide (d = 0)) (l := digits)
  rw [takeWhile_same] at whole
  conv_lhs => rw [← whole]
  rw [reradix_zeros (head_dropWhile_same digits 0), reradix_zeros (canonical_head base _), horner_canonical,
    canonical_horner two rest (head_dropWhile_same digits 0), whole]

/-- So many places are enough: `p / q` of the digits, and one more. -/
theorem room_of_ratio {p q : Nat} (positive : 0 < q) (ratio : factor ^ q ≤ base ^ p) (some : 0 < base) (n : Nat) :
    factor ^ n ≤ base ^ (n * p / q + 1) := by
  have enough : n * p ≤ (n * p / q + 1) * q := by
    have split := Nat.div_add_mod (n * p) q
    have less := Nat.mod_lt (n * p) positive
    rw [Nat.add_mul, Nat.mul_comm (n * p / q) q]
    omega
  have powers : (factor ^ n) ^ q ≤ (base ^ (n * p / q + 1)) ^ q := by
    calc (factor ^ n) ^ q = (factor ^ q) ^ n := by rw [← pow_mul, ← pow_mul, Nat.mul_comm]
      _ ≤ (base ^ p) ^ n := Nat.pow_le_pow_left ratio n
      _ = base ^ (n * p) := by rw [← pow_mul, Nat.mul_comm]
      _ ≤ base ^ ((n * p / q + 1) * q) := Nat.pow_le_pow_right some enough
      _ = (base ^ (n * p / q + 1)) ^ q := by rw [pow_mul]
  exact (Nat.pow_le_pow_iff_left (by omega)).mp powers

end Numbers

end DbcNode
