import Mathlib.Data.FinEnum
import DbcNode.Lib.Prog
import DbcNode.Lib.Radix
import DbcNode.Util.Base64
import DbcNode.Util.Sha256

namespace DbcNode.Util

/-- The digits of `base58.cpp`. Vectors that the source fills from their end
are kept here with their last element first. The sizes are those of inputs
for which they fit into an `int`. -/
def pszBase58 : Bytes := str "123456789ABCDEFGHJKLMNPQRSTUVWXYZabcdefghijkmnopqrstuvwxyz"

def mapBase58 : List Int := [
  -1,-1,-1,-1,-1,-1,-1,-1, -1,-1,-1,-1,-1,-1,-1,-1,
  -1,-1,-1,-1,-1,-1,-1,-1, -1,-1,-1,-1,-1,-1,-1,-1,
  -1,-1,-1,-1,-1,-1,-1,-1, -1,-1,-1,-1,-1,-1,-1,-1,
  -1, 0, 1, 2, 3, 4, 5, 6,  7, 8,-1,-1,-1,-1,-1,-1,
  -1, 9,10,11,12,13,14,15, 16,-1,17,18,19,20,21,-1,
  22,23,24,25,26,27,28,29, 30,31,32,-1,-1,-1,-1,-1,
  -1,33,34,35,36,37,38,39, 40,41,42,43,-1,44,45,46,
  47,48,49,50,51,52,53,54, 55,56,57,-1,-1,-1,-1,-1,
  -1,-1,-1,-1,-1,-1,-1,-1, -1,-1,-1,-1,-1,-1,-1,-1,
  -1,-1,-1,-1,-1,-1,-1,-1, -1,-1,-1,-1,-1,-1,-1,-1,
  -1,-1,-1,-1,-1,-1,-1,-1, -1,-1,-1,-1,-1,-1,-1,-1,
  -1,-1,-1,-1,-1,-1,-1,-1, -1,-1,-1,-1,-1,-1,-1,-1,
  -1,-1,-1,-1,-1,-1,-1,-1, -1,-1,-1,-1,-1,-1,-1,-1,
  -1,-1,-1,-1,-1,-1,-1,-1, -1,-1,-1,-1,-1,-1,-1,-1,
  -1,-1,-1,-1,-1,-1,-1,-1, -1,-1,-1,-1,-1,-1,-1,-1,
  -1,-1,-1,-1,-1,-1,-1,-1, -1,-1,-1,-1,-1,-1,-1,-1]

def base58Digit (c : UInt8) : Int := mapBase58.getD c.toNat (-1)

def base58Char (digit : Nat) : UInt8 := pszBase58.getD digit 0

/-- What both loops do with a digit, and the assertion after it. With the
vector comes `length`. -/
def pushDigit (base factor : Nat) (vector : List Nat × Nat) (digit : Nat) : Except (Stop Empty) (List Nat × Nat) :=
  let (digits, carry, i) := mulAdd base factor digit vector.2 vector.1
  if carry = 0 then .ok (digits, i) else .error .asserted

/-- The characters up to a blank; `none` where one of them is not of the
alphabet. -/
def decodeLoop : Bytes → List Nat × Nat → Except (Stop Empty) (Option (Bytes × List Nat × Nat))
  | [], b256 => .ok (some ([], b256))
  | c :: psz, b256 =>
    if isBlank c then .ok (some (c :: psz, b256))
    else if base58Digit c = -1 then .ok none
    else do decodeLoop psz (← pushDigit 256 58 b256 (base58Digit c).toNat)

def decodeBase58 (text : Bytes) : Except (Stop Empty) (Option Bytes) := do
  let psz := (text.takeWhile (· ≠ 0)).dropWhile isBlank
  let zeroes := (psz.takeWhile (· = 49)).length
  let psz := psz.dropWhile (· = 49)
  match ← decodeLoop psz (List.replicate (psz.length * 733 / 1000 + 1) 0, 0) with
  | none => return none
  | some (rest, b256, length) =>
    if rest.dropWhile isBlank ≠ [] then return none
    else
      let bytes := (b256.take length).reverse.dropWhile (· = 0)
      return some (List.replicate zeroes 0 ++ bytes.map UInt8.ofNat)

def encodeLoop : Bytes → List Nat × Nat → Except (Stop Empty) (List Nat × Nat)
  | [], b58 => .ok b58
  | byte :: rest, b58 => do encodeLoop rest (← pushDigit 58 256 b58 byte.toNat)

def encodeBase58 (bytes : Bytes) : Except (Stop Empty) Bytes := do
  let zeroes := (bytes.takeWhile (· = 0)).length
  let bytes := bytes.dropWhile (· = 0)
  let (b58, length) ← encodeLoop bytes (List.replicate (bytes.length * 138 / 100 + 1) 0, 0)
  let digits := (b58.take length).reverse.dropWhile (· = 0)
  return List.replicate zeroes 49 ++ digits.map base58Char

theorem base58_digits (c : UInt8) :
    base58Digit c = -1 ∨ 0 ≤ base58Digit c ∧ base58Digit c < 58 ∧ base58Char (base58Digit c).toNat = c ∧
      isBlank c = false ∧
      c ≠ 0 ∧ ((base58Digit c).toNat = 0 ↔ c = 49) := by
  revert c
  refine forall_byte ?_
  decide +kernel

theorem base58_chars {digit : Nat} (small : digit < 58) : base58Digit (base58Char digit) = digit := by
  revert digit
  decide +kernel

/-- A character of the alphabet. -/
def isBase58 (c : UInt8) : Bool := base58Digit c ≠ -1

def base58Value (text : Bytes) : List Nat := text.map (fun c => (base58Digit c).toNat)

section Loops
variable {base factor size used value digit : Nat} {digits : List Nat}

theorem pushDigit_ok (two : 1 < base) (places : Places base size used value digits)
    (fits : factor * value + digit < base ^ size) :
    ∃ digits' used', pushDigit base factor (digits, used) digit = .ok (digits', used') ∧
      Places base size used' (factor * value + digit) digits' := by
  rcases pass : mulAdd base factor digit used digits with ⟨digits', carry, used'⟩
  obtain ⟨none, places'⟩ := places.mulAdd two fits pass
  refine ⟨digits', used', ?_, places'⟩
  rw [pushDigit, pass]
  simp only [none, if_true]

/-- Room for a digit, and after it room for one digit less. -/
theorem room_step {n : Nat} (small : digit < factor) (room : factor ^ (n + 1) * (value + 1) ≤ base ^ size) :
    factor * value + digit < base ^ size ∧ factor ^ n * (factor * value + digit + 1) ≤ base ^ size := by
  have next : factor * value + digit + 1 ≤ factor * (value + 1) := by
    rw [Nat.mul_add]
    omega
  have later : factor ^ n * (factor * value + digit + 1) ≤ base ^ size := by
    calc factor ^ n * (factor * value + digit + 1) ≤ factor ^ n * (factor * (value + 1)) :=
      Nat.mul_le_mul_left _ next
      _ = factor ^ (n + 1) * (value + 1) := by ring
      _ ≤ base ^ size := room
  have one : 1 ≤ factor ^ n := Nat.one_le_pow _ _ (by omega)
  have whole : 1 * (factor * value + digit + 1) ≤ factor ^ n * (factor * value + digit + 1) :=
    Nat.mul_le_mul_right _ one
  exact ⟨by omega, later⟩

theorem encodeLoop_ok (bytes : Bytes) (places : Places 58 size used value digits)
    (room : 256 ^ bytes.length * (value + 1) ≤ 58 ^ size) :
    ∃ digits' used', encodeLoop bytes (digits, used) = .ok (digits', used') ∧
      Places 58 size used' ((bytes.map UInt8.toNat).foldl (fun value digit => 256 * value + digit) value)
        digits' := by
  induction bytes generalizing digits used value with
  | nil => exact ⟨digits, used, rfl, places⟩
  | cons byte bytes ih =>
    obtain ⟨fits, later⟩ := room_step byte.toNat_lt room
    obtain ⟨pushed, met, push, places'⟩ := pushDigit_ok (by decide) places fits
    obtain ⟨digits', used', rest, ended⟩ := ih places' later
    refine ⟨digits', used', ?_, ended⟩
    rw [encodeLoop, push, ok_bind, rest]

theorem decodeLoop_ok (psz : Bytes) (places : Places 256 size used value digits)
    (room : 58 ^ psz.length * (value + 1) ≤ 256 ^ size) :
    (∀ c ∈ psz.takeWhile (! isBlank ·), isBase58 c = true) ∧
        (∃ digits' used', decodeLoop psz (digits, used) = .ok (some (psz.dropWhile (! isBlank ·), digits', used')) ∧
          Places 256 size used'
            ((base58Value (psz.takeWhile (! isBlank ·))).foldl
              (fun value digit => 58 * value + digit) value) digits') ∨
      (∃ c ∈ psz.takeWhile (! isBlank ·), isBase58 c = false) ∧ decodeLoop psz (digits, used) = .ok none := by
  induction psz generalizing digits used value with
  | nil => exact Or.inl ⟨List.forall_mem_nil _, digits, used, rfl, places⟩
  | cons c psz ih =>
    rw [decodeLoop]
    cases blank : isBlank c with
    | true =>
      rw [List.takeWhile_cons_of_neg (by simp [blank]), List.dropWhile_cons_of_neg (by simp [blank])]
      exact Or.inl ⟨List.forall_mem_nil _, digits, used, rfl, places⟩
    | false =>
      rw [List.takeWhile_cons_of_pos (by simp [blank]), List.dropWhile_cons_of_pos (by simp [blank])]
      rcases base58_digits c with foreign | ⟨positive, small, _⟩
      · refine Or.inr ⟨⟨c, List.mem_cons_self, by simp [isBase58, foreign]⟩, ?_⟩
        simp only [foreign, if_true, Bool.false_eq_true, if_false]
      · have own : base58Digit c ≠ -1 := by omega
        have below : (base58Digit c).toNat < 58 := by omega
        obtain ⟨fits, later⟩ := room_step below room
        obtain ⟨pushed, met, push, places'⟩ := pushDigit_ok (by decide) places fits
        simp only [own, if_false, Bool.false_eq_true, push, ok_bind]
        rcases ih places' later with ⟨valid, digits', used', rest, ended⟩ | ⟨⟨d, member, foreign⟩, rest⟩
        · refine Or.inl ⟨?_, digits', used', rest, ended⟩
          intro d member
          rcases List.mem_cons.mp member with rfl | member
          · simp [isBase58, own]
          · exact valid d member
        · exact Or.inr ⟨⟨d, List.mem_cons_of_mem _ member, foreign⟩, rest⟩

end Loops

/-- The text that stands for these bytes. -/
def base58Text (bytes : Bytes) : Bytes := (reradix 256 58 (bytes.map UInt8.toNat)).map base58Char

/-- The bytes that a text stands for. -/
def base58Bytes (text : Bytes) : Bytes := (reradix 58 256 (base58Value text)).map UInt8.ofNat

/-- The encoder always returns: its assertion holds. -/
theorem encodeBase58_eq (bytes : Bytes) : encodeBase58 bytes = .ok (base58Text bytes) := by
  have ratio : 256 ^ 100 ≤ 58 ^ 138 := by decide +kernel
  have room := room_of_ratio (by decide) ratio (by decide) (bytes.dropWhile (· = 0)).length
  obtain ⟨digits, used, loop, places⟩ := encodeLoop_ok (bytes.dropWhile (· = 0))
    (Places.zero (by decide) _) (by simpa using room)
  have shown := places.canonical (by decide)
  have first : ((bytes.dropWhile (· = 0)).map UInt8.toNat).head? ≠ some 0 := by
    intro zero
    rw [List.head?_map, Option.map_eq_some_iff] at zero
    obtain ⟨byte, head, small⟩ := zero
    have zero : byte = 0 := UInt8.toNat_inj.mp small
    rw [zero] at head
    exact head_dropWhile_same bytes 0 head
  have split : bytes.map UInt8.toNat = List.replicate (bytes.takeWhile (· = 0)).length 0 ++
      (bytes.dropWhile (· = 0)).map UInt8.toNat := by
    conv_lhs => rw [← List.takeWhile_append_dropWhile (p := fun b : UInt8 => decide (b = 0)) (l := bytes),
      List.map_append, takeWhile_same, List.map_replicate]
    rfl
  rw [encodeBase58, base58Text, split, reradix_zeros first, List.map_append, List.map_replicate,
    ← foldl_horner, ← shown]
  simp only [loop, ok_bind]
  rfl

/-- The text of a C string up to the blank that ends it, without the blanks
in front, and what comes after. -/
def base58Word (text : Bytes) : Bytes := ((text.takeWhile (· ≠ 0)).dropWhile isBlank).takeWhile (! isBlank ·)

def base58Rest (text : Bytes) : Bytes := ((text.takeWhile (· ≠ 0)).dropWhile isBlank).dropWhile (! isBlank ·)

/-- The text without the blanks before it. -/
def base58Start (text : Bytes) : Bytes := (text.takeWhile (· ≠ 0)).dropWhile isBlank

/-- The ones that a text begins with are in its word. -/
theorem base58_ones (text : Bytes) :
    base58Word text = List.replicate ((base58Start text).takeWhile (· = 49)).length 49 ++
        ((base58Start text).dropWhile (· = 49)).takeWhile (! isBlank ·) ∧
      base58Rest text = ((base58Start text).dropWhile (· = 49)).dropWhile (! isBlank ·) := by
  have split : base58Start text = List.replicate ((base58Start text).takeWhile (· = 49)).length 49 ++
      (base58Start text).dropWhile (· = 49) := by
    conv_lhs => rw [← List.takeWhile_append_dropWhile (p := fun c : UInt8 => decide (c = 49))
      (l := base58Start text), takeWhile_same]
  have ones : ∀ c ∈ List.replicate ((base58Start text).takeWhile (· = 49)).length (49 : UInt8),
      (! isBlank c) = true := by
    intro c member
    rw [List.eq_of_mem_replicate member]
    rfl
  refine ⟨?_, ?_⟩
  · conv_lhs => rw [base58Word, ← base58Start, split, List.takeWhile_append_of_pos ones]
  · conv_lhs => rw [base58Rest, ← base58Start, split, List.dropWhile_append_of_pos ones]

/-- Behind the ones no digit that is zero comes first. -/
theorem base58Value_head {psz : Bytes}
    (valid : ∀ c ∈ (psz.dropWhile (· = 49)).takeWhile (! isBlank ·), isBase58 c = true) :
    (base58Value ((psz.dropWhile (· = 49)).takeWhile (! isBlank ·))).head? ≠ some 0 := by
  intro zero
  rw [base58Value, List.head?_map, Option.map_eq_some_iff] at zero
  obtain ⟨c, head, value⟩ := zero
  rcases base58_digits c with foreign | ⟨_, _, _, _, _, one⟩
  · have own := valid c (List.mem_of_head? head)
    simp [isBase58, foreign] at own
  · obtain rfl := one.mp value
    refine head_dropWhile_same psz 49 ?_
    cases drop : psz.dropWhile (· = 49) with
    | nil =>
      rw [drop] at head
      cases head
    | cons d later =>
      rw [drop, List.takeWhile_cons] at head
      split at head
      · exact head
      · cases head

/-- The decoder always returns too, and it takes the words of the alphabet
with blanks around them. -/
theorem decodeBase58_eq (text : Bytes) :
    decodeBase58 text = .ok (if (∀ c ∈ base58Word text, isBase58 c = true) ∧ ∀ c ∈ base58Rest text, isBlank c = true
      then some (base58Bytes (base58Word text)) else none) := by
  have ratio : 58 ^ 1000 ≤ 256 ^ 733 := by decide +kernel
  obtain ⟨word, rest⟩ := base58_ones text
  rw [decodeBase58, ← base58Start, rest]
  generalize base58Start text = psz at word ⊢
  have room := room_of_ratio (by decide) ratio (by decide) (psz.dropWhile (· = 49)).length
  simp only
  rcases decodeLoop_ok (psz.dropWhile (· = 49)) (Places.zero (by decide) _) (by simpa using room) with
    ⟨valid, digits, used, loop, places⟩ | ⟨⟨c, member, foreign⟩, loop⟩
  · have shown := places.canonical (by decide)
    have all : ∀ c ∈ base58Word text, isBase58 c = true := by
      intro c member
      rw [word] at member
      rcases List.mem_append.mp member with one | member
      · rw [List.eq_of_mem_replicate one]
        rfl
      · exact valid c member
    have bytes : base58Bytes (base58Word text) = List.replicate (psz.takeWhile (· = 49)).length 0 ++
        (((digits.take used).reverse.dropWhile (· = 0)).map UInt8.ofNat) := by
      rw [base58Bytes, word, base58Value, List.map_append, List.map_replicate]
      have zero : (base58Digit 49).toNat = 0 := rfl
      rw [zero, ← base58Value, reradix_zeros (base58Value_head valid), List.map_append, List.map_replicate,
        ← foldl_horner, ← shown]
      rfl
    rw [loop, ok_bind]
    simp only [bytes]
    by_cases blank : ((psz.dropWhile (· = 49)).dropWhile (! isBlank ·)).dropWhile isBlank = []
    · rw [if_neg (not_not.mpr blank), if_pos ⟨all, List.dropWhile_eq_nil_iff.mp blank⟩]
      rfl
    · rw [if_pos blank, if_neg fun both => blank (List.dropWhile_eq_nil_iff.mpr both.2)]
      rfl
  · rw [loop, ok_bind, if_neg]
    · rfl
    · intro both
      have own := both.1 c (by rw [word]; exact List.mem_append_right _ member)
      rw [foreign] at own
      cases own

theorem base58Value_text (bytes : Bytes) :
    base58Value (base58Text bytes) = reradix 256 58 (bytes.map UInt8.toNat) := by
  rw [base58Value, base58Text, List.map_map]
  refine List.map_congr_left (fun d member => ?_) |>.trans (List.map_id _)
  have digit := base58_chars (reradix_lt (by decide) member)
  simp only [Function.comp, digit, Int.toNat_natCast, id]

theorem base58_text_chars {bytes : Bytes} {c : UInt8} (member : c ∈ base58Text bytes) :
    isBase58 c = true ∧ isBlank c = false ∧ c ≠ 0 := by
  obtain ⟨d, inside, rfl⟩ := List.mem_map.mp member
  have digit := base58_chars (reradix_lt (by decide) inside)
  have own : base58Digit (base58Char d) ≠ -1 := by omega
  rcases base58_digits (base58Char d) with foreign | ⟨_, _, _, visible, some, _⟩
  · exact absurd foreign own
  · exact ⟨by simp [isBase58, own], visible, some⟩

theorem base58Bytes_text (bytes : Bytes) : base58Bytes (base58Text bytes) = bytes := by
  rw [base58Bytes, base58Value_text, reradix_reradix (by decide), List.map_map]
  · refine List.map_congr_left (fun b _ => ?_) |>.trans (List.map_id _)
    simp [Function.comp]
  · intro d member
    obtain ⟨b, _, rfl⟩ := List.mem_map.mp member
    exact b.toNat_lt

theorem base58Text_bytes {text : Bytes} (valid : ∀ c ∈ text, isBase58 c = true) :
    base58Text (base58Bytes text) = text := by
  have back : (base58Bytes text).map UInt8.toNat = reradix 58 256 (base58Value text) := by
    rw [base58Bytes, List.map_map]
    refine List.map_congr_left (fun d member => ?_) |>.trans (List.map_id _)
    have small : d < 256 := reradix_lt (by decide) member
    simp only [Function.comp, UInt8.toNat_ofNat', id]
    omega
  rw [base58Text, back, reradix_reradix (by decide), base58Value, List.map_map]
  · refine List.map_congr_left (fun c member => ?_) |>.trans (List.map_id _)
    rcases base58_digits c with foreign | ⟨_, _, char, _⟩
    · have own := valid c member
      simp [isBase58, foreign] at own
    · exact char
  · intro d member
    obtain ⟨c, inside, rfl⟩ := List.mem_map.mp member
    rcases base58_digits c with foreign | ⟨_, small, _⟩
    · have own := valid c inside
      simp [isBase58, foreign] at own
    · omega

/-- A C string that holds at most one word, with blanks around it. -/
theorem word_around {before word after : Bytes} (blank : ∀ c ∈ before, isBlank c = true)
    (visible : ∀ c ∈ word, isBlank c = false) (blank' : ∀ c ∈ after, isBlank c = true) {text : Bytes}
    (shape : text.takeWhile (· ≠ 0) = before ++ word ++ after) :
    base58Word text = word ∧ ∀ c ∈ base58Rest text, isBlank c = true := by
  rcases List.eq_nil_or_concat word with rfl | filled
  · have all : (before ++ [] ++ after).dropWhile isBlank = [] := by
      refine List.dropWhile_eq_nil_iff.mpr fun c member => ?_
      rw [List.append_nil] at member
      exact (List.mem_append.mp member).elim (blank c) (blank' c)
    rw [base58Word, base58Rest, shape, all]
    exact ⟨rfl, List.forall_mem_nil _⟩
  · have some : word ≠ [] := by
      obtain ⟨rest, last, rfl⟩ := filled
      simp
    have start : ((before ++ word ++ after).dropWhile isBlank) = word ++ after := by
      rw [List.append_assoc, List.dropWhile_append_of_pos blank]
      obtain ⟨c, rest, rfl⟩ := List.exists_cons_of_ne_nil some
      have first := visible c List.mem_cons_self
      rw [List.cons_append, List.dropWhile_cons_of_neg (by simp [first])]
    have shown : ∀ c ∈ word, (! isBlank c) = true := fun c member => by rw [visible c member]; rfl
    have stop : after.takeWhile (! isBlank ·) = [] := by
      cases after with
      | nil => rfl
      | cons c rest => exact List.takeWhile_cons_of_neg (by simp [blank' c List.mem_cons_self])
    rw [base58Word, base58Rest, shape, start, List.takeWhile_append_of_pos shown,
      List.dropWhile_append_of_pos shown, stop, List.append_nil]
    exact ⟨rfl, fun c member => blank' c ((List.dropWhile_sublist _).subset member)⟩

/-- Blanks, this word, and blanks again, up to the end of the C string. -/
def Around (text word : Bytes) : Prop :=
  ∃ before after, (∀ c ∈ before, isBlank c = true) ∧ (∀ c ∈ after, isBlank c = true) ∧
    text.takeWhile (· ≠ 0) = before ++ word ++ after

theorem Around.self {word : Bytes} (chars : ∀ c ∈ word, c ≠ 0) : Around word word := by
  refine ⟨[], [], List.forall_mem_nil _, List.forall_mem_nil _, ?_⟩
  rw [List.append_nil, List.nil_append]
  exact List.takeWhile_eq_self_iff.mpr fun c member => decide_eq_true (chars c member)

theorem decodeBase58_around (text bytes : Bytes) :
    decodeBase58 text = .ok (some bytes) ↔ ∃ word, encodeBase58 bytes = .ok word ∧ Around text word := by
  rw [decodeBase58_eq, encodeBase58_eq]
  constructor
  · intro decoded
    have found := Except.ok.inj decoded
    split at found
    · rename_i accepted
      cases found
      refine ⟨_, rfl, ((text.takeWhile (· ≠ 0)).takeWhile isBlank), base58Rest text, ?_, accepted.2, ?_⟩
      · exact fun c member => List.mem_takeWhile_imp member
      · rw [base58Text_bytes accepted.1, base58Word, base58Rest, List.append_assoc, List.takeWhile_append_dropWhile,
          List.takeWhile_append_dropWhile]
    · cases found
  · rintro ⟨word, encoded, before, after, blank, blank', shape⟩
    obtain rfl := Except.ok.inj encoded
    obtain ⟨same, rest⟩ := word_around blank (fun c member => (base58_text_chars member).2.1) blank' shape
    rw [same, if_pos ⟨fun c member => (base58_text_chars member).1, rest⟩, base58Bytes_text]

/-- `zeroes` and `size` of the encoder, which are of type `int`; `length`
and `i` do not go beyond `size`. -/
def encodeInts (bytes : Bytes) : List Nat :=
  [(bytes.takeWhile (· = 0)).length, (bytes.dropWhile (· = 0)).length * 138 / 100 + 1]

/-- Those of the decoder. -/
def decodeInts (text : Bytes) : List Nat :=
  let psz := (text.takeWhile (· ≠ 0)).dropWhile isBlank
  [(psz.takeWhile (· = 49)).length, (psz.dropWhile (· = 49)).length * 733 / 1000 + 1]

theorem encodeInts_fit {bytes : Bytes} (short : bytes.length * 138 / 100 + 1 < 2 ^ 31) :
    ∀ n ∈ encodeInts bytes, n < 2 ^ 31 := by
  have zeroes := (List.takeWhile_sublist (l := bytes) (fun b : UInt8 => decide (b = 0))).length_le
  have rest := List.length_dropWhile_le (fun b : UInt8 => decide (b = 0)) bytes
  intro n listed
  simp only [encodeInts, List.mem_cons, List.not_mem_nil, or_false] at listed
  omega

theorem decodeInts_fit {text : Bytes} (short : text.length < 2 ^ 31) : ∀ n ∈ decodeInts text, n < 2 ^ 31 := by
  have whole : ((text.takeWhile (· ≠ 0)).dropWhile isBlank).length ≤ text.length :=
    (List.length_dropWhile_le _ _).trans (List.takeWhile_sublist _).length_le
  intro n listed
  rw [decodeInts] at listed
  generalize (text.takeWhile (· ≠ 0)).dropWhile isBlank = psz at whole listed
  have zeroes := (List.takeWhile_sublist (l := psz) (fun c : UInt8 => decide (c = 49))).length_le
  have rest := List.length_dropWhile_le (fun c : UInt8 => decide (c = 49)) psz
  simp only [List.mem_cons, List.not_mem_nil, or_false] at listed
  omega

/-- Where the sizes fit into their `int`, neither loop runs out of room, and
the decoder takes the words that the encoder makes, with blanks around them,
and no others. -/
theorem decodeBase58_iff (text bytes : Bytes) (short : bytes.length * 138 / 100 + 1 < 2 ^ 31)
    (shortText : text.length < 2 ^ 31) :
    (∀ n ∈ encodeInts bytes ++ decodeInts text, n < 2 ^ 31) ∧
      (∃ word found, encodeBase58 bytes = .ok word ∧ decodeBase58 text = .ok found) ∧
      (decodeBase58 text = .ok (some bytes) ↔ ∃ word, encodeBase58 bytes = .ok word ∧ Around text word) := by
  refine ⟨?_, ⟨_, _, encodeBase58_eq bytes, decodeBase58_eq text⟩, decodeBase58_around text bytes⟩
  intro n listed
  rcases List.mem_append.mp listed with encoding | decoding
  · exact encodeInts_fit short n encoding
  · exact decodeInts_fit shortText n decoding

/-- A zero byte and one more. -/
theorem decodeBase58_iff_short : decodeBase58 (str " 1z ") = .ok (some [0, 57]) ↔
    ∃ word, encodeBase58 [0, 57] = .ok word ∧ Around (str " 1z ") word :=
  (decodeBase58_iff (str " 1z ") [0, 57] (by decide) (by decide)).2.2

def encodeBase58Check (garbage : Fin 64 → UInt8) (vchIn : Bytes) : Except (Stop Empty) Bytes :=
  encodeBase58 (vchIn ++ (hash256 garbage vchIn).take 4)

/-- On a failure the vector is left empty. -/
def decodeBase58Check (garbage : Fin 64 → UInt8) (text : Bytes) : Except (Stop Empty) (Option Bytes) := do
  match ← decodeBase58 text with
  | none => return none
  | some vchRet =>
    if vchRet.length < 4 then return none
    else
      let hash := hash256 garbage (vchRet.take (vchRet.length - 4))
      if hash.take 4 ≠ vchRet.drop (vchRet.length - 4) then return none
      else return some (vchRet.take (vchRet.length - 4))

/-- The text of an identifier is the one of `uuid_unparse_lower`, and a task
has the one of two numbers. -/
def createSessionId (garbage : Fin 64 → UInt8) (uuid : Bytes) : Except (Stop Empty) Bytes :=
  encodeBase58Check garbage uuid

def createNonce (garbage : Fin 64 → UInt8) (uuid : Bytes) : Except (Stop Empty) Bytes :=
    encodeBase58Check garbage uuid

def createTaskId (garbage : Fin 64 → UInt8) (rand tvUsec : Nat) : Except (Stop Empty) Bytes :=
  encodeBase58Check garbage (decimal (rand % 1000000) ++ decimal tvUsec)

def checkId (garbage : Fin 64 → UInt8) (id : Bytes) : Except (Stop Empty) Bool := do
  return (← decodeBase58Check garbage id).isSome

section Check
variable {garbage : Fin 64 → UInt8} {vchIn other text word : Bytes}

/-- The bytes that `Base58Check` encodes for some content. -/
def checked (vchIn : Bytes) : Bytes := vchIn ++ (sha256 (sha256 vchIn)).take 4

theorem encodeBase58Check_eq (vchIn : Bytes) : encodeBase58Check garbage vchIn = encodeBase58 (checked vchIn) := by
  rw [encodeBase58Check, hash256_eq, checked]

theorem checked_split (vchIn : Bytes) : (checked vchIn).length = vchIn.length + 4 ∧
    (checked vchIn).take vchIn.length = vchIn ∧ (checked vchIn).drop vchIn.length =
      (sha256 (sha256 vchIn)).take 4 := by
  have length : ((sha256 (sha256 vchIn)).take 4).length = 4 := rfl
  exact ⟨by rw [checked, List.length_append, length], List.take_left, List.drop_left⟩

theorem decodeBase58Check_iff :
    decodeBase58Check garbage text = .ok (some vchIn) ↔ decodeBase58 text = .ok (some (checked vchIn)) := by
  obtain ⟨length, content, sum⟩ := checked_split vchIn
  obtain ⟨found, decoded⟩ : ∃ found, decodeBase58 text = .ok found := ⟨_, decodeBase58_eq text⟩
  rw [decodeBase58Check, decoded, ok_bind]
  cases found with
  | none =>
    constructor
    · intro wrong
      cases wrong
    · intro wrong
      cases wrong
  | some vch =>
    simp only
    constructor
    · intro accepted
      split at accepted
      · cases accepted
      · split at accepted
        · cases accepted
        · rename_i long agree
          have same : vch.take (vch.length - 4) = vchIn := by
            have inner := Except.ok.inj accepted
            exact Option.some.inj inner
          rw [not_not, hash256_eq, same] at agree
          rw [checked, agree, ← same, List.take_append_drop]
    · intro whole
      obtain rfl : vch = checked vchIn := Option.some.inj (Except.ok.inj whole)
      have back : (checked vchIn).length - 4 = vchIn.length := by omega
      rw [if_neg (by omega), back, content, sum, hash256_eq, if_neg (by simp)]
      rfl

/-- What has been encoded with its sum is read back, from the word alone or
with blanks around it, and nothing else passes. -/
theorem decodeBase58Check_exact (garbage : Fin 64 → UInt8) (text vchIn : Bytes) :
    decodeBase58Check garbage text = .ok (some vchIn) ↔
      ∃ word, encodeBase58Check garbage vchIn = .ok word ∧ Around text word := by
  rw [decodeBase58Check_iff, decodeBase58_around text (checked vchIn), encodeBase58Check_eq]

theorem checkId_eq_true {id : Bytes} :
    checkId garbage id = .ok true ↔ ∃ content word, encodeBase58Check garbage content = .ok word ∧
      Around id word := by
  constructor
  · intro passes
    obtain ⟨found, decoded, some⟩ := except_bind_ok.mp passes
    obtain ⟨content, rfl⟩ := Option.isSome_iff_exists.mp (Except.ok.inj some)
    exact ⟨content, (decodeBase58Check_exact garbage id content).mp decoded⟩
  · rintro ⟨content, encoded⟩
    rw [checkId, (decodeBase58Check_exact garbage id content).mpr encoded]
    rfl

theorem encodeBase58Check_inj {garbage' : Fin 64 → UInt8} (encoded : encodeBase58Check garbage vchIn = .ok word) :
    encodeBase58Check garbage' other = .ok word ↔ other = vchIn := by
  constructor
  · intro again
    rw [encodeBase58Check_eq, encodeBase58_eq] at encoded again
    have same : base58Text (checked other) = base58Text (checked vchIn) :=
      (Except.ok.inj again).trans (Except.ok.inj encoded).symm
    have bytes : checked other = checked vchIn := by rw [← base58Bytes_text (checked other), same, base58Bytes_text]
    obtain ⟨length, content, _⟩ := checked_split other
    obtain ⟨length', content', _⟩ := checked_split vchIn
    have equal : other.length = vchIn.length := by
      rw [bytes] at length
      omega
    rw [← content, ← content', bytes, equal]
  · rintro rfl
    rw [encodeBase58Check_eq] at encoded ⊢
    exact encoded

/-- An identifier that the program makes passes its own check, and two of
them are the same only where they were made from the same text: for a task,
where the two numbers written one after the other agree. -/
theorem created_ids (garbage : Fin 64 → UInt8) :
    (∀ uuid, ∃ id, createNonce garbage uuid = .ok id ∧ createSessionId garbage uuid = .ok id ∧
      checkId garbage id = .ok true ∧
      ∀ uuid', createNonce garbage uuid' = .ok id ↔ uuid' = uuid) ∧
    ∀ rand tvUsec, ∃ id, createTaskId garbage rand tvUsec = .ok id ∧ checkId garbage id = .ok true ∧
      ∀ rand' tvUsec', createTaskId garbage rand' tvUsec' = .ok id ↔
        decimal (rand' % 1000000) ++ decimal tvUsec' = decimal (rand % 1000000) ++ decimal tvUsec := by
  have made : ∀ content, ∃ id, encodeBase58Check garbage content = .ok id ∧ checkId garbage id = .ok true := by
    intro content
    have encoded : encodeBase58Check garbage content = .ok (base58Text (checked content)) := by
      rw [encodeBase58Check_eq, encodeBase58_eq]
    exact ⟨_, encoded,
      checkId_eq_true.mpr ⟨content, _, encoded, Around.self fun c member => (base58_text_chars member).2.2⟩⟩
  constructor
  · intro uuid
    obtain ⟨id, encoded, passes⟩ := made uuid
    exact ⟨id, encoded, encoded, passes, fun uuid' => encodeBase58Check_inj encoded⟩
  · intro rand tvUsec
    obtain ⟨id, encoded, passes⟩ := made (decimal (rand % 1000000) ++ decimal tvUsec)
    exact ⟨id, encoded, passes, fun rand' tvUsec' => encodeBase58Check_inj encoded⟩

end Check

end DbcNode.Util
