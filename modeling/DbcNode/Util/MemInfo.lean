import DbcNode.Util.MemScan

namespace DbcNode.Util

/-- What `update_mem_info` makes of the text of `/proc/meminfo`: `mem_info`,
with the usage as the quotient that it is. -/
structure MemInfo where
  total : Int
  free : Int
  usage : Int × Int
  shared : Int
  buffers : Int
  cached : Int
  available : Int
  swapTotal : Int
  swapFree : Int
  used : Int
  deriving DecidableEq, Repr

/-- The subtraction of `unsigned long`. -/
def minus (a b : Nat) : Nat := (a + (2 ^ 64 - b % 2 ^ 64)) % 2 ^ 64

/-- An `unsigned long` in an `int64_t`. -/
def toInt64 (n : Nat) : Int := Int.bmod n (2 ^ 64)

/-- The reserve in kilobytes; a machine of up to 64 gigabytes has none. -/
def reservedMem (total reserved : Nat) : Nat :=
    if toInt64 total ≤ 64 * 1024 * 1024 then 0 else reserved * 1024 * 1024

section Account
variable (slots : MemSlots) (reserved : Nat)

def freeOf : Nat :=
  if slots .memFree < reservedMem (slots .memTotal) reserved then 0
  else minus (slots .memFree) (reservedMem (slots .memTotal) reserved)

def totalOf : Nat :=
  if slots .memTotal < reservedMem (slots .memTotal) reserved then 0
  else minus (slots .memTotal) (reservedMem (slots .memTotal) reserved)

def cachedOf : Nat := (slots .cached + slots .sReclaimable) % 2 ^ 64

/-- The part of `update_mem_info` behind the loop. -/
def memInfo : MemInfo where
  total := toInt64 (totalOf slots reserved)
  free := toInt64 (freeOf slots reserved)
  usage :=
    if slots .memTotal < reservedMem (slots .memTotal) reserved then (1, 1)
    else (toInt64 (totalOf slots reserved) - toInt64 (freeOf slots reserved), toInt64 (totalOf slots reserved))
  shared := toInt64 (slots .shmem)
  buffers := toInt64 (slots .buffers)
  cached := toInt64 (cachedOf slots)
  available := toInt64 (minus (slots .memAvailable) (reservedMem (slots .memTotal) reserved))
  swapTotal := toInt64 (slots .swapTotal)
  swapFree := toInt64 (slots .swapFree)
  used := toInt64 (minus (minus (minus (slots .memTotal) (slots .memFree)) (cachedOf slots)) (slots .buffers))

/-- The unsigned subtractions that it makes, in their order. -/
def subtractions : List (Nat × Nat) :=
  (if slots .memFree < reservedMem (slots .memTotal) reserved then []
    else [(slots .memFree, reservedMem (slots .memTotal) reserved)]) ++
  (if slots .memTotal < reservedMem (slots .memTotal) reserved then []
    else [(slots .memTotal, reservedMem (slots .memTotal) reserved)]) ++
  [(slots .memAvailable, reservedMem (slots .memTotal) reserved), (slots .memTotal, slots .memFree),
    (minus (slots .memTotal) (slots .memFree), cachedOf slots),
    (minus (minus (slots .memTotal) (slots .memFree)) (cachedOf slots), slots .buffers)]

/-- Nothing wraps around, and the parts are at most the whole. -/
structure Balanced : Prop where
  exact : ∀ pair ∈ subtractions slots reserved, pair.2 ≤ pair.1
  free : (memInfo slots reserved).free ≤ (memInfo slots reserved).total
  available : (memInfo slots reserved).available ≤ (memInfo slots reserved).total
  used : (memInfo slots reserved).used ≤ slots .memTotal

/-- The reserve is available, and the fields with a sign keep the order of
the numbers. -/
def Affords : Prop :=
  reservedMem (slots .memTotal) reserved ≤ slots .memAvailable ∧
    (slots .memTotal < 2 ^ 63 ∨ 2 ^ 63 ≤ slots .memFree ∧ 2 ^ 63 ≤ slots .memAvailable)

end Account

section Balance
variable {slots : MemSlots} {reserved : Nat}

theorem minus_of_le {a b : Nat} (small : a < 2 ^ 64) (le : b ≤ a) : minus a b = a - b := by
  unfold minus
  omega

theorem bmod_word {n m : Nat} (rest : (n : Int) % ((2 ^ 64 : Nat) : Int) = m) :
    Int.bmod n (2 ^ 64) = if m < 2 ^ 63 then (m : Int) else m - 2 ^ 64 := by
  have whole : ((2 ^ 64 : Nat) : Int) = 2 ^ 64 := by norm_num
  have middle : ((2 ^ 64 : Int) + 1) / 2 = 2 ^ 63 := by norm_num
  rw [Int.bmod_def, rest, whole, middle]
  by_cases small : m < 2 ^ 63
  · rw [if_pos small, if_pos (by exact_mod_cast small)]
  · rw [if_neg small, if_neg (by exact_mod_cast small)]

theorem toInt64_eq (n : Nat) :
    toInt64 n = if n % 2 ^ 64 < 2 ^ 63 then ((n % 2 ^ 64 : Nat) : Int) else ((n % 2 ^ 64 : Nat) : Int) - 2 ^ 64 :=
  bmod_word (Int.natCast_mod n (2 ^ 64)).symm

theorem toInt64_small {n : Nat} (small : n < 2 ^ 63) : toInt64 n = n := by
  have same : n % 2 ^ 64 = n := Nat.mod_eq_of_lt (by omega)
  rw [toInt64_eq, same, if_pos small]

theorem toInt64_large {n : Nat} (small : n < 2 ^ 64) (large : 2 ^ 63 ≤ n) : toInt64 n = n - 2 ^ 64 := by
  rw [toInt64_eq, Nat.mod_eq_of_lt small, if_neg (by omega)]

theorem toInt64_le {m n : Nat} (le : m ≤ n) (small : n < 2 ^ 63 ∨ 2 ^ 63 ≤ m ∧ n < 2 ^ 64) :
    toInt64 m ≤ toInt64 n := by
  rcases small with small | ⟨large, small⟩
  · rw [toInt64_small small, toInt64_small (le.trans_lt small)]
    exact_mod_cast le
  · rw [toInt64_large (le.trans_lt small) large, toInt64_large small (large.trans le)]
    omega

theorem toInt64_le_self (n : Nat) : toInt64 n ≤ n := by
  have less : ((n % 2 ^ 64 : Nat) : Int) ≤ n := by exact_mod_cast Nat.mod_le n (2 ^ 64)
  rw [toInt64_eq]
  split
  · exact less
  · exact (Int.sub_le_self _ (by positivity)).trans less

/-- A reserve is only taken from a total that is positive with its sign. -/
theorem reservedMem_cases (total reserved : Nat) : reservedMem total reserved = 0 ∨
    reservedMem total reserved = reserved * 1024 * 1024 ∧ total % 2 ^ 64 < 2 ^ 63 := by
  unfold reservedMem
  split
  · exact Or.inl rfl
  · rename_i larger
    refine Or.inr ⟨rfl, ?_⟩
    by_contra large
    rw [toInt64_eq, if_neg large] at larger
    omega

/-- What is used: no step of its subtraction wraps around. -/
theorem used_steps (word : slots .memTotal < 2 ^ 64)
    (parts : slots .memFree + slots .buffers + slots .cached + slots .sReclaimable ≤ slots .memTotal) :
    cachedOf slots = slots .cached + slots .sReclaimable ∧
      minus (slots .memTotal) (slots .memFree) = slots .memTotal - slots .memFree ∧
      minus (slots .memTotal - slots .memFree) (slots .cached + slots .sReclaimable) =
        slots .memTotal - slots .memFree - (slots .cached + slots .sReclaimable) ∧
      minus (slots .memTotal - slots .memFree - (slots .cached + slots .sReclaimable)) (slots .buffers) =
        slots .memTotal - slots .memFree - (slots .cached + slots .sReclaimable) - slots .buffers := by
  refine ⟨Nat.mod_eq_of_lt (by omega), minus_of_le word (by omega), minus_of_le (by omega) (by omega), ?_⟩
  exact minus_of_le (by omega) (by omega)

theorem used_le (word : slots .memTotal < 2 ^ 64)
    (parts : slots .memFree + slots .buffers + slots .cached + slots .sReclaimable ≤ slots .memTotal) :
    (memInfo slots reserved).used ≤ slots .memTotal := by
  obtain ⟨cached, first, second, third⟩ := used_steps word parts
  simp only [memInfo, first, second, third, cached]
  refine (toInt64_le_self _).trans ?_
  omega

/-- A total with the sign set is negative, and nothing is reserved from it;
what is at most that is negative too. -/
theorem Balanced.negative (balanced : Balanced slots reserved) (word : slots .memTotal < 2 ^ 64)
    (free : slots .memFree ≤ slots .memTotal) (available : slots .memAvailable ≤ slots .memTotal)
    (large : 2 ^ 63 ≤ slots .memTotal) : 2 ^ 63 ≤ slots .memFree ∧ 2 ^ 63 ≤ slots .memAvailable := by
  have none : reservedMem (slots .memTotal) reserved = 0 := by
    have reserve := reservedMem_cases (slots .memTotal) reserved
    rw [Nat.mod_eq_of_lt word] at reserve
    omega
  have keeps : ∀ n, n ≤ slots .memTotal → minus n 0 = n :=
    fun n le => minus_of_le (le.trans_lt word) (Nat.zero_le n)
  have below : toInt64 (slots .memTotal) < 0 := by
    rw [toInt64_large word large]
    omega
  have sign : ∀ n, toInt64 n ≤ toInt64 (slots .memTotal) → 2 ^ 63 ≤ n := by
    intro n le
    by_contra low
    rw [toInt64_small (Nat.lt_of_not_le low)] at le
    exact absurd ((Int.natCast_nonneg n).trans le) below.not_ge
  have free' := balanced.free
  have available' := balanced.available
  simp only [memInfo, totalOf, freeOf, none, Nat.not_lt_zero, if_false, keeps _ le_rfl, keeps _ free,
    keeps _ available] at free' available'
  exact ⟨sign _ free', sign _ available'⟩

theorem Balanced.affords (balanced : Balanced slots reserved) (word : slots .memTotal < 2 ^ 64)
    (free : slots .memFree ≤ slots .memTotal) (available : slots .memAvailable ≤ slots .memTotal) :
    Affords slots reserved := by
  have listed : (slots .memAvailable, reservedMem (slots .memTotal) reserved) ∈ subtractions slots reserved :=
    List.mem_append_right _ List.mem_cons_self
  have affordable := balanced.exact _ listed
  simp only at affordable
  exact ⟨affordable, (Nat.lt_or_ge _ _).imp_right (balanced.negative word free available)⟩

/-- With the reserve available, what is taken from the total, the free and
the available memory does not wrap around. -/
theorem Affords.figures (affords : Affords slots reserved) (word : slots .memTotal < 2 ^ 64)
    (free : slots .memFree ≤ slots .memTotal) (available : slots .memAvailable ≤ slots .memTotal) :
    totalOf slots reserved = slots .memTotal - reservedMem (slots .memTotal) reserved ∧
      freeOf slots reserved = slots .memFree - reservedMem (slots .memTotal) reserved ∧
      minus (slots .memAvailable) (reservedMem (slots .memTotal) reserved) =
        slots .memAvailable - reservedMem (slots .memTotal) reserved := by
  have affordable := affords.1
  refine ⟨?_, ?_, minus_of_le (by omega) affordable⟩
  · rw [totalOf, if_neg (by omega), minus_of_le word (by omega)]
  · unfold freeOf
    split
    · omega
    · rw [minus_of_le (by omega) (by omega)]

theorem Affords.exact (affords : Affords slots reserved) (word : slots .memTotal < 2 ^ 64)
    (parts : slots .memFree + slots .buffers + slots .cached + slots .sReclaimable ≤ slots .memTotal) :
    ∀ pair ∈ subtractions slots reserved, pair.2 ≤ pair.1 := by
  obtain ⟨cached, first, second, _⟩ := used_steps word parts
  intro pair member
  simp only [subtractions, first, second, cached, List.mem_append, List.mem_cons, List.not_mem_nil,
    or_false] at member
  rcases member with (inFree | inTotal) | rfl | rfl | rfl | rfl
  · split at inFree
    · cases inFree
    · cases List.mem_singleton.mp inFree
      simp only
      omega
  · split at inTotal
    · cases inTotal
    · cases List.mem_singleton.mp inTotal
      simp only
      omega
  · simp only
    exact affords.1
  · simp only
    omega
  · simp only
    omega
  · simp only
    omega

theorem balanced_iff (word : slots .memTotal < 2 ^ 64) (free : slots .memFree ≤ slots .memTotal)
    (available : slots .memAvailable ≤ slots .memTotal)
    (parts : slots .memFree + slots .buffers + slots .cached + slots .sReclaimable ≤ slots .memTotal) :
    Balanced slots reserved ↔ Affords slots reserved := by
  refine ⟨fun balanced => balanced.affords word free available, fun affords => ?_⟩
  obtain ⟨total, left, rest⟩ := affords.figures word free available
  -- the reserve is the same on both sides, and zero where the sign is set
  have ordered : ∀ n, n ≤ slots .memTotal → (slots .memTotal < 2 ^ 63 ∨ 2 ^ 63 ≤ n) →
      toInt64 (n - reservedMem (slots .memTotal) reserved) ≤
        toInt64 (slots .memTotal - reservedMem (slots .memTotal) reserved) := by
    intro n le signs
    refine toInt64_le (by omega) ?_
    have reserve := reservedMem_cases (slots .memTotal) reserved
    rw [Nat.mod_eq_of_lt word] at reserve
    omega
  refine ⟨affords.exact word parts, ?_, ?_, used_le word parts⟩
  · simp only [memInfo, total, left]
    exact ordered _ free (affords.2.imp_right And.left)
  · simp only [memInfo, total, rest]
    exact ordered _ available (affords.2.imp_right And.right)

end Balance

/-- A text of `/proc/meminfo`: every key of the table is the name of one of
its lines, which shows a number. -/
structure MemInfoText where
  lines : List MemLine
  number : MemKey → Nat
  before : MemKey → List MemLine
  line : MemKey → MemLine
  after : MemKey → List MemLine
  split : ∀ key, lines = before key ++ line key :: after key
  named : ∀ key, (line key).name = key.name
  others : ∀ key, ∀ other ∈ before key ++ after key, other.name ≠ key.name
  shown : ∀ key, ∃ gap digits unit, (line key).rest = gap ++ digits ++ unit ∧ (∀ b ∈ gap, isBlank b = true) ∧
    isDigits digits = true ∧ (∀ b, unit.head? = some b → isDigit b = false) ∧ digitsValue digits = number key
  word : ∀ key, number key < 2 ^ 64
  free_le : number .memFree ≤ number .memTotal
  available_le : number .memAvailable ≤ number .memTotal
  parts_le : number .memFree + number .buffers + number .cached + number .sReclaimable ≤ number .memTotal

def bytesOf (lines : List MemLine) : Bytes := lines.flatMap MemLine.bytes

namespace MemInfoText

/-- Where the rest of the line of a key begins. -/
def place (text : MemInfoText) (key : MemKey) : Nat :=
    (bytesOf (text.before key)).length + (text.line key).name.length + 1

/-- The buffer holds enough of the line of a key for its number to be
read. -/
def Legible (text : MemInfoText) (key : MemKey) : Prop :=
  text.place key ≤ 8191 ∧ strtoull ((text.line key).rest.take (8191 - text.place key)) = text.number key

/-- Every slot gets the number of its line, and the account of them is
balanced, whatever was in the memory of the slots before. -/
def Accounted (text : MemInfoText) (reserved : Nat) : Prop :=
  ∀ stray, ∃ slots, scan (bytesOf text.lines) stray = some slots ∧ (∀ key, slots key = text.number key) ∧
    Balanced slots reserved

end MemInfoText

section Scan

/-- Lines with other names leave a slot alone. -/
theorem scanLoop_absent {key : MemKey} {lines : List MemLine} (absent : ∀ line ∈ lines, line.name ≠ key.name)
    {rounds n : Nat} (enough : n < rounds) (slots : MemSlots) :
    ∃ result, scanLoop rounds ((bytesOf lines).take n) slots = some result ∧ result key = slots key := by
  induction lines generalizing rounds n slots with
  | nil =>
    obtain ⟨rounds, rfl⟩ : ∃ r, rounds = r + 1 := ⟨rounds - 1, by omega⟩
    refine ⟨slots, ?_, rfl⟩
    rw [bytesOf, List.flatMap_nil, List.take_nil, scanLoop]
    rfl
  | cons line lines ih =>
    obtain ⟨other, rest⟩ := List.forall_mem_cons.mp absent
    obtain ⟨rounds, rfl⟩ : ∃ r, rounds = r + 1 := ⟨rounds - 1, by omega⟩
    have size := line.bytes_length
    rw [bytesOf, List.flatMap_cons]
    by_cases cut : n ≤ line.name.length
    · exact ⟨slots, scanLoop_cut cut rounds _ slots, rfl⟩
    · rw [scanLoop_line (by omega)]
      simp only
      split
      · exact ⟨_, rfl, store_other other _ _⟩
      · obtain ⟨result, ran, kept⟩ := @ih rest rounds (n - line.bytes.length) (by omega)
          (store line.name ((line.rest ++ 10 :: lines.flatMap MemLine.bytes).take (n - line.name.length - 1)) slots)
        exact ⟨result, ran, kept.trans (store_other other _ _)⟩

/-- The line of a key sets its slot to what is read there, if its colon is
read. -/
theorem scanLoop_found {key : MemKey} {line : MemLine} (named : line.name = key.name) {before after : List MemLine}
    (others : ∀ other ∈ before ++ after, other.name ≠ key.name) {rounds n : Nat} (enough : n < rounds)
    (slots : MemSlots) :
    ∃ result, scanLoop rounds ((bytesOf (before ++ line :: after)).take n) slots = some result ∧
      result key = if (bytesOf before).length + line.name.length < n
        then strtoull
          ((line.rest ++ 10 :: bytesOf after).take (n - ((bytesOf before).length + line.name.length + 1)))
        else slots key := by
  obtain ⟨rounds, rfl⟩ : ∃ r, rounds = r + 1 := ⟨rounds - 1, by omega⟩
  induction before generalizing rounds n slots with
  | nil =>
    have nothing : (bytesOf []).length = 0 := rfl
    rw [List.nil_append, bytesOf, List.flatMap_cons, nothing, Nat.zero_add]
    by_cases cut : n ≤ line.name.length
    · rw [if_neg (by omega)]
      exact ⟨slots, scanLoop_cut cut rounds _ slots, rfl⟩
    · have stored := store_same key ((line.rest ++ 10 :: bytesOf after).take (n - (line.name.length + 1))) slots
      have size := line.bytes_length
      rw [if_pos (by omega), scanLoop_line (by omega), Nat.sub_sub]
      simp only
      rw [← named] at stored
      split
      · exact ⟨_, rfl, stored⟩
      · obtain ⟨result, ran, kept⟩ := @scanLoop_absent key after others rounds
          (n - line.bytes.length) (by omega)
          (store line.name ((line.rest ++ 10 :: bytesOf after).take (n - (line.name.length + 1))) slots)
        exact ⟨result, ran, kept.trans stored⟩
  | cons first before ih =>
    obtain ⟨other, rest⟩ := List.forall_mem_cons.mp others
    have size := first.bytes_length
    have longer : (bytesOf (first :: before)).length = first.bytes.length + (bytesOf before).length := by
      rw [bytesOf, List.flatMap_cons, List.length_append]
      rfl
    rw [List.cons_append, bytesOf, List.flatMap_cons, longer]
    by_cases cut : n ≤ first.name.length
    · rw [if_neg (by omega)]
      exact ⟨slots, scanLoop_cut cut rounds _ slots, rfl⟩
    · rw [scanLoop_line (by omega)]
      simp only
      have kept := store_other other ((first.rest ++ 10 :: (before ++ line :: after).flatMap MemLine.bytes).take
        (n - first.name.length - 1)) slots
      split
      · rw [if_neg (by omega)]
        exact ⟨_, rfl, kept⟩
      · obtain ⟨smaller, rfl⟩ : ∃ r, rounds = r + 1 := ⟨rounds - 1, by omega⟩
        obtain ⟨result, ran, found⟩ := ih rest (n := n - first.bytes.length)
          (store first.name ((first.rest ++ 10 :: (before ++ line :: after).flatMap MemLine.bytes).take
            (n - first.name.length - 1)) slots) smaller (by omega)
        refine ⟨result, ran, found.trans ?_⟩
        by_cases reached : (bytesOf before).length + line.name.length < n - first.bytes.length
        · have shifted : n - first.bytes.length - ((bytesOf before).length + line.name.length + 1) =
              n - (first.bytes.length + (bytesOf before).length + line.name.length + 1) := by omega
          rw [if_pos reached, if_pos (by omega), shifted]
        · rw [if_neg reached, if_neg (by omega), kept]

end Scan

namespace MemInfoText
variable {text : MemInfoText}

/-- A number behind blanks is read up to its last digit. -/
theorem strtoull_digits {gap digits unit : Bytes} (blank : ∀ b ∈ gap, isBlank b = true)
    (number : isDigits digits = true) (ends : ∀ b, unit.head? = some b → isDigit b = false)
    (word : digitsValue digits < 2 ^ 64) :
    strtoull (gap ++ digits ++ unit) = digitsValue digits := by
  obtain ⟨filled, all⟩ := isDigits_iff.mp number
  obtain ⟨first, others, rfl⟩ := List.exists_cons_of_ne_nil filled
  have digit := all first List.mem_cons_self
  have range : 48 ≤ first ∧ first ≤ 57 := of_decide_eq_true digit
  have solid : ¬ isBlank first = true := by
    intro blank
    have range' : first = 32 ∨ 9 ≤ first ∧ first ≤ 13 := of_decide_eq_true blank
    rcases range' with rfl | low
    · exact absurd range.1 (by decide)
    · exact absurd (UInt8.le_trans range.1 low.2) (by decide)
  have dropped : (gap ++ first :: others ++ unit).dropWhile isBlank = first :: others ++ unit := by
    rw [List.append_assoc, List.dropWhile_append_of_pos blank, List.cons_append, List.dropWhile_cons_of_neg solid]
  have taken : (first :: others ++ unit).takeWhile isDigit = first :: others := by
    rw [List.takeWhile_append_of_pos all]
    cases unit with
    | nil => rw [List.takeWhile_nil, List.append_nil]
    | cons b rest => rw [List.takeWhile_cons_of_neg (by simp [ends b rfl]), List.append_nil]
  have minusSign : first ≠ 45 := by
    rintro rfl
    exact absurd range.1 (by decide)
  have plusSign : first ≠ 43 := by
    rintro rfl
    exact absurd range.1 (by decide)
  rw [strtoull, dropped, List.cons_append]
  split
  · rename_i same
    exact absurd (List.cons.inj same).1 minusSign
  · rename_i same
    exact absurd (List.cons.inj same).1 plusSign
  · rw [← List.cons_append, taken, Nat.min_eq_left (by omega)]

/-- What is read behind the end of a line changes nothing of its number. -/
theorem strtoull_take (text : MemInfoText) (key : MemKey) (later : Bytes) (m : Nat) :
    strtoull (((text.line key).rest ++ 10 :: later).take m) = strtoull ((text.line key).rest.take m) := by
  by_cases cut : m ≤ (text.line key).rest.length
  · rw [List.take_append_of_le_length cut]
  · obtain ⟨gap, digits, unit, whole, blank, number, ends, value⟩ := text.shown key
    have word : digitsValue digits < 2 ^ 64 := value ▸ text.word key
    have alone : strtoull (text.line key).rest = digitsValue digits := by
      rw [whole]
      exact strtoull_digits blank number ends word
    obtain ⟨k, rfl⟩ : ∃ k, m = (text.line key).rest.length + (k + 1) :=
      ⟨m - (text.line key).rest.length - 1, by omega⟩
    have all : (text.line key).rest.take ((text.line key).rest.length + (k + 1)) = (text.line key).rest :=
      List.take_of_length_le (Nat.le_add_right _ _)
    rw [List.take_length_add_append, List.take_succ_cons, all, alone, whole, List.append_assoc _ unit]
    refine strtoull_digits blank number ?_ word
    intro b first
    cases unit with
    | nil =>
      cases first
      decide
    | cons c rest => exact ends b first

/-- A text that fits into the buffer is legible. -/
theorem legible_of_short (short : (bytesOf text.lines).length ≤ 8191) (key : MemKey) : text.Legible key := by
  obtain ⟨gap, digits, unit, whole, blank, number, ends, value⟩ := text.shown key
  have word : digitsValue digits < 2 ^ 64 := value ▸ text.word key
  have size := (text.line key).bytes_length
  have length : (bytesOf text.lines).length =
      (bytesOf (text.before key)).length + ((text.line key).bytes.length + (bytesOf (text.after key)).length) := by
    rw [text.split key, bytesOf, List.flatMap_append, List.flatMap_cons, List.length_append, List.length_append]
    rfl
  have place : text.place key + (text.line key).rest.length + 1 ≤ 8191 := by
    unfold MemInfoText.place
    omega
  refine ⟨by omega, ?_⟩
  rw [List.take_of_length_le (by omega), whole, strtoull_digits blank number ends word, value]

theorem scan_key (text : MemInfoText) (key : MemKey) (stray : MemSlots) :
    ∃ slots, scan (bytesOf text.lines) stray = some slots ∧
      slots key =
        if text.place key ≤ 8191 then strtoull ((text.line key).rest.take (8191 - text.place key))
        else stray key := by
  obtain ⟨slots, ran, found⟩ := scanLoop_found (text.named key) (text.others key) (show 8191 < 8192 by decide) stray
  rw [← text.split key] at ran
  refine ⟨slots, ran, ?_⟩
  rw [found, text.strtoull_take key]
  rfl

theorem scan_exact_iff (text : MemInfoText) :
    (∀ stray, ∃ slots, scan (bytesOf text.lines) stray = some slots ∧ ∀ key, slots key = text.number key) ↔
      ∀ key, text.Legible key := by
  constructor
  · intro exact key
    obtain ⟨slots, ran, numbers⟩ := exact fun key => text.number key + 1
    obtain ⟨slots', ran', found⟩ := text.scan_key key fun key => text.number key + 1
    have same : slots = slots' := Option.some.inj (ran.symm.trans ran')
    subst same
    rw [numbers key] at found
    split at found
    · rename_i inside
      exact ⟨inside, found.symm⟩
    · omega
  · intro legible stray
    obtain ⟨slots, ran, _⟩ := text.scan_key .memTotal stray
    refine ⟨slots, ran, fun key => ?_⟩
    obtain ⟨slots', ran', found⟩ := text.scan_key key stray
    have same : slots = slots' := Option.some.inj (ran.symm.trans ran')
    subst same
    rw [found, if_pos (legible key).1]
    exact (legible key).2

/-- Every slot gets its number and the account is balanced just where the
buffer holds the lines of the keys and the reserve is not more than what is
available. -/
theorem mem_info_exact (text : MemInfoText) (reserved : Nat) :
    text.Accounted reserved ↔ (∀ key, text.Legible key) ∧ Affords text.number reserved := by
  have balanced : Balanced text.number reserved ↔ Affords text.number reserved :=
    balanced_iff (text.word .memTotal) text.free_le text.available_le text.parts_le
  rw [← scan_exact_iff, ← balanced]
  constructor
  · intro accounted
    obtain ⟨slots, _, numbers, account⟩ := accounted text.number
    refine ⟨fun stray => ?_, ?_⟩
    · obtain ⟨slots, ran, numbers, _⟩ := accounted stray
      exact ⟨slots, ran, numbers⟩
    · rwa [funext numbers] at account
  · rintro ⟨exact, account⟩ stray
    obtain ⟨slots, ran, numbers⟩ := exact stray
    refine ⟨slots, ran, numbers, ?_⟩
    rwa [funext numbers]

end MemInfoText

section Example

/-- A machine with 128 gigabytes of which two are available. -/
def busyNumber : MemKey → Nat
  | .memTotal => 134217728
  | .memFree => 1048576
  | .memAvailable => 2097152
  | _ => 4

def busyLine (key : MemKey) : MemLine where
  name := key.name
  rest := str " " ++ decimal (busyNumber key) ++ str " kB"
  nameFree := by cases key <;> decide +kernel
  restFree := by cases key <;> decide +kernel

def memOrder : List MemKey :=
  [.memTotal, .memFree, .memAvailable, .buffers, .cached, .swapTotal, .swapFree, .shmem, .sReclaimable]

def busyText : MemInfoText where
  lines := memOrder.map busyLine
  number := busyNumber
  before key := (memOrder.takeWhile (· ≠ key)).map busyLine
  line := busyLine
  after key := ((memOrder.dropWhile (· ≠ key)).drop 1).map busyLine
  split key := by cases key <;> rfl
  named _ := rfl
  others key := by
    have apart : ∀ other ∈ memOrder.takeWhile (· ≠ key) ++ (memOrder.dropWhile (· ≠ key)).drop 1,
      other.name ≠ key.name := by
      cases key <;> decide
    intro line member
    rw [← List.map_append] at member
    obtain ⟨other, listed, rfl⟩ := List.mem_map.mp member
    exact apart other listed
  shown key := ⟨str " ", decimal (busyNumber key), str " kB", rfl, by decide +kernel,
    by cases key <;> decide +kernel, by decide +kernel, by cases key <;> decide +kernel⟩
  word key := by cases key <;> decide
  free_le := by decide
  available_le := by decide
  parts_le := by decide

/-- With a reserve of 32 gigabytes the available memory wraps around. -/
theorem busy_wraps : ¬ busyText.Accounted 32 := by
  intro accounted
  obtain ⟨slots, _, numbers, account⟩ := accounted fun _ => 0
  have listed : (slots .memAvailable, reservedMem (slots .memTotal) 32) ∈ subtractions slots 32 :=
    List.mem_append_right _ List.mem_cons_self
  have covered := account.exact _ listed
  rw [numbers, numbers] at covered
  exact absurd covered (by decide)

end Example

end DbcNode.Util
