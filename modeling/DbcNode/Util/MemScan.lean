import DbcNode.Lib.Digits
import Mathlib.Data.List.TakeWhile

namespace DbcNode.Util

/-- What stands before and behind the first such character of a C string. -/
def strchr (b : UInt8) (text : Bytes) : Option (Bytes × Bytes) :=
  match text.dropWhile (fun c => c ≠ b ∧ c ≠ 0) with
  | [] => none
  | c :: rest => if c = b then some (text.takeWhile (fun c => c ≠ b ∧ c ≠ 0), rest) else none

def strcmp : Bytes → Bytes → Ordering
  | [], [] => .eq
  | [], _ :: _ => .lt
  | _ :: _, [] => .gt
  | a :: as, b :: bs => if a < b then .lt else if b < a then .gt else strcmp as bs

/-- `strtoull` in base 10. -/
def strtoull (text : Bytes) : Nat :=
  match text.dropWhile isBlank with
  | 45 :: rest =>
    let value := digitsValue (rest.takeWhile isDigit)
    if value < 2 ^ 64 then (2 ^ 64 - value) % 2 ^ 64 else 2 ^ 64 - 1
  | 43 :: rest => min (digitsValue (rest.takeWhile isDigit)) (2 ^ 64 - 1)
  | rest => min (digitsValue (rest.takeWhile isDigit)) (2 ^ 64 - 1)

def bsearchLoop {α : Type} (key : Bytes) (table : List (Bytes × α)) : Nat → Nat → Nat → Option α
  | 0, _, _ => none
  | rounds + 1, low, high =>
    if low < high then
      let middle := (low + high) / 2
      match table[middle]? with
      | none => none
      | some entry =>
        match strcmp key entry.1 with
        | .lt => bsearchLoop key table rounds low middle
        | .gt => bsearchLoop key table rounds (middle + 1) high
        | .eq => some entry.2
    else none

def bsearch {α : Type} (key : Bytes) (table : List (Bytes × α)) : Option α :=
  bsearchLoop key table (table.length + 1) 0 table.length

/-- The slots that the table of names points to. -/
inductive MemKey
  | buffers
  | cached
  | memAvailable
  | memFree
  | memTotal
  | sReclaimable
  | shmem
  | swapFree
  | swapTotal
  deriving DecidableEq, Repr

def MemKey.name : MemKey → Bytes
  | .buffers => str "Buffers"
  | .cached => str "Cached"
  | .memAvailable => str "MemAvailable"
  | .memFree => str "MemFree"
  | .memTotal => str "MemTotal"
  | .sReclaimable => str "SReclaimable"
  | .shmem => str "Shmem"
  | .swapFree => str "SwapFree"
  | .swapTotal => str "SwapTotal"

def memTable : List (Bytes × MemKey) :=
  [.buffers, .cached, .memAvailable, .memFree, .memTotal, .sReclaimable, .shmem, .swapFree, .swapTotal].map
    fun key => (MemKey.name key, key)

/-- The values of the slots; those that were never assigned hold what was in
the memory. -/
abbrev MemSlots := MemKey → Nat

/-- A name that has no room in `namebuf` is passed over. -/
def store (name rest : Bytes) (slots : MemSlots) : MemSlots :=
  if name.length ≥ 32 then slots
  else match bsearch name memTable with
    | none => slots
    | some key => fun other => if other = key then strtoull rest else slots other

/-- The loop over the lines, which has no result where it does not end. -/
def scanLoop : Nat → Bytes → MemSlots → Option MemSlots
  | 0, _, _ => none
  | rounds + 1, head, slots =>
    match strchr 58 head with
    | none => some slots
    | some (name, rest) =>
      match strchr 10 rest with
      | none => some (store name rest slots)
      | some (_, next) => scanLoop rounds next (store name rest slots)

/-- What is read of the text: as much as the buffer holds, before its last
byte. -/
def scan (text : Bytes) (slots : MemSlots) : Option MemSlots := scanLoop 8192 (text.take 8191) slots

section Search
variable {α : Type} {key : Bytes} {table : List (Bytes × α)} {value : α}

theorem strcmp_eq {a b : Bytes} (same : strcmp a b = .eq) : a = b := by
  induction a generalizing b with
  | nil =>
    cases b with
    | nil => rfl
    | cons => cases same
  | cons x xs ih =>
    cases b with
    | nil => cases same
    | cons y ys =>
      rw [strcmp] at same
      split at same
      · cases same
      · split at same
        · cases same
        · rename_i notLess notGreater
          rw [ih same, UInt8.le_antisymm (UInt8.not_lt.mp notGreater) (UInt8.not_lt.mp notLess)]

theorem mem_of_bsearchLoop {rounds low high : Nat} (found : bsearchLoop key table rounds low high = some value) :
    (key, value) ∈ table := by
  induction rounds generalizing low high with
  | zero => cases found
  | succ rounds ih =>
    rw [bsearchLoop] at found
    split at found
    · simp only at found
      split at found
      · cases found
      · rename_i entry inside
        split at found
        · exact ih found
        · exact ih found
        · rename_i same
          cases found
          rw [strcmp_eq same]
          exact List.mem_of_getElem? inside
    · cases found

/-- The table is sorted well enough: each of its names is found, and no
other one. -/
theorem bsearch_memTable {name : Bytes} {key : MemKey} : bsearch name memTable = some key ↔ name = key.name := by
  constructor
  · intro found
    have named : ∀ entry ∈ memTable, entry.1 = entry.2.name := by decide
    exact named _ (mem_of_bsearchLoop found)
  · rintro rfl
    cases key <;> decide

theorem store_same (key : MemKey) (rest : Bytes) (slots : MemSlots) :
    store key.name rest slots key = strtoull rest := by
  have short : ¬ key.name.length ≥ 32 := by cases key <;> decide
  simp only [store, if_neg short, bsearch_memTable.mpr rfl, if_true]

theorem store_other {name : Bytes} {key : MemKey} (other : name ≠ key.name) (rest : Bytes) (slots : MemSlots) :
    store name rest slots key = slots key := by
  rw [store]
  split
  · rfl
  · cases found : bsearch name memTable with
    | none => rfl
    | some slot =>
      refine if_neg fun same => other ?_
      rw [same]
      exact bsearch_memTable.mp found

end Search

section Lines

/-- A line of the text: a name, a colon and the rest. -/
structure MemLine where
  name : Bytes
  rest : Bytes
  nameFree : ∀ b ∈ name, b ≠ 58 ∧ b ≠ 10 ∧ b ≠ 0
  restFree : ∀ b ∈ rest, b ≠ 10 ∧ b ≠ 0

def MemLine.bytes (line : MemLine) : Bytes := line.name ++ 58 :: line.rest ++ [10]

theorem MemLine.bytes_length (line : MemLine) : line.bytes.length = line.name.length + line.rest.length + 2 := by
  simp only [bytes, List.length_append, List.length_cons, List.length_nil]
  omega

theorem strchr_none {b : UInt8} {text : Bytes} (apart : ∀ c ∈ text, c ≠ b ∧ c ≠ 0) : strchr b text = none := by
  have all : text.dropWhile (fun c => c ≠ b ∧ c ≠ 0) = [] := List.dropWhile_eq_nil_iff.mpr fun c member => by
    simpa using apart c member
  simp only [strchr, all]

theorem strchr_some {b : UInt8} {text : Bytes} (apart : ∀ c ∈ text, c ≠ b ∧ c ≠ 0) (rest : Bytes) :
    strchr b (text ++ b :: rest) = some (text, rest) := by
  have passes : ∀ c ∈ text, decide (c ≠ b ∧ c ≠ 0) = true := fun c member => decide_eq_true (apart c member)
  have stops : ¬ (fun c : UInt8 => decide (c ≠ b ∧ c ≠ 0)) b = true := by simp
  have dropped : (text ++ b :: rest).dropWhile (fun c => c ≠ b ∧ c ≠ 0) = b :: rest := by
    rw [List.dropWhile_append_of_pos passes,
      List.dropWhile_cons_of_neg (p := fun c => decide (c ≠ b ∧ c ≠ 0)) stops]
  have taken : (text ++ b :: rest).takeWhile (fun c => c ≠ b ∧ c ≠ 0) = text := by
    rw [List.takeWhile_append_of_pos passes,
      List.takeWhile_cons_of_neg (p := fun c => decide (c ≠ b ∧ c ≠ 0)) stops, List.append_nil]
  simp only [strchr, dropped, taken, if_true]

/-- A line of which the colon is not read ends the scan. -/
theorem scanLoop_cut {line : MemLine} {n : Nat} (cut : n ≤ line.name.length) (rounds : Nat) (later : Bytes)
    (slots : MemSlots) :
    scanLoop (rounds + 1) ((line.bytes ++ later).take n) slots = some slots := by
  have part : (line.bytes ++ later).take n = line.name.take n := by
    rw [MemLine.bytes, List.append_assoc, List.append_assoc, List.take_append_of_le_length cut]
  have free : ∀ c ∈ line.name.take n, c ≠ 58 ∧ c ≠ 0 := by
    intro c member
    obtain ⟨colon, _, zero⟩ := line.nameFree c (List.mem_of_mem_take member)
    exact ⟨colon, zero⟩
  rw [part, scanLoop, strchr_none free]

/-- A line whose name is read is stored, with as much of its rest as is
read, and the lines after it are scanned if its end is read. -/
theorem scanLoop_line {line : MemLine} {n : Nat} (reached : line.name.length < n) (rounds : Nat) (later : Bytes)
    (slots : MemSlots) : scanLoop (rounds + 1) ((line.bytes ++ later).take n) slots =
      let stored := store line.name ((line.rest ++ 10 :: later).take (n - line.name.length - 1)) slots
      if n < line.bytes.length then some stored
      else scanLoop rounds (later.take (n - line.bytes.length)) stored := by
  obtain ⟨m, rfl⟩ : ∃ m, n = line.name.length + 1 + m := ⟨n - line.name.length - 1, by omega⟩
  have part : (line.bytes ++ later).take (line.name.length + 1 + m) =
      line.name ++ 58 :: (line.rest ++ 10 :: later).take m := by
    have whole : line.bytes ++ later = (line.name ++ [58]) ++ (line.rest ++ 10 :: later) := by
      simp only [MemLine.bytes, List.append_assoc, List.cons_append, List.nil_append]
    have length : line.name.length + 1 = (line.name ++ [58]).length := by
      rw [List.length_append, List.length_singleton]
    rw [whole, length, List.take_length_add_append, List.append_assoc, List.singleton_append]
  have nameFree : ∀ c ∈ line.name, c ≠ 58 ∧ c ≠ 0 :=
    fun c member => ⟨(line.nameFree c member).1, (line.nameFree c member).2.2⟩
  have budget : line.name.length + 1 + m - line.name.length - 1 = m := by omega
  rw [part, scanLoop, strchr_some nameFree]
  simp only [budget]
  have size := line.bytes_length
  by_cases cut : m ≤ line.rest.length
  · have free : ∀ c ∈ line.rest.take m, c ≠ 10 ∧ c ≠ 0 :=
      fun c member => line.restFree c (List.mem_of_mem_take member)
    rw [List.take_append_of_le_length cut, strchr_none free, if_pos (by omega)]
  · have whole : (line.rest ++ 10 :: later).take m = line.rest ++ 10 :: later.take (m - line.rest.length - 1) := by
      obtain ⟨k, rfl⟩ : ∃ k, m = line.rest.length + (k + 1) := ⟨m - line.rest.length - 1, by omega⟩
      rw [List.take_length_add_append, List.take_succ_cons]
      congr 3
      omega
    have left : line.name.length + 1 + m - line.bytes.length = m - line.rest.length - 1 := by omega
    rw [whole, strchr_some line.restFree, if_neg (by omega), left]

end Lines

end DbcNode.Util
