import DbcNode.Filter.RollingBloom
import DbcNode.Lib.Lru
import DbcNode.NonceFilter

namespace DbcNode

/-- `bloomlru_filter` of any size. The keys of its cache stand in the order
of their last insertion, the newest first. -/
structure BloomLru (B : Bloom) where
  bloom : B.State
  keys : List Bytes

inductive FilterCall
  | insert (str : Bytes)
  | contains (str : Bytes)
  deriving DecidableEq, Repr

namespace BloomLru
variable {B : Bloom}

def fresh : BloomLru B := ⟨B.fresh, []⟩

def insert (elements : Nat) (str : Bytes) (f : BloomLru B) : BloomLru B :=
  if str = [] then f else ⟨B.insert str f.bloom, Lru.insert elements str f.keys⟩

/-- A string that is not there yet goes in. -/
def contains (elements : Nat) (str : Bytes) (f : BloomLru B) : Bool × BloomLru B :=
  if str = [] then (false, f)
  else if B.contains str f.bloom = false then (false, f.insert elements str)
  else if str ∈ f.keys then (true, f)
  else (false, f.insert elements str)

def call (elements : Nat) (f : BloomLru B) : FilterCall → BloomLru B
  | .insert str => f.insert elements str
  | .contains str => (f.contains elements str).2

def run (elements : Nat) (calls : List FilterCall) (f : BloomLru B) : BloomLru B := calls.foldl (call elements) f

/-- The answers of the look-ups among some calls, in their order. -/
def answers (elements : Nat) : List FilterCall → BloomLru B → List Bool
  | [], _ => []
  | .insert str :: rest, f => answers elements rest (f.insert elements str)
  | .contains str :: rest, f =>
    (f.contains elements str).1 :: answers elements rest (f.contains elements str).2

/-- Whether a call inserts its string: an insertion, or a look-up that
answers no. -/
def inserts (elements : Nat) (f : BloomLru B) : FilterCall → Option Bytes
  | .insert str => if str = [] then none else some str
  | .contains str => if str = [] ∨ (f.contains elements str).1 then none else some str

/-- The strings of the inserting calls in some calls, the last one first,
after those of a log. -/
def inserted (elements : Nat) : List FilterCall → BloomLru B → List Bytes → List Bytes
  | [], _, log => log
  | next :: rest, f, log =>
    inserted elements rest (f.call elements next) ((f.inserts elements next).toList ++ log)

/-- The filter after these insertions, the last one first. -/
structure Logs (elements : Nat) (f : BloomLru B) (log : List Bytes) : Prop where
  bloom : f.bloom = log.foldr B.insert B.fresh
  cache : Lru.Logs elements f.keys log
  proper : ∀ str ∈ log, str ≠ []

variable {elements : Nat} {f : BloomLru B} {log : List Bytes} {str : Bytes}

theorem Logs.fresh : (BloomLru.fresh : BloomLru B).Logs elements [] := by
  refine ⟨rfl, Lru.Logs.nil elements, ?_⟩
  intro str member
  cases member

theorem Logs.insert (logs : f.Logs elements log) (some : str ≠ []) :
    (f.insert elements str).Logs elements (str :: log) := by
  rw [BloomLru.insert, if_neg some]
  refine ⟨?_, logs.cache.insert str, ?_⟩
  · rw [List.foldr_cons, ← logs.bloom]
  · intro other member
    rcases List.mem_cons.mp member with rfl | later
    · exact some
    · exact logs.proper other later

/-- What a look-up does: it answers yes for a string of the cache and then
changes nothing, or it answers no and a string that is not empty goes in. -/
theorem contains_cases (elements : Nat) (str : Bytes) (f : BloomLru B) :
    (str = [] ∧ f.contains elements str = (false, f)) ∨ (str ∈ f.keys ∧ f.contains elements str = (true, f)) ∨
      (str ≠ [] ∧ f.contains elements str = (false, f.insert elements str)) := by
  rw [contains]
  split
  · rename_i empty
    exact Or.inl ⟨empty, rfl⟩
  rename_i some
  split
  · exact Or.inr (Or.inr ⟨some, rfl⟩)
  split
  · rename_i member
    exact Or.inr (Or.inl ⟨member, rfl⟩)
  · exact Or.inr (Or.inr ⟨some, rfl⟩)

/-- A look-up that answers yes has no effect. -/
theorem contains_true (found : (f.contains elements str).1 = true) :
    str ∈ f.keys ∧ (f.contains elements str).2 = f := by
  rcases contains_cases elements str f with ⟨_, no⟩ | ⟨member, yes⟩ | ⟨_, no⟩
  · rw [no] at found
    cases found
  · exact ⟨member, by rw [yes]⟩
  · rw [no] at found
    cases found

/-- One call, by what it inserts. -/
theorem Logs.call (logs : f.Logs elements log) (next : FilterCall) :
    (f.call elements next).Logs elements ((f.inserts elements next).toList ++ log) := by
  cases next with
  | insert str =>
    by_cases empty : str = []
    · simpa [BloomLru.call, inserts, BloomLru.insert, empty] using logs
    · simpa [BloomLru.call, inserts, empty] using logs.insert empty
  | contains str =>
    rcases contains_cases elements str f with ⟨rfl, no⟩ | ⟨member, yes⟩ | ⟨some, no⟩
    · simpa [BloomLru.call, inserts, no] using logs
    · simpa [BloomLru.call, inserts, yes] using logs
    · simpa [BloomLru.call, inserts, no, some] using logs.insert some

theorem Logs.run (calls : List FilterCall) {f : BloomLru B} {log : List Bytes} (logs : f.Logs elements log) :
    (f.run elements calls).Logs elements (inserted elements calls f log) := by
  induction calls generalizing f log with
  | nil => exact logs
  | cons next rest ih => exact ih (logs.call next)

/-- A string that is in the cache was inserted. -/
theorem Logs.inserted_of_contains (logs : f.Logs elements log) (found : (f.contains elements str).1 = true) :
    str ∈ log := logs.cache.known str (contains_true found).1

/-- A string among the last insertions is found. -/
theorem Logs.contains_recent (logs : f.Logs elements log) (finds : B.Finds elements)
    (recent : str ∈ log.take elements) : (f.contains elements str).1 = true := by
  have cached := List.mem_of_mem_take (logs.cache.recalls elements (Or.inr (Nat.le_refl elements)) str recent)
  have some := logs.proper str (List.mem_of_mem_take recent)
  have there : ¬ B.contains str f.bloom = false := by
    rw [logs.bloom, finds log str recent]
    simp
  rw [BloomLru.contains, if_neg some, if_neg there, if_pos cached]

/-- After any calls on a new filter a look-up answers yes only for a string
of an inserting call, it answers yes for one with fewer than `elements`
inserting calls after it, and where it answers yes it leaves the later
answers as they are. -/
theorem dedup_exact (finds : B.Finds elements) (calls : List FilterCall) (str : Bytes) :
    let f : BloomLru B := fresh.run elements calls
    let log := inserted elements calls (fresh : BloomLru B) []
    ((f.contains elements str).1 = true → str ∈ log) ∧
    (∀ later earlier, log = later ++ str :: earlier → later.length < elements →
      (f.contains elements str).1 = true) ∧
    ((f.contains elements str).1 = true →
      ∀ rest, answers elements rest (f.contains elements str).2 = answers elements rest f) := by
  intro f log
  have logs : f.Logs elements log := Logs.run calls Logs.fresh
  refine ⟨logs.inserted_of_contains, ?_, ?_⟩
  · intro later earlier split few
    refine logs.contains_recent finds ?_
    rw [split, List.take_append]
    have room : elements - later.length = (elements - later.length - 1) + 1 := by omega
    rw [room, List.take_succ_cons]
    simp
  · intro found rest
    rw [(contains_true found).2]

/-- Two insertions and a look-up of the first in a filter for two
elements. -/
theorem dedup_exact_two :
    (((fresh : BloomLru (RollingConf.bloom ⟨2, 1, 2, fun _ key => key.length.toUInt32⟩)).run 2
      [.insert [1], .contains [2, 2]]).contains 2 [1]).1 = true := by
  have finds := RollingConf.finds ⟨2, 1, 2, fun _ key => key.length.toUInt32⟩ (by decide) (by decide)
  exact (dedup_exact finds [.insert [1], .contains [2, 2]] [1]).2.1 [[2, 2]] [] (by decide) (by decide)

end BloomLru

/-- The filter of nonces is one of `filterElements` elements. -/
def NonceFilter.sized {B : Bloom} (f : NonceFilter B) : BloomLru B := ⟨f.bloom, f.keys⟩

namespace NonceFilter
variable {B : Bloom}

theorem insert_sized (nonce : Bytes) (f : NonceFilter B) :
    (f.insert nonce).sized = f.sized.insert filterElements nonce := by
  rw [NonceFilter.insert, BloomLru.insert]
  split
  · rfl
  · simp only [sized, touch_eq]

theorem contains_sized (nonce : Bytes) (f : NonceFilter B) :
    ((f.contains nonce).1, (f.contains nonce).2.sized) = f.sized.contains filterElements nonce := by
  rw [NonceFilter.contains, BloomLru.contains, ← insert_sized]
  change _ = if nonce = [] then (false, f.sized) else if B.contains nonce f.bloom = false then
    (false, (f.insert nonce).sized) else if nonce ∈ f.keys then (true, f.sized) else (false, (f.insert nonce).sized)
  split_ifs <;> rfl

end NonceFilter

end DbcNode
