import DbcNode.Lib.Bytes
import DbcNode.Lib.Lru

namespace DbcNode

/-- `CRollingBloomFilter`, by the calls that are made on it. -/
structure Bloom where
  State : Type
  fresh : State
  insert : Bytes → State → State
  contains : Bytes → State → Bool

/-- A filter that is always full, which leaves the decision to the cache. -/
def Bloom.blank : Bloom := ⟨Unit, (), fun _ _ => (), fun _ _ => true⟩

/-- The size that every filter of a node is made with. -/
def filterElements : Nat := 1000000

/-- `bloomlru_filter`. The keys of its cache stand in the order of their
last insertion, the newest first. -/
structure NonceFilter (B : Bloom) where
  bloom : B.State
  keys : List Bytes

namespace NonceFilter
variable {B : Bloom}

def fresh : NonceFilter B := ⟨B.fresh, []⟩

/-- `lru::Cache::insert`: a known key moves to the front, and a new one may
push the oldest out. -/
def touch (key : Bytes) (keys : List Bytes) : List Bytes :=
  if key ∈ keys then key :: keys.erase key else (key :: keys).take filterElements

def insert (nonce : Bytes) (f : NonceFilter B) : NonceFilter B :=
  if nonce = [] then f else ⟨B.insert nonce f.bloom, touch nonce f.keys⟩

/-- A nonce that is not there yet goes in. -/
def contains (nonce : Bytes) (f : NonceFilter B) : Bool × NonceFilter B :=
  if nonce = [] then (false, f)
  else if B.contains nonce f.bloom = false then (false, f.insert nonce)
  else if nonce ∈ f.keys then (true, f)
  else (false, f.insert nonce)

end NonceFilter

/-- What `CRollingBloomFilter` promises: the last `nElements` insertions are
found. The log has the last insertion first. -/
def Bloom.Lasting (B : Bloom) : Prop :=
  ∀ (log : List Bytes) (key : Bytes), key ∈ log.take filterElements →
    B.contains key (log.foldr B.insert B.fresh) = true

namespace NonceFilter
variable {B : Bloom} {f : NonceFilter B} {log : List Bytes} {nonce : Bytes}

/-- The filter after these insertions, the last one first. A key is no
deeper in the cache than in the log. -/
structure Logs (f : NonceFilter B) (log : List Bytes) : Prop where
  bloom : f.bloom = log.foldr B.insert B.fresh
  recalls : ∀ n ≤ filterElements, ∀ key ∈ log.take n, key ∈ f.keys.take n
  known : ∀ key ∈ f.keys, key ∈ log

theorem Logs.fresh : (NonceFilter.fresh : NonceFilter B).Logs [] := by
  refine ⟨rfl, ?_, ?_⟩
  · intro n _ key member
    rw [List.take_nil] at member
    cases member
  · intro key member
    cases member

theorem touch_eq (key : Bytes) (keys : List Bytes) : touch key keys = Lru.insert filterElements key keys := by
  unfold touch Lru.insert Lru.prune
  split
  · rfl
  split
  · rename_i few
    rw [List.take_of_length_le (few.resolve_left (by decide)).le]
  · rfl

theorem Logs.insert (logs : f.Logs log) (some : nonce ≠ []) : (f.insert nonce).Logs (nonce :: log) := by
  have cache : Lru.Logs filterElements f.keys log :=
    ⟨fun n within => logs.recalls n (within.resolve_left (by decide)), logs.known⟩
  have after := cache.insert nonce
  rw [← touch_eq] at after
  rw [NonceFilter.insert, if_neg some]
  exact ⟨by rw [List.foldr_cons, ← logs.bloom], fun n within => after.recalls n (Or.inr within), after.known⟩

/-- What a look-up does: an empty nonce is not there, a known one changes
nothing, and another one goes in. -/
theorem contains_cases (nonce : Bytes) (f : NonceFilter B) :
    (nonce = [] ∧ f.contains nonce = (false, f)) ∨ (nonce ∈ f.keys ∧ f.contains nonce = (true, f)) ∨
      (nonce ≠ [] ∧ f.contains nonce = (false, f.insert nonce)) := by
  rw [contains]
  split
  · rename_i empty
    exact Or.inl ⟨empty, rfl⟩
  rename_i some
  split
  · exact Or.inr (Or.inr ⟨some, rfl⟩)
  split
  · rename_i member
    exact Or.inr (Or.inl ⟨member, rfl⟩)
  · exact Or.inr (Or.inr ⟨some, rfl⟩)

/-- A nonce among the last insertions is found. -/
theorem Logs.contains (logs : f.Logs log) (lasting : B.Lasting) (some : nonce ≠ [])
    (recent : nonce ∈ log.take filterElements) : f.contains nonce = (true, f) := by
  have cached := List.mem_of_mem_take (logs.recalls filterElements (Nat.le_refl _) nonce recent)
  have found : ¬ B.contains nonce f.bloom = false := by
    rw [logs.bloom, lasting log nonce recent]
    simp
  rw [NonceFilter.contains, if_neg some, if_neg found, if_pos cached]

end NonceFilter

end DbcNode
