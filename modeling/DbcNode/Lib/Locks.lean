import Mathlib.Tactic
import Mathlib.Logic.Relation

namespace DbcNode

inductive LockMode
  | read
  | write
  deriving DecidableEq

/-- Only readers share a lock. -/
def LockMode.conflicts : LockMode → LockMode → Bool
  | .read, .read => false
  | _, _ => true

/-- What a thread does with locks, on shared data. What comes after a step
depends on the data at that step, and what was changed under a lock is there
when it is released. -/
inductive Script (lock σ : Type)
  | done
  | acquire (l : lock) (mode : LockMode) (next : σ → Script lock σ)
  | release (l : lock) (change : σ → σ) (next : σ → Script lock σ)

structure Hold (τ lock : Type) where
  thread : τ
  lock : lock
  mode : LockMode
  deriving DecidableEq

/-- Threads that run their scripts on shared data, and the locks that they
hold. -/
structure Threads (τ lock σ : Type) where
  data : σ
  holds : List (Hold τ lock)
  script : τ → Script lock σ

namespace Script
variable {lock σ : Type}

/-- The lock that comes next. -/
def wants : Script lock σ → Option (lock × LockMode)
  | acquire l mode _ => some (l, mode)
  | _ => none

def isDone : Script lock σ → Bool
  | done => true
  | _ => false

/-- The data and the rest of the script after the next step. -/
def after (data : σ) : Script lock σ → σ × Script lock σ
  | done => (data, done)
  | acquire _ _ next => (data, next data)
  | release _ change next => (change data, next (change data))

variable [DecidableEq lock]

/-- The locks that a thread holds after the next step. -/
def heldAfter (held : List (lock × LockMode)) : Script lock σ → List (lock × LockMode)
  | done => held
  | acquire l mode _ => (l, mode) :: held
  | release l _ _ => held.filter (·.1 ≠ l)

/-- On whatever data, each lock is taken only under locks that it may be
taken under, and at the end all are released. -/
def Respects (allowed : lock × LockMode → lock × LockMode → Prop) : List (lock × LockMode) → Script lock σ → Prop
  | held, done => held = []
  | held, acquire l mode next => (∀ h ∈ held, allowed h (l, mode)) ∧
      ∀ data, Respects allowed ((l, mode) :: held) (next data)
  | held, release l _ next => ∀ data, Respects allowed (held.filter (·.1 ≠ l)) (next data)

theorem Respects.after {allowed : lock × LockMode → lock × LockMode → Prop} {held : List (lock × LockMode)}
    {script : Script lock σ} (respects : script.Respects allowed held) (data : σ) :
    (script.after data).2.Respects allowed (script.heldAfter held) := by
  cases script with
  | done => exact respects
  | acquire l mode next => exact respects.2 data
  | release l change next => exact respects (change data)

theorem Respects.wants {allowed : lock × LockMode → lock × LockMode → Prop} {held : List (lock × LockMode)}
    {script : Script lock σ} (respects : script.Respects allowed held) {wanted : lock × LockMode}
    (wants : script.wants = some wanted) : ∀ h ∈ held, allowed h wanted := by
  cases script with
  | done => cases wants
  | acquire l mode next =>
    cases wants
    exact respects.1
  | release l change next => cases wants

end Script

namespace Threads
variable {τ lock σ : Type} [DecidableEq τ] [DecidableEq lock]

def isFree (s : Threads τ lock σ) (l : lock) (mode : LockMode) : Bool :=
  s.holds.all (fun h => h.lock ≠ l || !h.mode.conflicts mode)

/-- The locks of a thread, the last one first. -/
def heldBy (s : Threads τ lock σ) (t : τ) : List (lock × LockMode) :=
  (s.holds.filter (·.thread = t)).map (fun h => (h.lock, h.mode))

/-- A thread that has nothing to do is given a script. -/
def start (t : τ) (script : Script lock σ) (s : Threads τ lock σ) : Option (Threads τ lock σ) :=
  if (s.script t).isDone then some { s with script := Function.update s.script t script } else none

/-- The next step of a thread. It waits for a lock that is not free. -/
def act (t : τ) (s : Threads τ lock σ) : Option (Threads τ lock σ) :=
  let (data, rest) := (s.script t).after s.data
  match s.script t with
  | .done => none
  | .acquire l mode _ =>
    if s.isFree l mode then some ⟨data, ⟨t, l, mode⟩ :: s.holds, Function.update s.script t rest⟩ else none
  | .release l _ _ =>
    some ⟨data, s.holds.filter (fun h => ¬ (h.thread = t ∧ h.lock = l)), Function.update s.script t rest⟩

/-- The one thread waits for a lock that the other one holds. -/
def WaitsFor (s : Threads τ lock σ) (t u : τ) : Prop :=
  ∃ l mode, (s.script t).wants = some (l, mode) ∧ ∃ h ∈ s.holds, h.thread = u ∧ h.lock = l ∧
    h.mode.conflicts mode = true

/-- A cycle of threads, each of which waits for a lock that the next one
holds. -/
def Circular (s : Threads τ lock σ) : Prop := ∃ t, Relation.TransGen s.WaitsFor t t

/-- A thread is between two locks: it holds the one and wants the other. -/
def Between (s : Threads τ lock σ) (held wanted : lock) (t : τ) : Prop :=
  (∃ mode, (held, mode) ∈ s.heldBy t) ∧ ∃ mode, (s.script t).wants = some (wanted, mode)

def between (s : Threads τ lock σ) (held wanted : lock) : Bool :=
  s.holds.any (fun h => h.lock = held ∧ (s.script h.thread).wants.map (·.1) = some wanted)

/-- With its next step a thread comes between two locks. -/
def comesBetween (s : Threads τ lock σ) (held wanted : lock) (t : τ) : Bool :=
  ((s.script t).heldAfter (s.heldBy t)).any (·.1 = held) && ((s.script t).after s.data).2.wants.map
    (·.1) = some wanted

/-- Each thread takes its locks in an allowed order, now and from here
on. -/
def Ordered (allowed : lock × LockMode → lock × LockMode → Prop) (s : Threads τ lock σ) : Prop :=
  ∀ t, (s.script t).Respects allowed (s.heldBy t)

variable {s s' : Threads τ lock σ} {allowed : lock × LockMode → lock × LockMode → Prop}

omit [DecidableEq lock] in
theorem mem_heldBy {t : τ} {l : lock} {mode : LockMode} : (l, mode) ∈ s.heldBy t ↔ ⟨t, l, mode⟩ ∈ s.holds := by
  unfold heldBy
  constructor
  · intro member
    obtain ⟨⟨thread, lock, mode⟩, inside, same⟩ := List.mem_map.mp member
    obtain ⟨inside, here⟩ := List.mem_filter.mp inside
    cases same
    have here : thread = t := by simpa using here
    rwa [here] at inside
  · intro inside
    exact List.mem_map.mpr ⟨_, List.mem_filter.mpr ⟨inside, by simp⟩, rfl⟩

theorem between_iff {held wanted : lock} : s.between held wanted = true ↔ ∃ t, s.Between held wanted t := by
  unfold between
  rw [List.any_eq_true]
  constructor
  · rintro ⟨⟨t, l, mode⟩, member, both⟩
    obtain ⟨rfl, next⟩ := of_decide_eq_true both
    obtain ⟨⟨_, other⟩, wants, rfl⟩ := Option.map_eq_some_iff.mp next
    exact ⟨t, ⟨mode, mem_heldBy.mpr member⟩, other, wants⟩
  · rintro ⟨t, ⟨mode, held⟩, other, wants⟩
    exact ⟨_, mem_heldBy.mp held, decide_eq_true ⟨rfl, by rw [wants]; rfl⟩⟩

/-- What a step of a thread changes. -/
theorem act_eq {t : τ} (ran : s.act t = some s') :
    s'.data = ((s.script t).after s.data).1 ∧ s'.script = Function.update s.script t ((s.script t).after s.data).2 ∧
      s'.heldBy t = (s.script t).heldAfter (s.heldBy t) ∧ ∀ u ≠ t, s'.heldBy u = s.heldBy u := by
  unfold act at ran
  dsimp only at ran
  split at ran
  · cases ran
  · rename_i l mode next script
    split at ran
    · cases ran
      refine ⟨rfl, rfl, ?_, fun u other => ?_⟩
      · rw [script]
        simp [heldBy, Script.heldAfter]
      · simp [heldBy, Ne.symm other]
    · cases ran
  · rename_i l change next script
    cases ran
    refine ⟨rfl, rfl, ?_, fun u other => ?_⟩
    · rw [script, Script.heldAfter]
      unfold heldBy
      rw [List.filter_filter, List.filter_map, List.filter_filter]
      refine congrArg _ (List.filter_congr (fun h _ => ?_))
      by_cases here : h.thread = t <;> simp [here]
    · unfold heldBy
      rw [List.filter_filter]
      refine congrArg _ (List.filter_congr (fun h _ => ?_))
      by_cases here : h.thread = u
      · simp [here, other]
      · simp [here]

omit [DecidableEq lock] in
theorem start_eq {t : τ} {script : Script lock σ} (ran : s.start t script = some s') :
    s.script t = .done ∧ s' = { s with script := Function.update s.script t script } := by
  unfold start at ran
  split at ran
  · rename_i idle
    cases ran
    refine ⟨?_, rfl⟩
    cases held : s.script t with
    | done => rfl
    | acquire | release =>
      rw [held] at idle
      cases idle
  · cases ran

theorem comesBetween_iff {held wanted : lock} {t : τ} (ran : s.act t = some s') :
    s.comesBetween held wanted t = true ↔ s'.Between held wanted t := by
  obtain ⟨-, script, own, -⟩ := act_eq ran
  unfold comesBetween Between
  rw [script, Function.update_self, own, Bool.and_eq_true, List.any_eq_true, decide_eq_true_eq,
    Option.map_eq_some_iff]
  constructor
  · rintro ⟨⟨⟨l, mode⟩, member, same⟩, ⟨l', mode'⟩, wants, rfl⟩
    cases of_decide_eq_true same
    exact ⟨⟨mode, member⟩, mode', wants⟩
  · rintro ⟨⟨mode, member⟩, mode', wants⟩
    exact ⟨⟨_, member, decide_eq_true rfl⟩, _, wants, rfl⟩

/-- A step moves no other thread. -/
theorem between_of_ne {held wanted : lock} {t u : τ} (ran : s.act t = some s') (other : u ≠ t) :
    s'.Between held wanted u ↔ s.Between held wanted u := by
  obtain ⟨-, script, -, others⟩ := act_eq ran
  unfold Between
  rw [script, Function.update_of_ne other, others u other]

/-- A thread that was between two locks has both after its step. -/
theorem Between.holds {held wanted : lock} {t : τ} (between : s.Between held wanted t) (ran : s.act t = some s') :
    ∃ mode, (held, mode) ∈ s'.heldBy t := by
  obtain ⟨-, -, own, -⟩ := act_eq ran
  obtain ⟨⟨mode, member⟩, mode', wants⟩ := between
  refine ⟨mode, ?_⟩
  rw [own]
  cases script : s.script t with
  | done | release =>
    rw [script] at wants
    cases wants
  | acquire l m next => exact List.mem_cons_of_mem _ member

theorem Ordered.act (ordered : s.Ordered allowed) {t : τ} (ran : s.act t = some s') : s'.Ordered allowed := by
  obtain ⟨-, script, own, others⟩ := act_eq ran
  intro u
  rw [script]
  by_cases same : u = t
  · subst same
    rw [Function.update_self, own]
    exact (ordered u).after s.data
  · rw [Function.update_of_ne same, others u same]
    exact ordered u

/-- A thread without a script holds nothing. -/
theorem Ordered.idle (ordered : s.Ordered allowed) {t : τ} (idle : s.script t = .done) : s.heldBy t = [] := by
  have respects := ordered t
  rw [idle] at respects
  exact respects

theorem Ordered.start (ordered : s.Ordered allowed) {t : τ} {script : Script lock σ}
    (respects : script.Respects allowed []) (ran : s.start t script = some s') : s'.Ordered allowed := by
  obtain ⟨idle, rfl⟩ := start_eq ran
  intro u
  change (Function.update s.script t script u).Respects allowed (s.heldBy u)
  by_cases same : u = t
  · subst same
    rw [Function.update_self, ordered.idle idle]
    exact respects
  · rw [Function.update_of_ne same]
    exact ordered u

omit [DecidableEq lock] in
/-- Along a chain of waiting threads the locks do not get lower. -/
theorem rank_of_chain {rank : lock → Nat}
    (lower : ∀ t wanted, (s.script t).wants = some wanted → ∀ h ∈ s.heldBy t, rank h.1 < rank wanted.1)
    {t u : τ} (chain : Relation.TransGen s.WaitsFor t u) {wanted : lock × LockMode}
    (wants : (s.script t).wants = some wanted) :
    ∃ h ∈ s.heldBy u, rank wanted.1 ≤ rank h.1 := by
  induction chain with
  | single waits =>
    obtain ⟨l, mode, same, ⟨_, _, other⟩, member, rfl, rfl, -⟩ := waits
    rw [wants] at same
    cases same
    exact ⟨_, mem_heldBy.mpr member, le_rfl⟩
  | tail _ waits ih =>
    obtain ⟨h, held, above⟩ := ih
    obtain ⟨l, mode, next, ⟨_, _, other⟩, member, rfl, rfl, -⟩ := waits
    exact ⟨_, mem_heldBy.mpr member, above.trans (lower _ _ next h held).le⟩

omit [DecidableEq lock] in
/-- Where each waiting thread waits for a higher lock than it holds, there
is no cycle. -/
theorem not_circular (rank : lock → Nat)
    (lower : ∀ t wanted, (s.script t).wants = some wanted → ∀ h ∈ s.heldBy t, rank h.1 < rank wanted.1) :
    ¬ s.Circular := by
  rintro ⟨t, chain⟩
  obtain ⟨u, first, -⟩ := Relation.TransGen.head'_iff.mp chain
  obtain ⟨l, mode, wants, -⟩ := first
  obtain ⟨h, held, above⟩ := rank_of_chain lower chain wants
  exact absurd (lower t _ wants h held) (by omega)

omit [DecidableEq τ] [DecidableEq lock] in
/-- Two threads that each wait for a lock of the other. -/
theorem Circular.of_two {t u : τ} (there : s.WaitsFor t u) (back : s.WaitsFor u t) : s.Circular :=
  ⟨t, .tail (.single there) back⟩

end Threads

section Tally
variable {τ φ : Type} [Fintype τ]

/-- How many threads are in a phase of some kind. -/
def tally (kind : φ → Bool) (phase : τ → φ) : Nat := (Finset.univ.filter (fun t => kind (phase t) = true)).card

variable {kind : φ → Bool} {phase other : τ → φ}

theorem tally_le_card (kind : φ → Bool) (phase : τ → φ) : tally kind phase ≤ Fintype.card τ := Finset.card_le_univ _

theorem tally_congr (same : ∀ t, kind (phase t) = kind (other t)) : tally kind phase = tally kind other := by
  simp only [tally, same]

theorem tally_pos_iff : 0 < tally kind phase ↔ ∃ t, kind (phase t) = true := by
  simp only [tally, Finset.card_pos, Finset.Nonempty, Finset.mem_filter, Finset.mem_univ, true_and]

theorem tally_eq_zero_iff : tally kind phase = 0 ↔ ∀ t, kind (phase t) = false := by
  simp only [tally, Finset.card_eq_zero, Finset.filter_eq_empty_iff, Finset.mem_univ, true_implies,
    Bool.not_eq_true]

theorem eq_of_tally_le_one (single : tally kind phase ≤ 1) {a b : τ} (first : kind (phase a) = true)
    (second : kind (phase b) = true) : a = b :=
  Finset.card_le_one.mp single a (by simpa using first) b (by simpa using second)

theorem tally_mono (part : ∀ t, kind (phase t) = true → kind (other t) = true) :
    tally kind phase ≤ tally kind other :=
  Finset.card_le_card fun t member => by simpa using part t (by simpa using member)

theorem tally_or {one two : φ → Bool} (apart : ∀ x, one x = true → two x = false) (phase : τ → φ) :
    tally (fun x => one x || two x) phase = tally one phase + tally two phase := by
  classical
  have disjoint : Disjoint (Finset.univ.filter fun t => one (phase t) = true)
      (Finset.univ.filter fun t => two (phase t) = true) := by
    refine Finset.disjoint_filter.mpr fun t _ first second => ?_
    rw [apart _ first] at second
    cases second
  rw [tally, tally, tally, ← Finset.card_union_of_disjoint disjoint, ← Finset.filter_or]
  simp only [Bool.or_eq_true]

/-- One thread goes from its phase to another one. -/
theorem tally_update [DecidableEq τ] (kind : φ → Bool) (phase : τ → φ) (t : τ) (new : φ) :
    tally kind (Function.update phase t new) + (kind (phase t)).toNat = tally kind phase + (kind new).toNat := by
  have others : ((Finset.univ.erase t).filter (fun u => kind (Function.update phase t new u) = true)) =
      (Finset.univ.erase t).filter (fun u => kind (phase u) = true) := by
    refine Finset.filter_congr fun u member => ?_
    rw [Function.update_of_ne (Finset.ne_of_mem_erase member)]
  have split : ∀ (phase : τ → φ), tally kind phase =
      ((Finset.univ.erase t).filter (fun u => kind (phase u) = true)).card + (kind (phase t)).toNat := by
    intro phase
    rw [tally, ← Finset.insert_erase (Finset.mem_univ t), Finset.filter_insert,
      Finset.erase_insert (Finset.notMem_erase _ _)]
    cases here : kind (phase t) with
    | true => rw [if_pos rfl, Finset.card_insert_of_notMem (by simp)]; rfl
    | false => rw [if_neg Bool.false_ne_true]; rfl
  rw [split, split phase, others, Function.update_self]
  omega

end Tally

end DbcNode
