import Mathlib.Tactic

namespace DbcNode
variable {ε α β : Type}

theorem ok_bind (a : α) (next : α → Except ε β) : (Except.ok a >>= next) = next a := rfl

theorem error_bind (e : ε) (next : α → Except ε β) : (Except.error e >>= next) = .error e := rfl

/-- A sequence of fallible calls returns where each of them does. -/
theorem except_bind_ok {first : Except ε α} {rest : α → Except ε β} {b : β} :
    (first >>= rest) = .ok b ↔ ∃ a, first = .ok a ∧ rest a = .ok b := by
  cases first with
  | error e => simp [bind, Except.bind]
  | ok a => simp [bind, Except.bind]

end DbcNode

namespace DbcNode

/-- How a call can end other than by returning: an exception that a handler
may stop, an assertion that is false, or a loop that never ends. -/
inductive Stop (ε : Type)
  | thrown (e : ε)
  | asserted
  | diverged
  deriving DecidableEq, Repr

/-- A stateful call. The state survives every way of ending, so what an
exception leaves behind in an object is still there for the next call. -/
def Prog (ε σ α : Type) := σ → Except (Stop ε) α × σ

namespace Prog
variable {ε σ α β γ : Type}

instance : Monad (Prog ε σ) where
  pure a := fun s => (.ok a, s)
  bind m f := fun s =>
    match m s with
    | (.ok a, t) => f a t
    | (.error e, t) => (.error e, t)

def stop (e : Stop ε) : Prog ε σ α := fun s => (.error e, s)

def throwing (e : ε) : Prog ε σ α := stop (.thrown e)

/-- An assertion of the source; when it is false the process ends there. -/
def check (p : Bool) : Prog ε σ Unit := if p then pure () else stop .asserted

def fetch (f : σ → α) : Prog ε σ α := fun s => (.ok (f s), s)

def update (f : σ → σ) : Prog ε σ Unit := fun s => (.ok (), f s)

/-- A counted loop over an accumulator. -/
def iterate : Nat → (β → Prog ε σ β) → β → Prog ε σ β
  | 0, _, b => pure b
  | n + 1, step, b => do iterate n step (← step b)

/-- A loop that only its body can leave. Running out of rounds is
divergence, never a result. -/
def loop : Nat → (β → Prog ε σ (β ⊕ γ)) → β → Prog ε σ γ
  | 0, _, _ => stop .diverged
  | n + 1, body, b => do
    match ← body b with
    | .inl next => loop n body next
    | .inr result => pure result

@[simp] theorem pure_run (a : α) (s : σ) : (pure a : Prog ε σ α) s = (.ok a, s) := rfl

@[simp] theorem stop_run (e : Stop ε) (s : σ) : (stop e : Prog ε σ α) s = (.error e, s) := rfl

@[simp] theorem throwing_run (e : ε) (s : σ) :
    (throwing e : Prog ε σ α) s = (.error (.thrown e), s) := rfl

@[simp] theorem fetch_run (f : σ → α) (s : σ) : (fetch f : Prog ε σ α) s = (.ok (f s), s) := rfl

@[simp] theorem update_run (f : σ → σ) (s : σ) : (update f : Prog ε σ Unit) s = (.ok (), f s) := rfl

theorem bind_ok {m : Prog ε σ α} {f : α → Prog ε σ β} {s t : σ} {a : α}
    (run : m s = (.ok a, t)) : (m >>= f) s = f a t := by
  change (match m s with | (.ok a, t) => f a t | (.error e, t) => (.error e, t)) = _
  rw [run]

theorem bind_error {m : Prog ε σ α} {f : α → Prog ε σ β} {s t : σ} {e : Stop ε}
    (run : m s = (.error e, t)) : (m >>= f) s = (.error e, t) := by
  change (match m s with | (.ok a, t) => f a t | (.error e, t) => (.error e, t)) = _
  rw [run]

/-- Every end of a sequence is an end of its first part or of its second. -/
theorem bind_cases {m : Prog ε σ α} {f : α → Prog ε σ β} {s t : σ} {r : Except (Stop ε) β}
    (run : (m >>= f) s = (r, t)) :
    (∃ a u, m s = (.ok a, u) ∧ f a u = (r, t)) ∨ (∃ e, m s = (.error e, t) ∧ r = .error e) := by
  cases first : m s with
  | mk result u =>
    cases result with
    | ok a => exact Or.inl ⟨a, u, rfl, (bind_ok first).symm.trans run⟩
    | error e =>
      have same := (bind_error (f := f) first).symm.trans run
      cases same
      exact Or.inr ⟨e, rfl, rfl⟩

theorem ends {m : Prog ε σ α} {s : σ} {r : Except (Stop ε) α} (result : (m s).1 = r) : ∃ t, m s = (r, t) :=
  ⟨(m s).2, by rw [← result]⟩

instance : LawfulMonad (Prog ε σ) := LawfulMonad.mk' _
  (by
    intro α m
    funext s
    change (match m s with | (.ok a, t) => (.ok a, t) | (.error e, t) => (.error e, t)) = m s
    rcases m s with ⟨_ | _, t⟩ <;> rfl)
  (fun _ _ => rfl)
  (by
    intro α β γ m f g
    funext s
    change (match (match m s with | (.ok a, t) => f a t | (.error e, t) => (.error e, t)) with
        | (.ok b, t) => g b t
        | (.error e, t) => (.error e, t)) =
      (match m s with
        | (.ok a, t) => (match f a t with | (.ok b, u) => g b u | (.error e, u) => (.error e, u))
        | (.error e, t) => (.error e, t))
    rcases m s with ⟨_ | _, t⟩ <;> rfl)

end Prog

end DbcNode

namespace DbcNode.Prog
variable {ε σ α β γ : Type}

/-- Two runs of one call from related states end in the same way, with the
same result, in related states. With one state on both sides it is a triple,
and an end that `fail` excludes, such as divergence, is ruled out. -/
def Couples (pre : σ → σ → Prop) (m : Prog ε σ α) (post : α → σ → σ → Prop)
    (fail : Stop ε → σ → σ → Prop) : Prop :=
  ∀ s t, pre s t → match m s, m t with
    | (.ok a, s'), (.ok b, t') => a = b ∧ post a s' t'
    | (.error e, s'), (.error f, t') => e = f ∧ fail e s' t'
    | _, _ => False

namespace Couples
variable {P : σ → σ → Prop} {m : Prog ε σ α} {Q : α → σ → σ → Prop} {E : Stop ε → σ → σ → Prop}

theorem cases (couples : Couples P m Q E) {s t : σ} (start : P s t) :
    (∃ a s' t', m s = (.ok a, s') ∧ m t = (.ok a, t') ∧ Q a s' t') ∨
      (∃ e s' t', m s = (.error e, s') ∧ m t = (.error e, t') ∧ E e s' t') := by
  have result := couples s t start
  split at result
  · rename_i a s' b t' left right
    obtain ⟨rfl, related⟩ := result
    exact Or.inl ⟨a, s', t', left, right, related⟩
  · rename_i e s' f t' left right
    obtain ⟨rfl, related⟩ := result
    exact Or.inr ⟨e, s', t', left, right, related⟩
  · exact result.elim

theorem of_cases (both : ∀ s t, P s t →
    (∃ a s' t', m s = (.ok a, s') ∧ m t = (.ok a, t') ∧ Q a s' t') ∨
      (∃ e s' t', m s = (.error e, s') ∧ m t = (.error e, t') ∧ E e s' t')) :
    Couples P m Q E := by
  intro s t start
  rcases both s t start with ⟨a, s', t', left, right, related⟩ | ⟨e, s', t', left, right, related⟩
  · rw [left, right]
    exact ⟨rfl, related⟩
  · rw [left, right]
    exact ⟨rfl, related⟩

theorem bind {f : α → Prog ε σ β} {R : β → σ → σ → Prop} (first : Couples P m Q E)
    (second : ∀ a, Couples (Q a) (f a) R E) : Couples P (m >>= f) R E := by
  refine of_cases (fun s t start => ?_)
  rcases first.cases start with ⟨a, s', t', left, right, related⟩ | ⟨e, s', t', left, right, related⟩
  · rw [bind_ok left, bind_ok right]
    exact (second a).cases related
  · exact Or.inr ⟨e, s', t', bind_error left, bind_error right, related⟩

theorem mono {A : σ → σ → Prop} {B : α → σ → σ → Prop} (couples : Couples P m Q E)
    (weaker : ∀ s t, A s t → P s t) (stronger : ∀ a s t, Q a s t → B a s t) :
    Couples A m B E := by
  refine of_cases (fun s t start => ?_)
  rcases couples.cases (weaker s t start) with
    ⟨a, s', t', left, right, related⟩ | ⟨e, s', t', left, right, related⟩
  · exact Or.inl ⟨a, s', t', left, right, stronger a s' t' related⟩
  · exact Or.inr ⟨e, s', t', left, right, related⟩

/-- A condition that does not depend on the states may be assumed. -/
theorem assume {p : Prop} (couples : p → Couples P m Q E) :
    Couples (fun s t => p ∧ P s t) m Q E :=
  fun s t start => couples start.1 s t start.2

theorem some {ι : Sort*} {pres : ι → σ → σ → Prop} (couples : ∀ i, Couples (pres i) m Q E) :
    Couples (fun s t => ∃ i, pres i s t) m Q E := by
  rintro s t ⟨i, start⟩
  exact couples i s t start

theorem pure (a : α) (related : ∀ s t, P s t → Q a s t) :
    Couples P (Pure.pure a : Prog ε σ α) Q E :=
  fun s t start => ⟨rfl, related s t start⟩

theorem stop (e : Stop ε) (related : ∀ s t, P s t → E e s t) :
    Couples P (Prog.stop e : Prog ε σ α) Q E :=
  fun s t start => ⟨rfl, related s t start⟩

theorem update {f : σ → σ} {R : Unit → σ → σ → Prop} (related : ∀ s t, P s t → R () (f s) (f t)) :
    Couples P (Prog.update f : Prog ε σ Unit) R E :=
  fun s t start => ⟨rfl, related s t start⟩

theorem fetch {f : σ → α} (same : ∀ s t, P s t → f s = f t ∧ Q (f s) s t) :
    Couples P (Prog.fetch f : Prog ε σ α) Q E :=
  fun s t start => same s t start

/-- A counted loop keeps an invariant that may mention the rounds to
come. -/
theorem iterate {n : Nat} {f : β → Prog ε σ β} {I : Nat → β → σ → σ → Prop}
    (one : ∀ k b, Couples (I (k + 1) b) (f b) (I k) E) (b : β) :
    Couples (I n b) (Prog.iterate n f b) (I 0) E := by
  induction n generalizing b with
  | zero => exact pure b (fun _ _ related => related)
  | succ n ih => exact (one n b).bind ih

/-- A loop whose rounds each use up part of a measure ends before its rounds
run out. -/
theorem loop {n : Nat} {f : β → Prog ε σ (β ⊕ γ)} {I : Nat → β → σ → σ → Prop}
    {R : γ → σ → σ → Prop}
    (one : ∀ k b, Couples (I (k + 1) b) (f b)
      (fun r s t => r.elim (fun b' => I k b' s t) (fun c => R c s t)) E)
    (never : ∀ b s t, ¬ I 0 b s t) (b : β) : Couples (I n b) (Prog.loop n f b) R E := by
  induction n generalizing b with
  | zero => intro s t start; exact (never b s t start).elim
  | succ n ih =>
    refine (one n b).bind (fun r => ?_)
    cases r with
    | inl next => exact ih next
    | inr result => exact pure result (fun _ _ related => related)

end Couples

end DbcNode.Prog
