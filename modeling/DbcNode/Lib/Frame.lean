import DbcNode.Lib.Prog

namespace DbcNode

/-- The parts that a state is made of, by what is read from each. -/
structure Layout (σ π : Type) where
  Value : π → Type
  read : (part : π) → σ → Value part

namespace Layout
variable {σ π ε α β : Type} (layout : Layout σ π)

/-- A change that leaves all but these parts as they are. -/
def ModifiesOnly (parts : Set π) (s t : σ) : Prop := ∀ part, part ∉ parts → layout.read part t = layout.read part s

variable {layout} {parts more : Set π} {s t u : σ}

theorem ModifiesOnly.refl (s : σ) : layout.ModifiesOnly parts s s := fun _ _ => rfl

theorem ModifiesOnly.trans (first : layout.ModifiesOnly parts s t) (second : layout.ModifiesOnly parts t u) :
    layout.ModifiesOnly parts s u :=
  fun part outside => (second part outside).trans (first part outside)

theorem ModifiesOnly.weaken (only : layout.ModifiesOnly parts s t) (inside : parts ⊆ more) :
    layout.ModifiesOnly more s t :=
  fun part outside => only part (fun member => outside (inside member))

theorem ModifiesOnly.symm (only : layout.ModifiesOnly parts s t) : layout.ModifiesOnly parts t s :=
  fun part outside => (only part outside).symm

/-- Another change after this one. -/
theorem ModifiesOnly.next (only : layout.ModifiesOnly more s t) (second : layout.ModifiesOnly parts t u)
    (inside : parts ⊆ more) : layout.ModifiesOnly more s u :=
  only.trans (second.weaken inside)

/-- However a call ends, it has left all but these parts as they were. -/
def Confined (layout : Layout σ π) (parts : Set π) (call : Prog ε σ α) : Prop :=
  ∀ s, layout.ModifiesOnly parts s (call s).2

namespace Confined

theorem pure (a : α) : layout.Confined parts (Pure.pure a : Prog ε σ α) := fun s => .refl s

theorem stop (e : Stop ε) : layout.Confined parts (Prog.stop e : Prog ε σ α) := fun s => .refl s

theorem fetch (f : σ → α) : layout.Confined parts (Prog.fetch f : Prog ε σ α) := fun s => .refl s

theorem update {f : σ → σ} (only : ∀ s, layout.ModifiesOnly parts s (f s)) :
    layout.Confined parts (Prog.update f : Prog ε σ Unit) := only

theorem weaken {call : Prog ε σ α} (confined : layout.Confined parts call) (inside : parts ⊆ more) :
    layout.Confined more call := fun s => (confined s).weaken inside

theorem bind {call : Prog ε σ α} {rest : α → Prog ε σ β} (first : layout.Confined parts call)
    (second : ∀ a, layout.Confined parts (rest a)) : layout.Confined parts (call >>= rest) := by
  intro s
  have before := first s
  rcases ran : call s with ⟨result, t⟩
  rw [ran] at before
  cases result with
  | ok a =>
    rw [Prog.bind_ok ran]
    exact before.trans (second a t)
  | error e =>
    rw [Prog.bind_error ran]
    exact before

theorem map {call : Prog ε σ α} (f : α → β) (confined : layout.Confined parts call) :
    layout.Confined parts (f <$> call) :=
  confined.bind (fun a => pure (f a))

end Confined

end Layout

namespace Prog
variable {σ ε α β : Type} {P : σ → Prop}

/-- However a call ends, what held before still holds. -/
def Keeps (P : σ → Prop) (call : Prog ε σ α) : Prop := ∀ s, P s → P (call s).2

/-- A sequence that starts with a call that changes nothing. -/
theorem bind_looked {call : Prog ε σ α} {rest : α → Prog ε σ β} {s : σ} (same : (call s).2 = s) (stopped : P s)
    (later : ∀ a, P (rest a s).2) : P ((call >>= rest) s).2 := by
  rcases ran : call s with ⟨result, t⟩
  rw [ran] at same
  subst same
  cases result with
  | ok a =>
    rw [Prog.bind_ok ran]
    exact later a
  | error e =>
    rw [Prog.bind_error ran]
    exact stopped

namespace Keeps

theorem pure (a : α) : Keeps P (Pure.pure a : Prog ε σ α) := fun _ holds => holds

theorem update {f : σ → σ} (keeps : ∀ s, P s → P (f s)) : Keeps P (Prog.update f : Prog ε σ Unit) := keeps

/-- What holds after the first part holds after a sequence. -/
theorem after {call : Prog ε σ α} {rest : α → Prog ε σ β} {s : σ} (first : P (call s).2)
    (second : ∀ a, Keeps P (rest a)) : P ((call >>= rest) s).2 := by
  rcases ran : call s with ⟨result, t⟩
  rw [ran] at first
  cases result with
  | ok a =>
    rw [Prog.bind_ok ran]
    exact second a t first
  | error e =>
    rw [Prog.bind_error ran]
    exact first

theorem bind {call : Prog ε σ α} {rest : α → Prog ε σ β} (first : Keeps P call) (second : ∀ a, Keeps P (rest a)) :
    Keeps P (call >>= rest) := fun s holds => after (first s holds) second

end Keeps

end Prog

end DbcNode
