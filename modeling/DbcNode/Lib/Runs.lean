import Mathlib.Tactic

namespace DbcNode

/-- The runs of a machine whose events are all admitted in the state they
happen in, with the events so far, the last one first. An event with no next
state does not happen. -/
inductive Run {σ ε : Type} (step : σ → ε → Option σ) (allows : σ → ε → Prop) (initial : σ) : List ε → σ → Prop
  | start : Run step allows initial [] initial
  | next {trace : List ε} {s t : σ} {event : ε} (before : Run step allows initial trace s)
    (admitted : allows s event)
      (ran : step s event = some t) : Run step allows initial (event :: trace) t

/-- A machine without a condition on its events. -/
abbrev Reaches {σ ε : Type} (step : σ → ε → Option σ) (initial : σ) : List ε → σ → Prop :=
  Run step (fun _ _ => True) initial

namespace Run
variable {σ ε : Type} {step : σ → ε → Option σ} {allows : σ → ε → Prop} {initial s : σ} {trace : List ε}

theorem invariant {P : σ → Prop} (first : P initial)
    (preserved : ∀ {s t : σ} {event : ε}, P s → allows s event → step s event = some t → P t)
    (run : Run step allows initial trace s) : P s := by
  induction run with
  | start => exact first
  | next _ admitted ran ih => exact preserved ih admitted ran

/-- An invariant of the state and what has happened so far. -/
theorem history {P : List ε → σ → Prop} (first : P [] initial)
    (preserved : ∀ {trace : List ε} {s t : σ} {event : ε}, P trace s → allows s event → step s event = some t →
      P (event :: trace) t)
    (run : Run step allows initial trace s) : P trace s := by
  induction run with
  | start => exact first
  | next _ admitted ran ih => exact preserved ih admitted ran

/-- Dropping the condition. -/
theorem reaches (run : Run step allows initial trace s) : Reaches step initial trace s := by
  induction run with
  | start => exact .start
  | next _ _ ran ih => exact .next ih trivial ran

end Run

/-- The run over a list of events, the first one first. -/
def runAll {σ ε : Type} (step : σ → ε → Option σ) : σ → List ε → Option σ
  | s, [] => some s
  | s, event :: rest => (step s event).bind (fun t => runAll step t rest)

theorem runAll_append {σ ε : Type} (step : σ → ε → Option σ) (s : σ) (before after : List ε) :
    runAll step s (before ++ after) = (runAll step s before).bind (fun t => runAll step t after) := by
  induction before generalizing s with
  | nil => rfl
  | cons event rest ih =>
    rw [List.cons_append, runAll, runAll, Option.bind_assoc]
    exact congrArg _ (funext ih)

theorem Run.of_runAll {σ ε : Type} {step : σ → ε → Option σ} {allows : σ → ε → Prop} {initial : σ}
    (free : ∀ s event, allows s event) (events : List ε) {done : List ε} {s t : σ}
    (before : Run step allows initial done s) (ran : runAll step s events = some t) :
    Run step allows initial (events.reverse ++ done) t := by
  induction events generalizing s done with
  | nil =>
    cases ran
    exact before
  | cons event rest ih =>
    obtain ⟨middle, first, later⟩ := Option.bind_eq_some_iff.mp ran
    have run := ih (.next before (free s event) first) later
    rwa [List.reverse_cons, List.append_assoc]

theorem Reaches.of_runAll {σ ε : Type} {step : σ → ε → Option σ} {initial : σ} (events : List ε) {done : List ε}
    {s t : σ} (before : Reaches step initial done s) (ran : runAll step s events = some t) :
    Reaches step initial (events.reverse ++ done) t := Run.of_runAll (fun _ _ => trivial) events before ran

/-- The machine that takes an event only where a test allows it. -/
def guarded {σ ε : Type} (step : σ → ε → Option σ) (test : σ → ε → Bool) (s : σ) (event : ε) : Option σ :=
  if test s event then step s event else none

theorem Run.of_guarded {σ ε : Type} {step : σ → ε → Option σ} {allows : σ → ε → Prop} {test : σ → ε → Bool}
    {initial : σ} (sound : ∀ s event, test s event → allows s event) (events : List ε) {done : List ε} {s t : σ}
    (before : Run step allows initial done s) (ran : runAll (guarded step test) s events = some t) :
    Run step allows initial (events.reverse ++ done) t := by
  induction events generalizing s done with
  | nil =>
    cases ran
    exact before
  | cons event rest ih =>
    obtain ⟨middle, first, later⟩ := Option.bind_eq_some_iff.mp ran
    unfold guarded at first
    split at first
    · rename_i allowed
      have run := ih (.next before (sound s event allowed) first) later
      rwa [List.reverse_cons, List.append_assoc]
    · cases first

end DbcNode
