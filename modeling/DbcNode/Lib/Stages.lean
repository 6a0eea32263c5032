import DbcNode.Lib.Frame

namespace DbcNode

/-- A stage of a call, by the part of the state that it is about, whether it
refuses to go on, and whether it changes the part. -/
structure Stage (π : Type) where
  part : π
  refuses : Bool
  changes : Bool

namespace Stage
variable {π : Type}

def refused (stages : List (Stage π)) : Bool := stages.any (·.refuses)

/-- The parts that are changed before the first stage that refuses. -/
def changed : List (Stage π) → List π
  | [] => []
  | stage :: later =>
      if stage.refuses then [] else if stage.changes then stage.part :: changed later else changed later

theorem passes_of_mem {stages : List (Stage π)} {part : π} (member : part ∈ changed stages) :
    ∃ stage ∈ stages, stage.part = part ∧ stage.changes = true ∧ stage.refuses = false := by
  induction stages with
  | nil => cases member
  | cons stage later ih =>
    unfold changed at member
    split at member
    · cases member
    · rename_i passes
      rw [Bool.not_eq_true] at passes
      split at member
      · rename_i changes
        rcases List.mem_cons.mp member with rfl | after
        · exact ⟨stage, List.mem_cons_self, rfl, changes, passes⟩
        · obtain ⟨found, inside, facts⟩ := ih after
          exact ⟨found, List.mem_cons_of_mem _ inside, facts⟩
      · obtain ⟨found, inside, facts⟩ := ih member
        exact ⟨found, List.mem_cons_of_mem _ inside, facts⟩

theorem changes_of_mem {stages : List (Stage π)} {part : π} (member : part ∈ changed stages) :
    ∃ stage ∈ stages, stage.part = part ∧ stage.changes = true := by
  obtain ⟨stage, inside, same, changes, _⟩ := passes_of_mem member
  exact ⟨stage, inside, same, changes⟩

/-- Where nothing refuses, every stage gets to change its part. -/
theorem mem_changed {stages : List (Stage π)} {stage : Stage π} (granted : refused stages = false)
    (inside : stage ∈ stages) (changes : stage.changes = true) : stage.part ∈ changed stages := by
  induction stages with
  | nil => cases inside
  | cons first later ih =>
    rw [refused, List.any_cons, Bool.or_eq_false_iff] at granted
    rw [changed, if_neg (by rw [granted.1]; exact Bool.false_ne_true)]
    rcases List.mem_cons.mp inside with rfl | after
    · rw [if_pos changes]
      exact List.mem_cons_self
    · have rest := ih granted.2 after
      split
      · exact List.mem_cons_of_mem _ rest
      · exact rest

end Stage

namespace Layout
variable {σ π ε α β : Type} (layout : Layout σ π)

/-- What a call does as a stage: it returns an error and leaves all as it
is, or it returns this value and changes nothing but its part. -/
inductive RunsAs (stage : Stage π) (a : α) (call : Prog ε σ α) (t : σ) : Prop
  | refused (e : ε) (refuses : stage.refuses = true) (stopped : call t = (.error (.thrown e), t))
  | passed (u : σ) (passes : stage.refuses = false) (ran : call t = (.ok a, u))
      (only : layout.ModifiesOnly {stage.part} t u) (same : stage.changes = false → u = t)
      (differs : stage.changes = true → layout.read stage.part u ≠ layout.read stage.part t)

/-- How a call ends that goes through these stages: it throws where one of
them refuses, else it dies or returns with what it is for, and of the parts
that count it has changed those that were changed before. `touched` is
whether something has been changed already. -/
structure Outcome (counting : Set π) (dies : Bool) (post : σ → Prop) (touched : Bool)
    (stages : List (Stage π)) (t : σ) (result : Except (Stop ε) α × σ) : Prop where
  refuses : Stage.refused stages = true → ∃ e, result.1 = .error (.thrown e)
  ends : Stage.refused stages = false → if dies then result.1 = .error .asserted else (∃ a, result.1 = .ok a) ∧
    post result.2
  same : Stage.refused stages = true → touched = false → Stage.changed stages = [] → result.2 = t
  moved : ∀ part ∈ counting, layout.read part result.2 = layout.read part t ↔ part ∉ Stage.changed stages

variable {layout} {counting : Set π} {dies touched : Bool} {post : σ → Prop} {stage : Stage π}
    {stages : List (Stage π)} {t u : σ}

/-- One more part may be other than at first. -/
theorem ModifiesOnly.grow {parts : Set π} {part : π} {s : σ} (only : layout.ModifiesOnly parts s t)
    (next : layout.ModifiesOnly {part} t u) : layout.ModifiesOnly (insert part parts) s u :=
  (only.weaken (Set.subset_insert _ _)).next next (by simp)

namespace Outcome

/-- A call that is over without an error, or that has died. -/
theorem done {result : Except (Stop ε) α × σ}
    (ended : if dies then result.1 = .error .asserted else (∃ a, result.1 = .ok a) ∧ post result.2)
    (kept : ∀ part ∈ counting, layout.read part result.2 = layout.read part t) :
    layout.Outcome counting dies post touched [] t result :=
  ⟨fun none => (by cases none), fun _ => ended, fun none => (by cases none),
    fun part counts => ⟨fun _ => List.not_mem_nil, fun _ => kept part counts⟩⟩

/-- A stage that refuses ends the call with the state as it is. -/
theorem stop {e : ε} (refuses : stage.refuses = true) :
    layout.Outcome (α := α) counting dies post touched (stage :: stages) t (.error (.thrown e), t) := by
  have unchanged : Stage.changed (stage :: stages) = [] := by rw [Stage.changed, if_pos refuses]
  refine ⟨fun _ => ⟨e, rfl⟩, fun none => (by simp [Stage.refused, refuses] at none), fun _ _ _ => rfl,
    fun part _ => ?_⟩
  rw [unchanged]
  exact ⟨fun _ => List.not_mem_nil, fun _ => rfl⟩

/-- A stage that does not refuse hands over to the ones that follow, which
are about other parts. -/
theorem go {result : Except (Stop ε) α × σ} (passes : stage.refuses = false)
    (only : layout.ModifiesOnly {stage.part} t u) (same : stage.changes = false → u = t)
    (differs : stage.changes = true → layout.read stage.part u ≠ layout.read stage.part t)
    (fresh : stage.changes = true → stage.part ∉ stages.map (·.part))
    (later : layout.Outcome counting dies post (touched || stage.changes) stages u result) :
    layout.Outcome counting dies post touched (stage :: stages) t result := by
  have refused : Stage.refused (stage :: stages) = Stage.refused stages := by simp [Stage.refused, passes]
  have goesOn : Stage.changed (stage :: stages) =
      if stage.changes then stage.part :: Stage.changed stages else Stage.changed stages := by
    rw [Stage.changed, if_neg (by rw [passes]; exact Bool.false_ne_true)]
  refine ⟨?_, ?_, ?_, fun part counts => ?_⟩
  · rw [refused]
    exact later.refuses
  · rw [refused]
    exact later.ends
  · intro stops before unchanged
    rw [refused] at stops
    cases changes : stage.changes with
    | true =>
      rw [goesOn, if_pos changes] at unchanged
      cases unchanged
    | false =>
      rw [goesOn, if_neg (by rw [changes]; exact Bool.false_ne_true)] at unchanged
      rw [later.same stops (by rw [before, changes]; rfl) unchanged]
      exact same changes
  · have moved := later.moved part counts
    cases changes : stage.changes with
    | false =>
      rw [goesOn, if_neg (by rw [changes]; exact Bool.false_ne_true), ← same changes]
      exact moved
    | true =>
      rw [goesOn, if_pos changes]
      by_cases own : part = stage.part
      · subst own
        have last : stage.part ∉ Stage.changed stages := by
          intro member
          obtain ⟨other, inside, same, _⟩ := Stage.changes_of_mem member
          exact fresh changes (same ▸ List.mem_map_of_mem inside)
        rw [moved.mpr last]
        simpa using differs changes
      · have kept : layout.read part u = layout.read part t := only part own
        rw [← kept, moved, List.mem_cons]
        exact ⟨fun later either => either.elim own later, fun neither member => neither (Or.inr member)⟩

/-- A change of parts that do not count, where something has been changed
already. -/
theorem after {result : Except (Stop ε) α × σ} (kept : ∀ part ∈ counting, layout.read part u = layout.read part t)
    (same : touched = false → u = t) (later : layout.Outcome counting dies post touched stages u result) :
    layout.Outcome counting dies post touched stages t result := by
  refine ⟨later.refuses, later.ends, fun stops before unchanged => ?_, fun part counts => ?_⟩
  · rw [later.same stops before unchanged, same before]
  · rw [← kept part counts]
    exact later.moved part counts

/-- A call that is a stage, with what follows it. -/
theorem bind {a : α} {call : Prog ε σ α} {rest : α → Prog ε σ β} (runs : layout.RunsAs stage a call t)
    (fresh : stage.part ∉ stages.map (·.part))
    (later : ∀ u, call t = (.ok a, u) → layout.ModifiesOnly {stage.part} t u →
      layout.Outcome counting dies post (touched || stage.changes) stages u (rest a u)) :
    layout.Outcome counting dies post touched (stage :: stages) t ((call >>= rest) t) := by
  cases runs with
  | refused e refuses stopped =>
    rw [Prog.bind_error stopped]
    exact stop refuses
  | passed u passes ran only same differs =>
    rw [Prog.bind_ok ran]
    exact go passes only same differs (fun _ => fresh) (later u ran only)

/-- A stage that only checks. -/
theorem check {a : α} {call : Prog ε σ α} {rest : α → Prog ε σ β} (looks : stage.changes = false)
    (runs : layout.RunsAs stage a call t) (later : layout.Outcome counting dies post touched stages t (rest a t)) :
    layout.Outcome counting dies post touched (stage :: stages) t ((call >>= rest) t) := by
  cases runs with
  | refused e refuses stopped =>
    rw [Prog.bind_error stopped]
    exact stop refuses
  | passed u passes ran only same differs =>
    have unchanged := same looks
    subst unchanged
    rw [Prog.bind_ok ran]
    refine go passes only same differs (fun changes => ?_) ?_
    · rw [looks] at changes
      cases changes
    · rw [looks, Bool.or_false]
      exact later

end Outcome

/-- How a call ends that goes through these stages to find out whether one
of them changes its part. `touched` is whether something has been changed
already. -/
structure Collects (dies touched : Bool) (stages : List (Stage π)) (t : σ)
    (result : Except (Stop ε) Bool × σ) : Prop where
  refuses : Stage.refused stages = true → ∃ e, result.1 = .error (.thrown e)
  ends : Stage.refused stages = false →
    result.1 = if dies then .error .asserted else .ok (touched || stages.any (·.changes))
  same : Stage.changed stages = [] → result.2 = t

namespace Collects

theorem done (touched : Bool) (t : σ) : Collects (π := π) (ε := ε) false touched [] t (.ok touched, t) :=
  ⟨fun none => (by cases none), fun _ => by simp, fun _ => rfl⟩

theorem dead (touched : Bool) (t : σ) : Collects (π := π) (ε := ε) true touched [] t (.error .asserted, t) :=
  ⟨fun none => (by cases none), fun _ => rfl, fun _ => rfl⟩

/-- A stage, with the call that follows it. -/
theorem bind {a : α} {call : Prog ε σ α} {rest : α → Prog ε σ Bool} (runs : layout.RunsAs stage a call t)
    (later : ∀ u, call t = (.ok a, u) → layout.ModifiesOnly {stage.part} t u →
      Collects dies (touched || stage.changes) stages u (rest a u)) :
    Collects dies touched (stage :: stages) t ((call >>= rest) t) := by
  cases runs with
  | refused e refuses stopped =>
    rw [Prog.bind_error stopped]
    refine ⟨fun _ => ⟨e, rfl⟩, fun none => ?_, fun _ => rfl⟩
    simp [Stage.refused, refuses] at none
  | passed u passes ran only same differs =>
    rw [Prog.bind_ok ran]
    have later := later u ran only
    have refused : Stage.refused (stage :: stages) = Stage.refused stages := by simp [Stage.refused, passes]
    refine ⟨?_, fun granted => ?_, fun unchanged => ?_⟩
    · rw [refused]
      exact later.refuses
    · rw [later.ends (refused ▸ granted), List.any_cons, Bool.or_assoc]
    · rw [Stage.changed, if_neg (by rw [passes]; exact Bool.false_ne_true)] at unchanged
      cases changes : stage.changes with
      | true =>
        rw [changes, if_pos rfl] at unchanged
        cases unchanged
      | false =>
        rw [changes, if_neg Bool.false_ne_true] at unchanged
        rw [later.same unchanged, same changes]

/-- A stage that only checks. -/
theorem check {a : α} {call : Prog ε σ α} {rest : α → Prog ε σ Bool} (looks : stage.changes = false)
    (runs : layout.RunsAs stage a call t) (later : Collects dies touched stages t (rest a t)) :
    Collects dies touched (stage :: stages) t ((call >>= rest) t) := by
  refine .bind runs (fun u ran only => ?_)
  have unchanged : u = t := by
    cases runs with
    | refused e refuses stopped =>
      rw [stopped] at ran
      cases ran
    | passed v passes ran' only same differs =>
      rw [ran'] at ran
      cases ran
      exact same looks
  rw [unchanged, looks, Bool.or_false]
  exact later

end Collects

end Layout

end DbcNode
