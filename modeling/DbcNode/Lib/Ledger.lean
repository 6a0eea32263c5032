import Mathlib.Tactic

namespace DbcNode

/-- A thing that one node at a time has in its charge: who has taken it over
so far, who holds it now, the number of the take-over that each node knows
of, and the owner in the record that a node has, if it has one and it names
one. -/
@[ext] structure Ledger (ν : Type) where
  takers : List ν
  holder : Option ν
  term : ν → Nat
  view : ν → Option (Option ν)

namespace Ledger
variable {ν : Type} {l next : Ledger ν} {i j p : ν} {term : Nat}

/-- Who has made the take-over of a number. -/
def taker (l : Ledger ν) (term : Nat) : Option ν := if term = 0 then none else l.takers[term - 1]?

structure Sound (l : Ledger ν) : Prop where
  own : ∀ i, l.view i = some (some i) ↔ l.holder = some i
  last : ∀ p, l.holder = some p → l.takers.getLast? = some p ∧ l.term p = l.takers.length
  bound : ∀ i, l.term i ≤ l.takers.length
  seen : ∀ i owner, l.view i = some owner → l.taker (l.term i) = some (owner.getD i)

theorem taker_bounds (said : l.taker term = some p) : 0 < term ∧ term ≤ l.takers.length := by
  unfold taker at said
  split at said
  · cases said
  · rename_i positive
    have inside := (List.getElem?_eq_some_iff.mp said).1
    omega

theorem taker_length (l : Ledger ν) : l.taker l.takers.length = l.takers.getLast? := by
  unfold taker
  split
  · rename_i empty
    rw [List.length_eq_zero_iff.mp empty]
    rfl
  · rw [List.getLast?_eq_getElem?]

theorem taker_mono (before : l.takers <+: next.takers) (said : l.taker term = some p) :
    next.taker term = some p := by
  unfold taker at said ⊢
  split at said
  · cases said
  · rename_i positive
    rw [if_neg positive]
    obtain ⟨rest, more⟩ := before
    rw [← more, List.getElem?_append_left (List.getElem?_eq_some_iff.mp said).1]
    exact said

/-- The holder hears of no other node. -/
theorem Sound.deaf (sound : l.Sound) (other : p ≠ i) (later : l.term i ≤ term) (said : l.taker term = some p) :
    l.holder ≠ some i := by
  intro held
  obtain ⟨last, newest⟩ := sound.last i held
  have bounds := taker_bounds said
  have same : term = l.takers.length := by omega
  rw [same, taker_length, last] at said
  exact other (Option.some.inj said).symm

theorem Sound.unique (sound : l.Sound) (first : l.view i = some (some i))
    (second : l.view j = some (some j)) : i = j := by
  have held := (sound.own i).mp first
  rw [(sound.own j).mp second] at held
  exact (Option.some.inj held).symm

/-- Who knows of the last take-over has the holder in its record. -/
theorem Sound.agrees {owner : Option ν} (sound : l.Sound) (held : l.holder = some p)
    (newest : l.term i = l.takers.length) (record : l.view i = some owner) : owner = some p := by
  have said := sound.seen i owner record
  rw [newest, taker_length, (sound.last p held).1] at said
  have named := Option.some.inj said
  cases owner with
  | some q => rw [named, Option.getD_some]
  | none =>
    rw [Option.getD_none] at named
    subst named
    rw [(sound.own p).mpr held] at record
    cases record

section Acts
variable [DecidableEq ν]

/-- What a node does about the thing. It takes it over where no node holds
it, gives it up, or hears who has taken it over: never of an earlier
take-over than the one it knows. -/
inductive Acts (l : Ledger ν) (i : ν) : Ledger ν → Prop
  | keep : Acts l i l
  | gain (free : l.holder = none) : Acts l i
      ⟨l.takers ++ [i], some i, Function.update l.term i (l.takers.length + 1),
        Function.update l.view i (some (some i))⟩
  | leave (held : l.view i = some (some i)) : Acts l i
      ⟨l.takers, none, l.term, Function.update l.view i (some none)⟩
  | hear {p : ν} {term : Nat} {seen : Option (Option ν)} (other : p ≠ i) (later : l.term i ≤ term)
      (said : l.taker term = some p) (record : seen = some (some p) ∨ seen = none ∧ l.view i = none) : Acts l i
      ⟨l.takers, l.holder, Function.update l.term i term, Function.update l.view i seen⟩

theorem Acts.takers (acts : l.Acts i next) : l.takers <+: next.takers := by
  cases acts with
  | gain => exact List.prefix_append _ _
  | keep | leave | hear => exact List.prefix_refl _

/-- Only the node that acts learns something, and nothing earlier than it
knew. -/
theorem Acts.term_le (sound : l.Sound) (acts : l.Acts i next) (j : ν) : l.term j ≤ next.term j := by
  cases acts with
  | keep => exact le_rfl
  | gain =>
    by_cases same : j = i
    · have bound := sound.bound j
      simp only [same, Function.update_self] at bound ⊢
      omega
    · simp [same]
  | leave => exact le_rfl
  | hear other later =>
    by_cases same : j = i
    · simpa [same] using later
    · simp [same]

theorem Sound.gain (sound : l.Sound) (free : l.holder = none) :
    Sound ⟨l.takers ++ [i], some i, Function.update l.term i (l.takers.length + 1),
      Function.update l.view i (some (some i))⟩ := by
  refine ⟨?_, ?_, ?_, ?_⟩
  · intro j
    by_cases same : j = i
    · simp [same]
    · have nobody := sound.own j
      rw [free] at nobody
      simpa [same, Ne.symm same] using nobody
  · intro p held
    cases held
    simp
  · intro j
    have bound := sound.bound j
    by_cases same : j = i
    · simp [same]
    · simp only [Function.update_of_ne same, List.length_append, List.length_singleton]
      omega
  · intro j owner record
    by_cases same : j = i
    · subst same
      simp only [Function.update_self, Option.some.injEq] at record ⊢
      subst record
      simp [taker]
    · simp only [Function.update_of_ne same] at record ⊢
      exact taker_mono (List.prefix_append _ _) (sound.seen j owner record)

theorem Sound.leave (sound : l.Sound) (held : l.view i = some (some i)) :
    Sound ⟨l.takers, none, l.term, Function.update l.view i (some none)⟩ := by
  have holder := (sound.own i).mp held
  refine ⟨?_, nofun, sound.bound, ?_⟩
  · intro j
    by_cases same : j = i
    · simp [same]
    · have apart := sound.own j
      rw [holder] at apart
      simpa [same, Ne.symm same] using apart
  · intro j owner record
    by_cases same : j = i
    · subst same
      simp only [Function.update_self, Option.some.injEq] at record
      subst record
      exact sound.seen j (some j) held
    · simp only [Function.update_of_ne same] at record
      exact sound.seen j owner record

theorem Sound.hear (sound : l.Sound) {seen : Option (Option ν)} (other : p ≠ i) (later : l.term i ≤ term)
    (said : l.taker term = some p) (record : seen = some (some p) ∨ seen = none ∧ l.view i = none) :
    Sound ⟨l.takers, l.holder, Function.update l.term i term, Function.update l.view i seen⟩ := by
  have deaf := sound.deaf other later said
  refine ⟨?_, ?_, ?_, ?_⟩
  · intro j
    by_cases same : j = i
    · subst same
      rcases record with rfl | ⟨rfl, _⟩
      · simp [deaf, other]
      · simp [deaf]
    · simpa [same] using sound.own j
  · intro q held
    have apart : q ≠ i := by
      rintro rfl
      exact deaf held
    simpa [apart] using sound.last q held
  · intro j
    by_cases same : j = i
    · simpa [same] using (taker_bounds said).2
    · simpa [same] using sound.bound j
  · intro j owner now
    by_cases same : j = i
    · subst same
      simp only [Function.update_self] at now ⊢
      rcases record with rfl | ⟨rfl, _⟩
      · cases now
        exact said
      · cases now
    · simp only [Function.update_of_ne same] at now ⊢
      exact sound.seen j owner now

theorem Sound.acts (sound : l.Sound) (acts : l.Acts i next) : next.Sound := by
  cases acts with
  | keep => exact sound
  | gain free => exact sound.gain free
  | leave held => exact sound.leave held
  | hear other later said record => exact sound.hear other later said record

end Acts

end Ledger

end DbcNode
