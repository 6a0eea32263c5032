import Mathlib.Logic.Relation
import Mathlib.Tactic

namespace DbcNode
variable {κ ι : Type} {link later : κ → Option κ} {held : Option ι → κ → Prop}

/-- The second node is the first one, or the links lead from the first one
to it. -/
abbrev RestsOn (link : κ → Option κ) : κ → κ → Prop := Relation.ReflTransGen (fun a b => link a = some b)

/-- No holder with a name rests on what another holder has. Nothing is asked
of the holder without a name but that the others leave its nodes alone. -/
def Apart (link : κ → Option κ) (held : Option ι → κ → Prop) : Prop :=
  ∀ i top, held (some i) top → ∀ holder node, held holder node → holder ≠ some i → ¬ RestsOn link top node

/-- A link may lead from one node to the other: whoever rests on the first
would not rest on what another one holds. -/
def MayLink (link : κ → Option κ) (held : Option ι → κ → Prop) (changed next : κ) : Prop :=
  ∀ i top, held (some i) top → RestsOn link top changed → ∀ holder node, held holder node → holder ≠ some i →
    ¬ RestsOn link next node

namespace RestsOn
variable {a b changed : κ}

theorem of_fewer (rests : RestsOn later a b) (fewer : ∀ c d, later c = some d → link c = some d) :
    RestsOn link a b :=
  Relation.ReflTransGen.mono fewer _ _ rests

theorem of_unlinked (unlinked : link a = none) (rests : RestsOn link a b) : b = a := by
  rcases Relation.ReflTransGen.cases_head rests with same | ⟨next, first, _⟩
  · exact same.symm
  · rw [unlinked] at first
    cases first

/-- After one link was changed, a way through the graph is an old one, or it
was an old one up to that link and is an old one after it. -/
theorem of_changed (rests : RestsOn later a b) (others : ∀ c, c ≠ changed → later c = link c) :
    RestsOn link a b ∨ RestsOn link a changed ∧ ∃ next, later changed = some next ∧ RestsOn link next b := by
  induction rests with
  | refl => exact Or.inl .refl
  | @tail c d before last ih =>
    by_cases here : c = changed
    · subst here
      refine Or.inr ⟨?_, d, last, .refl⟩
      rcases ih with direct | ⟨through, _⟩
      · exact direct
      · exact through
    · rw [others c here] at last
      rcases ih with direct | ⟨through, next, set, rests⟩
      · exact Or.inl (direct.tail last)
      · exact Or.inr ⟨through, next, set, rests.tail last⟩

end RestsOn

namespace Apart
variable {more : Option ι → κ → Prop} {changed : κ}

/-- A node has one holder with a name. -/
theorem alone (apart : Apart link held) {i j : ι} {node : κ} (first : held (some i) node)
    (second : held (some j) node) :
    i = j := by
  by_contra different
  exact apart i node first (some j) node second (fun same => different (Option.some.inj same).symm) .refl

theorem weaken (apart : Apart link held) (fewer : ∀ c d, later c = some d → link c = some d)
    (less : ∀ holder node, more holder node → held holder node) : Apart later more := by
  intro i top has holder node other different rests
  exact apart i top (less _ _ has) holder node (less _ _ other) different (rests.of_fewer fewer)

theorem relink (apart : Apart link held) (others : ∀ c, c ≠ changed → later c = link c)
    (may : ∀ next, later changed = some next → MayLink link held changed next) : Apart later held := by
  intro i top has holder node other different rests
  rcases rests.of_changed others with old | ⟨through, next, set, beyond⟩
  · exact apart i top has holder node other different old
  · exact may next set i top has through holder node other different beyond

/-- One more node is held. -/
theorem hold (apart : Apart link held) (new : Option ι) {node : κ}
    (unrested : ∀ i top, held (some i) top → some i ≠ new → ¬ RestsOn link top node)
    (resting : ∀ i, new = some i → ∀ holder below, held holder below → holder ≠ new → ¬ RestsOn link node below)
    (grown : ∀ holder below, more holder below → held holder below ∨ holder = new ∧ below = node) :
    Apart link more := by
  intro i top has holder below other different rests
  rcases grown _ _ has with old | ⟨named, rfl⟩
  · rcases grown _ _ other with oldBelow | ⟨rfl, rfl⟩
    · exact apart i top old holder below oldBelow different rests
    · exact unrested i top old (Ne.symm different) rests
  · rcases grown _ _ other with oldBelow | ⟨same, _⟩
    · exact resting i named.symm holder below oldBelow (named ▸ different) rests
    · exact different (same.trans named.symm)

end Apart

end DbcNode
