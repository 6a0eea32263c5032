import Mathlib.Tactic

namespace DbcNode

section Absorb
variable {σ β : Type} (size : Nat) (compress : σ → List β → σ)

/-- A hash function works through a message block by block: this is its
state after so many blocks from the front of the data. -/
def absorb : Nat → σ → List β → σ
  | 0, state, _ => state
  | blocks + 1, state, data => absorb blocks (compress state (data.take size)) (data.drop size)

variable {size compress}

theorem absorb_add (first second : Nat) (state : σ) (data : List β) :
    absorb size compress (first + second) state data =
      absorb size compress second (absorb size compress first state data) (data.drop (size * first)) := by
  induction first generalizing state data with
  | zero => simp [absorb]
  | succ first ih =>
    have sum : first + 1 + second = first + second + 1 := by omega
    have far : size * (first + 1) = size + size * first := by ring
    rw [sum, absorb, absorb, ih, List.drop_drop, far]

/-- What comes after the blocks is not looked at. -/
theorem absorb_append (compress : σ → List β → σ) {blocks : Nat} {data : List β}
    (inside : size * blocks ≤ data.length) (state : σ) (more : List β) :
    absorb size compress blocks state (data ++ more) = absorb size compress blocks state data := by
  induction blocks generalizing state data with
  | zero => rfl
  | succ blocks ih =>
    have far : size * (blocks + 1) = size + size * blocks := by ring
    have one : size ≤ data.length := by omega
    have rest : size * blocks ≤ (data.drop size).length := by
      rw [List.length_drop]
      omega
    rw [absorb, absorb, List.take_append_of_le_length one, List.drop_append_of_le_length one, ih rest]

/-- A writer that has been given this much of a message: its state has taken
in the whole blocks, and the pending bytes do not fill one. -/
def Absorbed (size : Nat) (compress : σ → List β → σ) (start : σ) (message : List β) (state : σ)
    (pending : List β) : Prop :=
  pending.length < size ∧ ∃ whole blocks, message = whole ++ pending ∧ whole.length = size * blocks ∧
    state = absorb size compress blocks start whole

namespace Absorbed
variable {start state : σ} {message pending : List β}

theorem nothing (positive : 0 < size) (start : σ) : Absorbed size compress start [] start [] :=
  ⟨positive, [], 0, rfl, rfl, rfl⟩

theorem length_mod (absorbed : Absorbed size compress start message state pending) :
    pending.length = message.length % size := by
  obtain ⟨short, whole, blocks, split, length, _⟩ := absorbed
  rw [split, List.length_append, length, Nat.mul_add_mod, Nat.mod_eq_of_lt short]

/-- Data that fills whole blocks together with what is pending. -/
theorem fill (absorbed : Absorbed size compress start message state pending) (data : List β) (blocks : Nat)
    (length : (pending ++ data).length = size * blocks) :
    Absorbed size compress start (message ++ data) (absorb size compress blocks state (pending ++ data)) [] := by
  obtain ⟨short, whole, before, split, before_length, reached⟩ := absorbed
  refine ⟨by rw [List.length_nil]; omega, whole ++ (pending ++ data), before + blocks, ?_, ?_, ?_⟩
  · rw [split, List.append_nil, List.append_assoc]
  · rw [List.length_append, before_length, length, Nat.mul_add]
  · rw [absorb_add, absorb_append _ before_length.ge, ← reached, List.drop_left' before_length]

/-- Data that does not fill the block that is pending. -/
theorem keep (absorbed : Absorbed size compress start message state pending) (data : List β)
    (short : (pending ++ data).length < size) :
    Absorbed size compress start (message ++ data) state (pending ++ data) := by
  obtain ⟨_, whole, blocks, split, length, reached⟩ := absorbed
  exact ⟨short, whole, blocks, by rw [split, List.append_assoc], length, reached⟩

/-- Once nothing is pending, the state is the one of the whole message. -/
theorem state_eq (absorbed : Absorbed size compress start message state []) :
    state = absorb size compress (message.length / size) start message := by
  obtain ⟨positive, whole, blocks, split, length, reached⟩ := absorbed
  rw [List.append_nil] at split
  rw [split, length, Nat.mul_div_cancel_left _ positive]
  exact reached

end Absorbed

end Absorb

end DbcNode
