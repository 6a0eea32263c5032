import Mathlib.Tactic

namespace DbcNode

/-- The built-in chains of a `nat` table that other chains are entered
from. -/
inductive MainChain
  | prerouting
  | postrouting
  deriving DecidableEq, Repr

def MainChain.all : List MainChain := [.prerouting, .postrouting]

/-- A rule of a built-in chain. -/
inductive MainRule (κ ρ : Type)
  | jump (chain : κ)
  | other (rule : ρ)
  deriving DecidableEq

/-- A `nat` table, by the chains that were added to it and the jumps to them
and other rules in the built-in ones, with the addresses that were added to
a device. -/
structure NatTable (κ ρ α : Type) where
  chains : κ → Option (List ρ)
  mains : MainChain → List (MainRule κ ρ)
  addresses : List α

/-- The commands of `iptables` and `ip` that change such a table. -/
inductive NatCommand (κ ρ α : Type)
  | flush (chain : κ)
  | deleteJump (main : MainChain) (chain : κ)
  | deleteChain (chain : κ)
  | newChain (chain : κ)
  | append (chain : κ) (rule : ρ)
  | insert (chain : κ) (rule : ρ)
  | insertJump (main : MainChain) (chain : κ)
  | deleteRule (main : MainChain) (rule : ρ)
  | addAddress (address : α)
  | delAddress (address : α)

/-- What a table has of one chain: its rules, and the jumps to it. -/
@[ext] structure ChainSlot (ρ : Type) where
  rules : Option (List ρ)
  jumps : MainChain → Nat

def ChainSlot.absent {ρ : Type} : ChainSlot ρ := ⟨none, fun _ => 0⟩

/-- A chain that is entered from one built-in chain. -/
def ChainSlot.entered {ρ : Type} (main : MainChain) (rules : List ρ) : ChainSlot ρ :=
  ⟨some rules, fun other => if other = main then 1 else 0⟩

namespace NatTable
variable {κ ρ α : Type} [DecidableEq κ] [DecidableEq ρ] [DecidableEq α]

def empty : NatTable κ ρ α := ⟨fun _ => none, fun _ => [], []⟩

def setChain (chain : κ) (rules : Option (List ρ)) (t : NatTable κ ρ α) : NatTable κ ρ α :=
  { t with chains := Function.update t.chains chain rules }

def setMain (main : MainChain) (rules : List (MainRule κ ρ)) (t : NatTable κ ρ α) : NatTable κ ρ α :=
  { t with mains := Function.update t.mains main rules }

def slot (chain : κ) (t : NatTable κ ρ α) : ChainSlot ρ :=
  ⟨t.chains chain, fun main => (t.mains main).count (.jump chain)⟩

/-- A command that the table does not allow changes nothing: a chain has to
be there to be changed or entered, a new one must not be, and one that has
rules or is entered stays. -/
def apply (t : NatTable κ ρ α) : NatCommand κ ρ α → NatTable κ ρ α
  | .flush chain => t.setChain chain ((t.chains chain).map (fun _ => []))
  | .deleteJump main chain => t.setMain main ((t.mains main).erase (.jump chain))
  | .deleteChain chain =>
    if (t.chains chain).any (·.isEmpty) ∧ ∀ main ∈ MainChain.all,
      .jump chain ∉ t.mains main then t.setChain chain none
    else t
  | .newChain chain => t.setChain chain (some ((t.chains chain).getD []))
  | .append chain rule => t.setChain chain ((t.chains chain).map (· ++ [rule]))
  | .insert chain rule => t.setChain chain ((t.chains chain).map (rule :: ·))
  | .insertJump main chain =>
    if (t.chains chain).isSome then t.setMain main (.jump chain :: t.mains main) else t
  | .deleteRule main rule => t.setMain main ((t.mains main).erase (.other rule))
  | .addAddress address => if address ∈ t.addresses then t else { t with addresses := address :: t.addresses }
  | .delAddress address => { t with addresses := t.addresses.filter (· ≠ address) }

def run (commands : List (NatCommand κ ρ α)) (t : NatTable κ ρ α) : NatTable κ ρ α := commands.foldl apply t

end NatTable

namespace NatCommand
variable {κ ρ α : Type} [DecidableEq κ]

/-- What a command does to one chain, which depends on nothing else of the
table. -/
def onSlot (chain : κ) (slot : ChainSlot ρ) : NatCommand κ ρ α → ChainSlot ρ
  | .flush other => if other = chain then { slot with rules := slot.rules.map (fun _ => []) } else slot
  | .deleteJump main other =>
    if other = chain then { slot with jumps := Function.update slot.jumps main (slot.jumps main - 1) } else slot
  | .deleteChain other =>
    if other = chain ∧ slot.rules.any (·.isEmpty) ∧ ∀ main ∈ MainChain.all, slot.jumps main = 0 then
      { slot with rules := none }
    else slot
  | .newChain other => if other = chain then { slot with rules := some (slot.rules.getD []) } else slot
  | .append other rule => if other = chain then { slot with rules := slot.rules.map (· ++ [rule]) } else slot
  | .insert other rule => if other = chain then { slot with rules := slot.rules.map (rule :: ·) } else slot
  | .insertJump main other =>
    if other = chain ∧ slot.rules.isSome then
      { slot with jumps := Function.update slot.jumps main (slot.jumps main + 1) }
    else slot
  | .deleteRule _ _ | .addAddress _ | .delAddress _ => slot

/-- The chain that a command is about. -/
def chain? : NatCommand κ ρ α → Option κ
  | .flush chain | .deleteJump _ chain | .deleteChain chain | .newChain chain | .append chain _ | .insert chain _
  | .insertJump _ chain => some chain
  | .deleteRule _ _ | .addAddress _ | .delAddress _ => none

/-- The commands that are not about addresses. -/
def spares : NatCommand κ ρ α → Bool
  | .addAddress _ | .delAddress _ => false
  | _ => true

theorem onSlot_other {chain : κ} {command : NatCommand κ ρ α} (other : command.chain? ≠ some chain)
    (slot : ChainSlot ρ) :
    command.onSlot chain slot = slot := by
  cases command <;> simp only [chain?, ne_eq, Option.some.injEq] at other <;> simp [onSlot, other]

theorem foldl_onSlot_other {chain : κ} {commands : List (NatCommand κ ρ α)}
    (others : ∀ command ∈ commands, command.chain? ≠ some chain) (slot : ChainSlot ρ) :
    commands.foldl (onSlot chain) slot = slot := by
  induction commands with
  | nil => rfl
  | cons command rest ih =>
    rw [List.foldl_cons, onSlot_other (others command List.mem_cons_self)]
    exact ih (fun other member => others other (List.mem_cons_of_mem _ member))

/-- The rules of a chain are added one after the other. -/
theorem foldl_append_rules {chain : κ} (rules : List ρ) {slot : ChainSlot ρ} {old : List ρ}
    (there : slot.rules = some old) :
    (rules.map (append chain) : List (NatCommand κ ρ α)).foldl (onSlot chain) slot =
      { slot with rules := some (old ++ rules) } := by
  induction rules generalizing slot old with
  | nil => exact ChainSlot.ext (by simpa using there) rfl
  | cons rule rest ih =>
    have step : onSlot chain slot (append chain rule : NatCommand κ ρ α) =
      { slot with rules := some (old ++ [rule]) } := by
      simp [onSlot, there]
    rw [List.map_cons, List.foldl_cons, step, ih rfl]
    simp

theorem onSlot_insertJump {chain : κ} (main : MainChain) (rules : List ρ) :
    onSlot chain ⟨some rules, fun _ => 0⟩ (insertJump main chain : NatCommand κ ρ α) = .entered main rules := by
  have one : Function.update (fun _ => 0) main 1 = fun other => if other = main then 1 else 0 := by
    funext other
    by_cases same : other = main
    · rw [same, Function.update_self, if_pos rfl]
    · rw [Function.update_of_ne same, if_neg same]
  rw [onSlot, if_pos ⟨rfl, rfl⟩]
  exact ChainSlot.ext rfl one

end NatCommand

namespace NatTable
variable {κ ρ α : Type} [DecidableEq κ] [DecidableEq ρ] [DecidableEq α] {t : NatTable κ ρ α} {chain : κ}

omit [DecidableEq α] in
theorem slot_setChain (other : κ) (rules : Option (List ρ)) : (t.setChain other rules).slot chain =
    if other = chain then { t.slot chain with rules } else t.slot chain := by
  split
  · rename_i same
    rw [same]
    refine ChainSlot.ext ?_ rfl
    simp [setChain, slot]
  · rename_i different
    refine ChainSlot.ext ?_ rfl
    simp [setChain, slot, Function.update_of_ne (fun same : chain = other => different same.symm)]

omit [DecidableEq α] in
theorem slot_setMain (main : MainChain) (rules : List (MainRule κ ρ)) : (t.setMain main rules).slot chain =
    { t.slot chain with jumps := Function.update (t.slot chain).jumps main (rules.count (.jump chain)) } := by
  refine ChainSlot.ext rfl (funext (fun other => ?_))
  by_cases same : other = main
  · rw [same]
    simp [setMain, slot]
  · simp [setMain, slot, Function.update_of_ne same]

omit [DecidableEq α] in
theorem slot_setMain_same {main : MainChain} {rules : List (MainRule κ ρ)}
    (same : rules.count (.jump chain) = (t.mains main).count (.jump chain)) :
    (t.setMain main rules).slot chain = t.slot chain := by
  rw [slot_setMain, same]
  exact ChainSlot.ext rfl (Function.update_eq_self main (t.slot chain).jumps)

theorem slot_apply (chain : κ) (t : NatTable κ ρ α) (command : NatCommand κ ρ α) :
    (t.apply command).slot chain = command.onSlot chain (t.slot chain) := by
  cases command with
  | flush other =>
    rw [apply, slot_setChain, NatCommand.onSlot]
    split
    · rename_i same
      rw [same]
      rfl
    · rfl
  | deleteJump main other =>
    rw [apply, NatCommand.onSlot]
    split
    · rename_i same
      rw [slot_setMain, same, List.count_erase_self]
      rfl
    · rename_i different
      exact slot_setMain_same (List.count_erase_of_ne (fun same => different (MainRule.jump.inj same).symm))
  | deleteChain other =>
    have zero : ((t.chains other).any (·.isEmpty) ∧ ∀ main ∈ MainChain.all, .jump other ∉ t.mains main) ↔
        (t.slot other).rules.any (·.isEmpty) ∧ ∀ main ∈ MainChain.all, (t.slot other).jumps main = 0 := by
      simp only [slot, List.count_eq_zero]
    rw [apply]
    by_cases same : other = chain
    · subst same
      simp only [NatCommand.onSlot, zero, true_and]
      split
      · rw [slot_setChain, if_pos rfl]
      · rfl
    · rw [NatCommand.onSlot_other (by simpa [NatCommand.chain?] using same)]
      split
      · rw [slot_setChain, if_neg same]
      · rfl
  | newChain other =>
    rw [apply, slot_setChain, NatCommand.onSlot]
    split
    · rename_i same
      rw [same]
      rfl
    · rfl
  | append other rule =>
    rw [apply, slot_setChain, NatCommand.onSlot]
    split
    · rename_i same
      rw [same]
      rfl
    · rfl
  | insert other rule =>
    rw [apply, slot_setChain, NatCommand.onSlot]
    split
    · rename_i same
      rw [same]
      rfl
    · rfl
  | insertJump main other =>
    rw [apply]
    by_cases same : other = chain
    · subst same
      simp only [NatCommand.onSlot, true_and]
      split
      · rename_i there
        rw [if_pos (show (t.slot other).rules.isSome from there), slot_setMain, List.count_cons_self]
        rfl
      · rename_i missing
        rw [if_neg (show ¬ (t.slot other).rules.isSome from missing)]
    · rw [NatCommand.onSlot_other (by simpa [NatCommand.chain?] using same)]
      split
      · exact slot_setMain_same (List.count_cons_of_ne (fun equal => same (MainRule.jump.inj equal)))
      · rfl
  | deleteRule main rule => exact slot_setMain_same (List.count_erase_of_ne (by simp))
  | addAddress address =>
    rw [apply]
    split
    · rfl
    · rfl
  | delAddress address => rfl

/-- A run of commands does to a chain what they do to it one after the
other. -/
theorem slot_run (chain : κ) (commands : List (NatCommand κ ρ α)) (t : NatTable κ ρ α) :
    (t.run commands).slot chain = commands.foldl (NatCommand.onSlot chain) (t.slot chain) := by
  induction commands generalizing t with
  | nil => rfl
  | cons command rest ih =>
    have later := ih (t.apply command)
    rw [slot_apply] at later
    exact later

theorem slot_run_other {commands : List (NatCommand κ ρ α)}
    (others : ∀ command ∈ commands, command.chain? ≠ some chain) (t : NatTable κ ρ α) :
    (t.run commands).slot chain = t.slot chain := by
  rw [slot_run]
  exact NatCommand.foldl_onSlot_other others _

theorem run_append (first second : List (NatCommand κ ρ α)) (t : NatTable κ ρ α) :
    t.run (first ++ second) = (t.run first).run second := List.foldl_append

omit [DecidableEq α] in
theorem slot_empty : (empty : NatTable κ ρ α).slot chain = ChainSlot.absent := rfl

/-- The built-in chains of the table have jumps only. -/
def OnlyJumps (t : NatTable κ ρ α) : Prop := ∀ main rule, .other rule ∉ t.mains main

omit [DecidableEq κ] [DecidableEq ρ] [DecidableEq α] in
theorem OnlyJumps.setMain (only : OnlyJumps t) {main : MainChain} {rules : List (MainRule κ ρ)}
    (jumps : ∀ rule, .other rule ∉ rules) :
    OnlyJumps (t.setMain main rules) := by
  intro other rule
  by_cases same : other = main
  · rw [same]
    simpa [NatTable.setMain] using jumps rule
  · simpa [NatTable.setMain, Function.update_of_ne same] using only other rule

theorem OnlyJumps.apply (only : OnlyJumps t) (command : NatCommand κ ρ α) : OnlyJumps (t.apply command) := by
  cases command with
  | deleteJump main other => exact only.setMain (fun rule member => only main rule (List.mem_of_mem_erase member))
  | deleteRule main other => exact only.setMain (fun rule member => only main rule (List.mem_of_mem_erase member))
  | insertJump main other =>
    rw [NatTable.apply]
    split
    · exact only.setMain (fun rule member => only main rule (by simpa using member))
    · exact only
  | deleteChain other =>
    rw [NatTable.apply]
    split
    · exact only
    · exact only
  | addAddress address =>
    rw [NatTable.apply]
    split
    · exact only
    · exact only
  | _ => exact only

theorem OnlyJumps.run (only : OnlyJumps t) (commands : List (NatCommand κ ρ α)) : OnlyJumps (t.run commands) := by
  induction commands generalizing t with
  | nil => exact only
  | cons command rest ih => exact ih (only.apply command)

theorem mem_addresses_addAddress (address other : α) :
    other ∈ (t.apply (.addAddress address)).addresses ↔ other ∈ t.addresses ∨ other = address := by
  rw [apply]
  split
  · rename_i member
    refine ⟨Or.inl, fun either => either.elim id (fun same => ?_)⟩
    rw [same]
    exact member
  · rw [List.mem_cons, or_comm]

theorem mem_addresses_delAddress (address other : α) :
    other ∈ (t.apply (.delAddress address)).addresses ↔ other ∈ t.addresses ∧ other ≠ address := by
  rw [apply, List.mem_filter, decide_eq_true_iff]

theorem addresses_run {commands : List (NatCommand κ ρ α)} (spare : ∀ command ∈ commands, command.spares)
    (t : NatTable κ ρ α) : (t.run commands).addresses = t.addresses := by
  induction commands generalizing t with
  | nil => rfl
  | cons command rest ih =>
    have later := ih (fun other member => spare other (List.mem_cons_of_mem _ member)) (t.apply command)
    have own : (t.apply command).addresses = t.addresses := by
      have spares := spare command List.mem_cons_self
      cases command with
      | addAddress address => cases spares
      | delAddress address => cases spares
      | deleteChain other => rw [apply]; split <;> rfl
      | insertJump main other => rw [apply]; split <;> rfl
      | _ => rfl
    rw [own] at later
    exact later

end NatTable

section Removal
variable {κ ρ α : Type} [DecidableEq κ]

/-- A chain is emptied, no longer entered, and goes. -/
def removeChain (main : MainChain) (chain : κ) : List (NatCommand κ ρ α) :=
  [.flush chain, .deleteJump main chain, .deleteChain chain]

/-- A chain that is entered once, from where it should be, is removed. -/
theorem removeChain_slot {main : MainChain} {chain : κ} {slot : ChainSlot ρ}
    (clean : slot = .absent ∨ ∃ rules, slot = .entered main rules) :
    (removeChain main chain : List (NatCommand κ ρ α)).foldl (NatCommand.onSlot chain) slot = .absent := by
  have zero : Function.update (fun other => if other = main then 1 else 0) main 0 = fun _ : MainChain =>
    (0 : Nat) := by
    funext other
    by_cases same : other = main
    · rw [same, Function.update_self]
    · rw [Function.update_of_ne same, if_neg same]
  rcases clean with rfl | ⟨rules, rfl⟩
  · simp [removeChain, NatCommand.onSlot, ChainSlot.absent]
  · simp [removeChain, NatCommand.onSlot, ChainSlot.absent, ChainSlot.entered, zero]

end Removal

end DbcNode
