import DbcNode.Task.Nat

namespace DbcNode

/-- The chain of a task is not there, or it is entered once from where it
should be. -/
def ChainKind.Clean (kind : ChainKind) (slot : ChainSlot Bytes) : Prop :=
  slot = .absent ∨ ∃ rules, slot = .entered kind.main rules

theorem removeChain_about {main : MainChain} {chain : TaskChain} {command : HostCommand}
    (member : command ∈ removeChain main chain) : command.chain? = some chain := by
  simp only [removeChain, List.mem_cons, List.not_mem_nil, or_false] at member
  rcases member with rfl | rfl | rfl <;> rfl

theorem removeChain_other {main : MainChain} {chain other : TaskChain} (different : chain ≠ other) :
    ∀ command ∈ (removeChain main chain : List HostCommand), command.chain? ≠ some other := by
  intro command member about
  rw [removeChain_about member] at about
  exact different (Option.some.inj about)

namespace IptableInfo
variable (nic : Bytes) (r : IptableInfo)

/-- The calls for a record are about the chains of its task. -/
theorem removeChains_about {command : HostCommand} (member : command ∈ r.removeChains) :
    ∃ kind, command.chain? = some ⟨r.taskId, kind⟩ := by
  simp only [removeChains, List.mem_append] at member
  rcases member with (member | member) | member <;> exact ⟨_, removeChain_about member⟩

theorem shellRemove_about {command : HostCommand} (member : command ∈ r.shellRemove nic) {chain : TaskChain}
    (about : command.chain? = some chain) : chain.taskId = r.taskId := by
  rw [shellRemove, List.mem_append, List.mem_append] at member
  rcases member with (chains | address) | old
  · obtain ⟨kind, own⟩ := r.removeChains_about chains
    rw [own] at about
    rw [← Option.some.inj about]
  · split at address
    · rw [List.mem_singleton.mp address] at about
      cases about
    · cases address
  · obtain ⟨rule, _, rfl⟩ := List.mem_map.mp old
    cases about

theorem shellAdd_about {command : HostCommand} (member : command ∈ r.shellAdd nic) {chain : TaskChain}
    (about : command.chain? = some chain) : chain.taskId = r.taskId := by
  simp only [shellAdd, List.mem_append, List.mem_singleton, List.mem_map] at member
  rcases member with (((chains | rfl) | ⟨rule, _, rfl⟩) | rfl) | snat
  · obtain ⟨kind, own⟩ := r.removeChains_about chains
    rw [own] at about
    rw [← Option.some.inj about]
  · rw [← Option.some.inj about]
  · rw [← Option.some.inj about]
  · rw [← Option.some.inj about]
  · unfold addSnat at snat
    split at snat
    · cases snat
    simp only [List.mem_append, List.mem_cons, List.not_mem_nil, or_false] at snat
    rcases snat with (rfl | rfl | rfl) | address
    · rw [← Option.some.inj about]
    · rw [← Option.some.inj about]
    · rw [← Option.some.inj about]
    · split at address
      · rw [List.mem_singleton.mp address] at about
        cases about
      · cases address

theorem slot_shellAdd_other {chain : TaskChain} (other : chain.taskId ≠ r.taskId) (t : HostNat) :
    (t.run (r.shellAdd nic)).slot chain = t.slot chain :=
  NatTable.slot_run_other (fun _ member about => other (r.shellAdd_about nic member about)) t

theorem slot_shellRemove_other {chain : TaskChain} (other : chain.taskId ≠ r.taskId) (t : HostNat) :
    (t.run (r.shellRemove nic)).slot chain = t.slot chain :=
  NatTable.slot_run_other (fun _ member about => other (r.shellRemove_about nic member about)) t

/-- The chains of a task are gone after they were removed. -/
theorem removeChains_slot {kind : ChainKind} {slot : ChainSlot Bytes} (clean : kind.Clean slot) :
    r.removeChains.foldl (NatCommand.onSlot ⟨r.taskId, kind⟩) slot = .absent := by
  have own : (removeChain kind.main ⟨r.taskId, kind⟩ : List HostCommand).foldl
    (NatCommand.onSlot ⟨r.taskId, kind⟩) slot =
      .absent := removeChain_slot clean
  have other : ∀ (main : MainChain) {different : ChainKind}, different ≠ kind → ∀ slot,
      (removeChain main ⟨r.taskId, different⟩ : List HostCommand).foldl (NatCommand.onSlot ⟨r.taskId, kind⟩) slot =
        slot :=
    fun _ _ different => NatCommand.foldl_onSlot_other (removeChain_other (by simpa using different))
  rw [removeChains, List.foldl_append, List.foldl_append]
  cases kind with
  | old =>
    simp only [ChainKind.main] at own
    rw [own, other _ (by simp), other _ (by simp)]
  | dnat =>
    simp only [ChainKind.main] at own
    have first := other .prerouting (show ChainKind.old ≠ .dnat by simp) slot
    rw [first, own, other _ (by simp)]
  | snat =>
    have first := other .prerouting (show ChainKind.old ≠ .snat by simp) slot
    have second := other .prerouting (show ChainKind.dnat ≠ .snat by simp) slot
    rw [first, second]
    exact own

theorem slot_shellRemove {t : HostNat} {kind : ChainKind} (clean : kind.Clean (t.slot ⟨r.taskId, kind⟩)) :
    (t.run (r.shellRemove nic)).slot ⟨r.taskId, kind⟩ = .absent := by
  rw [shellRemove, List.append_assoc, NatTable.run_append, NatTable.slot_run_other, NatTable.slot_run,
    r.removeChains_slot clean]
  intro command member about
  rcases List.mem_append.mp member with address | old
  · split at address
    · rw [List.mem_singleton.mp address] at about
      cases about
    · cases address
  · obtain ⟨rule, _, rfl⟩ := List.mem_map.mp old
    cases about

/-- What is installed does not depend on what the task had before. -/
theorem slot_shellAdd {t : HostNat} {kind : ChainKind} (clean : kind.Clean (t.slot ⟨r.taskId, kind⟩)) :
    (t.run (r.shellAdd nic)).slot ⟨r.taskId, kind⟩ = (NatTable.empty.run (r.shellAdd nic)).slot
      ⟨r.taskId, kind⟩ := by
  simp only [shellAdd, List.append_assoc, NatTable.slot_run, List.foldl_append]
  rw [r.removeChains_slot clean, NatTable.slot_empty, r.removeChains_slot (Or.inl rfl)]

theorem addSnat_about {command : HostCommand} (member : command ∈ r.addSnat nic) :
    command.chain? = some ⟨r.taskId, .snat⟩ ∨ command.chain? = none := by
  unfold addSnat at member
  split at member
  · cases member
  rcases List.mem_append.mp member with chain | address
  · simp only [List.mem_cons, List.not_mem_nil, or_false] at chain
    rcases chain with rfl | rfl | rfl <;> exact Or.inl rfl
  · split at address
    · rw [List.mem_singleton.mp address]
      exact Or.inr rfl
    · cases address

theorem addDnat_about {command : HostCommand} (member : command ∈ ([.newChain ⟨r.taskId, .dnat⟩] ++
    r.dnatRules.map (.append ⟨r.taskId, .dnat⟩) ++ [.insertJump .prerouting ⟨r.taskId, .dnat⟩] :
    List HostCommand)) :
    command.chain? = some ⟨r.taskId, .dnat⟩ := by
  simp only [List.mem_append, List.mem_singleton, List.mem_map] at member
  rcases member with (rfl | ⟨rule, _, rfl⟩) | rfl <;> rfl

/-- The three chains of a record on a table without any. -/
theorem slot_installed_clean (kind : ChainKind) :
    kind.Clean ((NatTable.empty.run (r.shellAdd nic)).slot ⟨r.taskId, kind⟩) := by
  have dnatOther : kind ≠ .dnat →
    ∀ slot, ([.newChain ⟨r.taskId, .dnat⟩] ++ r.dnatRules.map (.append ⟨r.taskId, .dnat⟩) ++
      [.insertJump .prerouting ⟨r.taskId, .dnat⟩] : List HostCommand).foldl
        (NatCommand.onSlot ⟨r.taskId, kind⟩) slot = slot := by
    intro different
    refine NatCommand.foldl_onSlot_other (fun command member about => ?_)
    rw [r.addDnat_about member] at about
    cases about
    exact different rfl
  have snatOther : kind ≠ .snat →
    ∀ slot, (r.addSnat nic).foldl (NatCommand.onSlot ⟨r.taskId, kind⟩) slot = slot := by
    intro different
    refine NatCommand.foldl_onSlot_other (fun command member about => ?_)
    rcases r.addSnat_about nic member with own | none
    · rw [own] at about
      cases about
      exact different rfl
    · rw [none] at about
      cases about
  have removed : r.removeChains.foldl (NatCommand.onSlot ⟨r.taskId, kind⟩) (.absent : ChainSlot Bytes) = .absent :=
    r.removeChains_slot (Or.inl rfl)
  have shape : r.shellAdd nic = r.removeChains ++ ([.newChain ⟨r.taskId, .dnat⟩] ++
      r.dnatRules.map (.append ⟨r.taskId, .dnat⟩) ++ [.insertJump .prerouting ⟨r.taskId, .dnat⟩]) ++
        r.addSnat nic := by
    simp only [shellAdd, List.append_assoc]
  rw [shape, NatTable.slot_run, List.foldl_append, List.foldl_append, NatTable.slot_empty, removed]
  cases kind with
  | old =>
    rw [dnatOther (by simp), snatOther (by simp)]
    exact Or.inl rfl
  | dnat =>
    have made : ([.newChain ⟨r.taskId, .dnat⟩] : List HostCommand).foldl
      (NatCommand.onSlot ⟨r.taskId, .dnat⟩) .absent =
        ⟨some [], fun _ => 0⟩ := by simp [NatCommand.onSlot, ChainSlot.absent]
    refine Or.inr ⟨r.dnatRules, ?_⟩
    rw [snatOther (by simp), List.foldl_append, List.foldl_append, made,
      NatCommand.foldl_append_rules r.dnatRules rfl]
    exact NatCommand.onSlot_insertJump (α := Bytes) _ _
  | snat =>
    have made : NatCommand.onSlot ⟨r.taskId, .snat⟩ .absent (.newChain ⟨r.taskId, .snat⟩ : HostCommand) =
        ⟨some [], fun _ => 0⟩ := by simp [NatCommand.onSlot, ChainSlot.absent]
    have ruled : NatCommand.onSlot ⟨r.taskId, .snat⟩ ⟨some [], fun _ => 0⟩
        (.insert ⟨r.taskId, .snat⟩ r.snatRule : HostCommand) = ⟨some [r.snatRule], fun _ => 0⟩ := by
          simp [NatCommand.onSlot]
    have address : ∀ slot, (if nic ≠ [] then [.addAddress r.publicIp] else [] : List HostCommand).foldl
        (NatCommand.onSlot ⟨r.taskId, .snat⟩) slot = slot := by
      intro slot
      split
      · rfl
      · rfl
    rw [dnatOther (by simp), addSnat]
    split
    · exact Or.inl rfl
    · refine Or.inr ⟨[r.snatRule], ?_⟩
      rw [List.foldl_append, address, List.foldl_cons, made, List.foldl_cons, ruled]
      exact NatCommand.onSlot_insertJump (α := Bytes) _ _

/-- The address that is added for a record. -/
def Owns (address : Bytes) : Prop := address = r.publicIp ∧ r.publicIp ≠ [] ∧ nic ≠ []

theorem removeChains_spare : ∀ command ∈ r.removeChains, command.spares := by
  intro command member
  obtain ⟨kind, about⟩ := r.removeChains_about member
  cases command <;> first | rfl | cases about

theorem addresses_shellAdd (t : HostNat) (address : Bytes) :
    address ∈ (t.run (r.shellAdd nic)).addresses ↔ address ∈ t.addresses ∨ r.Owns nic address := by
  have before : ∀ command ∈ r.removeChains ++ [.newChain ⟨r.taskId, .dnat⟩] ++
      r.dnatRules.map (.append ⟨r.taskId, .dnat⟩) ++ [.insertJump .prerouting ⟨r.taskId, .dnat⟩],
        command.spares := by
    intro command member
    simp only [List.mem_append, List.mem_singleton, List.mem_map] at member
    rcases member with ((chains | rfl) | ⟨rule, _, rfl⟩) | rfl
    · exact r.removeChains_spare command chains
    · rfl
    · rfl
    · rfl
  rw [shellAdd, NatTable.run_append]
  have kept := NatTable.addresses_run before t
  generalize t.run _ = u at kept ⊢
  rw [← kept, addSnat, Owns]
  split
  · rename_i none
    simp [NatTable.run, none]
  · rename_i public_
    rw [NatTable.run_append]
    have chain : (u.run [.newChain ⟨r.taskId, .snat⟩, .insert ⟨r.taskId, .snat⟩ r.snatRule,
        .insertJump .postrouting ⟨r.taskId, .snat⟩]).addresses = u.addresses :=
      NatTable.addresses_run (by simp [NatCommand.spares]) u
    generalize u.run _ = v at chain ⊢
    rw [← chain]
    split
    · rename_i device
      have added := NatTable.mem_addresses_addAddress (t := v) r.publicIp address
      rw [show v.run [.addAddress r.publicIp] = v.apply (.addAddress r.publicIp) from rfl, added]
      simp [public_, device]
    · rename_i device
      simp [NatTable.run, device]

theorem addresses_shellRemove (t : HostNat) (address : Bytes) :
    address ∈ (t.run (r.shellRemove nic)).addresses ↔ address ∈ t.addresses ∧ ¬ r.Owns nic address := by
  rw [shellRemove, NatTable.run_append, NatTable.run_append]
  have old : ∀ command ∈ r.oldRules.map (fun rule => (.deleteRule rule.1 rule.2 : HostCommand)),
    command.spares := by
    intro command member
    obtain ⟨rule, _, rfl⟩ := List.mem_map.mp member
    rfl
  rw [NatTable.addresses_run old]
  have kept := NatTable.addresses_run r.removeChains_spare t
  generalize t.run r.removeChains = u at kept ⊢
  rw [← kept, Owns]
  split
  · rename_i both
    have removed := NatTable.mem_addresses_delAddress (t := u) r.publicIp address
    rw [show u.run [.delAddress r.publicIp] = u.apply (.delAddress r.publicIp) from rfl, removed]
    simp [both.1, both.2]
  · rename_i neither
    have free : ¬ (address = r.publicIp ∧ r.publicIp ≠ [] ∧ nic ≠ []) := fun owns => neither owns.2
    simp only [free, not_false_eq_true, and_true]
    rfl

theorem addresses_installed (address : Bytes) :
    address ∈ (NatTable.empty.run (r.shellAdd nic)).addresses ↔ r.Owns nic address := by
  rw [r.addresses_shellAdd nic]
  simp [NatTable.empty]

end IptableInfo

namespace Installs
variable {nic : Bytes} {t : HostNat} {installed : Bytes → Option IptableInfo} {r : IptableInfo}

theorem empty : Installs nic NatTable.empty (fun _ => none) where
  chains _ := rfl
  jumps _ _ member := by cases member
  addresses address := by simp [NatTable.empty]

theorem clean (installs : Installs nic t installed) (taskId : Bytes) (kind : ChainKind) :
    kind.Clean (t.slot ⟨taskId, kind⟩) := by
  rw [installs.chains]
  cases found : installed taskId with
  | none => exact Or.inl rfl
  | some other =>
    by_cases own : taskId = other.taskId
    · rw [own]
      exact other.slot_installed_clean nic kind
    · refine Or.inl ?_
      exact other.slot_shellAdd_other nic (show (TaskChain.mk taskId kind).taskId ≠ other.taskId from own)
        NatTable.empty

theorem mem_addresses (installs : Installs nic t installed) (address : Bytes) :
    address ∈ t.addresses ↔ ∃ taskId other, installed taskId = some other ∧ other.Owns nic address := by
  rw [installs.addresses]
  simp only [IptableInfo.addresses_installed]

/-- The record of a task that is installed, in the place of one with no
other address. -/
theorem add (installs : Installs nic t installed)
    (own : ∀ old, installed r.taskId = some old → old.publicIp = [] ∨ old.publicIp = r.publicIp) :
    Installs nic (t.run (r.shellAdd nic)) (Function.update installed r.taskId (some r)) where
  chains := by
    rintro ⟨taskId, kind⟩
    by_cases same : taskId = r.taskId
    · subst same
      rw [r.slot_shellAdd nic (installs.clean r.taskId kind), Function.update_self]
      rfl
    · rw [r.slot_shellAdd_other nic same, installs.chains, Function.update_of_ne same]
  jumps := installs.jumps.run _
  addresses := by
    intro address
    simp only [r.addresses_shellAdd nic, installs.mem_addresses, IptableInfo.addresses_installed]
    constructor
    · rintro (⟨taskId, other, found, owns⟩ | owns)
      · by_cases same : taskId = r.taskId
        · subst same
          refine ⟨r.taskId, r, Function.update_self _ _ _, ?_⟩
          obtain ⟨named, some, device⟩ := owns
          rcases own other found with none | equal
          · exact (some none).elim
          · rw [equal] at named some
            exact ⟨named, some, device⟩
        · refine ⟨taskId, other, ?_, owns⟩
          rw [Function.update_of_ne same]
          exact found
      · exact ⟨r.taskId, r, Function.update_self _ _ _, owns⟩
    · rintro ⟨taskId, other, found, owns⟩
      by_cases same : taskId = r.taskId
      · rw [same, Function.update_self] at found
        cases found
        exact Or.inr owns
      · rw [Function.update_of_ne same] at found
        exact Or.inl ⟨taskId, other, found, owns⟩

/-- A record that has the address of its task, and that of no other one, is
removed. -/
theorem remove (installs : Installs nic t installed)
    (own : ∀ old, installed r.taskId = some old → old.publicIp = [] ∨ old.publicIp = r.publicIp)
    (apart : ∀ taskId other, taskId ≠ r.taskId → installed taskId = some other → r.publicIp ≠ [] →
      other.publicIp ≠ r.publicIp) :
    Installs nic (t.run (r.shellRemove nic)) (Function.update installed r.taskId none) where
  chains := by
    rintro ⟨taskId, kind⟩
    by_cases same : taskId = r.taskId
    · subst same
      rw [r.slot_shellRemove nic (installs.clean r.taskId kind), Function.update_self]
      rfl
    · rw [r.slot_shellRemove_other nic same, installs.chains, Function.update_of_ne same]
  jumps := installs.jumps.run _
  addresses := by
    intro address
    simp only [r.addresses_shellRemove nic, installs.mem_addresses, IptableInfo.addresses_installed]
    constructor
    · rintro ⟨⟨taskId, other, found, owns⟩, free⟩
      by_cases same : taskId = r.taskId
      · subst same
        obtain ⟨named, some, device⟩ := owns
        rcases own other found with none | equal
        · exact (some none).elim
        · rw [equal] at named some
          exact (free ⟨named, some, device⟩).elim
      · refine ⟨taskId, other, ?_, owns⟩
        rw [Function.update_of_ne same]
        exact found
    · rintro ⟨taskId, other, found, owns⟩
      by_cases same : taskId = r.taskId
      · rw [same, Function.update_self] at found
        cases found
      · rw [Function.update_of_ne same] at found
        refine ⟨⟨taskId, other, found, owns⟩, ?_⟩
        rintro ⟨named, some, _⟩
        exact apart taskId other same found some (owns.1.symm.trans named)

end Installs

end DbcNode
