import DbcNode.Task.NatViews
import DbcNode.Task.Records

namespace DbcNode.Host

/-- What an operation on a task does to the table, by what it does to the
task's record and domain. -/
inductive NatEffect (taskId : Bytes) (h k : Host) : Prop
  | same (nat : k.nat = h.nat) (iptable : k.taskIptables.find taskId = h.taskIptables.find taskId)
      (state : (k.domains.find taskId).map (·.state) = (h.domains.find taskId).map (·.state))
  | bare (nat : k.nat = h.nat) (before : h.taskIptables.find taskId = none)
    (after : k.taskIptables.find taskId = none)
      (settled : ∀ state, (k.domains.find taskId).map (·.state) = some state → state = .running ∨ state = .shutoff)
  | added (nat : k.nat = natCalls .added (k.taskIptables.find taskId) h.nat)
      (runs : (k.domains.find taskId).map (·.state) = some .running)
      (iptable : k.taskIptables.find taskId = h.taskIptables.find taskId ∨ h.taskIptables.find taskId = none ∧
        ∀ r, k.taskIptables.find taskId = some r → r.taskId = taskId ∧
          (h.taskInfos.find taskId).map (·.publicIp) = some r.publicIp)
  | removed (nat : k.nat = natCalls .removed (h.taskIptables.find taskId) h.nat)
      (iptable : k.taskIptables.find taskId = h.taskIptables.find taskId)
      (stops : (k.domains.find taskId).map (·.state) = some .shutoff)

/-- An operation on a task that leaves its public ip alone keeps the table
in order. -/
theorem NatKept.effect {nic taskId : Bytes} {h k : Host} {parts : Set Part} (kept : NatKept nic h)
    (only : Only parts h k) (within : Within taskId parts) (ports : .ports taskId ∉ parts)
    (effect : NatEffect taskId h k) : NatKept nic k := by
  have views := natViews_within only within
  have address := only.address ports
  have fits := kept.records.fits taskId
  have records : (k.natViews taskId).Fits taskId → NatRecords k.natViews := by
    intro after
    rw [views]
    exact kept.records.update_same after (Or.inl address)
  cases effect with
  | same nat iptable state =>
    have view : k.natViews taskId = h.natViews taskId := by
      have first : (k.natViews taskId).iptable = (h.natViews taskId).iptable := iptable
      have last : (k.natViews taskId).state = (h.natViews taskId).state := state
      cases after : k.natViews taskId
      cases before : h.natViews taskId
      rw [after, before] at first last address
      exact (NatView.mk.injEq ..).mpr ⟨first, address, last⟩
    exact kept.quiet views (records (view ▸ fits)) nat (by rw [view])
  | bare nat before after settled =>
    have none : ∀ r, (k.natViews taskId).iptable ≠ some r := fun r found => by cases after.symm.trans found
    refine kept.quiet views (records ⟨?_, ?_, ?_, settled⟩) nat ?_
    · exact fun r found => (none r found).elim
    · exact fun r found => (none r found).elim
    · exact fun r found => (none r found).elim
    · rw [NatView.installed_none after, NatView.installed_none before]
  | added nat runs iptable =>
    have runs : (k.natViews taskId).state = some .running := runs
    have settled : ∀ state, (k.natViews taskId).state = some state → state = .running ∨ state = .shutoff := by
      intro state found
      rw [runs] at found
      exact Or.inl (Option.some.inj found).symm
    have defined : (k.natViews taskId).state.isSome := by
      rw [runs]
      rfl
    rcases iptable with same | ⟨missing, own⟩
    · have same : (k.natViews taskId).iptable = (h.natViews taskId).iptable := same
      refine kept.added views (records ⟨fun r found => ?_, fun r found => ?_, fun _ _ => defined, settled⟩) nat runs
        (Or.inr same)
      · exact fits.named r (same ▸ found)
      · rw [address]
        exact fits.owned r (same ▸ found)
    · refine kept.added views (records ⟨fun r found => ?_, fun r found => ?_, fun _ _ => defined, settled⟩) nat runs
        (Or.inl (NatView.installed_none missing))
      · exact (own r found).1
      · rw [address]
        exact (own r found).2
  | removed nat iptable stops =>
    have stops : (k.natViews taskId).state = some .shutoff := stops
    have same : (k.natViews taskId).iptable = (h.natViews taskId).iptable := iptable
    refine kept.removed views (records ⟨fun r found => ?_, fun r found => ?_, fun r found => ?_,
      fun state found => ?_⟩) nat
      (NatView.installed_shutoff stops)
    · exact fits.named r (same ▸ found)
    · rw [address]
      exact fits.owned r (same ▸ found)
    · rw [stops]
      rfl
    · rw [stops] at found
      exact Or.inr (Option.some.inj found).symm

/-- What touches none of the parts that count keeps the table in order. -/
theorem NatKept.frame {nic : Bytes} {h k : Host} {parts : Set Part} (kept : NatKept nic h) (only : Only parts h k)
    (outside : ∀ taskId, .iptable taskId ∉ parts ∧ .ports taskId ∉ parts ∧ .state taskId ∉ parts)
    (nat : .nat ∉ parts) :
    NatKept nic k := by
  have views : k.natViews = h.natViews :=
    funext (fun taskId => natViews_eq_of_only only (outside taskId).1 (outside taskId).2.1 (outside taskId).2.2)
  refine ⟨?_, views ▸ kept.records⟩
  have exact := kept.exact
  unfold NatExact at exact ⊢
  rw [only.nat nat, installed_eq, views, ← installed_eq]
  exact exact

/-- The domains run or are shut off. -/
def UpOrDown (taskId : Bytes) (h : Host) : Prop :=
  ∀ state, (h.domains.find taskId).map (·.state) = some state → state = .running ∨ state = .shutoff

section Domains
variable {w : World} {taskId : Bytes} {h k : Host}

theorem setDomain_state (taskId : Bytes) (domain : Domain) (h : Host) :
    ((h.setDomain taskId domain).domains.find taskId).map (·.state) = some domain.state := by
  rw [setDomain, OrdMap.find_insert_self]
  rfl

theorem startDomain_true (settled : UpOrDown taskId h) (ran : h.startDomain w taskId = (true, k)) :
    (k.domains.find taskId).map (·.state) = some .running := by
  unfold startDomain at ran
  split at ran
  · cases ran
  · rename_i domain found
    have either := settled domain.state (by rw [found]; rfl)
    split at ran
    · split at ran
      · cases ran
        exact setDomain_state _ _ _
      · cases ran
    · rename_i busy
      have runs : domain.state = .running := either.elim id (fun stops => (busy (Or.inr stops)).elim)
      rw [runs] at ran
      rw [if_neg (by decide)] at ran
      cases ran
      rw [found, Option.map_some, runs]

theorem startDomain_false (ran : h.startDomain w taskId = (false, k)) : k = h := by
  unfold startDomain at ran
  split at ran
  · cases ran
    rfl
  · split at ran
    · split at ran <;> cases ran
      rfl
    · split at ran
      · split at ran <;> cases ran
        rfl
      · cases ran

theorem destroyDomain_true (ran : h.destroyDomain w taskId = (true, k)) :
    (k.domains.find taskId).map (·.state) = some .shutoff := by
  unfold destroyDomain at ran
  split at ran
  · cases ran
  · rename_i domain found
    split at ran
    · rename_i stops
      cases ran
      rw [found, Option.map_some, stops]
    · split at ran <;> cases ran
      exact setDomain_state _ _ _

theorem destroyDomain_false (ran : h.destroyDomain w taskId = (false, k)) : k = h := by
  unfold destroyDomain at ran
  split at ran
  · cases ran
    rfl
  · split at ran
    · cases ran
    · split at ran <;> cases ran
      rfl

theorem startDomain_starts (down : (h.domains.find taskId).map (·.state) = some .shutoff)
    (creates : w.createDomain) : (h.startDomain w taskId).1 = true := by
  obtain ⟨domain, found, state⟩ := Option.map_eq_some_iff.mp down
  unfold startDomain
  rw [found]
  dsimp only
  rw [if_pos (Or.inr state), if_pos creates]

theorem runs_of_exist (up : UpOrDown taskId h) (exist : h.isExistDomain taskId)
    (notDown : h.getDomainStatus taskId ≠ .shutoff) :
    h.getDomainStatus taskId = .running := by
  obtain ⟨domain, found⟩ := Option.isSome_iff_exists.mp exist
  rw [getDomainStatus_of_find found] at notDown ⊢
  exact (up domain.state (by rw [found]; rfl)).resolve_right notDown

/-- A domain that is made had not been there, and runs; one that is not made
was there, or is shut off. -/
theorem defineAndCreate_state (info : TaskInfo) (disks : List (Bytes × Bytes)) {made : Bool}
    (ran : h.defineAndCreate w taskId info disks = (made, k)) :
    made = true ∧ h.isExistDomain taskId = false ∧ (k.domains.find taskId).map (·.state) = some .running ∨
      made = false ∧ (k.domains = h.domains ∨
        h.isExistDomain taskId = false ∧ (k.domains.find taskId).map (·.state) = some .shutoff) := by
  unfold defineAndCreate at ran
  extract_lets xml at ran
  split at ran
  · cases ran
    exact Or.inr ⟨rfl, Or.inl rfl⟩
  · rename_i free
    have missing : h.isExistDomain taskId = false := by
      rw [Bool.eq_false_iff]
      exact fun exist => free (Or.inl exist)
    split at ran
    · cases ran
      exact Or.inr ⟨rfl, Or.inr ⟨missing, setDomain_state _ _ _⟩⟩
    · cases ran
      exact Or.inl ⟨rfl, missing, setDomain_state _ _ _⟩

end Domains

section Jobs
variable {w : World} {taskId : Bytes} {h k : Host}

/-- A new record is the task's own; without one, the domain is told to
stop. -/
theorem openNetwork_cases {done : Bool} (info : TaskInfo) (ran : h.openNetwork w taskId info = (done, k)) :
    (done = true ∧ ∃ r, r.taskId = taskId ∧ r.publicIp = info.publicIp ∧
      k = { h with taskIptables := h.taskIptables.insert taskId r }) ∨
    done = false ∧ k = (h.destroyDomain w taskId).2 := by
  unfold openNetwork at ran
  split at ran
  · rename_i opened made
    cases ran
    unfold createTaskIptable at made
    split at made
    · cases made
      exact Or.inl ⟨rfl, _, rfl, rfl, rfl⟩
    · cases made
  · rename_i opened made
    cases ran
    unfold createTaskIptable at made
    split at made
    · cases made
    · cases made
      exact Or.inr ⟨rfl, rfl⟩

theorem UpOrDown.of_some {state : DomainState} (up : state = .running ∨ state = .shutoff)
    (found : (h.domains.find taskId).map (·.state) = some state) : UpOrDown taskId h := by
  intro other has
  rw [found] at has
  exact Option.some.inj has ▸ up

theorem UpOrDown.destroyDomain (up : UpOrDown taskId h) : UpOrDown taskId (h.destroyDomain w taskId).2 := by
  rcases ran : h.destroyDomain w taskId with ⟨done, k⟩
  cases done with
  | true => exact .of_some (Or.inr rfl) (destroyDomain_true ran)
  | false => exact destroyDomain_false ran ▸ up

/-- The end of an operation that has the task running. -/
theorem NatEffect.settleAdded {l : Host} (pending status : TaskStatus)
    (runs : (l.domains.find taskId).map (·.state) = some .running) (nat : l.nat = h.nat)
    (iptable : l.taskIptables.find taskId = h.taskIptables.find taskId ∨ h.taskIptables.find taskId = none ∧
      ∀ r, l.taskIptables.find taskId = some r → r.taskId = taskId ∧
        (h.taskInfos.find taskId).map (·.publicIp) = some r.publicIp) :
    NatEffect taskId h ((l.settle taskId pending status).addIptableToSystem taskId) := by
  have settled := settle_only taskId l pending status
  have added := addIptableToSystem_only taskId (l.settle taskId pending status)
  have same : ((l.settle taskId pending status).addIptableToSystem taskId).taskIptables.find taskId =
      l.taskIptables.find taskId := (added.iptable (by simp)).trans (settled.iptable (by simp))
  refine .added ?_ ?_ ?_
  · rw [addIptableToSystem_nat, settled.nat (by simp), nat, added.iptable (by simp)]
  · exact (added.state (by simp)).trans ((settled.state (by simp)).trans runs)
  · rw [same]
    exact iptable

/-- The end of an operation that changed nothing but a status. -/
theorem NatEffect.settled (pending status : TaskStatus) : NatEffect taskId h (h.settle taskId pending status) := by
  have settled := settle_only taskId h pending status
  exact .same (settled.nat (by simp)) (settled.iptable (by simp)) (settled.state (by simp))

/-- A task that starts has its rules added; one that never had an address
may get one. -/
theorem processStartTask_effect (up : UpOrDown taskId h) : NatEffect taskId h (h.processStartTask w taskId) := by
  unfold processStartTask
  split
  · exact .same rfl rfl rfl
  · rename_i info found
    have only := startDomain_only w taskId (h := h)
    split
    · rename_i k failed
      rw [startDomain_false failed]
      exact .settled _ _
    · rename_i k started
      rw [started] at only
      have runs := startDomain_true up started
      have iptable : k.taskIptables.find taskId = h.taskIptables.find taskId := only.iptable (by simp)
      have nat := only.nat (by simp)
      split
      · rename_i missing
        have none : h.taskIptables.find taskId = none := by
          rw [← iptable]
          exact Option.isNone_iff_eq_none.mp missing.2
        rcases opened : k.openNetwork w taskId info with ⟨done, l⟩
        rcases openNetwork_cases info opened with ⟨rfl, r, named, owned, rfl⟩ | ⟨rfl, rfl⟩
        · refine .settleAdded _ _ runs nat (Or.inr ⟨none, fun other has => ?_⟩)
          have same : r = other := Option.some.inj ((OrdMap.find_insert_self _ _ _).symm.trans has)
          rw [← same, found]
          exact ⟨named, congrArg some owned.symm⟩
        · have stopped := destroyDomain_only w taskId (h := k)
          have settled := settle_only taskId (k.destroyDomain w taskId).2 .starting .startTaskError
          have still : UpOrDown taskId (k.destroyDomain w taskId).2 :=
            (UpOrDown.of_some (Or.inl rfl) runs).destroyDomain
          refine .bare ?_ none ?_ (fun state has => still state ?_)
          · exact (settled.nat (by simp)).trans ((stopped.nat (by simp)).trans nat)
          · exact (settled.iptable (by simp)).trans ((stopped.iptable (by simp)).trans (iptable.trans none))
          · exact (settled.state (by simp)).symm.trans has
      · exact .settleAdded _ _ runs nat (Or.inl iptable)

/-- A task that is stopped has its rules removed. -/
theorem NatEffect.stopped {l m : Host} (stopped : h.destroyDomain w taskId = (true, l)) {parts : Set Part}
    (only : Only parts l m) (iptable : .iptable taskId ∉ parts) (state : .state taskId ∉ parts) (nat : .nat ∉ parts)
    {after : Set Part} (last : Only after (m.removeIptableFromSystem taskId) k) (iptable' : .iptable taskId ∉ after)
    (state' : .state taskId ∉ after) (nat' : .nat ∉ after) : NatEffect taskId h k := by
  have first := destroyDomain_only w taskId (h := h)
  rw [stopped] at first
  have removed := removeIptableFromSystem_only taskId m
  have same : m.taskIptables.find taskId = h.taskIptables.find taskId :=
    (only.iptable iptable).trans (first.iptable (by simp))
  refine .removed ?_ ?_ ?_
  · rw [last.nat nat', removeIptableFromSystem_nat, same, only.nat nat, first.nat (by simp)]
  · exact (last.iptable iptable').trans ((removed.iptable (by simp)).trans same)
  · exact (last.state state').trans
      ((removed.state (by simp)).trans ((only.state state).trans (destroyDomain_true stopped)))

theorem processStop_effect (pending failed : TaskStatus) :
    NatEffect taskId h (processStop w taskId pending failed h).2 := by
  unfold processStop
  split
  · exact .same rfl rfl rfl
  · rename_i info found
    split
    · rename_i k refused
      rw [destroyDomain_false refused]
      exact .settled _ _
    · rename_i k stopped
      exact .stopped stopped (settle_only taskId k pending .shutoff) (by simp) (by simp) (by simp)
        (recordRootBackfile_confined taskId info _) (by simp) (by simp) (by simp)

theorem closeTask_effect : NatEffect taskId h (h.closeTask w taskId) := by
  unfold closeTask
  split
  · exact .same rfl rfl rfl
  · split
    · rename_i k refused
      rw [destroyDomain_false refused]
      exact .same rfl rfl rfl
    · rename_i k stopped
      exact .stopped stopped (setTaskStatus_only taskId k .shutoff) (by simp) (by simp) (by simp)
        (.refl _ : Only (∅ : Set Part) _ _) (Set.notMem_empty _) (Set.notMem_empty _) (Set.notMem_empty _)

/-- A start at the end of a restart. -/
theorem startAgain_effect {l : Host} (up : UpOrDown taskId l) (nat : l.nat = h.nat)
    (iptable : l.taskIptables.find taskId = h.taskIptables.find taskId)
    (failed : (l.startDomain w taskId).1 = false → NatEffect taskId h (l.restarted taskId false)) :
    NatEffect taskId h ((l.startDomain w taskId).2.restarted taskId (l.startDomain w taskId).1) := by
  have only := startDomain_only w taskId (h := l)
  rcases ran : l.startDomain w taskId with ⟨done, k⟩
  rw [ran] at only failed
  cases done with
  | true =>
    exact .settleAdded _ _ (startDomain_true up ran) ((only.nat (by simp)).trans nat)
      (Or.inl ((only.iptable (by simp)).trans iptable))
  | false =>
    rw [startDomain_false ran]
    exact failed rfl

theorem restarted_false : NatEffect taskId h (h.restarted taskId false) := .settled _ _

theorem processRestartTask_effect (up : UpOrDown taskId h) :
    NatEffect taskId h (h.processRestartTask w taskId) := by
  unfold processRestartTask
  split
  · exact .same rfl rfl rfl
  · split
    · exact startAgain_effect up rfl rfl (fun _ => restarted_false)
    · split
      · rename_i runs
        cases h.rebootDomain w taskId with
        | true =>
          refine .settleAdded _ _ ?_ rfl (Or.inl rfl)
          unfold getDomainStatus at runs
          cases state : (h.domains.find taskId).map (·.state) with
          | none =>
            rw [state] at runs
            cases runs
          | some one =>
            rw [state] at runs
            exact congrArg some runs
        | false => exact restarted_false
      · exact .same rfl rfl rfl

/-- A task that is stopped to start again and does not has its rules left
behind. -/
theorem processForceRebootTask_effect (up : UpOrDown taskId h)
    (starts : h.getDomainStatus taskId = .running → w.destroyDomain → (h.taskIptables.find taskId).isSome →
      w.createDomain) :
    NatEffect taskId h (h.processForceRebootTask w taskId) := by
  unfold processForceRebootTask
  split
  · exact .same rfl rfl rfl
  · split
    · exact startAgain_effect up rfl rfl (fun _ => restarted_false)
    · rename_i notDown
      have only := destroyDomain_only w taskId (h := h)
      split
      · rename_i k refused
        rw [destroyDomain_false refused]
        exact restarted_false
      · rename_i k stopped
        rw [stopped] at only
        have down := destroyDomain_true stopped
        have nat := only.nat (by simp)
        have iptable : k.taskIptables.find taskId = h.taskIptables.find taskId := only.iptable (by simp)
        refine startAgain_effect (.of_some (Or.inr rfl) down) nat iptable (fun failed => ?_)
        obtain ⟨exist, why⟩ := destroyDomain_done stopped
        have runs := runs_of_exist up exist notDown
        have settled := settle_only taskId k .restarting .restartTaskError
        cases record : h.taskIptables.find taskId with
        | none =>
          refine .bare ((settled.nat (by simp)).trans nat) record ?_ (fun state has => Or.inr ?_)
          · exact (settled.iptable (by simp)).trans (iptable.trans record)
          · have still : ((k.settle taskId .restarting .restartTaskError).domains.find taskId).map (·.state) =
              some .shutoff :=
              (settled.state (by simp)).trans down
            exact Option.some.inj (has.symm.trans still)
        | some r =>
          have creates := starts runs (why.resolve_left notDown) (by rw [record]; rfl)
          rw [startDomain_starts down creates] at failed
          cases failed

/-- A task that gets its domain had none, and so it had no record. -/
theorem createDomain_effect (defined : ∀ r, h.taskIptables.find taskId = some r → h.isExistDomain taskId)
    (info : TaskInfo) {made : Except (Stop Bytes) Bool} (ran : createDomain w taskId info h = (made, k)) :
    made = .ok true ∧ h.taskIptables.find taskId = none ∧ (k.domains.find taskId).map (·.state) = some .running ∨
      made ≠ .ok true ∧ NatEffect taskId h k := by
  have only := createDomain_confined w taskId info h
  rw [ran] at only
  have iptable : k.taskIptables.find taskId = h.taskIptables.find taskId := Only.iptable only (by simp)
  have nat := Only.nat only (by simp)
  have unmade : k.domains = h.domains → NatEffect taskId h k := fun same => .same nat iptable (by rw [same])
  have none : h.isExistDomain taskId = false → h.taskIptables.find taskId = none := by
    intro missing
    cases found : h.taskIptables.find taskId with
    | none => rfl
    | some r =>
      rw [defined r found] at missing
      cases missing
  have ended : ∀ {l : Host} {disks : List (Bytes × Bytes)} {done : Bool}, l.domains = h.domains →
      l.defineAndCreate w taskId info disks = (done, k) →
      Except.ok (ε := Stop Bytes) done = .ok true ∧ h.taskIptables.find taskId = Option.none ∧
        (k.domains.find taskId).map (·.state) = some .running ∨ Except.ok (ε := Stop Bytes) done ≠ .ok true ∧
          NatEffect taskId h k := by
    intro l disks done same finished
    have exist : l.isExistDomain taskId = h.isExistDomain taskId := by rw [isExistDomain, same, isExistDomain]
    rcases defineAndCreate_state info disks finished with ⟨rfl, missing, runs⟩ | ⟨rfl, unchanged | ⟨missing, stops⟩⟩
    · exact Or.inl ⟨rfl, none (exist ▸ missing), runs⟩
    · exact Or.inr ⟨fun wrong => (by cases wrong), unmade (unchanged.trans same)⟩
    · have none := none (exist ▸ missing)
      refine Or.inr ⟨fun wrong => (by cases wrong),
        .bare nat none (iptable.trans none) (fun state has => Or.inr ?_)⟩
      exact Option.some.inj (has.symm.trans stops)
  unfold createDomain at ran
  split at ran
  · cases ran
    exact ended rfl rfl
  · split at ran
    · rename_i vda vdb _ _
      cases ran
      have images : (h.createImages info.imageName vda.sourceFile vdb.sourceFile).domains = h.domains := by
        unfold createImages writeImage
        dsimp only
        split <;> split <;> rfl
      exact ended images rfl
    · cases ran
      exact Or.inr ⟨fun wrong => (by cases wrong), .same rfl rfl rfl⟩

theorem NatEffect.last {l : Host} {parts : Set Part} (effect : NatEffect taskId h l) (only : Only parts l k)
    (iptable : .iptable taskId ∉ parts) (state : .state taskId ∉ parts) (nat : .nat ∉ parts) :
    NatEffect taskId h k := by
  have iptable := only.iptable iptable
  have state := only.state state
  have nat := only.nat nat
  cases effect with
  | same nat' iptable' state' => exact .same (nat.trans nat') (iptable.trans iptable') (state.trans state')
  | bare nat' before after settled =>
    exact .bare (nat.trans nat') before (iptable.trans after) (fun one has => settled one (state.symm.trans has))
  | added nat' runs iptable' =>
      exact .added (by rw [nat, nat', iptable]) (state.trans runs) (by rw [iptable]; exact iptable')
  | removed nat' iptable' stops => exact .removed (nat.trans nat') (iptable.trans iptable') (state.trans stops)

/-- A new task has its rules added where it runs and has an address. -/
theorem processCreateTask_effect (defined : ∀ r, h.taskIptables.find taskId = some r → h.isExistDomain taskId)
    (biosMode : Bytes) : NatEffect taskId h (processCreateTask w taskId biosMode h).2 := by
  unfold processCreateTask
  split
  · exact .same rfl rfl rfl
  · rename_i info found
    split
    · exact .settled _ _
    · rcases ran : createDomain w taskId info h with ⟨made, k⟩
      have only := createDomain_confined w taskId info h
      rw [ran] at only
      rcases createDomain_effect defined info ran with ⟨rfl, unrecorded, runs⟩ | ⟨unmade, effect⟩
      · have iptable : k.taskIptables.find taskId = h.taskIptables.find taskId := Only.iptable only (by simp)
        have nat := Only.nat only (by simp)
        have without : k.taskIptables.find taskId = none := iptable.trans unrecorded
        split
        · rename_i same
          cases same
        · rename_i same
          cases same
        · rename_i l same
          cases same
          split
          · refine (NatEffect.bare nat unrecorded without (UpOrDown.of_some (Or.inl rfl) runs)).last
              (settle_only taskId k _ _) (by simp) (by simp) (by simp)
          · rcases opened : k.openNetwork w taskId info with ⟨done, l⟩
            rcases openNetwork_cases info opened with ⟨rfl, r, named, owned, rfl⟩ | ⟨rfl, rfl⟩
            · have added := addIptableToSystem_only taskId { k with taskIptables := k.taskIptables.insert taskId r }
              have iptable :
                (Host.addIptableToSystem taskId
                  { k with taskIptables := k.taskIptables.insert taskId r }).taskIptables.find
                  taskId = (k.taskIptables.insert taskId r).find taskId := added.iptable (by simp)
              refine (NatEffect.added ?_ ((added.state (by simp)).trans runs)
                (Or.inr ⟨unrecorded, fun other has => ?_⟩)).last
                ((setLogin_only w taskId _ info).trans (settle_only taskId _ _ _)) (by simp) (by simp) (by simp)
              · rw [addIptableToSystem_nat, iptable]
                exact congrArg _ nat
              · rw [iptable] at has
                have same : r = other := Option.some.inj ((OrdMap.find_insert_self _ _ _).symm.trans has)
                rw [← same, found]
                exact ⟨named, congrArg some owned.symm⟩
            · have stopped := destroyDomain_only w taskId (h := k)
              have still : UpOrDown taskId (k.destroyDomain w taskId).2 :=
                (UpOrDown.of_some (Or.inl rfl) runs).destroyDomain
              exact (NatEffect.bare ((stopped.nat (by simp)).trans nat) unrecorded
                ((stopped.iptable (by simp)).trans without) still).last (settle_only taskId _ _ _) (by simp)
                  (by simp) (by simp)
      · split
        · rename_i same
          cases same
          exact effect
        · rename_i same
          cases same
          exact effect.last (settle_only taskId _ _ _) (by simp) (by simp) (by simp)
        · rename_i same
          cases same
          exact (unmade rfl).elim

end Jobs

end DbcNode.Host
