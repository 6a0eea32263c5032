import DbcNode.Task.NatModify
import DbcNode.Task.RunningSet

namespace DbcNode.Host
variable {hw : Hardware} {w : World} {taskId : Bytes} {doc : Json} {info : TaskInfo} {h k t : Host}

theorem resetIptables_nat (taskId : Bytes) (h : Host) : (h.resetIptables taskId true).nat =
    natCalls .added (h.taskIptables.find taskId) (natCalls .removed (h.taskIptables.find taskId) h.nat) := by
  have same : (h.removeIptableFromSystem taskId).taskIptables.find taskId = h.taskIptables.find taskId :=
    (removeIptableFromSystem_only taskId h).iptable (by simp)
  rw [resetIptables, if_pos rfl, addIptableToSystem_nat, removeIptableFromSystem_nat, same]

namespace NatKept
variable {nic : Bytes}

/-- The rules of a task that runs are set again. It keeps its address, or
had none. -/
theorem reset (kept : NatKept nic h) (only : Only {.info taskId, .ports taskId, .iptable taskId} h t)
    (records : NatRecords t.natViews)
    (ruled : (t.taskIptables.find taskId).isSome = (h.taskIptables.find taskId).isSome)
    (runs : (h.natViews taskId).state = some .running) (address : ∀ ip, (h.natViews taskId).address = some ip →
      ip = [] ∨ (t.natViews taskId).address = some ip) :
    NatKept nic (t.resetIptables taskId true) := by
  have again : Only {.nat} t (t.resetIptables taskId true) := resetIptables_only taskId true t
  have nat := resetIptables_nat taskId t
  have same : (t.resetIptables taskId true).natViews = t.natViews :=
    funext (fun taskId => natViews_eq_of_only again (by simp) (by simp) (by simp))
  generalize t.resetIptables taskId true = k at again nat same ⊢
  have within : Within taskId {.info taskId, .ports taskId, .iptable taskId} := by simp [Within, Part.owner]
  have views : k.natViews = Function.update h.natViews taskId (t.natViews taskId) :=
    same.trans (natViews_within only within)
  rw [Only.nat only (by simp)] at nat
  have state : (t.natViews taskId).state = some .running := (Only.state only (by simp)).trans runs
  cases found : t.taskIptables.find taskId with
  | none =>
    rw [found] at nat ruled
    have before : (h.natViews taskId).iptable = none :=
      Option.isSome_eq_false_iff.mp ruled.symm |> Option.isNone_iff_eq_none.mp
    have after : (t.natViews taskId).iptable = none := found
    refine kept.quiet views (same ▸ records) nat ?_
    rw [NatView.installed_none before, NatView.installed_none after]
  | some r =>
    rw [found] at nat
    have found : (t.natViews taskId).iptable = some r := found
    have fits := records.fits taskId
    have named := fits.named r found
    have owned := fits.owned r found
    refine ⟨?_, same ▸ records⟩
    have removed : Installs nic (natTable nic (.removed r :: h.nat)) (Function.update h.installed taskId none) := by
      rw [← named]
      refine Installs.remove kept.exact (fun old was => ?_) (fun other one different was some equal => ?_)
      · have was : (h.natViews taskId).installed = some old := named ▸ was
        have own := (kept.records.fits taskId).owned old (NatView.installed_eq_some was)
        rcases address old.publicIp own with none | still
        · exact Or.inl none
        · exact Or.inr (Option.some.inj (still.symm.trans owned))
      · rw [named] at different
        have own := (kept.records.fits other).owned one (NatView.installed_eq_some was)
        have unmoved : t.natViews other = h.natViews other := by
          rw [natViews_within only within, Function.update_of_ne different]
        exact records.apart taskId other r.publicIp different.symm some owned (by rw [unmoved, own, equal])
    have added : Installs nic (natTable nic (.added r :: .removed r :: h.nat))
      (Function.update h.installed taskId (some r)) := by
      have installs := Installs.add (r := r) removed (fun old was => ?_)
      · rwa [named, Function.update_idem] at installs
      · rw [named, Function.update_self] at was
        cases was
    unfold NatExact
    rw [nat, installed_update views, NatView.installed_running state, found]
    exact added

/-- What the table goes by is the same, and so is the table. -/
theorem same (kept : NatKept nic h) (is : NatIs h.natViews h.nat k) : NatKept nic k := by
  obtain ⟨views, nat⟩ := is
  refine ⟨?_, views ▸ kept.records⟩
  have exact := kept.exact
  unfold NatExact at exact ⊢
  rw [nat, installed_eq, views, ← installed_eq]
  exact exact

/-- Records that are changed for a task without rules in the table. -/
theorem unruled (kept : NatKept nic h) (only : Only {.info taskId, .ports taskId, .iptable taskId} h t)
    (records : NatRecords t.natViews)
    (ruled : (t.taskIptables.find taskId).isSome = (h.taskIptables.find taskId).isSome)
    (idle : h.taskIptables.find taskId = none ∨ (h.natViews taskId).state ≠ some .running) : NatKept nic t := by
  have within : Within taskId {.info taskId, .ports taskId, .iptable taskId} := by simp [Within, Part.owner]
  refine kept.quiet (natViews_within only within) records (Only.nat only (by simp)) ?_
  rcases idle with bare | stops
  · have before : (h.natViews taskId).iptable = none := bare
    rw [bare] at ruled
    have after : (t.natViews taskId).iptable = none :=
      Option.isNone_iff_eq_none.mp (Option.isSome_eq_false_iff.mp ruled)
    rw [NatView.installed_none before, NatView.installed_none after]
  · have state : (t.natViews taskId).state = (h.natViews taskId).state := Only.state only (by simp)
    have idle : ∀ v : NatView, v.state = (h.natViews taskId).state → v.installed = none := by
      intro v same
      rcases settled : v.state with _ | one
      · rw [NatView.installed, settled]
        rfl
      · refine NatView.installed_shutoff (settled.trans (congrArg some ?_))
        rw [same] at settled
        exact ((kept.records.fits taskId).settled one settled).resolve_left (fun runs => stops (runs ▸ settled))
    rw [idle _ state, idle _ rfl]

end NatKept

/-- New ports for this task do no harm: it has no rules; or nothing of them
is changed before they are refused, or at all; or the task is stopped, and
they are refused; or it runs, they are not, and no address is left. -/
def PortsKeepNat (w : World) (taskId : Bytes) (doc : Json) (info : TaskInfo) (h : Host) : Prop :=
  (h.taskIptables.find taskId).isNone ∨ Stage.changed (portStages w taskId doc info h) = [] ∨
    if h.getDomainStatus taskId = .running then Stage.refused (portStages w taskId doc info h) = false ∧
      ((ipStage w taskId doc info h).changes = false ∨ info.publicIp = [])
    else Stage.refused (portStages w taskId doc info h) = true

def ModifyKeepsNat (w : World) (taskId : Bytes) (doc : Json) (h : Host) : Prop :=
  ∀ info ∈ h.taskInfos.find taskId, h.isExistDomain taskId → doc.isObject → PortsKeepNat w taskId doc info h

instance (w : World) (taskId : Bytes) (doc : Json) (info : TaskInfo) (h : Host) :
    Decidable (PortsKeepNat w taskId doc info h) :=
  inferInstanceAs (Decidable (_ = true ∨ _ = [] ∨ if _ = _ then _ = false ∧ (_ = false ∨ _ = []) else _ = true))

instance (w : World) (taskId : Bytes) (doc : Json) (h : Host) : Decidable (ModifyKeepsNat w taskId doc h) :=
  inferInstanceAs (Decidable (∀ info ∈ h.taskInfos.find taskId, h.isExistDomain taskId → doc.isObject →
    PortsKeepNat w taskId doc info h))

theorem state_running (runs : h.getDomainStatus taskId = .running) : (h.natViews taskId).state = some .running := by
  change (h.natViews taskId).state.getD .nostate = .running at runs
  cases state : (h.natViews taskId).state with
  | none =>
    rw [state] at runs
    cases runs
  | some one =>
    rw [state] at runs
    exact congrArg some runs

theorem resetIptables_bare {needed : Bool} (bare : h.taskIptables.find taskId = none) :
    h.resetIptables taskId needed = h := by
  have removed : h.removeIptableFromSystem taskId = h := by
    unfold removeIptableFromSystem
    rw [bare]
  unfold resetIptables addIptableToSystem
  rw [removed, bare, ite_self]

/-- Where all stages pass, what is needed is what is changed. -/
theorem changed_of_needed {stages : List (Stage ModifyPart)} (granted : Stage.refused stages = false) :
    stages.any (·.changes) = true ↔ Stage.changed stages ≠ [] := by
  constructor
  · intro needed empty
    obtain ⟨stage, inside, changes⟩ := List.any_eq_true.mp needed
    have member := Stage.mem_changed granted inside changes
    rw [empty] at member
    cases member
  · intro changed
    obtain ⟨part, member⟩ := List.exists_mem_of_ne_nil _ changed
    obtain ⟨stage, inside, _, changes⟩ := Stage.changes_of_mem member
    exact List.any_eq_true.mpr ⟨stage, inside, changes⟩

namespace NatKept
variable {nic : Bytes}

/-- The ports that were tried have changed nothing, or the records of a task
without rules in the table. -/
theorem portsIdle (kept : NatKept nic h) (known : h.taskInfos.find taskId = some info)
    {result : Except (Stop Bytes) Bool} (ran : modifyPorts w taskId doc h = (result, t))
    (idle : t = h ∨ h.taskIptables.find taskId = none ∨ (h.natViews taskId).state ≠ some .running) :
    NatKept nic t := by
  have only := modifyPorts_confined w taskId doc h
  have recorded := Recorded.modifyPorts w doc kept.records known
  rw [ran] at only recorded
  rcases idle with rfl | idle
  · exact kept
  · rcases recorded with ⟨e, same⟩ | recorded
    · cases same
      exact kept
    · exact kept.unruled only recorded.records recorded.ruled idle

/-- Ports that are refused. -/
theorem portsRefused (kept : NatKept nic h) (known : h.taskInfos.find taskId = some info)
    (condition : PortsKeepNat w taskId doc info h) {e : Stop Bytes}
    (ran : modifyPorts w taskId doc h = (.error e, t)) (alive : e ≠ .asserted) : NatKept nic t := by
  have collects := @modifyPorts_collects taskId doc info h w known
  rw [ran] at collects
  rcases condition with bare | unchanged | either
  · exact kept.portsIdle known ran (Or.inr (Or.inl (Option.isNone_iff_eq_none.mp bare)))
  · exact kept.portsIdle known ran (Or.inl (collects.same unchanged))
  · split at either
    · have ended := collects.ends either.1
      split at ended
      · cases ended
        exact (alive rfl).elim
      · cases ended
    · rename_i stops
      exact kept.portsIdle known ran (Or.inr (Or.inr (fun runs => stops (congrArg (·.getD .nostate) runs))))

/-- Ports that are accepted, and the rules that are set again where they
need to be. -/
theorem portsSet (kept : NatKept nic h) (known : h.taskInfos.find taskId = some info)
    (condition : PortsKeepNat w taskId doc info h) {needed : Bool}
    (ran : modifyPorts w taskId doc h = (.ok needed, t)) :
    NatKept nic (t.resetIptables taskId needed) := by
  have collects := @modifyPorts_collects taskId doc info h w known
  have only := modifyPorts_confined w taskId doc h
  have recorded := Recorded.modifyPorts w doc kept.records known
  rw [ran] at collects only recorded
  have passes : Stage.refused (portStages w taskId doc info h) = false := by
    by_contra refused
    obtain ⟨e, failed⟩ := collects.refuses (Bool.eq_true_of_not_eq_false refused)
    cases failed
  have needs : needed = (portStages w taskId doc info h).any (·.changes) := by
    have ended := collects.ends passes
    split at ended
    · cases ended
    · exact Except.ok.inj ended
  cases needed with
  | false =>
    refine kept.portsIdle known ran (Or.inl (collects.same ?_))
    by_contra changed
    have needed := (changed_of_needed passes).mpr changed
    rw [← needs] at needed
    cases needed
  | true =>
    have recorded := recorded.resolve_left (fun ⟨e, failed⟩ => by cases failed)
    rcases condition with bare | unchanged | either
    · have bare := Option.isNone_iff_eq_none.mp bare
      have still : t.taskIptables.find taskId = none := by
        have ruled := recorded.ruled
        rw [bare] at ruled
        exact Option.isNone_iff_eq_none.mp (Option.isSome_eq_false_iff.mp ruled)
      rw [resetIptables_bare still]
      exact kept.portsIdle known ran (Or.inr (Or.inl bare))
    · exact ((changed_of_needed passes).mp needs.symm unchanged).elim
    · split at either
      · rename_i runs
        refine kept.reset only recorded.records recorded.ruled (state_running runs) (fun ip owns => ?_)
        have own : info.publicIp = ip := Option.some.inj ((congrArg (Option.map _) known).symm.trans owns)
        rcases either.2 with unchanged | none
        · refine Or.inr (recorded.address.trans (congrArg some ?_))
          have same : doc.parseString (str "new_public_ip") = info.publicIp := by simpa [ipStage] using unchanged
          exact same.trans own
        · exact Or.inl (own.symm.trans none)
      · rw [passes] at either
        cases either

theorem modifyTask (kept : NatKept nic h) (keeps : ModifyKeepsNat w taskId doc h) (hw : Hardware)
    (alive : (modifyTask hw w taskId doc h).1 ≠ .error .asserted) :
    NatKept nic (modifyTask hw w taskId doc h).2 := by
  by_cases goes : ∃ info, h.taskInfos.find taskId = some info ∧ h.isExistDomain taskId ∧ doc.isObject
  · obtain ⟨info, known, present, object⟩ := goes
    have condition := keeps info known present object
    have granted :
      (refuse (fun _ => if doc.isObject then none else some (str "additional parse failed")) : Call Unit) h =
        (.ok (), h) := by
      unfold refuse
      rw [if_pos object]
    unfold Host.modifyTask at alive ⊢
    rw [Prog.bind_ok (existingTask_found known present), Prog.bind_ok granted, modifyNetwork_eq,
      bind_assoc] at alive ⊢
    rcases ran : modifyPorts w taskId doc h with ⟨result, t⟩
    cases result with
    | error e =>
      rw [Prog.bind_error ran] at alive ⊢
      exact kept.portsRefused known condition ran (fun same => alive (congrArg _ same))
    | ok needed =>
      rw [Prog.bind_ok ran, bind_assoc, Prog.bind_ok (Prog.update_run _ _)]
      exact (kept.portsSet known condition ran).same (NatIs.modifyLater hw w taskId doc _ _ ⟨rfl, rfl⟩)
  · obtain ⟨error, stopped⟩ := @modifyTask_stops taskId doc h hw w
      (fun info known present object => goes ⟨info, known, present, object⟩)
    rw [stopped]
    exact kept

end NatKept

end DbcNode.Host

namespace DbcNode.Host

instance (w : World) (taskId : Bytes) (h : Host) : (job : TaskJob) → Decidable (RebootStarts w taskId h job)
  | .forceRebootTask => inferInstanceAs (Decidable (h.getDomainStatus taskId = .running → w.destroyDomain = true →
      (h.taskIptables.find taskId).isSome = true → w.createDomain = true))
  | .createTask _ | .startTask | .shutdownTask | .powerOffTask | .reStartTask | .resetTask | .deleteTask
    | .resizeDisk _ _ _
  | .addDisk _ _ | .deleteDisk _ | .createSnapshot _ _ _ _ => isTrue trivial

/-- The operations keep the rules of the tasks in order: a new task has a
new id, a modification sets all of its ports or none, a forced restart
starts the task again, and no domain changes by itself. -/
def NatSafe (h : Host) : World × HostEvent → Prop
  | (w, .create _ _ _ _) => h.taskInfos.find w.newTaskId = none ∧ w.newTaskId ≠ []
  | (w, .request _ request) => match request.operation with
    | .modify doc => ModifyKeepsNat w request.taskId doc h
    | _ => True
  | (w, .process) => ∀ event ∈ h.events.head?, RebootStarts w event.taskId h event.job
  | (_, .domainChanges _ _) => False
  | _ => True

instance (h : Host) : (event : World × HostEvent) → Decidable (NatSafe h event)
  | (_, .create _ _ _ _) => inferInstanceAs (Decidable (_ = _ ∧ _ ≠ _))
  | (_, .request _ request) => match request with
    | ⟨taskId, .modify doc⟩ => inferInstanceAs (Decidable (ModifyKeepsNat _ taskId doc h))
    | ⟨_, .list⟩ | ⟨_, .start⟩ | ⟨_, .shutdown⟩ | ⟨_, .poweroff⟩ | ⟨_, .stop⟩ | ⟨_, .restart _⟩ | ⟨_, .reset⟩
      | ⟨_, .delete⟩
    | ⟨_, .passwd _⟩ | ⟨_, .logs _ _⟩ | ⟨_, .listDisk⟩ | ⟨_, .resizeDisk _⟩ | ⟨_, .addDisk _⟩ | ⟨_, .deleteDisk _⟩
    | ⟨_, .listSnapshot _⟩ | ⟨_, .createSnapshot _⟩ | ⟨_, .deleteSnapshot _⟩ => isTrue trivial
  | (w, .process) => inferInstanceAs (Decidable (∀ event ∈ h.events.head?, RebootStarts w event.taskId h event.job))
  | (_, .domainChanges _ _) => isFalse id
  | (_, .deleteImage _) | (_, .close _) | (_, .destroy _) | (_, .uploaded _ _) | (_, .fileAppears _ _) =>
      isTrue trivial

namespace NatKept
variable {nic : Bytes} {hw : Hardware} {w : World} {h k : Host}

theorem request {wallet : Bytes} {request : TaskRequest} (kept : NatKept nic h)
    (safe : NatSafe h (w, .request wallet request)) (ran : h.step hw (w, .request wallet request) = some k) :
    NatKept nic k := by
  have ended := step_request ran
  obtain ⟨taskId, operation⟩ := request
  have only := execute_confined hw w wallet ⟨taskId, operation⟩ h
  rw [ended] at only
  cases operation with
  | modify doc =>
    rcases modified : Host.modifyTask hw w taskId doc h with ⟨result, t⟩
    have kept : (Host.modifyTask hw w taskId doc h).1 ≠ .error .asserted →
      NatKept nic (Host.modifyTask hw w taskId doc h).2 :=
      kept.modifyTask safe hw
    rw [modified] at kept
    change survives ((Host.modifyTask hw w taskId doc >>= fun reply => pure (TaskReply.message reply)) h) =
      some k at ran
    cases result with
    | ok reply =>
      rw [Prog.bind_ok modified] at ran
      cases ran
      exact kept (fun wrong => by cases wrong)
    | error stopped =>
      rw [Prog.bind_error modified] at ran
      cases stopped with
      | thrown error =>
        cases ran
        exact kept (fun wrong => by cases wrong)
      | asserted => cases ran
      | diverged => cases ran
  | _ => exact kept.frame only (by simp [requestParts]) (by simp [requestParts])

/-- One step. -/
theorem step {event : World × HostEvent} (kept : NatKept nic h) (safe : NatSafe h event)
    (ran : h.step hw event = some k) :
    NatKept nic k := by
  obtain ⟨w, event⟩ := event
  cases event with
  | create wallet additional rentEnd role =>
    rcases step_create ran with rfl | ⟨params, root, parsed, rfl⟩
    · exact kept
    · obtain ⟨named, _⟩ := parseCreateParams_ok parsed
      refine kept.addTask (parseCreateParams_publicIp parsed) ?_ ?_ wallet root rentEnd
      · rw [named]
        exact safe.1
      · rw [named]
        exact safe.2
  | request wallet request => exact kept.request safe ran
  | deleteImage additional =>
    rw [← survives_some ran]
    exact kept.frame (deleteImage_confined w additional h) (by simp) (by simp)
  | process =>
    obtain ⟨event, rest, queue, only⟩ := step_process ran
    have starts : RebootStarts w event.taskId h event.job := safe event (by rw [queue]; rfl)
    have dequeued := kept.frame (dequeue_only rest) (by simp) (by simp)
    have worked : NatKept nic (Host.processJob w event.taskId event.job { h with events := rest }).2 := by
      refine dequeued.processJob ?_
      cases job : event.job <;> rw [job] at starts <;> exact starts
    exact worked.frame only (by simp) (by simp)
  | close taskId =>
    cases ran
    exact kept.effect (closeTask_only w taskId h) (by simp [Within, Part.owner]) (by simp) closeTask_effect
  | destroy taskId =>
    cases ran
    exact kept.destroyTask w taskId
  | uploaded taskId snapshotName =>
    rw [← survives_some ran]
    exact kept.frame (setSnapshotStatus_confined taskId snapshotName .none h) (by simp) (by simp)
  | domainChanges taskId state => exact safe.elim
  | fileAppears path backing => exact kept.frame (fileAppears_only ran) (by simp) (by simp)

end NatKept

/-- Where the operations keep the rules of the tasks in order, the table and
the addresses are always those of the records of the tasks that run. -/
theorem nat_refines_records {hw : Hardware} {nic : Bytes} {trace : List (World × HostEvent)} {h : Host}
    (run : Run (step hw) NatSafe Host.empty trace h) : NatExact nic h :=
  (run.invariant (P := NatKept nic) .empty (fun kept safe ran => kept.step safe ran)).exact

/-- The ports of a task that runs are modified. -/
theorem nat_after_new_ports : ∃ trace h, Run (step .small) NatSafe Host.empty trace h ∧
    h.getDomainStatus (str "task") = .running ∧ (h.taskIptables.find (str "task")).map (·.sshPort) = some 20002 ∧
    NatExact (str "eth0") h := by
  have facts : (runAll (guarded (step .small) (fun h event => decide (NatSafe h event))) Host.empty
      (oneRuns (str "task") ++
        [(.calm [], .request (str "wallet") ⟨str "task", .modify (newPorts "20002" "20003")⟩)])).any
          (fun h => h.getDomainStatus (str "task") = .running ∧
        (h.taskIptables.find (str "task")).map (·.sshPort) = some 20002) = true := by decide +kernel
  obtain ⟨h, ran, holds⟩ := (Option.any_eq_true _ _).mp facts
  obtain ⟨runs, port⟩ := of_decide_eq_true holds
  have run := Run.of_guarded (fun h event => of_decide_eq_true) _ .start ran
  exact ⟨_, h, run, runs, port, nat_refines_records run⟩

/-- The ports of a task that was stopped are modified, and its rules are
back. -/
theorem nat_of_stopped_task : ∃ trace h, Reaches (step .small) Host.empty trace h ∧
    h.getDomainStatus (str "task") = .shutoff ∧ ¬ NatExact (str "eth0") h := by
  have facts : (runAll (step .small) Host.empty (oneRuns (str "task") ++
      [.request (str "wallet") ⟨str "task", .poweroff⟩, .process,
        .request (str "wallet") ⟨str "task", .modify (newPorts "20002" "20003")⟩].map (fun event =>
          (.calm [], event)))).any
      (fun h => h.getDomainStatus (str "task") = .shutoff ∧
        ((natTable (str "eth0") h.nat).chains ⟨str "task", .dnat⟩).isSome) = true := by decide +kernel
  obtain ⟨h, ran, holds⟩ := (Option.any_eq_true _ _).mp facts
  obtain ⟨stopped, there⟩ := of_decide_eq_true holds
  refine ⟨_, h, Reaches.of_runAll _ .start ran, stopped, fun exact => ?_⟩
  have absent := exact.chains ⟨str "task", .dnat⟩
  have none : h.installed (str "task") = none := by
    rw [installed, stopped]
    rfl
  rw [none] at absent
  have gone : (natTable (str "eth0") h.nat).chains ⟨str "task", .dnat⟩ = Option.none :=
    congrArg ChainSlot.rules absent
  rw [gone] at there
  cases there

end DbcNode.Host
