import DbcNode.Task.NatJobs
import DbcNode.Task.PortTexts
import DbcNode.Task.Queue

namespace DbcNode.Host

/-- A public ip that passes its check is that of no other task. -/
theorem checkPublicIp_apart {w : World} {h : Host} {ip taskId other : Bytes}
    (free : h.checkPublicIp w ip taskId = none) (some : ip ≠ []) (different : other ≠ taskId) :
    (h.natViews other).address ≠ Option.some ip := by
  unfold checkPublicIp at free
  rw [if_neg some] at free
  split at free
  · cases free
  · split at free
    · cases free
    · split at free
      · cases free
      · rename_i nowhere
        intro has
        obtain ⟨info, found, same⟩ := Option.map_eq_some_iff.mp has
        refine nowhere (List.any_eq_true.mpr ⟨(other, info), OrdMap.find_eq_some.mp found, ?_⟩)
        exact decide_eq_true ⟨different, same⟩

theorem parseCreateParams_publicIp {hw : Hardware} {w : World} {h : Host} {role : UserRole}
    {additional : Option Json} {params : CreateTaskParams}
    (parsed : h.parseCreateParams hw w role additional = .ok params) :
    h.checkPublicIp w params.publicIp [] = none := by
  unfold parseCreateParams at parsed
  iterate 7 obtain ⟨_, _, parsed⟩ := Checked.bind_ok parsed
  obtain ⟨_, address, parsed⟩ := Checked.bind_ok parsed
  iterate 15 obtain ⟨_, _, parsed⟩ := Checked.bind_ok parsed
  cases Except.ok.inj parsed
  exact pass_ok address

theorem destroyAndUndefineDomain_up {w : World} {taskId : Bytes} {h : Host} (up : UpOrDown taskId h) :
    UpOrDown taskId (h.destroyAndUndefineDomain w taskId) := by
  unfold destroyAndUndefineDomain
  split
  · exact up
  · rename_i domain found
    have before := up domain.state (by rw [found]; rfl)
    have after : ∀ state, state = .running ∨ state = .shutoff → UpOrDown taskId
        (if w.undefineDomain ∧ state = .shutoff then { h with domains := h.domains.erase taskId }
          else h.setDomain taskId { domain with state := state }) := by
      intro state settled
      split
      · intro one has
        have gone : (h.domains.erase taskId).find taskId = none := (OrdMap.find_erase _ _ _).trans (if_pos rfl)
        change Option.map _ ((h.domains.erase taskId).find taskId) = some one at has
        rw [gone] at has
        cases has
      · exact .of_some settled (setDomain_state _ _ _)
    refine after _ ?_
    split
    · exact Or.inr rfl
    · exact before

/-- A forced restart of a task that runs does start it again. -/
def RebootStarts (w : World) (taskId : Bytes) (h : Host) : TaskJob → Prop
  | .forceRebootTask => h.getDomainStatus taskId = .running → w.destroyDomain →
      (h.taskIptables.find taskId).isSome →
    w.createDomain
  | _ => True

namespace NatKept
variable {nic : Bytes} {hw : Hardware} {w : World} {taskId : Bytes} {h k : Host}

theorem up (kept : NatKept nic h) (taskId : Bytes) : UpOrDown taskId h := (kept.records.fits taskId).settled

theorem known (kept : NatKept nic h) (unknown : h.taskInfos.find taskId = none) :
    h.taskIptables.find taskId = none := by
  cases found : h.taskIptables.find taskId with
  | none => rfl
  | some r =>
    have owned : (h.taskInfos.find taskId).map (·.publicIp) = some r.publicIp :=
      (kept.records.fits taskId).owned r found
    rw [unknown] at owned
    cases owned

theorem exist (kept : NatKept nic h) (r : IptableInfo) (found : h.taskIptables.find taskId = some r) :
    h.isExistDomain taskId := by
  have defined : ((h.domains.find taskId).map (·.state)).isSome := (kept.records.fits taskId).defined r found
  rwa [Option.isSome_map] at defined

/-- A task that is deleted has its rules removed with its record. -/
theorem destroyTask (kept : NatKept nic h) (w : World) (taskId : Bytes) : NatKept nic (h.destroyTask w taskId) := by
  have undefined := destroyAndUndefineDomain_only w taskId (h := h)
  have up := destroyAndUndefineDomain_up (w := w) (kept.up taskId)
  cases found : h.taskInfos.find taskId with
  | none =>
    have none := kept.known found
    rw [destroyTask_eq_of_unknown w taskId h found]
    exact kept.effect undefined (domainParts_within taskId) (by simp)
      (.bare (undefined.nat (by simp)) none ((undefined.iptable (by simp)).trans none) up)
  | some info =>
    have views := natViews_within (destroyTask_only w taskId h) (destroyParts_within taskId)
    have result := destroyTask_eq w taskId h (by rw [found]; rfl)
    have unrecorded : (h.destroyTask w taskId).taskIptables.find taskId = none := by
      rw [result, (delRentTask_only taskId _).iptable (by simp)]
      exact (OrdMap.find_erase _ _ _).trans (if_pos rfl)
    have address : ((h.destroyTask w taskId).natViews taskId).address = none := by
      have unknown := destroyTask_unknown w taskId h
      exact congrArg (Option.map _) unknown
    have state : ((h.destroyTask w taskId).domains.find taskId).map (·.state) =
        ((h.destroyAndUndefineDomain w taskId).domains.find taskId).map (·.state) :=
      (destroyTask_records w taskId h).state (by simp [recordParts])
    have nat : (h.destroyTask w taskId).nat = natCalls .removed (h.taskIptables.find taskId) h.nat := by
      rw [result, (delRentTask_only taskId _).nat (by simp), (delIptable_only taskId _).nat (by simp),
        removeIptableFromSystem_nat, (delSnapshots_only taskId _).iptable (by simp),
          (delSnapshots_only taskId _).nat (by simp),
        (delDisks_only taskId _).iptable (by simp), (delDisks_only taskId _).nat (by simp),
        (delGpus_only taskId _).iptable (by simp), (delGpus_only taskId _).nat (by simp),
        (delInfo_only taskId _).iptable (by simp), (delInfo_only taskId _).nat (by simp),
        undefined.iptable (by simp), undefined.nat (by simp)]
    have none : ∀ r, ((h.destroyTask w taskId).natViews taskId).iptable ≠ some r :=
      fun r has => by cases unrecorded.symm.trans has
    refine kept.removed views ?_ nat (NatView.installed_none unrecorded)
    rw [views]
    exact kept.records.update_same ⟨fun r has => (none r has).elim, fun r has => (none r has).elim,
      fun r has => (none r has).elim, fun one has => up one (state.symm.trans has)⟩ (Or.inr address)

/-- A new task has a public ip of its own, and neither a record nor
rules. -/
theorem addTask (kept : NatKept nic h) {params : CreateTaskParams}
    (free : h.checkPublicIp w params.publicIp [] = none) (fresh : h.taskInfos.find params.taskId = none)
    (named : params.taskId ≠ []) (wallet root : Bytes) (rentEnd : Int) :
    NatKept nic (h.addTask w wallet rentEnd params root) := by
  have only := addTask_only w h wallet rentEnd params root
  have views := natViews_within only (createParts_within params.taskId)
  have iptable : (h.addTask w wallet rentEnd params root).taskIptables.find params.taskId = Option.none :=
    (only.iptable (by simp [createParts])).trans (kept.known fresh)
  have state : ((h.addTask w wallet rentEnd params root).domains.find params.taskId).map (·.state) =
      (h.domains.find params.taskId).map (·.state) := only.state (by simp [createParts])
  have none : ∀ r, ((h.addTask w wallet rentEnd params root).natViews params.taskId).iptable ≠ some r :=
    fun r has => by cases iptable.symm.trans has
  have address : ((h.addTask w wallet rentEnd params root).natViews params.taskId).address =
    some params.publicIp := by
    have known := addTask_known wallet rentEnd params root (w := w) (h := h)
    exact congrArg (Option.map _) known
  refine kept.quiet views ?_ (only.nat (by simp [createParts])) ?_
  · rw [views]
    refine kept.records.update ⟨fun r has => (none r has).elim, fun r has => (none r has).elim,
      fun r has => (none r has).elim, fun one has => kept.up params.taskId one (state.symm.trans has)⟩ ?_ ?_
    · intro other ip different some has
      have same : params.publicIp = ip := Option.some.inj (address.symm.trans has)
      subst same
      by_cases empty : other = []
      · rw [empty, kept.records.unnamed]
        exact fun wrong => by cases wrong
      · exact checkPublicIp_apart free some empty
    · exact fun empty => (named empty).elim
  · rw [NatView.installed_none iptable, NatView.installed_none (kept.known fresh)]

theorem processJob (kept : NatKept nic h) {job : TaskJob} (starts : RebootStarts w taskId h job) :
    NatKept nic (processJob w taskId job h).2 := by
  have only := processJob_confined w taskId job h
  have within := jobParts_within taskId job
  have up := kept.up taskId
  cases job with
  | createTask biosMode =>
    exact kept.effect only within (by simp [jobParts]) (processCreateTask_effect kept.exist biosMode)
  | startTask => exact kept.effect only within (by simp [jobParts]) (processStartTask_effect up)
  | shutdownTask => exact kept.effect only within (by simp [jobParts]) (processStop_effect _ _)
  | powerOffTask => exact kept.effect only within (by simp [jobParts]) (processStop_effect _ _)
  | reStartTask => exact kept.effect only within (by simp [jobParts]) (processRestartTask_effect up)
  | forceRebootTask => exact kept.effect only within (by simp [jobParts]) (processForceRebootTask_effect up starts)
  | deleteTask =>
    change NatKept nic (h.processDeleteTask w taskId)
    unfold processDeleteTask
    split
    · exact kept
    · exact kept.destroyTask w taskId
  | _ => exact kept.frame only (by simp [jobParts]) (by simp [jobParts])

end NatKept

end DbcNode.Host
