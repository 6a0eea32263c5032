import DbcNode.Task.Records

namespace DbcNode

/-- What a task and the description of its domain both have. -/
structure Sizes where
  vncPort : UInt16
  cpuSockets : Int
  cpuCoresPerSocket : Int
  cpuThreadsPerCore : Int
  memory : Int
  deriving DecidableEq

def TaskInfo.sizes (info : TaskInfo) : Sizes :=
  ⟨info.vncPort, info.cpuSockets, info.cpuCoresPerSocket, info.cpuThreadsPerCore, info.memSize⟩

def DomainXml.sizes (xml : DomainXml) : Sizes :=
  ⟨xml.vncPort, xml.cpuSockets, xml.cpuCoresPerSocket, xml.cpuThreadsPerCore, xml.memory⟩

namespace Host

/-- A domain is its state, its definition and what it runs with. -/
theorem Only.domain {parts : Set Part} {taskId : Bytes} {h k : Host} (only : Only parts h k)
    (state : .state taskId ∉ parts) (live : .live taskId ∉ parts) (definition : .definition taskId ∉ parts) :
    k.domains.find taskId = h.domains.find taskId := by
  have states := only.state state
  have lives := only.live live
  have definitions := only.definition definition
  cases now : k.domains.find taskId with
  | none =>
    rw [now] at states
    exact (Option.map_eq_none_iff.mp states.symm).symm
  | some domain =>
    rw [now] at states lives definitions
    obtain ⟨old, found, sameState⟩ := Option.map_eq_some_iff.mp states.symm
    rw [found] at lives definitions
    have sameLive : domain.live = old.live := Option.some.inj lives
    have sameDefinition : domain.definition = old.definition := Option.some.inj definitions
    rw [found]
    cases domain
    cases old
    simp_all

/-- The description of a domain has a value, as it is defined and as it
runs. -/
def DomainHolds {β : Type} (view : DomainXml → β) (value : β) (taskId : Bytes) (h : Host) : Prop :=
  ∀ domain, h.domains.find taskId = some domain →
    view domain.definition = value ∧ (domain.state ≠ .shutoff → view domain.live = value)

namespace DomainHolds
variable {β : Type} {view : DomainXml → β} {value : β} {w : World} {parts : Set Part} {taskId : Bytes} {h k : Host}

theorem of_missing (missing : h.isExistDomain taskId = false) : DomainHolds view value taskId h := by
  intro domain found
  rw [isExistDomain_of_find taskId found] at missing
  cases missing

theorem frame (holds : DomainHolds view value taskId h) (only : Only parts h k) (state : .state taskId ∉ parts)
    (live : .live taskId ∉ parts) (definition : .definition taskId ∉ parts) : DomainHolds view value taskId k := by
  intro domain found
  rw [only.domain state live definition] at found
  exact holds domain found

/-- What touches nothing of the domain. -/
theorem spared (holds : DomainHolds view value taskId h) (only : Only parts h k) (outside : ∀ part ∈ parts,
    part ≠ .state taskId ∧ part ≠ .live taskId ∧ part ≠ .definition taskId) : DomainHolds view value taskId k :=
  holds.frame only (fun inside => (outside _ inside).1 rfl) (fun inside => (outside _ inside).2.1 rfl)
    (fun inside => (outside _ inside).2.2 rfl)

theorem setDomain {domain : Domain} (definition : view domain.definition = value)
    (live : domain.state ≠ .shutoff → view domain.live = value) :
    DomainHolds view value taskId (h.setDomain taskId domain) := by
  intro other found
  cases (OrdMap.find_insert_self h.domains taskId domain).symm.trans found
  exact ⟨definition, live⟩

theorem startDomain (holds : DomainHolds view value taskId h) :
    DomainHolds view value taskId (h.startDomain w taskId).2 := by
  unfold Host.startDomain
  split
  · exact holds
  · rename_i domain found
    obtain ⟨defined, runs⟩ := holds domain found
    split
    · split
      · exact setDomain defined (fun _ => defined)
      · exact holds
    · rename_i running
      split
      · split
        · exact setDomain defined (fun _ => runs (fun off => running (Or.inr off)))
        · exact holds
      · exact holds

theorem destroyDomain (holds : DomainHolds view value taskId h) :
    DomainHolds view value taskId (h.destroyDomain w taskId).2 := by
  unfold Host.destroyDomain
  split
  · exact holds
  · rename_i domain found
    split
    · exact holds
    · split
      · exact setDomain (holds domain found).1 (fun running => (running rfl).elim)
      · exact holds

theorem redefine (holds : DomainHolds view value taskId h) {domain : Domain}
    (found : h.domains.find taskId = some domain) {xml : DomainXml} (same : view xml = value) :
    DomainHolds view value taskId (h.setDomain taskId { domain with definition := xml }) :=
  setDomain same (holds domain found).2

theorem currentXml (holds : DomainHolds view value taskId h) {domain : Domain}
    (found : h.domains.find taskId = some domain) :
    view (currentXml domain) = value := by
  unfold Host.currentXml
  split
  · exact (holds domain found).1
  · rename_i running
    exact (holds domain found).2 running

/-- The value is not one of the disks. -/
def DiskFree {β : Type} (view : DomainXml → β) : Prop := ∀ xml disks, view { xml with disks := disks } = view xml

theorem attachDisk (free : DiskFree view) (holds : DomainHolds view value taskId h) (diskName sourceFile : Bytes) :
    DomainHolds view value taskId (h.attachDisk w taskId diskName sourceFile).2 := by
  unfold Host.attachDisk
  split
  · exact holds
  · rename_i domain found
    dsimp only
    split
    · exact holds
    · exact holds.redefine found ((free _ _).trans (holds.currentXml found))

theorem detachDisk (free : DiskFree view) (holds : DomainHolds view value taskId h) (diskName : Bytes) :
    DomainHolds view value taskId (h.detachDisk w taskId diskName).2 := by
  unfold Host.detachDisk
  split
  · exact holds
  · rename_i domain found
    dsimp only
    split
    · exact holds
    · exact holds.redefine found ((free _ _).trans (holds.currentXml found))

theorem createDomain (holds : DomainHolds view value taskId h) {info : TaskInfo}
    (recorded : ∀ k : Host, k.getTaskGpus taskId = h.getTaskGpus taskId →
      ∀ disks, view (k.recordXml taskId info disks) = value) :
    DomainHolds view value taskId (createDomain w taskId info h).2 := by
  have created : ∀ {k : Host}, DomainHolds view value taskId k →
    k.getTaskGpus taskId = h.getTaskGpus taskId → ∀ disks,
      DomainHolds view value taskId (k.defineAndCreate w taskId info disks).2 := by
    intro k before gpus disks
    have same := recorded k gpus disks
    unfold defineAndCreate
    dsimp only
    split
    · exact before
    · split
      · exact setDomain same (fun _ => same)
      · exact setDomain same (fun _ => same)
  unfold Host.createDomain
  split
  · exact created holds rfl []
  · split
    · rename_i vda vdb _ _
      have images := createImages_only h info.imageName vda.sourceFile vdb.sourceFile
      exact created (holds.spared images (by simp)) (images.getTaskGpus (by simp)) _
    · exact holds

theorem openNetwork (holds : DomainHolds view value taskId h) (info : TaskInfo) :
    DomainHolds view value taskId (h.openNetwork w taskId info).2 := by
  have opened := holds.spared (createTaskIptable_only w taskId h info w.domainLocalIp) (by simp)
  unfold Host.openNetwork
  split
  · rename_i same
    rw [same] at opened
    exact opened
  · rename_i same
    rw [same] at opened
    exact opened.destroyDomain

theorem settle (holds : DomainHolds view value taskId h) (pending status : TaskStatus) :
    DomainHolds view value taskId (h.settle taskId pending status) :=
      holds.spared (settle_only taskId h _ _) (by simp)

theorem processCreateTask (holds : DomainHolds view value taskId h) (biosMode : Bytes)
    (recorded : ∀ info, h.taskInfos.find taskId = some info → ∀ k : Host,
      k.getTaskGpus taskId = h.getTaskGpus taskId → ∀ disks, view (k.recordXml taskId info disks) = value) :
    DomainHolds view value taskId (processCreateTask w taskId biosMode h).2 := by
  unfold Host.processCreateTask
  split
  · exact holds
  · rename_i info found
    have created := holds.createDomain (w := w) (recorded info found)
    split
    · exact holds.settle _ _
    · split
      · rename_i same
        rw [same] at created
        exact created
      · rename_i same
        rw [same] at created
        exact created.settle _ _
      · rename_i k same
        rw [same] at created
        have opened := created.openNetwork (w := w) info
        split
        · exact created.settle _ _
        · split
          · rename_i unreachable
            rw [unreachable] at opened
            exact opened.settle _ _
          · rename_i reachable
            rw [reachable] at opened
            have added := opened.spared (addIptableToSystem_only taskId _) (by simp)
            exact (added.spared (setLogin_only w taskId _ info) (by simp)).settle _ _

theorem processStartTask (holds : DomainHolds view value taskId h) :
    DomainHolds view value taskId (h.processStartTask w taskId) := by
  unfold Host.processStartTask
  split
  · exact holds
  · rename_i info found
    have started := holds.startDomain (w := w)
    have ended : ∀ {k : Host}, DomainHolds view value taskId k →
        DomainHolds view value taskId ((k.settle taskId .starting .running).addIptableToSystem taskId) :=
      fun before => (before.settle _ _).spared (addIptableToSystem_only taskId _) (by simp)
    split
    · rename_i same
      rw [same] at started
      exact started.settle _ _
    · rename_i k same
      rw [same] at started
      have opened := started.openNetwork (w := w) info
      split
      · split
        · rename_i unreachable
          rw [unreachable] at opened
          exact opened.settle _ _
        · rename_i reachable
          rw [reachable] at opened
          exact ended opened
      · exact ended started

theorem processStop (holds : DomainHolds view value taskId h) (pending failed : TaskStatus) :
    DomainHolds view value taskId (processStop w taskId pending failed h).2 := by
  have stopped := holds.destroyDomain (w := w)
  unfold Host.processStop
  split
  · exact holds
  · rename_i info _
    split
    · rename_i same
      rw [same] at stopped
      exact stopped.settle _ _
    · rename_i same
      rw [same] at stopped
      have closed := (stopped.settle pending .shutoff).spared (removeIptableFromSystem_only taskId _) (by simp)
      exact closed.spared (recordRootBackfile_confined taskId info _) (by simp)

theorem restarted (holds : DomainHolds view value taskId h) (done : Bool) :
    DomainHolds view value taskId (h.restarted taskId done) := holds.spared (restarted_only taskId h done) (by simp)

theorem processRestartTask (holds : DomainHolds view value taskId h) :
    DomainHolds view value taskId (h.processRestartTask w taskId) := by
  unfold Host.processRestartTask
  split
  · exact holds
  · split
    · exact holds.startDomain.restarted _
    · split
      · exact holds.restarted _
      · exact holds

theorem processForceRebootTask (holds : DomainHolds view value taskId h) :
    DomainHolds view value taskId (h.processForceRebootTask w taskId) := by
  unfold Host.processForceRebootTask
  split
  · exact holds
  · split
    · exact holds.startDomain.restarted _
    · have stopped := holds.destroyDomain (w := w)
      split
      · rename_i same
        rw [same] at stopped
        exact stopped.restarted _
      · rename_i same
        rw [same] at stopped
        exact stopped.startDomain.restarted _

theorem processAddDisk (free : DiskFree view) (holds : DomainHolds view value taskId h) (sizeK : Int)
    (mountDir : Bytes) :
    DomainHolds view value taskId (processAddDisk w taskId sizeK mountDir h).2 := by
  unfold Host.processAddDisk
  split
  · exact holds
  · rename_i diskName _
    extract_lets sourceFile
    have written := holds.spared (writeImage_only h sourceFile []) (by simp)
    have attached := written.attachDisk (w := w) free diskName sourceFile
    split
    · rename_i same
      rw [same] at attached
      exact attached.spared (removeFile_only _ _) (by simp)
    · rename_i same
      rw [same] at attached
      exact attached.spared (addDiskInfo_only taskId _ _) (by simp)

theorem processDeleteDisk (free : DiskFree view) (holds : DomainHolds view value taskId h) (diskName : Bytes) :
    DomainHolds view value taskId (h.processDeleteDisk w taskId diskName) := by
  have detached := holds.detachDisk (w := w) free diskName
  unfold Host.processDeleteDisk
  split
  · rename_i same
    rw [same] at detached
    exact detached
  · rename_i same
    rw [same] at detached
    split
    · exact detached
    · exact (detached.spared (removeFile_only _ _) (by simp)).spared (setDisks_only taskId _ _) (by simp)

/-- An event leaves the value in the domain of its task, unless it deletes
the task. -/
theorem processJob (free : DiskFree view) (holds : DomainHolds view value taskId h) {job : TaskJob}
    (kept : job ≠ .deleteTask) (recorded : ∀ biosMode info, job = .createTask biosMode →
      h.taskInfos.find taskId = some info → ∀ k : Host,
      k.getTaskGpus taskId = h.getTaskGpus taskId → ∀ disks, view (k.recordXml taskId info disks) = value) :
    DomainHolds view value taskId (processJob w taskId job h).2 := by
  have footprint := processJob_confined w taskId job h
  cases job with
  | createTask biosMode => exact holds.processCreateTask biosMode (fun info => recorded biosMode info rfl)
  | startTask => exact holds.processStartTask
  | shutdownTask => exact holds.processStop _ _
  | powerOffTask => exact holds.processStop _ _
  | reStartTask => exact holds.processRestartTask
  | forceRebootTask => exact holds.processForceRebootTask
  | deleteTask => exact (kept rfl).elim
  | addDisk sizeK mountDir => exact holds.processAddDisk free sizeK mountDir
  | deleteDisk diskName => exact holds.processDeleteDisk free diskName
  | _ => exact holds.spared footprint (by simp [jobParts])

theorem closeTask (holds : DomainHolds view value taskId h) :
    DomainHolds view value taskId (h.closeTask w taskId) := by
  have stopped := holds.destroyDomain (w := w)
  unfold Host.closeTask
  split
  · exact holds
  · split
    · rename_i same
      rw [same] at stopped
      exact stopped
    · rename_i same
      rw [same] at stopped
      have marked := stopped.spared (setTaskStatus_only taskId _ .shutoff) (by simp)
      exact marked.spared (removeIptableFromSystem_only taskId _) (by simp)

theorem domainChanges (holds : DomainHolds view value taskId h) {state : DomainState}
    (ran : h.domainChanges taskId state = some k) : DomainHolds view value taskId k := by
  unfold Host.domainChanges at ran
  split at ran
  · cases ran
  · rename_i domain found
    split at ran
    · cases ran
    · rename_i running
      cases ran
      exact setDomain (holds domain found).1 (fun _ => (holds domain found).2 running)

end DomainHolds

section Jobs
variable {w : World} {taskId : Bytes} {h : Host} {job : TaskJob}

/-- An event about the domain of a task ends at once where the task is not
there. -/
theorem processJob_unknown (unknown : h.taskInfos.find taskId = none) (about : job.pending ≠ none) :
    processJob w taskId job h = (.ok (), h) := by
  cases job <;> first
    | exact (about rfl).elim
    | simp only [processJob, Prog.update_run, processCreateTask, processStartTask, processShutdownTask,
        processPoweroffTask, processStop, processRestartTask, processForceRebootTask, processResetTask,
        processDeleteTask, unknown]

theorem notMem_jobParts_known (kept : job ≠ .deleteTask) : Part.known taskId ∉ jobParts taskId job := by
  cases job <;> simp_all [jobParts]

theorem notMem_jobParts_gpus (kept : job ≠ .deleteTask) : Part.gpus taskId ∉ jobParts taskId job := by
  cases job <;> simp_all [jobParts]

/-- An event that is not about the domain of its task leaves it in its
state. -/
theorem notMem_jobParts_state (plain : job.pending = none) : Part.state taskId ∉ jobParts taskId job := by
  cases job <;> simp_all [jobParts, TaskJob.pending]

end Jobs

end Host

end DbcNode
