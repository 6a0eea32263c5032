import DbcNode.Task.Frames

namespace DbcNode.Host

abbrev Confined {α : Type} (parts : Set Part) (call : Call α) : Prop := layout.Confined parts call

section Checks
variable {parts : Set Part} (hw : Hardware) (w : World) (taskId : Bytes)

theorem existingTask_confined : Confined parts (existingTask taskId) := by
  intro h
  unfold existingTask
  split
  · exact .refl h
  · split <;> exact .refl h

theorem refuse_confined (check : Host → Option Bytes) : Confined parts (refuse check) := by
  intro h
  unfold refuse
  split <;> exact .refl h

/-- Looking changes nothing. -/
theorem existingTask_same (h : Host) : (existingTask taskId h).2 = h := by
  unfold existingTask
  split
  · rfl
  · split <;> rfl

theorem refuse_same (check : Host → Option Bytes) (h : Host) : (refuse check h).2 = h := by
  unfold refuse
  split <;> rfl

theorem withInfo_confined {α : Type} {call : TaskInfo → Call α} (confined : ∀ info, Confined parts (call info)) :
    Confined parts (withInfo taskId call) := by
  intro h
  unfold withInfo
  split
  · exact .refl h
  · rename_i info _
    exact confined info h

theorem checkXmlGpu_only (info : TaskInfo) (h : Host) :
    Only {.gpus taskId, .definition taskId} h (h.checkXmlGpu hw w taskId info) := by
  unfold checkXmlGpu
  extract_lets lost
  split
  · exact .refl h
  · have recorded : Only {.gpus taskId, .definition taskId} h
        { h with taskGpus := h.taskGpus.insert taskId (lost.foldl OrdMap.erase (h.getTaskGpus taskId)) } :=
      (setGpus_only taskId h _).weaken (by simp)
    exact recorded.next (redefineDomain_only w taskId info) (by simp)

theorem checkResource_confined (info : TaskInfo) :
    Confined {.gpus taskId, .definition taskId} (checkResource hw w taskId info) :=
  (Layout.Confined.update (checkXmlGpu_only hw w taskId info)).bind (fun _ => refuse_confined _)

theorem submit_confined (allowed : DomainState → Bool) (status : TaskStatus) (job : TaskJob) :
    Confined {.info taskId, .events} (submit taskId allowed status job) := by
  intro h
  unfold submit
  split
  · have marked : Only {.info taskId, .events} h (h.setTaskStatus taskId status) :=
      (setTaskStatus_only taskId h status).weaken (by simp)
    exact marked.next (pushTaskEvent_only _ _) (by simp)
  · exact .refl h

/-- A start or a restart. -/
theorem checkedSubmit_confined (allowed : DomainState → Bool) (status : TaskStatus) (job : TaskJob) :
    Confined {.gpus taskId, .definition taskId, .info taskId, .events} (do
      let info ← existingTask taskId
      checkResource hw w taskId info
      submit taskId allowed status job) := by
  refine (existingTask_confined taskId).bind (fun info => ?_)
  refine ((checkResource_confined hw w taskId info).weaken ?_).bind (fun _ => ?_)
  · simp [Set.insert_subset_iff]
  · exact (submit_confined taskId allowed status job).weaken (by simp [Set.insert_subset_iff])

theorem plainSubmit_confined (allowed : DomainState → Bool) (status : TaskStatus) (job : TaskJob) :
    Confined {.info taskId, .events} (do
      let _ ← existingTask taskId
      submit taskId allowed status job) :=
  (existingTask_confined taskId).bind (fun _ => submit_confined taskId allowed status job)

end Checks

section Modify
variable (hw : Hardware) (w : World) (taskId : Bytes)

theorem modifyPublicIp_confined (newPublicIp : Bytes) :
    Confined {.info taskId, .ports taskId, .iptable taskId} (modifyPublicIp w taskId newPublicIp) := by
  refine withInfo_confined taskId (fun info h => ?_)
  split
  · exact .refl h
  · split
    · exact .refl h
    · have changed : Only {.info taskId, .ports taskId, .iptable taskId} h
          (h.updateInfo taskId (fun info => { info with publicIp := newPublicIp })) :=
        (updateInfo_only taskId h _).weaken (by simp [Set.insert_subset_iff])
      exact changed.next (setIptable_only taskId _ _) (by simp)

theorem modifyPort_confined (field : PortField) (doc : Json) :
    Confined {.info taskId, .ports taskId, .iptable taskId} (modifyPort field taskId doc) := by
  refine withInfo_confined taskId (fun info h => ?_)
  extract_lets text
  split
  · exact .refl h
  · split
    · exact .refl h
    · split
      · exact .refl h
      · have changed : Only {.info taskId, .ports taskId, .iptable taskId} h
            (h.updateInfo taskId (field.set (portOf text))) :=
          (updateInfo_only taskId h _).weaken (by simp [Set.insert_subset_iff])
        exact changed.next (setIptable_only taskId _ _) (by simp)

theorem modifyCustomPort_confined (doc : Json) :
    Confined {.info taskId, .iptable taskId} (modifyCustomPort taskId doc) := by
  refine withInfo_confined taskId (fun info h => ?_)
  split
  · exact .refl h
  · split
    · exact .refl h
    · rename_i ports _
      split
      · exact .refl h
      · have own : Only {.info taskId} h (h.updateInfo taskId (fun info => { info with customPort := ports })) :=
          updateInfo_only_info taskId h (fun _ => rfl)
        have changed : Only {.info taskId, .iptable taskId} h _ := own.weaken (by simp)
        exact changed.next (setIptable_only taskId _ _) (by simp)

theorem resetIptables_only (needed : Bool) (h : Host) : Only {.nat} h (h.resetIptables taskId needed) := by
  unfold resetIptables
  split
  · exact (removeIptableFromSystem_only taskId h).trans (addIptableToSystem_only taskId _)
  · exact .refl h

theorem modifyNwfilter_confined (doc : Json) : Confined {.info taskId} (modifyNwfilter w taskId doc) := by
  refine withInfo_confined taskId (fun info h => ?_)
  split
  · exact .refl h
  · extract_lets nwfilter
    split
    · exact .refl h
    · split <;> exact updateInfo_only_info taskId h (fun _ => rfl)

theorem modifyVncPort_confined (doc : Json) :
    Confined {.info taskId, .ports taskId} (modifyVncPort taskId doc) := by
  refine withInfo_confined taskId (fun info h => ?_)
  extract_lets text
  split
  · exact .refl h
  · split
    · exact .refl h
    · split
      · exact .refl h
      · exact setInfo_only taskId h _

theorem modifyGpus_confined (doc : Json) : Confined {.gpus taskId} (modifyGpus hw taskId doc) := by
  intro h
  unfold modifyGpus
  extract_lets text
  split
  · exact .refl h
  · split
    · exact .refl h
    · exact setGpus_only taskId h _

theorem modifyCpu_confined (doc : Json) : Confined {.info taskId} (modifyCpu hw taskId doc) := by
  refine withInfo_confined taskId (fun info h => ?_)
  extract_lets text
  split
  · exact .refl h
  · split
    · exact .refl h
    · split
      · exact .refl h
      · exact setInfo_only_info taskId h (fun _ => rfl)

theorem modifyMem_confined (doc : Json) : Confined {.info taskId} (modifyMem w taskId doc) := by
  refine withInfo_confined taskId (fun info h => ?_)
  extract_lets text
  split
  · exact .refl h
  · split
    · exact .refl h
    · split
      · exact .refl h
      · exact setInfo_only_info taskId h (fun _ => rfl)

theorem redefine_confined (needed : Bool) : Confined {.definition taskId} (redefine w taskId needed) := by
  refine withInfo_confined taskId (fun info h => ?_)
  split
  · have only := redefineDomain_only w taskId (h := h) info
    split
    · rename_i same
      rw [same] at only
      exact only
    · rename_i same
      rw [same] at only
      exact only
  · exact .refl h

theorem modifyNetwork_confined (doc : Json) :
    Confined {.info taskId, .ports taskId, .iptable taskId, .nat} (modifyNetwork w taskId doc) := by
  refine ((modifyPublicIp_confined w taskId _).weaken (by simp [Set.insert_subset_iff])).bind (fun ip => ?_)
  refine ((modifyPort_confined taskId sshField doc).weaken (by simp [Set.insert_subset_iff])).bind (fun ssh => ?_)
  refine ((modifyPort_confined taskId rdpField doc).weaken (by simp [Set.insert_subset_iff])).bind (fun rdp => ?_)
  refine (refuse_confined _).bind (fun _ => ?_)
  refine ((modifyCustomPort_confined taskId doc).weaken (by simp [Set.insert_subset_iff])).bind (fun custom => ?_)
  refine ((Layout.Confined.update (resetIptables_only taskId _)).weaken (by simp)).bind (fun _ => ?_)
  exact (modifyNwfilter_confined w taskId doc).weaken (by simp)

theorem modifyDomain_confined (doc : Json) :
    Confined {.info taskId, .ports taskId, .gpus taskId} (modifyDomain hw w taskId doc) := by
  refine ((modifyVncPort_confined taskId doc).weaken (by simp [Set.insert_subset_iff])).bind (fun vnc => ?_)
  refine ((modifyGpus_confined hw taskId doc).weaken (by simp)).bind (fun gpu => ?_)
  refine ((modifyCpu_confined hw taskId doc).weaken (by simp)).bind (fun cpu => ?_)
  exact ((modifyMem_confined w taskId doc).weaken (by simp)).bind (fun mem => .pure _)

theorem modifyTask_confined (doc : Json) :
    Confined {.info taskId, .ports taskId, .iptable taskId, .nat, .gpus taskId, .definition taskId}
      (modifyTask hw w taskId doc) := by
  refine (existingTask_confined taskId).bind (fun _ => ?_)
  refine (refuse_confined _).bind (fun _ => ?_)
  refine ((modifyNetwork_confined w taskId doc).weaken (by simp [Set.insert_subset_iff])).bind (fun _ => ?_)
  refine ((modifyDomain_confined hw w taskId doc).weaken (by simp [Set.insert_subset_iff])).bind (fun needed => ?_)
  exact ((redefine_confined w taskId needed).weaken (by simp)).bind (fun _ => .pure _)

end Modify

section Requests
variable (hw : Hardware) (w : World) (taskId : Bytes)

theorem passwdTask_confined (doc : Json) : Confined {.info taskId} (passwdTask w taskId doc) := by
  refine (existingTask_confined taskId).bind (fun _ => ?_)
  refine (refuse_confined _).bind (fun _ => ?_)
  refine (Layout.Confined.update (fun h => setInfo_only_info taskId h (fun info => ?_))).bind (fun _ => .pure _)
  extract_lets changed
  split <;> rfl

theorem getTaskLog_confined {parts : Set Part} : Confined parts (getTaskLog w taskId) := by
  refine (existingTask_confined taskId).bind (fun _ h => ?_)
  split <;> exact .refl h

theorem queryTaskStatus_only (h : Host) : Only {.info taskId} h (h.queryTaskStatus taskId) := by
  unfold queryTaskStatus
  split
  · exact .refl h
  · extract_lets state
    split
    · split
      · exact setTaskStatus_only taskId h _
      · split
        · exact setTaskStatus_only taskId h _
        · split
          · exact setTaskStatus_only taskId h _
          · exact .refl h
    · exact .refl h

theorem queryTaskStatuses_only (infos : List TaskInfo) (h : Host) :
    Only (Set.range Part.info) h (infos.foldl (fun h info => h.queryTaskStatus info.taskId) h) := by
  induction infos generalizing h with
  | nil => exact .refl h
  | cons info rest ih =>
    have first : Only (Set.range Part.info) h (h.queryTaskStatus info.taskId) :=
      (queryTaskStatus_only info.taskId h).weaken (by simp)
    exact first.trans (ih _)

theorem taskList_confined (wallet : Bytes) : Confined (Set.range Part.info) (taskList wallet taskId) := by
  intro h
  unfold taskList
  split
  · exact queryTaskStatuses_only _ h
  · split
    · exact .refl h
    · exact (queryTaskStatus_only taskId h).weaken (by simp)

theorem diskTask_confined {parts : Set Part} : Confined parts (diskTask taskId) :=
  (existingTask_confined taskId).bind (fun _ => refuse_confined _)

theorem resizeDisk_confined (diskName : Bytes) (sizeK : Int) :
    Confined {.events} (resizeDisk taskId diskName sizeK) := by
  intro h
  unfold resizeDisk
  split
  · exact .refl h
  · split
    · exact .refl h
    · split
      · exact .refl h
      · split
        · exact .refl h
        · exact pushTaskEvent_only h _

theorem addNewDisk_confined (sizeK : Int) (mountDir : Bytes) :
    Confined {.events} (addNewDisk w taskId sizeK mountDir) := by
  intro h
  unfold addNewDisk
  split
  · exact .refl h
  · split
    · exact .refl h
    · split
      · exact .refl h
      · split
        · exact .refl h
        · split
          · exact .refl h
          · exact pushTaskEvent_only h _

theorem deleteDisk_confined (diskName : Bytes) : Confined {.events} (deleteDisk taskId diskName) := by
  intro h
  unfold deleteDisk
  split
  · exact .refl h
  · split
    · exact .refl h
    · split
      · exact .refl h
      · split
        · exact .refl h
        · exact pushTaskEvent_only h _

theorem createAndUploadSnapshot_confined (snapshotName desc : Bytes) :
    Confined {.snapshots taskId, .events} (createAndUploadSnapshot w taskId snapshotName desc) := by
  intro h
  unfold createAndUploadSnapshot
  split
  · exact .refl h
  · split
    · exact .refl h
    · split
      · exact .refl h
      · extract_lets root file
        split
        · exact .refl h
        · have added : Only {.snapshots taskId, .events} h
            (h.addSnapshot taskId ⟨snapshotName, file, w.time, desc⟩) :=
            (setSnapshots_only taskId h _).weaken (by simp)
          exact added.next (pushTaskEvent_only _ _) (by simp)

theorem terminateUploadSnapshot_only (snapshotName : Bytes) (h : Host) :
    Only {.files, .snapshots taskId} h (h.terminateUploadSnapshot taskId snapshotName) := by
  unfold terminateUploadSnapshot
  split
  · rename_i snapshot _ _
    have removed : Only {.files, .snapshots taskId} h (h.removeFile snapshot.file) :=
      (removeFile_only h _).weaken (by simp)
    exact removed.next (setSnapshots_only taskId _ _) (by simp)
  · exact .refl h

/-- What a request can touch. It leaves the domains in the states they are
in, and the disks and the rents as they are. -/
def requestParts (request : TaskRequest) : Set Part :=
  match request.operation with
  | .modify _ => {.info request.taskId, .ports request.taskId, .iptable request.taskId, .nat, .gpus request.taskId,
      .definition request.taskId}
  | .start | .restart _ => {.gpus request.taskId, .definition request.taskId, .info request.taskId, .events}
  | .list => Set.range Part.info
  | .shutdown | .poweroff | .stop | .reset | .delete | .passwd _ => {.info request.taskId, .events}
  | _ => {.snapshots request.taskId, .events, .files}

/-- What some request can touch. -/
def Part.requested : Part → Bool
  | .known _ | .disks _ | .defined _ | .state _ | .live _ | .running | .rents => false
  | _ => true

theorem notMem_requestParts {part : Part} (spared : part.requested = false) (request : TaskRequest) :
    part ∉ requestParts request := by
  intro member
  unfold requestParts at member
  split at member <;> simp at member <;> grind [Part.requested]

theorem execute_confined (wallet : Bytes) (request : TaskRequest) :
    Confined (requestParts request) (execute hw w wallet request) := by
  obtain ⟨taskId, operation⟩ := request
  cases operation with
  | list => exact taskList_confined taskId wallet
  | start => exact (checkedSubmit_confined hw w taskId _ _ _).map _
  | shutdown => exact (plainSubmit_confined taskId _ _ _).map _
  | poweroff => exact (plainSubmit_confined taskId _ _ _).map _
  | stop => exact (plainSubmit_confined taskId _ _ _).map _
  | restart forceReboot => exact (checkedSubmit_confined hw w taskId _ _ _).map _
  | reset => exact (plainSubmit_confined taskId _ _ _).map _
  | delete => exact (plainSubmit_confined taskId _ _ _).map _
  | modify additional => exact (modifyTask_confined hw w taskId additional).map _
  | passwd additional => exact (passwdTask_confined w taskId additional).weaken (by simp [requestParts]) |>.map _
  | logs headOrTail numberOfLines =>
    exact (refuse_confined _).bind (fun _ => (getTaskLog_confined w taskId).bind (fun _ => .pure _))
  | listDisk => exact (diskTask_confined taskId).bind (fun _ => .fetch _)
  | resizeDisk additional =>
    refine (diskTask_confined taskId).bind (fun _ => (refuse_confined _).bind (fun _ => ?_))
    exact ((resizeDisk_confined taskId _ _).weaken (by simp [requestParts])).bind (fun _ => .pure _)
  | addDisk additional =>
    refine (diskTask_confined taskId).bind (fun _ => (refuse_confined _).bind (fun _ => ?_))
    exact ((addNewDisk_confined w taskId _ _).weaken (by simp [requestParts])).bind (fun _ => .pure _)
  | deleteDisk additional =>
    refine (diskTask_confined taskId).bind (fun _ => (refuse_confined _).bind (fun _ => ?_))
    exact ((deleteDisk_confined taskId _).weaken (by simp [requestParts])).bind (fun _ => .pure _)
  | listSnapshot snapshotName =>
    intro h
    change Only _ h (snapshotList taskId snapshotName h).2
    unfold snapshotList
    split
    · exact .refl h
    · split <;> exact .refl h
  | createSnapshot additional =>
    refine (refuse_confined _).bind (fun _ => ?_)
    exact ((createAndUploadSnapshot_confined w taskId _ _).weaken
      (by simp [requestParts, Set.insert_subset_iff])).bind (fun _ => .pure _)
  | deleteSnapshot snapshotName =>
    intro h
    change Only _ h (snapshotDelete taskId snapshotName h).2
    unfold snapshotDelete
    split
    · exact .refl h
    · exact (terminateUploadSnapshot_only taskId snapshotName h).weaken
        (by simp [requestParts, Set.insert_subset_iff])

end Requests

section Create
variable (hw : Hardware) (w : World) (taskId : Bytes) (h : Host)

theorem addDiskInfo_only (disk : DiskInfo) : Only {.disks taskId} h (h.addDiskInfo taskId disk) :=
  setDisks_only taskId h _

theorem addDisks_only (params : CreateTaskParams) : Only {.disks params.taskId} h (h.addDisks w params) := by
  unfold addDisks
  split
  · exact .refl h
  · exact (addDiskInfo_only _ h _).trans (addDiskInfo_only _ _ _)

theorem addGpus_only (gpus : OrdMap Bytes (List Bytes)) : Only {.gpus taskId} h (h.addGpus taskId gpus) := by
  unfold addGpus
  split
  · exact .refl h
  · exact setGpus_only taskId h _

theorem addInfo_only (info : TaskInfo) :
    Only {.known info.taskId, .info info.taskId, .ports info.taskId} h (h.addInfo info) := by
  intro part outside
  cases part with
  | known other =>
    have different : other ≠ info.taskId := fun same => outside (by simp [same])
    exact congrArg Option.isSome (OrdMap.find_insert_ne different _ _)
  | info other =>
    have different : other ≠ info.taskId := fun same => outside (by simp [same])
    exact Prod.ext (OrdMap.find_insert_ne different _ _) (OrdMap.find_insert_ne different _ _)
  | ports other =>
    have different : other ≠ info.taskId := fun same => outside (by simp [same])
    exact congrArg (Option.map TaskInfo.ports) (OrdMap.find_insert_ne different _ _)
  | _ => rfl

theorem rents_only (rents : OrdMap Bytes WalletRentTask) : Only {.rents} h { h with walletRentTasks := rents } := by
  intro part outside
  cases part with
  | rents => exact (outside rfl).elim
  | _ => rfl

theorem addRentTask_only (wallet : Bytes) (rentEnd : Int) : Only {.rents} h (h.addRentTask wallet taskId rentEnd) :=
  rents_only h _

theorem delRentTask_only : Only {.rents} h (h.delRentTask taskId) := by
  unfold delRentTask
  split
  · exact .refl h
  · exact rents_only h _

/-- What the creation of a task touches before its domain is made. -/
def createParts : Set Part :=
  {.known taskId, .info taskId, .ports taskId, .disks taskId, .gpus taskId, .rents, .events}

theorem addTask_only (wallet : Bytes) (rentEnd : Int) (params : CreateTaskParams) (rootBackfile : Bytes) :
    Only (createParts params.taskId) h (h.addTask w wallet rentEnd params rootBackfile) := by
  unfold addTask createParts
  have first : Only (createParts params.taskId) h (h.addInfo (CreateTaskParams.info params w.time rootBackfile)) :=
    (addInfo_only h _).weaken (by simp [createParts, CreateTaskParams.info, Set.insert_subset_iff])
  have second := first.next (addDisks_only w _ params) (by simp [createParts])
  have third := second.next (addGpus_only params.taskId _ params.gpus) (by simp [createParts])
  have fourth := third.next (addRentTask_only params.taskId _ wallet rentEnd) (by simp [createParts])
  exact fourth.next (pushTaskEvent_only _ _) (by simp [createParts])

end Create

section Stop
variable (w : World) (taskId : Bytes) (h : Host)

theorem closeTask_only : Only {.state taskId, .info taskId, .nat} h (h.closeTask w taskId) := by
  have stopped := (destroyDomain_only w taskId (h := h)).weaken
    (show _ ⊆ ({.state taskId, .info taskId, .nat} : Set Part) by simp)
  unfold closeTask
  split
  · exact .refl h
  · split
    · rename_i same
      rw [same] at stopped
      exact stopped
    · rename_i same
      rw [same] at stopped
      have settled := stopped.next (setTaskStatus_only taskId _ .shutoff) (by simp)
      exact settled.next (removeIptableFromSystem_only taskId _) (by simp)

theorem delInfo_only : Only {.known taskId, .info taskId, .ports taskId} h (h.delInfo taskId) := by
  intro part outside
  cases part with
  | known other =>
    have different : other ≠ taskId := fun same => outside (by simp [same])
    exact congrArg Option.isSome ((OrdMap.find_erase _ _ _).trans (if_neg different))
  | info other =>
    have different : other ≠ taskId := fun same => outside (by simp [same])
    refine Prod.ext ?_ ?_
    · exact (OrdMap.find_erase _ _ _).trans (if_neg different)
    · exact (OrdMap.find_erase _ _ _).trans (if_neg different)
  | ports other =>
    have different : other ≠ taskId := fun same => outside (by simp [same])
    exact congrArg (Option.map TaskInfo.ports) ((OrdMap.find_erase _ _ _).trans (if_neg different))
  | _ => rfl

theorem delGpus_only : Only {.gpus taskId} h (h.delGpus taskId) := by
  intro part outside
  cases part with
  | gpus other => exact (OrdMap.find_erase _ _ _).trans (if_neg (fun same => outside (by simp [same])))
  | _ => rfl

theorem delIptable_only : Only {.iptable taskId} h (h.delIptable taskId) := by
  intro part outside
  cases part with
  | iptable other => exact (OrdMap.find_erase _ _ _).trans (if_neg (fun same => outside (by simp [same])))
  | _ => rfl

theorem removeFiles_only {α : Type} (file : α → Bytes) (items : List α) :
    Only {.files} h (items.foldl (fun h item => h.removeFile (file item)) h) := by
  induction items generalizing h with
  | nil => exact .refl h
  | cons item rest ih => exact (removeFile_only h _).trans (ih _)

theorem delDisks_only : Only {.disks taskId, .files} h (h.delDisks taskId) := by
  have forgotten : Only {.disks taskId, .files} h { h with taskDisks := h.taskDisks.erase taskId } := by
    intro part outside
    cases part with
    | disks other => exact (OrdMap.find_erase _ _ _).trans (if_neg (fun same => outside (by simp [same])))
    | _ => rfl
  exact forgotten.next (removeFiles_only _ DiskInfo.sourceFile _) (by simp)

theorem delSnapshots_only : Only {.snapshots taskId, .files} h (h.delSnapshots taskId) := by
  unfold delSnapshots
  split
  · exact .refl h
  · have forgotten :
      Only {.snapshots taskId, .files} h { h with taskSnapshots := h.taskSnapshots.erase taskId } := by
      intro part outside
      cases part with
      | snapshots other => exact (OrdMap.find_erase _ _ _).trans (if_neg (fun same => outside (by simp [same])))
      | _ => rfl
    exact forgotten.next (removeFiles_only _ Snapshot.file _) (by simp)

/-- The records of a task and what goes with them. -/
def recordParts : Set Part :=
  {.known taskId, .info taskId, .ports taskId, .gpus taskId, .disks taskId, .snapshots taskId, .iptable taskId,
    .rents, .files, .nat}

/-- What the end of a task touches. -/
def destroyParts : Set Part :=
  {.defined taskId, .state taskId, .live taskId, .definition taskId} ∪ recordParts taskId

theorem destroyTask_records :
    Only (recordParts taskId) (h.destroyAndUndefineDomain w taskId) (h.destroyTask w taskId) := by
  unfold destroyTask
  dsimp only
  split
  · exact .refl _
  · have noInfo : Only (recordParts taskId) (h.destroyAndUndefineDomain w taskId)
        ((h.destroyAndUndefineDomain w taskId).delInfo taskId) :=
      (delInfo_only taskId _).weaken (by simp [recordParts, Set.insert_subset_iff])
    have noGpus := noInfo.next (delGpus_only taskId _) (by simp [recordParts])
    have noDisks := noGpus.next (delDisks_only taskId _) (by simp [recordParts, Set.insert_subset_iff])
    have noSnapshots := noDisks.next (delSnapshots_only taskId _) (by simp [recordParts, Set.insert_subset_iff])
    have closed := noSnapshots.next (removeIptableFromSystem_only taskId _) (by simp [recordParts])
    have noIptable := closed.next (delIptable_only taskId _) (by simp [recordParts])
    exact noIptable.next (delRentTask_only taskId _) (by simp [recordParts])

theorem destroyTask_only : Only (destroyParts taskId) h (h.destroyTask w taskId) := by
  have stopped := (destroyAndUndefineDomain_only w taskId (h := h)).weaken
    (show _ ⊆ destroyParts taskId from Set.subset_union_left)
  exact stopped.next (destroyTask_records w taskId h) Set.subset_union_right

/-- The records of a task that is destroyed are gone. -/
theorem destroyTask_unknown : (h.destroyTask w taskId).taskInfos.find taskId = none := by
  unfold destroyTask
  dsimp only
  split
  · assumption
  · have erased : ((h.destroyAndUndefineDomain w taskId).delInfo taskId).taskInfos.find taskId = none :=
      (OrdMap.find_erase _ _ _).trans (if_pos rfl)
    rw [(delRentTask_only taskId _).info (by simp), (delIptable_only taskId _).info (by simp),
      (removeIptableFromSystem_only taskId _).info (by simp), (delSnapshots_only taskId _).info (by simp),
      (delDisks_only taskId _).info (by simp), (delGpus_only taskId _).info (by simp), erased]

theorem delDisks_find : (h.delDisks taskId).taskDisks.find taskId = none := by
  unfold delDisks
  rw [Only.disks (removeFiles_only _ DiskInfo.sourceFile _) (by simp)]
  exact (OrdMap.find_erase _ _ _).trans (if_pos rfl)

theorem delSnapshots_find : (h.delSnapshots taskId).taskSnapshots.find taskId = none := by
  unfold delSnapshots
  split
  · assumption
  · rw [Only.snapshots (removeFiles_only _ Snapshot.file _) (by simp)]
    exact (OrdMap.find_erase _ _ _).trans (if_pos rfl)

/-- The records go only where the task was known. -/
theorem destroyTask_eq (known : (h.taskInfos.find taskId).isSome) :
    h.destroyTask w taskId = ((((((((h.destroyAndUndefineDomain w taskId).delInfo taskId).delGpus taskId).delDisks
      taskId).delSnapshots taskId).removeIptableFromSystem taskId).delIptable taskId).delRentTask taskId) := by
  have still : ((h.destroyAndUndefineDomain w taskId).taskInfos.find taskId).isSome := by
    rw [(destroyAndUndefineDomain_only w taskId).known (by simp)]
    exact known
  obtain ⟨info, found⟩ := Option.isSome_iff_exists.mp still
  simp only [destroyTask, found]

theorem destroyTask_eq_of_unknown (unknown : h.taskInfos.find taskId = none) :
    h.destroyTask w taskId = h.destroyAndUndefineDomain w taskId := by
  have still : (h.destroyAndUndefineDomain w taskId).taskInfos.find taskId = none := by
    rw [(destroyAndUndefineDomain_only w taskId).info (by simp)]
    exact unknown
  simp only [destroyTask, still]

theorem destroyTask_disks (known : (h.taskInfos.find taskId).isSome) :
    (h.destroyTask w taskId).taskDisks.find taskId = none := by
  rw [destroyTask_eq w taskId h known, (delRentTask_only taskId _).disks (by simp),
    (delIptable_only taskId _).disks (by simp),
    (removeIptableFromSystem_only taskId _).disks (by simp), (delSnapshots_only taskId _).disks (by simp),
    delDisks_find]

theorem destroyTask_gpus (known : (h.taskInfos.find taskId).isSome) :
    (h.destroyTask w taskId).taskGpus.find taskId = none := by
  rw [destroyTask_eq w taskId h known, (delRentTask_only taskId _).gpus (by simp),
    (delIptable_only taskId _).gpus (by simp),
    (removeIptableFromSystem_only taskId _).gpus (by simp), (delSnapshots_only taskId _).gpus (by simp),
    (delDisks_only taskId _).gpus (by simp)]
  exact (OrdMap.find_erase _ _ _).trans (if_pos rfl)

end Stop

section Process
variable (w : World) (taskId : Bytes) (h : Host)

/-- What an event touches. -/
def jobParts : TaskJob → Set Part
  | .createTask _ =>
    {.info taskId, .iptable taskId, .defined taskId, .state taskId, .live taskId, .definition taskId, .files, .nat}
  | .startTask => {.info taskId, .iptable taskId, .state taskId, .live taskId, .nat}
  | .shutdownTask | .powerOffTask => {.info taskId, .state taskId, .nat}
  | .reStartTask | .forceRebootTask => {.info taskId, .state taskId, .live taskId, .nat}
  | .resetTask => {.info taskId}
  | .deleteTask => destroyParts taskId
  | .resizeDisk _ _ _ => {.disks taskId}
  | .addDisk _ _ | .deleteDisk _ => {.definition taskId, .disks taskId, .files}
  | .createSnapshot _ _ _ _ => {.snapshots taskId, .files}

theorem createDomain_confined (info : TaskInfo) :
    Confined {.defined taskId, .state taskId, .live taskId, .definition taskId, .files}
      (createDomain w taskId info) := by
  intro h
  unfold createDomain
  split
  · exact (defineAndCreate_only w taskId info []).weaken (by simp [Set.insert_subset_iff])
  · split
    · rename_i vda vdb _ _
      have images : Only {.defined taskId, .state taskId, .live taskId, .definition taskId, .files} h
          (h.createImages info.imageName vda.sourceFile vdb.sourceFile) :=
        (createImages_only h _ _ _).weaken (by simp)
      exact images.next (defineAndCreate_only w taskId info _) (by simp [Set.insert_subset_iff])
    · exact .refl h

theorem createTaskIptable_only (info : TaskInfo) (localIp : Bytes) :
    Only {.iptable taskId} h (h.createTaskIptable w taskId info localIp).2 := by
  unfold createTaskIptable
  split
  · intro part outside
    cases part with
    | iptable other => exact OrdMap.find_insert_ne (fun same => outside (by simp [same])) _ _
    | _ => rfl
  · exact .refl h

theorem openNetwork_only (info : TaskInfo) :
    Only {.iptable taskId, .state taskId} h (h.openNetwork w taskId info).2 := by
  have opened := (createTaskIptable_only w taskId h info w.domainLocalIp).weaken
    (show _ ⊆ ({.iptable taskId, .state taskId} : Set Part) by simp)
  unfold openNetwork
  split
  · rename_i same
    rw [same] at opened
    exact opened
  · rename_i same
    rw [same] at opened
    exact opened.next (destroyDomain_only w taskId) (by simp)

theorem setLogin_only (info : TaskInfo) : Only {.info taskId} h (h.setLogin w taskId info) := by
  unfold setLogin
  split
  · exact setInfo_only_info taskId h (fun _ => rfl)
  · exact setInfo_only_info taskId h (fun _ => rfl)

theorem processCreateTask_confined (biosMode : Bytes) :
    Confined (jobParts taskId (.createTask biosMode)) (processCreateTask w taskId biosMode) := by
  intro h
  unfold processCreateTask
  have settled : ∀ {k : Host} {status}, Only (jobParts taskId (.createTask biosMode)) h k →
      Only (jobParts taskId (.createTask biosMode)) h (k.settle taskId .creating status) :=
    fun before => before.next (settle_only taskId _ _ _) (by simp [jobParts])
  split
  · exact .refl h
  · rename_i info _
    have created := (createDomain_confined w taskId info h).weaken
      (show _ ⊆ jobParts taskId (.createTask biosMode) by simp [jobParts, Set.insert_subset_iff])
    split
    · exact settled (.refl h)
    · split
      · rename_i same
        rw [same] at created
        exact created
      · rename_i same
        rw [same] at created
        exact settled created
      · rename_i k same
        rw [same] at created
        have opened := created.next (openNetwork_only w taskId k info) (by simp [jobParts, Set.insert_subset_iff])
        split
        · exact settled created
        · split
          · rename_i unreachable
            rw [unreachable] at opened
            exact settled opened
          · rename_i reachable
            rw [reachable] at opened
            have added := opened.next (addIptableToSystem_only taskId _) (by simp [jobParts])
            exact settled (added.next (setLogin_only w taskId _ info) (by simp [jobParts]))

theorem processStartTask_only : Only (jobParts taskId .startTask) h (h.processStartTask w taskId) := by
  unfold processStartTask
  split
  · exact .refl h
  · rename_i info _
    have started := (startDomain_only w taskId (h := h)).weaken
      (show _ ⊆ jobParts taskId .startTask by simp [jobParts, Set.insert_subset_iff])
    split
    · rename_i same
      rw [same] at started
      exact started.next (settle_only taskId _ _ _) (by simp [jobParts])
    · rename_i k same
      rw [same] at started
      have opened := started.next (openNetwork_only w taskId k info) (by simp [jobParts, Set.insert_subset_iff])
      have ended : ∀ {l : Host}, Only (jobParts taskId .startTask) h l →
          Only (jobParts taskId .startTask) h ((l.settle taskId .starting .running).addIptableToSystem taskId) := by
        intro l before
        have settled := before.next (settle_only taskId l .starting .running) (by simp [jobParts])
        exact settled.next (addIptableToSystem_only taskId _) (by simp [jobParts])
      split
      · split
        · rename_i unreachable
          rw [unreachable] at opened
          exact opened.next (settle_only taskId _ _ _) (by simp [jobParts])
        · rename_i reachable
          rw [reachable] at opened
          exact ended opened
      · exact ended started

theorem recordRootBackfile_confined (info : TaskInfo) :
    Confined {.info taskId} (recordRootBackfile taskId info) := by
  intro h
  unfold recordRootBackfile
  split
  · exact .refl h
  · split
    · exact .refl h
    · exact updateInfo_only_info taskId h (fun _ => rfl)

theorem processStop_confined (pending failed : TaskStatus) :
    Confined {.info taskId, .state taskId, .nat} (processStop w taskId pending failed) := by
  intro h
  unfold processStop
  split
  · exact .refl h
  · rename_i info _
    have stopped := (destroyDomain_only w taskId (h := h)).weaken
      (show _ ⊆ ({.info taskId, .state taskId, .nat} : Set Part) by simp)
    split
    · rename_i same
      rw [same] at stopped
      exact stopped.next (settle_only taskId _ _ _) (by simp)
    · rename_i same
      rw [same] at stopped
      have settled := stopped.next (settle_only taskId _ pending .shutoff) (by simp)
      have closed := settled.next (removeIptableFromSystem_only taskId _) (by simp)
      exact closed.next (recordRootBackfile_confined taskId info _) (by simp)

theorem restarted_only (done : Bool) : Only {.info taskId, .nat} h (h.restarted taskId done) := by
  have settled := fun status => (settle_only taskId h .restarting status).weaken
    (show _ ⊆ ({.info taskId, .nat} : Set Part) by simp)
  unfold restarted
  split
  · exact (settled .running).next (addIptableToSystem_only taskId _) (by simp)
  · exact settled .restartTaskError

theorem startAgain_only : Only (jobParts taskId .reStartTask) h
    ((h.startDomain w taskId).2.restarted taskId (h.startDomain w taskId).1) := by
  have started := (startDomain_only w taskId (h := h)).weaken
    (show _ ⊆ jobParts taskId .reStartTask by simp [jobParts, Set.insert_subset_iff])
  exact started.next (restarted_only taskId _ _) (by simp [jobParts, Set.insert_subset_iff])

theorem processRestartTask_only : Only (jobParts taskId .reStartTask) h (h.processRestartTask w taskId) := by
  unfold processRestartTask
  split
  · exact .refl h
  · split
    · exact startAgain_only w taskId h
    · split
      · exact (restarted_only taskId h _).weaken (by simp [jobParts, Set.insert_subset_iff])
      · exact .refl h

theorem processForceRebootTask_only :
    Only (jobParts taskId .reStartTask) h (h.processForceRebootTask w taskId) := by
  unfold processForceRebootTask
  split
  · exact .refl h
  · split
    · exact startAgain_only w taskId h
    · have stopped := (destroyDomain_only w taskId (h := h)).weaken
        (show _ ⊆ jobParts taskId .reStartTask by simp [jobParts])
      split
      · rename_i same
        rw [same] at stopped
        exact stopped.next (restarted_only taskId _ _) (by simp [jobParts, Set.insert_subset_iff])
      · rename_i k same
        rw [same] at stopped
        exact stopped.trans (startAgain_only w taskId k)

theorem processResetTask_only : Only {.info taskId} h (h.processResetTask w taskId) := by
  unfold processResetTask
  split
  · exact .refl h
  · split
    · exact settle_only taskId h _ _
    · exact settle_only taskId h _ _

theorem processDeleteTask_only : Only (destroyParts taskId) h (h.processDeleteTask w taskId) := by
  unfold processDeleteTask
  split
  · exact .refl h
  · exact destroyTask_only w taskId h

theorem processResizeDisk_only (diskName : Bytes) :
    Only {.disks taskId} h (h.processResizeDisk w taskId diskName) := by
  unfold processResizeDisk
  split
  · exact .refl h
  · exact setDisks_only taskId h _

theorem processAddDisk_confined (sizeK : Int) (mountDir : Bytes) :
    Confined {.definition taskId, .disks taskId, .files} (processAddDisk w taskId sizeK mountDir) := by
  intro h
  unfold processAddDisk
  split
  · exact .refl h
  · rename_i diskName _
    extract_lets sourceFile
    have written := (writeImage_only h sourceFile []).weaken
      (show _ ⊆ ({.definition taskId, .disks taskId, .files} : Set Part) by simp)
    have attached := written.next (attachDisk_only w taskId diskName sourceFile) (by simp)
    split
    · rename_i same
      rw [same] at attached
      exact attached.next (removeFile_only _ _) (by simp)
    · rename_i same
      rw [same] at attached
      exact attached.next (addDiskInfo_only taskId _ _) (by simp)

theorem processDeleteDisk_only (diskName : Bytes) :
    Only {.definition taskId, .disks taskId, .files} h (h.processDeleteDisk w taskId diskName) := by
  have detached := (detachDisk_only w taskId (h := h) diskName).weaken
    (show _ ⊆ ({.definition taskId, .disks taskId, .files} : Set Part) by simp)
  unfold processDeleteDisk
  split
  · rename_i same
    rw [same] at detached
    exact detached
  · rename_i same
    rw [same] at detached
    split
    · exact detached
    · exact (detached.next (removeFile_only _ _) (by simp)).next (setDisks_only taskId _ _) (by simp)

theorem setSnapshotStatus_confined (snapshotName : Bytes) (status : SnapshotStatus) :
    Confined {.snapshots taskId} (setSnapshotStatus taskId snapshotName status) := by
  intro h
  unfold setSnapshotStatus
  split
  · exact .refl h
  · exact setSnapshots_only taskId h _

theorem processCreateSnapshot_confined (snapshotName rootBackfile sourceFile snapshotFile : Bytes) :
    Confined {.snapshots taskId, .files}
      (processCreateSnapshot w taskId snapshotName rootBackfile sourceFile snapshotFile) := by
  intro h
  unfold processCreateSnapshot
  have copied : Only {.snapshots taskId, .files} h
      (if h.fileExists sourceFile then h.writeImage snapshotFile rootBackfile else h) := by
    split
    · exact (writeImage_only h _ _).weaken (by simp)
    · exact .refl h
  dsimp only
  split
  · exact copied.next (setSnapshotStatus_confined taskId _ _ _) (by simp)
  · exact copied.next (terminateUploadSnapshot_only taskId _ _) (by simp [Set.insert_subset_iff])

theorem processJob_confined (job : TaskJob) : Confined (jobParts taskId job) (processJob w taskId job) := by
  cases job with
  | createTask biosMode => exact processCreateTask_confined w taskId biosMode
  | startTask => exact .update (processStartTask_only w taskId)
  | shutdownTask => exact processStop_confined w taskId _ _
  | powerOffTask => exact processStop_confined w taskId _ _
  | reStartTask => exact .update (processRestartTask_only w taskId)
  | forceRebootTask => exact .update (processForceRebootTask_only w taskId)
  | resetTask => exact .update (processResetTask_only w taskId)
  | deleteTask => exact .update (processDeleteTask_only w taskId)
  | resizeDisk diskName _ _ => exact .update (fun h => processResizeDisk_only w taskId h diskName)
  | addDisk sizeK mountDir => exact processAddDisk_confined w taskId sizeK mountDir
  | deleteDisk diskName => exact .update (fun h => processDeleteDisk_only w taskId h diskName)
  | createSnapshot snapshotName rootBackfile sourceFile snapshotFile =>
    exact processCreateSnapshot_confined w taskId snapshotName rootBackfile sourceFile snapshotFile

theorem deleteImage_confined (doc : Json) : Confined {.files} (deleteImage w doc) := by
  intro h
  unfold deleteImage
  extract_lets name path
  split
  · exact .refl h
  · split
    · exact .refl h
    · split
      · exact .refl h
      · split
        · exact .refl h
        · exact removeFile_only h path

theorem fileAppears_only {path backing : Bytes} {h k : Host} (ran : h.fileAppears path backing = some k) :
    Only {.files} h k := by
  unfold fileAppears at ran
  split at ran
  · cases ran
  · cases ran
    exact files_only h _

theorem domainChanges_only {taskId : Bytes} {state : DomainState} {h k : Host}
    (ran : h.domainChanges taskId state = some k) :
    Only {.defined taskId, .state taskId, .live taskId, .definition taskId} h k := by
  unfold domainChanges at ran
  split at ran
  · cases ran
  · split at ran
    · cases ran
    · cases ran
      exact setDomain_only_domain taskId _

theorem updateRunningTasks_only : Only {.running} h h.updateRunningTasks := by
  intro part outside
  cases part with
  | running => exact (outside rfl).elim
  | _ => rfl

end Process

/-- The task that a part is about. -/
def Part.owner : Part → Option Bytes
  | .known taskId | .info taskId | .ports taskId | .gpus taskId | .disks taskId | .snapshots taskId
    | .iptable taskId
  | .defined taskId | .state taskId | .live taskId | .definition taskId => some taskId
  | .running | .rents | .events | .files | .nat => none

/-- Parts that are about no other task. -/
def Within (taskId : Bytes) (parts : Set Part) : Prop := ∀ part ∈ parts, part.owner = none ∨
    part.owner = some taskId

theorem Within.other {taskId other : Bytes} {parts : Set Part} {part : Part} (within : Within taskId parts)
    (about : part.owner = some other) (different : other ≠ taskId) : part ∉ parts := by
  intro member
  rcases within part member with shared | own
  · rw [shared] at about
    cases about
  · rw [own] at about
    exact different (Option.some.inj about).symm

theorem createParts_within (taskId : Bytes) : Within taskId (createParts taskId) := by
  intro part member
  simp only [createParts, Set.mem_insert_iff, Set.mem_singleton_iff] at member
  rcases member with rfl | rfl | rfl | rfl | rfl | rfl | rfl <;> simp [Part.owner]

/-- The parts of a domain. -/
theorem domainParts_within (taskId : Bytes) :
    Within taskId {.defined taskId, .state taskId, .live taskId, .definition taskId} := by
  intro part member
  simp only [Set.mem_insert_iff, Set.mem_singleton_iff] at member
  rcases member with rfl | rfl | rfl | rfl <;> simp [Part.owner]

theorem closeParts_within (taskId : Bytes) : Within taskId {.state taskId, .info taskId, .nat} := by
  intro part member
  simp only [Set.mem_insert_iff, Set.mem_singleton_iff] at member
  rcases member with rfl | rfl | rfl <;> simp [Part.owner]

theorem destroyParts_within (taskId : Bytes) : Within taskId (destroyParts taskId) := by
  intro part member
  simp only [destroyParts, recordParts, Set.mem_union, Set.mem_insert_iff, Set.mem_singleton_iff] at member
  rcases member with (rfl | rfl | rfl | rfl) | rfl | rfl | rfl | rfl | rfl | rfl | rfl | rfl | rfl | rfl <;>
    simp [Part.owner]

theorem jobParts_within (taskId : Bytes) (job : TaskJob) : Within taskId (jobParts taskId job) := by
  cases job with
  | deleteTask => exact destroyParts_within taskId
  | _ =>
    intro part member
    simp only [jobParts, Set.mem_insert_iff, Set.mem_singleton_iff] at member
    grind [Part.owner]

theorem events_notMem_jobParts (taskId : Bytes) (job : TaskJob) : .events ∉ jobParts taskId job := by
  cases job <;> simp [jobParts, destroyParts, recordParts]

end DbcNode.Host
