import DbcNode.Task.Backing

namespace DbcNode.Host

/-- The path of the data disk of a new task. -/
def dataFile (w : World) (doc : Json) : Bytes :=
  str "/data/" ++
    (if doc.parseString (str "data_file_name") = [] then w.newDataDisk else doc.parseString (str "data_file_name"))

/-- The two disks of a new task are unused, and neither rests on the
other. -/
def NewDisks (w : World) (h : Host) (doc : Json) : Prop :=
  h.Unused (resolvePath (str "/data/" ++ w.newSystemDisk)) ∧ h.Unused (resolvePath (dataFile w doc)) ∧
  ¬ RestsOn h.link (resolvePath (str "/data/" ++ w.newSystemDisk)) (resolvePath (dataFile w doc)) ∧
  ¬ RestsOn h.link (resolvePath (dataFile w doc)) (resolvePath (str "/data/" ++ w.newSystemDisk))

/-- What a job brings in: a system disk on its image, a new disk, or a
snapshot on its root file. -/
def JobAside (w : World) (h : Host) (event : TaskEvent) : Prop :=
  match event.job with
  | .createTask _ => w.defineNwfilter → ∀ info vda, h.taskInfos.find event.taskId = some info →
      info.biosMode ≠ str "pxe" → (h.listDisks event.taskId).find (str "vda") = some vda →
      h.MayWrite vda.sourceFile (str "/data/" ++ info.imageName)
  | .addDisk _ mountDir => h.Unused (resolvePath (mountDir ++ str "/" ++ w.newDataDisk))
  | .createSnapshot _ rootBackfile sourceFile snapshotFile => h.fileExists sourceFile →
      h.MayWrite snapshotFile rootBackfile
  | _ => True

/-- No step takes a file that is in use for something else: what comes in as
a disk is unused, an image is made on no disk and no snapshot of others, and
an image that is deleted is spare. -/
def FilesAside (hw : Hardware) (h : Host) : World × HostEvent → Prop
  | (w, .create wallet (some doc) rentEnd role) =>
      ¬ (FileRequest.create wallet (some doc) rentEnd role).ChecksFail hw w h → doc.biosMode ≠ str "pxe" →
        NewDisks w h doc
  | (w, .request _ ⟨_, .createSnapshot _⟩) => h.Spare (resolvePath (str "/tmp/dbc_snapshots/" ++ w.newSnapshotFile))
  | (w, .deleteImage doc) => ¬ (FileRequest.deleteImage doc).ChecksFail hw w h →
      h.Spare (resolvePath (str "/data/" ++ doc.parseString (str "image_filename")))
  | (w, .process) => ∀ event rest, h.events = event :: rest → JobAside w { h with events := rest } event
  | (_, .fileAppears path backing) => h.MayBack path backing
  | _ => True

/-- A step that keeps the files apart and removes only spare ones. -/
structure KeepsFiles (h k : Host) : Prop where
  apart : FilesApart k
  removes : RemovesSpare h k

namespace KeepsFiles
variable {h k l : Host}

theorem same (apart : FilesApart h) (same : SameFiles h k) : KeepsFiles h k := ⟨same.apart apart, same.removes⟩

theorem shed (apart : FilesApart h) (sheds : Sheds h k) : KeepsFiles h k := ⟨sheds.apart apart, sheds.removes apart⟩

theorem before (same : SameFiles h k) (keeps : KeepsFiles k l) : KeepsFiles h l :=
    ⟨keeps.apart, same.before keeps.removes⟩

theorem after (keeps : KeepsFiles h k) (same : SameFiles k l) : KeepsFiles h l :=
  ⟨same.apart keeps.apart, same.after keeps.removes⟩

/-- What writes images removes none. -/
theorem written (apart : FilesApart k) (kept : ∀ file, k.files.find file = none → h.files.find file = none) :
    KeepsFiles h k := by
  refine ⟨apart, fun file present missing => ?_⟩
  rw [kept file missing] at present
  cases present

end KeepsFiles

section Steps
variable {hw : Hardware} {w : World} {taskId : Bytes} {h k l : Host}

/-- What is written and then shed. -/
theorem KeepsFiles.writtenShed (apart : FilesApart h) (between : FilesApart k) (holds : k.Holds = h.Holds)
    (kept : ∀ file, k.files.find file = none → h.files.find file = none) (sheds : Sheds k l) : KeepsFiles h l := by
  refine ⟨sheds.apart between, fun file present missing disk top has => ?_⟩
  have still : (k.files.find file).isSome := by
    by_contra lost
    rw [kept file (Option.not_isSome_iff_eq_none.mp lost)] at present
    cases present
  obtain ⟨holder, held, lost⟩ := sheds.gone file still missing
  rw [holds] at held
  exact apart disk top (holds ▸ sheds.holds _ _ has) holder file held (fun same => lost disk same top has)

theorem addDiskInfo_holds {disk : DiskInfo} {holder : Option (Bytes × Bytes)} {file : List Bytes}
    (holds : (h.addDiskInfo taskId disk).Holds holder file) :
    h.Holds holder file ∨ holder = some (taskId, disk.name) ∧ file = resolvePath disk.sourceFile := by
  cases holds with
  | @disk other name later found =>
    by_cases own : other = taskId
    · subst own
      rw [addDiskInfo_listDisks] at found
      split at found
      · exact Or.inl (.disk found)
      · rw [OrdMap.find_insert] at found
        split at found
        · rename_i named
          cases found
          exact Or.inr ⟨by rw [named], rfl⟩
        · exact Or.inl (.disk found)
    · rw [listDisks, (addDiskInfo_only taskId h disk).disks (by simpa using own)] at found
      exact Or.inl (.disk found)
  | snapshot found member => exact Or.inl (.snapshot found member)

theorem FilesApart.addDiskInfo (apart : FilesApart h) {disk : DiskInfo}
    (unused : h.Unused (resolvePath disk.sourceFile)) : FilesApart (h.addDiskInfo taskId disk) :=
  apart.hold (some (taskId, disk.name)) (fun other top holds _ => unused.1 other top holds)
    (fun _ _ holder node holds _ => unused.2 holder node holds) (fun _ _ => addDiskInfo_holds)

theorem SameFiles.unused (same : SameFiles h k) {file : List Bytes} (unused : h.Unused file) : k.Unused file := by
  rw [Unused, Spare, same.holds, link_congr same.files]
  exact unused

/-- A disk is unused after another one came that has nothing to do with
it. -/
theorem Unused.addDiskInfo {disk : DiskInfo} {file : List Bytes} (unused : h.Unused file)
    (unrested : ¬ RestsOn h.link (resolvePath disk.sourceFile) file)
    (resting : ¬ RestsOn h.link file (resolvePath disk.sourceFile)) : (h.addDiskInfo taskId disk).Unused file := by
  refine ⟨fun other top holds => ?_, fun holder node holds => ?_⟩
  · rcases addDiskInfo_holds holds with old | ⟨_, rfl⟩
    · exact unused.1 other top old
    · exact unrested
  · rcases addDiskInfo_holds holds with old | ⟨_, rfl⟩
    · exact unused.2 holder node old
    · exact resting

theorem addTask_keeps (apart : FilesApart h) {wallet root : Bytes} {rentEnd : Int} {params : CreateTaskParams}
    {doc : Json} (mode : params.biosMode = doc.biosMode)
    (data : params.dataFileName = if doc.biosMode = str "pxe" then [] else doc.parseString (str "data_file_name"))
    (aside : doc.biosMode ≠ str "pxe" → NewDisks w h doc) :
    KeepsFiles h (h.addTask w wallet rentEnd params root) := by
  have known : SameFiles h (h.addInfo (CreateTaskParams.info params w.time root)) :=
    .of_only (addInfo_only h _) (by simp) (by simp) (by simp)
  have disks : KeepsFiles (h.addInfo (CreateTaskParams.info params w.time root))
      ((h.addInfo (CreateTaskParams.info params w.time root)).addDisks w params) := by
    unfold addDisks
    split
    · exact .same (known.apart apart) ⟨rfl, rfl⟩
    · rename_i boots
      rw [mode] at boots
      rw [if_neg boots] at data
      obtain ⟨system, own, forth, back⟩ := aside boots
      have named : str "/data/" ++ (if params.dataFileName = [] then w.newDataDisk else params.dataFileName) =
          dataFile w doc := by
        rw [dataFile, data]
      rw [named]
      rw [← link_congr known.files] at forth back
      refine .written (FilesApart.addDiskInfo ((known.apart apart).addDiskInfo (known.unused system)) ?_)
        (fun _ => id)
      exact (known.unused own).addDiskInfo forth back
  have gpus := disks.after (.of_only (addGpus_only params.taskId _ params.gpus) (by simp) (by simp) (by simp))
  have rents :=
    gpus.after (.of_only (addRentTask_only params.taskId _ wallet rentEnd) (by simp) (by simp) (by simp))
  exact .before known (rents.after (.of_only (pushTaskEvent_only _ _) (by simp) (by simp) (by simp)))

theorem addSnapshot_keeps (apart : FilesApart h) {snapshot : Snapshot}
    (spare : h.Spare (resolvePath snapshot.file)) :
    KeepsFiles h (h.addSnapshot taskId snapshot) := by
  refine .written (apart.hold none (fun other top holds _ => spare other top holds) ?_ ?_) (fun _ => id)
  · intro _ same
    cases same
  · intro holder file holds
    cases holds with
    | disk found => exact Or.inl (.disk found)
    | @snapshot other info member found inside =>
      change (h.taskSnapshots.insert taskId _).find other = some info at found
      rw [OrdMap.find_insert] at found
      split at found
      · cases found
        rcases List.mem_append.mp inside with old | last
        · cases before : h.taskSnapshots.find taskId with
          | none =>
            rw [before] at old
            cases old
          | some info =>
            rw [before] at old
            exact Or.inl (.snapshot before old)
        · rw [List.mem_singleton.mp last]
          exact Or.inr ⟨rfl, rfl⟩
      · exact Or.inl (.snapshot found inside)

theorem createAndUploadSnapshot_keeps (apart : FilesApart h) (snapshotName desc : Bytes)
    (spare : h.Spare (resolvePath (str "/tmp/dbc_snapshots/" ++ w.newSnapshotFile))) :
    KeepsFiles h (createAndUploadSnapshot w taskId snapshotName desc h).2 := by
  unfold createAndUploadSnapshot
  split
  · exact .same apart ⟨rfl, rfl⟩
  · split
    · exact .same apart ⟨rfl, rfl⟩
    · split
      · exact .same apart ⟨rfl, rfl⟩
      · extract_lets root file
        split
        · exact .same apart ⟨rfl, rfl⟩
        · exact (addSnapshot_keeps apart spare).after
            (.of_only (pushTaskEvent_only _ _) (by simp) (by simp) (by simp))

/-- The requests but those for snapshots touch no file and no record of
one. -/
theorem execute_same (wallet : Bytes) {request : TaskRequest}
    (plain : ∀ doc, request.operation ≠ .createSnapshot doc)
    (kept : ∀ name, request.operation ≠ .deleteSnapshot name) : SameFiles h (execute hw w wallet request h).2 := by
  have footprint := execute_confined hw w wallet request h
  obtain ⟨taskId, operation⟩ := request
  cases operation with
  | logs headOrTail numberOfLines =>
    have only : Confined ∅ (taskLogs w taskId headOrTail numberOfLines) :=
      (refuse_confined _).bind (fun _ => (getTaskLog_confined w taskId).bind (fun _ => .pure _))
    exact .of_only (only h) (by simp) (by simp) (by simp)
  | listDisk =>
    have only : Confined ∅ (doListDisk taskId) := (diskTask_confined taskId).bind (fun _ => .fetch _)
    exact .of_only (only h) (by simp) (by simp) (by simp)
  | resizeDisk doc =>
    have only : Confined {.events} (doResizeDisk w taskId doc) := (diskTask_confined taskId).bind
      (fun _ => (refuse_confined _).bind (fun _ => (resizeDisk_confined taskId _ _).bind (fun _ => .pure _)))
    exact .of_only (only h) (by simp) (by simp) (by simp)
  | addDisk doc =>
    have only : Confined {.events} (doAddDisk w taskId doc) := (diskTask_confined taskId).bind
      (fun _ => (refuse_confined _).bind (fun _ => (addNewDisk_confined w taskId _ _).bind (fun _ => .pure _)))
    exact .of_only (only h) (by simp) (by simp) (by simp)
  | deleteDisk doc =>
    have only : Confined {.events} (doDeleteDisk taskId doc) := (diskTask_confined taskId).bind
      (fun _ => (refuse_confined _).bind (fun _ => (deleteDisk_confined taskId _).bind (fun _ => .pure _)))
    exact .of_only (only h) (by simp) (by simp) (by simp)
  | listSnapshot snapshotName =>
    change SameFiles h (snapshotList taskId snapshotName h).2
    unfold snapshotList
    split
    · exact ⟨rfl, rfl⟩
    · split <;> exact ⟨rfl, rfl⟩
  | createSnapshot doc => exact (plain doc rfl).elim
  | deleteSnapshot name => exact (kept name rfl).elim
  | _ => exact .of_only footprint (by simp [requestParts]) (by simp [requestParts]) (by simp [requestParts])

theorem request_keeps (apart : FilesApart h) {wallet : Bytes} {request : TaskRequest}
    (aside : FilesAside hw h (w, .request wallet request)) : KeepsFiles h (execute hw w wallet request h).2 := by
  obtain ⟨taskId, operation⟩ := request
  cases operation with
  | createSnapshot doc =>
    have made : KeepsFiles h (createAndUploadSnapshot w taskId (doc.parseString (str "snapshot_name"))
        (doc.parseString (str "desc")) h).2 := createAndUploadSnapshot_keeps apart _ _ aside
    change KeepsFiles h (snapshotCreate w taskId doc h).2
    refine Prog.bind_looked (refuse_same _ h) (.same apart ⟨rfl, rfl⟩) (fun _ => ?_)
    exact Prog.Keeps.after made (fun _ => .pure _)
  | deleteSnapshot name =>
    change KeepsFiles h (snapshotDelete taskId name h).2
    unfold snapshotDelete
    split
    · exact .same apart ⟨rfl, rfl⟩
    · exact .shed apart (terminateUploadSnapshot_sheds taskId name h)
  | _ => exact .same apart (execute_same wallet (fun _ other => (by cases other)) (fun _ other => (by cases other)))

theorem createImages_keeps (apart : FilesApart h) {imageName systemDisk : Bytes} (dataDisk : Bytes)
    (may : h.MayWrite systemDisk (str "/data/" ++ imageName)) :
    KeepsFiles h (h.createImages imageName systemDisk dataDisk) := by
  have system := apart.writeImage may
  unfold createImages
  dsimp only
  split
  · exact .written system (fun _ => writeImage_keeps)
  · exact .written (system.writeImage (fun _ => .of_empty _ _))
      (fun _ missing => writeImage_keeps (writeImage_keeps missing))

theorem createDomain_keeps (apart : FilesApart h) {info : TaskInfo} (may : ∀ vda, info.biosMode ≠ str "pxe" →
    (h.listDisks taskId).find (str "vda") = some vda → h.MayWrite vda.sourceFile (str "/data/" ++ info.imageName)) :
    KeepsFiles h (createDomain w taskId info h).2 := by
  unfold createDomain
  split
  · exact .same apart (.of_only (defineAndCreate_only w taskId info []) (by simp) (by simp) (by simp))
  · rename_i boots
    split
    · rename_i vda vdb found _
      exact (createImages_keeps apart vdb.sourceFile (may vda boots found)).after
        (.of_only (defineAndCreate_only w taskId info _) (by simp) (by simp) (by simp))
    · exact .same apart ⟨rfl, rfl⟩

theorem settle_same (taskId : Bytes) (pending status : TaskStatus) (h : Host) :
    SameFiles h (h.settle taskId pending status) :=
  .of_only (settle_only taskId h pending status) (by simp) (by simp) (by simp)

theorem processCreateTask_keeps (apart : FilesApart h) (biosMode : Bytes) (may : w.defineNwfilter → ∀ info vda,
    h.taskInfos.find taskId = some info → info.biosMode ≠ str "pxe" →
      (h.listDisks taskId).find (str "vda") = some vda →
    h.MayWrite vda.sourceFile (str "/data/" ++ info.imageName)) : KeepsFiles h
      (processCreateTask w taskId biosMode h).2 := by
  unfold processCreateTask
  split
  · exact .same apart ⟨rfl, rfl⟩
  · rename_i info known
    split
    · exact .same apart (settle_same taskId _ _ h)
    · rename_i filtered
      have made : KeepsFiles h (createDomain w taskId info h).2 :=
        createDomain_keeps apart (fun vda => may (by simpa using filtered) info vda known)
      split
      · rename_i ran
        rw [ran] at made
        exact made
      · rename_i l ran
        rw [ran] at made
        exact made.after (settle_same taskId _ _ l)
      · rename_i l ran
        rw [ran] at made
        split
        · exact made.after (settle_same taskId _ _ l)
        · have opened : SameFiles l (l.openNetwork w taskId info).2 :=
            .of_only (openNetwork_only w taskId l info) (by simp) (by simp) (by simp)
          split
          · rename_i m network
            rw [network] at opened
            exact (made.after opened).after (settle_same taskId _ _ m)
          · rename_i m network
            rw [network] at opened
            have added :=
              (made.after opened).after (.of_only (addIptableToSystem_only taskId m) (by simp) (by simp) (by simp))
            have login := added.after (.of_only (setLogin_only w taskId _ info) (by simp) (by simp) (by simp))
            exact login.after (settle_same taskId _ _ _)

theorem emptyImage_link {path : Bytes} {file next : List Bytes}
    (linked : (h.writeImage path []).link file = some next) :
    h.link file = some next := by
  unfold writeImage at linked
  rw [if_pos (Or.inl rfl)] at linked
  obtain ⟨others, own⟩ := insertFile_link h path []
  by_cases here : file = resolvePath path
  · rw [here, own] at linked
    cases linked
  · rwa [others file here] at linked

theorem processAddDisk_keeps (apart : FilesApart h) (sizeK : Int) {mountDir : Bytes}
    (unused : h.Unused (resolvePath (mountDir ++ str "/" ++ w.newDataDisk))) :
    KeepsFiles h (processAddDisk w taskId sizeK mountDir h).2 := by
  unfold processAddDisk
  split
  · exact .same apart ⟨rfl, rfl⟩
  · rename_i name _
    extract_lets sourceFile
    have written := apart.writeImage (fun _ => MayBack.of_empty h sourceFile)
    have holds := writeImage_holds h sourceFile []
    have fresh : (h.writeImage sourceFile []).Unused (resolvePath sourceFile) := by
      rw [Unused, Spare, holds]
      exact ⟨fun disk top has rests => unused.1 disk top has (rests.of_fewer (fun _ _ => emptyImage_link)),
        fun holder node has rests => unused.2 holder node has (rests.of_fewer (fun _ _ => emptyImage_link))⟩
    have attached :
      SameFiles (h.writeImage sourceFile []) ((h.writeImage sourceFile []).attachDisk w taskId name sourceFile).2 :=
      .of_only (attachDisk_only w taskId name sourceFile) (by simp) (by simp) (by simp)
    split
    · rename_i error l ran
      rw [ran] at attached
      refine ⟨(attached.apart written).removeFile sourceFile, fun file present missing disk top has rests => ?_⟩
      rw [removeFile_holds, attached.holds, holds] at has
      by_cases own : file = resolvePath sourceFile
      · exact unused.1 disk top has (own ▸ rests)
      · rw [find_removeFile, if_neg own, attached.files] at missing
        rw [writeImage_keeps missing] at present
        cases present
    · rename_i l ran
      rw [ran] at attached
      refine .written ((attached.apart written).addDiskInfo (attached.unused fresh)) (fun file missing => ?_)
      change l.files.find file = none at missing
      rw [attached.files] at missing
      exact writeImage_keeps missing

theorem processCreateSnapshot_keeps (apart : FilesApart h) (snapshotName sourceFile : Bytes)
    {rootBackfile snapshotFile : Bytes} (may : h.fileExists sourceFile → h.MayWrite snapshotFile rootBackfile) :
    KeepsFiles h (processCreateSnapshot w taskId snapshotName rootBackfile sourceFile snapshotFile h).2 := by
  have copied : ∃ k, (if h.fileExists sourceFile then h.writeImage snapshotFile rootBackfile else h) = k ∧
    FilesApart k ∧
      k.Holds = h.Holds ∧ ∀ file, k.files.find file = none → h.files.find file = none := by
    refine ⟨_, rfl, ?_⟩
    split
    · rename_i present
      exact ⟨apart.writeImage (may present), writeImage_holds h _ _, fun _ => writeImage_keeps⟩
    · exact ⟨apart, rfl, fun _ => id⟩
  obtain ⟨k, same, between, holds, kept⟩ := copied
  unfold processCreateSnapshot
  rw [same]
  dsimp only
  split
  · exact .writtenShed apart between holds kept (setSnapshotStatus_sheds taskId snapshotName _ k)
  · exact .writtenShed apart between holds kept (terminateUploadSnapshot_sheds taskId snapshotName k)

theorem processJob_keeps (apart : FilesApart h) {event : TaskEvent} (aside : JobAside w h event) :
    KeepsFiles h (processJob w event.taskId event.job h).2 := by
  obtain ⟨taskId, job⟩ := event
  have footprint := processJob_confined w taskId job h
  cases job with
  | createTask biosMode => exact processCreateTask_keeps apart biosMode aside
  | deleteTask => exact .shed apart (processDeleteTask_sheds w taskId h)
  | resizeDisk diskName sizeK sourceFile => exact .shed apart (processResizeDisk_sheds w taskId diskName h)
  | addDisk sizeK mountDir => exact processAddDisk_keeps apart sizeK aside
  | deleteDisk diskName => exact .shed apart (processDeleteDisk_sheds w taskId diskName h)
  | createSnapshot snapshotName rootBackfile sourceFile snapshotFile =>
    exact processCreateSnapshot_keeps apart snapshotName sourceFile aside
  | _ => exact .same apart (.of_only footprint (by simp [jobParts]) (by simp [jobParts]) (by simp [jobParts]))

theorem step_keeps (apart : FilesApart h) {event : World × HostEvent} (aside : FilesAside hw h event)
    (ran : h.step hw event = some k) : KeepsFiles h k := by
  obtain ⟨w, event⟩ := event
  cases event with
  | create wallet additional rentEnd role =>
    rcases step_create ran with rfl | ⟨params, root, parsed, rfl⟩
    · exact .same apart ⟨rfl, rfl⟩
    · obtain ⟨doc, rfl, _, mode, data⟩ := parseCreateParams_names parsed
      refine addTask_keeps apart mode data (aside (fun ⟨error, refused⟩ => ?_))
      rw [parsed] at refused
      cases refused
  | request wallet request =>
    rw [← step_request ran]
    exact request_keeps apart aside
  | deleteImage doc =>
    rw [← survives_some ran]
    rcases FileRequest.deleteImage_cases hw w doc h with ⟨⟨error, refused⟩, _⟩ | ⟨done, passes⟩
    · rw [refused]
      exact .same apart ⟨rfl, rfl⟩
    · rw [done]
      refine ⟨apart.removeFile _, fun file present missing disk top holds => ?_⟩
      rw [removeFile_holds] at holds
      rw [removed_eq present missing]
      exact aside passes disk top holds
  | process =>
    obtain ⟨event, rest, queue, ended⟩ := step_process ran
    have taken : SameFiles h { h with events := rest } := .of_only (dequeue_only rest) (by simp) (by simp) (by simp)
    have worked := processJob_keeps (taken.apart apart) (aside event rest queue)
    exact .before taken (worked.after (.of_only ended (by simp) (by simp) (by simp)))
  | close taskId =>
    cases ran
    exact .same apart (.of_only (closeTask_only w taskId h) (by simp) (by simp) (by simp))
  | destroy taskId =>
    cases ran
    exact .shed apart (destroyTask_sheds w taskId h)
  | uploaded taskId snapshotName =>
    rw [← survives_some ran]
    exact .shed apart (setSnapshotStatus_sheds taskId snapshotName .none h)
  | domainChanges taskId state =>
    exact .same apart (.of_only (domainChanges_only ran) (by simp) (by simp) (by simp))
  | fileAppears path backing =>
    change h.fileAppears path backing = some k at ran
    unfold fileAppears at ran
    split at ran
    · cases ran
    · cases ran
      refine .written (apart.insertFile aside) (fun file missing => ?_)
      rw [OrdMap.find_insert] at missing
      split at missing
      · cases missing
      · exact missing

end Steps

theorem FilesApart.empty : FilesApart Host.empty := by
  intro disk top holds
  cases holds with
  | disk found => cases found

/-- Where no step takes a file that is in use, every disk has one task, and
what is removed was no disk that stays and nothing that one rests on. -/
theorem disks_exclusive_and_kept {hw : Hardware} {trace : List (World × HostEvent)} {h : Host}
    (run : Run (step hw) (FilesAside hw) Host.empty trace h) : h.DisksExclusive ∧
      ∀ event k, FilesAside hw h event → h.step hw event = some k → RemovesSpare h k := by
  have apart : FilesApart h :=
    run.invariant FilesApart.empty (fun apart aside ran => (step_keeps apart aside ran).apart)
  exact ⟨apart.exclusive, fun event k aside ran => (step_keeps apart aside ran).removes⟩

/-- A node with one image. -/
def withImage : Host :=
  { Host.empty with files := OrdMap.empty.insert (resolvePath (str "/data/a.qcow2")) ⟨[]⟩ }

theorem withImage_unheld {holder : Option (Bytes × Bytes)} {file : List Bytes} : ¬ withImage.Holds holder file := by
  intro holds
  cases holds with
  | disk found => cases found
  | snapshot found => cases found

/-- The disks of the first task of a node are new. -/
theorem first_disks_exclusive : ∃ trace h, Run (step .small) (FilesAside .small) Host.empty trace h ∧
    h.taskDisks.keys = [str "task"] ∧ h.DisksExclusive ∧
      RemovesSpare h (h.destroyTask (.calm (str "task")) (str "task")) := by
  have image : Run (step .small) (FilesAside .small) Host.empty
    [(.calm (str "task"), .fileAppears (str "/data/a.qcow2") [])]
      withImage := .next .start (.of_empty _ _) rfl
  have facts : ((withImage.step .small (.calm (str "task"),
    .create (str "wallet") (some (smallTask "20001" "5901" "0")) 100
      .walletRenter)).any (fun h => h.taskDisks.keys = [str "task"])) = true := by decide +kernel
  obtain ⟨h, ran, holds⟩ := (Option.any_eq_true _ _).mp facts
  have apart : ∀ a b, a ≠ b → withImage.link a = none → ¬ RestsOn withImage.link a b :=
    fun a b different unlinked rests =>
    different (rests.of_unlinked unlinked).symm
  have aside : FilesAside .small withImage (.calm (str "task"),
    .create (str "wallet") (some (smallTask "20001" "5901" "0"))
      100 .walletRenter) := by
    refine fun _ _ => ⟨⟨?_, ?_⟩, ⟨?_, ?_⟩, ?_, ?_⟩
    · exact fun _ _ holds => (withImage_unheld holds).elim
    · exact fun _ _ holds => (withImage_unheld holds).elim
    · exact fun _ _ holds => (withImage_unheld holds).elim
    · exact fun _ _ holds => (withImage_unheld holds).elim
    · exact apart _ _ (by decide +kernel) (by decide +kernel)
    · exact apart _ _ (by decide +kernel) (by decide +kernel)
  have run := Run.next image aside ran
  obtain ⟨exclusive, spare⟩ := disks_exclusive_and_kept run
  exact ⟨_, h, run, of_decide_eq_true holds, exclusive,
    spare (.calm (str "task"), .destroy (str "task")) _ trivial rfl⟩

/-- Two tasks that name one data file have it as their disk, and an image
that a task runs on can be deleted. -/
theorem disk_shared_and_image_lost :
    (∃ trace h, Reaches (step .small) Host.empty trace h ∧ ¬ h.DisksExclusive) ∧
    ∃ trace h event k, Reaches (step .small) Host.empty trace h ∧ h.step .small event = some k ∧
      ¬ RemovesSpare h k := by
  constructor
  · have facts : (runAll (step .small) Host.empty
        [(.calm (str "first"), .fileAppears (str "/data/a.qcow2") []),
          (.calm (str "first"), .fileAppears (str "/data/d.qcow2") []),
          (.calm (str "first"), .create (str "wallet") (some (taskWithData "d.qcow2")) 100 .walletRenter),
          (.calm (str "second"), .create (str "wallet") (some (taskWithData "d.qcow2")) 100 .walletRenter)]).any
        (fun h => ((h.listDisks (str "first")).find (str "vdb")).map (·.sourceFile) = some (str "/data/d.qcow2") ∧
          ((h.listDisks (str "second")).find (str "vdb")).map (·.sourceFile) = some (str "/data/d.qcow2")) =
            true := by
      decide +kernel
    obtain ⟨h, ran, holds⟩ := (Option.any_eq_true _ _).mp facts
    obtain ⟨first, second⟩ := of_decide_eq_true holds
    obtain ⟨one, found, named⟩ := Option.map_eq_some_iff.mp first
    obtain ⟨other, foundOther, namedOther⟩ := Option.map_eq_some_iff.mp second
    refine ⟨_, h, Reaches.of_runAll _ .start ran, fun exclusive => ?_⟩
    have same := exclusive _ _ _ (.disk found) (by rw [named, ← namedOther]; exact .disk foundOther)
    exact absurd same (by decide)
  · have facts : (runAll (step .small) Host.empty
        [(.calm (str "task"), .fileAppears (str "/data/a.qcow2") []),
          (.calm (str "task"), .create (str "wallet") (some (smallTask "20001" "5901" "0")) 100 .walletRenter),
          (.calm (str "task"), .process)]).any
        (fun h =>
          (h.step .small (.calm (str "task"), .deleteImage (.texts [("image_filename", "a.qcow2")]))).any (fun k =>
          (h.files.find (resolvePath (str "/data/a.qcow2"))).isSome ∧
            k.files.find (resolvePath (str "/data/a.qcow2")) = none ∧
          ((k.listDisks (str "task")).find (str "vda")).any (fun disk =>
            h.link (resolvePath disk.sourceFile) = some (resolvePath (str "/data/a.qcow2"))))) =
              true := by decide +kernel
    obtain ⟨h, ran, deleted⟩ := (Option.any_eq_true _ _).mp facts
    obtain ⟨k, after, holds⟩ := (Option.any_eq_true _ _).mp deleted
    obtain ⟨present, missing, based⟩ := of_decide_eq_true holds
    obtain ⟨disk, found, linked⟩ := (Option.any_eq_true _ _).mp based
    refine ⟨_, h, _, k, Reaches.of_runAll _ .start ran, after, fun spare => ?_⟩
    exact spare _ present missing _ _ (.disk found) (.single (of_decide_eq_true linked))

end DbcNode.Host
