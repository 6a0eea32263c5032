import DbcNode.Task.DomainHolds
import DbcNode.Task.RunningSet

namespace DbcNode.Host

/-- No record of a task is left. -/
structure Gone (taskId : Bytes) (h : Host) : Prop where
  record : recordOf taskId h = (none, none)
  gpus : h.taskGpus.find taskId = none
  disks : h.taskDisks.find taskId = none
  snapshots : h.taskSnapshots.find taskId = none
  iptable : h.taskIptables.find taskId = none

/-- What may be left to do for a task: an event in the queue, or the end of
an upload. -/
inductive Leftover
  | event (job : TaskJob)
  | uploaded (snapshotName : Bytes)

def Leftover.run (w : World) (taskId : Bytes) : Leftover → Call Unit
  | .event job => processJob w taskId job
  | .uploaded snapshotName => setSnapshotStatus taskId snapshotName .none

/-- It follows no pointer of a missing entry, and brings no record back. -/
def Harmless (w : World) (taskId : Bytes) (leftover : Leftover) (h : Host) : Prop :=
  (leftover.run w taskId h).1 = .ok () ∧ Gone taskId (leftover.run w taskId h).2

/-- An event that neither adds a disk nor starts the upload of a
snapshot. -/
def Leftover.ownsNothing (w : World) : Leftover → Bool
  | .event (.addDisk _ _) => false
  | .event (.createSnapshot _ _ _ _) => w.upload = false
  | .event _ => true
  | .uploaded _ => false

/-- The id of a new task is not this one. -/
def OtherTask (taskId : Bytes) (_ : Host) : World × HostEvent → Prop
  | (w, .create _ _ _ _) => w.newTaskId ≠ taskId
  | _ => True

section Unknown
variable {α : Type} {hw : Hardware} {w : World} {taskId : Bytes} {h : Host}

theorem existingTask_unknown (unknown : h.taskInfos.find taskId = none) :
    existingTask taskId h = (.error (.thrown (str "task not exist")), h) := by
  rw [existingTask, unknown]

theorem existingTask_bind_unknown (unknown : h.taskInfos.find taskId = none) (rest : TaskInfo → Call α) :
    (existingTask taskId >>= rest) h = (.error (.thrown (str "task not exist")), h) :=
  Prog.bind_error (existingTask_unknown unknown)

theorem diskTask_unknown (unknown : h.taskInfos.find taskId = none) (rest : Unit → Call α) :
    (diskTask taskId >>= rest) h = (.error (.thrown (str "task not exist")), h) :=
  Prog.bind_error (existingTask_bind_unknown unknown _)

/-- A request for a task that is not there changes nothing, unless it lists
the tasks or is about snapshots. -/
theorem execute_unknown (unknown : h.taskInfos.find taskId = none) (wallet : Bytes) {operation : TaskOperation}
    (list : operation ≠ .list) (create : ∀ doc, operation ≠ .createSnapshot doc)
    (delete : ∀ name, operation ≠ .deleteSnapshot name) : (execute hw w wallet ⟨taskId, operation⟩ h).2 = h := by
  have mapped : ∀ rest : TaskInfo → Call Bytes,
      ((TaskReply.message <$> (existingTask taskId >>= rest) : Call TaskReply) h).2 = h :=
    fun rest => congrArg Prod.snd (Prog.bind_error (existingTask_bind_unknown unknown rest))
  cases operation with
  | list => exact (list rfl).elim
  | start => exact mapped _
  | shutdown => exact mapped _
  | poweroff => exact mapped _
  | stop => exact mapped _
  | restart forceReboot => exact mapped _
  | reset => exact mapped _
  | delete => exact mapped _
  | modify doc => exact mapped _
  | passwd doc => exact mapped _
  | logs headOrTail numberOfLines =>
    refine Prog.bind_looked (P := (· = h)) (refuse_same _ h) rfl (fun _ => ?_)
    exact congrArg Prod.snd (Prog.bind_error (existingTask_bind_unknown unknown _))
  | listDisk => exact congrArg Prod.snd (diskTask_unknown unknown _)
  | resizeDisk doc => exact congrArg Prod.snd (diskTask_unknown unknown _)
  | addDisk doc => exact congrArg Prod.snd (diskTask_unknown unknown _)
  | deleteDisk doc => exact congrArg Prod.snd (diskTask_unknown unknown _)
  | listSnapshot snapshotName =>
    change (snapshotList taskId snapshotName h).2 = h
    unfold snapshotList
    split
    · rfl
    · split <;> rfl
  | createSnapshot doc => exact (create doc rfl).elim
  | deleteSnapshot snapshotName => exact (delete snapshotName rfl).elim

end Unknown

namespace Gone
variable {hw : Hardware} {w : World} {parts : Set Part} {taskId : Bytes} {h k : Host}

theorem unknown (gone : Gone taskId h) : h.taskInfos.find taskId = none := congrArg Prod.fst gone.record

theorem frame (gone : Gone taskId h) (only : Only parts h k) (info : .info taskId ∉ parts)
    (gpus : .gpus taskId ∉ parts) (disks : .disks taskId ∉ parts) (snapshots : .snapshots taskId ∉ parts)
    (iptable : .iptable taskId ∉ parts) :
    Gone taskId k where
  record := (only.record taskId info).trans gone.record
  gpus := (only.gpus gpus).trans gone.gpus
  disks := (only.disks disks).trans gone.disks
  snapshots := (only.snapshots snapshots).trans gone.snapshots
  iptable := (only.iptable iptable).trans gone.iptable

/-- What happens to another task. -/
theorem other (gone : Gone taskId h) (only : Only parts h k) (owner : Bytes) (within : Within owner parts)
    (different : taskId ≠ owner) : Gone taskId k :=
  gone.frame only (within.other rfl different) (within.other rfl different) (within.other rfl different)
    (within.other rfl different) (within.other rfl different)

theorem destroyed (known : (h.taskInfos.find taskId).isSome) : Gone taskId (h.destroyTask w taskId) where
  record := destroyTask_record known
  gpus := destroyTask_gpus w taskId h known
  disks := destroyTask_disks w taskId h known
  snapshots := by
    rw [destroyTask_eq w taskId h known, (delRentTask_only taskId _).snapshots (by simp),
      (delIptable_only taskId _).snapshots (by simp), (removeIptableFromSystem_only taskId _).snapshots (by simp)]
    exact delSnapshots_find taskId _
  iptable := by
    rw [destroyTask_eq w taskId h known, (delRentTask_only taskId _).iptable (by simp)]
    exact (OrdMap.find_erase _ _ _).trans (if_pos rfl)

theorem taskList (gone : Gone taskId h) (wallet name : Bytes) : Gone taskId (taskList wallet name h).2 := by
  have only := taskList_confined name wallet h
  refine ⟨?_, ?_, ?_, ?_, ?_⟩
  · rw [taskList_record]
    split
    · have stored : h.taskDb.find taskId = none := congrArg Prod.snd gone.record
      rw [queriedRecord, gone.unknown, stored]
      rfl
    · exact gone.record
  · exact (Only.gpus only (by simp)).trans gone.gpus
  · exact (Only.disks only (by simp)).trans gone.disks
  · exact (Only.snapshots only (by simp)).trans gone.snapshots
  · exact (Only.iptable only (by simp)).trans gone.iptable

/-- A request does not bring a task back. -/
theorem execute (gone : Gone taskId h) (wallet : Bytes) (request : TaskRequest) :
    Gone taskId (execute hw w wallet request h).2 := by
  have only := execute_confined hw w wallet request h
  obtain ⟨name, operation⟩ := request
  by_cases own : taskId = name
  · subst own
    cases operation with
    | list => exact gone.taskList wallet taskId
    | createSnapshot doc =>
      refine Prog.bind_looked (refuse_same _ h) gone (fun _ => ?_)
      refine Prog.Keeps.after ?_ (fun _ => .pure _)
      unfold createAndUploadSnapshot
      rw [gone.disks]
      exact gone
    | deleteSnapshot snapshotName =>
      change Gone taskId (snapshotDelete taskId snapshotName h).2
      unfold snapshotDelete getSnapshot
      rw [gone.snapshots]
      exact gone
    | _ =>
      rw [execute_unknown gone.unknown wallet (by simp) (by simp) (by simp)]
      exact gone
  · by_cases list : operation = .list
    · subst list
      exact gone.taskList wallet name
    · refine gone.other only name ?_ own
      intro part member
      unfold requestParts at member
      split at member <;> simp at member list <;> grind [Part.owner]

/-- The end of an event of a task that is gone. -/
theorem processJob (gone : Gone taskId h) {job : TaskJob} (done : (processJob w taskId job h).1 = .ok ()) :
    Gone taskId (processJob w taskId job h).2 := by
  have none : h.listDisks taskId = .empty := by
    rw [listDisks, gone.disks]
    rfl
  by_cases about : job.pending = Option.none
  · cases job with
    | resizeDisk diskName sizeK sourceFile =>
      change Gone taskId (h.processResizeDisk w taskId diskName)
      rw [processResizeDisk, none]
      exact gone
    | addDisk sizeK mountDir =>
      change (processAddDisk w taskId sizeK mountDir h).1 = _ at done
      rw [processAddDisk, nextDiskName, none] at done
      cases done
    | deleteDisk diskName =>
      change Gone taskId (h.processDeleteDisk w taskId diskName)
      have kept := gone.frame (detachDisk_only w taskId diskName) (by simp) (by simp) (by simp) (by simp) (by simp)
      unfold processDeleteDisk
      split
      · rename_i same
        rw [same] at kept
        exact kept
      · rename_i l same
        rw [same] at kept
        have still : l.listDisks taskId = .empty := by
          rw [listDisks, kept.disks]
          rfl
        rw [still]
        exact kept
    | createSnapshot snapshotName rootBackfile sourceFile snapshotFile =>
      change Gone taskId (processCreateSnapshot w taskId snapshotName rootBackfile sourceFile snapshotFile h).2
      have copied :
        Gone taskId (if h.fileExists sourceFile then h.writeImage snapshotFile rootBackfile else h) := by
        split
        · exact gone.frame (writeImage_only h _ _) (by simp) (by simp) (by simp) (by simp) (by simp)
        · exact gone
      unfold processCreateSnapshot
      dsimp only
      split
      · unfold setSnapshotStatus
        rw [copied.snapshots]
        exact copied
      · unfold terminateUploadSnapshot
        rw [copied.snapshots]
        exact copied
    | _ => cases about
  · rw [processJob_unknown gone.unknown about]
    exact gone

theorem step (gone : Gone taskId h) {event : World × HostEvent} (different : OtherTask taskId h event)
    (ran : h.step hw event = some k) : Gone taskId k := by
  obtain ⟨w, event⟩ := event
  cases event with
  | create wallet additional rentEnd role =>
    rcases step_create ran with rfl | ⟨params, root, parsed, rfl⟩
    · exact gone
    · refine gone.other (addTask_only w h wallet rentEnd params root) _ (createParts_within params.taskId) ?_
      rw [(parseCreateParams_ok parsed).1]
      exact different.symm
  | request wallet request =>
    rw [← step_request ran]
    exact gone.execute wallet request
  | deleteImage additional =>
    rw [← survives_some ran]
    exact gone.frame (deleteImage_confined w additional h) (by simp) (by simp) (by simp) (by simp) (by simp)
  | process =>
    obtain ⟨event, rest, l, _, worked, rfl⟩ := step_processed ran
    have before : Gone taskId { h with events := rest } :=
      gone.frame (dequeue_only rest) (by simp) (by simp) (by simp) (by simp) (by simp)
    have after : Gone taskId l := by
      by_cases own : taskId = event.taskId
      · subst own
        have kept := before.processJob (w := w) (congrArg Prod.fst worked)
        rwa [worked] at kept
      · have only := processJob_confined w event.taskId event.job { h with events := rest }
        rw [worked] at only
        exact before.other only _ (jobParts_within event.taskId event.job) own
    exact after.frame (updateRunningTasks_only l) (by simp) (by simp) (by simp) (by simp) (by simp)
  | close name =>
    cases ran
    by_cases own : taskId = name
    · subst own
      have only := closeTask_only w taskId h
      refine ⟨?_, (only.gpus (by simp)).trans gone.gpus, (only.disks (by simp)).trans gone.disks,
        (only.snapshots (by simp)).trans gone.snapshots, (only.iptable (by simp)).trans gone.iptable⟩
      rcases closeTask_record w taskId h with same | ⟨_, _, _, changed⟩
      · exact same.trans gone.record
      · rw [changed, gone.record]
        rfl
    · exact gone.other (closeTask_only w name h) _ (closeParts_within name) own
  | destroy name =>
    cases ran
    by_cases own : taskId = name
    · subst own
      rw [destroyTask_eq_of_unknown w taskId h gone.unknown]
      exact gone.frame (destroyAndUndefineDomain_only w taskId) (by simp) (by simp) (by simp) (by simp) (by simp)
    · exact gone.other (destroyTask_only w name h) _ (destroyParts_within name) own
  | uploaded name snapshotName =>
    have result := survives_some ran
    have only := setSnapshotStatus_confined name snapshotName .none h
    by_cases own : taskId = name
    · subst own
      simp only [setSnapshotStatus, gone.snapshots] at result
      exact result ▸ gone
    · rw [← result]
      exact gone.frame only (by simp) (by simp) (by simp) (by simpa using own) (by simp)
  | domainChanges name state =>
    exact gone.frame (domainChanges_only ran) (by simp) (by simp) (by simp) (by simp) (by simp)
  | fileAppears path backing =>
    exact gone.frame (fileAppears_only ran) (by simp) (by simp) (by simp) (by simp) (by simp)

end Gone

/-- What is left to do for a task that is gone is harmless exactly where it
does not start from a disk or a snapshot of the task. -/
theorem harmless_iff {w : World} {taskId : Bytes} {h : Host} (gone : Gone taskId h) (leftover : Leftover) :
    Harmless w taskId leftover h ↔ leftover.ownsNothing w := by
  cases leftover with
  | uploaded snapshotName =>
    refine ⟨fun harmless => ?_, fun owns => (by cases owns)⟩
    have done := harmless.1
    simp only [Leftover.run, setSnapshotStatus, gone.snapshots] at done
    cases done
  | event job =>
    have ends : Harmless w taskId (.event job) h ↔ (processJob w taskId job h).1 = .ok () :=
      ⟨fun harmless => harmless.1, fun done => ⟨done, gone.processJob done⟩⟩
    rw [ends]
    cases job with
    | addDisk sizeK mountDir =>
      have none : h.listDisks taskId = .empty := by
        rw [listDisks, gone.disks]
        rfl
      simp only [processJob, processAddDisk, nextDiskName, none, Leftover.ownsNothing]
      exact ⟨fun done => (by cases done), fun owns => (by cases owns)⟩
    | createSnapshot snapshotName rootBackfile sourceFile snapshotFile =>
      have copied :
        (if h.fileExists sourceFile then h.writeImage snapshotFile rootBackfile else h).taskSnapshots.find taskId
          = none := by
        split
        · exact ((writeImage_only h _ _).snapshots (by simp)).trans gone.snapshots
        · exact gone.snapshots
      simp only [processJob, processCreateSnapshot, setSnapshotStatus, copied, Leftover.ownsNothing]
      split
      · rename_i uploads
        exact ⟨fun done => (by cases done), fun owns => (by simp [uploads] at owns)⟩
      · rename_i refused
        exact ⟨fun _ => by simpa using refused, fun _ => rfl⟩
    | resizeDisk diskName sizeK sourceFile => exact ⟨fun _ => rfl, fun _ => rfl⟩
    | deleteDisk diskName => exact ⟨fun _ => rfl, fun _ => rfl⟩
    | _ =>
      rw [processJob_unknown gone.unknown (by simp [TaskJob.pending])]
      exact ⟨fun _ => rfl, fun _ => rfl⟩

/-- After a task is deleted, and whatever else happens that does not create
it again, no record of it is left, and an event or an upload that is left
from it does no harm exactly where it does not start from a disk or a
snapshot of it. -/
theorem leftovers_after_deletion {hw : Hardware} {w : World} {taskId : Bytes} {h k : Host}
    {trace : List (World × HostEvent)} (known : (h.taskInfos.find taskId).isSome)
    (run : Run (step hw) (OtherTask taskId) (h.destroyTask w taskId) trace k) :
    Gone taskId k ∧ ∀ (later : World) (leftover : Leftover),
      Harmless later taskId leftover k ↔ leftover.ownsNothing later := by
  have gone : Gone taskId k :=
    run.invariant (Gone.destroyed known) (fun gone different ran => gone.step different ran)
  exact ⟨gone, fun later leftover => harmless_iff gone leftover⟩

/-- A task that was shut off is deleted while the start of it still
waits. -/
theorem start_after_deletion : ∃ h : Host, (h.taskInfos.find (str "task")).isSome ∧
    h.events = [⟨str "task", .startTask⟩] ∧ Harmless (.calm (str "task")) (str "task") (.event .startTask)
      (h.destroyTask (.calm (str "task")) (str "task")) := by
  have facts : (runAll (step .small) Host.empty (poweredOff (str "task") ++
      [(.calm (str "task"), .request (str "wallet") ⟨str "task", .start⟩)])).any
      (fun h => (h.taskInfos.find (str "task")).isSome ∧ h.events = [⟨str "task", .startTask⟩]) = true := by
        decide +kernel
  obtain ⟨h, _, holds⟩ := (Option.any_eq_true _ _).mp facts
  obtain ⟨known, waits⟩ := of_decide_eq_true holds
  have run : Run (step .small) (OtherTask (str "task")) (h.destroyTask (.calm (str "task")) (str "task")) [] _ :=
    .start
  exact ⟨h, known, waits, ((leftovers_after_deletion known run).2 _ _).mpr rfl⟩

/-- One more disk is to be added to a task that is deleted before: the last
disk is looked up among none. -/
theorem disk_after_deletion : ∃ trace h, Reaches (step .small) Host.empty trace h ∧ Gone (str "task") h ∧
    ∃ job, h.events = [⟨str "task", job⟩] ∧ ¬ Harmless (.calm (str "task")) (str "task") (.event job) h := by
  have facts : (runAll (step .small) Host.empty (poweredOff (str "task") ++
      [.request (str "wallet") ⟨str "task", .addDisk (.object [(str "size", .int 1)])⟩, .destroy (str "task")].map
        (fun event => (.calm (str "task"), event)))).any
      (fun h => recordOf (str "task") h = (none, none) ∧ (h.taskGpus.find (str "task")).isNone ∧
        (h.taskDisks.find (str "task")).isNone ∧ (h.taskSnapshots.find (str "task")).isNone ∧
        h.taskIptables.find (str "task") = none ∧ h.events = [⟨str "task", .addDisk (1024 * 1024) (str "/data")⟩]) =
          true := by
    decide +kernel
  obtain ⟨h, ran, holds⟩ := (Option.any_eq_true _ _).mp facts
  obtain ⟨record, gpus, disks, snapshots, iptable, waits⟩ := of_decide_eq_true holds
  have gone : Gone (str "task") h := ⟨record, Option.isNone_iff_eq_none.mp gpus, Option.isNone_iff_eq_none.mp disks,
    Option.isNone_iff_eq_none.mp snapshots, iptable⟩
  refine ⟨_, h, Reaches.of_runAll _ .start ran, gone, _, waits, fun harmless => ?_⟩
  have owns := (harmless_iff gone _).mp harmless
  cases owns

end DbcNode.Host
