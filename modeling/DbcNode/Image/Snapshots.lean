import DbcNode.Image.Jobs
import DbcNode.Lib.Runs
import DbcNode.Task.Disks

namespace DbcNode

namespace SnapshotInfo

/-- A status that is there stays. -/
def addSnapshot (snapshot : Snapshot) (info : SnapshotInfo) : SnapshotInfo where
  snapshots := info.snapshots ++ [snapshot]
  status := if (info.status.find snapshot.name).isSome then info.status else info.status.insert snapshot.name .none

def setSnapshotStatus (name : Bytes) (status : SnapshotStatus) (info : SnapshotInfo) : SnapshotInfo :=
  { info with status := info.status.insert name status }

def getSnapshot (name : Bytes) (info : SnapshotInfo) : Option Snapshot :=
  info.snapshots.find? (fun snapshot => snapshot.name = name)

end SnapshotInfo

/-- `CreateAndUploadSnapshotEvent`, less what only the conversion reads. -/
structure CreateSnapshotEvent where
  name : Bytes
  file : Bytes
  server : ImageServer
  deriving DecidableEq

/-- Where the event thread is with the snapshot that it has taken from the
queue: the file is made, or its upload has also begun. -/
inductive SnapshotStage
  | converted (event : CreateSnapshotEvent)
  | uploaded (event : CreateSnapshotEvent)
  deriving DecidableEq

def SnapshotStage.event : SnapshotStage → CreateSnapshotEvent
  | converted event => event
  | uploaded event => event

/-- The snapshots of a task. `info` is its entry in `m_task_snapshots`, and
`db` what is stored of it. The callback of an upload holds the name of its
snapshot. `made` and `terminated` are the past: the names with the files
that they were created with, and the names that were terminated and not
asked for again. -/
structure SnapshotTable where
  info : Option SnapshotInfo
  db : List Snapshot
  queue : List CreateSnapshotEvent
  working : Option SnapshotStage
  manager : ImageManager Bytes
  ended : List Nat
  files : List Bytes
  made : List (Bytes × Bytes)
  terminated : List Bytes

/-- What happens to the snapshots of a task: the two requests, the locks
that the event thread takes one after the other for an event, the ends of
processes, and the check thread at a job whose process has ended. -/
inductive SnapshotEvent
  | create (snapshot : Snapshot) (server : ImageServer)
  | terminate (name : Bytes)
  | convert (written : Bool)
  | upload (size : Int) (process : Nat)
  | uploading
  | exit (process : Nat)
  | finish (file : Bytes)

namespace SnapshotTable

def initial : SnapshotTable := ⟨none, [], [], none, ⟨.empty, .empty⟩, [], [], [], []⟩

def running (s : SnapshotTable) (process : Nat) : Bool := process ∉ s.ended

def snapshots (s : SnapshotTable) : List Snapshot := s.info.elim [] (·.snapshots)

def names (s : SnapshotTable) : List Bytes := s.snapshots.map (·.name)

def statusOf (s : SnapshotTable) (name : Bytes) : Option SnapshotStatus := s.info.bind (·.status.find name)

def isUploading (s : SnapshotTable) (file : Bytes) : Bool := s.manager.uploads.isActive file

/-- The events that are queued or worked on. -/
def pending (s : SnapshotTable) : List CreateSnapshotEvent := s.working.toList.map (·.event) ++ s.queue

/-- The entry with its new contents, which `updateToDB` stores. -/
def update (info : SnapshotInfo) (s : SnapshotTable) : SnapshotTable :=
    { s with info := some info, db := info.snapshots }

def createAndUploadSnapshot (snapshot : Snapshot) (server : ImageServer) (s : SnapshotTable) : SnapshotTable :=
  let info := (s.info.getD ⟨[], .empty⟩).addSnapshot snapshot
  { s.update (info.setSnapshotStatus snapshot.name .creating) with
    queue := s.queue ++ [⟨snapshot.name, snapshot.file, server⟩] }

def terminateUploadSnapshot (name : Bytes) (s : SnapshotTable) : SnapshotTable :=
  match s.info with
  | none => s
  | some info =>
    match info.getSnapshot name with
    | none => s
    | some snapshot =>
      { s.update (Host.delSnapshot name info) with
        manager := s.manager.terminateUpload snapshot.file
        ended := (ImageManager.terminated s.running snapshot.file s.manager.uploads).toList ++ s.ended
        files := s.files.filter (· ≠ snapshot.file) }

/-- A status is set where there is an entry. Without one the null pointer is
called. -/
def setStatus (name : Bytes) (status : SnapshotStatus) (s : SnapshotTable) : Option SnapshotTable :=
  s.info.map (fun info => { s with info := some (info.setSnapshotStatus name status) })

/-- The event thread after the conversion. The size of a file that is not
there is not known, and asking for it throws. -/
def startUpload (event : CreateSnapshotEvent) (size : Int) (process : Nat) (s : SnapshotTable) :
    Option SnapshotTable :=
  match s.manager.upload event.file event.server size process (some event.name) with
  | .error _ => some { s.terminateUploadSnapshot event.name with working := none }
  | .ok manager => if event.file ∈ s.files then some { s with manager, working := some (.uploaded event) } else none

/-- The check thread at the job of a file. The callback of a job that has
none is called through the end of the map. -/
def finish (file : Bytes) (s : SnapshotTable) : Option SnapshotTable :=
  match s.manager.uploads.processAt file, s.manager.uploads.callbacks.find file with
  | some process, some name =>
    if s.running process then none
    else (s.setStatus name .none).map (fun t =>
      { t with manager := { t.manager with uploads := t.manager.uploads.erase file } })
  | _, _ => none

def step (s : SnapshotTable) : SnapshotEvent → Option SnapshotTable
  | .create snapshot server =>
    some { s.createAndUploadSnapshot snapshot server with
      made := (snapshot.name, snapshot.file) :: s.made, terminated := s.terminated.filter (· ≠ snapshot.name) }
  | .terminate name => some { s.terminateUploadSnapshot name with terminated := name :: s.terminated }
  | .convert written =>
    match s.working, s.queue with
    | none, event :: rest => some { s with
        queue := rest, working := some (.converted event), files :=
          if written then event.file :: s.files else s.files }
    | _, _ => none
  | .upload size process =>
    match s.working with
    | some (.converted event) => s.startUpload event size process
    | _ => none
  | .uploading =>
    match s.working with
    | some (.uploaded event) => (s.setStatus event.name .uploading).map (fun t => { t with working := none })
    | _ => none
  | .exit process => some { s with ended := process :: s.ended }
  | .finish file => s.finish file

/-- The entry of a task on the host changes as here. -/
theorem createAndUploadSnapshot_info {s : SnapshotTable} {h : Host} {taskId : Bytes}
    (same : s.info = h.taskSnapshots.find taskId) (snapshot : Snapshot) (server : ImageServer) :
    (h.addSnapshot taskId snapshot).taskSnapshots.find taskId =
      (s.createAndUploadSnapshot snapshot server).info := by
  have status (info : SnapshotInfo) : info.status.insert snapshot.name .creating =
      (info.addSnapshot snapshot).status.insert snapshot.name .creating := by
    refine OrdMap.ext_find (fun name => ?_)
    rw [OrdMap.find_insert, OrdMap.find_insert]
    by_cases this : name = snapshot.name
    · rw [if_pos this, if_pos this]
    · rw [if_neg this, if_neg this]
      unfold SnapshotInfo.addSnapshot
      dsimp only
      split
      · rfl
      · rw [OrdMap.find_insert, if_neg this]
  unfold Host.addSnapshot createAndUploadSnapshot update
  dsimp only
  rw [OrdMap.find_insert_self, ← same, status]
  rfl

theorem terminateUploadSnapshot_info {s : SnapshotTable} {h : Host} {taskId : Bytes}
    (same : s.info = h.taskSnapshots.find taskId) (name : Bytes) :
    (h.terminateUploadSnapshot taskId name).taskSnapshots.find taskId = (s.terminateUploadSnapshot name).info := by
  unfold Host.terminateUploadSnapshot terminateUploadSnapshot Host.getSnapshot
  rw [← same]
  cases held : s.info with
  | none => exact (same.symm.trans held).trans held.symm
  | some info =>
    change _ = SnapshotTable.info (match info.getSnapshot name with | none => s | some snapshot => _)
    cases found : info.getSnapshot name with
    | none =>
      have absent : (some info).bind (fun info => info.snapshots.find? (fun snapshot => snapshot.name = name)) =
        none := found
      rw [absent]
      exact same.symm
    | some snapshot =>
      have listed : (some info).bind (fun info => info.snapshots.find? (fun snapshot => snapshot.name = name)) =
        some snapshot := found
      rw [listed]
      exact OrdMap.find_insert_self _ _ _

/-- Nothing of the name is left: no entry, no status, and no upload or file
of a snapshot that had it. -/
structure Gone (s : SnapshotTable) (name : Bytes) : Prop where
  entry : name ∉ s.names
  status : s.statusOf name = none
  rest : ∀ file, (name, file) ∈ s.made → s.isUploading file = false ∧ file ∉ s.files

/-- The list, the status map, the jobs, the files and the queue tell the
same. -/
structure Agrees (s : SnapshotTable) : Prop where
  distinct : s.names.Nodup
  keys : ∀ name, s.statusOf name ≠ none ↔ name ∈ s.db.map (·.name)
  backed : ∀ snapshot ∈ s.snapshots,
    s.statusOf snapshot.name = some .creating ∨ s.statusOf snapshot.name = some .uploading →
      (∃ event ∈ s.pending, event.name = snapshot.name ∧ event.file = snapshot.file) ∨
        s.isUploading snapshot.file = true
  gone : ∀ name ∈ s.terminated, s.Gone name

/-- A new snapshot has a new name and a new file, a snapshot is not
terminated while its event is queued or worked on, and the check thread does
not come upon an upload that the event thread has begun and not yet
marked. -/
def Apart (s : SnapshotTable) : SnapshotEvent → Prop
  | .create snapshot _ => snapshot.name ∉ s.names ∧ snapshot.file ∉ s.made.map (·.2)
  | .terminate name => name ∉ s.pending.map (·.name)
  | .finish file => ∀ event, s.working = some (.uploaded event) → event.file ≠ file
  | _ => True

instance (s : SnapshotTable) (event : SnapshotEvent) : Decidable (s.Apart event) := by
  cases event <;> unfold Apart
  case finish file =>
    exact match held : s.working with
      | some (.uploaded event) => decidable_of_iff (event.file ≠ file) (by simp)
      | some (.converted event) => isTrue (by simp)
      | none => isTrue (by simp)
  all_goals infer_instance

end SnapshotTable

end DbcNode
