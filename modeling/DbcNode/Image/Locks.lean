import DbcNode.Image.Snapshots
import DbcNode.Lib.Locks
import DbcNode.Lib.Runs

namespace DbcNode

/-- `m_disk_mtx`, `m_snapshot_mtx`, `m_upload_mtx` and `m_download_mtx`. -/
inductive Mutex
  | disk
  | snapshot
  | upload
  | download
  deriving DecidableEq

/-- The data that decides which locks are taken: the snapshots of the tasks,
and the uploads with the task and the snapshot that a callback is for. -/
structure Copying where
  infos : OrdMap Bytes SnapshotInfo
  uploads : JobTable UploadImageFile (Bytes × Bytes)
  ended : List Nat

namespace Copying

def getSnapshot (d : Copying) (taskId name : Bytes) : Option Snapshot :=
  (d.infos.find taskId).bind (fun info => info.getSnapshot name)

def statusOf (d : Copying) (taskId name : Bytes) : SnapshotStatus :=
  ((d.infos.find taskId).bind (fun info => info.status.find name)).getD .none

/-- Without an entry the program ends, and there is no next step to speak
of. -/
def change (taskId : Bytes) (f : SnapshotInfo → SnapshotInfo) (d : Copying) : Copying :=
  match d.infos.find taskId with
  | none => d
  | some info => { d with infos := d.infos.insert taskId (f info) }

def addSnapshot (taskId : Bytes) (snapshot : Snapshot) (d : Copying) : Copying :=
  let info := ((d.infos.find taskId).getD ⟨[], .empty⟩).addSnapshot snapshot
  { d with infos := d.infos.insert taskId (info.setSnapshotStatus snapshot.name .creating) }

def setSnapshotStatus (taskId name : Bytes) (status : SnapshotStatus) : Copying → Copying :=
  change taskId (SnapshotInfo.setSnapshotStatus name status)

def delSnapshot (taskId name : Bytes) : Copying → Copying := change taskId (Host.delSnapshot name)

def running (d : Copying) (process : Nat) : Bool := process ∉ d.ended

def startUpload (file : Bytes) (server : ImageServer) (size : Int) (process : Nat)
    (callback : Option (Bytes × Bytes)) (d : Copying) : Copying :=
      { d with uploads := d.uploads.start file ⟨process, size, server⟩ callback }

def terminateUpload (file : Bytes) (d : Copying) : Copying :=
  { d with
    uploads := d.uploads.erase file
    ended := (ImageManager.terminated d.running file d.uploads).toList ++ d.ended }

end Copying

abbrev LockScript := Script Mutex Copying

namespace LockScript

/-- Locks that are taken one after the other, each released before the
next. -/
def sections : List (Mutex × LockMode) → LockScript
  | [] => .done
  | (l, mode) :: rest => .acquire l mode (fun _ => .release l id (fun _ => sections rest))

/-- A function whose whole work is done under one lock. -/
def under (l : Mutex) (change : Copying → Copying) : LockScript :=
  .acquire l .write (fun _ => .release l change (fun _ => .done))

/-- The request is refused, or the snapshot is added. -/
def createAndUploadSnapshot (accepted : Bool) (taskId : Bytes) (snapshot : Snapshot) : LockScript :=
  .acquire .disk .read (fun _ =>
    if accepted then
      .acquire .snapshot .write (fun _ =>
        .release .snapshot (Copying.addSnapshot taskId snapshot) (fun _ => .release .disk id (fun _ => .done)))
    else .release .disk id (fun _ => .done))

def uploadSnapshotProgress (taskId name : Bytes) : LockScript :=
  .acquire .snapshot .read (fun d =>
    if (d.getSnapshot taskId name).isSome ∧ d.statusOf taskId name = .uploading then
      .acquire .upload .read (fun _ => .release .upload id (fun _ => .release .snapshot id (fun _ => .done)))
    else .release .snapshot id (fun _ => .done))

def terminateUploadSnapshot (taskId name : Bytes) : LockScript :=
  .acquire .snapshot .write (fun d =>
    match d.getSnapshot taskId name with
    | none => .release .snapshot id (fun _ => .done)
    | some snapshot =>
      .acquire .upload .write (fun _ =>
        .release .upload (Copying.terminateUpload snapshot.file) (fun _ =>
          .release .snapshot (Copying.delSnapshot taskId name) (fun _ => .done))))

def processCreateSnapshot (taskId name file : Bytes) (server : ImageServer) (size : Int) (process : Nat) :
    LockScript :=
  if server.ip = [] ∨ server.port = [] ∨ server.modulename = [] then terminateUploadSnapshot taskId name
  else
    .acquire .upload .write (fun _ =>
      .release .upload (Copying.startUpload file server size process (some (taskId, name))) (fun _ =>
        under .snapshot (Copying.setSnapshotStatus taskId name .uploading)))

/-- The round of the check thread over the uploads, from an entry on. The
jobs that it has come past and that have ended are seen to be gone when it
lets the table go. -/
def checkUploads (gone : List Bytes) : List (Bytes × ImageJob UploadImageFile) → Copying → LockScript
  | [], _ => .release .upload (fun d => { d with uploads := gone.foldl (fun t file => t.erase file) d.uploads })
      (fun _ => .done)
  | (file, job) :: rest, d =>
    if d.running job.process then checkUploads gone rest d
    else match d.uploads.callbacks.find file with
      | none => checkUploads (file :: gone) rest d
      | some (taskId, name) =>
        .acquire .snapshot .write (fun _ =>
          .release .snapshot (Copying.setSnapshotStatus taskId name .none)
            (fun d => checkUploads (file :: gone) rest d))

/-- A round of `thread_check_handle`. No download has a callback. -/
def check : LockScript :=
  .acquire .download .write (fun _ =>
    .release .download id (fun _ => .acquire .upload .write (fun d => checkUploads [] d.uploads.jobs.entries d)))

end LockScript

/-- The functions that take one lock at a time and change nothing that
others decide by. -/
inductive PlainCall
  | addDiskInfo
  | getDiskInfo
  | isExistDisk
  | delDisks
  | listDisks
  | resizeDisk
  | addNewDisk
  | deleteDisk
  | processResizeDisk
  | processAddDisk
  | processDeleteDisk
  | listSnapshots
  | getSnapshot
  | getSnapshotInfo
  | download
  | downloadProgress
  | terminateDownload
  | isDownloading
  | uploadProgress
  | isUploading
  deriving DecidableEq

def PlainCall.locks : PlainCall → List (Mutex × LockMode)
  | addDiskInfo | processResizeDisk | processDeleteDisk => [(.disk, .write)]
  | getDiskInfo | isExistDisk | listDisks | resizeDisk | addNewDisk | deleteDisk => [(.disk, .read)]
  | delDisks | processAddDisk => [(.disk, .read), (.disk, .write)]
  | listSnapshots | getSnapshot | getSnapshotInfo => [(.snapshot, .read)]
  | download | terminateDownload => [(.download, .write)]
  | downloadProgress | isDownloading => [(.download, .read)]
  | uploadProgress | isUploading => [(.upload, .read)]

inductive LockOperation
  | check
  | processCreateSnapshot (taskId name file : Bytes) (server : ImageServer) (size : Int) (process : Nat)
  | createAndUploadSnapshot (accepted : Bool) (taskId : Bytes) (snapshot : Snapshot)
  | uploadSnapshotProgress (taskId name : Bytes)
  | terminateUploadSnapshot (taskId name : Bytes)
  | delSnapshots (taskId : Bytes)
  | upload (file : Bytes) (server : ImageServer) (size : Int) (process : Nat)
  | terminateUpload (file : Bytes)
  | plain (call : PlainCall)

/-- The check thread of the image manager, the event thread of the tasks,
and those that serve requests. -/
inductive Worker
  | check
  | events
  | request (number : Nat)
  deriving DecidableEq

namespace LockOperation

def script : LockOperation → LockScript
  | check => .check
  | processCreateSnapshot taskId name file server size process =>
      .processCreateSnapshot taskId name file server size process
  | createAndUploadSnapshot accepted taskId snapshot => .createAndUploadSnapshot accepted taskId snapshot
  | uploadSnapshotProgress taskId name => .uploadSnapshotProgress taskId name
  | terminateUploadSnapshot taskId name => .terminateUploadSnapshot taskId name
  | delSnapshots taskId => .under .snapshot (fun d => { d with infos := d.infos.erase taskId })
  | upload file server size process => .under .upload (Copying.startUpload file server size process none)
  | terminateUpload file => .under .upload (Copying.terminateUpload file)
  | plain call => .sections call.locks

/-- The check thread only does its rounds, and the events are left to their
thread. -/
def runsOn : LockOperation → Worker → Bool
  | check, worker => worker = .check
  | processCreateSnapshot .., worker => worker = .events
  | _, worker => worker ≠ .check

end LockOperation

inductive LockEvent
  | start (worker : Worker) (operation : LockOperation)
  | act (worker : Worker)
  | exit (process : Nat)

abbrev LockState := Threads Worker Mutex Copying

namespace LockState

def initial : LockState := ⟨⟨.empty, .empty, []⟩, [], fun _ => .done⟩

def step (s : LockState) : LockEvent → Option LockState
  | .start worker operation => if operation.runsOn worker then s.start worker operation.script else none
  | .act worker => s.act worker
  | .exit process => some { s with data := { s.data with ended := process :: s.data.ended } }

/-- The locks under which these threads take another one. -/
inductive Nests : Mutex × LockMode → Mutex × LockMode → Prop
  | create : Nests (.disk, .read) (.snapshot, .write)
  | progress : Nests (.snapshot, .read) (.upload, .read)
  | terminate : Nests (.snapshot, .write) (.upload, .write)
  | callback : Nests (.upload, .write) (.snapshot, .write)

/-- No thread comes to a callback under the lock of the uploads while
another is under the lock of the snapshots and on its way to that of the
uploads, and none takes that way while another is about to call a
callback. -/
def Apart (s : LockState) : LockEvent → Prop
  | .act worker => (s.comesBetween .upload .snapshot worker = true → s.between .snapshot .upload = false) ∧
      (s.comesBetween .snapshot .upload worker = true → s.between .upload .snapshot = false)
  | _ => True

instance (s : LockState) (event : LockEvent) : Decidable (s.Apart event) := by
  cases event <;> unfold Apart <;> infer_instance

end LockState

namespace LockScript
open LockState

theorem sections_respects (locks : List (Mutex × LockMode)) : (sections locks).Respects Nests [] := by
  induction locks with
  | nil => rfl
  | cons first rest ih =>
    refine ⟨List.forall_mem_nil _, fun _ _ => ?_⟩
    have left : List.filter (fun h => h.1 ≠ first.1) [(first.1, first.2)] = [] := by simp
    rw [left]
    exact ih

theorem under_respects (l : Mutex) (change : Copying → Copying) : (under l change).Respects Nests [] :=
  ⟨List.forall_mem_nil _, fun _ _ => by simp [Script.Respects]⟩

theorem createAndUploadSnapshot_respects (accepted : Bool) (taskId : Bytes) (snapshot : Snapshot) :
    (createAndUploadSnapshot accepted taskId snapshot).Respects Nests [] := by
  refine ⟨List.forall_mem_nil _, fun _ => ?_⟩
  cases accepted with
  | false => exact fun _ => rfl
  | true => exact ⟨List.forall_mem_singleton.mpr .create, fun _ _ _ => rfl⟩

theorem uploadSnapshotProgress_respects (taskId name : Bytes) :
    (uploadSnapshotProgress taskId name).Respects Nests [] := by
  refine ⟨List.forall_mem_nil _, fun d => ?_⟩
  dsimp only
  split
  · exact ⟨List.forall_mem_singleton.mpr .progress, fun _ _ _ => rfl⟩
  · exact fun _ => rfl

theorem terminateUploadSnapshot_respects (taskId name : Bytes) :
    (terminateUploadSnapshot taskId name).Respects Nests [] := by
  refine ⟨List.forall_mem_nil _, fun d => ?_⟩
  dsimp only
  split
  · exact fun _ => rfl
  · exact ⟨List.forall_mem_singleton.mpr .terminate, fun _ _ _ => rfl⟩

theorem processCreateSnapshot_respects (taskId name file : Bytes) (server : ImageServer) (size : Int)
    (process : Nat) : (processCreateSnapshot taskId name file server size process).Respects Nests [] := by
  unfold processCreateSnapshot
  split
  · exact terminateUploadSnapshot_respects taskId name
  · exact ⟨List.forall_mem_nil _, fun _ _ => under_respects _ _⟩

/-- The callbacks of a round are called one after the other under the lock
of the uploads. -/
theorem checkUploads_respects (gone : List Bytes) (entries : List (Bytes × ImageJob UploadImageFile))
    (d : Copying) : (checkUploads gone entries d).Respects Nests [(.upload, .write)] := by
  induction entries generalizing gone d with
  | nil => exact fun _ => rfl
  | cons entry rest ih =>
    obtain ⟨file, job⟩ := entry
    rw [checkUploads]
    split
    · exact ih gone d
    · split
      · exact ih (file :: gone) d
      · exact ⟨List.forall_mem_singleton.mpr .callback, fun _ d => ih (file :: gone) _⟩

theorem check_respects : check.Respects Nests [] :=
  ⟨List.forall_mem_nil _, fun _ _ => ⟨List.forall_mem_nil _, fun d => checkUploads_respects [] _ d⟩⟩

end LockScript

theorem LockOperation.script_respects (operation : LockOperation) :
    operation.script.Respects LockState.Nests [] := by
  cases operation with
  | check => exact LockScript.check_respects
  | processCreateSnapshot => exact LockScript.processCreateSnapshot_respects ..
  | createAndUploadSnapshot => exact LockScript.createAndUploadSnapshot_respects ..
  | uploadSnapshotProgress => exact LockScript.uploadSnapshotProgress_respects ..
  | terminateUploadSnapshot => exact LockScript.terminateUploadSnapshot_respects ..
  | delSnapshots | upload | terminateUpload => exact LockScript.under_respects ..
  | plain call => exact LockScript.sections_respects _

namespace LockState
open Threads
variable {s t : LockState}

theorem ordered_initial : initial.Ordered Nests := fun _ => rfl

theorem ordered_step (ordered : s.Ordered Nests) {event : LockEvent} (ran : step s event = some t) :
    t.Ordered Nests := by
  cases event with
  | start worker operation =>
    unfold step at ran
    dsimp only at ran
    split at ran
    · exact ordered.start operation.script_respects ran
    · cases ran
  | act worker => exact ordered.act ran
  | exit process =>
    cases ran
    exact ordered

/-- A thread that comes to a callback has the uploads to itself, and the
other one is in its way. -/
theorem circular_of_both (ordered : s.Ordered Nests) (calls : s.between .upload .snapshot = true)
    (asks : s.between .snapshot .upload = true) : s.Circular := by
  obtain ⟨caller, ⟨mode, holds⟩, wantedMode, wants⟩ := between_iff.mp calls
  obtain ⟨asker, ⟨otherMode, otherHolds⟩, otherWanted, otherWants⟩ := between_iff.mp asks
  have nested := (ordered caller).wants wants _ holds
  cases nested
  refine Circular.of_two (t := caller) (u := asker)
    ⟨_, _, wants, _, mem_heldBy.mp otherHolds, rfl, rfl, ?_⟩ ⟨_, _, otherWants, _, mem_heldBy.mp holds,
      rfl, rfl, rfl⟩
  cases otherMode <;> rfl

/-- Where no callback is about to be called, the snapshots come before the
uploads. -/
theorem not_circular_of_no_call (ordered : s.Ordered Nests) (quiet : s.between .upload .snapshot = false) :
    ¬ s.Circular := by
  refine not_circular (fun | .disk => 0 | .snapshot => 1 | .upload => 2 | .download => 3) ?_
  intro thread wanted wants h held
  have nested := (ordered thread).wants wants h held
  cases nested with
  | create | progress | terminate => decide
  | callback =>
    have calls := between_iff.mpr ⟨thread, ⟨_, held⟩, _, wants⟩
    exact absurd calls (by rw [quiet]; decide)

/-- Where nobody goes from the snapshots to the uploads, the uploads come
first. -/
theorem not_circular_of_no_ask (ordered : s.Ordered Nests) (quiet : s.between .snapshot .upload = false) :
    ¬ s.Circular := by
  refine not_circular (fun | .disk => 0 | .upload => 1 | .snapshot => 2 | .download => 3) ?_
  intro thread wanted wants h held
  have nested := (ordered thread).wants wants h held
  cases nested with
  | create | callback => decide
  | progress | terminate =>
    have asks := between_iff.mpr ⟨thread, ⟨_, held⟩, _, wants⟩
    exact absurd asks (by rw [quiet]; decide)

/-- The only cycles are those of a callback and a request that needs the
uploads. -/
theorem circular_iff (ordered : s.Ordered Nests) :
    s.Circular ↔ s.between .upload .snapshot = true ∧ s.between .snapshot .upload = true := by
  constructor
  · intro circular
    constructor
    · by_contra quiet
      exact not_circular_of_no_call ordered ((Bool.not_eq_true _).mp quiet) circular
    · by_contra quiet
      exact not_circular_of_no_ask ordered ((Bool.not_eq_true _).mp quiet) circular
  · rintro ⟨calls, asks⟩
    exact circular_of_both ordered calls asks

theorem start_between {worker : Worker} {script : LockScript} (ordered : s.Ordered Nests)
    (ran : s.start worker script = some t) (held wanted : Mutex) :
    t.between held wanted = s.between held wanted := by
  obtain ⟨idle, rfl⟩ := start_eq ran
  refine Bool.eq_iff_iff.mpr (between_iff.trans (Iff.trans (exists_congr (fun u => ?_)) between_iff.symm))
  change (∃ mode, (held, mode) ∈ s.heldBy u) ∧ _ ↔ _
  by_cases same : u = worker
  · subst same
    have none := ordered.idle idle
    constructor
    · rintro ⟨⟨mode, member⟩, -⟩
      rw [none] at member
      cases member
    · rintro ⟨⟨mode, member⟩, -⟩
      rw [none] at member
      cases member
  · dsimp only
    rw [Function.update_of_ne same]
    rfl

/-- A thread is not between a lock and the same lock. -/
theorem not_again (ordered : s.Ordered Nests) {l : Mutex} {worker : Worker} : ¬ s.Between l l worker := by
  rintro ⟨⟨mode, member⟩, mode', wants⟩
  cases (ordered worker).wants wants _ member

theorem act_apart_iff (ordered : s.Ordered Nests) (acyclic : ¬ s.Circular) {worker : Worker}
    (ran : s.act worker = some t) :
    Apart s (.act worker) ↔ ¬ t.Circular := by
  have ordered' : t.Ordered Nests := ordered.act ran
  rw [circular_iff ordered']
  rw [circular_iff ordered] at acyclic
  unfold Apart
  constructor
  · rintro ⟨calls, asks⟩ ⟨called, asked⟩
    obtain ⟨caller, call⟩ := between_iff.mp called
    obtain ⟨asker, ask⟩ := between_iff.mp asked
    by_cases first : caller = worker
    · subst first
      have quiet := calls ((comesBetween_iff ran).mpr call)
      by_cases second : asker = caller
      · subst second
        obtain ⟨-, mode, wants⟩ := call
        obtain ⟨-, mode', wants'⟩ := ask
        rw [wants] at wants'
        cases wants'
      · have there := between_iff.mpr ⟨asker, (between_of_ne ran second).mp ask⟩
        rw [quiet] at there
        cases there
    · have there := between_iff.mpr ⟨caller, (between_of_ne ran first).mp call⟩
      by_cases second : asker = worker
      · subst second
        have quiet := asks ((comesBetween_iff ran).mpr ask)
        rw [quiet] at there
        cases there
      · exact acyclic ⟨there, between_iff.mpr ⟨asker, (between_of_ne ran second).mp ask⟩⟩
  · intro neither
    constructor
    · intro calls
      by_contra asked
      obtain ⟨asker, ask⟩ := between_iff.mp ((Bool.not_eq_false _).mp asked)
      have call := (comesBetween_iff ran).mp calls
      by_cases same : asker = worker
      · subst same
        obtain ⟨mode, member⟩ := ask.holds ran
        exact not_again ordered' ⟨⟨mode, member⟩, call.2⟩
      · exact neither ⟨between_iff.mpr ⟨worker, call⟩, between_iff.mpr ⟨asker, (between_of_ne ran same).mpr ask⟩⟩
    · intro asks
      by_contra called
      obtain ⟨caller, call⟩ := between_iff.mp ((Bool.not_eq_false _).mp called)
      have ask := (comesBetween_iff ran).mp asks
      by_cases same : caller = worker
      · subst same
        obtain ⟨mode, member⟩ := call.holds ran
        exact not_again ordered' ⟨⟨mode, member⟩, ask.2⟩
      · exact neither ⟨between_iff.mpr ⟨caller, (between_of_ne ran same).mpr call⟩, between_iff.mpr ⟨worker, ask⟩⟩

/-- From a state without a cycle, the step is the one to blame. -/
theorem apart_iff (ordered : s.Ordered Nests) (acyclic : ¬ s.Circular) {event : LockEvent}
    (ran : step s event = some t) :
    Apart s event ↔ ¬ t.Circular := by
  cases event with
  | start worker operation =>
    have ordered' := ordered_step ordered ran
    unfold step at ran
    dsimp only at ran
    split at ran
    · refine iff_of_true trivial ?_
      rw [circular_iff ordered', start_between ordered ran, start_between ordered ran, ← circular_iff ordered]
      exact acyclic
    · cases ran
  | act worker => exact act_apart_iff ordered acyclic ran
  | exit process =>
    refine iff_of_true trivial ?_
    rw [circular_iff (ordered_step ordered ran)]
    cases ran
    exact fun both => acyclic ((circular_iff ordered).mpr both)

/-- As long as each step is apart there is no cycle of threads that wait for
each other's locks, with any number of threads, and a step that is not makes
one. -/
theorem no_cycle_while_apart {trace : List LockEvent} (run : Run step Apart initial trace s) :
    ¬ s.Circular ∧ ∀ event t, step s event = some t → (Apart s event ↔ ¬ t.Circular) := by
  have kept : s.Ordered Nests ∧ ¬ s.Circular := by
    refine run.invariant (P := fun s => s.Ordered Nests ∧ ¬ s.Circular) ⟨ordered_initial, ?_⟩
      (fun ⟨ordered, acyclic⟩ apart ran => ?_)
    · rw [circular_iff ordered_initial]
      exact fun both => Bool.false_ne_true both.1
    · exact ⟨ordered_step ordered ran, (apart_iff ordered acyclic ran).mp apart⟩
  exact ⟨kept.2, fun event t ran => apart_iff kept.1 kept.2 ran⟩

section Example

def lockedSnapshot : Snapshot := ⟨str "snap", str "/tmp/dbc_snapshots/snap_1_vda.qcow2", 1, []⟩

def lockServer : ImageServer := { ip := str "10.0.0.1", port := str "873", modulename := str "images" }

/-- A snapshot is asked for, its event is processed, and its upload ends. -/
def uploadEnds : List LockEvent :=
  [.start (.request 0) (.createAndUploadSnapshot true (str "t") lockedSnapshot),
    .act (.request 0), .act (.request 0), .act (.request 0), .act (.request 0),
    .start .events (.processCreateSnapshot (str "t") lockedSnapshot.name lockedSnapshot.file lockServer 8 1),
    .act .events, .act .events, .act .events, .act .events, .exit 1]

/-- The check thread calls the callback, and then the snapshot is
terminated. -/
theorem no_cycle_in_order : ∃ s : LockState, ¬ s.Circular ∧ s.holds = [] ∧
    s.data.getSnapshot (str "t") (str "snap") = none := by
  have ran : (runAll (guarded step (fun s event => decide (s.Apart event))) initial
      (uploadEnds ++ [.start .check .check, .act .check, .act .check, .act .check, .act .check, .act .check,
        .act .check,
        .start (.request 0) (.terminateUploadSnapshot (str "t") (str "snap")), .act (.request 0), .act (.request 0),
        .act (.request 0), .act (.request 0)])).any
      (fun s => s.holds = [] ∧ s.data.getSnapshot (str "t") (str "snap") = none) = true := by decide +kernel
  obtain ⟨s, reached, left⟩ := (Option.any_eq_true _ _).mp ran
  obtain ⟨holds, gone⟩ := of_decide_eq_true left
  exact ⟨s, (no_cycle_while_apart (Run.of_guarded (fun _ _ test => of_decide_eq_true test) _ .start reached)).1,
    holds, gone⟩

/-- The check thread has come to the callback when the snapshot is
terminated: it waits for the snapshots, and the request, which has them, for
the uploads. -/
theorem callback_meets_terminate : ¬ ∀ trace (s : LockState), Reaches step initial trace s → ¬ s.Circular := by
  intro never
  have ran : (runAll step initial (uploadEnds ++ [.start .check .check, .act .check, .act .check, .act .check,
        .start (.request 0) (.terminateUploadSnapshot (str "t") (str "snap")), .act (.request 0)])).any
      (fun s => s.between .upload .snapshot = true ∧ s.between .snapshot .upload = true) = true := by decide +kernel
  obtain ⟨s, reached, left⟩ := (Option.any_eq_true _ _).mp ran
  obtain ⟨calls, asks⟩ := of_decide_eq_true left
  have run := Reaches.of_runAll _ .start reached
  have ordered : s.Ordered Nests := run.invariant ordered_initial (fun ordered _ ran => ordered_step ordered ran)
  exact never _ s run (circular_of_both ordered calls asks)

end Example

end LockState

end DbcNode
