import DbcNode.Image.Bookkeeping
import Mathlib.Data.List.TakeWhile

namespace DbcNode

/-- The image manager answers what the requests ask about a file. -/
def World.withJobs {γ : Type} (w : World) (m : ImageManager γ) : World :=
  { w with
    isDownloading := fun name => m.downloads.isActive name
    isUploading := fun name => m.uploads.isActive name }

namespace ImageManager
variable {γ : Type}

/-- `uploadImage`, where it is accepted: the job of its file is recorded. -/
def uploadImage (w : World) (h : Host) (imageServer : Bytes) (doc : Json) (size : Int) (process : Nat)
    (m : ImageManager γ) : Option (ImageManager γ) :=
  match (Host.uploadImage (w.withJobs m) imageServer doc h).1 with
  | .ok path => (m.upload path (.fromString imageServer) size process none).toOption
  | .error _ => none

/-- `shared` are the names that `listShareImages` has found. The size is
asked for afterwards, with a `grep` for the name that is not bound to the
ends of a word. -/
def downloadImage (v : CopyView) (shared : List Bytes) (imageServer : Bytes) (doc : Json) (process : Nat)
    (m : ImageManager γ) : Except Bytes (ImageManager γ) :=
  let name := doc.parseString (str "image_filename")
  let localDir := doc.parseString (str "local_dir")
  let server := ImageServer.fromString imageServer
  if imageServer = [] then .error (str "no image_server")
  else if doc.isObject = false then .error (str "additional parse failed")
  else if name = [] then .error (str "additional no image_filename")
  else if localDir = [] then .error (str "additional no local_dir")
  else if name ∉ shared then .error (str "image:" ++ name ++ str " not exist")
  else if m.downloads.isActive name then .error (str "image:" ++ name ++ str " in downloading")
  else m.download name localDir server ((queryLine v.grep name (v.listing server)).bind listedSize) process none

/-- The answer about a copy, with the progress that it was made of. -/
structure ProgressReply where
  status : Bytes
  percent : Int
  progress : Progress
  deriving DecidableEq

def reply (busy : Bytes) (progress : Progress) : ProgressReply :=
  if progress.isDone then ⟨str "done", 100, progress⟩ else ⟨busy, progress.percent, progress⟩

/-- The name in a request about a job. -/
def jobName (doc : Json) : Except Bytes Bytes :=
  let name := doc.parseString (str "image_filename")
  if doc.isObject = false then .error (str "additional parse failed")
  else if name = [] then .error (str "additional no image_filename")
  else .ok name

def uploadImageProgress (running : Nat → Bool) (v : CopyView) (doc : Json) (m : ImageManager γ) :
    Except Bytes ProgressReply := do
  let name ← jobName doc
  return reply (str "uploading") (m.uploadProgress running v name)

def downloadImageProgress (running : Nat → Bool) (v : CopyView) (doc : Json) (m : ImageManager γ) :
    Except Bytes ProgressReply := do
  let name ← jobName doc
  let progress ← m.downloadProgress running v name
  return reply (str "downloading") progress

/-- The process that the request ends, and the manager afterwards. -/
def stopUploadImage (running : Nat → Bool) (doc : Json) (m : ImageManager γ) :
    Except Bytes (Option Nat × ImageManager γ) := do
  let name ← jobName doc
  return (terminated running name m.uploads, m.terminateUpload name)

def stopDownloadImage (running : Nat → Bool) (doc : Json) (m : ImageManager γ) :
    Except Bytes (Option Nat × ImageManager γ) := do
  let name ← jobName doc
  return (terminated running name m.downloads, m.terminateDownload name)

end ImageManager

/-- What is recorded of a copy. An upload has no directory. -/
structure Copy where
  process : Nat
  size : Int
  server : ImageServer
  localDir : Bytes
  deriving DecidableEq

/-- A request for a copy that was accepted, by the name that the user gave,
with the size of the image, where there was one of that very name. -/
structure Accepted where
  side : Side
  name : Bytes
  copy : Copy
  size : Option Int
  deriving DecidableEq

/-- The name that the job of the request is recorded under. -/
def Accepted.key : Accepted → Bytes
  | ⟨.upload, name, _, _⟩ => Host.uploadPath name
  | ⟨.download, name, _, _⟩ => name

/-- The size of the image of this name in a listing. -/
def imageSize (name : Bytes) (lines : List Bytes) : Option Int :=
  (lines.find? (fun line => (awkFields line).getD 4 [] = name)).bind listedSize

structure ImageNode where
  manager : ImageManager Unit
  ended : List Nat
  accepted : List Accepted

/-- What happens to the copies of a node: the requests, on the world and the
files that they meet, the upload of a snapshot, the ends of processes and
the rounds of the check thread. -/
inductive CopyEvent
  | uploadImage (w : World) (h : Host) (imageServer : Bytes) (doc : Json) (size : Int) (process : Nat)
  | downloadImage (v : CopyView) (shared : List Bytes) (imageServer : Bytes) (doc : Json) (process : Nat)
  | snapshot (file : Bytes) (server : ImageServer) (size : Int) (process : Nat)
  | stop (side : Side) (doc : Json)
  | exit (process : Nat)
  | check (side : Side)

namespace ImageNode

def initial : ImageNode := ⟨⟨.empty, .empty⟩, [], []⟩

def running (n : ImageNode) (process : Nat) : Bool := process ∉ n.ended

def uploadCopy (job : ImageJob UploadImageFile) : Copy := ⟨job.process, job.details.size, job.details.toServer, []⟩

def downloadCopy (job : ImageJob DownloadImageFile) : Copy :=
  ⟨job.process, job.details.size, job.details.fromServer, job.details.localDir⟩

/-- The copy that is recorded under a name. -/
def copyAt (n : ImageNode) : Side → Bytes → Option Copy
  | .upload, name => (n.manager.uploads.jobs.find name).map uploadCopy
  | .download, name => (n.manager.downloads.jobs.find name).map downloadCopy

/-- A request that was accepted leaves a job under its key. -/
def accept (n : ImageNode) (side : Side) (name key : Bytes) (size : Option Int) (manager : ImageManager Unit) :
    ImageNode :=
  let after := { n with manager }
  { after with accepted :=
    ((after.copyAt side key).map (fun copy => ⟨side, name, copy, size⟩)).toList ++ n.accepted }

def step (n : ImageNode) : CopyEvent → Option ImageNode
  | .uploadImage w h imageServer doc size process =>
    let name := doc.parseString (str "image_filename")
    (n.manager.uploadImage w h imageServer doc size process).map
      (n.accept .upload name (Host.uploadPath name) (some size))
  | .downloadImage v shared imageServer doc process =>
    let name := doc.parseString (str "image_filename")
    (n.manager.downloadImage v shared imageServer doc process).toOption.map
      (n.accept .download name name (imageSize name (v.listing (.fromString imageServer))))
  | .snapshot file server size process =>
    (n.manager.upload file server size process (some ())).toOption.map (fun manager => { n with manager })
  | .stop .upload doc => (n.manager.stopUploadImage n.running doc).toOption.map (fun result =>
      { n with manager := result.2, ended := result.1.toList ++ n.ended })
  | .stop .download doc => (n.manager.stopDownloadImage n.running doc).toOption.map (fun result =>
      { n with manager := result.2, ended := result.1.toList ++ n.ended })
  | .exit process => some { n with ended := process :: n.ended }
  | .check .download =>
    some { n with manager := { n.manager with downloads := (n.manager.downloads.check n.running).2 } }
  | .check .upload => some { n with manager := { n.manager with uploads := (n.manager.uploads.check n.running).2 } }

/-- The file of a snapshot is a new one with an absolute path. -/
def SnapshotsNew (n : ImageNode) : CopyEvent → Prop
  | .snapshot file _ _ _ => isAbsolute file ∧ n.manager.uploads.isActive file = false
  | _ => True

/-- A request that names this file. -/
def Names (doc : Json) (name : Bytes) : Prop :=
  doc.isObject = true ∧ doc.parseString (str "image_filename") = name ∧ name ≠ []

/-- A request with nothing but the name. -/
def nameDoc (name : Bytes) : Json := .object [(str "image_filename", .string name)]

/-- The progress of a copy by its own temporary file, as far as it has made
one. -/
def ownProgress (partOf : Bytes → Option Int) (whole : Option Int) : Option Bytes → Option Progress
  | none => some .zero
  | some file => (partOf file).bind (fun part => whole.map (.quotient file part ·))

/-- A user who asks about the file of a copy is told about that very copy,
by its own temporary file and the size of its image, and that it is not
done; who stops it ends it. -/
structure Reports {δ : Type} (n : ImageNode) (table : ImageManager Unit → JobTable δ Unit)
    (progress : Json → Except Bytes ImageManager.ProgressReply) (busy : Bytes) (own : Option Progress)
    (stop : Json → Except Bytes (Option Nat × ImageManager Unit)) (name : Bytes) (process : Nat) : Prop where
  progress : ∀ doc, Names doc name → ∃ p, own = some p ∧ progress doc = .ok ⟨busy, p.percent, p⟩
  stop : ∀ doc, Names doc name → ∃ manager, stop doc = .ok (some process, manager) ∧
    (table manager).isActive name = false

/-- The file cannot be deleted and no task is made from it, on this world
and these files. -/
structure Refuses (w : World) (h : Host) (n : ImageNode) (name : Bytes) : Prop where
  delete : ∀ doc, Names doc name → ∃ error, Host.deleteImage (w.withJobs n.manager) doc h =
    (.error (.thrown error), h)
  create : h.checkImage (w.withJobs n.manager) name ≠ none

/-- The sizes of the temporary files of a copy: those that the server lists
for an upload, and those in the directory for a download. -/
def partOf (v : CopyView) (a : Accepted) (file : Bytes) : Option Int :=
  match a.side with
  | .upload => listedSize file
  | .download => v.fileSize (a.copy.localDir ++ str "/" ++ file)

/-- The file that the request about the copy finds first under the name that
it searches for. -/
def found (v : CopyView) (a : Accepted) : Option Bytes :=
  match a.side with
  | .upload => ImageManager.uploadFound v a.copy.server a.name
  | .download => ImageManager.downloadFound v a.copy.localDir a.name

def UploadAgrees (v : CopyView) (w : World) (h : Host) (n : ImageNode) (a : Accepted) (own : Option Bytes) : Prop :=
  Reports n (·.uploads) (fun doc => n.manager.uploadImageProgress n.running v doc) (str "uploading")
    (ownProgress (partOf v a) a.size own) (fun doc => n.manager.stopUploadImage n.running doc) a.name
      a.copy.process ∧
  Refuses w h n a.name

def DownloadAgrees (v : CopyView) (w : World) (h : Host) (n : ImageNode) (a : Accepted)
    (own : Option Bytes) : Prop :=
  Reports n (·.downloads) (fun doc => n.manager.downloadImageProgress n.running v doc) (str "downloading")
    (ownProgress (partOf v a) a.size own) (fun doc => n.manager.stopDownloadImage n.running doc) a.name
      a.copy.process ∧
  Refuses w h n a.name

/-- What is found first is the temporary file of the copy itself, which is
there when it is measured and does not round to the whole image; or nothing
is found before there is one. The size that was recorded is that of the
image. -/
def Shown (v : CopyView) (a : Accepted) (own : Option Bytes) : Prop :=
  found v a = own ∧ ∀ file, own = some file → a.size = some a.copy.size ∧
    ∃ part, partOf v a file = some part ∧ (Progress.quotient file part a.copy.size).isDone = false

/-- Each copy that was accepted and still runs is recorded under its key,
and every key of an upload is an absolute path. -/
structure Placed (n : ImageNode) : Prop where
  named : ∀ a ∈ n.accepted, Names (nameDoc a.name) a.name
  sized : ∀ a ∈ n.accepted, a.side = .upload → a.size = some a.copy.size
  placed : ∀ a ∈ n.accepted, a.copy.process ∉ n.ended → n.copyAt a.side a.key = some a.copy
  absolute : ∀ name, n.copyAt .upload name ≠ none → isAbsolute name = true

variable {n k : ImageNode}

theorem isAbsolute_uploadPath (name : Bytes) : isAbsolute (Host.uploadPath name) = true := by
  unfold Host.uploadPath
  split
  · assumption
  · rfl

theorem uploadImage_path {w : World} {h : Host} {imageServer : Bytes} {doc : Json} {path : Bytes}
    (ran : (Host.uploadImage w imageServer doc h).1 = .ok path) : doc.parseString (str "image_filename") ≠ [] ∧
    path = Host.uploadPath (doc.parseString (str "image_filename")) ∧ w.isUploading path = false := by
  unfold Host.uploadImage at ran
  dsimp only at ran
  split at ran
  · cases ran
  split at ran
  · cases ran
  split at ran
  · cases ran
  rename_i named
  split at ran
  · cases ran
  split at ran
  · cases ran
  rename_i idle
  unfold Host.upload at ran
  split at ran
  · cases ran
  cases ran
  exact ⟨named, rfl, (Bool.not_eq_true _).mp idle⟩

theorem find_of_inactive {δ γ : Type} {t : JobTable δ γ} {name : Bytes} (idle : t.isActive name = false) :
    t.jobs.find name = none := by
  rwa [JobTable.isActive, Option.isSome_eq_false_iff, Option.isNone_iff_eq_none] at idle

theorem parseString_names {doc : Json} {name : Bytes} (same : doc.parseString (str "image_filename") = name)
    (named : name ≠ []) : Names (nameDoc name) name := by
  refine ⟨rfl, ?_, named⟩
  change cText name = name
  rw [← same, Json.parseString]
  cases found : doc.member (str "image_filename") with
  | none => rfl
  | some json =>
    cases json with
    | string text => exact List.takeWhile_idem
    | _ => rfl

theorem uploadImage_manager {w : World} {h : Host} {imageServer : Bytes} {doc : Json} {size : Int} {process : Nat}
    {manager : ImageManager Unit} (ran : n.manager.uploadImage w h imageServer doc size process = some manager) :
    doc.parseString (str "image_filename") ≠ [] ∧
      n.manager.uploads.jobs.find (Host.uploadPath (doc.parseString (str "image_filename"))) = none ∧
      manager.downloads = n.manager.downloads ∧ ∃ job : ImageJob UploadImageFile, job.details.size = size ∧
        manager.uploads =
          n.manager.uploads.start (Host.uploadPath (doc.parseString (str "image_filename"))) job none := by
  unfold ImageManager.uploadImage at ran
  split at ran
  · rename_i path accepted
    obtain ⟨named, rfl, idle⟩ := uploadImage_path accepted
    unfold ImageManager.upload at ran
    split at ran
    · cases ran
    · cases ran
      exact ⟨named, find_of_inactive idle, rfl, _, rfl, rfl⟩
  · cases ran

theorem downloadImage_manager {v : CopyView} {shared : List Bytes} {imageServer : Bytes} {doc : Json}
    {process : Nat} {manager : ImageManager Unit}
    (ran : n.manager.downloadImage v shared imageServer doc process = .ok manager) :
    doc.parseString (str "image_filename") ≠ [] ∧
      n.manager.downloads.jobs.find (doc.parseString (str "image_filename")) = none ∧
      manager.uploads = n.manager.uploads ∧ ∃ job : ImageJob DownloadImageFile,
        manager.downloads = n.manager.downloads.start (doc.parseString (str "image_filename")) job none := by
  unfold ImageManager.downloadImage at ran
  dsimp only at ran
  split at ran
  · cases ran
  split at ran
  · cases ran
  split at ran
  · cases ran
  rename_i named
  split at ran
  · cases ran
  split at ran
  · cases ran
  split at ran
  · cases ran
  rename_i idle
  unfold ImageManager.download at ran
  split at ran
  · cases ran
  split at ran
  · cases ran
  · cases ran
    exact ⟨named, find_of_inactive ((Bool.not_eq_true _).mp idle), rfl, _, rfl⟩

theorem toOption_map_eq_some {ε α β : Type} {x : Except ε α} {f : α → β} {b : β} (ran : x.toOption.map f = some b) :
    ∃ a, x = .ok a ∧ f a = b := by
  cases x with
  | error e => cases ran
  | ok a => exact ⟨a, rfl, Option.some.inj ran⟩

theorem jobName_eq {doc : Json} {name : Bytes} (ran : ImageManager.jobName doc = .ok name) : Names doc name := by
  unfold ImageManager.jobName at ran
  dsimp only at ran
  split at ran
  · cases ran
  rename_i object
  split at ran
  · cases ran
  rename_i named
  cases ran
  exact ⟨(Bool.not_eq_false _).mp object, rfl, named⟩

theorem jobName_of_names {doc : Json} {name : Bytes} (names : Names doc name) :
    ImageManager.jobName doc = .ok name := by
  obtain ⟨object, rfl, named⟩ := names
  unfold ImageManager.jobName
  dsimp only
  rw [if_neg (by rw [object]; decide), if_neg named]

theorem stopUploadImage_eq {doc : Json} {result : Option Nat × ImageManager Unit}
    (ran : n.manager.stopUploadImage n.running doc = .ok result) : ∃ name, Names doc name ∧
      result = (ImageManager.terminated n.running name n.manager.uploads, n.manager.terminateUpload name) := by
  cases named : ImageManager.jobName doc with
  | error e =>
    rw [ImageManager.stopUploadImage, named] at ran
    cases ran
  | ok name =>
    rw [ImageManager.stopUploadImage, named] at ran
    cases ran
    exact ⟨name, jobName_eq named, rfl⟩

theorem stopDownloadImage_eq {doc : Json} {result : Option Nat × ImageManager Unit}
    (ran : n.manager.stopDownloadImage n.running doc = .ok result) : ∃ name, Names doc name ∧
      result = (ImageManager.terminated n.running name n.manager.downloads, n.manager.terminateDownload name) := by
  cases named : ImageManager.jobName doc with
  | error e =>
    rw [ImageManager.stopDownloadImage, named] at ran
    cases ran
  | ok name =>
    rw [ImageManager.stopDownloadImage, named] at ran
    cases ran
    exact ⟨name, jobName_eq named, rfl⟩

theorem Placed.initial : Placed initial :=
  ⟨List.forall_mem_nil _, List.forall_mem_nil _, List.forall_mem_nil _, fun _ some => absurd rfl some⟩

/-- An event that only takes away jobs of processes that have ended. -/
theorem Placed.fewer (placed : Placed n) (accepted : k.accepted = n.accepted)
    (ended : ∀ p, p ∈ n.ended → p ∈ k.ended) (fewer : ∀ side name, k.copyAt side name = n.copyAt side name ∨
      k.copyAt side name = none ∧ ∀ copy, n.copyAt side name = some copy → copy.process ∈ k.ended) : Placed k := by
  refine ⟨by rw [accepted]; exact placed.named, by rw [accepted]; exact placed.sized, fun a member running => ?_,
    fun name some => ?_⟩
  · rw [accepted] at member
    have there := placed.placed a member (fun before => running (ended _ before))
    rcases fewer a.side a.key with same | ⟨_, gone⟩
    · rw [same, there]
    · exact absurd (gone _ there) running
  · rcases fewer .upload name with same | ⟨none, _⟩
    · rw [same] at some
      exact placed.absolute name some
    · exact absurd none some

/-- An event that records one more job under a name without one. -/
theorem Placed.more (placed : Placed n) (side : Side) (copy : Copy) {key : Bytes} (free : n.copyAt side key = none)
    (started : ∀ other name, k.copyAt other name =
      if other = side ∧ name = key then some copy else n.copyAt other name)
    (absolute : side = .upload → isAbsolute key = true) (ended : k.ended = n.ended)
    (accepted : ∀ a ∈ k.accepted, a ∈ n.accepted ∨ Names (nameDoc a.name) a.name ∧
      (a.side = .upload → a.size = some a.copy.size) ∧ a.side = side ∧ a.key = key ∧ a.copy = copy) : Placed k := by
  refine ⟨fun a member => ?_, fun a member => ?_, fun a member running => ?_, fun name some => ?_⟩
  · rcases accepted a member with before | ⟨named, _⟩
    · exact placed.named a before
    · exact named
  · rcases accepted a member with before | ⟨_, sized, _⟩
    · exact placed.sized a before
    · exact sized
  · rw [ended] at running
    rw [started]
    rcases accepted a member with before | ⟨_, _, rfl, rfl, rfl⟩
    · have there := placed.placed a before running
      rw [if_neg, there]
      rintro ⟨rfl, rfl⟩
      rw [free] at there
      cases there
    · rw [if_pos ⟨rfl, rfl⟩]
  · rw [started] at some
    split at some
    · rename_i new
      rw [new.2]
      exact absolute new.1.symm
    · exact placed.absolute name some

/-- What is still recorded after a stop was so before, and what is not has
ended. -/
theorem erased {δ : Type} {t : JobTable δ Unit} {key name : Bytes} :
    (t.erase key).jobs.find name = t.jobs.find name ∨ (t.erase key).jobs.find name = none ∧
      ∀ job, t.jobs.find name = some job →
        job.process ∈ (ImageManager.terminated n.running key t).toList ++ n.ended := by
  rw [JobTable.find_erase_jobs]
  by_cases same : name = key
  · rw [if_pos same]
    refine Or.inr ⟨rfl, fun job there => ?_⟩
    subst same
    by_cases before : job.process ∈ n.ended
    · exact List.mem_append_right _ before
    · have alive : n.running job.process = true := decide_eq_true before
      rw [ImageManager.terminated, JobTable.processAt, there, Option.map_some, Option.filter_some_pos alive]
      exact List.mem_cons_self
  · rw [if_neg same]
    exact Or.inl rfl

theorem checked {δ : Type} {t : JobTable δ Unit} {name : Bytes} :
    (t.check n.running).2.jobs.find name = t.jobs.find name ∨ (t.check n.running).2.jobs.find name = none ∧
      ∀ job, t.jobs.find name = some job → job.process ∈ n.ended := by
  rw [JobTable.check_jobs]
  by_cases member : name ∈ JobTable.endedNames n.running t.jobs.entries
  · rw [if_pos member]
    refine Or.inr ⟨rfl, fun job there => ?_⟩
    obtain ⟨q, again, past⟩ := JobTable.mem_endedNames.mp member
    rw [JobTable.processAt, there] at again
    obtain rfl := Option.some.inj again
    simpa [running] using past
  · rw [if_neg member]
    exact Or.inl rfl

/-- What is left in a table is left in the list of the copies. -/
theorem copies_fewer {δ : Type} {before after : Option (ImageJob δ)} {f : ImageJob δ → Copy} {ended : List Nat}
    (same : ∀ job, (f job).process = job.process)
    (fewer : after = before ∨ after = none ∧ ∀ job, before = some job → job.process ∈ ended) :
    after.map f = before.map f ∨ after.map f = none ∧ ∀ copy, before.map f = some copy → copy.process ∈ ended := by
  rcases fewer with rfl | ⟨rfl, gone⟩
  · exact Or.inl rfl
  · refine Or.inr ⟨rfl, fun copy there => ?_⟩
    obtain ⟨job, found, rfl⟩ := Option.map_eq_some_iff.mp there
    rw [same]
    exact gone job found

theorem copyAt_uploads {manager : ImageManager Unit} {key : Bytes} {job : ImageJob UploadImageFile}
    {callback : Option Unit} (downloads : manager.downloads = n.manager.downloads)
    (uploads : manager.uploads = n.manager.uploads.start key job callback) (ended : List Nat)
    (accepted : List Accepted) (side : Side) (name : Bytes) :
    copyAt ⟨manager, ended, accepted⟩ side name =
      if side = .upload ∧ name = key then some (uploadCopy job) else n.copyAt side name := by
  cases side with
  | download => rw [if_neg (fun wrong => nomatch wrong.1), copyAt, copyAt, downloads]
  | upload =>
    rw [copyAt, copyAt, uploads, JobTable.find_start_jobs]
    by_cases same : name = key <;> simp [same]

theorem copyAt_downloads {manager : ImageManager Unit} {key : Bytes} {job : ImageJob DownloadImageFile}
    (uploads : manager.uploads = n.manager.uploads)
    (downloads : manager.downloads = n.manager.downloads.start key job none) (ended : List Nat)
    (accepted : List Accepted) (side : Side) (name : Bytes) :
    copyAt ⟨manager, ended, accepted⟩ side name =
      if side = .download ∧ name = key then some (downloadCopy job) else n.copyAt side name := by
  cases side with
  | upload => rw [if_neg (fun wrong => nomatch wrong.1), copyAt, copyAt, uploads]
  | download =>
    rw [copyAt, copyAt, downloads, JobTable.find_start_jobs]
    by_cases same : name = key <;> simp [same]

theorem accept_accepted {side : Side} {name key : Bytes} {size : Option Int} {manager : ImageManager Unit}
    {copy : Copy} (there : copyAt ⟨manager, n.ended, n.accepted⟩ side key = some copy) :
    (n.accept side name key size manager).accepted = ⟨side, name, copy, size⟩ :: n.accepted := by
  unfold accept
  dsimp only
  rw [there]
  rfl

theorem Placed.step (placed : Placed n) {event : CopyEvent} (new : SnapshotsNew n event)
    (ran : n.step event = some k) :
    Placed k := by
  cases event with
  | uploadImage w h imageServer doc size process =>
    obtain ⟨manager, uploaded, rfl⟩ := Option.map_eq_some_iff.mp ran
    obtain ⟨named, free, downloads, job, rfl, uploads⟩ := uploadImage_manager uploaded
    have copies := copyAt_uploads downloads uploads n.ended n.accepted
    refine placed.more .upload (uploadCopy job) (congrArg (Option.map uploadCopy) free) copies
      (fun _ => isAbsolute_uploadPath _) rfl (fun a member => ?_)
    rw [accept_accepted ((copies _ _).trans (if_pos ⟨rfl, rfl⟩))] at member
    rcases List.mem_cons.mp member with rfl | before
    · exact Or.inr ⟨parseString_names rfl named, fun _ => rfl, rfl, rfl, rfl⟩
    · exact Or.inl before
  | downloadImage v shared imageServer doc process =>
    obtain ⟨manager, downloaded, rfl⟩ := toOption_map_eq_some ran
    obtain ⟨named, free, uploads, job, downloads⟩ := downloadImage_manager downloaded
    have copies := copyAt_downloads uploads downloads n.ended n.accepted
    refine placed.more .download (downloadCopy job) (congrArg (Option.map downloadCopy) free) copies nofun rfl
      (fun a member => ?_)
    rw [accept_accepted ((copies _ _).trans (if_pos ⟨rfl, rfl⟩))] at member
    rcases List.mem_cons.mp member with rfl | before
    · exact Or.inr ⟨parseString_names rfl named, nofun, rfl, rfl, rfl⟩
    · exact Or.inl before
  | snapshot file server size process =>
    obtain ⟨manager, uploaded, rfl⟩ := toOption_map_eq_some ran
    obtain ⟨absolute, idle⟩ := new
    unfold ImageManager.upload at uploaded
    split at uploaded
    · cases uploaded
    · cases uploaded
      have copies := @copyAt_uploads n
        ⟨n.manager.downloads, n.manager.uploads.start file ⟨process, size, server⟩ (some ())⟩ _ _ _ rfl rfl
          n.ended n.accepted
      exact placed.more .upload _ (congrArg (Option.map uploadCopy) (find_of_inactive idle)) copies
        (fun _ => absolute) rfl (fun a member => Or.inl member)
  | stop side doc =>
    cases side with
    | upload =>
      obtain ⟨result, stopped, rfl⟩ := toOption_map_eq_some ran
      obtain ⟨name, _, rfl⟩ := stopUploadImage_eq stopped
      refine placed.fewer rfl (fun p => List.mem_append_right _) (fun side name => ?_)
      cases side with
      | upload => exact copies_fewer (fun _ => rfl) erased
      | download => exact Or.inl rfl
    | download =>
      obtain ⟨result, stopped, rfl⟩ := toOption_map_eq_some ran
      obtain ⟨name, _, rfl⟩ := stopDownloadImage_eq stopped
      refine placed.fewer rfl (fun p => List.mem_append_right _) (fun side name => ?_)
      cases side with
      | upload => exact Or.inl rfl
      | download => exact copies_fewer (fun _ => rfl) erased
  | exit process =>
    cases ran
    exact placed.fewer rfl (fun p => List.mem_cons_of_mem process) (fun side name => Or.inl rfl)
  | check side =>
    cases side with
    | upload =>
      cases ran
      refine placed.fewer rfl (fun p => id) (fun side name => ?_)
      cases side with
      | upload => exact copies_fewer (fun _ => rfl) checked
      | download => exact Or.inl rfl
    | download =>
      cases ran
      refine placed.fewer rfl (fun p => id) (fun side name => ?_)
      cases side with
      | upload => exact Or.inl rfl
      | download => exact copies_fewer (fun _ => rfl) checked

/-- The file below `/data/` of that name is there, and nothing is said to
copy it. -/
def Deletable (h : Host) (n : ImageNode) (name : Bytes) : Prop :=
  h.fileExists (str "/data/" ++ name) = true ∧ n.manager.downloads.isActive name = false ∧
    n.manager.uploads.isActive (str "/data/" ++ name) = false

theorem deleteImage_refused_iff {w : World} {h : Host} {doc : Json} {name : Bytes} (names : Names doc name) :
    (∃ error, Host.deleteImage (w.withJobs n.manager) doc h = (.error (.thrown error), h)) ↔
      ¬ Deletable h n name := by
  obtain ⟨object, rfl, named⟩ := names
  unfold Host.deleteImage
  dsimp only
  rw [if_neg (by rw [object]; decide), if_neg named]
  by_cases there : h.fileExists (str "/data/" ++ doc.parseString (str "image_filename")) = false
  · rw [if_pos there]
    refine ⟨fun _ deletable => ?_, fun _ => ⟨_, rfl⟩⟩
    rw [deletable.1] at there
    cases there
  · rw [if_neg there]
    by_cases busy : (w.withJobs n.manager).isDownloading (doc.parseString (str "image_filename")) = true ∨
        (w.withJobs n.manager).isUploading (str "/data/" ++ doc.parseString (str "image_filename")) = true
    · rw [if_pos busy]
      refine ⟨fun _ deletable => ?_, fun _ => ⟨_, rfl⟩⟩
      rcases busy with busy | busy
      · exact Bool.false_ne_true (deletable.2.1.symm.trans busy)
      · exact Bool.false_ne_true (deletable.2.2.symm.trans busy)
    · rw [if_neg busy]
      constructor
      · rintro ⟨error, ran⟩
        cases ran
      · intro wrong
        rw [not_or, Bool.not_eq_true, Bool.not_eq_true] at busy
        exact absurd ⟨(Bool.not_eq_false _).mp there, busy.1, busy.2⟩ wrong

theorem checkImage_refused {w : World} {h : Host} {name : Bytes}
    (busy : n.manager.downloads.isActive name = true ∨ n.manager.uploads.isActive name = true) :
    h.checkImage (w.withJobs n.manager) name ≠ none := by
  unfold Host.checkImage
  split
  · nofun
  split
  · nofun
  split
  · nofun
  · rw [if_pos (show (w.withJobs n.manager).isDownloading name = true ∨ (w.withJobs n.manager).isUploading name =
      true from busy)]
    nofun

theorem isActive_of_find {δ γ : Type} {t : JobTable δ γ} {name : Bytes} {job : ImageJob δ}
    (there : t.jobs.find name = some job) : t.isActive name = true := by
  rw [JobTable.isActive, there]
  rfl

theorem terminated_running {δ : Type} {t : JobTable δ Unit} {name : Bytes} {job : ImageJob δ}
    (there : t.jobs.find name = some job) (alive : n.running job.process = true) :
    ImageManager.terminated n.running name t = some job.process := by
  rw [ImageManager.terminated, JobTable.processAt, there, Option.map_some, Option.filter_some_pos alive]

theorem erase_inactive {δ : Type} {t : JobTable δ Unit} {name : Bytes} : (t.erase name).isActive name = false := by
  rw [JobTable.isActive, JobTable.find_erase_jobs, if_pos rfl]
  rfl

/-- An answer says that the copy goes on when its progress is not done. -/
theorem reply_eq_iff {busy : Bytes} {p q : Progress} (other : busy ≠ str "done") :
    ImageManager.reply busy p = ⟨busy, q.percent, q⟩ ↔ p = q ∧ q.isDone = false := by
  unfold ImageManager.reply
  cases done : p.isDone with
  | true =>
    rw [if_pos rfl]
    constructor
    · intro same
      exact absurd (congrArg ImageManager.ProgressReply.status same).symm other
    · rintro ⟨rfl, wrong⟩
      rw [done] at wrong
      cases wrong
  | false =>
    rw [if_neg Bool.false_ne_true]
    constructor
    · intro same
      cases congrArg ImageManager.ProgressReply.progress same
      exact ⟨rfl, done⟩
    · rintro ⟨rfl, _⟩
      rfl

/-- The progress by the file that was found is the one by the own file when
they are the same. -/
theorem own_of_found_iff {found own : Option Bytes} {part : Bytes → Option Int} {size : Option Int}
    {recorded : Int} : (∃ q, ownProgress part size own = some q ∧ ownProgress part (some recorded) found = some q ∧
      q.isDone = false) ↔
      found = own ∧ ∀ file, own = some file → size = some recorded ∧
        ∃ n, part file = some n ∧ (Progress.quotient file n recorded).isDone = false := by
  constructor
  · rintro ⟨q, mine, theirs, open_⟩
    cases found with
    | none =>
      cases theirs
      cases own with
      | none => exact ⟨rfl, nofun⟩
      | some file =>
        obtain ⟨n, _, mine⟩ := Option.bind_eq_some_iff.mp mine
        obtain ⟨whole, _, wrong⟩ := Option.map_eq_some_iff.mp mine
        cases wrong
    | some other =>
      obtain ⟨n, sized, theirs⟩ := Option.bind_eq_some_iff.mp theirs
      cases theirs
      cases own with
      | none => cases mine
      | some file =>
        obtain ⟨m, again, mine⟩ := Option.bind_eq_some_iff.mp mine
        obtain ⟨whole, is_, same⟩ := Option.map_eq_some_iff.mp mine
        cases same
        refine ⟨rfl, fun file own => ?_⟩
        cases own
        exact ⟨is_, n, sized, open_⟩
  · rintro ⟨rfl, shown⟩
    cases found with
    | none => exact ⟨.zero, rfl, rfl, rfl⟩
    | some file =>
      obtain ⟨rfl, n, sized, open_⟩ := shown file rfl
      have same : ownProgress part (some recorded) (some file) = some (.quotient file n recorded) := by
        rw [ownProgress, sized]
        rfl
      exact ⟨_, same, same, open_⟩

section Reported
variable {v : CopyView} {a : Accepted} {own : Option Bytes}

theorem uploadProgress_eq {job : ImageJob UploadImageFile} {name : Bytes}
    (there : n.manager.uploads.jobs.find name = some job) (alive : n.running job.process = true) :
    some (n.manager.uploadProgress n.running v name) =
      ownProgress listedSize (some job.details.size) (ImageManager.uploadFound v job.details.toServer name) := by
  rw [ImageManager.uploadProgress, there]
  dsimp only
  cases found : ImageManager.uploadFound v job.details.toServer name with
  | none =>
    change some (if n.running job.process then Progress.zero else .one) = _
    rw [if_pos alive]
    rfl
  | some line =>
    have sized := (Option.filter_eq_some_iff.mp found).2
    obtain ⟨part, sized⟩ := Option.isSome_iff_exists.mp sized
    change some (ImageManager.jobProgress n.running job.process job.details.size
      ((listedSize line).map (line, ·))) = (listedSize line).bind _
    rw [sized]
    rfl

theorem downloadProgress_eq_ok_iff {job : ImageJob DownloadImageFile} {name : Bytes} {p : Progress}
    (there : n.manager.downloads.jobs.find name = some job) (alive : n.running job.process = true) :
    n.manager.downloadProgress n.running v name = .ok p ↔
      ownProgress (fun file => v.fileSize (job.details.localDir ++ str "/" ++ file)) (some job.details.size)
        (ImageManager.downloadFound v job.details.localDir name) = some p := by
  rw [ImageManager.downloadProgress, there]
  dsimp only
  cases ImageManager.downloadFound v job.details.localDir name with
  | none =>
    change Except.ok (if n.running job.process then Progress.zero else .one) = _ ↔ _
    rw [if_pos alive, ownProgress, Except.ok.injEq, Option.some.injEq]
  | some file =>
    dsimp only [ownProgress]
    cases v.fileSize (job.details.localDir ++ str "/" ++ file) with
    | none => exact ⟨nofun, nofun⟩
    | some part =>
      change Except.ok (Progress.quotient file part job.details.size) = _ ↔ some _ = _
      rw [Except.ok.injEq, Option.some.injEq]

/-- A copy that is recorded under the name that the user gave is reported
when its own file is found, and is ended by a stop. -/
theorem uploads_reported_iff (side : a.side = .upload) (names : Names (nameDoc a.name) a.name)
    (there : n.copyAt .upload a.name = some a.copy) (alive : a.copy.process ∉ n.ended) :
    Reports n (·.uploads) (fun doc => n.manager.uploadImageProgress n.running v doc) (str "uploading")
      (ownProgress (partOf v a) a.size own) (fun doc => n.manager.stopUploadImage n.running doc) a.name
        a.copy.process ↔
    Shown v a own := by
  obtain ⟨job, found_, same⟩ := Option.map_eq_some_iff.mp there
  have runs : n.running job.process = true := by
    rw [← same] at alive
    exact decide_eq_true alive
  have part : partOf v a = listedSize := by
    funext file
    rw [partOf, side]
  have first : found v a = ImageManager.uploadFound v job.details.toServer a.name := by
    rw [found, side, ← same]
    rfl
  have answer (doc : Json) (about : Names doc a.name) : n.manager.uploadImageProgress n.running v doc =
      .ok (ImageManager.reply (str "uploading") (n.manager.uploadProgress n.running v a.name)) := by
    rw [ImageManager.uploadImageProgress, jobName_of_names about]
    rfl
  have progress : (∀ doc, Names doc a.name → ∃ p, ownProgress (partOf v a) a.size own = some p ∧
      n.manager.uploadImageProgress n.running v doc = .ok ⟨str "uploading", p.percent, p⟩) ↔ Shown v a own := by
    rw [Shown, ← own_of_found_iff, first, part, ← same]
    change _ ↔ ∃ q, _ ∧ ownProgress listedSize (some job.details.size) _ = _ ∧ _
    rw [← uploadProgress_eq found_ runs]
    constructor
    · intro reported
      obtain ⟨p, mine, said⟩ := reported _ names
      rw [answer _ names, Except.ok.injEq, reply_eq_iff (by decide)] at said
      exact ⟨p, mine, congrArg some said.1, said.2⟩
    · rintro ⟨p, mine, theirs, open_⟩ doc about
      refine ⟨p, mine, ?_⟩
      rw [answer _ about, Except.ok.injEq, reply_eq_iff (by decide)]
      exact ⟨Option.some.inj theirs, open_⟩
  refine ⟨fun reports => progress.mp reports.progress, fun shown => ⟨progress.mpr shown, fun doc about => ?_⟩⟩
  refine ⟨n.manager.terminateUpload a.name, ?_, erase_inactive⟩
  rw [ImageManager.stopUploadImage, jobName_of_names about]
  change Except.ok (ImageManager.terminated n.running a.name n.manager.uploads, _) = _
  rw [terminated_running found_ runs, ← same]
  rfl

theorem downloads_reported_iff (side : a.side = .download) (names : Names (nameDoc a.name) a.name)
    (there : n.copyAt .download a.name = some a.copy) (alive : a.copy.process ∉ n.ended) :
    Reports n (·.downloads) (fun doc => n.manager.downloadImageProgress n.running v doc) (str "downloading")
      (ownProgress (partOf v a) a.size own) (fun doc => n.manager.stopDownloadImage n.running doc) a.name
        a.copy.process ↔
    Shown v a own := by
  obtain ⟨job, found_, same⟩ := Option.map_eq_some_iff.mp there
  have runs : n.running job.process = true := by
    rw [← same] at alive
    exact decide_eq_true alive
  have part : partOf v a = fun file => v.fileSize (job.details.localDir ++ str "/" ++ file) := by
    funext file
    rw [partOf, side, ← same]
    rfl
  have first : found v a = ImageManager.downloadFound v job.details.localDir a.name := by
    rw [found, side, ← same]
    rfl
  have answer (doc : Json) (about : Names doc a.name) (p : Progress) :
      n.manager.downloadImageProgress n.running v doc = .ok ⟨str "downloading", p.percent, p⟩ ↔
        n.manager.downloadProgress n.running v a.name = .ok p ∧ p.isDone = false := by
    rw [ImageManager.downloadImageProgress, jobName_of_names about]
    change (n.manager.downloadProgress n.running v a.name).bind
      (fun q => .ok (ImageManager.reply (str "downloading") q)) = _ ↔ _
    cases n.manager.downloadProgress n.running v a.name with
    | error e => exact ⟨nofun, nofun⟩
    | ok q =>
      change Except.ok (ImageManager.reply (str "downloading") q) = _ ↔ _
      rw [Except.ok.injEq, reply_eq_iff (by decide), Except.ok.injEq]
  have progress : (∀ doc, Names doc a.name → ∃ p, ownProgress (partOf v a) a.size own = some p ∧
      n.manager.downloadImageProgress n.running v doc = .ok ⟨str "downloading", p.percent, p⟩) ↔ Shown v a own := by
    rw [Shown, ← own_of_found_iff, first, part, ← same]
    constructor
    · intro reported
      obtain ⟨p, mine, said⟩ := reported _ names
      obtain ⟨theirs, open_⟩ := (answer _ names p).mp said
      exact ⟨p, mine, (downloadProgress_eq_ok_iff found_ runs).mp theirs, open_⟩
    · rintro ⟨p, mine, theirs, open_⟩ doc about
      exact ⟨p, mine, (answer _ about p).mpr ⟨(downloadProgress_eq_ok_iff found_ runs).mpr theirs, open_⟩⟩
  refine ⟨fun reports => progress.mp reports.progress, fun shown => ⟨progress.mpr shown, fun doc about => ?_⟩⟩
  refine ⟨n.manager.terminateDownload a.name, ?_, erase_inactive⟩
  rw [ImageManager.stopDownloadImage, jobName_of_names about]
  change Except.ok (ImageManager.terminated n.running a.name n.manager.downloads, _) = _
  rw [terminated_running found_ runs, ← same]
  rfl

end Reported

/-- The requests about an upload agree on its name when it is an absolute
path, the file that deleting it would take away is not there or is being
copied, and the progress is read from its own file; those about a download
when the progress is. -/
theorem keys_agree_iff {trace : List CopyEvent} (run : Run ImageNode.step SnapshotsNew initial trace n)
    {a : Accepted} (accepted : a ∈ n.accepted) (alive : a.copy.process ∉ n.ended) (v : CopyView)
    (w : World) (h : Host) (own : Option Bytes) :
    (a.side = .upload → a.size = some a.copy.size ∧
        (UploadAgrees v w h n a own ↔ isAbsolute a.name = true ∧ ¬ Deletable h n a.name ∧ Shown v a own)) ∧
      (a.side = .download → (DownloadAgrees v w h n a own ↔ Shown v a own)) := by
  have placed : Placed n := run.invariant Placed.initial (fun placed new ran => placed.step new ran)
  have names := placed.named a accepted
  have sized := placed.sized a accepted
  have there := placed.placed a accepted alive
  constructor
  · intro side
    rw [side] at there
    refine ⟨sized side, ?_⟩
    constructor
    · rintro ⟨reports, refuses⟩
      have absolute : isAbsolute a.name = true := by
        obtain ⟨manager, stopped, _⟩ := reports.stop _ names
        rw [ImageManager.stopUploadImage, jobName_of_names names] at stopped
        have ended : ImageManager.terminated n.running a.name n.manager.uploads = some a.copy.process :=
          congrArg Prod.fst (Except.ok.inj stopped)
        refine placed.absolute a.name (fun none => ?_)
        have gone := Option.map_eq_none_iff.mp none
        rw [ImageManager.terminated, JobTable.processAt, gone] at ended
        cases ended
      have key : a.key = a.name := by
        obtain ⟨_, name, copy, size⟩ := a
        cases side
        exact if_pos absolute
      rw [key] at there
      exact ⟨absolute, (deleteImage_refused_iff names).mp (refuses.delete _ names),
        (uploads_reported_iff side names there alive).mp reports⟩
    · rintro ⟨absolute, safe, shown⟩
      have key : a.key = a.name := by
        obtain ⟨_, name, copy, size⟩ := a
        cases side
        exact if_pos absolute
      rw [key] at there
      obtain ⟨job, found, _⟩ := Option.map_eq_some_iff.mp there
      exact ⟨(uploads_reported_iff side names there alive).mpr shown,
        fun doc about => (deleteImage_refused_iff about).mpr safe,
          checkImage_refused (Or.inr (isActive_of_find found))⟩
  · intro side
    have key : a.key = a.name := by
      obtain ⟨_, name, copy, size⟩ := a
      cases side
      rfl
    rw [side, key] at there
    obtain ⟨job, found, _⟩ := Option.map_eq_some_iff.mp there
    have busy := isActive_of_find found
    refine ⟨fun agrees => (downloads_reported_iff side names there alive).mp agrees.1, fun shown =>
      ⟨(downloads_reported_iff side names there alive).mpr shown, fun doc about =>
        (deleteImage_refused_iff about).mpr (fun deletable => ?_), checkImage_refused (Or.inl busy)⟩⟩
    exact Bool.false_ne_true (deletable.2.1.symm.trans busy)

/-- `grep` for a pattern whose only special character is the dot. -/
def dotGrep (pattern line : Bytes) : Bool :=
  line.tails.any (fun rest => pattern.length ≤ rest.length ∧ (pattern.zip rest).all (fun p => p.1 = 46 ∨ p.1 = p.2))

/-- A line of `rsync --list-only`. -/
def listLine (size name : Bytes) : Bytes := str "-rw------- " ++ size ++ str " 2022/01/01 00:00:00 " ++ name

/-- A server and a directory with another image and half of the one that is
copied. -/
def halfCopied (other file : Bytes) : CopyView where
  grep := dotGrep
  listing _ := [listLine (str "2,048") other, listLine (str "512") file]
  names _ := [str ".", str "..", other, file]
  fileSize path := if path = str "/data/" ++ file then some 512 else some 2048

/-- The upload of this file on a node that has it. -/
def uploadOf (name : Bytes) (h : Host) : CopyEvent :=
  .uploadImage (.calm (str "task")) h (str "1,10.0.0.2,873,images") (nameDoc name) 1024 1

def oneImage : Host := { Host.empty with files := OrdMap.empty.insert [str "data", str "a.qcow2"] ⟨[]⟩ }

def imagesServer : ImageServer := ⟨str "10.0.0.2", str "873", str "images"⟩

/-- The upload of a file of 1024 bytes by this name. -/
def uploadAccepted (name : Bytes) : Accepted := ⟨.upload, name, ⟨1, 1024, imagesServer, []⟩, some 1024⟩

theorem half_open (file : Bytes) : (Progress.quotient file 512 1024).isDone = false := by
  have done : (Progress.quotient file 512 1024).isDone = true ↔ _ :=
    Progress.isDone_quotient (by norm_num) (by norm_num) (by norm_num) (by norm_num)
  rw [← Bool.not_eq_true]
  exact fun wrong => absurd (done.mp wrong) (by norm_num)

theorem absolute_name_agrees :
    ∃ n, Run ImageNode.step SnapshotsNew initial [uploadOf (str "/data/a.qcow2") oneImage] n ∧
    UploadAgrees (halfCopied (str "b.qcow2") (str ".a.qcow2.Xy12Zq")) (.calm (str "task")) oneImage n
      (uploadAccepted (str "/data/a.qcow2")) (some (listLine (str "512") (str ".a.qcow2.Xy12Zq"))) := by
  have facts : (initial.step (uploadOf (str "/data/a.qcow2") oneImage)).any (fun n =>
      n.ended = [] ∧ n.accepted = [uploadAccepted (str "/data/a.qcow2")]) = true := by decide +kernel
  obtain ⟨n, ran, rest⟩ := (Option.any_eq_true _ _).mp facts
  obtain ⟨ended, accepted⟩ := of_decide_eq_true rest
  have run : Run ImageNode.step SnapshotsNew initial [uploadOf (str "/data/a.qcow2") oneImage] n :=
    .next .start trivial ran
  have missing : oneImage.fileExists (str "/data/" ++ str "/data/a.qcow2") = false := by decide +kernel
  have agrees :=
    ((keys_agree_iff run (a := uploadAccepted (str "/data/a.qcow2")) (by rw [accepted]; exact List.mem_cons_self)
    (by rw [ended]; exact List.not_mem_nil) (halfCopied (str "b.qcow2") (str ".a.qcow2.Xy12Zq"))
      (.calm (str "task")) oneImage
    (some (listLine (str "512") (str ".a.qcow2.Xy12Zq")))).1 rfl).2
  refine ⟨n, run, agrees.mpr ⟨by decide, fun deletable => Bool.false_ne_true (missing.symm.trans deletable.1), ?_⟩⟩
  refine ⟨by decide +kernel, fun file own => ?_⟩
  cases own
  exact ⟨rfl, 512, by decide +kernel, half_open _⟩

/-- An upload of a name without a directory cannot be stopped by that
name. -/
theorem relative_name_disagrees :
    ∃ n, Run ImageNode.step SnapshotsNew initial [uploadOf (str "a.qcow2") oneImage] n ∧
    uploadAccepted (str "a.qcow2") ∈ n.accepted ∧ 1 ∉ n.ended ∧ ∀ v own,
      ¬ UploadAgrees v (.calm (str "task")) oneImage n (uploadAccepted (str "a.qcow2")) own := by
  have facts : (initial.step (uploadOf (str "a.qcow2") oneImage)).any (fun n =>
      n.ended = [] ∧ n.accepted = [uploadAccepted (str "a.qcow2")] ∧
      (n.manager.stopUploadImage n.running (nameDoc (str "a.qcow2"))).toOption.map (·.1) = some none) = true := by
    decide +kernel
  obtain ⟨n, ran, rest⟩ := (Option.any_eq_true _ _).mp facts
  obtain ⟨ended, accepted, stopped⟩ := of_decide_eq_true rest
  refine ⟨n, .next .start trivial ran, by rw [accepted]; exact List.mem_cons_self,
    by rw [ended]; exact List.not_mem_nil, ?_⟩
  intro v own agrees
  obtain ⟨manager, ended, _⟩ := agrees.1.stop (nameDoc (str "a.qcow2")) ⟨rfl, by decide +kernel, by decide⟩
  rw [show (uploadAccepted (str "a.qcow2")).name = str "a.qcow2" from rfl] at *
  rw [ended] at stopped
  cases stopped

/-- The download of an image that is alone on its server. -/
def downloadOf (name : Bytes) : CopyEvent :=
  .downloadImage ⟨dotGrep, fun _ => [listLine (str "1,024") name], fun _ => [], fun _ => none⟩ [name]
    (str "1,10.0.0.2,873,images")
    (.object [(str "image_filename", .string name), (str "local_dir", .string (str "/data"))]) 1

def downloadAccepted (name : Bytes) : Accepted := ⟨.download, name, ⟨1, 1024, imagesServer, str "/data"⟩, some 1024⟩

/-- What another download has left behind is taken for the file of this one
when its name ends in the same way. -/
theorem longer_name_disagrees : ∃ n, Run ImageNode.step SnapshotsNew initial [downloadOf (str "b.qcow2")] n ∧
    downloadAccepted (str "b.qcow2") ∈ n.accepted ∧ 1 ∉ n.ended ∧
    ¬ DownloadAgrees (halfCopied (str ".ab.qcow2.Xy12Zq") (str "b.qcow2")) (.calm (str "task")) oneImage n
      (downloadAccepted (str "b.qcow2")) none := by
  have facts : (initial.step (downloadOf (str "b.qcow2"))).any (fun n => n.ended = [] ∧
      n.accepted = [downloadAccepted (str "b.qcow2")] ∧
      n.copyAt .download (str "b.qcow2") = some (downloadAccepted (str "b.qcow2")).copy) = true := by decide +kernel
  obtain ⟨n, ran, rest⟩ := (Option.any_eq_true _ _).mp facts
  obtain ⟨ended, accepted, there⟩ := of_decide_eq_true rest
  have alive : 1 ∉ n.ended := by
    rw [ended]
    exact List.not_mem_nil
  refine ⟨n, .next .start trivial ran, by rw [accepted]; exact List.mem_cons_self, alive, fun agrees => ?_⟩
  have shown :=
    (downloads_reported_iff (a := downloadAccepted (str "b.qcow2")) rfl ⟨rfl, by decide +kernel, by decide⟩ there
    alive).mp agrees.1
  exact absurd shown.1 (by decide +kernel)

end ImageNode

end DbcNode
