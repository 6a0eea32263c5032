import DbcNode.Lib.Rounding
import DbcNode.Task.FileNames

namespace DbcNode

/-- A copy that `rsync` makes in a process of its own. -/
structure ImageJob (δ : Type) where
  process : Nat
  details : δ

/-- What is kept of a download: the size of the file, the directory and the
server. -/
structure DownloadImageFile where
  size : Int
  localDir : Bytes
  fromServer : ImageServer

structure UploadImageFile where
  size : Int
  toServer : ImageServer

/-- The copies of one direction and the callbacks for their ends, by the
name of the file. -/
structure JobTable (δ γ : Type) where
  jobs : OrdMap Bytes (ImageJob δ)
  callbacks : OrdMap Bytes γ

namespace JobTable
variable {δ γ : Type}

def empty : JobTable δ γ := ⟨.empty, .empty⟩

/-- The end of `download` and of `upload`. A callback that is null is not
recorded. -/
def start (name : Bytes) (job : ImageJob δ) (finishCallback : Option γ) (t : JobTable δ γ) : JobTable δ γ :=
  ⟨t.jobs.insert name job, finishCallback.elim t.callbacks (fun callback => t.callbacks.insert name callback)⟩

def erase (name : Bytes) (t : JobTable δ γ) : JobTable δ γ := ⟨t.jobs.erase name, t.callbacks.erase name⟩

/-- The process of the job of this name. -/
def processAt (name : Bytes) (t : JobTable δ γ) : Option Nat := (t.jobs.find name).map (·.process)

/-- `isDownloading` and `isUploading`. -/
def isActive (name : Bytes) (t : JobTable δ γ) : Bool := (t.jobs.find name).isSome

/-- The loop of `thread_check_handle` over one table, with the result of
each look-up of a callback. The one of a job without a callback is the end
of the map. -/
def checkJobs (running : Nat → Bool) : List (Bytes × ImageJob δ) → JobTable δ γ → List (Option γ) × JobTable δ γ
  | [], t => ([], t)
  | (name, job) :: rest, t =>
    if running job.process then checkJobs running rest t
    else
      let (found, t') := checkJobs running rest (t.erase name)
      (t.callbacks.find name :: found, t')

def check (running : Nat → Bool) (t : JobTable δ γ) : List (Option γ) × JobTable δ γ :=
  checkJobs running t.jobs.entries t

variable {t : JobTable δ γ} {name other : Bytes} {running : Nat → Bool}

theorem find_start_jobs (job : ImageJob δ) (callback : Option γ) :
    (t.start name job callback).jobs.find other = if other = name then some job else t.jobs.find other :=
  OrdMap.find_insert t.jobs name other job

theorem find_start_callbacks (job : ImageJob δ) (callback : Option γ) :
    (t.start name job callback).callbacks.find other =
      if other = name ∧ callback.isSome then callback else t.callbacks.find other := by
  cases callback with
  | none => rw [if_neg (fun wrong => Bool.false_ne_true wrong.2)]; rfl
  | some c =>
    change (t.callbacks.insert name c).find other = _
    rw [OrdMap.find_insert]
    by_cases same : other = name
    · rw [if_pos same, if_pos ⟨same, rfl⟩]
    · rw [if_neg same, if_neg (fun both => same both.1)]

theorem processAt_start (job : ImageJob δ) (callback : Option γ) :
    (t.start name job callback).processAt other = if other = name then some job.process else t.processAt other := by
  rw [processAt, find_start_jobs]
  split <;> rfl

theorem find_erase_jobs : (t.erase name).jobs.find other = if other = name then none else t.jobs.find other :=
  OrdMap.find_erase t.jobs name other

theorem processAt_erase : (t.erase name).processAt other = if other = name then none else t.processAt other := by
  rw [processAt, find_erase_jobs]
  split <;> rfl

theorem find_erase_callbacks :
    (t.erase name).callbacks.find other = if other = name then none else t.callbacks.find other :=
  OrdMap.find_erase t.callbacks name other

/-- The names of the entries that have ended. -/
def endedNames (running : Nat → Bool) (entries : List (Bytes × ImageJob δ)) : List Bytes :=
  (entries.filter (fun entry => !running entry.2.process)).map (·.1)

theorem checkJobs_find {entries : List (Bytes × ImageJob δ)} :
    (∀ other, (checkJobs running entries t).2.jobs.find other =
        if other ∈ endedNames running entries then none else t.jobs.find other) ∧
      ∀ other, (checkJobs running entries t).2.callbacks.find other =
        if other ∈ endedNames running entries then none else t.callbacks.find other := by
  induction entries generalizing t with
  | nil => exact ⟨fun _ => rfl, fun _ => rfl⟩
  | cons entry rest ih =>
    obtain ⟨name, job⟩ := entry
    rw [checkJobs]
    cases runs : running job.process with
    | true =>
      have same : endedNames running ((name, job) :: rest) = endedNames running rest := by simp [endedNames, runs]
      rw [if_pos rfl, same]
      exact ih
    | false =>
      have more : endedNames running ((name, job) :: rest) = name :: endedNames running rest := by
        simp [endedNames, runs]
      rw [if_neg Bool.false_ne_true, more]
      obtain ⟨jobs, callbacks⟩ := @ih (t.erase name)
      refine ⟨fun other => ?_, fun other => ?_⟩
      · dsimp only
        rw [jobs, find_erase_jobs]
        by_cases same : other = name <;> by_cases later : other ∈ endedNames running rest <;> simp [same, later]
      · dsimp only
        rw [callbacks, find_erase_callbacks]
        by_cases same : other = name <;> by_cases later : other ∈ endedNames running rest <;> simp [same, later]

theorem checkJobs_found {entries : List (Bytes × ImageJob δ)} (distinct : (entries.map (·.1)).Nodup) :
    (checkJobs running entries t).1 = (endedNames running entries).map t.callbacks.find := by
  induction entries generalizing t with
  | nil => rfl
  | cons entry rest ih =>
    obtain ⟨name, job⟩ := entry
    obtain ⟨fresh, distinct⟩ := List.nodup_cons.mp distinct
    rw [checkJobs]
    cases runs : running job.process with
    | true =>
      have same : endedNames running ((name, job) :: rest) = endedNames running rest := by simp [endedNames, runs]
      rw [if_pos rfl, same]
      exact ih distinct
    | false =>
      have more : endedNames running ((name, job) :: rest) = name :: endedNames running rest := by
        simp [endedNames, runs]
      rw [if_neg Bool.false_ne_true, more, List.map_cons]
      dsimp only
      rw [ih distinct]
      refine congrArg _ (List.map_congr_left (fun later member => ?_))
      have differs : later ≠ name := by
        rintro rfl
        obtain ⟨entry, inside, rfl⟩ := List.mem_map.mp member
        exact fresh (List.mem_map.mpr ⟨entry, (List.mem_filter.mp inside).1, rfl⟩)
      rw [find_erase_callbacks, if_neg differs]

/-- A name is found to have ended when its job has. -/
theorem mem_endedNames : name ∈ endedNames running t.jobs.entries ↔
    ∃ p, t.processAt name = some p ∧ running p = false := by
  constructor
  · intro member
    obtain ⟨⟨_, job⟩, inside, rfl⟩ := List.mem_map.mp member
    obtain ⟨listed, ended⟩ := List.mem_filter.mp inside
    exact ⟨job.process, by rw [processAt, OrdMap.find_eq_some.mpr listed]; rfl, by simpa using ended⟩
  · rintro ⟨p, at_, ended⟩
    obtain ⟨job, found, rfl⟩ := Option.map_eq_some_iff.mp at_
    exact List.mem_map.mpr
      ⟨(name, job), List.mem_filter.mpr ⟨OrdMap.find_eq_some.mp found, by simpa using ended⟩, rfl⟩

theorem keys_nodup (t : JobTable δ γ) : (t.jobs.entries.map (·.1)).Nodup := by
  refine List.pairwise_map.mpr (t.jobs.sorted.imp (fun {a b} less same => ?_))
  rw [same] at less
  exact Std.Asymm.asymm _ _ less less

theorem endedNames_nodup (running : Nat → Bool) (t : JobTable δ γ) : (endedNames running t.jobs.entries).Nodup :=
  (t.keys_nodup).sublist (List.filter_sublist.map _)

/-- After a round the jobs that still run are left, with their callbacks. -/
theorem check_jobs (name : Bytes) : (t.check running).2.jobs.find name =
    if name ∈ endedNames running t.jobs.entries then none else t.jobs.find name := checkJobs_find.1 name

theorem check_callbacks (name : Bytes) : (t.check running).2.callbacks.find name =
    if name ∈ endedNames running t.jobs.entries then none else t.callbacks.find name := checkJobs_find.2 name

theorem check_processAt (name : Bytes) : (t.check running).2.processAt name =
    if name ∈ endedNames running t.jobs.entries then none else t.processAt name := by
  rw [processAt, check_jobs]
  split <;> rfl

theorem check_found : (t.check running).1 = (endedNames running t.jobs.entries).map t.callbacks.find :=
  checkJobs_found t.keys_nodup

end JobTable

/-- What a progress is made of: the size of a file by the size of the image,
in `double` and then cut down to `float`, or one of the constants `0.0f` and
`1.0f`. -/
inductive Progress
  | quotient (file : Bytes) (part whole : Int)
  | zero
  | one
  deriving DecidableEq

namespace Progress

/-- The number itself. A division by zero gives no finite one, and 0 stands
for it here. -/
def value : Progress → ℚ
  | quotient _ part whole => roundBits 24 (roundBits 53 (roundBits 53 part / roundBits 53 whole))
  | zero => 0
  | one => 1

/-- Where `progress < 1.0f` is false. A quotient by zero is infinite or not
a number, and below 1 only where the part is negative. -/
def isDone : Progress → Bool
  | quotient file part whole => if whole = 0 then 0 ≤ part else 1 ≤ (quotient file part whole).value
  | zero => false
  | one => true

/-- `int(progress * 100)`, which cuts towards zero. -/
def percent (p : Progress) : Int :=
  let scaled := roundBits 24 (p.value * 100)
  if scaled < 0 then ⌈scaled⌉ else ⌊scaled⌋

/-- Rounding calls a copy done a little before its end: from 1 - 2⁻²⁵ - 2⁻⁵⁴
on. -/
theorem isDone_quotient {file : Bytes} {part whole : Nat} (some : 0 < part) (small : part < 2 ^ 53)
    (positive : 0 < whole) (fits : whole < 2 ^ 53) :
    (quotient file part whole).isDone = true ↔ whole * (2 ^ 54 - 2 ^ 29 - 1) ≤ part * 2 ^ 54 := by
  have divided : (0 : ℚ) < (part : ℚ) / whole := by positivity
  have double := roundBits_pos (p := 53) (by norm_num) divided
  have first : roundBits 24 (roundBits 53 ((part : ℚ) / whole)) < 1 ↔
      roundBits 53 ((part : ℚ) / whole) < (2 ^ 53 - 2 ^ 28 : ℤ) / 2 ^ 53 := by
    have reached := roundBits_lt_iff (p := 24) (m := 2 ^ 24) (by norm_num) double (by norm_num) (by norm_num)
      (by norm_num)
    norm_num at reached ⊢
    exact reached
  have second := roundBits_lt_iff (p := 53) (m := 2 ^ 53 - 2 ^ 28) (by norm_num) divided (by norm_num) (by norm_num)
    (by norm_num)
  have bound : (((2 ^ 53 - 2 ^ 28 : ℤ) : ℚ) - 1 / 2) / 2 ^ 53 * whole =
    whole * (2 ^ 54 - 2 ^ 29 - 1 : ℕ) / 2 ^ 54 := by
    norm_num
    ring
  rw [isDone, if_neg (by exact_mod_cast positive.ne'), decide_eq_true_iff, value]
  push_cast
  rw [roundBits_natCast small, roundBits_natCast fits, ← not_lt, ← not_lt, first, second,
    div_lt_iff₀ (by positivity), bound, lt_div_iff₀ (by norm_num)]
  exact not_congr (by exact_mod_cast Iff.rfl)

end Progress

/-- What the commands and the file system show to a request about a copy:
whether `grep` finds a pattern in a line, the lines of `rsync --list-only`
for a server, what `ls -a` prints for a directory, and the sizes of files,
where there are files. -/
structure CopyView where
  grep : Bytes → Bytes → Bool
  listing : ImageServer → List Bytes
  names : Bytes → List Bytes
  fileSize : Bytes → Option Int

/-- The fields of a line for `awk`. -/
def awkFields (line : Bytes) : List Bytes := (line.splitOnP (fun b => b = 32 ∨ b = 9)).filter (· ≠ [])

/-- The line that `CommandQueryImageSize` picks out of a listing: the first
one of a regular file in which `grep` finds the pattern, wherever in the
line that is. -/
def queryLine (grep : Bytes → Bytes → Bool) (pattern : Bytes) (lines : List Bytes) : Option Bytes :=
  (lines.filter (·.head? = some 45)).find? (grep pattern)

/-- The size in a line, read out of `print $5,$2`; the commas are taken out
before. -/
def listedSize (line : Bytes) : Option Int :=
  let printed := (awkFields line).getD 4 [] ++ [32] ++ (awkFields line).getD 1 []
  match splitText 32 printed with
  | _ :: filesize :: _ => some (atoll (filesize.filter (· ≠ 44)))
  | _ => none

/-- `bfs::path::filename`. -/
def filename (path : Bytes) : Bytes :=
  match ((path.splitOn 47).getLast?).getD [] with
  | [] => if path = [] then [] else if path.all (· = 47) then [47] else [46]
  | name => name

/-- `ImageManager`, with callbacks of some type. -/
structure ImageManager (γ : Type) where
  downloads : JobTable DownloadImageFile γ
  uploads : JobTable UploadImageFile γ

namespace ImageManager
variable {γ : Type}

/-- `listed` is the file that the server lists under the name, with its
size. -/
def download (name localDir : Bytes) (fromServer : ImageServer) (listed : Option Int) (process : Nat)
    (finishCallback : Option γ) (m : ImageManager γ) : Except Bytes (ImageManager γ) :=
  if fromServer.ip = [] ∨ fromServer.port = [] ∨ fromServer.modulename = [] then
    .error (str "image server is invalid")
  else match listed with
    | none => .error (str "query image file size failed")
    | some size =>
      .ok { m with downloads := m.downloads.start name ⟨process, size, localDir, fromServer⟩ finishCallback }

def upload (name : Bytes) (toServer : ImageServer) (size : Int) (process : Nat) (finishCallback : Option γ)
    (m : ImageManager γ) : Except Bytes (ImageManager γ) :=
  if toServer.ip = [] ∨ toServer.port = [] ∨ toServer.modulename = [] then .error (str "image server is invalid")
  else .ok { m with uploads := m.uploads.start name ⟨process, size, toServer⟩ finishCallback }

/-- The progress of a job by the size of a file that was found for it, if
one was. -/
def jobProgress (running : Nat → Bool) (process : Nat) (whole : Int) : Option (Bytes × Int) → Progress
  | some (file, part) => .quotient file part whole
  | none => if running process then .zero else .one

/-- The file that a request about a download takes for its temporary one. -/
def downloadFound (v : CopyView) (localDir name : Bytes) : Option Bytes :=
  ((v.names (localDir ++ str "/")).find? (v.grep (str "." ++ name ++ str "."))).filter
    (fun ret => ret ≠ [] ∧ holdsText ret name)

/-- The line that a request about an upload takes for the one of its
temporary file. -/
def uploadFound (v : CopyView) (server : ImageServer) (name : Bytes) : Option Bytes :=
  (queryLine v.grep (str "." ++ filename name ++ str ".") (v.listing server)).filter
    (fun line => (listedSize line).isSome)

/-- `bfs::file_size` throws where there is no file of the name any more. -/
def downloadProgress (running : Nat → Bool) (v : CopyView) (name : Bytes) (m : ImageManager γ) :
    Except Bytes Progress :=
  match m.downloads.jobs.find name with
  | none => .ok .one
  | some job =>
    match downloadFound v job.details.localDir name with
    | none => .ok (jobProgress running job.process job.details.size none)
    | some file =>
      match v.fileSize (job.details.localDir ++ str "/" ++ file) with
      | none => .error (str "boost::filesystem::file_size")
      | some part => .ok (jobProgress running job.process job.details.size (some (file, part)))

def uploadProgress (running : Nat → Bool) (v : CopyView) (name : Bytes) (m : ImageManager γ) : Progress :=
  match m.uploads.jobs.find name with
  | none => .one
  | some job =>
    jobProgress running job.process job.details.size
      ((uploadFound v job.details.toServer name).bind (fun line => (listedSize line).map (line, ·)))

/-- The process that a request ends with the job, where it still runs. -/
def terminated (running : Nat → Bool) {δ : Type} (name : Bytes) (t : JobTable δ γ) : Option Nat :=
  (t.processAt name).filter running

def terminateDownload (name : Bytes) (m : ImageManager γ) : ImageManager γ :=
  { m with downloads := m.downloads.erase name }

def terminateUpload (name : Bytes) (m : ImageManager γ) : ImageManager γ :=
    { m with uploads := m.uploads.erase name }

end ImageManager

end DbcNode
