import DbcNode.Lib.Links
import DbcNode.Task.DiskNames
import DbcNode.Task.FileNames

namespace DbcNode.Host

/-- The file that an image names as its backing file. -/
def link (h : Host) (file : List Bytes) : Option (List Bytes) :=
  (h.files.find file).bind (fun image => if image.backing = [] then none else some (resolvePath image.backing))

/-- The files that are held: each disk of a task, by its task and its name,
and the snapshots. -/
inductive Holds (h : Host) : Option (Bytes × Bytes) → List Bytes → Prop
  | disk {taskId name : Bytes} {disk : DiskInfo} (found : (h.listDisks taskId).find name = some disk) :
      Holds h (some (taskId, name)) (resolvePath disk.sourceFile)
  | snapshot {taskId : Bytes} {info : SnapshotInfo} {snapshot : Snapshot}
      (found : h.taskSnapshots.find taskId = some info) (member : snapshot ∈ info.snapshots) :
      Holds h none (resolvePath snapshot.file)

/-- No disk rests on a file that is another disk or a snapshot. -/
def FilesApart (h : Host) : Prop := Apart h.link h.Holds

/-- A file that no disk rests on. -/
def Spare (h : Host) (file : List Bytes) : Prop := ∀ disk top, h.Holds (some disk) top → ¬ RestsOn h.link top file

/-- A spare file that rests on no disk and no snapshot itself. -/
def Unused (h : Host) (file : List Bytes) : Prop :=
  h.Spare file ∧ ∀ holder node, h.Holds holder node → ¬ RestsOn h.link file node

/-- An image may come to a path with this backing file. -/
def MayBack (h : Host) (path backing : Bytes) : Prop :=
  backing ≠ [] → MayLink h.link h.Holds (resolvePath path) (resolvePath backing)

/-- An image may be written, where its backing file is there. -/
def MayWrite (h : Host) (path backing : Bytes) : Prop := h.fileExists backing → h.MayBack path backing

/-- No file is a disk of two tasks. -/
def DisksExclusive (h : Host) : Prop := ∀ first second file,
  h.Holds (some first) file → h.Holds (some second) file → first.1 = second.1

/-- A file that goes was no disk that stays, and no disk that stays rested
on it. -/
def RemovesSpare (h k : Host) : Prop := ∀ file, (h.files.find file).isSome → k.files.find file = none →
  ∀ disk top, k.Holds (some disk) top → ¬ RestsOn h.link top file

theorem FilesApart.exclusive {h : Host} (apart : FilesApart h) : h.DisksExclusive :=
  fun _ _ _ first second => congrArg Prod.fst (apart.alone first second)

/-- A change that touches no image and leaves every file with those that
held it. -/
structure SameFiles (h k : Host) : Prop where
  files : k.files = h.files
  holds : k.Holds = h.Holds

/-- A change that at most forgets disks and snapshots, and removes files
that they held. -/
structure Sheds (h k : Host) : Prop where
  holds : ∀ holder file, k.Holds holder file → h.Holds holder file
  files : ∀ file image, k.files.find file = some image → h.files.find file = some image
  gone : ∀ file, (h.files.find file).isSome → k.files.find file = none →
    ∃ holder, h.Holds holder file ∧ ∀ disk, holder = some disk → ∀ top, ¬ k.Holds (some disk) top

section Changes
variable {parts : Set Part} {h k l : Host}

theorem link_congr (same : k.files = h.files) : k.link = h.link := by
  funext file
  rw [link, same, link]

theorem link_of_files (fewer : ∀ file image, k.files.find file = some image → h.files.find file = some image)
    {file next : List Bytes} (linked : k.link file = some next) : h.link file = some next := by
  obtain ⟨image, found, backed⟩ := Option.bind_eq_some_iff.mp linked
  rw [link, fewer file image found]
  exact backed

theorem Holds.of_find {holder : Option (Bytes × Bytes)} {file : List Bytes} (holds : k.Holds holder file)
    (disks : ∀ taskId name disk, (k.listDisks taskId).find name = some disk →
      ∃ old, (h.listDisks taskId).find name = some old ∧ resolvePath old.sourceFile = resolvePath disk.sourceFile)
    (snapshots : ∀ taskId info, k.taskSnapshots.find taskId = some info →
      ∃ old, h.taskSnapshots.find taskId = some old ∧ ∀ snapshot ∈ info.snapshots, snapshot ∈ old.snapshots) :
    h.Holds holder file := by
  cases holds with
  | disk found =>
    obtain ⟨old, was, same⟩ := disks _ _ _ found
    rw [← same]
    exact .disk was
  | snapshot found member =>
    obtain ⟨old, was, less⟩ := snapshots _ _ found
    exact .snapshot was (less _ member)

theorem Holds.of_same {holder : Option (Bytes × Bytes)} {file : List Bytes} (holds : k.Holds holder file)
    (disks : ∀ taskId, k.taskDisks.find taskId = h.taskDisks.find taskId)
    (snapshots : ∀ taskId, k.taskSnapshots.find taskId = h.taskSnapshots.find taskId) : h.Holds holder file := by
  refine holds.of_find (fun taskId name disk found => ⟨disk, ?_, rfl⟩)
    (fun taskId info found => ⟨info, ?_, fun _ => id⟩)
  · rwa [listDisks, disks taskId] at found
  · rwa [snapshots taskId] at found

theorem holds_congr (disks : ∀ taskId, k.taskDisks.find taskId = h.taskDisks.find taskId)
    (snapshots : ∀ taskId, k.taskSnapshots.find taskId = h.taskSnapshots.find taskId) : k.Holds = h.Holds := by
  funext holder file
  exact propext ⟨fun holds => holds.of_same disks snapshots,
    fun holds => holds.of_same (fun taskId => (disks taskId).symm) (fun taskId => (snapshots taskId).symm)⟩

namespace SameFiles

theorem of_only (only : Only parts h k) (files : .files ∉ parts) (disks : ∀ taskId, .disks taskId ∉ parts)
    (snapshots : ∀ taskId, .snapshots taskId ∉ parts) : SameFiles h k :=
  ⟨only.files files, holds_congr (fun taskId => only.disks (disks taskId))
    (fun taskId => only.snapshots (snapshots taskId))⟩

theorem apart (same : SameFiles h k) (apart : FilesApart h) : FilesApart k := by
  rw [FilesApart, link_congr same.files, same.holds]
  exact apart

theorem removes (same : SameFiles h k) : RemovesSpare h k := by
  intro file present missing
  rw [← same.files, missing] at present
  cases present

theorem before (same : SameFiles h k) (removes : RemovesSpare k l) : RemovesSpare h l := by
  intro file present missing disk top holds
  rw [← same.files] at present
  rw [← link_congr same.files]
  exact removes file present missing disk top holds

theorem after (same : SameFiles k l) (removes : RemovesSpare h k) : RemovesSpare h l := by
  intro file present missing disk top holds
  rw [same.files] at missing
  rw [same.holds] at holds
  exact removes file present missing disk top holds

theorem sheds (same : SameFiles h k) : Sheds h k := by
  refine ⟨fun holder file holds => same.holds ▸ holds, fun file image found => same.files ▸ found, ?_⟩
  intro file present missing
  rw [← same.files, missing] at present
  cases present

end SameFiles

namespace Sheds

theorem trans (first : Sheds h k) (second : Sheds k l) : Sheds h l where
  holds holder file holds := first.holds _ _ (second.holds _ _ holds)
  files file image found := first.files _ _ (second.files _ _ found)
  gone file present missing := by
    cases between : k.files.find file with
    | none =>
      obtain ⟨holder, held, lost⟩ := first.gone file present between
      exact ⟨holder, held, fun disk same top holds => lost disk same top (second.holds _ _ holds)⟩
    | some image =>
      obtain ⟨holder, held, lost⟩ := second.gone file (between ▸ rfl) missing
      exact ⟨holder, first.holds _ _ held, lost⟩

theorem apart (sheds : Sheds h k) (apart : FilesApart h) : FilesApart k :=
  apart.weaken (fun _ _ => link_of_files sheds.files) sheds.holds

/-- What a disk held that is forgotten is spare. -/
theorem removes (sheds : Sheds h k) (apart : FilesApart h) : RemovesSpare h k := by
  intro file present missing disk top holds
  obtain ⟨holder, held, lost⟩ := sheds.gone file present missing
  exact apart disk top (sheds.holds _ _ holds) holder file held (fun same => lost disk same top holds)

end Sheds

end Changes

section Files
variable {h : Host} {path backing : Bytes} {file : List Bytes} {image : ImageFile}

theorem find_removeFile (h : Host) (path : Bytes) (file : List Bytes) :
    (h.removeFile path).files.find file = if file = resolvePath path then none else h.files.find file :=
  OrdMap.find_erase _ _ _

theorem removeFile_files (found : (h.removeFile path).files.find file = some image) :
    h.files.find file = some image := by
  rw [find_removeFile] at found
  split at found
  · cases found
  · exact found

theorem removed_eq (present : (h.files.find file).isSome) (missing : (h.removeFile path).files.find file = none) :
    file = resolvePath path := by
  by_contra different
  rw [find_removeFile, if_neg different] at missing
  rw [missing] at present
  cases present

theorem removeFile_holds (h : Host) (path : Bytes) : (h.removeFile path).Holds = h.Holds :=
  holds_congr (fun _ => rfl) (fun _ => rfl)

theorem FilesApart.removeFile (apart : FilesApart h) (path : Bytes) : FilesApart (h.removeFile path) :=
  apart.weaken (fun _ _ => link_of_files (fun _ _ => removeFile_files))
    (fun _ _ holds => removeFile_holds h path ▸ holds)

/-- Files that are removed one after the other. -/
theorem removeFiles_cases {α : Type} (name : α → Bytes) (items : List α) (h : Host) (file : List Bytes) :
    let k := items.foldl (fun h item => h.removeFile (name item)) h
    (∃ item ∈ items, file = resolvePath (name item)) ∧ k.files.find file = none ∨
      k.files.find file = h.files.find file := by
  induction items generalizing h with
  | nil => exact Or.inr rfl
  | cons item rest ih =>
    rcases ih (h.removeFile (name item)) with ⟨⟨other, member, same⟩, missing⟩ | kept
    · exact Or.inl ⟨⟨other, List.mem_cons_of_mem _ member, same⟩, missing⟩
    · rw [find_removeFile] at kept
      split at kept
      · rename_i same
        exact Or.inl ⟨⟨item, List.mem_cons_self, same⟩, kept⟩
      · exact Or.inr kept

theorem writeImage_holds (h : Host) (path backing : Bytes) : (h.writeImage path backing).Holds = h.Holds :=
  holds_congr (fun _ => (writeImage_only h path backing).disks (by simp))
    (fun _ => (writeImage_only h path backing).snapshots (by simp))

/-- A file that is written is there, and all others stay. -/
theorem writeImage_keeps (missing : (h.writeImage path backing).files.find file = none) :
    h.files.find file = none := by
  unfold writeImage at missing
  split at missing
  · rw [OrdMap.find_insert] at missing
    split at missing
    · cases missing
    · exact missing
  · exact missing

theorem insertFile_link (h : Host) (path backing : Bytes) :
    (∀ other, other ≠ resolvePath path →
      ({ h with files := h.files.insert (resolvePath path) ⟨backing⟩ } : Host).link other = h.link other) ∧
    ({ h with files := h.files.insert (resolvePath path) ⟨backing⟩ } : Host).link (resolvePath path) =
      if backing = [] then none else some (resolvePath backing) := by
  constructor
  · intro other different
    rw [link, OrdMap.find_insert_ne different, link]
  · rw [link, OrdMap.find_insert_self]
    rfl

theorem FilesApart.insertFile (apart : FilesApart h) (may : h.MayBack path backing) :
    FilesApart { h with files := h.files.insert (resolvePath path) ⟨backing⟩ } := by
  obtain ⟨others, own⟩ := insertFile_link h path backing
  have holds : ({ h with files := h.files.insert (resolvePath path) ⟨backing⟩ } : Host).Holds = h.Holds :=
    holds_congr (fun _ => rfl) (fun _ => rfl)
  rw [FilesApart, holds]
  refine apart.relink others (fun next linked => ?_)
  rw [own] at linked
  split at linked
  · cases linked
  · rename_i backed
    rw [← Option.some.inj linked]
    exact may backed

theorem MayBack.of_empty (h : Host) (path : Bytes) : h.MayBack path [] := fun backed => (backed rfl).elim

theorem FilesApart.writeImage (apart : FilesApart h) (may : h.MayWrite path backing) :
    FilesApart (h.writeImage path backing) := by
  unfold Host.writeImage
  split
  · rename_i written
    rcases written with rfl | present
    · exact apart.insertFile (.of_empty h path)
    · exact apart.insertFile (may present)
  · exact apart

end Files

section Removal
variable {w : World} {taskId : Bytes} {h k : Host}

theorem listDisks_of_values {disk : DiskInfo} (member : disk ∈ (h.listDisks taskId).values) :
    ∃ name, (h.listDisks taskId).find name = some disk := by
  obtain ⟨⟨name, _⟩, inside, rfl⟩ := List.mem_map.mp member
  exact ⟨name, OrdMap.find_eq_some.mpr inside⟩

theorem delDisks_sheds (taskId : Bytes) (h : Host) : Sheds h (h.delDisks taskId) := by
  have only := delDisks_only taskId h
  have none' := delDisks_find taskId h
  have less : ∀ holder file, (h.delDisks taskId).Holds holder file → h.Holds holder file := by
    intro holder file holds
    refine holds.of_find (fun other name disk found => ?_) (fun other info found => ?_)
    · by_cases own : other = taskId
      · rw [own, listDisks, none'] at found
        cases found
      · rw [listDisks, only.disks (by simpa using own)] at found
        exact ⟨disk, found, rfl⟩
    · rw [only.snapshots (by simp)] at found
      exact ⟨info, found, fun _ => id⟩
  have removed := removeFiles_cases DiskInfo.sourceFile (h.listDisks taskId).values
    { h with taskDisks := h.taskDisks.erase taskId }
  refine ⟨less, fun file image found => ?_, fun file present missing => ?_⟩
  · rcases removed file with ⟨_, missing⟩ | kept
    · rw [delDisks, missing] at found
      cases found
    · rw [delDisks, kept] at found
      exact found
  · rcases removed file with ⟨⟨disk, member, rfl⟩, _⟩ | kept
    · obtain ⟨name, found⟩ := listDisks_of_values member
      refine ⟨_, .disk found, fun other same top holds => ?_⟩
      cases same
      cases holds with
      | disk later =>
        rw [listDisks, none'] at later
        cases later
    · rw [delDisks, kept] at missing
      change h.files.find file = none at missing
      rw [missing] at present
      cases present

theorem delSnapshots_sheds (taskId : Bytes) (h : Host) : Sheds h (h.delSnapshots taskId) := by
  have only := delSnapshots_only taskId h
  have none' := delSnapshots_find taskId h
  have less : ∀ holder file, (h.delSnapshots taskId).Holds holder file → h.Holds holder file := by
    intro holder file holds
    refine holds.of_find (fun other name disk found => ?_) (fun other info found => ?_)
    · rw [listDisks, only.disks (by simp)] at found
      exact ⟨disk, found, rfl⟩
    · by_cases own : other = taskId
      · rw [own, none'] at found
        cases found
      · rw [only.snapshots (by simpa using own)] at found
        exact ⟨info, found, fun _ => id⟩
  cases known : h.taskSnapshots.find taskId with
  | none =>
    rw [delSnapshots, known]
    exact (SameFiles.mk rfl rfl).sheds
  | some info =>
    have removed :=
      removeFiles_cases Snapshot.file info.snapshots { h with taskSnapshots := h.taskSnapshots.erase taskId }
    refine ⟨less, fun file image found => ?_, fun file present missing => ?_⟩
    · rcases removed file with ⟨_, missing⟩ | kept
      · simp only [delSnapshots, known, missing] at found
        cases found
      · simp only [delSnapshots, known, kept] at found
        exact found
    · rcases removed file with ⟨⟨snapshot, member, rfl⟩, _⟩ | kept
      · exact ⟨none, .snapshot known member, fun _ same => (by cases same)⟩
      · simp only [delSnapshots, known, kept] at missing
        rw [missing] at present
        cases present

theorem destroyTask_sheds (w : World) (taskId : Bytes) (h : Host) : Sheds h (h.destroyTask w taskId) := by
  have stopped : Sheds h (h.destroyAndUndefineDomain w taskId) :=
    (SameFiles.of_only (destroyAndUndefineDomain_only w taskId) (by simp) (by simp) (by simp)).sheds
  by_cases known : (h.taskInfos.find taskId).isSome
  · rw [destroyTask_eq w taskId h known]
    have noInfo := stopped.trans (SameFiles.of_only (delInfo_only taskId _) (by simp) (by simp) (by simp)).sheds
    have noGpus := noInfo.trans (SameFiles.of_only (delGpus_only taskId _) (by simp) (by simp) (by simp)).sheds
    have noDisks := noGpus.trans (delDisks_sheds taskId _)
    have noSnapshots := noDisks.trans (delSnapshots_sheds taskId _)
    have closed := noSnapshots.trans
      (SameFiles.of_only (removeIptableFromSystem_only taskId _) (by simp) (by simp) (by simp)).sheds
    have noIptable :=
      closed.trans (SameFiles.of_only (delIptable_only taskId _) (by simp) (by simp) (by simp)).sheds
    exact noIptable.trans (SameFiles.of_only (delRentTask_only taskId _) (by simp) (by simp) (by simp)).sheds
  · rw [destroyTask_eq_of_unknown w taskId h (Option.not_isSome_iff_eq_none.mp known)]
    exact stopped

theorem processDeleteTask_sheds (w : World) (taskId : Bytes) (h : Host) :
    Sheds h (h.processDeleteTask w taskId) := by
  unfold processDeleteTask
  split
  · exact (SameFiles.mk rfl rfl).sheds
  · exact destroyTask_sheds w taskId h

/-- A disk that is forgotten while its file goes. -/
theorem forgetDisk_sheds {name : Bytes} {disk : DiskInfo} (found : (h.listDisks taskId).find name = some disk) :
    Sheds h { h.removeFile disk.sourceFile with
      taskDisks := h.taskDisks.insert taskId ((h.listDisks taskId).erase name) } := by
  have own : ∀ k : Host, k.taskDisks = h.taskDisks.insert taskId ((h.listDisks taskId).erase name) →
      k.listDisks taskId = (h.listDisks taskId).erase name := by
    intro k disks
    rw [listDisks, disks, OrdMap.find_insert_self, Option.getD_some]
  refine ⟨fun holder file holds => ?_, fun file image kept => removeFile_files kept, fun file present missing => ?_⟩
  · refine holds.of_find (fun other key later present => ?_)
      (fun other info present => ⟨info, present, fun _ => id⟩)
    by_cases same : other = taskId
    · rw [same, own _ rfl, OrdMap.find_erase] at present
      split at present
      · cases present
      · exact ⟨later, same ▸ present, rfl⟩
    · rw [listDisks, OrdMap.find_insert_ne same] at present
      exact ⟨later, present, rfl⟩
  · refine ⟨some (taskId, name), ?_, fun holder same top holds => ?_⟩
    · rw [removed_eq present missing]
      exact .disk found
    cases same
    cases holds with
    | disk later =>
      rw [own _ rfl, OrdMap.find_erase, if_pos rfl] at later
      cases later

theorem processDeleteDisk_sheds (w : World) (taskId diskName : Bytes) (h : Host) :
    Sheds h (h.processDeleteDisk w taskId diskName) := by
  have detached : Sheds h (h.detachDisk w taskId diskName).2 :=
    (SameFiles.of_only (detachDisk_only w taskId diskName) (by simp) (by simp) (by simp)).sheds
  unfold processDeleteDisk
  split
  · rename_i ran
    rw [ran] at detached
    exact detached
  · rename_i l ran
    rw [ran] at detached
    split
    · exact detached
    · rename_i disk found
      exact detached.trans (forgetDisk_sheds found)

theorem terminateUploadSnapshot_sheds (taskId snapshotName : Bytes) (h : Host) :
    Sheds h (h.terminateUploadSnapshot taskId snapshotName) := by
  unfold terminateUploadSnapshot
  split
  · rename_i info snapshot known found
    have member : snapshot ∈ info.snapshots := by
      rw [getSnapshot, known] at found
      exact List.mem_of_find?_eq_some found
    refine ⟨fun holder file holds => ?_, fun file image kept => removeFile_files kept,
      fun file present missing => ?_⟩
    · refine holds.of_find (fun other name disk present => ⟨disk, present, rfl⟩) (fun other later present => ?_)
      change (h.taskSnapshots.insert taskId (delSnapshot snapshotName info)).find other = some later at present
      rw [OrdMap.find_insert] at present
      split at present
      · rename_i same
        cases present
        exact ⟨info, same ▸ known, fun _ inside => List.mem_of_mem_eraseP inside⟩
      · exact ⟨later, present, fun _ => id⟩
    · refine ⟨none, ?_, fun _ same => (by cases same)⟩
      rw [removed_eq present missing]
      exact .snapshot known member
  · exact (SameFiles.mk rfl rfl).sheds

/-- The snapshots stay the same ones. -/
theorem setSnapshotStatus_sheds (taskId snapshotName : Bytes) (status : SnapshotStatus) (h : Host) :
    Sheds h (setSnapshotStatus taskId snapshotName status h).2 := by
  unfold setSnapshotStatus
  split
  · exact (SameFiles.mk rfl rfl).sheds
  · rename_i info known
    refine ⟨fun holder file holds => ?_, fun _ _ => id, fun file present missing => ?_⟩
    · refine holds.of_find (fun other name disk present => ⟨disk, present, rfl⟩) (fun other later present => ?_)
      change (h.taskSnapshots.insert taskId _).find other = some later at present
      rw [OrdMap.find_insert] at present
      split at present
      · rename_i same
        cases present
        exact ⟨info, same ▸ known, fun _ => id⟩
      · exact ⟨later, present, fun _ => id⟩
    · change h.files.find file = none at missing
      rw [missing] at present
      cases present

/-- A disk that grows keeps its file. -/
theorem processResizeDisk_sheds (w : World) (taskId diskName : Bytes) (h : Host) :
    Sheds h (h.processResizeDisk w taskId diskName) := by
  unfold processResizeDisk
  split
  · exact (SameFiles.mk rfl rfl).sheds
  · rename_i disk known
    refine ⟨fun holder file holds => ?_, fun _ _ => id, fun file present missing => ?_⟩
    · refine holds.of_find (fun other name later present => ?_)
        (fun other info present => ⟨info, present, fun _ => id⟩)
      rw [listDisks, OrdMap.find_insert] at present
      split at present
      · rename_i same
        rw [Option.getD_some, OrdMap.find_insert] at present
        split at present
        · rename_i named
          cases present
          exact ⟨disk, by rw [same, named, known], rfl⟩
        · exact ⟨later, same ▸ present, rfl⟩
      · exact ⟨later, present, rfl⟩
    · change h.files.find file = none at missing
      rw [missing] at present
      cases present

end Removal

end DbcNode.Host
