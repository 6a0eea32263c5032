import DbcNode.Task.ShutOff

namespace DbcNode.Host

/-- The two letters of a virtio disk and one more byte. -/
def vd (letter : UInt8) : Bytes := str "vd" ++ [letter]

theorem vd_lt {c d : UInt8} : vd c < vd d ↔ c < d := by
  change [118, 100, c] < [118, 100, d] ↔ c < d
  simp [List.cons_lt_cons_iff]

theorem vd_injective {c d : UInt8} (same : vd c = vd d) : c = d :=
  List.singleton_injective (List.append_cancel_left same)

theorem succ_toNat {c : UInt8} (high : c ≤ 122) : (c + 1).toNat = c.toNat + 1 := by
  rw [UInt8.le_iff_toNat_le] at high
  have ceiling : (122 : UInt8).toNat = 122 := rfl
  rw [UInt8.toNat_add, UInt8.toNat_one]
  omega

/-- Every disk of the task is listed under its own name, "vd" and a
lower-case letter. -/
def Lettered (taskId : Bytes) (h : Host) : Prop :=
  ∀ entry ∈ (h.listDisks taskId).entries, entry.2.name = entry.1 ∧ ∃ c, 97 ≤ c ∧ c ≤ 122 ∧ entry.1 = vd c

/-- An event of a task that changes its disks. -/
inductive DiskEvent
  | add (sizeK : Int) (mountDir : Bytes)
  | delete (diskName : Bytes)

def DiskEvent.process (w : World) (taskId : Bytes) : DiskEvent → Call Unit
  | add sizeK mountDir => processAddDisk w taskId sizeK mountDir
  | delete diskName => Prog.update (processDeleteDisk w taskId diskName)

variable {w : World} {taskId : Bytes} {h : Host}

@[simp] theorem removeFile_taskDisks (path : Bytes) : (h.removeFile path).taskDisks = h.taskDisks := rfl

@[simp] theorem writeImage_taskDisks (path backing : Bytes) :
    (h.writeImage path backing).taskDisks = h.taskDisks := by
  rw [writeImage]
  split <;> rfl

@[simp] theorem writeImage_domains (path backing : Bytes) : (h.writeImage path backing).domains = h.domains := by
  rw [writeImage]
  split <;> rfl

theorem listDisks_congr {k : Host} (same : k.taskDisks = h.taskDisks) :
    k.listDisks taskId = h.listDisks taskId := by
  rw [listDisks, same, listDisks]

theorem addDiskInfo_listDisks (disk : DiskInfo) : (h.addDiskInfo taskId disk).listDisks taskId =
    if ((h.listDisks taskId).find disk.name).isSome then h.listDisks taskId
    else (h.listDisks taskId).insert disk.name disk := by
  rw [addDiskInfo, listDisks, OrdMap.find_insert_self, Option.getD_some]

/-- libvirt takes a new definition of the domain of the task. -/
def Attachable (w : World) (taskId : Bytes) (h : Host) : Prop :=
  (h.domains.find taskId).isSome ∧ w.defineDomain = true

theorem attachDisk_cases (w : World) (taskId : Bytes) (h : Host) (diskName sourceFile : Bytes) :
    (Attachable w taskId h ∧ ∃ k, h.attachDisk w taskId diskName sourceFile = (none, k) ∧
      k.taskDisks = h.taskDisks) ∨
      (¬ Attachable w taskId h ∧ ∃ error, h.attachDisk w taskId diskName sourceFile = (some error, h)) := by
  unfold attachDisk Attachable
  cases found : h.domains.find taskId with
  | none => exact Or.inr ⟨fun fine => absurd fine.1 (by decide), _, rfl⟩
  | some domain =>
    cases defined : w.defineDomain with
    | false => exact Or.inr ⟨fun fine => absurd fine.2 (by decide), _, rfl⟩
    | true => exact Or.inl ⟨⟨rfl, rfl⟩, _, rfl, rfl⟩

theorem detachDisk_taskDisks (w : World) (taskId : Bytes) (h : Host) (diskName : Bytes) :
    (h.detachDisk w taskId diskName).2.taskDisks = h.taskDisks := by
  unfold detachDisk
  split
  · rfl
  · dsimp only
    split <;> rfl

/-- A new disk is recorded under the name after the last one, where libvirt
takes it and the name is new. -/
theorem processAddDisk_cases (w : World) (taskId : Bytes) (h : Host) (sizeK : Int) (mountDir : Bytes) :
    (h.nextDiskName taskId = none ∧ processAddDisk w taskId sizeK mountDir h = (.error .asserted, h)) ∨
      ∃ name, h.nextDiskName taskId = some name ∧ (processAddDisk w taskId sizeK mountDir h).1 = .ok () ∧
        (¬ Attachable w taskId h ∧ (processAddDisk w taskId sizeK mountDir h).2.taskDisks = h.taskDisks ∨
          Attachable w taskId h ∧ ∃ disk : DiskInfo, disk.name = name ∧
            (processAddDisk w taskId sizeK mountDir h).2.listDisks taskId =
              if ((h.listDisks taskId).find name).isSome then h.listDisks taskId
              else (h.listDisks taskId).insert name disk) := by
  unfold processAddDisk
  cases next : h.nextDiskName taskId with
  | none => exact Or.inl ⟨rfl, rfl⟩
  | some name =>
    refine Or.inr ⟨name, rfl, ?_⟩
    dsimp only
    have same : Attachable w taskId (h.writeImage (mountDir ++ str "/" ++ w.newDataDisk) []) ↔
      Attachable w taskId h := by
      rw [Attachable, Attachable, writeImage_domains]
    rcases attachDisk_cases w taskId (h.writeImage (mountDir ++ str "/" ++ w.newDataDisk) []) name
      (mountDir ++ str "/" ++ w.newDataDisk) with ⟨fine, k, ran, disks⟩ | ⟨refused, error, ran⟩
    · rw [ran]
      refine ⟨rfl, Or.inr ⟨same.mp fine, ⟨name, sizeK * 1024, mountDir ++ str "/" ++ w.newDataDisk⟩, rfl, ?_⟩⟩
      rw [addDiskInfo_listDisks, listDisks_congr (disks.trans (writeImage_taskDisks _ _))]
    · rw [ran]
      exact ⟨rfl, Or.inl ⟨fun fine => refused (same.mpr fine), writeImage_taskDisks _ _⟩⟩

theorem processDeleteDisk_listDisks (w : World) (taskId : Bytes) (h : Host) (diskName : Bytes) :
    (h.processDeleteDisk w taskId diskName).listDisks taskId = h.listDisks taskId ∨
      (h.processDeleteDisk w taskId diskName).listDisks taskId = (h.listDisks taskId).erase diskName := by
  have detached := detachDisk_taskDisks w taskId h diskName
  unfold processDeleteDisk
  split
  · rename_i ran
    rw [ran] at detached
    exact Or.inl (listDisks_congr detached)
  · rename_i ran
    rw [ran] at detached
    rw [listDisks_congr detached]
    split
    · exact Or.inl (listDisks_congr detached)
    · refine Or.inr ?_
      rw [listDisks, OrdMap.find_insert_self, Option.getD_some]
      exact congrArg (fun disks => OrdMap.erase disks diskName) (listDisks_congr detached)

theorem nextDiskName_none : h.nextDiskName taskId = none ↔ (h.listDisks taskId).entries = [] := by
  rw [nextDiskName, Option.map_eq_none_iff, List.getLast?_eq_none_iff, OrdMap.values, List.map_eq_nil_iff]

/-- The last disk of a lettered table has the last letter, and the next name
the one after that. -/
theorem Lettered.next (lettered : Lettered taskId h) {name : Bytes} (next : h.nextDiskName taskId = some name) :
    ∃ c, 97 ≤ c ∧ c ≤ 122 ∧ name = vd (c + 1) ∧ (∃ disk, (h.listDisks taskId).find (vd c) = some disk) ∧
      ∀ d, vd d ∈ (h.listDisks taskId).keys → d ≤ c := by
  obtain ⟨last, found, rfl⟩ := Option.map_eq_some_iff.mp next
  rw [OrdMap.values, List.getLast?_map] at found
  obtain ⟨⟨key, disk⟩, final, rfl⟩ := Option.map_eq_some_iff.mp found
  obtain ⟨front, split⟩ := List.getLast?_eq_some_iff.mp final
  have sorted := (h.listDisks taskId).sorted
  rw [split, List.pairwise_append] at sorted
  have member : (key, disk) ∈ (h.listDisks taskId).entries := by simp [split]
  obtain ⟨named, c, low, high, rfl⟩ := lettered _ member
  have name : disk.name = vd c := named
  refine ⟨c, low, high, ?_, ⟨disk, OrdMap.find_eq_some.mpr member⟩, fun d listed => ?_⟩
  · rw [name]
    rfl
  · obtain ⟨⟨_, other⟩, inside, rfl⟩ := List.mem_map.mp listed
    rw [split] at inside
    rcases List.mem_append.mp inside with earlier | same
    · exact UInt8.le_of_lt (vd_lt.mp (sorted.2.2 _ earlier _ (List.mem_singleton_self _)))
    · have equal : vd d = vd c := congrArg Prod.fst (List.mem_singleton.mp same)
      obtain rfl := vd_injective equal
      exact UInt8.le_refl d

/-- The event is handled, and a disk that it adds gets a new name of two
letters and a lower-case one, or the table of the task stays as it is. -/
def AddsRight (w : World) (taskId : Bytes) (h : Host) : DiskEvent → Prop
  | .delete _ => True
  | .add sizeK mountDir => (processAddDisk w taskId sizeK mountDir h).1 = .ok () ∧
      ((processAddDisk w taskId sizeK mountDir h).2.listDisks taskId = h.listDisks taskId ∨
        ∃ letter disk, 97 ≤ letter ∧ letter ≤ 122 ∧ vd letter ∉ (h.listDisks taskId).keys ∧ disk.name = vd letter ∧
          (processAddDisk w taskId sizeK mountDir h).2.listDisks taskId =
            (h.listDisks taskId).insert (vd letter) disk)

/-- There is a disk when one is added, and "vdz" is free or libvirt refuses
the new disk. -/
def HasLetter (w : World) (taskId : Bytes) (h : Host) : DiskEvent → Prop
  | .delete _ => True
  | .add _ _ => (h.listDisks taskId).entries ≠ [] ∧ (vd 122 ∈ (h.listDisks taskId).keys → ¬ Attachable w taskId h)

instance (w : World) (taskId : Bytes) (h : Host) : (event : DiskEvent) → Decidable (HasLetter w taskId h event)
  | .delete _ => isTrue trivial
  | .add _ _ => inferInstanceAs (Decidable (_ ∧ (_ → ¬ (_ ∧ _))))

section Insert
variable {m : OrdMap Bytes DiskInfo} {c : UInt8} {disk : DiskInfo}

/-- The name after that of the greatest letter is not in the table. -/
theorem next_fresh (high : c ≤ 122) (greatest : ∀ d, vd d ∈ m.keys → d ≤ c) : m.find (vd (c + 1)) = none := by
  cases there : m.find (vd (c + 1)) with
  | none => rfl
  | some disk =>
    have bound := greatest (c + 1) (OrdMap.mem_keys.mpr ⟨disk, there⟩)
    have step := succ_toNat high
    rw [UInt8.le_iff_toNat_le] at bound
    omega

/-- A disk of the name after the greatest letter is a right addition to the
table exactly when that letter is not the last one. -/
theorem insert_next_iff (low : 97 ≤ c) (high : c ≤ 122) (greatest : ∀ d, vd d ∈ m.keys → d ≤ c)
    (named : disk.name = vd (c + 1)) :
    (m.insert (vd (c + 1)) disk = m ∨
      ∃ letter other, 97 ≤ letter ∧ letter ≤ 122 ∧ vd letter ∉ m.keys ∧ other.name = vd letter ∧
        m.insert (vd (c + 1)) disk = m.insert (vd letter) other) ↔ c ≠ 122 := by
  have missing := next_fresh high greatest
  constructor
  · rintro right rfl
    rcases right with same | ⟨letter, other, _, small, _, _, same⟩
    · rw [← same, OrdMap.find_insert_self] at missing
      cases missing
    · have there : (m.insert (vd letter) other).find (vd (122 + 1)) = some disk := by
        rw [← same, OrdMap.find_insert_self]
      rw [OrdMap.find_insert_ne (fun equal => ?_), missing] at there
      · cases there
      · rw [← vd_injective equal] at small
        exact absurd small (by decide)
  · intro below
    have step := succ_toNat high
    have room : c.toNat ≠ 122 := fun same => below (UInt8.toNat_inj.mp same)
    rw [UInt8.le_iff_toNat_le] at low high
    have floor : (97 : UInt8).toNat = 97 := rfl
    have ceiling : (122 : UInt8).toNat = 122 := rfl
    have fresh : vd (c + 1) ∉ m.keys := by
      rintro listed
      obtain ⟨there, found⟩ := OrdMap.mem_keys.mp listed
      rw [missing] at found
      cases found
    refine Or.inr ⟨c + 1, disk, ?_, ?_, fresh, named, rfl⟩
    · rw [UInt8.le_iff_toNat_le]
      omega
    · rw [UInt8.le_iff_toNat_le]
      omega

end Insert

/-- One event: it is right exactly when there is a letter left. -/
theorem Lettered.right_iff (lettered : Lettered taskId h) (event : DiskEvent) :
    AddsRight w taskId h event ↔ HasLetter w taskId h event := by
  cases event with
  | delete diskName => exact Iff.rfl
  | add sizeK mountDir =>
    rcases processAddDisk_cases w taskId h sizeK mountDir with
      ⟨none, ran⟩ | ⟨name, next, ended, result⟩
    · have empty := nextDiskName_none.mp none
      constructor
      · intro right
        rw [AddsRight, ran] at right
        cases right.1
      · intro letter
        exact absurd empty letter.1
    · have some : (h.listDisks taskId).entries ≠ [] := by
        intro empty
        rw [nextDiskName_none.mpr empty] at next
        cases next
      obtain ⟨c, low, high, rfl, ⟨last, found⟩, greatest⟩ := lettered.next next
      rcases result with ⟨refused, same⟩ | ⟨fine, disk, named, result⟩
      · exact iff_of_true ⟨ended, Or.inl (listDisks_congr same)⟩ ⟨some, fun _ => refused⟩
      · rw [next_fresh high greatest, Option.isSome_none, if_neg Bool.false_ne_true] at result
        -- the last letter is in the table just where it is the greatest
        have full : c = 122 ↔ vd 122 ∈ (h.listDisks taskId).keys := by
          constructor
          · rintro rfl
            exact OrdMap.mem_keys.mpr ⟨last, found⟩
          · exact fun listed => UInt8.le_antisymm high (greatest 122 listed)
        rw [AddsRight, HasLetter, result, insert_next_iff low high greatest named, and_iff_right ended,
          and_iff_right some, Ne, full]
        exact ⟨fun outside listed => absurd listed outside, fun free listed => free listed fine⟩

/-- A right event keeps the letters. -/
theorem Lettered.step (lettered : Lettered taskId h) {event : DiskEvent} (right : AddsRight w taskId h event) :
    Lettered taskId (event.process w taskId h).2 := by
  cases event with
  | delete diskName =>
    intro entry member
    change entry ∈ ((h.processDeleteDisk w taskId diskName).listDisks taskId).entries at member
    rcases processDeleteDisk_listDisks w taskId h diskName with same | erased
    · rw [same] at member
      exact lettered entry member
    · rw [erased] at member
      exact lettered entry (List.mem_filter.mp member).1
  | add sizeK mountDir =>
    intro entry member
    change entry ∈ ((processAddDisk w taskId sizeK mountDir h).2.listDisks taskId).entries at member
    rcases right.2 with same | ⟨letter, disk, low, high, _, named, added⟩
    · rw [same] at member
      exact lettered entry member
    · rw [added] at member
      have found := OrdMap.find_eq_some.mpr member
      rw [OrdMap.find_insert] at found
      by_cases new : entry.1 = vd letter
      · rw [if_pos new] at found
        obtain rfl := Option.some.inj found
        exact ⟨named.trans new.symm, letter, low, high, new⟩
      · rw [if_neg new] at found
        exact lettered entry (OrdMap.find_eq_some.mp found)

/-- A state before each event of a list, on the world that the event
meets. -/
def AllAlong (taskId : Bytes) (holds : World → Host → DiskEvent → Prop) : List (World × DiskEvent) → Host → Prop
  | [], _ => True
  | (w, event) :: rest, h => holds w h event ∧ AllAlong taskId holds rest (event.process w taskId h).2

/-- Over every run of events on a task: each disk gets a name of its own
with a lower-case letter as long as each add finds a letter left. Letters
are not used again while a later one is there, and where there is no disk
there is no last name to go on from. -/
theorem names_right_iff (events : List (World × DiskEvent)) (lettered : Lettered taskId h) :
    AllAlong taskId (fun w h event => AddsRight w taskId h event) events h ↔
      AllAlong taskId (fun w h event => HasLetter w taskId h event) events h := by
  induction events generalizing h with
  | nil => exact Iff.rfl
  | cons first rest ih =>
    obtain ⟨w, event⟩ := first
    rw [AllAlong, AllAlong, lettered.right_iff event]
    exact and_congr_right (fun letter => ih (lettered.step ((lettered.right_iff event).mpr letter)))

theorem AllAlong.append {holds : World → Host → DiskEvent → Prop} (events more : List (World × DiskEvent))
    (all : AllAlong taskId holds (events ++ more) h) :
    AllAlong taskId holds more (events.foldl (fun h event => (event.2.process event.1 taskId h).2) h) := by
  induction events generalizing h with
  | nil => exact all
  | cons first rest ih => exact ih all.2

/-- A task that has its system disk. -/
def oneDisk : Host :=
  { Host.empty with
    taskDisks := OrdMap.empty.insert (str "task") (OrdMap.empty.insert (vd 97) ⟨vd 97, 0, str "/data/disk_a.qcow2"⟩)
    domains := OrdMap.empty.insert (str "task")
      ⟨.shutoff, ⟨.empty, [(vd 97, str "/data/disk_a.qcow2")], 0, [], 1, 1, 2, 0⟩,
        ⟨.empty, [(vd 97, str "/data/disk_a.qcow2")], 0, [], 1, 1, 2, 0⟩⟩ }

theorem oneDisk_lettered : Lettered (str "task") oneDisk := by
  intro entry member
  have only : (oneDisk.listDisks (str "task")).entries = [(vd 97, ⟨vd 97, 0, str "/data/disk_a.qcow2"⟩)] := rfl
  rw [only, List.mem_singleton] at member
  rw [member]
  exact ⟨rfl, 97, by decide, by decide, rfl⟩

def addData : World × DiskEvent := (.calm (str "task"), .add 1024 (str "/data"))

def threeDisks : List (World × DiskEvent) :=
  [addData, addData, (.calm (str "task"), .delete (vd 98)), addData]

/-- Two disks come, the first of them goes, and the next one is named after
the last one. -/
theorem three_disks_named :
    AllAlong (str "task") (fun w h event => AddsRight w (str "task") h event) threeDisks oneDisk ∧
      ((threeDisks.foldl (fun h event => (event.2.process event.1 (str "task") h).2) oneDisk).listDisks
        (str "task")).keys = [vd 97, vd 99, vd 100] := by
  refine ⟨(names_right_iff threeDisks oneDisk_lettered).mpr ?_, by decide +kernel⟩
  refine ⟨by decide +kernel, by decide +kernel, by decide +kernel, by decide +kernel, trivial⟩

/-- After twenty-five disks the next one is named with the character after
"z", and where there is no disk the one before the first is looked at. -/
theorem letters_run_out : Lettered (str "task") oneDisk ∧
    ¬ AllAlong (str "task") (fun w h event => AddsRight w (str "task") h event)
      (List.replicate 26 addData) oneDisk ∧
    Lettered (str "task") Host.empty ∧
    ¬ AllAlong (str "task") (fun w h event => AddsRight w (str "task") h event) [addData] Host.empty := by
  have none : Lettered (str "task") Host.empty := fun entry member => (by cases member)
  refine ⟨oneDisk_lettered, fun all => ?_, none, fun all => (none.right_iff addData.2).mp all.1 |>.1 rfl⟩
  obtain ⟨full, run⟩ : ∃ full, full = (List.replicate 25 addData).foldl
      (fun h event => (event.2.process event.1 (str "task") h).2) oneDisk := ⟨_, rfl⟩
  have last : AddsRight addData.1 (str "task") full addData.2 := by
    rw [run]
    exact (AllAlong.append (List.replicate 25 addData) [addData] all).1
  have before : (full.listDisks (str "task")).keys = (List.range 26).map (fun n => vd (97 + UInt8.ofNat n)) := by
    rw [run]
    decide +kernel
  have after : ((addData.2.process addData.1 (str "task") full).2.listDisks (str "task")).keys =
      (List.range 27).map (fun n => vd (97 + UInt8.ofNat n)) := by
    rw [run]
    decide +kernel
  rcases last.2 with same | ⟨letter, disk, low, high, fresh, _, added⟩
  · have keys := after.symm.trans (congrArg OrdMap.keys same)
    rw [before] at keys
    exact absurd (congrArg List.length keys) (by decide)
  · refine fresh ?_
    rw [before]
    have letters : ∀ c : UInt8, 97 ≤ c → c ≤ 122 →
      vd c ∈ (List.range 26).map (fun n => vd (97 + UInt8.ofNat n)) := by
      intro c low high
      rw [UInt8.le_iff_toNat_le] at low high
      have floor : (97 : UInt8).toNat = 97 := rfl
      have ceiling : (122 : UInt8).toNat = 122 := rfl
      refine List.mem_map.mpr ⟨c.toNat - 97, List.mem_range.mpr (by omega), congrArg vd (UInt8.toNat_inj.mp ?_)⟩
      rw [UInt8.toNat_add, UInt8.toNat_ofNat', floor]
      omega
    exact letters letter low high

end DbcNode.Host
