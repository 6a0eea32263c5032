import DbcNode.Lib.Frame
import DbcNode.Task.Events

namespace DbcNode

/-- What tells which ports of the host a task takes. -/
structure Ports where
  sshPort : UInt16
  rdpPort : UInt16
  vncPort : UInt16
  publicIp : Bytes

def TaskInfo.ports (info : TaskInfo) : Ports := ⟨info.sshPort, info.rdpPort, info.vncPort, info.publicIp⟩

namespace Host

/-- The parts of a node that its operations touch: the records and the
domain of each task, and what belongs to the node as a whole. -/
inductive Part
  | known (taskId : Bytes)
  | info (taskId : Bytes)
  | ports (taskId : Bytes)
  | gpus (taskId : Bytes)
  | disks (taskId : Bytes)
  | snapshots (taskId : Bytes)
  | iptable (taskId : Bytes)
  | defined (taskId : Bytes)
  | state (taskId : Bytes)
  | live (taskId : Bytes)
  | definition (taskId : Bytes)
  | running
  | rents
  | events
  | files
  | nat

def Part.Value : Part → Type
  | .known _ => Bool
  | .info _ => Option TaskInfo × Option DbTaskInfo
  | .ports _ => Option Ports
  | .gpus _ => Option (OrdMap Bytes (List Bytes))
  | .disks _ => Option (OrdMap Bytes DiskInfo)
  | .snapshots _ => Option SnapshotInfo
  | .iptable _ => Option IptableInfo
  | .defined _ => Bool
  | .state _ => Option DomainState
  | .live _ => Option DomainXml
  | .definition _ => Option DomainXml
  | .running => List Bytes
  | .rents => OrdMap Bytes WalletRentTask
  | .events => List TaskEvent
  | .files => OrdMap (List Bytes) ImageFile
  | .nat => List NatCall

def Part.read : (part : Part) → Host → part.Value
  | .known taskId => fun h => (h.taskInfos.find taskId).isSome
  | .info taskId => fun h => (h.taskInfos.find taskId, h.taskDb.find taskId)
  | .ports taskId => fun h => (h.taskInfos.find taskId).map TaskInfo.ports
  | .gpus taskId => fun h => h.taskGpus.find taskId
  | .disks taskId => fun h => h.taskDisks.find taskId
  | .snapshots taskId => fun h => h.taskSnapshots.find taskId
  | .iptable taskId => fun h => h.taskIptables.find taskId
  | .defined taskId => fun h => h.isExistDomain taskId
  | .state taskId => fun h => (h.domains.find taskId).map (·.state)
  | .live taskId => fun h => (h.domains.find taskId).map (·.live)
  | .definition taskId => fun h => (h.domains.find taskId).map (·.definition)
  | .running => fun h => h.runningTasks
  | .rents => fun h => h.walletRentTasks
  | .events => fun h => h.events
  | .files => fun h => h.files
  | .nat => fun h => h.nat

def layout : Layout Host Part := ⟨Part.Value, Part.read⟩

/-- Nothing but these parts of the node changes. -/
abbrev Only (parts : Set Part) (h k : Host) : Prop := layout.ModifiesOnly parts h k

namespace Only
variable {parts more : Set Part} {h k l : Host} {taskId : Bytes}

theorem known (only : Only parts h k) (outside : Part.known taskId ∉ parts) :
    (k.taskInfos.find taskId).isSome = (h.taskInfos.find taskId).isSome := only _ outside

theorem info (only : Only parts h k) (outside : Part.info taskId ∉ parts) :
    k.taskInfos.find taskId = h.taskInfos.find taskId := congrArg Prod.fst (only _ outside)

theorem ports (only : Only parts h k) (outside : Part.ports taskId ∉ parts) :
    (k.taskInfos.find taskId).map TaskInfo.ports = (h.taskInfos.find taskId).map TaskInfo.ports := only _ outside

theorem gpus (only : Only parts h k) (outside : Part.gpus taskId ∉ parts) :
    k.taskGpus.find taskId = h.taskGpus.find taskId := only _ outside

theorem disks (only : Only parts h k) (outside : Part.disks taskId ∉ parts) :
    k.taskDisks.find taskId = h.taskDisks.find taskId := only _ outside

theorem snapshots (only : Only parts h k) (outside : Part.snapshots taskId ∉ parts) :
    k.taskSnapshots.find taskId = h.taskSnapshots.find taskId := only _ outside

theorem iptable (only : Only parts h k) (outside : Part.iptable taskId ∉ parts) :
    k.taskIptables.find taskId = h.taskIptables.find taskId := only _ outside

theorem defined (only : Only parts h k) (outside : Part.defined taskId ∉ parts) :
    k.isExistDomain taskId = h.isExistDomain taskId := only _ outside

theorem state (only : Only parts h k) (outside : Part.state taskId ∉ parts) :
    (k.domains.find taskId).map (·.state) = (h.domains.find taskId).map (·.state) := only _ outside

/-- A state is also the state of something. -/
theorem isExistDomain (only : Only parts h k) (outside : Part.state taskId ∉ parts) :
    k.isExistDomain taskId = h.isExistDomain taskId := by
  have same := congrArg Option.isSome (only.state outside)
  rwa [Option.isSome_map, Option.isSome_map] at same

theorem live (only : Only parts h k) (outside : Part.live taskId ∉ parts) :
    (k.domains.find taskId).map (·.live) = (h.domains.find taskId).map (·.live) := only _ outside

theorem definition (only : Only parts h k) (outside : Part.definition taskId ∉ parts) :
    (k.domains.find taskId).map (·.definition) = (h.domains.find taskId).map (·.definition) := only _ outside

theorem events (only : Only parts h k) (outside : Part.events ∉ parts) : k.events = h.events := only _ outside

theorem files (only : Only parts h k) (outside : Part.files ∉ parts) : k.files = h.files := only _ outside

theorem getDomainStatus (only : Only parts h k) (outside : Part.state taskId ∉ parts) :
    k.getDomainStatus taskId = h.getDomainStatus taskId := congrArg (·.getD .nostate) (only.state outside)

theorem getTaskGpus (only : Only parts h k) (outside : Part.gpus taskId ∉ parts) :
    k.getTaskGpus taskId = h.getTaskGpus taskId := congrArg (·.getD .empty) (only.gpus outside)

end Only

section Records
variable (taskId : Bytes) (h : Host)

theorem isSome_find_insert {α : Type} {m : OrdMap Bytes α} {key : Bytes} {old : α} (found : m.find key = some old)
    (value : α) (other : Bytes) : ((m.insert key value).find other).isSome = (m.find other).isSome := by
  by_cases same : other = key
  · rw [same, OrdMap.find_insert_self, found]
    rfl
  · rw [OrdMap.find_insert_ne same]

theorem setInfo_only (change : TaskInfo → TaskInfo) :
    Only {.info taskId, .ports taskId} h (h.setInfo taskId change) := by
  intro part outside
  unfold setInfo
  split
  · rfl
  · rename_i info found
    cases part with
    | known other => exact isSome_find_insert found _ other
    | info other =>
      have different : other ≠ taskId := fun same => outside (by simp [same])
      exact Prod.ext (OrdMap.find_insert_ne different _ _) rfl
    | ports other =>
      have different : other ≠ taskId := fun same => outside (by simp [same])
      exact congrArg (Option.map TaskInfo.ports) (OrdMap.find_insert_ne different _ _)
    | _ => rfl

/-- A change that is not one of the ports. -/
theorem setInfo_only_info {change : TaskInfo → TaskInfo} (ports : ∀ info, (change info).ports = info.ports) :
    Only {.info taskId} h (h.setInfo taskId change) := by
  intro part outside
  by_cases own : part = .ports taskId
  · subst own
    unfold setInfo
    split
    · rfl
    · rename_i info found
      change Option.map _ (OrdMap.find _ taskId) = Option.map _ (OrdMap.find _ taskId)
      rw [OrdMap.find_insert_self, found, Option.map_some, Option.map_some, ports]
  · exact setInfo_only taskId h change part (by simpa [own] using outside)

theorem setTaskStatus_only (status : TaskStatus) : Only {.info taskId} h (h.setTaskStatus taskId status) :=
  setInfo_only_info taskId h (fun _ => rfl)

theorem settle_only (pending status : TaskStatus) : Only {.info taskId} h (h.settle taskId pending status) := by
  refine setInfo_only_info taskId h (fun info => ?_)
  split <;> rfl

theorem updateInfo_only (change : TaskInfo → TaskInfo) :
    Only {.info taskId, .ports taskId} h (h.updateInfo taskId change) := by
  intro part outside
  unfold updateInfo
  split
  · rfl
  · rename_i info found
    cases part with
    | known other => exact isSome_find_insert found _ other
    | info other =>
      have different : other ≠ taskId := fun same => outside (by simp [same])
      exact Prod.ext (OrdMap.find_insert_ne different _ _) (OrdMap.find_insert_ne different _ _)
    | ports other =>
      have different : other ≠ taskId := fun same => outside (by simp [same])
      exact congrArg (Option.map TaskInfo.ports) (OrdMap.find_insert_ne different _ _)
    | _ => rfl

theorem updateInfo_only_info {change : TaskInfo → TaskInfo} (ports : ∀ info, (change info).ports = info.ports) :
    Only {.info taskId} h (h.updateInfo taskId change) := by
  intro part outside
  by_cases own : part = .ports taskId
  · subst own
    unfold updateInfo
    split
    · rfl
    · rename_i info found
      change Option.map _ (OrdMap.find _ taskId) = Option.map _ (OrdMap.find _ taskId)
      rw [OrdMap.find_insert_self, found, Option.map_some, Option.map_some, ports]
  · exact updateInfo_only taskId h change part (by simpa [own] using outside)

theorem setIptable_only (change : IptableInfo → IptableInfo) :
    Only {.iptable taskId} h (h.setIptable taskId change) := by
  intro part outside
  unfold setIptable
  split
  · rfl
  · cases part with
    | iptable other => exact OrdMap.find_insert_ne (fun same => outside (by simp [same])) _ _
    | _ => rfl

theorem addIptableToSystem_only : Only {.nat} h (h.addIptableToSystem taskId) := by
  intro part outside
  unfold addIptableToSystem
  split
  · rfl
  · cases part with
    | nat => exact (outside rfl).elim
    | _ => rfl

theorem removeIptableFromSystem_only : Only {.nat} h (h.removeIptableFromSystem taskId) := by
  intro part outside
  unfold removeIptableFromSystem
  split
  · rfl
  · cases part with
    | nat => exact (outside rfl).elim
    | _ => rfl

theorem pushTaskEvent_only (event : TaskEvent) : Only {.events} h (h.pushTaskEvent event) := by
  intro part outside
  cases part with
  | events => exact (outside rfl).elim
  | _ => rfl

theorem setGpus_only (gpus : OrdMap Bytes (List Bytes)) :
    Only {.gpus taskId} h { h with taskGpus := h.taskGpus.insert taskId gpus } := by
  intro part outside
  cases part with
  | gpus other => exact OrdMap.find_insert_ne (fun same => outside (by simp [same])) _ _
  | _ => rfl

theorem setDisks_only (disks : OrdMap Bytes DiskInfo) :
    Only {.disks taskId} h { h with taskDisks := h.taskDisks.insert taskId disks } := by
  intro part outside
  cases part with
  | disks other => exact OrdMap.find_insert_ne (fun same => outside (by simp [same])) _ _
  | _ => rfl

theorem setSnapshots_only (info : SnapshotInfo) :
    Only {.snapshots taskId} h { h with taskSnapshots := h.taskSnapshots.insert taskId info } := by
  intro part outside
  cases part with
  | snapshots other => exact OrdMap.find_insert_ne (fun same => outside (by simp [same])) _ _
  | _ => rfl

end Records

section Files
variable (h : Host)

theorem files_only (files : OrdMap (List Bytes) ImageFile) : Only {.files} h { h with files := files } := by
  intro part outside
  cases part with
  | files => exact (outside rfl).elim
  | _ => rfl

theorem removeFile_only (path : Bytes) : Only {.files} h (h.removeFile path) := files_only h _

theorem writeImage_only (path backing : Bytes) : Only {.files} h (h.writeImage path backing) := by
  unfold writeImage
  split
  · exact files_only h _
  · exact .refl h

theorem createImages_only (imageName systemDisk dataDisk : Bytes) :
    Only {.files} h (h.createImages imageName systemDisk dataDisk) := by
  unfold createImages
  dsimp only
  split
  · exact writeImage_only h _ _
  · exact (writeImage_only h _ _).trans (writeImage_only _ _ _)

end Files

section Domains
variable {parts : Set Part} (w : World) (taskId : Bytes) {h : Host}

theorem setDomain_only {domain : Domain} (defined : .defined taskId ∉ parts → h.isExistDomain taskId)
    (state : .state taskId ∉ parts → (h.domains.find taskId).map (·.state) = some domain.state)
    (live : .live taskId ∉ parts → (h.domains.find taskId).map (·.live) = some domain.live)
    (definition : .definition taskId ∉ parts → (h.domains.find taskId).map (·.definition) =
      some domain.definition) :
    Only parts h (h.setDomain taskId domain) := by
  have self : (h.setDomain taskId domain).domains.find taskId = some domain := OrdMap.find_insert_self _ _ _
  have others : ∀ other, other ≠ taskId → (h.setDomain taskId domain).domains.find other = h.domains.find other :=
    fun other different => OrdMap.find_insert_ne different _ _
  intro part outside
  cases part with
  | defined other =>
    change Option.isSome (OrdMap.find _ other) = Option.isSome (OrdMap.find _ other)
    by_cases same : other = taskId
    · subst same
      have existed : (h.domains.find other).isSome := defined outside
      rw [self, existed]
      rfl
    · rw [others other same]
  | state other =>
    change Option.map _ (OrdMap.find _ other) = Option.map _ (OrdMap.find _ other)
    by_cases same : other = taskId
    · subst same
      rw [self, state outside, Option.map_some]
    · rw [others other same]
  | live other =>
    change Option.map _ (OrdMap.find _ other) = Option.map _ (OrdMap.find _ other)
    by_cases same : other = taskId
    · subst same
      rw [self, live outside, Option.map_some]
    · rw [others other same]
  | definition other =>
    change Option.map _ (OrdMap.find _ other) = Option.map _ (OrdMap.find _ other)
    by_cases same : other = taskId
    · subst same
      rw [self, definition outside, Option.map_some]
    · rw [others other same]
  | _ => rfl

/-- A change of one domain that all its parts may take part in. -/
theorem setDomain_only_domain (domain : Domain) :
    Only {.defined taskId, .state taskId, .live taskId, .definition taskId} h (h.setDomain taskId domain) :=
  setDomain_only taskId (fun outside => (outside (by simp)).elim) (fun outside => (outside (by simp)).elim)
    (fun outside => (outside (by simp)).elim) (fun outside => (outside (by simp)).elim)

theorem isExistDomain_of_find {domain : Domain} (found : h.domains.find taskId = some domain) :
    h.isExistDomain taskId := by
  rw [isExistDomain, found]
  rfl

theorem startDomain_only : Only {.state taskId, .live taskId} h (h.startDomain w taskId).2 := by
  unfold startDomain
  split
  · exact .refl h
  · rename_i domain found
    have kept : ∀ changed : Domain, changed.definition = domain.definition →
        Only {.state taskId, .live taskId} h (h.setDomain taskId changed) := by
      intro changed same
      refine setDomain_only taskId (fun _ => isExistDomain_of_find taskId found)
        (fun outside => (outside (by simp)).elim) (fun outside => (outside (by simp)).elim) ?_
      intro _
      rw [found, same]
      rfl
    split
    · split
      · exact kept _ rfl
      · exact .refl h
    · split
      · split
        · exact kept _ rfl
        · exact .refl h
      · exact .refl h

theorem destroyDomain_only : Only {.state taskId} h (h.destroyDomain w taskId).2 := by
  unfold destroyDomain
  split
  · exact .refl h
  · rename_i domain found
    split
    · exact .refl h
    · split
      · refine setDomain_only taskId (fun _ => isExistDomain_of_find taskId found)
          (fun outside => (outside rfl).elim) ?_ ?_
        · intro _
          rw [found]
          rfl
        · intro _
          rw [found]
          rfl
      · exact .refl h

/-- A new definition of a domain does not reach it while it runs. -/
theorem define_only {domain : Domain} (found : h.domains.find taskId = some domain) (xml : DomainXml) :
    Only {.definition taskId} h (h.setDomain taskId { domain with definition := xml }) := by
  refine setDomain_only taskId (fun _ => isExistDomain_of_find taskId found) ?_ ?_
    (fun outside => (outside rfl).elim)
  · intro _
    rw [found]
    rfl
  · intro _
    rw [found]
    rfl

theorem redefineDomain_only (info : TaskInfo) : Only {.definition taskId} h (h.redefineDomain w taskId info).2 := by
  unfold redefineDomain
  split
  · exact .refl h
  · rename_i domain found
    split
    · exact .refl h
    · exact define_only taskId found _

theorem attachDisk_only (diskName sourceFile : Bytes) :
    Only {.definition taskId} h (h.attachDisk w taskId diskName sourceFile).2 := by
  unfold attachDisk
  split
  · exact .refl h
  · rename_i domain found
    dsimp only
    split
    · exact .refl h
    · exact define_only taskId found _

theorem detachDisk_only (diskName : Bytes) : Only {.definition taskId} h (h.detachDisk w taskId diskName).2 := by
  unfold detachDisk
  split
  · exact .refl h
  · rename_i domain found
    dsimp only
    split
    · exact .refl h
    · exact define_only taskId found _

theorem eraseDomain_only :
    Only {.defined taskId, .state taskId, .live taskId, .definition taskId} h
      { h with domains := h.domains.erase taskId } := by
  have others : ∀ other, other ≠ taskId → (h.domains.erase taskId).find other = h.domains.find other := by
    intro other different
    rw [OrdMap.find_erase, if_neg different]
  intro part outside
  cases part with
  | defined other =>
    change Option.isSome (OrdMap.find _ other) = Option.isSome (OrdMap.find _ other)
    rw [others other (fun same => outside (by simp [same]))]
  | state other =>
    change Option.map _ (OrdMap.find _ other) = Option.map _ (OrdMap.find _ other)
    rw [others other (fun same => outside (by simp [same]))]
  | live other =>
    change Option.map _ (OrdMap.find _ other) = Option.map _ (OrdMap.find _ other)
    rw [others other (fun same => outside (by simp [same]))]
  | definition other =>
    change Option.map _ (OrdMap.find _ other) = Option.map _ (OrdMap.find _ other)
    rw [others other (fun same => outside (by simp [same]))]
  | _ => rfl

theorem destroyAndUndefineDomain_only :
    Only {.defined taskId, .state taskId, .live taskId, .definition taskId} h
      (h.destroyAndUndefineDomain w taskId) := by
  unfold destroyAndUndefineDomain
  split
  · exact .refl h
  · extract_lets state
    split
    · exact eraseDomain_only taskId
    · exact setDomain_only_domain taskId _

theorem defineAndCreate_only (info : TaskInfo) (disks : List (Bytes × Bytes)) :
    Only {.defined taskId, .state taskId, .live taskId, .definition taskId} h
      (h.defineAndCreate w taskId info disks).2 := by
  unfold defineAndCreate
  dsimp only
  split
  · exact .refl h
  · split
    · exact setDomain_only_domain taskId _
    · exact setDomain_only_domain taskId _

end Domains

end Host

end DbcNode
