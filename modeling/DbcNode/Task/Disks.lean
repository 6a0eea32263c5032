import DbcNode.Task.Create

namespace DbcNode.Host

/-- A call that ends with an error that is returned. -/
def fail (error : Bytes) : Call Bytes := Prog.throwing error

/-- A request that is accepted: its event waits in the queue. -/
def queued (event : TaskEvent) : Call Bytes := fun h => (.ok (str "ok"), h.pushTaskEvent event)

def resizeDisk (taskId diskName : Bytes) (sizeK : Int) : Call Bytes := fun h =>
  match h.taskDisks.find taskId with
  | none => fail (str "task have no disk") h
  | some disks =>
    match disks.find diskName with
    | none => fail (str "task have no disk:" ++ diskName) h
    | some disk =>
      if sizeK ≤ 0 then fail (str "size is invalid (usage: size > 0)") h
      else if h.getDomainStatus taskId ≠ .shutoff then fail (str "please close task first and try again") h
      else queued ⟨taskId, .resizeDisk diskName sizeK disk.sourceFile⟩ h

def addNewDisk (w : World) (taskId : Bytes) (sizeK : Int) (mountDir : Bytes) : Call Bytes := fun h =>
  match h.taskDisks.find taskId with
  | none => fail (str "task have no disk") h
  | some _ =>
    if sizeK ≤ 0 then fail (str "size is invalid (usage: size > 0)") h
    else if mountDir = [] ∨ w.mountExists mountDir = false then
      fail (str "not exist mount directory: " ++ mountDir) h
    else if h.getDomainStatus taskId ≠ .shutoff then fail (str "please close task first and try again") h
    else if w.mountFree mountDir ≤ 1024 * 1024 then
      fail (str "mount directory:" ++ mountDir ++ str " have no enough space") h
    else queued ⟨taskId, .addDisk sizeK mountDir⟩ h

def deleteDisk (taskId diskName : Bytes) : Call Bytes := fun h =>
  match h.taskDisks.find taskId with
  | none => fail (str "task no disk") h
  | some disks =>
    match disks.find diskName with
    | none => fail (str "task have no disk:" ++ diskName) h
    | some _ =>
      if h.getDomainStatus taskId ≠ .shutoff then fail (str "please close task first and try again") h
      else if diskName = str "vda" then fail (str "can not allowed to delete disk:'vda'") h
      else queued ⟨taskId, .deleteDisk diskName⟩ h

def getSnapshot (taskId snapshotName : Bytes) (h : Host) : Option Snapshot :=
  (h.taskSnapshots.find taskId).bind (fun info => info.snapshots.find? (fun snapshot => snapshot.name =
    snapshotName))

/-- `addSnapshot` and the status that follows it. -/
def addSnapshot (taskId : Bytes) (snapshot : Snapshot) (h : Host) : Host :=
  let info := (h.taskSnapshots.find taskId).getD ⟨[], .empty⟩
  let info : SnapshotInfo := ⟨info.snapshots ++ [snapshot], info.status.insert snapshot.name .creating⟩
  { h with taskSnapshots := h.taskSnapshots.insert taskId info }

def createAndUploadSnapshot (w : World) (taskId snapshotName desc : Bytes) : Call Bytes := fun h =>
  match h.taskDisks.find taskId with
  | none => fail (str "task have no disk") h
  | some disks =>
    match disks.find (str "vda") with
    | none => fail (str "task have no disk:'vda'") h
    | some disk =>
      if h.getDomainStatus taskId ≠ .shutoff then fail (str "please close task first and try again") h
      else
        let root := ((h.taskInfos.find taskId).map (·.vdaRootBackfile)).getD []
        let file := str "/tmp/dbc_snapshots/" ++ w.newSnapshotFile
        if root = [] then fail (str "not found vda's root backfile") h
        else queued ⟨taskId, .createSnapshot snapshotName root disk.sourceFile file⟩
          (h.addSnapshot taskId ⟨snapshotName, file, w.time, desc⟩)

/-- `delSnapshot`: the first snapshot of that name, and its status. -/
def delSnapshot (snapshotName : Bytes) (info : SnapshotInfo) : SnapshotInfo :=
  ⟨info.snapshots.eraseP (fun snapshot => snapshot.name = snapshotName), info.status.erase snapshotName⟩

def terminateUploadSnapshot (taskId snapshotName : Bytes) (h : Host) : Host :=
  match h.taskSnapshots.find taskId, h.getSnapshot taskId snapshotName with
  | some info, some snapshot =>
    let h := h.removeFile snapshot.file
    { h with taskSnapshots := h.taskSnapshots.insert taskId (delSnapshot snapshotName info) }
  | _, _ => h

def setSnapshotStatus (taskId snapshotName : Bytes) (status : SnapshotStatus) : Call Unit := fun h =>
  match h.taskSnapshots.find taskId with
  | none => (.error .asserted, h)
  | some info =>
    let info := { info with status := info.status.insert snapshotName status }
    (.ok (), { h with taskSnapshots := h.taskSnapshots.insert taskId info })

/-- The disks of a task are forgotten, and then their files are removed. -/
def delDisks (taskId : Bytes) (h : Host) : Host :=
  (h.listDisks taskId).values.foldl (fun h disk => h.removeFile disk.sourceFile)
    { h with taskDisks := h.taskDisks.erase taskId }

def delSnapshots (taskId : Bytes) (h : Host) : Host :=
  match h.taskSnapshots.find taskId with
  | none => h
  | some info => info.snapshots.foldl (fun h snapshot => h.removeFile snapshot.file)
      { h with taskSnapshots := h.taskSnapshots.erase taskId }

section Process
variable (w : World)

def processResizeDisk (taskId diskName : Bytes) (h : Host) : Host :=
  match (h.listDisks taskId).find diskName with
  | none => h
  | some disk =>
    let disks := (h.listDisks taskId).insert diskName { disk with virtualSize := w.diskVirtualSize }
    { h with taskDisks := h.taskDisks.insert taskId disks }

/-- The name after the one of the last disk. A task without disks has
none. -/
def nextDiskName (taskId : Bytes) (h : Host) : Option Bytes :=
  (h.listDisks taskId).values.getLast?.map (fun disk => str "vd" ++ [disk.name.getLastD 0 + 1])

def processAddDisk (taskId : Bytes) (sizeK : Int) (mountDir : Bytes) : Call Unit := fun h =>
  match h.nextDiskName taskId with
  | none => (.error .asserted, h)
  | some diskName =>
    let sourceFile := mountDir ++ str "/" ++ w.newDataDisk
    match (h.writeImage sourceFile []).attachDisk w taskId diskName sourceFile with
    | (some _, h) => (.ok (), h.removeFile sourceFile)
    | (none, h) => (.ok (), h.addDiskInfo taskId ⟨diskName, sizeK * 1024, sourceFile⟩)

def processDeleteDisk (taskId diskName : Bytes) (h : Host) : Host :=
  match h.detachDisk w taskId diskName with
  | (some _, h) => h
  | (none, h) =>
    match (h.listDisks taskId).find diskName with
    | none => h
    | some disk =>
      let h := h.removeFile disk.sourceFile
      { h with taskDisks := h.taskDisks.insert taskId ((h.listDisks taskId).erase diskName) }

def processCreateSnapshot (taskId snapshotName rootBackfile sourceFile snapshotFile : Bytes) : Call Unit := fun h =>
  let h := if h.fileExists sourceFile then h.writeImage snapshotFile rootBackfile else h
  if w.upload then setSnapshotStatus taskId snapshotName .uploading h
  else (.ok (), h.terminateUploadSnapshot taskId snapshotName)

end Process

end DbcNode.Host
