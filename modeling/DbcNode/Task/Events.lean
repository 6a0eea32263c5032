import DbcNode.Task.Requests

namespace DbcNode

namespace Host

section Stop
variable (w : World)

def closeTask (taskId : Bytes) (h : Host) : Host :=
  if h.getDomainStatus taskId = .shutoff then h
  else match h.destroyDomain w taskId with
    | (false, h) => h
    | (true, h) => (h.setTaskStatus taskId .shutoff).removeIptableFromSystem taskId

/-- `TaskInfoManager::del`. -/
def delInfo (taskId : Bytes) (h : Host) : Host :=
  { h with taskInfos := h.taskInfos.erase taskId, taskDb := h.taskDb.erase taskId }

def delGpus (taskId : Bytes) (h : Host) : Host := { h with taskGpus := h.taskGpus.erase taskId }

def delIptable (taskId : Bytes) (h : Host) : Host := { h with taskIptables := h.taskIptables.erase taskId }

/-- The records of a task go only where the task is still known. -/
def destroyTask (taskId : Bytes) (h : Host) : Host :=
  let h := h.destroyAndUndefineDomain w taskId
  match h.taskInfos.find taskId with
  | none => h
  | some _ => (((((((h.delInfo taskId).delGpus taskId).delDisks taskId).delSnapshots taskId).removeIptableFromSystem
      taskId).delIptable taskId).delRentTask taskId)

end Stop

section Process
variable (w : World)

def createTaskIptable (taskId : Bytes) (info : TaskInfo) (localIp : Bytes) (h : Host) : Bool × Host :=
  if w.defaultRouteIp ≠ [] ∧ localIp ≠ [] then
    let iptable : IptableInfo :=
      ⟨taskId, w.defaultRouteIp, localIp, info.sshPort, info.rdpPort, info.customPort, info.publicIp⟩
    (true, { h with taskIptables := h.taskIptables.insert taskId iptable })
  else (false, h)

def loginUser (info : TaskInfo) : Bytes := if isLinuxOs info.operationSystem then str "dbc" else str "Administrator"

/-- The user of a new domain gets its password. -/
def setLogin (taskId : Bytes) (info : TaskInfo) (h : Host) : Host :=
  match w.setUserPassword with
  | some _ => h.setInfo taskId (fun info => { info with loginPassword := str "N/A", loginUsername := str "N/A" })
  | none => h.setInfo taskId (fun other => { other with loginUsername := loginUser info })

/-- A domain without an address is stopped again. -/
def openNetwork (taskId : Bytes) (info : TaskInfo) (h : Host) : Bool × Host :=
  match h.createTaskIptable w taskId info w.domainLocalIp with
  | (true, h) => (true, h)
  | (false, h) => (false, (h.destroyDomain w taskId).2)

def processCreateTask (taskId biosMode : Bytes) : Call Unit := fun h =>
  match h.taskInfos.find taskId with
  | none => (.ok (), h)
  | some info =>
    if w.defineNwfilter = false then (.ok (), h.settle taskId .creating .createTaskError)
    else match createDomain w taskId info h with
      | (.error stopped, h) => (.error stopped, h)
      | (.ok false, h) => (.ok (), h.settle taskId .creating .createTaskError)
      | (.ok true, h) =>
        if biosMode = str "pxe" then (.ok (), h.settle taskId .creating .running)
        else match h.openNetwork w taskId info with
          | (false, h) => (.ok (), h.settle taskId .creating .createTaskError)
          | (true, h) =>
              (.ok (), ((h.addIptableToSystem taskId).setLogin w taskId info).settle taskId .creating .running)

/-- A task that was created without an address gets one when it starts. -/
def processStartTask (taskId : Bytes) (h : Host) : Host :=
  match h.taskInfos.find taskId with
  | none => h
  | some info =>
    match h.startDomain w taskId with
    | (false, h) => h.settle taskId .starting .startTaskError
    | (true, h) =>
      if info.biosMode ≠ str "pxe" ∧ (h.taskIptables.find taskId).isNone then
        match h.openNetwork w taskId info with
        | (false, h) => h.settle taskId .starting .startTaskError
        | (true, h) => (h.settle taskId .starting .running).addIptableToSystem taskId
      else (h.settle taskId .starting .running).addIptableToSystem taskId

/-- The system disk of a task that was shut off has its root file looked
up. -/
def recordRootBackfile (taskId : Bytes) (info : TaskInfo) : Call Unit := fun h =>
  if info.biosMode = str "pxe" ∨ info.vdaRootBackfile ≠ [] then (.ok (), h)
  else match h.rootBackfile h.chainRounds (str "/data/" ++ info.imageName) with
    | .error stopped => (.error stopped, h)
    | .ok root => (.ok (), h.updateInfo taskId (fun info => { info with vdaRootBackfile := root }))

/-- `process_shutdown_task` and `process_poweroff_task`, with the status
that the task is in and the one that says that it failed. -/
def processStop (taskId : Bytes) (pending failed : TaskStatus) : Call Unit := fun h =>
  match h.taskInfos.find taskId with
  | none => (.ok (), h)
  | some info =>
    match h.destroyDomain w taskId with
    | (false, h) => (.ok (), h.settle taskId pending failed)
    | (true, h) =>
        recordRootBackfile taskId info ((h.settle taskId pending .shutoff).removeIptableFromSystem taskId)

def processShutdownTask (taskId : Bytes) : Call Unit := processStop w taskId .beingShutdown .shutdownTaskError

def processPoweroffTask (taskId : Bytes) : Call Unit := processStop w taskId .beingPoweroff .poweroffTaskError

/-- The end of a restart. -/
def restarted (taskId : Bytes) (done : Bool) (h : Host) : Host :=
  if done then (h.settle taskId .restarting .running).addIptableToSystem taskId
  else h.settle taskId .restarting .restartTaskError

def processRestartTask (taskId : Bytes) (h : Host) : Host :=
  match h.taskInfos.find taskId with
  | none => h
  | some _ =>
    if h.getDomainStatus taskId = .shutoff then
      let (done, h) := h.startDomain w taskId
      h.restarted taskId done
    else if h.getDomainStatus taskId = .running then h.restarted taskId (h.rebootDomain w taskId)
    else h

def processForceRebootTask (taskId : Bytes) (h : Host) : Host :=
  match h.taskInfos.find taskId with
  | none => h
  | some _ =>
    if h.getDomainStatus taskId = .shutoff then
      let (done, h) := h.startDomain w taskId
      h.restarted taskId done
    else match h.destroyDomain w taskId with
      | (false, h) => h.restarted taskId false
      | (true, h) =>
        let (done, h) := h.startDomain w taskId
        h.restarted taskId done

def processResetTask (taskId : Bytes) (h : Host) : Host :=
  match h.taskInfos.find taskId with
  | none => h
  | some _ =>
    if h.resetDomain w taskId then h.settle taskId .resetting .running
    else h.settle taskId .resetting .resetTaskError

def processDeleteTask (taskId : Bytes) (h : Host) : Host :=
  match h.taskInfos.find taskId with
  | none => h
  | some _ => h.destroyTask w taskId

def updateRunningTasks (h : Host) : Host :=
  { h with runningTasks := (h.taskInfos.values.filter (fun info => info.taskStatus = .running)).map (·.taskId) }

/-- What the kind of an event calls. -/
def processJob (taskId : Bytes) : TaskJob → Call Unit
  | .createTask biosMode => processCreateTask w taskId biosMode
  | .startTask => Prog.update (processStartTask w taskId)
  | .shutdownTask => processShutdownTask w taskId
  | .powerOffTask => processPoweroffTask w taskId
  | .reStartTask => Prog.update (processRestartTask w taskId)
  | .forceRebootTask => Prog.update (processForceRebootTask w taskId)
  | .resetTask => Prog.update (processResetTask w taskId)
  | .deleteTask => Prog.update (processDeleteTask w taskId)
  | .resizeDisk diskName _ _ => Prog.update (processResizeDisk w taskId diskName)
  | .addDisk sizeK mountDir => processAddDisk w taskId sizeK mountDir
  | .deleteDisk diskName => Prog.update (processDeleteDisk w taskId diskName)
  | .createSnapshot snapshotName rootBackfile sourceFile snapshotFile =>
    processCreateSnapshot w taskId snapshotName rootBackfile sourceFile snapshotFile

def processTask (event : TaskEvent) : Call Unit := do
  processJob w event.taskId event.job
  Prog.update updateRunningTasks

end Process

end Host

/-- What happens on a compute node: requests that were authorised, the
events in their queue, the tasks that checks and the pruning stop or delete,
and what is not up to the task manager. -/
inductive HostEvent
  | create (wallet : Bytes) (additional : Option Json) (rentEnd : Int) (role : UserRole)
  | request (wallet : Bytes) (request : TaskRequest)
  | deleteImage (additional : Json)
  | process
  | close (taskId : Bytes)
  | destroy (taskId : Bytes)
  | uploaded (taskId snapshotName : Bytes)
  | domainChanges (taskId : Bytes) (state : DomainState)
  | fileAppears (path backing : Bytes)

namespace Host

/-- A file of any name under `/data/` goes, unless it is being copied. -/
def deleteImage (w : World) (doc : Json) : Call Bytes := fun h =>
  let name := doc.parseString (str "image_filename")
  let path := str "/data/" ++ name
  if doc.isObject = false then fail (str "additional parse failed") h
  else if name = [] then fail (str "image_filename is empty") h
  else if h.fileExists path = false then fail (str "image file:" ++ name ++ str " is not exist") h
  else if w.isDownloading name ∨ w.isUploading path then
    fail (str "image file is in downloading or uploading, please try again later") h
  else (.ok (str "ok"), h.removeFile path)

/-- The state that a call leaves, unless it ended the process. -/
def survives {α : Type} : Except (Stop Bytes) α × Host → Option Host
  | (.ok _, h) => some h
  | (.error (.thrown _), h) => some h
  | (.error _, _) => none

/-- A domain that is shut off stays so until it is started. -/
def domainChanges (taskId : Bytes) (state : DomainState) (h : Host) : Option Host :=
  match h.domains.find taskId with
  | none => none
  | some domain =>
      if domain.state = .shutoff then none else some (h.setDomain taskId { domain with state := state })

/-- A download, or a file that somebody puts on the node. -/
def fileAppears (path backing : Bytes) (h : Host) : Option Host :=
  if h.fileExists path then none else some { h with files := h.files.insert (resolvePath path) ⟨backing⟩ }

/-- What may happen on the node, one thing at a time. A request is answered,
and an event is taken off the queue and worked off, in one go; the source
lets requests and the pruning in while an event of the thread sleeps, and
`TaskThread.step` goes through these stages one by one. -/
def step (hw : Hardware) (h : Host) : World × HostEvent → Option Host
  | (w, .create wallet additional rentEnd role) => survives (createTask hw w wallet additional rentEnd role h)
  | (w, .request wallet request) => survives (execute hw w wallet request h)
  | (w, .deleteImage additional) => survives (deleteImage w additional h)
  | (w, .process) =>
    match h.events with
    | [] => none
    | event :: rest => survives (processTask w event { h with events := rest })
  | (w, .close taskId) => some (h.closeTask w taskId)
  | (w, .destroy taskId) => some (h.destroyTask w taskId)
  | (_, .uploaded taskId snapshotName) => survives (setSnapshotStatus taskId snapshotName .none h)
  | (_, .domainChanges taskId state) => h.domainChanges taskId state
  | (_, .fileAppears path backing) => h.fileAppears path backing

end Host

namespace Host

section Load
variable (h : Host)

/-- The record that `TaskInfoManager::init` makes of an entry of the
database and the description of its domain. -/
def loadInfo (db : DbTaskInfo) (xml : DomainXml) : TaskInfo :=
  { db with
    cpuSockets := xml.cpuSockets
    cpuCoresPerSocket := xml.cpuCoresPerSocket
    cpuThreadsPerCore := xml.cpuThreadsPerCore
    memSize := xml.memory
    vncPort := xml.vncPort
    vncPassword := xml.vncPassword
    taskStatus := .none }

/-- The record that a task would have after a restart of the node. -/
def reloaded (taskId : Bytes) (h : Host) : Option TaskInfo :=
  match h.taskDb.find taskId, h.domains.find taskId with
  | some db, some domain => some (loadInfo db (currentXml domain))
  | _, _ => none

/-- `TaskInfoManager::init`: a task without a domain is passed over, and so
is it among the tasks that ran. -/
def initInfos : Host :=
  { h with
    taskInfos := h.taskDb.filterMap (fun taskId _ => h.reloaded taskId)
    runningTasks := h.runningTasks.filter h.isExistDomain }

/-- The disks of a domain, the first one of each name. -/
def loadDisks (virtualSize : Bytes → Int) (disks : List (Bytes × Bytes)) : OrdMap Bytes DiskInfo :=
  disks.foldl (fun own disk => if (own.find disk.1).isSome then own
    else own.insert disk.1 ⟨disk.1, virtualSize disk.1, disk.2⟩) .empty

/-- No snapshot is being made or uploaded when the node starts. -/
def loadSnapshots (info : SnapshotInfo) : SnapshotInfo :=
  { info with status := info.snapshots.foldl (fun status snapshot => status.insert snapshot.name .none) .empty }

/-- `TaskDiskManager::init`: a domain without a disk has no entry. -/
def initDisks (virtualSize : Bytes → Bytes → Int) : Host :=
  { h with
    taskDisks := h.taskInfos.filterMap (fun taskId _ => (h.domains.find taskId).bind (fun domain =>
      if (currentXml domain).disks = [] then none
      else some (loadDisks (virtualSize taskId) (currentXml domain).disks)))
    taskSnapshots := h.taskSnapshots.filterMap (fun _ info => some (loadSnapshots info)) }

/-- `TaskGpuManager::init`. -/
def initGpus : Host :=
  { h with
    taskGpus := h.taskInfos.filterMap (fun taskId _ => (h.domains.find taskId).bind (fun domain =>
      if (currentXml domain).gpus.entries = [] then none else some (currentXml domain).gpus)) }

end Load

/-- The root file of a task that is shut off is looked up where it was not
recorded. -/
def initRootBackfile (taskId : Bytes) : Call Unit := fun h =>
  match h.taskInfos.find taskId with
  | none => (.ok (), h)
  | some info =>
    if h.getDomainStatus taskId ≠ .shutoff ∨ info.vdaRootBackfile ≠ [] then (.ok (), h)
    else match h.rootBackfile h.chainRounds (str "/data/" ++ info.imageName) with
      | .error stopped => (.error stopped, h)
      | .ok root => (.ok (), h.updateInfo taskId (fun info => { info with vdaRootBackfile := root }))

/-- `TaskManager::start_task`. -/
def launchTask (w : World) (taskId : Bytes) (h : Host) : Host :=
  if h.getDomainStatus taskId = .running then h
  else match h.startDomain w taskId with
    | (false, h) => h
    | (true, h) => (h.setTaskStatus taskId .running).addIptableToSystem taskId

/-- A task that ran before the restart. -/
def restoreTask (w : World) (taskId : Bytes) (h : Host) : Host :=
  match h.taskInfos.find taskId with
  | none => h
  | some _ => (h.setTaskStatus taskId .running).launchTask w taskId

/-- The status of a task as its domain tells it. -/
def bootStatus : DomainState → TaskStatus
  | .shutoff | .shutdown | .crashed | .nostate => .shutoff
  | .running | .paused => .running
  | .pmsuspended => .pmSuspend
  | .blocked => .none

def initStatus (taskId : Bytes) (h : Host) : Host :=
  h.setInfo taskId (fun info =>
    if info.taskStatus = .none then { info with taskStatus := bootStatus (h.getDomainStatus taskId) } else info)

/-- The calls go from one task to the next one until one of them does not
end. -/
def forTasks (call : Bytes → Call Unit) : List Bytes → Call Unit
  | [] => pure ()
  | taskId :: rest => do
    call taskId
    forTasks call rest

def initTasksStatus (worlds : Bytes → World) : Call Unit := do
  let taskIds ← Prog.fetch (fun h => h.taskInfos.keys)
  forTasks initRootBackfile taskIds
  let running ← Prog.fetch Host.runningTasks
  forTasks (fun taskId => Prog.update (restoreTask (worlds taskId) taskId)) running
  forTasks (fun taskId => Prog.update (initStatus taskId)) taskIds

/-- `TaskManager::init` on what the databases and the domains of an earlier
run have. The events of that run are lost. -/
def init (worlds : Bytes → World) (virtualSize : Bytes → Bytes → Int) : Call Unit := do
  Prog.update (fun h => (({ h with events := [] }.initInfos).initDisks virtualSize).initGpus)
  initTasksStatus worlds

end Host

/-- What happens on a compute node that is started again from time to
time. -/
inductive NodeEvent
  | host (event : World × HostEvent)
  | restart (worlds : Bytes → World) (virtualSize : Bytes → Bytes → Int)

namespace Host

def nodeStep (hw : Hardware) (h : Host) : NodeEvent → Option Host
  | .host event => h.step hw event
  | .restart worlds virtualSize => survives (init worlds virtualSize h)

end Host

end DbcNode
