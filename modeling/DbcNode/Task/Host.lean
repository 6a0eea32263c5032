import DbcNode.Lib.OrdMap
import DbcNode.Lib.Prog
import DbcNode.Lib.Bytes
import DbcNode.Message

namespace DbcNode

/-- `virDomainState`. -/
inductive DomainState
  | nostate
  | running
  | blocked
  | paused
  | shutdown
  | shutoff
  | crashed
  | pmsuspended
  deriving DecidableEq, Repr

def vmStatusString : DomainState → Bytes
  | .nostate => str "none"
  | .running => str "running"
  | .blocked => str "blocked"
  | .paused => str "paused"
  | .shutdown => str "being shutdown"
  | .shutoff => str "shut_off"
  | .crashed => str "crashed"
  | .pmsuspended => str "suspended"

/-- The statuses that the task manager gives to a task. -/
inductive TaskStatus
  | none
  | shutoff
  | running
  | pmSuspend
  | creating
  | starting
  | beingShutdown
  | beingPoweroff
  | restarting
  | resetting
  | deleting
  | createTaskError
  | startTaskError
  | shutdownTaskError
  | poweroffTaskError
  | restartTaskError
  | resetTaskError
  deriving DecidableEq, Repr

/-- `db_task_info`, the part of a task that the database keeps. -/
structure DbTaskInfo where
  taskId : Bytes
  imageName : Bytes
  desc : Bytes
  loginUsername : Bytes
  loginPassword : Bytes
  sshPort : UInt16
  rdpPort : UInt16
  customPort : List Bytes
  createTime : Int
  operationSystem : Bytes
  biosMode : Bytes
  multicast : List Bytes
  vdaRootBackfile : Bytes
  networkName : Bytes
  publicIp : Bytes
  nwfilter : List Bytes
  deriving DecidableEq

structure TaskInfo extends DbTaskInfo where
  cpuSockets : Int
  cpuCoresPerSocket : Int
  cpuThreadsPerCore : Int
  memSize : Int
  vncPort : UInt16
  vncPassword : Bytes
  taskStatus : TaskStatus
  deriving DecidableEq

structure DiskInfo where
  name : Bytes
  virtualSize : Int
  sourceFile : Bytes
  deriving DecidableEq

inductive SnapshotStatus
  | none
  | creating
  | uploading
  deriving DecidableEq, Repr

structure Snapshot where
  name : Bytes
  file : Bytes
  createTime : Int
  desc : Bytes
  deriving DecidableEq

structure SnapshotInfo where
  snapshots : List Snapshot
  status : OrdMap Bytes SnapshotStatus

structure IptableInfo where
  taskId : Bytes
  hostIp : Bytes
  taskLocalIp : Bytes
  sshPort : UInt16
  rdpPort : UInt16
  customPort : List Bytes
  publicIp : Bytes
  deriving DecidableEq

structure WalletRentTask where
  rentWallet : Bytes
  taskIds : List Bytes
  rentEnd : Int
  deriving DecidableEq

/-- The kinds of `TaskEvent`. -/
inductive TaskJob
  | createTask (biosMode : Bytes)
  | startTask
  | shutdownTask
  | powerOffTask
  | reStartTask
  | forceRebootTask
  | resetTask
  | deleteTask
  | resizeDisk (diskName : Bytes) (sizeK : Int) (sourceFile : Bytes)
  | addDisk (sizeK : Int) (mountDir : Bytes)
  | deleteDisk (diskName : Bytes)
  | createSnapshot (snapshotName rootBackfile sourceFile snapshotFile : Bytes)
  deriving DecidableEq

structure TaskEvent where
  taskId : Bytes
  job : TaskJob
  deriving DecidableEq

/-- What the definition of a domain says: its GPUs with their devices, its
disks by their names, and its sizes. -/
structure DomainXml where
  gpus : OrdMap Bytes (List Bytes)
  disks : List (Bytes × Bytes)
  vncPort : UInt16
  vncPassword : Bytes
  cpuSockets : Int
  cpuCoresPerSocket : Int
  cpuThreadsPerCore : Int
  memory : Int

/-- A domain of libvirt. A change of its definition reaches it when it
starts, and until then it goes on with what it was started with. -/
structure Domain where
  state : DomainState
  definition : DomainXml
  live : DomainXml

/-- A `qcow2` image, by the backing file that it names. -/
structure ImageFile where
  backing : Bytes
  deriving DecidableEq

/-- A call that changes the `nat` table. -/
inductive NatCall
  | added (iptable : IptableInfo)
  | removed (iptable : IptableInfo)
  deriving DecidableEq

/-- A compute node as the task manager sees it: its own records, the events
that wait for its thread, the domains, and the image files by the places
they are in. `nat` has the calls on the `nat` table, the last one first. -/
structure Host where
  taskInfos : OrdMap Bytes TaskInfo
  taskDb : OrdMap Bytes DbTaskInfo
  runningTasks : List Bytes
  taskGpus : OrdMap Bytes (OrdMap Bytes (List Bytes))
  taskDisks : OrdMap Bytes (OrdMap Bytes DiskInfo)
  taskSnapshots : OrdMap Bytes SnapshotInfo
  taskIptables : OrdMap Bytes IptableInfo
  walletRentTasks : OrdMap Bytes WalletRentTask
  events : List TaskEvent
  domains : OrdMap Bytes Domain
  files : OrdMap (List Bytes) ImageFile
  nat : List NatCall

/-- The processors and the GPUs that were found when the node started. -/
structure Hardware where
  cores : Int
  physicalCpus : Int
  physicalCoresPerCpu : Int
  threadsPerCpu : Int
  gpuInfo : OrdMap Bytes (List Bytes)

/-- What a call meets outside of the task manager: the system, the answers
of libvirt, the image manager, the clock, and the names that are made up. -/
structure World where
  time : Int
  memFree : Int
  memFreeDropped : Int
  diskTotal : Int
  diskAvailable : Int
  mountFree : Bytes → Int
  mountExists : Bytes → Bool
  defaultRouteIp : Bytes
  validIp : Bytes → Bool
  multicastError : List Bytes → Option Bytes
  networkClientError : Bytes → Option Bytes
  isDownloading : Bytes → Bool
  isUploading : Bytes → Bool
  upload : Bool
  defineDomain : Bool
  createDomain : Bool
  destroyDomain : Bool
  undefineDomain : Bool
  wakeupDomain : Bool
  rebootDomain : Bool
  resetDomain : Bool
  defineNwfilter : Bool
  setUserPassword : Option Bytes
  domainLocalIp : Bytes
  domainLog : Bytes → Except Bytes Bytes
  diskVirtualSize : Int
  uninitialised : Int
  newTaskId : Bytes
  newPassword : Bytes
  newSystemDisk : Bytes
  newDataDisk : Bytes
  newSnapshotFile : Bytes

namespace Host

def empty : Host :=
  ⟨.empty, .empty, [], .empty, .empty, .empty, .empty, .empty, [], .empty, .empty, []⟩

/-- A call of the task manager. An error that it returns is thrown, and a
pointer that is null where it is followed ends the process. -/
abbrev Call := Prog Bytes Host

/-- `setTaskStatus` and the other setters of a task, which leave the
database as it is. -/
def setInfo (taskId : Bytes) (change : TaskInfo → TaskInfo) (h : Host) : Host :=
  match h.taskInfos.find taskId with
  | none => h
  | some info => { h with taskInfos := h.taskInfos.insert taskId (change info) }

/-- `TaskInfoManager::update` after a setter. -/
def updateInfo (taskId : Bytes) (change : TaskInfo → TaskInfo) (h : Host) : Host :=
  match h.taskInfos.find taskId with
  | none => h
  | some info => { h with
      taskInfos := h.taskInfos.insert taskId (change info)
      taskDb := h.taskDb.insert taskId (change info).toDbTaskInfo }

def setTaskStatus (taskId : Bytes) (status : TaskStatus) : Host → Host :=
  setInfo taskId (fun info => { info with taskStatus := status })

/-- The end of an event: a status that a later request has replaced
stays. -/
def settle (taskId : Bytes) (pending status : TaskStatus) : Host → Host :=
  setInfo taskId (fun info => if info.taskStatus = pending then { info with taskStatus := status } else info)

def setIptable (taskId : Bytes) (change : IptableInfo → IptableInfo) (h : Host) : Host :=
  match h.taskIptables.find taskId with
  | none => h
  | some iptable => { h with taskIptables := h.taskIptables.insert taskId (change iptable) }

def getTaskGpus (taskId : Bytes) (h : Host) : OrdMap Bytes (List Bytes) := (h.taskGpus.find taskId).getD .empty

def listDisks (taskId : Bytes) (h : Host) : OrdMap Bytes DiskInfo := (h.taskDisks.find taskId).getD .empty

def pushTaskEvent (event : TaskEvent) (h : Host) : Host := { h with events := h.events ++ [event] }

def addIptableToSystem (taskId : Bytes) (h : Host) : Host :=
  match h.taskIptables.find taskId with
  | none => h
  | some iptable => { h with nat := .added iptable :: h.nat }

def removeIptableFromSystem (taskId : Bytes) (h : Host) : Host :=
  match h.taskIptables.find taskId with
  | none => h
  | some iptable => { h with nat := .removed iptable :: h.nat }

/-- The tasks of a wallet. -/
def taskIdsOf (wallet : Bytes) (h : Host) : List Bytes := ((h.walletRentTasks.find wallet).map (·.taskIds)).getD []

def findTask (wallet taskId : Bytes) (h : Host) : Option TaskInfo :=
  if taskId ∈ h.taskIdsOf wallet then h.taskInfos.find taskId else none

/-- `WalletRentTaskManager::add`. -/
def addRentTask (wallet taskId : Bytes) (rentEnd : Int) (h : Host) : Host :=
  let rent : WalletRentTask := ⟨wallet, h.taskIdsOf wallet ++ [taskId], rentEnd⟩
  { h with walletRentTasks := h.walletRentTasks.insert wallet rent }

/-- `WalletRentTaskManager::del`: the first wallet that has the task loses
it. -/
def delRentTask (taskId : Bytes) (h : Host) : Host :=
  match h.walletRentTasks.entries.find? (fun entry => taskId ∈ entry.2.taskIds) with
  | none => h
  | some (wallet, rent) =>
    { h with walletRentTasks := h.walletRentTasks.insert wallet { rent with taskIds := rent.taskIds.erase taskId } }

end Host

end DbcNode
