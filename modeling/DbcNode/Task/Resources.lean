import DbcNode.Task.Host

namespace DbcNode.Host

/-- A domain that libvirt does not know has no state. -/
def getDomainStatus (taskId : Bytes) (h : Host) : DomainState :=
    ((h.domains.find taskId).map (·.state)).getD .nostate

def isExistDomain (taskId : Bytes) (h : Host) : Bool := (h.domains.find taskId).isSome

def setDomain (taskId : Bytes) (domain : Domain) (h : Host) : Host :=
  { h with domains := h.domains.insert taskId domain }

def fileExists (path : Bytes) (h : Host) : Bool := (h.files.find (resolvePath path)).isSome

/-- What `qemu-img info` says about the backing file of an image. -/
def backingOf (path : Bytes) (h : Host) : Bytes := ((h.files.find (resolvePath path)).map (·.backing)).getD []

def removeFile (path : Bytes) (h : Host) : Host := { h with files := h.files.erase (resolvePath path) }

/-- `qemu-img create`, `convert`: the image at a path, over what was there.
An image on a backing file is not made where that file is missing. -/
def writeImage (path backing : Bytes) (h : Host) : Host :=
  if backing = [] ∨ h.fileExists backing then { h with files := h.files.insert (resolvePath path) ⟨backing⟩ } else h

variable (w : World)

/-- The definition of a domain that is made from the records of its task. -/
def recordXml (taskId : Bytes) (info : TaskInfo) (disks : List (Bytes × Bytes)) (h : Host) : DomainXml :=
  ⟨h.getTaskGpus taskId, disks, info.vncPort, info.vncPassword, info.cpuSockets, info.cpuCoresPerSocket,
    info.cpuThreadsPerCore, info.memSize⟩

/-- The end of `CreateDomain`. A name that is taken cannot be defined
again. -/
def defineAndCreate (taskId : Bytes) (info : TaskInfo) (disks : List (Bytes × Bytes)) (h : Host) : Bool × Host :=
  let xml := h.recordXml taskId info disks
  if h.isExistDomain taskId ∨ w.defineDomain = false then (false, h)
  else if w.createDomain = false then (false, h.setDomain taskId ⟨.shutoff, xml, xml⟩)
  else (true, h.setDomain taskId ⟨.running, xml, xml⟩)

/-- The images of a new domain: the system disk on the image that was
chosen, and the data disk if it is not there yet. -/
def createImages (imageName systemDisk dataDisk : Bytes) (h : Host) : Host :=
  let h := h.writeImage systemDisk (str "/data/" ++ imageName)
  if h.fileExists dataDisk then h else h.writeImage dataDisk []

def createDomain (taskId : Bytes) (info : TaskInfo) : Call Bool := fun h =>
  if info.biosMode = str "pxe" then
    let (done, h) := h.defineAndCreate w taskId info []
    (.ok done, h)
  else match (h.listDisks taskId).find (str "vda"), (h.listDisks taskId).find (str "vdb") with
    | some vda, some vdb =>
      let (done, h) := (h.createImages info.imageName vda.sourceFile vdb.sourceFile).defineAndCreate w taskId info
        [(str "vda", vda.sourceFile), (str "vdb", vdb.sourceFile)]
      (.ok done, h)
    | _, _ => (.error .asserted, h)

def startDomain (taskId : Bytes) (h : Host) : Bool × Host :=
  match h.domains.find taskId with
  | none => (false, h)
  | some domain =>
    if domain.state = .nostate ∨ domain.state = .shutoff then
      if w.createDomain then (true, h.setDomain taskId { domain with state := .running, live := domain.definition })
      else (false, h)
    else if domain.state = .pmsuspended then
      if w.wakeupDomain then (true, h.setDomain taskId { domain with state := .running }) else (false, h)
    else (true, h)

def destroyDomain (taskId : Bytes) (h : Host) : Bool × Host :=
  match h.domains.find taskId with
  | none => (false, h)
  | some domain =>
    if domain.state = .shutoff then (true, h)
    else if w.destroyDomain then (true, h.setDomain taskId { domain with state := .shutoff })
    else (false, h)

def rebootDomain (taskId : Bytes) (h : Host) : Bool :=
  match h.domains.find taskId with
  | none => false
  | some domain => domain.state ≠ .running ∨ w.rebootDomain

def resetDomain (taskId : Bytes) (h : Host) : Bool :=
  match h.domains.find taskId with
  | none => false
  | some domain => domain.state ≠ .running ∨ w.resetDomain

/-- The description of a domain with what the records of its task have by
now. -/
def renewedXml (taskId : Bytes) (info : TaskInfo) (xml : DomainXml) (h : Host) : DomainXml :=
  { h.recordXml taskId info xml.disks with vncPassword := xml.vncPassword }

/-- The new definition keeps the disks and the password of the screen. The
error is the one that is returned. -/
def redefineDomain (taskId : Bytes) (info : TaskInfo) (h : Host) : Option Bytes × Host :=
  match h.domains.find taskId with
  | none => (some (str "task:" ++ taskId ++ str " not exist"), h)
  | some domain =>
    if w.defineDomain = false then (some (str "defineXML failed: "), h)
    else (none, h.setDomain taskId { domain with definition := h.renewedXml taskId info domain.definition })

/-- A domain that could not be stopped lives on after it is undefined. -/
def destroyAndUndefineDomain (taskId : Bytes) (h : Host) : Host :=
  match h.domains.find taskId with
  | none => h
  | some domain =>
    let state := if w.destroyDomain then .shutoff else domain.state
    if w.undefineDomain ∧ state = .shutoff then { h with domains := h.domains.erase taskId }
    else h.setDomain taskId { domain with state := state }

/-- The description that a disk is added to or taken from is the one in
use. -/
def currentXml (domain : Domain) : DomainXml := if domain.state = .shutoff then domain.definition else domain.live

def attachDisk (taskId diskName sourceFile : Bytes) (h : Host) : Option Bytes × Host :=
  match h.domains.find taskId with
  | none => (some (str "task not exist"), h)
  | some domain =>
    let xml := currentXml domain
    if w.defineDomain = false then (some (str "domain defineXML failed"), h)
    else (none, h.setDomain taskId
      { domain with definition := { xml with disks := xml.disks ++ [(diskName, sourceFile)] } })

def detachDisk (taskId diskName : Bytes) (h : Host) : Option Bytes × Host :=
  match h.domains.find taskId with
  | none => (some (str "task not exist"), h)
  | some domain =>
    let xml := currentXml domain
    if w.defineDomain = false then (some (str "domain defineXML failed"), h)
    else (none, h.setDomain taskId
      { domain with definition := { xml with disks := xml.disks.eraseP (fun disk => disk.1 = diskName) } })

end DbcNode.Host

namespace DbcNode

def isLinuxOs (os : Bytes) : Bool := holdsText os (str "linux") ∨ holdsText os (str "ubuntu")

def isWindowsOs (os : Bytes) : Bool := holdsText os (str "windows") ∨ holdsText os (str "win")

namespace Host

/-- What one task says to a port. Only a task that runs can be in conflict,
and the ports of one with a public ip are its own, except the one of its VNC
server. -/
def portConflict (port : UInt16) (taskId : Bytes) (info : TaskInfo) (h : Host) : Option Bytes :=
  let state := h.getDomainStatus taskId
  if state ≠ .running ∧ state ≠ .blocked ∧ state ≠ .paused then none
  else if info.vncPort = port then some (str "port conflict, exist vnc_port = " ++ decimal port.toNat)
  else if info.publicIp ≠ [] then none
  else if info.sshPort = port then some (str "port conflict, exist ssh_port = " ++ decimal port.toNat)
  else if info.rdpPort = port then some (str "port conflict, exist rdp_port = " ++ decimal port.toNat)
  else none

def checkPortConflict (port : UInt16) (excludeTaskId : Bytes) (h : Host) : Option Bytes :=
  h.taskInfos.entries.findSome? (fun entry =>
    if entry.1 = excludeTaskId then none else h.portConflict port entry.1 entry.2)

def checkPublicIp (w : World) (publicIp taskId : Bytes) (h : Host) : Option Bytes :=
  if publicIp = [] then none
  else if w.validIp publicIp = false then some (str "invalid public ip")
  else if w.defaultRouteIp = publicIp then some (str "public ip being used")
  else if h.taskInfos.entries.any (fun entry => entry.1 ≠ taskId ∧ entry.2.publicIp = publicIp) then
    some (str "public ip being used")
  else none

/-- The first number at or above a count that a unit divides. -/
def roundUp (unit : Int) : Nat → Int → Int
  | 0, count => count
  | fuel + 1, count => if count.tmod unit = 0 then count else roundUp unit fuel (count + 1)

structure CpuTopology where
  sockets : Int
  cores : Int
  threads : Int
  deriving DecidableEq

/-- The first number of sockets that is enough, from `n` on. -/
def fitSockets (hw : Hardware) (totalCores : Int) : Nat → Int → Option (CpuTopology × Int)
  | 0, _ => none
  | fuel + 1, n =>
    let unit := n * hw.threadsPerCpu
    let rounded := roundUp unit unit.toNat totalCores
    if rounded.tdiv unit ≤ hw.physicalCoresPerCpu then some (⟨n, rounded.tdiv unit, hw.threadsPerCpu⟩, rounded)
    else fitSockets hw totalCores fuel (n + 1)

/-- `initial` is what the variables of the caller hold. -/
def allocateCpu (hw : Hardware) (totalCores : Int) (initial : CpuTopology) : Option CpuTopology :=
  if totalCores > hw.cores then none
  else
    let (found, total) := (fitSockets hw totalCores hw.physicalCpus.toNat 1).getD
      ({ initial with threads := hw.threadsPerCpu }, totalCores)
    if total = found.sockets * found.cores * found.threads then some found else none

def checkCpu (hw : Hardware) (topology : CpuTopology) : Bool :=
  let cpuCores := topology.sockets * topology.cores * topology.threads
  ¬ (cpuCores ≤ 0 ∨ cpuCores > hw.cores ∨ topology.sockets > hw.physicalCpus ∨
    topology.cores > hw.physicalCoresPerCpu ∨ topology.threads > hw.threadsPerCpu)

def allocateMem (memFree memSizeK : Int) : Bool := 0 < memSizeK ∧ memSizeK ≤ memFree

/-- The caches are dropped before a second try. -/
def allocateMemTwice (w : World) (memSizeK : Int) : Bool :=
  allocateMem w.memFree memSizeK ∨ allocateMem w.memFreeDropped memSizeK

/-- `g_disk_system_size`, in G. -/
def diskSystemSize : Int := 350

def diskFree (w : World) : Int := min (w.diskTotal - diskSystemSize * 1024 * 1024) w.diskAvailable

def allocateDisk (w : World) (diskSizeK : Int) : Bool := 0 < diskSizeK ∧ diskSizeK ≤ diskFree w

/-- The GPUs that no task has whose domain is not shut off. -/
def canUseGpu (hw : Hardware) (h : Host) : OrdMap Bytes (List Bytes) :=
  h.taskInfos.entries.foldl (fun canUse entry =>
    if h.getDomainStatus entry.1 ≠ .shutoff then (h.getTaskGpus entry.1).keys.foldl OrdMap.erase canUse else canUse)
    hw.gpuInfo

/-- The loop over the GPUs that can be used. -/
def pickGpus (gpuCount : Int) : Int → List (Bytes × List Bytes) → OrdMap Bytes (List Bytes) →
    Int × OrdMap Bytes (List Bytes)
  | curCount, [], gpus => (curCount, gpus)
  | curCount, (id, devices) :: rest, gpus =>
    if curCount + 1 = gpuCount then (curCount + 1, gpus.insert id devices)
    else pickGpus gpuCount (curCount + 1) rest (gpus.insert id devices)

def allocateGpu (hw : Hardware) (gpuCount : Int) (h : Host) : Option (OrdMap Bytes (List Bytes)) :=
  if gpuCount = 0 then some .empty
  else
    let (curCount, gpus) := pickGpus gpuCount 0 (h.canUseGpu hw).entries .empty
    if curCount = gpuCount then some gpus else none

def checkGpu (hw : Hardware) (gpus : OrdMap Bytes (List Bytes)) (h : Host) : Option Bytes :=
  gpus.entries.findSome? (fun entry =>
    match (h.canUseGpu hw).find entry.1 with
    | none => some (str "gpu " ++ entry.1 ++ str " is already in use")
    | some canUseDevices => entry.2.findSome? (fun device =>
      if device ∈ canUseDevices then none else some (str "gpu device " ++ device ++ str " not found in system")))

/-- The GPUs of a task that the machine has lost are taken from it. -/
def checkXmlGpu (hw : Hardware) (w : World) (taskId : Bytes) (info : TaskInfo) (h : Host) : Host :=
  let lost := (h.getTaskGpus taskId).keys.filter (fun id => (hw.gpuInfo.find id).isNone)
  if lost = [] then h
  else (redefineDomain w taskId info
    { h with taskGpus := h.taskGpus.insert taskId (lost.foldl OrdMap.erase (h.getTaskGpus taskId)) }).2

/-- The checks of `check_resource`, in their order. -/
def resourceError (hw : Hardware) (w : World) (taskId : Bytes) (info : TaskInfo) (h : Host) : Option Bytes :=
  if checkCpu hw ⟨info.cpuSockets, info.cpuCoresPerSocket, info.cpuThreadsPerCore⟩ = false then
    some (str "check cpu failed")
  else if h.checkGpu hw (h.getTaskGpus taskId) ≠ none then some (str "check gpu failed")
  else if allocateMemTwice w info.memSize = false then some (str "check memory failed")
  else if isLinuxOs info.operationSystem ∧ h.checkPortConflict info.sshPort taskId ≠ none then
    some (str "check ssh_port failed")
  else if isLinuxOs info.operationSystem = false ∧ isWindowsOs info.operationSystem ∧
      h.checkPortConflict info.rdpPort taskId ≠ none then
    some (str "check rdp_port failed")
  else if h.checkPortConflict info.vncPort taskId ≠ none then some (str "check vnc_port failed")
  else none

/-- A check that a call makes before it goes on. -/
def refuse (check : Host → Option Bytes) : Call Unit := fun h =>
  match check h with
  | some error => (.error (.thrown error), h)
  | none => (.ok (), h)

def checkResource (hw : Hardware) (w : World) (taskId : Bytes) (info : TaskInfo) : Call Unit := do
  Prog.update (checkXmlGpu hw w taskId info)
  refuse (resourceError hw w taskId info)

end Host

end DbcNode
