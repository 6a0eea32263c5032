import DbcNode.Lib.Documents
import DbcNode.Request.Authority
import DbcNode.Task.Resources

namespace DbcNode

structure CreateTaskParams where
  taskId : Bytes
  loginPassword : Bytes
  imageName : Bytes
  desc : Bytes
  operationSystem : Bytes
  biosMode : Bytes
  sshPort : UInt16
  rdpPort : UInt16
  customPort : List Bytes
  cpu : Host.CpuTopology
  gpus : OrdMap Bytes (List Bytes)
  memSize : Int
  diskSize : Int
  dataFileName : Bytes
  vncPort : UInt16
  vncPassword : Bytes
  multicast : List Bytes
  networkName : Bytes
  publicIp : Bytes
  nwfilter : List Bytes

namespace Host

/-- The end of a function that returns early with an error. -/
abbrev Checked := Except (Stop Bytes)

def require (condition : Bool) (error : Bytes) : Checked Unit :=
    if condition then .ok () else .error (.thrown error)

/-- An error that a check returns is returned. -/
def pass : Option Bytes → Checked Unit
  | some error => .error (.thrown error)
  | none => .ok ()

/-- `bfs::path::extension`. -/
def extension (path : Bytes) : Bytes :=
  let filename := ((path.splitOn 47).getLast?).getD []
  if filename = [46] ∨ filename = [46, 46] ∨ 46 ∉ filename then []
  else 46 :: ((filename.splitOn 46).getLast?).getD []

def checkOperationSystem (os : Bytes) : Option Bytes :=
  if isLinuxOs os ∨ isWindowsOs os then none
  else some (str "unsupported operation system: " ++ os ++ str " (usage: 'linux' 'windows')")

/-- The wide comma of a message, in UTF-8. -/
def comma : Bytes := [0xe3, 0x80, 0x81]

def checkBiosMode (biosMode : Bytes) : Option Bytes :=
  if biosMode = str "legacy" ∨ biosMode = str "uefi" ∨ biosMode = str "pxe" then none
  else some (str "unsupported bios mode: " ++ biosMode ++
    str " (usage: 'legacy(default)'" ++ comma ++ str "'uefi'" ++ comma ++ str "'pxe')")

def checkImage (w : World) (imageName : Bytes) (h : Host) : Option Bytes :=
  if imageName = [] then some (str "image_name is empty")
  else if extension imageName ≠ str ".qcow2" then some (str "'image_name' extension name is invalid")
  else if h.fileExists (str "/data/" ++ imageName) = false then
    some (str "'image_name' is not exist (path:/data/" ++ imageName ++ str ")")
  else if w.isDownloading imageName ∨ w.isUploading imageName then
    some (str "'image_name':" ++ imageName ++ str " in downloading or uploading, please try again later")
  else none

/-- The first file that is missing from the chain of an image in `/data/`.
The rounds run out only where the chain has a cycle. -/
def getNeededBackingImage (h : Host) : Nat → Bytes → Checked (Option Bytes)
  | 0, _ => .error .diverged
  | fuel + 1, image =>
    if holdsText image (str "/data/") = false then .ok none
    else if h.fileExists image = false then .ok (some image)
    else getNeededBackingImage h fuel (h.backingOf image)

/-- The last file of the chain of an image. -/
def rootBackfile (h : Host) : Nat → Bytes → Checked Bytes
  | 0, _ => .error .diverged
  | fuel + 1, image => if h.backingOf image = [] then .ok image else rootBackfile h fuel (h.backingOf image)

/-- More rounds than there are images. -/
def chainRounds (h : Host) : Nat := h.files.entries.length + 1

/-- `check_ssh_port` and `check_rdp_port`, with the name that they
report. -/
def checkDigits (name text : Bytes) : Option Bytes :=
  if text = [] then some (name ++ str " is empty")
  else if isDigits text = false then some (name ++ str " is not digit")
  else none

def checkVncPort (text : Bytes) : Option Bytes :=
  match checkDigits (str "vnc_port") text with
  | some error => some error
  | none =>
    if portOf text < 5900 ∨ portOf text > 6000 then some (str "vnc_port is invalid (usage: [5900, 6000])") else none

/-- The texts of an array, without what is no text. -/
def textItems (name : Bytes) (doc : Json) : List Bytes :=
  (((doc.member name).bind Json.getArray).getD []).filterMap Json.getString

/-- The port of a Linux task, and of a Windows one: both are checked by the
text of the ssh port. -/
def createPort (publicIp sshText name : Bytes) (own standard : UInt16) (h : Host) : Checked UInt16 :=
  if publicIp ≠ [] then .ok (if checkDigits name sshText = none then own else standard)
  else do
    pass (checkDigits name sshText)
    pass (h.checkPortConflict (portOf sshText) [])
    pure own

def memSizeOf (text : Bytes) : Int := atoi text * 1024 * 1024

def parseCreateParams (hw : Hardware) (w : World) (role : UserRole) (additional : Option Json) (h : Host) :
    Checked CreateTaskParams := do
  let doc ← (match additional with
    | none => .error (.thrown (str "additional is empty"))
    | some doc => .ok doc : Checked Json)
  require doc.isObject (str "additional parse failed")
  let osText := doc.parseString (str "operation_system")
  let operationSystem := toLower (if osText = [] then str "linux" else osText)
  pass (checkOperationSystem operationSystem)
  let biosText := doc.parseString (str "bios_mode")
  let biosMode := toLower (if biosText = [] then str "legacy" else biosText)
  pass (checkBiosMode biosMode)
  let imageName := doc.parseString (str "image_name")
  pass (checkImage w imageName h)
  let missing ← (if biosMode = str "pxe" then .ok none
    else getNeededBackingImage h h.chainRounds (str "/data/" ++ imageName))
  pass (missing.map (fun image => str "image backfile not exist: " ++ image))
  let publicIp := doc.parseString (str "public_ip")
  pass (h.checkPublicIp w publicIp [])
  let sshText := doc.parseString (str "ssh_port")
  let sshPort ← (if isLinuxOs operationSystem then
      h.createPort publicIp sshText (str "ssh_port") (portOf sshText) 22
    else .ok (portOf sshText))
  let rdpText := doc.parseString (str "rdp_port")
  let rdpPort ← (if isWindowsOs operationSystem then
      h.createPort publicIp sshText (str "rdp_port") (portOf rdpText) 3389
    else .ok (portOf rdpText))
  let vncText := doc.parseString (str "vnc_port")
  pass (checkVncPort vncText)
  pass (h.checkPortConflict (portOf vncText) [])
  let cpuCores := atoi (doc.parseString (str "cpu_cores"))
  require (0 < cpuCores) (str "cpu_cores is invalid")
  let cpu ← ((allocateCpu hw (if role = .verifier then hw.cores else cpuCores) ⟨0, 0, 0⟩).elim
    (.error (.thrown (str "allocate cpu failed"))) .ok : Checked CpuTopology)
  let memSizeK := memSizeOf (doc.parseString (str "mem_size"))
  require (0 < memSizeK) (str "mem_size is invalid")
  let memSize := if role = .verifier then w.memFree else memSizeK
  require (allocateMemTwice w memSize) (str "allocate mem failed")
  let gpuCount := atoi (doc.parseString (str "gpu_count"))
  require (0 ≤ gpuCount) (str "gpu_count is invalid (usage: gpu_count >= 0)")
  let gpus ← ((h.allocateGpu hw (if role = .verifier then hw.gpuInfo.entries.length else gpuCount)).elim
    (.error (.thrown (str "allocate gpu failed"))) .ok : Checked (OrdMap Bytes (List Bytes)))
  let diskSizeK := memSizeOf (doc.parseString (str "disk_size"))
  require (biosMode = str "pxe" ∨ 0 < diskSizeK) (str "disk_size is invalid (usage: disk_size > 0)")
  let diskSize := if biosMode = str "pxe" then 0 else if role = .verifier then max 0 (diskFree w) else diskSizeK
  require (biosMode = str "pxe" ∨ allocateDisk w diskSize) (str "allocate disk failed")
  let dataFileName := if biosMode = str "pxe" then [] else doc.parseString (str "data_file_name")
  require (dataFileName = [] ∨ h.fileExists (str "/data/" ++ dataFileName))
    (str "data_file_name is not exist, path: /data/" ++ dataFileName)
  let networkName := doc.parseString (str "network_name")
  pass (if networkName = [] then none else w.networkClientError networkName)
  let multicast := textItems (str "multicast") doc
  pass (w.multicastError multicast)
  pure {
    taskId := w.newTaskId
    loginPassword := w.newPassword
    imageName := imageName
    desc := doc.parseString (str "desc")
    operationSystem := operationSystem
    biosMode := biosMode
    sshPort := sshPort
    rdpPort := rdpPort
    customPort := textItems (str "custom_port") doc
    cpu := cpu
    gpus := gpus
    memSize := memSize
    diskSize := diskSize
    dataFileName := dataFileName
    vncPort := portOf vncText
    vncPassword := w.newPassword
    multicast := multicast
    networkName := networkName
    publicIp := publicIp
    nwfilter := textItems (str "network_filters") doc }

def CreateTaskParams.info (params : CreateTaskParams) (createTime : Int) (rootBackfile : Bytes) : TaskInfo where
  taskId := params.taskId
  imageName := params.imageName
  desc := params.desc
  loginUsername := []
  loginPassword := params.loginPassword
  sshPort := params.sshPort
  rdpPort := params.rdpPort
  customPort := params.customPort
  createTime := createTime
  operationSystem := params.operationSystem
  biosMode := params.biosMode
  multicast := params.multicast
  vdaRootBackfile := rootBackfile
  networkName := params.networkName
  publicIp := params.publicIp
  nwfilter := params.nwfilter
  cpuSockets := params.cpu.sockets
  cpuCoresPerSocket := params.cpu.cores
  cpuThreadsPerCore := params.cpu.threads
  memSize := params.memSize
  vncPort := params.vncPort
  vncPassword := params.vncPassword
  taskStatus := .creating

/-- `addDiskInfo`: a name that is there already keeps its disk. -/
def addDiskInfo (taskId : Bytes) (disk : DiskInfo) (h : Host) : Host :=
  let disks := h.listDisks taskId
  let disks := if (disks.find disk.name).isSome then disks else disks.insert disk.name disk
  { h with taskDisks := h.taskDisks.insert taskId disks }

def addDisks (w : World) (params : CreateTaskParams) (h : Host) : Host :=
  if params.biosMode = str "pxe" then h
  else
    let systemFile := str "/data/" ++ w.newSystemDisk
    let dataFile := str "/data/" ++ (if params.dataFileName = [] then w.newDataDisk else params.dataFileName)
    (h.addDiskInfo params.taskId ⟨str "vda", diskSystemSize * 1024 * 1024 * 1024, systemFile⟩).addDiskInfo
      params.taskId ⟨str "vdb", params.diskSize * 1024, dataFile⟩

/-- `TaskGpuManager::add` for each GPU: one that is there already stays. -/
def addGpus (taskId : Bytes) (gpus : OrdMap Bytes (List Bytes)) (h : Host) : Host :=
  if gpus.entries = [] then h
  else
    let merged := gpus.entries.foldl (fun own entry =>
      if (own.find entry.1).isSome then own else own.insert entry.1 entry.2) (h.getTaskGpus taskId)
    { h with taskGpus := h.taskGpus.insert taskId merged }

/-- `TaskInfoManager::add`. -/
def addInfo (info : TaskInfo) (h : Host) : Host :=
  { h with
    taskInfos := h.taskInfos.insert info.taskId info
    taskDb := h.taskDb.insert info.taskId info.toDbTaskInfo }

/-- The records of a new task, and the event that will create it. -/
def addTask (w : World) (wallet : Bytes) (rentEnd : Int) (params : CreateTaskParams) (rootBackfile : Bytes)
    (h : Host) :
    Host :=
  ((((h.addInfo (CreateTaskParams.info params w.time rootBackfile)).addDisks w params).addGpus params.taskId
    params.gpus).addRentTask wallet params.taskId rentEnd).pushTaskEvent ⟨params.taskId,
      .createTask params.biosMode⟩

def createTask (hw : Hardware) (w : World) (wallet : Bytes) (additional : Option Json) (rentEnd : Int)
    (role : UserRole) :
    Call Bytes := fun h =>
  match h.parseCreateParams hw w role additional with
  | .error stopped => (.error stopped, h)
  | .ok params =>
    match h.rootBackfile h.chainRounds (str "/data/" ++ params.imageName) with
    | .error stopped => (.error stopped, h)
    | .ok root => (.ok params.taskId, h.addTask w wallet rentEnd params root)

end Host

end DbcNode
