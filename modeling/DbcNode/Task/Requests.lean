import DbcNode.Task.Disks
import DbcNode.Task.Modify

namespace DbcNode

/-- What a request asks of the task that it names. -/
inductive TaskOperation
  | list
  | start
  | shutdown
  | poweroff
  | stop
  | restart (forceReboot : Bool)
  | reset
  | delete
  | modify (additional : Json)
  | passwd (additional : Json)
  | logs (headOrTail numberOfLines : Int)
  | listDisk
  | resizeDisk (additional : Json)
  | addDisk (additional : Json)
  | deleteDisk (additional : Json)
  | listSnapshot (snapshotName : Bytes)
  | createSnapshot (additional : Json)
  | deleteSnapshot (snapshotName : Bytes)

structure TaskRequest where
  taskId : Bytes
  operation : TaskOperation

/-- What is sent back where there is no error. -/
inductive TaskReply
  | message (text : Bytes)
  | tasks (infos : List TaskInfo)
  | log (content : Bytes)
  | disks (disks : List DiskInfo)
  | snapshots (snapshots : List (Snapshot × Option SnapshotStatus))

namespace Host

/-- A request for a state of the domain: the status of the task says that it
is on its way, and the event waits. -/
def submit (taskId : Bytes) (allowed : DomainState → Bool) (status : TaskStatus) (job : TaskJob) :
    Call Bytes := fun h =>
  if allowed (h.getDomainStatus taskId) then queued ⟨taskId, job⟩ (h.setTaskStatus taskId status)
  else fail (str "task is " ++ vmStatusString (h.getDomainStatus taskId)) h

section Task
variable (hw : Hardware) (w : World)

def startTask (taskId : Bytes) : Call Bytes := do
  let info ← existingTask taskId
  checkResource hw w taskId info
  submit taskId (fun state => state = .nostate ∨ state = .shutoff ∨ state = .pmsuspended) .starting .startTask

def shutdownTask (taskId : Bytes) : Call Bytes := do
  let _ ← existingTask taskId
  submit taskId (fun state => state ≠ .shutoff ∧ state ≠ .shutdown) .beingShutdown .shutdownTask

def poweroffTask (taskId : Bytes) : Call Bytes := do
  let _ ← existingTask taskId
  submit taskId (fun state => state ≠ .shutoff) .beingPoweroff .powerOffTask

def restartTask (taskId : Bytes) (forceReboot : Bool) : Call Bytes := do
  let info ← existingTask taskId
  checkResource hw w taskId info
  submit taskId (fun state => state = .nostate ∨ state = .shutoff ∨ state = .running) .restarting
    (if forceReboot then .forceRebootTask else .reStartTask)

def resetTask (taskId : Bytes) : Call Bytes := do
  let _ ← existingTask taskId
  submit taskId (fun state => state = .running) .resetting .resetTask

def deleteTask (taskId : Bytes) : Call Bytes := do
  let _ ← existingTask taskId
  submit taskId (fun _ => true) .deleting .deleteTask

/-- Why a new password is refused. -/
def passwdError (taskId : Bytes) (doc : Json) (h : Host) : Option Bytes :=
  if h.getDomainStatus taskId ≠ .running then some (str "Only the running task can change the password")
  else if doc.isObject = false then some (str "additional parse failed")
  else if doc.parseString (str "password") = [] then some (str "password can not be empty")
  else if doc.parseString (str "username") = [] then some (str "user name can not be empty")
  else w.setUserPassword

def passwdTask (taskId : Bytes) (doc : Json) : Call Bytes := do
  let _ ← existingTask taskId
  refuse (passwdError w taskId doc)
  Prog.update (setInfo taskId (fun info =>
    let info := { info with loginPassword := doc.parseString (str "password") }
    if info.loginUsername = [] ∨ info.loginUsername = str "N/A" then
      { info with loginUsername := doc.parseString (str "username") }
    else info))
  pure (str "ok")

def getTaskLog (taskId : Bytes) : Call Bytes := do
  let _ ← existingTask taskId
  fun h => match w.domainLog taskId with
    | .error error => (.error (.thrown error), h)
    | .ok content => (.ok content, h)

/-- What libvirt says replaces a status that it contradicts. -/
def queryTaskStatus (taskId : Bytes) (h : Host) : Host :=
  match h.taskInfos.find taskId with
  | none => h
  | some info =>
    let state := h.getDomainStatus taskId
    if (info.taskStatus = .shutoff ∧ state ≠ .shutoff) ∨ (info.taskStatus = .running ∧ state ≠ .running) ∨
        (info.taskStatus = .pmSuspend ∧ state ≠ .pmsuspended) then
      if state = .shutoff ∨ state = .shutdown then h.setTaskStatus taskId .shutoff
      else if state = .running ∨ state = .paused ∨ state = .blocked then h.setTaskStatus taskId .running
      else if state = .pmsuspended then h.setTaskStatus taskId .pmSuspend
      else h
    else h

end Task

section Handlers
variable (hw : Hardware) (w : World)

/-- The tasks of the wallet, or the one that it names among them. -/
def taskList (wallet taskId : Bytes) : Call TaskReply := fun h =>
  if taskId = [] then
    let infos := (h.taskIdsOf wallet).filterMap h.taskInfos.find
    (.ok (.tasks infos), infos.foldl (fun h info => h.queryTaskStatus info.taskId) h)
  else match h.findTask wallet taskId with
    | none => (.error (.thrown (str "task_id not exist")), h)
    | some info => (.ok (.tasks [info]), h.queryTaskStatus taskId)

/-- `MAX_NUMBER_OF_LINES`. -/
def maxNumberOfLines : Int := 100

def logsError (headOrTail numberOfLines : Int) : Option Bytes :=
  if headOrTail ≠ 0 ∧ headOrTail ≠ 1 then some (str "request head_or_tail is invalid")
  else if numberOfLines > maxNumberOfLines ∨ numberOfLines < 0 then some (str "req_number_of_lines is invalid:")
  else none

def taskLogs (taskId : Bytes) (headOrTail numberOfLines : Int) : Call TaskReply := do
  refuse (fun _ => logsError headOrTail numberOfLines)
  let content ← getTaskLog w taskId
  pure (.log content)

/-- A disk operation needs a task that has disks. -/
def diskTask (taskId : Bytes) : Call Unit := do
  let info ← existingTask taskId
  refuse (fun _ => if info.biosMode = str "pxe" then some (str "pxe not support disk") else none)

def doListDisk (taskId : Bytes) : Call TaskReply := do
  diskTask taskId
  Prog.fetch (fun h => .disks (h.listDisks taskId).values)

/-- A number of a request; a variable that no member sets keeps what was in
it. -/
def sizeOf (doc : Json) : Int :=
  match (doc.member (str "size")).bind Json.getInt with
  | none => w.uninitialised
  | some size => if -2 ^ 31 ≤ size ∧ size < 2 ^ 31 then size else w.uninitialised

def resizeError (doc : Json) : Option Bytes :=
  if doc.isObject = false then some (str "parse xml failed")
  else if doc.parseString (str "disk") = [] then some (str "'disk' is empty")
  else if sizeOf w doc ≤ 0 then some (str "'size' is invalid")
  else none

def doResizeDisk (taskId : Bytes) (doc : Json) : Call TaskReply := do
  diskTask taskId
  refuse (fun _ => resizeError w doc)
  let text ← resizeDisk taskId (doc.parseString (str "disk")) (sizeOf w doc * 1024 * 1024)
  pure (.message text)

def mountDirOf (doc : Json) : Bytes :=
  if doc.parseString (str "mount_dir") = [] then str "/data" else doc.parseString (str "mount_dir")

def addError (doc : Json) : Option Bytes :=
  if doc.isObject = false then some (str "parse xml failed")
  else if sizeOf w doc ≤ 0 then some (str "'size' is invalid")
  else if w.mountExists (mountDirOf doc) = false then some (mountDirOf doc ++ str " is not exist")
  else none

def doAddDisk (taskId : Bytes) (doc : Json) : Call TaskReply := do
  diskTask taskId
  refuse (fun _ => addError w doc)
  let text ← addNewDisk w taskId (sizeOf w doc * 1024 * 1024) (mountDirOf doc)
  pure (.message text)

def deleteDiskError (doc : Json) : Option Bytes :=
  if doc.isObject = false then some (str "parse xml failed")
  else if doc.parseString (str "disk") = [] then some (str "'disk' is empty")
  else none

def doDeleteDisk (taskId : Bytes) (doc : Json) : Call TaskReply := do
  diskTask taskId
  refuse (fun _ => deleteDiskError doc)
  let text ← deleteDisk taskId (doc.parseString (str "disk"))
  pure (.message text)

def statusOf (taskId : Bytes) (h : Host) (snapshot : Snapshot) : Snapshot × Option SnapshotStatus :=
  (snapshot, (h.taskSnapshots.find taskId).map (fun info => (info.status.find snapshot.name).getD .none))

def snapshotList (taskId snapshotName : Bytes) : Call TaskReply := fun h =>
  if snapshotName = [] then
    let snapshots := ((h.taskSnapshots.find taskId).map (·.snapshots)).getD []
    (.ok (.snapshots (snapshots.map (h.statusOf taskId))), h)
  else match h.getSnapshot taskId snapshotName with
    | none => (.error (.thrown (str "snapshot_name not exist")), h)
    | some snapshot => (.ok (.snapshots [h.statusOf taskId snapshot]), h)

def snapshotError (doc : Json) : Option Bytes :=
  if doc.isObject = false then some (str "parse xml failed")
  else if doc.parseString (str "snapshot_name") = [] then some (str "'snapshot_name' is empty")
  else none

def snapshotCreate (taskId : Bytes) (doc : Json) : Call TaskReply := do
  refuse (fun _ => snapshotError doc)
  let text ← createAndUploadSnapshot w taskId (doc.parseString (str "snapshot_name")) (doc.parseString (str "desc"))
  pure (.message text)

def snapshotDelete (taskId snapshotName : Bytes) : Call TaskReply := fun h =>
  match h.getSnapshot taskId snapshotName with
  | none => (.error (.thrown (snapshotName ++ str " not exist")), h)
  | some _ => (.ok (.message (str "ok")), h.terminateUploadSnapshot taskId snapshotName)

/-- The handler of an authorised request, with the wallet that it was
authorised for. -/
def execute (wallet : Bytes) (request : TaskRequest) : Call TaskReply :=
  match request.operation with
  | .list => taskList wallet request.taskId
  | .start => .message <$> startTask hw w request.taskId
  | .shutdown => .message <$> shutdownTask request.taskId
  | .poweroff => .message <$> poweroffTask request.taskId
  | .stop => .message <$> poweroffTask request.taskId
  | .restart forceReboot => .message <$> restartTask hw w request.taskId forceReboot
  | .reset => .message <$> resetTask request.taskId
  | .delete => .message <$> deleteTask request.taskId
  | .modify additional => .message <$> modifyTask hw w request.taskId additional
  | .passwd additional => .message <$> passwdTask w request.taskId additional
  | .logs headOrTail numberOfLines => taskLogs w request.taskId headOrTail numberOfLines
  | .listDisk => doListDisk request.taskId
  | .resizeDisk additional => doResizeDisk w request.taskId additional
  | .addDisk additional => doAddDisk w request.taskId additional
  | .deleteDisk additional => doDeleteDisk request.taskId additional
  | .listSnapshot snapshotName => snapshotList request.taskId snapshotName
  | .createSnapshot additional => snapshotCreate w request.taskId additional
  | .deleteSnapshot snapshotName => snapshotDelete request.taskId snapshotName

end Handlers

end Host

end DbcNode
