import DbcNode.Task.Create

namespace DbcNode.Host

/-- The task that a request names, which libvirt has to know as well. -/
def existingTask (taskId : Bytes) : Call TaskInfo := fun h =>
  match h.taskInfos.find taskId with
  | none => (.error (.thrown (str "task not exist")), h)
  | some info => if h.isExistDomain taskId then (.ok info, h) else (.error (.thrown (str "task not exist")), h)

/-- The record of a task as it is by now. -/
def withInfo {α : Type} (taskId : Bytes) (call : TaskInfo → Call α) : Call α := fun h =>
  match h.taskInfos.find taskId with
  | none => (.error (.thrown (str "task not exist")), h)
  | some info => call info h

def modifyPublicIp (w : World) (taskId newPublicIp : Bytes) : Call Bool := withInfo taskId (fun info h =>
  match h.checkPublicIp w newPublicIp taskId with
  | some error => (.error (.thrown error), h)
  | none =>
    if newPublicIp = info.publicIp then (.ok false, h)
    else (.ok true, (h.updateInfo taskId (fun info => { info with publicIp := newPublicIp })).setIptable taskId
      (fun iptable => { iptable with publicIp := newPublicIp })))

/-- One of the two ports that a host passes on to a task, with the name it
has in a request. -/
structure PortField where
  name : Bytes
  get : TaskInfo → UInt16
  set : UInt16 → TaskInfo → TaskInfo
  setIptable : UInt16 → IptableInfo → IptableInfo

def sshField : PortField :=
  ⟨str "new_ssh_port", (·.sshPort), fun port info => { info with sshPort := port },
    fun port iptable => { iptable with sshPort := port }⟩

def rdpField : PortField :=
  ⟨str "new_rdp_port", (·.rdpPort), fun port info => { info with rdpPort := port },
    fun port iptable => { iptable with rdpPort := port }⟩

/-- Why a new port is refused. -/
def portError (field : PortField) (taskId text : Bytes) (info : TaskInfo) (h : Host) : Option Bytes :=
  if portOf text = 0 then some (field.name ++ str " " ++ text ++ str " is invalid! (usage: > 0)")
  else if info.publicIp = [] ∧ h.checkPortConflict (portOf text) taskId ≠ none then
    some (field.name ++ str " " ++ text ++ str " has been used!")
  else none

def modifyPort (field : PortField) (taskId : Bytes) (doc : Json) : Call Bool := withInfo taskId (fun info h =>
  let text := doc.parseString field.name
  if text = [] then (.ok false, h)
  else match h.portError field taskId text info with
    | some error => (.error (.thrown error), h)
    | none =>
      if portOf text = field.get info then (.ok false, h)
      else
        (.ok true,
          (h.updateInfo taskId (field.set (portOf text))).setIptable taskId (field.setIptable (portOf text))))

/-- Two new ports that are the same are refused, after they were set. -/
def samePorts (doc : Json) : Option Bytes :=
  let ssh := doc.parseString sshField.name
  let rdp := doc.parseString rdpField.name
  if ssh ≠ [] ∧ rdp ≠ [] ∧
    portOf ssh = portOf rdp then some (str "new_ssh_port and new_rdp_port are the same!") else none

/-- `GetString` of each item of an array. -/
def allTexts (items : List Json) : Option (List Bytes) := items.mapM Json.getString

def modifyCustomPort (taskId : Bytes) (doc : Json) : Call Bool := withInfo taskId (fun info h =>
  match (doc.member (str "new_custom_port")).bind Json.getArray with
  | none => (.ok false, h)
  | some items =>
    match allTexts items with
    | none => (.error .asserted, h)
    | some ports =>
      if ports = info.customPort then (.ok false, h)
      else (.ok true, (h.updateInfo taskId (fun info => { info with customPort := ports })).setIptable taskId
        (fun iptable => { iptable with customPort := ports })))

def resetIptables (taskId : Bytes) (needed : Bool) (h : Host) : Host :=
  if needed then (h.removeIptableFromSystem taskId).addIptableToSystem taskId else h

def modifyNwfilter (w : World) (taskId : Bytes) (doc : Json) : Call Unit := withInfo taskId (fun info h =>
  match (doc.member (str "new_network_filters")).bind Json.getArray with
  | none => (.ok (), h)
  | some items =>
    let nwfilter := items.filterMap Json.getString
    if nwfilter = info.nwfilter then (.ok (), h)
    else
      let h := h.updateInfo taskId (fun info => { info with nwfilter := nwfilter })
      if w.defineNwfilter then (.ok (), h) else (.error (.thrown (str "modify network filter error")), h))

def vncError (taskId text : Bytes) (h : Host) : Option Bytes :=
  if portOf text < 5900 ∨ portOf text > 6000 then
    some (str "new_vnc_port " ++ text ++ str " is invalid! (usage: 5900 =< port <= 6000)")
  else if h.checkPortConflict (portOf text) taskId ≠ none then
    some (str "new_vnc_port " ++ text ++ str " has been used!")
  else none

def modifyVncPort (taskId : Bytes) (doc : Json) : Call Bool := withInfo taskId (fun info h =>
  let text := doc.parseString (str "new_vnc_port")
  if text = [] then (.ok false, h)
  else match h.vncError taskId text with
    | some error => (.error (.thrown error), h)
    | none =>
      if portOf text = info.vncPort then (.ok false, h)
      else (.ok true, h.setInfo taskId (fun info => { info with vncPort := portOf text })))

/-- The GPUs of the task are replaced by ones that nobody uses, also where
their number stays the same. -/
def modifyGpus (hw : Hardware) (taskId : Bytes) (doc : Json) : Call Bool := fun h =>
  let text := doc.parseString (str "new_gpu_count")
  if text = [] then (.ok false, h)
  else match h.allocateGpu hw (portOf text).toNat with
    | none => (.error (.thrown (str "allocate gpu failed")), h)
    | some gpus => (.ok true, { h with taskGpus := h.taskGpus.insert taskId gpus })

def modifyCpu (hw : Hardware) (taskId : Bytes) (doc : Json) : Call Bool := withInfo taskId (fun info h =>
  let text := doc.parseString (str "new_cpu_cores")
  if text = [] then (.ok false, h)
  else match allocateCpu hw (atoi text) ⟨1, 1, 2⟩ with
    | none => (.error (.thrown (str "allocate cpu failed")), h)
    | some cpu =>
      if cpu = ⟨info.cpuSockets, info.cpuCoresPerSocket, info.cpuThreadsPerCore⟩ then (.ok false, h)
      else (.ok true, h.setInfo taskId (fun info =>
        { info with cpuSockets := cpu.sockets, cpuCoresPerSocket := cpu.cores, cpuThreadsPerCore := cpu.threads })))

def modifyMem (w : World) (taskId : Bytes) (doc : Json) : Call Bool := withInfo taskId (fun info h =>
  let text := doc.parseString (str "new_mem_size")
  if text = [] then (.ok false, h)
  else if allocateMemTwice w (memSizeOf text) = false then (.error (.thrown (str "allocate memory failed")), h)
  else if memSizeOf text = info.memSize then (.ok false, h)
  else (.ok true, h.setInfo taskId (fun info => { info with memSize := memSizeOf text })))

def redefine (w : World) (taskId : Bytes) (needed : Bool) : Call Unit := withInfo taskId (fun info h =>
  if needed then
    match h.redefineDomain w taskId info with
    | (some error, h) => (.error (.thrown error), h)
    | (none, h) => (.ok (), h)
  else (.ok (), h))

/-- The ports and filters of a task, which take effect at once. -/
def modifyNetwork (w : World) (taskId : Bytes) (doc : Json) : Call Unit := do
  let ip ← modifyPublicIp w taskId (doc.parseString (str "new_public_ip"))
  let ssh ← modifyPort sshField taskId doc
  let rdp ← modifyPort rdpField taskId doc
  refuse (fun _ => samePorts doc)
  let custom ← modifyCustomPort taskId doc
  Prog.update (resetIptables taskId (ip || ssh || rdp || custom))
  modifyNwfilter w taskId doc

/-- What the domain is made of, which takes effect when it starts again. -/
def modifyDomain (hw : Hardware) (w : World) (taskId : Bytes) (doc : Json) : Call Bool := do
  let vnc ← modifyVncPort taskId doc
  let gpu ← modifyGpus hw taskId doc
  let cpu ← modifyCpu hw taskId doc
  let mem ← modifyMem w taskId doc
  pure (vnc || gpu || cpu || mem)

def modifyTask (hw : Hardware) (w : World) (taskId : Bytes) (doc : Json) : Call Bytes := do
  let _ ← existingTask taskId
  refuse (fun _ => if doc.isObject then none else some (str "additional parse failed"))
  modifyNetwork w taskId doc
  let needed ← modifyDomain hw w taskId doc
  redefine w taskId needed
  pure (if needed then str "some changes will take effect on the next boot" else str "ok")

end DbcNode.Host
