import DbcNode.Lib.Stages
import DbcNode.Task.Gpus
import DbcNode.Task.Edits

namespace DbcNode

namespace Host

/-- What a request to modify a task can set in its records, with the name
that each has in the request. -/
inductive Setting
  | publicIp
  | sshPort
  | rdpPort
  | customPort
  | nwfilter
  | vncPort
  | cpu
  | memory
  deriving DecidableEq

namespace Setting

def key : Setting → Bytes
  | .publicIp => str "new_public_ip"
  | .sshPort => str "new_ssh_port"
  | .rdpPort => str "new_rdp_port"
  | .customPort => str "new_custom_port"
  | .nwfilter => str "new_network_filters"
  | .vncPort => str "new_vnc_port"
  | .cpu => str "new_cpu_cores"
  | .memory => str "new_mem_size"

def Value : Setting → Type
  | .publicIp => Option Bytes × Option Bytes
  | .sshPort => Option UInt16 × Option UInt16
  | .rdpPort => Option UInt16 × Option UInt16
  | .customPort => Option (List Bytes) × Option (List Bytes)
  | .nwfilter => Option (List Bytes)
  | .vncPort => Option UInt16
  | .cpu => Option CpuTopology
  | .memory => Option Int

/-- A setting in the record of a task and, where they have it, in its
rules. -/
def get : (setting : Setting) → Option TaskInfo → Option IptableInfo → setting.Value
  | .publicIp => fun info iptable => (info.map (·.publicIp), iptable.map (·.publicIp))
  | .sshPort => fun info iptable => (info.map (·.sshPort), iptable.map (·.sshPort))
  | .rdpPort => fun info iptable => (info.map (·.rdpPort), iptable.map (·.rdpPort))
  | .customPort => fun info iptable => (info.map (·.customPort), iptable.map (·.customPort))
  | .nwfilter => fun info _ => info.map (·.nwfilter)
  | .vncPort => fun info _ => info.map (·.vncPort)
  | .cpu => fun info _ => info.map (fun info => ⟨info.cpuSockets, info.cpuCoresPerSocket, info.cpuThreadsPerCore⟩)
  | .memory => fun info _ => info.map (·.memSize)

/-- A setter that is about one setting. -/
def SetBy (setting : Setting) (change : TaskInfo → TaskInfo) (rules : IptableInfo → IptableInfo) : Prop :=
  ∀ other : Setting, other ≠ setting → ∀ info iptable,
    other.get (Option.map change info) (Option.map rules iptable) = other.get info iptable

end Setting

/-- What the stages of a modification read and write: a setting each, the
GPUs, and what none of them touches. -/
inductive ModifyPart
  | setting (setting : Setting)
  | gpus
  | rest
  deriving DecidableEq

def ModifyPart.Value : ModifyPart → Type
  | .setting one => one.Value
  | .gpus => OrdMap Bytes (OrdMap Bytes (List Bytes))
  | .rest => Bool × (Bytes → Option TaskInfo) × OrdMap Bytes Domain

/-- The records of the other tasks. -/
def otherInfos (taskId : Bytes) (h : Host) (other : Bytes) : Option TaskInfo :=
  if other = taskId then none else h.taskInfos.find other

def ModifyPart.read (taskId : Bytes) : (part : ModifyPart) → Host → part.Value
  | .setting one => fun h => one.get (h.taskInfos.find taskId) (h.taskIptables.find taskId)
  | .gpus => fun h => h.taskGpus
  | .rest => fun h => ((h.taskInfos.find taskId).isSome, h.otherInfos taskId, h.domains)

def settings (taskId : Bytes) : Layout Host ModifyPart := ⟨ModifyPart.Value, ModifyPart.read taskId⟩

/-- A setter on the record of a task and on its rules. -/
structure SetTo (taskId : Bytes) (change : TaskInfo → TaskInfo) (rules : IptableInfo → IptableInfo) (h k : Host) :
    Prop where
  own : k.taskInfos.find taskId = (h.taskInfos.find taskId).map change
  passed : k.taskIptables.find taskId = (h.taskIptables.find taskId).map rules
  others : k.otherInfos taskId = h.otherInfos taskId
  gpus : k.taskGpus = h.taskGpus
  domains : k.domains = h.domains

namespace SetTo
variable {taskId : Bytes} {change : TaskInfo → TaskInfo} {rules : IptableInfo → IptableInfo} {h k : Host}

theorem otherInfos_insert (info : TaskInfo) :
    otherInfos taskId { h with taskInfos := h.taskInfos.insert taskId info } = h.otherInfos taskId := by
  funext other
  unfold otherInfos
  split
  · rfl
  · rename_i different
    exact OrdMap.find_insert_ne different _ _

theorem setInfo (taskId : Bytes) (change : TaskInfo → TaskInfo) (h : Host) :
    SetTo taskId change id h (h.setInfo taskId change) := by
  have own : (h.setInfo taskId change).taskInfos.find taskId = (h.taskInfos.find taskId).map change :=
    congrArg Prod.fst (setInfo_record change)
  refine ⟨own, ?_, ?_, ?_, ?_⟩ <;> unfold Host.setInfo <;> split
  · exact Option.map_id'.symm
  · exact Option.map_id'.symm
  · rfl
  · exact otherInfos_insert _
  all_goals rfl

theorem updateInfo (taskId : Bytes) (change : TaskInfo → TaskInfo) (h : Host) :
    SetTo taskId change id h (h.updateInfo taskId change) := by
  unfold Host.updateInfo
  split
  · rename_i unknown
    refine ⟨?_, Option.map_id'.symm, rfl, rfl, rfl⟩
    rw [unknown]
    rfl
  · rename_i info known
    refine ⟨?_, Option.map_id'.symm, otherInfos_insert _, rfl, rfl⟩
    rw [known]
    exact OrdMap.find_insert_self _ _ _

/-- The setting goes on to the rules. -/
theorem setIptable (set : SetTo taskId change id h k) (rules : IptableInfo → IptableInfo) :
    SetTo taskId change rules h (k.setIptable taskId rules) := by
  have passed : k.taskIptables.find taskId = h.taskIptables.find taskId := set.passed.trans Option.map_id'
  unfold Host.setIptable
  rw [passed]
  split
  · rename_i none
    refine ⟨set.own, ?_, set.others, set.gpus, set.domains⟩
    rw [passed, none]
    rfl
  · rename_i iptable found
    refine ⟨set.own, ?_, set.others, set.gpus, set.domains⟩
    rw [found]
    exact OrdMap.find_insert_self _ _ _

/-- A setter of one setting leaves the others as they are. -/
theorem only {setting : Setting} (set : SetTo taskId change rules h k) (setBy : setting.SetBy change rules) :
    (settings taskId).ModifiesOnly {.setting setting} h k := by
  intro part outside
  cases part with
  | setting other =>
    have different : other ≠ setting := fun same => outside (congrArg ModifyPart.setting same)
    change other.get _ _ = other.get _ _
    rw [set.own, set.passed]
    exact setBy other different _ _
  | gpus => exact set.gpus
  | rest =>
    change ((k.taskInfos.find taskId).isSome, k.otherInfos taskId, k.domains) = (_, h.otherInfos taskId, h.domains)
    rw [set.own, Option.isSome_map, set.others, set.domains]

end SetTo

section Stages
variable (hw : Hardware) (w : World) (taskId : Bytes) (doc : Json) (info : TaskInfo) (h : Host)

def ipStage : Stage ModifyPart :=
  let ip := doc.parseString (str "new_public_ip")
  ⟨.setting .publicIp, (h.checkPublicIp w ip taskId).isSome, ip ≠ info.publicIp⟩

/-- The ports of a task are its own where it is about to have a public
ip. -/
def portStage (setting : Setting) (field : PortField) : Stage ModifyPart :=
  let text := doc.parseString field.name
  ⟨.setting setting,
    text ≠ [] ∧ (portOf text = 0 ∨ doc.parseString (str "new_public_ip") = [] ∧
      (h.checkPortConflict (portOf text) taskId).isSome),
    text ≠ [] ∧ portOf text ≠ field.get info⟩

def samePortsStage : Stage ModifyPart := ⟨.rest, (samePorts doc).isSome, false⟩

/-- The new custom ports, which have to be texts. -/
def customPorts : Option (Option (List Bytes)) :=
  ((doc.member (str "new_custom_port")).bind Json.getArray).map allTexts

def customStage : Stage ModifyPart :=
  ⟨.setting .customPort, false, customPorts doc ≠ none ∧ customPorts doc ≠ some (some info.customPort)⟩

def nwfilterStage : Stage ModifyPart :=
  ⟨.setting .nwfilter, false, ((doc.member (str "new_network_filters")).bind Json.getArray).any (fun items =>
    items.filterMap Json.getString ≠ info.nwfilter)⟩

/-- New filters are handed to libvirt when they have been recorded. -/
def filterStage : Stage ModifyPart :=
  ⟨.rest, (nwfilterStage doc info).changes ∧ w.defineNwfilter = false, false⟩

def vncStage : Stage ModifyPart :=
  let text := doc.parseString (str "new_vnc_port")
  ⟨.setting .vncPort, text ≠ [] ∧ (h.vncError taskId text).isSome, text ≠ [] ∧ portOf text ≠ info.vncPort⟩

def gpuAsked : Bool := doc.parseString (str "new_gpu_count") ≠ []

def gpuStage : Stage ModifyPart :=
  let allocated := h.allocateGpu hw (portOf (doc.parseString (str "new_gpu_count"))).toNat
  ⟨.gpus, gpuAsked doc ∧ allocated.isNone,
    gpuAsked doc ∧ allocated.map (·.entries) ≠ (h.taskGpus.find taskId).map (·.entries)⟩

def cpuStage : Stage ModifyPart :=
  let text := doc.parseString (str "new_cpu_cores")
  let allocated := allocateCpu hw (atoi text) ⟨1, 1, 2⟩
  ⟨.setting .cpu, text ≠ [] ∧ allocated = none,
    text ≠ [] ∧ allocated ≠ some ⟨info.cpuSockets, info.cpuCoresPerSocket, info.cpuThreadsPerCore⟩⟩

def memStage : Stage ModifyPart :=
  let text := doc.parseString (str "new_mem_size")
  ⟨.setting .memory, text ≠ [] ∧ allocateMemTwice w (memSizeOf text) = false, text ≠ [] ∧
    memSizeOf text ≠ info.memSize⟩

/-- The domain is defined again where something of it may have changed. -/
def redefineNeeded : Bool :=
  (vncStage taskId doc info h).changes || gpuAsked doc || (cpuStage hw doc info).changes ||
    (memStage w doc info).changes

def redefineStage : Stage ModifyPart := ⟨.rest, redefineNeeded hw w taskId doc info h && !w.defineDomain, false⟩

/-- The stages of a modification in their order, by what they would do on
the state that the call finds. The call dies on a custom port that is no
text. -/
def modifyStages : List (Stage ModifyPart) :=
  ipStage w taskId doc info h :: portStage taskId doc info h .sshPort sshField ::
    portStage taskId doc info h .rdpPort rdpField :: samePortsStage doc ::
    if customPorts doc = some none then []
    else [customStage doc info, nwfilterStage doc info, filterStage w doc info, vncStage taskId doc info h,
      gpuStage hw taskId doc h, cpuStage hw doc info, memStage w doc info, redefineStage hw w taskId doc info h]

end Stages

end Host

end DbcNode
