import DbcNode.Task.CreateXml
import DbcNode.Task.Host

namespace DbcNode

open Xml

/-- `getTotalCores`. -/
def TaskInfo.totalCores (info : TaskInfo) : Int := info.cpuSockets * info.cpuCoresPerSocket * info.cpuThreadsPerCore

/-- `createXmlStr` with the records of a task, as `CreateDomain` calls
it. -/
def XmlParams.withRecords (p : XmlParams) (info : TaskInfo) (gpus : OrdMap Bytes (List Bytes)) : XmlParams :=
  { p with
    memory := info.memSize
    cpunum := info.totalCores
    sockets := info.cpuSockets
    cores := info.cpuCoresPerSocket
    threads := info.cpuThreadsPerCore
    vedioPci := vgaPci gpus
    vncPort := info.vncPort.toNat }

def plainHostdev (address : PciAddress) : Xml := tag "hostdev" hostdevAttributes [sourceNode address]

def setVnc (port : Int) (graphics : Xml) : Xml :=
  (graphics.setAttribute (str "port") (signedText port)).setAttribute (str "autoport") (autoport port)

/-- The loop over the screens, up to the first one of `vnc`. -/
def changeVnc (port : Int) : List Xml → Option (List Xml)
  | [] => some []
  | node :: rest =>
    if node.isNamed (str "graphics") then
      (node.attributeOf (str "type")).bind fun graphicsType =>
        if graphicsType = str "vnc" then some (setVnc port node :: rest) else (changeVnc port rest).map (node :: ·)
    else (changeVnc port rest).map (node :: ·)

def redefineTopology (info : TaskInfo) (topology : Xml) : Xml :=
  ((topology.setAttribute (str "sockets") (signedText info.cpuSockets)).setAttribute (str "cores")
    (signedText info.cpuCoresPerSocket)).setAttribute (str "threads") (signedText info.cpuThreadsPerCore)

/-- A processor without a topology is a null pointer. -/
def redefineCpu (info : TaskInfo) (cpu : Xml) : Option Xml :=
  if (cpu.firstChild (str "topology")).isNone then none
  else cpu.changeChild (str "topology") fun topology => some (redefineTopology info topology)

def redefineDevices (info : TaskInfo) (gpus : OrdMap Bytes (List Bytes)) (nodes : List Xml) : Option (List Xml) :=
  changeVnc info.vncPort.toNat
    (nodes.filter (fun node => ! node.isNamed (str "hostdev")) ++ (pciAddresses (vgaPci gpus)).map plainHostdev)

/-- The sizes of the memory and the processor. -/
def redefineSizes (info : TaskInfo) (root : Xml) : Option Xml := do
  let root ← root.changeChild (str "memory") fun node => some (node.setText (signedText info.memSize))
  let root ← root.changeChild (str "currentMemory") fun node => some (node.setText (signedText info.memSize))
  let root ← root.changeChild (str "vcpu") fun node => some (node.setText (signedText info.totalCores))
  root.changeChild (str "cpu") (redefineCpu info)

/-- `RedefineDomain`, from one description of the domain to the next. -/
def redefineXml (info : TaskInfo) (gpus : OrdMap Bytes (List Bytes)) (root : Xml) : Option Xml := do
  let root ← redefineSizes info root
  root.changeChild (str "devices") fun devices =>
    (redefineDevices info gpus devices.children).map devices.withChildren

/-- The nodes of the devices. -/
def devicesOf (root : Xml) : List Xml := ((root.firstChild (str "devices")).map (·.children)).getD []

/-- The description with no devices. -/
def withoutDevices (root : Xml) : Option Xml := root.changeChild (str "devices") fun devices =>
    some (devices.withChildren [])

/-- Two descriptions are the same up to the order of their devices. -/
structure SameDomain (one other : Xml) : Prop where
  frame : withoutDevices one = withoutDevices other
  devices : (devicesOf one).Perm (devicesOf other)

/-- A definition by `createXmlStr` becomes the one for the new records, up
to the order of devices. -/
def RedefinesRight (p : XmlParams) (info : TaskInfo) (gpus : OrdMap Bytes (List Bytes)) : Prop :=
  ∀ root, p.createXmlStr = some root → ∃ redefined direct, redefineXml info gpus root = some redefined ∧
    (p.withRecords info gpus).createXmlStr = some direct ∧ SameDomain redefined direct

section Document
variable (p q : XmlParams) (info : TaskInfo) (gpus : OrdMap Bytes (List Bytes)) {currentMemory vcpu cpu : Xml}
  {nodes : List Xml} {change : Xml → Option Xml}

theorem change_memory :
    (p.root (q.memoryNode "memory") currentMemory vcpu cpu nodes).changeChild (str "memory") change =
      (change (q.memoryNode "memory")).map fun node => p.root node currentMemory vcpu cpu nodes :=
  changeChild_append [tag "name" [] [text p.domainName], tag "uuid" [] [text p.uuid]] rfl rfl rfl

theorem change_currentMemory (r : XmlParams) :
    (p.root (q.memoryNode "memory") (r.memoryNode "currentMemory") vcpu cpu nodes).changeChild
      (str "currentMemory") change = (change (r.memoryNode "currentMemory")).map fun node =>
        p.root (q.memoryNode "memory") node vcpu cpu nodes :=
  changeChild_append [tag "name" [] [text p.domainName], tag "uuid" [] [text p.uuid],
    q.memoryNode "memory"] rfl rfl rfl

theorem change_vcpu (r : XmlParams) :
    (p.root (q.memoryNode "memory") (q.memoryNode "currentMemory") r.vcpuNode cpu nodes).changeChild
      (str "vcpu") change = (change r.vcpuNode).map fun node =>
        p.root (q.memoryNode "memory") (q.memoryNode "currentMemory") node cpu nodes :=
  changeChild_append [tag "name" [] [text p.domainName], tag "uuid" [] [text p.uuid], q.memoryNode "memory",
    q.memoryNode "currentMemory"] rfl rfl rfl

theorem change_cpu (r : XmlParams) :
    (p.root (q.memoryNode "memory") (q.memoryNode "currentMemory") q.vcpuNode r.cpuNode nodes).changeChild
      (str "cpu") change = (change r.cpuNode).map fun node =>
        p.root (q.memoryNode "memory") (q.memoryNode "currentMemory") q.vcpuNode node nodes :=
  changeChild_append [tag "name" [] [text p.domainName], tag "uuid" [] [text p.uuid], q.memoryNode "memory",
    q.memoryNode "currentMemory", q.vcpuNode, p.osNode, XmlParams.featuresNode] rfl rfl rfl

theorem change_devices : (p.document nodes).changeChild (str "devices") change =
    (change (tag "devices" [] nodes)).map fun node => (p.document []).withChildren
      ([tag "name" [] [text p.domainName], tag "uuid" [] [text p.uuid], p.memoryNode "memory",
        p.memoryNode "currentMemory", p.vcpuNode, p.osNode, XmlParams.featuresNode, p.cpuNode, p.clockNode] ++
        node :: [p.commandlineNode]) :=
  changeChild_append _ rfl rfl rfl

theorem redefineTopology_topologyNode :
    redefineTopology info p.topologyNode = (p.withRecords info gpus).topologyNode := by
  simp only [redefineTopology, XmlParams.topologyNode, tag, List.map_cons, List.map_nil, setAttribute]
  rw [setIn_self, setIn_of_ne (by decide), setIn_self, setIn_of_ne (by decide), setIn_of_ne (by decide), setIn_self]
  rfl

theorem redefineCpu_cpuNode : redefineCpu info p.cpuNode = some (p.withRecords info gpus).cpuNode := by
  have present : (p.cpuNode.firstChild (str "topology")).isNone = false := rfl
  rw [redefineCpu, present, if_neg Bool.false_ne_true, changeChild_append [] rfl rfl rfl,
    redefineTopology_topologyNode p info gpus]
  rfl

theorem redefineSizes_document :
    redefineSizes info (p.document nodes) = some ((p.withRecords info gpus).document nodes) := by
  let q := p.withRecords info gpus
  have memory : (p.memoryNode "memory").setText (signedText info.memSize) = q.memoryNode "memory" := rfl
  have currentMemory : (p.memoryNode "currentMemory").setText (signedText info.memSize) =
    q.memoryNode "currentMemory" := rfl
  have vcpu : p.vcpuNode.setText (signedText info.totalCores) = q.vcpuNode := rfl
  rw [redefineSizes, XmlParams.document, change_memory, memory, Option.map_some, Option.bind_eq_bind,
    Option.bind_some,
    change_currentMemory, currentMemory, Option.map_some, Option.bind_some, change_vcpu, vcpu, Option.map_some,
    Option.bind_some, change_cpu, redefineCpu_cpuNode p info gpus, Option.map_some]
  rfl

/-- Outside of the devices the description becomes the one for the new
records. -/
theorem redefineXml_document : redefineXml info gpus (p.document nodes) =
    (redefineDevices info gpus nodes).map (p.withRecords info gpus).document := by
  rw [redefineXml, redefineSizes_document p info gpus, Option.bind_eq_bind, Option.bind_some, change_devices,
    Option.map_map]
  rfl

theorem withoutDevices_document : withoutDevices (p.document nodes) = some (p.document []) := by
  rw [withoutDevices, change_devices]
  rfl

theorem devicesOf_document : devicesOf (p.document nodes) = nodes := rfl

theorem sameDomain_document {others : List Xml} : SameDomain (p.document nodes) (p.document others) ↔
    nodes.Perm others :=
  ⟨fun same => same.devices, fun same => ⟨by rw [withoutDevices_document, withoutDevices_document], same⟩⟩

end Document

section Devices
variable (p : XmlParams) (info : TaskInfo) (gpus : OrdMap Bytes (List Bytes)) {network : List Xml}

/-- The names of the devices that are neither passed through nor a
screen. -/
def otherNames : List Bytes :=
    [str "video", str "input", str "disk", str "channel", str "interface", str "memballoon"]

def OtherNodes (nodes : List Xml) : Prop := ∀ node ∈ nodes, ∃ name ∈ otherNames, node.isNamed name = true

theorem OtherNodes.apart {name : Bytes} {nodes : List Xml} (others : OtherNodes nodes)
    (absent : name ∉ otherNames) :
    nodes.any (isNamed name) = false := by
  rw [List.any_eq_false]
  intro node member
  obtain ⟨own, listed, named⟩ := others node member
  have apart : own ≠ name := fun same => absent (same ▸ listed)
  rw [isNamed_apart named apart]
  exact Bool.false_ne_true

theorem OtherNodes.append {nodes more : List Xml} (here : OtherNodes nodes) (there : OtherNodes more) :
    OtherNodes (nodes ++ more) := by
  intro node member
  rcases List.mem_append.mp member with left | right
  · exact here node left
  · exact there node right

theorem otherNodes_interfaces {nodes : List Xml} (named : ∀ node ∈ nodes, node.isNamed (str "interface") = true) :
    OtherNodes nodes := fun node member => ⟨str "interface", by decide, named node member⟩

theorem mcastNode_named {address : Bytes} {node : Xml} (made : XmlParams.mcastNode address = some node) :
    node.isNamed (str "interface") = true := by
  unfold XmlParams.mcastNode at made
  split at made
  · cases made
    rfl
  · cases made

theorem mcastNodes_named {addresses : List Bytes} {nodes : List Xml}
    (made : addresses.mapM XmlParams.mcastNode = some nodes) :
    ∀ node ∈ nodes, node.isNamed (str "interface") = true := by
  induction addresses generalizing nodes with
  | nil =>
    cases made
    exact nofun
  | cons address rest ih =>
    rw [List.mapM_cons] at made
    obtain ⟨first, here, made⟩ := Option.bind_eq_some_iff.mp made
    obtain ⟨others, there, made⟩ := Option.bind_eq_some_iff.mp made
    cases made
    exact List.forall_mem_cons.mpr ⟨mcastNode_named here, ih there⟩

theorem networkNodes_named (made : p.networkNodes = some network) :
    ∀ node ∈ network, node.isNamed (str "interface") = true := by
  unfold XmlParams.networkNodes at made
  split at made
  · cases made
    exact List.forall_mem_singleton.mpr rfl
  · obtain ⟨mcasts, listed, same⟩ := Option.map_eq_some_iff.mp made
    subst same
    refine List.forall_mem_cons.mpr ⟨rfl, fun node member => ?_⟩
    rcases List.mem_append.mp member with mcast | bridge
    · exact mcastNodes_named listed node mcast
    · unfold XmlParams.bridgeNodes at bridge
      split at bridge
      · cases bridge
      · rw [List.mem_singleton.mp bridge]
        rfl

theorem otherNodes_video : OtherNodes p.videoNodes := by
  unfold XmlParams.videoNodes
  split
  · exact nofun
  split
  · exact List.forall_mem_singleton.mpr ⟨str "video", by decide, rfl⟩
  · exact List.forall_mem_cons.mpr ⟨⟨str "video", by decide, rfl⟩,
      List.forall_mem_singleton.mpr ⟨str "input", by decide, rfl⟩⟩

theorem otherNodes_disks : OtherNodes p.diskNodes := by
  unfold XmlParams.diskNodes
  split
  · exact nofun
  · exact List.forall_mem_cons.mpr ⟨⟨str "disk", by decide, rfl⟩,
      List.forall_mem_singleton.mpr ⟨str "disk", by decide, rfl⟩⟩

/-- The devices between those that are passed through and the screen. -/
theorem otherNodes_middle (made : p.networkNodes = some network) :
    OtherNodes (p.diskNodes ++ p.agentNode :: network) := by
  refine (otherNodes_disks p).append (List.forall_mem_cons.mpr ⟨⟨str "channel", by decide, rfl⟩, ?_⟩)
  exact otherNodes_interfaces (networkNodes_named p made)

theorem changeVnc_append {port : Int} {node : Xml} {rest : List Xml} (before : List Xml)
    (apart : before.any (isNamed (str "graphics")) = false) (named : node.isNamed (str "graphics") = true)
    (vnc : node.attributeOf (str "type") = some (str "vnc")) :
    changeVnc port (before ++ node :: rest) = some (before ++ setVnc port node :: rest) := by
  induction before with
  | nil =>
    rw [List.nil_append, changeVnc, if_pos named, vnc, Option.bind_some, if_pos rfl]
    rfl
  | cons first before ih =>
    rw [List.any_cons, Bool.or_eq_false_iff] at apart
    rw [List.cons_append, changeVnc, apart.1, if_neg Bool.false_ne_true, ih apart.2]
    rfl

theorem setVnc_graphicsNode :
    setVnc info.vncPort.toNat p.graphicsNode = (p.withRecords info gpus).graphicsNode := by
  simp only [setVnc, XmlParams.graphicsNode, tag, List.map_cons, List.map_nil, setAttribute]
  rw [setIn_of_ne (by decide), setIn_self, setIn_of_ne (by decide), setIn_of_ne (by decide), setIn_self]
  rfl

theorem OtherNodes.filter_eq {nodes : List Xml} (others : OtherNodes nodes) :
    nodes.filter (fun node => ! node.isNamed (str "hostdev")) = nodes := by
  have apart := List.any_eq_false.mp (others.apart (show str "hostdev" ∉ otherNames by decide))
  refine List.filter_eq_self.mpr fun node member => ?_
  rw [Bool.eq_false_of_not_eq_true (apart node member)]
  rfl

theorem filter_hostdevNodes (addresses : List PciAddress) :
    (addresses.map p.hostdevNode).filter (fun node => ! node.isNamed (str "hostdev")) = [] := by
  refine List.filter_eq_nil_iff.mpr fun node member => ?_
  obtain ⟨address, _, rfl⟩ := List.mem_map.mp member
  exact Bool.false_ne_true

/-- The devices that are passed through end up behind the others. -/
theorem redefineDevices_deviceNodes (made : p.networkNodes = some network) :
    redefineDevices info gpus (p.deviceNodes network) =
      some (p.videoNodes ++ (p.diskNodes ++ p.agentNode :: network) ++
      (p.withRecords info gpus).graphicsNode :: XmlParams.memballoonNode :: (pciAddresses (vgaPci gpus)).map
        plainHostdev) := by
  have video := otherNodes_video p
  have middle := otherNodes_middle p made
  have last : [p.graphicsNode, XmlParams.memballoonNode].filter (fun node => ! node.isNamed (str "hostdev")) =
      [p.graphicsNode, XmlParams.memballoonNode] := rfl
  rw [redefineDevices, XmlParams.deviceNodes, List.filter_append, List.filter_append, List.filter_append,
    video.filter_eq, filter_hostdevNodes, middle.filter_eq, last, List.append_nil, ← List.append_assoc,
      List.append_assoc]
  rw [List.cons_append, changeVnc_append _ ((video.append middle).apart (by decide)) rfl rfl,
    setVnc_graphicsNode p info gpus]
  rfl

theorem withRecords_networkNodes : (p.withRecords info gpus).networkNodes = p.networkNodes := rfl

theorem perm_moved {α : Type} (front middle back own other : List α) :
    (front ++ middle ++ (back ++ own)).Perm (front ++ other ++ (middle ++ back)) ↔ own.Perm other := by
  have turn : (other ++ (middle ++ back)).Perm (middle ++ (back ++ other)) := by
    rw [← List.append_assoc middle]
    exact List.perm_append_comm
  rw [List.append_assoc, List.append_assoc, List.perm_append_left_iff]
  constructor
  · intro same
    exact (List.perm_append_left_iff back).mp ((List.perm_append_left_iff middle).mp (same.trans turn))
  · intro same
    exact ((same.append_left back).append_left middle).trans turn.symm

/-- For a definition that was created, all comes down to the devices that
are passed through. -/
theorem redefinesRight_iff {root : Xml} (created : p.createXmlStr = some root) : RedefinesRight p info gpus ↔
    ((pciAddresses (vgaPci gpus)).map plainHostdev).Perm ((pciAddresses (vgaPci gpus)).map p.hostdevNode) := by
  obtain ⟨network, made, rfl⟩ := Option.map_eq_some_iff.mp created
  have direct : (p.withRecords info gpus).createXmlStr =
      some ((p.withRecords info gpus).document ((p.withRecords info gpus).deviceNodes network)) := by
    rw [XmlParams.createXmlStr, withRecords_networkNodes, made]
    rfl
  have redefined : redefineXml info gpus (p.document (p.deviceNodes network)) = _ :=
    redefineXml_document p info gpus
  rw [redefineDevices_deviceNodes p info gpus made, Option.map_some] at redefined
  have moved := perm_moved p.videoNodes (p.diskNodes ++ p.agentNode :: network)
    [(p.withRecords info gpus).graphicsNode, XmlParams.memballoonNode]
      ((pciAddresses (vgaPci gpus)).map plainHostdev)
    ((pciAddresses (vgaPci gpus)).map p.hostdevNode)
  constructor
  · intro right
    obtain ⟨_, _, here, there, same⟩ := right _ created
    rw [redefined] at here
    rw [direct] at there
    cases here
    cases there
    exact moved.mp ((sameDomain_document _).mp same)
  · intro same root again
    rw [created] at again
    cases again
    exact ⟨_, _, redefined, direct, (sameDomain_document _).mpr (moved.mpr same)⟩

theorem children_hostdevNode (windows : p.isWindows = true) (address : PciAddress) :
    (p.hostdevNode address).children.length = 2 := by
  rw [XmlParams.hostdevNode, windows, if_pos rfl]
  rfl

theorem hostdevNode_linux (linux : p.isWindows = false) : p.hostdevNode = plainHostdev := by
  funext address
  rw [XmlParams.hostdevNode, linux, if_neg Bool.false_ne_true]
  rfl

/-- The definition that `RedefineDomain` writes is the one that
`createXmlStr` would make of the new records, up to the order of its
devices, for Linux, and for Windows where no device is passed through: there
the new devices have lost their `rom`. -/
theorem redefine_right_iff {root : Xml} (created : p.createXmlStr = some root) :
    RedefinesRight p info gpus ↔ p.isWindows = false ∨ pciAddresses (vgaPci gpus) = [] := by
  rw [redefinesRight_iff p info gpus created]
  cases system : p.isWindows with
  | false =>
    rw [hostdevNode_linux p system]
    exact iff_of_true (List.Perm.refl _) (Or.inl rfl)
  | true =>
    constructor
    · intro same
      refine Or.inr (List.eq_nil_iff_forall_not_mem.mpr fun address member => ?_)
      have there := same.mem_iff.mp (List.mem_map_of_mem member)
      obtain ⟨other, _, node⟩ := List.mem_map.mp there
      have rom := congrArg (fun node => node.children.length) node
      have plain : (plainHostdev address).children.length = 1 := rfl
      rw [children_hostdevNode p system] at rom
      omega
    · rintro (linux | none)
      · cases linux
      · rw [none]
        exact List.Perm.refl _

/-- With the records that it was made from, a definition stays as it is but
for the order of its devices. -/
theorem redefine_unchanged {root : Xml} (created : (p.withRecords info gpus).createXmlStr = some root)
    (right : RedefinesRight (p.withRecords info gpus) info gpus) :
    ∃ redefined, redefineXml info gpus root = some redefined ∧ SameDomain redefined root := by
  obtain ⟨redefined, direct, done, same, order⟩ := right root created
  rw [show (p.withRecords info gpus).withRecords info gpus = p.withRecords info gpus from rfl, created] at same
  cases same
  exact ⟨redefined, done, order⟩

end Devices

/-- A task with one GPU of two devices. -/
def oneGpu : OrdMap Bytes (List Bytes) := OrdMap.empty.insert (str "01:00.0") [str "01:00.0", str "01:00.1"]

def gpuTask : TaskInfo where
  taskId := str "vm"
  imageName := str "image.qcow2"
  desc := []
  loginUsername := []
  loginPassword := []
  sshPort := 20001
  rdpPort := 20002
  customPort := []
  createTime := 0
  operationSystem := str "windows"
  biosMode := str "legacy"
  multicast := []
  vdaRootBackfile := []
  networkName := []
  publicIp := []
  nwfilter := []
  cpuSockets := 1
  cpuCoresPerSocket := 2
  cpuThreadsPerCore := 2
  memSize := 4194304
  vncPort := 5901
  vncPassword := str "secret"
  taskStatus := .shutoff

/-- The definition of a small task. -/
def gpuParams (isWindows : Bool) : XmlParams :=
  XmlParams.withRecords
    { uuid := str "u", domainName := str "vm", memory := 0, cpunum := 0, sockets := 0, cores := 0, threads := 0,
      vedioPci := []
      diskSystem := str "/data/vm.qcow2", diskData := str "/data/data.qcow2", vncPort := 0, vncPwd := str "secret"
      multicast := [], bridgeName := [], biosMode := str "legacy", isWindows := isWindows, pxeBridgeName := [] }
    gpuTask oneGpu

/-- The records after a modification: more cores and memory, another port
and a second GPU. -/
def changedTask : TaskInfo :=
  { gpuTask with cpuCoresPerSocket := 4, memSize := 8388608, vncPort := 5902, vncPassword := str "changed" }

def secondGpu : OrdMap Bytes (List Bytes) := oneGpu.insert (str "02:00.0") [str "02:00.0"]

theorem redefine_right_linux : RedefinesRight (gpuParams false) changedTask secondGpu ∧
    (gpuParams false).withRecords changedTask secondGpu ≠ gpuParams false :=
  ⟨(redefine_right_iff (gpuParams false) changedTask secondGpu rfl).mpr (Or.inl rfl), fun same => by
    have ports := congrArg XmlParams.vncPort same
    cases ports⟩

/-- The records are as before, and the devices of the GPU have lost their
`rom`. -/
theorem rom_lost : ¬ RedefinesRight (gpuParams true) gpuTask oneGpu := by
  intro right
  have created : ∃ root, (gpuParams true).createXmlStr = some root := ⟨_, rfl⟩
  obtain ⟨root, created⟩ := created
  have same := (redefinesRight_iff _ _ _ created).mp right
  have one : pciAddresses (vgaPci oneGpu) = [⟨str "01", str "00", str "0"⟩, ⟨str "01", str "00", str "1"⟩] := by
    decide +kernel
  rw [one] at same
  obtain ⟨other, _, node⟩ := List.mem_map.mp (same.mem_iff.mp List.mem_cons_self)
  have rom := congrArg (fun node => node.children.length) node
  have plain : (plainHostdev ⟨str "01", str "00", str "0"⟩).children.length = 1 := rfl
  rw [children_hostdevNode _ rfl] at rom
  omega

end DbcNode
