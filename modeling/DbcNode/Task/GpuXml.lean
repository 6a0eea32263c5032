import DbcNode.Lib.Digits
import DbcNode.Task.RedefineXml

namespace DbcNode

open Xml

/-- The `util::split` that fills a vector: parts that are empty stay, but
for the last one. -/
def splitVec (separator : UInt8) (text : Bytes) : List Bytes :=
  if (text.splitOn separator).getLast? = some [] then (text.splitOn separator).dropLast else text.splitOn separator

/-- The text after the last point, where there is a point. -/
def functionOf (id : Bytes) : Bytes := if 46 ∈ id then (id.reverse.takeWhile (· ≠ 46)).reverse else []

/-- One line of the listing, with the id that the devices go to. A line
without a second part is read past its end. -/
def listDevice (state : Bytes × OrdMap Bytes (List Bytes)) (line : Bytes) :
    Option (Bytes × OrdMap Bytes (List Bytes)) :=
  match splitVec 44 line with
  | _ :: id :: _ =>
    if functionOf id = [] then some state
    else
      let curId := if functionOf id = str "0" then id else state.1
      some (curId, state.2.insert curId ((state.2.find curId).getD [] ++ [id]))
  | _ => none

/-- `update_gpu_info`, from what the shell says. -/
def updateGpuInfo (listing : Bytes) : Option (OrdMap Bytes (List Bytes)) :=
  ((splitVec 124 listing).foldlM listDevice ([], .empty)).map (·.2)

/-- The two characters before a number in base 16 are left out. -/
def stripHex (text : Bytes) : Bytes := if holdsText text (str "0x") then text.drop 2 else text

def PciAddress.deviceId (address : PciAddress) : Bytes :=
  address.bus ++ str ":" ++ address.slot ++ str "." ++ address.function

/-- The address of a device that is passed through, as `init` reads it. An
attribute that is missing is a null pointer. -/
def readAddress (address : Xml) : Option PciAddress := do
  let bus ← address.attributeOf (str "bus")
  let slot ← address.attributeOf (str "slot")
  let function ← address.attributeOf (str "function")
  some ⟨stripHex bus, stripHex slot, stripHex function⟩

/-- One device of a domain, with `cur_gpu_id`. A GPU that is not there is a
null pointer. -/
def readDevice (state : Bytes × OrdMap Bytes (List Bytes)) (address : PciAddress) :
    Option (Bytes × OrdMap Bytes (List Bytes)) :=
  let deviceId := address.deviceId
  let (curGpuId, gpus) :=
    if atoi address.function = 0 then
      (deviceId, if (state.2.find deviceId).isSome then state.2 else state.2.insert deviceId [])
    else state
  (gpus.find curGpuId).map fun devices => (curGpuId, gpus.insert curGpuId (devices ++ [deviceId]))

def readHostdev (state : Bytes × OrdMap Bytes (List Bytes)) (hostdev : Xml) :
    Option (Bytes × OrdMap Bytes (List Bytes)) :=
  match (hostdev.firstChild (str "source")).bind (firstChild (str "address")) with
  | none => some state
  | some address => (readAddress address).bind (readDevice state)

/-- `TaskGpuManager::init` for one task, from the description of its
domain. -/
def initGpus (root : Xml) : Option (OrdMap Bytes (List Bytes)) :=
  (((devicesOf root).filter (isNamed (str "hostdev"))).foldlM readHostdev ([], .empty)).map (·.2)

/-- The records of a task are the same after a restart, from the definition
that was created with them and from one that was redefined. -/
def RecordsSurvive (p : XmlParams) (info : TaskInfo) (gpus : OrdMap Bytes (List Bytes)) : Prop :=
  (∀ root, (p.withRecords info gpus).createXmlStr = some root → initGpus root = some gpus) ∧
    ∀ root redefined, p.createXmlStr = some root → redefineXml info gpus root = some redefined →
      initGpus redefined = some gpus

/-- The ids are read as they were written: no GPU is without an id, and each
device is of the form bus:slot.function, where the function is no other zero
than `0`. -/
def Readable (gpus : OrdMap Bytes (List Bytes)) : Prop := ∀ gpu devices, gpus.find gpu = some devices →
  gpu ≠ [] ∧ ∀ device ∈ devices, ∃ address, pciAddress device = some address ∧ address.deviceId = device ∧
    (atoi address.function = 0 → address.function = str "0")

theorem mem_of_mem_splitVec {separator b : UInt8} {text part : Bytes} (member : part ∈ splitVec separator text)
    (inside : b ∈ part) : b ∈ text ∧ b ≠ separator := by
  unfold splitVec at member
  split at member
  · exact mem_splitOn (List.mem_of_mem_dropLast member) inside
  · exact mem_splitOn member inside

/-- What a listing is read to: a device has a function and no bar in it, and
the device with the function zero is the one that a GPU has its id from. -/
structure GpusListed (gpus : OrdMap Bytes (List Bytes)) : Prop where
  devices : ∀ gpu devices, gpus.find gpu = some devices → ∀ device ∈ devices, (124 : UInt8) ∉ device ∧
    (functionOf device = str "0" → device = gpu)
  first : ∀ gpu devices, gpus.find gpu = some devices → gpu ≠ [] →
    devices.head? = some gpu ∧ functionOf gpu = str "0"

theorem GpusListed.empty : GpusListed .empty where
  devices _ _ found := by cases found
  first _ _ found := by cases found

theorem GpusListed.push {gpus : OrdMap Bytes (List Bytes)} {key id : Bytes} (listed : GpusListed gpus)
    (barless : (124 : UInt8) ∉ id) (own : functionOf id = str "0" → id = key)
    (head : key ≠ [] → ((gpus.find key).getD [] ++ [id]).head? = some key ∧ functionOf key = str "0") :
    GpusListed (gpus.insert key ((gpus.find key).getD [] ++ [id])) where
  devices := by
    intro gpu devices found device member
    rw [OrdMap.find_insert] at found
    split at found
    · rename_i same
      cases found
      rcases List.mem_append.mp member with before | last
      · cases old : gpus.find key with
        | none =>
          rw [old] at before
          cases before
        | some devices =>
          rw [old] at before
          exact same ▸ listed.devices key devices old device before
      · rw [List.mem_singleton.mp last]
        exact ⟨barless, same ▸ own⟩
    · exact listed.devices gpu devices found device member
  first := by
    intro gpu devices found filled
    rw [OrdMap.find_insert] at found
    split at found
    · rename_i same
      cases found
      subst same
      exact head filled
    · exact listed.first gpu devices found filled

/-- The id that the devices go to is that of a GPU. -/
theorem GpusListed.step {state after : Bytes × OrdMap Bytes (List Bytes)} {line : Bytes}
    (apart : (124 : UInt8) ∉ line) (listed : GpusListed state.2)
    (present : state.1 ≠ [] → ∃ devices, state.2.find state.1 = some devices)
    (step : listDevice state line = some after) :
    GpusListed after.2 ∧ (after.1 ≠ [] → ∃ devices, after.2.find after.1 = some devices) := by
  unfold listDevice at step
  split at step
  · rename_i first id rest parts
    have barless : (124 : UInt8) ∉ id := fun bar =>
      apart (mem_of_mem_splitVec (parts ▸ List.mem_cons_of_mem _ List.mem_cons_self) bar).1
    split at step
    · cases step
      exact ⟨listed, present⟩
    · cases step
      refine ⟨listed.push barless (fun zero => (if_pos zero).symm) fun filled => ?_,
        fun _ => ⟨_, OrdMap.find_insert_self _ _ _⟩⟩
      by_cases zero : functionOf id = str "0"
      · rw [if_pos zero] at filled ⊢
        cases old : state.2.find id with
        | none => exact ⟨rfl, zero⟩
        | some devices =>
          have before := listed.first id devices old filled
          exact ⟨by rw [Option.getD_some, List.head?_append, before.1]; rfl, zero⟩
      · rw [if_neg zero] at filled ⊢
        obtain ⟨devices, old⟩ := present filled
        have before := listed.first _ devices old filled
        exact ⟨by rw [old, Option.getD_some, List.head?_append, before.1]; rfl, before.2⟩
  · cases step

theorem GpusListed.lines {state after : Bytes × OrdMap Bytes (List Bytes)} {lines : List Bytes}
    (apart : ∀ line ∈ lines, (124 : UInt8) ∉ line) (listed : GpusListed state.2)
    (present : state.1 ≠ [] → ∃ devices, state.2.find state.1 = some devices)
    (steps : lines.foldlM listDevice state = some after) : GpusListed after.2 := by
  induction lines generalizing state with
  | nil =>
    cases steps
    exact listed
  | cons line rest ih =>
    rw [List.foldlM_cons] at steps
    obtain ⟨next, step, steps⟩ := Option.bind_eq_some_iff.mp steps
    obtain ⟨here, later⟩ := List.forall_mem_cons.mp apart
    obtain ⟨listed, present⟩ := listed.step here present step
    exact ih later listed present steps

theorem updateGpuInfo_gpusListed {listing : Bytes} {gpus : OrdMap Bytes (List Bytes)}
    (read : updateGpuInfo listing = some gpus) : GpusListed gpus := by
  obtain ⟨after, steps, rfl⟩ := Option.map_eq_some_iff.mp read
  refine GpusListed.lines (fun line member bar => ?_) GpusListed.empty (fun filled => absurd rfl filled) steps
  exact (mem_of_mem_splitVec member bar).2 rfl

theorem GpusListed.of_find {gpus own : OrdMap Bytes (List Bytes)} (listed : GpusListed gpus)
    (assigned : ∀ gpu devices, own.find gpu = some devices → gpus.find gpu = some devices) : GpusListed own where
  devices gpu devices found := listed.devices gpu devices (assigned gpu devices found)
  first gpu devices found := listed.first gpu devices (assigned gpu devices found)

section Written
variable (p : XmlParams) (info : TaskInfo)

/-- All devices of all GPUs, as they are written. -/
def allDevices (gpus : OrdMap Bytes (List Bytes)) : List Bytes := gpus.entries.flatMap (·.2)

theorem splitText_devices {devices : List Bytes} (apart : ∀ device ∈ devices, (124 : UInt8) ∉ device) :
    splitText 124 (devices.flatMap fun device => device ++ str "|") = devices.filter (· ≠ []) := by
  induction devices with
  | nil => rfl
  | cons device rest ih =>
    obtain ⟨here, later⟩ := List.forall_mem_cons.mp apart
    have bar : str "|" = [124] := rfl
    rw [List.flatMap_cons, bar, List.append_assoc, List.singleton_append, splitText_append here, ← bar, ih later,
      ← List.filter_append]
    rfl

theorem vgaPci_eq (gpus : OrdMap Bytes (List Bytes)) :
    vgaPci gpus = (allDevices gpus).flatMap fun device => device ++ str "|" := by
  rw [vgaPci, allDevices, List.flatMap_assoc]

/-- The addresses that are written are those of the devices. -/
theorem pciAddresses_vgaPci {gpus : OrdMap Bytes (List Bytes)} (listed : GpusListed gpus) :
    pciAddresses (vgaPci gpus) = (allDevices gpus).filterMap pciAddress := by
  have apart : ∀ device ∈ allDevices gpus, (124 : UInt8) ∉ device := by
    intro device member
    obtain ⟨entry, inside, member⟩ := List.mem_flatMap.mp member
    exact (listed.devices entry.1 entry.2 (OrdMap.find_eq_some.mpr inside) device member).1
  rw [pciAddresses, vgaPci_eq, splitText_devices apart, List.filterMap_filter]
  refine List.filterMap_congr fun device _ => ?_
  split
  · rfl
  · rename_i empty
    rw [show device = [] by simpa using empty]
    rfl

theorem stripHex_hex (text : Bytes) : stripHex (str "0x" ++ text) = text := by
  have holds : holdsText (str "0x" ++ text) (str "0x") = true := by
    rw [holdsText, List.any_eq_true]
    exact ⟨str "0x" ++ text, (List.mem_tails _ _).mpr (List.suffix_refl _),
      List.isPrefixOf_iff_prefix.mpr (List.prefix_append _ _)⟩
  rw [stripHex, if_pos holds]
  rfl

theorem readAddress_addressNode (address : PciAddress) : readAddress (addressNode address) = some address := by
  simp only [readAddress, addressNode, tag, List.map_cons, List.map_nil, attributeOf]
  rw [valueIn_of_ne (by decide), valueIn_of_ne (by decide), valueIn_self, valueIn_of_ne (by decide),
    valueIn_of_ne (by decide),
    valueIn_of_ne (by decide), valueIn_self, valueIn_of_ne (by decide), valueIn_of_ne (by decide),
      valueIn_of_ne (by decide),
    valueIn_of_ne (by decide), valueIn_self]
  simp only [Option.bind_eq_bind, Option.bind_some, stripHex_hex]

theorem readHostdev_of_source {state : Bytes × OrdMap Bytes (List Bytes)} {hostdev : Xml} {address : PciAddress}
    (source : hostdev.firstChild (str "source") = some (sourceNode address)) :
    readHostdev state hostdev = readDevice state address := by
  have present : (sourceNode address).firstChild (str "address") = some (addressNode address) := rfl
  rw [readHostdev, source, Option.bind_some, present]
  simp only [readAddress_addressNode, Option.bind_some]

theorem foldlM_hostdevs {node : PciAddress → Xml}
    (written : ∀ address, (node address).firstChild (str "source") = some (sourceNode address))
    (addresses : List PciAddress) (state : Bytes × OrdMap Bytes (List Bytes)) :
    (addresses.map node).foldlM readHostdev state = addresses.foldlM readDevice state := by
  rw [List.foldlM_map]
  exact congrArg (fun step => List.foldlM step state addresses)
    (funext fun state => funext fun address => readHostdev_of_source (written address))

theorem OtherNodes.filter_hostdev {nodes : List Xml} (others : OtherNodes nodes) :
    nodes.filter (isNamed (str "hostdev")) = [] :=
  List.filter_eq_nil_iff.mpr (List.any_eq_false.mp (others.apart (by decide)))

theorem filter_hostdevs {node : PciAddress → Xml} (named : ∀ address, (node address).isNamed (str "hostdev") = true)
    (addresses : List PciAddress) : (addresses.map node).filter (isNamed (str "hostdev")) = addresses.map node := by
  refine List.filter_eq_self.mpr fun hostdev member => ?_
  obtain ⟨address, _, rfl⟩ := List.mem_map.mp member
  exact named address

/-- What a definition is read to is what its devices are. -/
theorem initGpus_created {root : Xml} (created : p.createXmlStr = some root) :
    initGpus root = ((pciAddresses p.vedioPci).foldlM readDevice ([], .empty)).map (·.2) := by
  obtain ⟨network, made, rfl⟩ := Option.map_eq_some_iff.mp created
  have last : [p.graphicsNode, XmlParams.memballoonNode].filter (isNamed (str "hostdev")) = [] := rfl
  rw [initGpus, devicesOf_document, XmlParams.deviceNodes, List.filter_append, List.filter_append,
    List.filter_append,
    (otherNodes_video p).filter_hostdev, (otherNodes_middle p made).filter_hostdev, last, List.nil_append,
      List.append_nil,
    List.append_nil, filter_hostdevs (fun _ => rfl), foldlM_hostdevs fun _ => rfl]

theorem initGpus_redefined {gpus : OrdMap Bytes (List Bytes)} {root redefined : Xml}
    (created : p.createXmlStr = some root) (done : redefineXml info gpus root = some redefined) :
    initGpus redefined = ((pciAddresses (vgaPci gpus)).foldlM readDevice ([], .empty)).map (·.2) := by
  obtain ⟨network, made, rfl⟩ := Option.map_eq_some_iff.mp created
  rw [redefineXml_document, redefineDevices_deviceNodes p info gpus made] at done
  cases done
  have screen : (p.withRecords info gpus).graphicsNode.isNamed (str "hostdev") = false := rfl
  have balloon : XmlParams.memballoonNode.isNamed (str "hostdev") = false := rfl
  rw [initGpus, devicesOf_document, List.filter_append, List.filter_append, (otherNodes_video p).filter_hostdev,
    (otherNodes_middle p made).filter_hostdev, List.filter_cons, List.filter_cons, screen, balloon,
    if_neg Bool.false_ne_true, if_neg Bool.false_ne_true, List.nil_append, List.nil_append,
    filter_hostdevs (fun _ => rfl), foldlM_hostdevs fun _ => rfl]

end Written

end DbcNode
