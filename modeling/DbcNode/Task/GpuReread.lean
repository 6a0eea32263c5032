import DbcNode.Task.GpuXml

namespace DbcNode

section Read
variable {state : Bytes × OrdMap Bytes (List Bytes)} {address : PciAddress}

theorem readDevice_zero (zero : atoi address.function = 0) : readDevice state address =
    some (address.deviceId,
      state.2.insert address.deviceId ((state.2.find address.deviceId).getD [] ++ [address.deviceId])) := by
  rw [readDevice, if_pos zero]
  cases old : state.2.find address.deviceId with
  | some devices =>
    simp only [Option.isSome_some, if_true, old, Option.map_some, Option.getD_some]
  | none =>
    simp only [Option.isSome_none, Bool.false_eq_true, if_false, OrdMap.find_insert_self, Option.map_some,
      Option.getD_none]
    refine congrArg some (Prod.ext rfl (OrdMap.ext_find fun key => ?_))
    simp only [OrdMap.find_insert]
    split
    · rfl
    · rfl

theorem readDevice_other (other : atoi address.function ≠ 0) : readDevice state address =
    (state.2.find state.1).map fun devices =>
      (state.1, state.2.insert state.1 (devices ++ [address.deviceId])) := by
  rw [readDevice, if_neg other]

end Read

/-- A device that is read back into a GPU that was begun. -/
def ReadsInto (gpu device : Bytes) : Prop :=
  ∃ address, pciAddress device = some address ∧ address.deviceId = device ∧
    (atoi address.function = 0 → device = gpu)

theorem readGroup {gpu : Bytes} {devices : List Bytes} (into : ∀ device ∈ devices, ReadsInto gpu device)
    {gpus : OrdMap Bytes (List Bytes)} {before : List Bytes} (found : gpus.find gpu = some before) :
    (devices.filterMap pciAddress).foldlM readDevice (gpu, gpus) =
      some (gpu, gpus.insert gpu (before ++ devices)) := by
  induction devices generalizing gpus before with
  | nil =>
    rw [List.append_nil, OrdMap.insert_find found]
    rfl
  | cons device rest ih =>
    obtain ⟨⟨address, parts, same, zero⟩, later⟩ := List.forall_mem_cons.mp into
    have step : readDevice (gpu, gpus) address = some (gpu, gpus.insert gpu (before ++ [device])) := by
      by_cases starts : atoi address.function = 0
      · rw [readDevice_zero starts, same, zero starts, found]
        rfl
      · rw [readDevice_other starts, found, same]
        rfl
    rw [List.filterMap_cons_some parts, List.foldlM_cons, step, Option.bind_eq_bind, Option.bind_some,
      ih later (OrdMap.find_insert_self _ _ _)]
    refine congrArg some (Prod.ext rfl (OrdMap.ext_find fun key => ?_))
    simp only [OrdMap.find_insert, List.append_assoc, List.singleton_append]
    split
    · rfl
    · rfl

/-- A GPU is read back: its first device begins it, and the others go to
it. -/
def ReadsBack (gpu : Bytes) (devices : List Bytes) : Prop :=
  devices.head? = some gpu ∧ (∃ address, pciAddress gpu = some address ∧ atoi address.function = 0) ∧
    ∀ device ∈ devices, ReadsInto gpu device

theorem readGpu {gpu cur : Bytes} {devices : List Bytes} (back : ReadsBack gpu devices)
    {gpus : OrdMap Bytes (List Bytes)} (fresh : gpus.find gpu = none) :
    (devices.filterMap pciAddress).foldlM readDevice (cur, gpus) = some (gpu, gpus.insert gpu devices) := by
  obtain ⟨first, ⟨address, parts, zero⟩, into⟩ := back
  obtain ⟨rest, rfl⟩ := List.head?_eq_some_iff.mp first
  obtain ⟨⟨_, again, same, _⟩, later⟩ := List.forall_mem_cons.mp into
  rw [parts] at again
  cases again
  rw [List.filterMap_cons_some parts, List.foldlM_cons, readDevice_zero zero, same, fresh, Option.bind_eq_bind,
    Option.bind_some, readGroup later (OrdMap.find_insert_self _ _ _)]
  refine congrArg some (Prod.ext rfl (OrdMap.ext_find fun key => ?_))
  simp only [OrdMap.find_insert, Option.getD_none, List.nil_append, List.singleton_append]
  split
  · rfl
  · rfl

theorem readGpus {entries : List (Bytes × List Bytes)} (back : ∀ entry ∈ entries, ReadsBack entry.1 entry.2)
    (sorted : entries.Pairwise fun a b => a.1 < b.1) {cur : Bytes} {gpus : OrdMap Bytes (List Bytes)}
    (fresh : ∀ entry ∈ entries, gpus.find entry.1 = none) :
    (((entries.flatMap (·.2)).filterMap pciAddress).foldlM readDevice (cur, gpus)).map (·.2) =
      some (entries.foldl (fun m entry => m.insert entry.1 entry.2) gpus) := by
  induction entries generalizing cur gpus with
  | nil => rfl
  | cons entry rest ih =>
    obtain ⟨here, later⟩ := List.forall_mem_cons.mp back
    obtain ⟨new, others⟩ := List.forall_mem_cons.mp fresh
    obtain ⟨less, ordered⟩ := List.pairwise_cons.mp sorted
    rw [List.flatMap_cons, List.filterMap_append, List.foldlM_append, readGpu here new, Option.bind_eq_bind,
      Option.bind_some, ih later ordered fun other member => ?_]
    · rfl
    · have apart : other.1 ≠ entry.1 :=
        fun same => Std.Asymm.asymm _ _ (same ▸ less other member) (same ▸ less other member)
      rw [OrdMap.find_insert_ne apart, others other member]

/-- The parts of an address that was split off a device id. -/
structure PciAddress.Split (address : PciAddress) : Prop where
  bus : address.bus ≠ [] ∧ (58 : UInt8) ∉ address.bus
  slot : address.slot ≠ [] ∧ (58 : UInt8) ∉ address.slot ∧ (46 : UInt8) ∉ address.slot
  function : address.function ≠ [] ∧ (58 : UInt8) ∉ address.function ∧ (46 : UInt8) ∉ address.function

theorem mem_splitText {separator : UInt8} {text part : Bytes} (member : part ∈ splitText separator text) :
    part ≠ [] ∧ (∀ b ∈ part, b ∈ text) ∧ separator ∉ part := by
  have listed := (List.mem_filter.mp member).1
  exact ⟨ne_nil_of_mem_splitText member, fun b inside => (mem_splitOn listed inside).1,
    fun inside => (mem_splitOn listed inside).2 rfl⟩

theorem pciAddress_split {device : Bytes} {address : PciAddress} (parts : pciAddress device = some address) :
    address.Split := by
  unfold pciAddress at parts
  split at parts
  · rename_i bus rest outer
    split at parts
    · rename_i slot function inner
      cases parts
      have busPart := mem_splitText (outer ▸ List.mem_cons_self : bus ∈ splitText 58 device)
      have restPart :=
        mem_splitText (outer ▸ List.mem_cons_of_mem _ List.mem_cons_self : rest ∈ splitText 58 device)
      have slotPart := mem_splitText (inner ▸ List.mem_cons_self : slot ∈ splitText 46 rest)
      have functionPart :=
        mem_splitText (inner ▸ List.mem_cons_of_mem _ List.mem_cons_self : function ∈ splitText 46 rest)
      exact
        { bus := ⟨busPart.1, busPart.2.2⟩
          slot := ⟨slotPart.1, fun colon => restPart.2.2 (slotPart.2.1 _ colon), slotPart.2.2⟩
          function := ⟨functionPart.1, fun colon => restPart.2.2 (functionPart.2.1 _ colon), functionPart.2.2⟩ }
    · cases parts
  · cases parts

namespace PciAddress.Split
variable {address : PciAddress} (split : address.Split)
include split

/-- The id that is read is split the same way. -/
theorem pciAddress_deviceId : pciAddress address.deviceId = some address := by
  obtain ⟨bus, slot, function⟩ := address
  have inner : splitText 46 (slot ++ str "." ++ function) = [slot, function] := by
    rw [show str "." = [46] from rfl, List.append_assoc, List.singleton_append, splitText_append split.slot.2.2,
      splitText_of_not_mem split.function.1 split.function.2.2,
        List.filter_cons_of_pos (by simpa using split.slot.1)]
    rfl
  have outer : splitText 58 (PciAddress.deviceId ⟨bus, slot, function⟩) = [bus, slot ++ str "." ++ function] := by
    have apart : (58 : UInt8) ∉ slot ++ str "." ++ function := by
      have point : (58 : UInt8) ∉ str "." := by decide
      simp only [List.mem_append, not_or]
      exact ⟨⟨split.slot.2.1, point⟩, split.function.2.1⟩
    have filled : slot ++ str "." ++ function ≠ [] := by simp [split.function.1]
    rw [PciAddress.deviceId, show str ":" = [58] from rfl, List.append_assoc, List.append_assoc, List.append_assoc,
      List.singleton_append, splitText_append split.bus.2, ← List.append_assoc, splitText_of_not_mem filled apart,
      List.filter_cons_of_pos (by simpa using split.bus.1)]
    rfl
  unfold pciAddress
  rw [outer]
  simp only [inner]

theorem functionOf_deviceId : functionOf address.deviceId = address.function := by
  have point : (46 : UInt8) ∈ address.deviceId := by simp [PciAddress.deviceId, str]
  have back : address.deviceId.reverse =
      address.function.reverse ++ 46 :: (address.bus ++ str ":" ++ address.slot).reverse := by
    simp [PciAddress.deviceId, str]
  have own : ∀ b ∈ address.function.reverse, decide (b ≠ (46 : UInt8)) = true := fun b member =>
    decide_eq_true fun same => split.function.2.2 (same ▸ List.mem_reverse.mp member)
  rw [functionOf, if_pos point, back, List.takeWhile_append_of_pos own, List.takeWhile_cons_of_neg (by simp),
    List.append_nil, List.reverse_reverse]

theorem deviceId_ne_nil : address.deviceId ≠ [] := by simp [PciAddress.deviceId, split.function.1]

end PciAddress.Split

section Converse
variable {gpus : OrdMap Bytes (List Bytes)}

theorem Readable.readsBack (readable : Readable gpus) (listed : GpusListed gpus) {gpu : Bytes}
    {devices : List Bytes} (found : gpus.find gpu = some devices) : ReadsBack gpu devices := by
  obtain ⟨filled, formed⟩ := readable gpu devices found
  obtain ⟨first, zero⟩ := listed.first gpu devices found filled
  have into : ∀ device ∈ devices, ReadsInto gpu device := by
    intro device member
    obtain ⟨address, parts, same, small⟩ := formed device member
    refine ⟨address, parts, same, fun starts => ?_⟩
    have function := (pciAddress_split parts).functionOf_deviceId
    rw [same, small starts] at function
    exact (listed.devices gpu devices found device member).2 function
  obtain ⟨rest, rfl⟩ := List.head?_eq_some_iff.mp first
  obtain ⟨address, parts, same, _⟩ := formed gpu List.mem_cons_self
  refine ⟨first, ⟨address, parts, ?_⟩, into⟩
  have function := (pciAddress_split parts).functionOf_deviceId
  rw [same, zero] at function
  rw [← function]
  decide

/-- What has been read: ids that are read again as they are, and the GPUs
that were begun. -/
structure Reread (addresses : List PciAddress) (gpus : OrdMap Bytes (List Bytes)) : Prop where
  formed : ∀ gpu devices, gpus.find gpu = some devices →
    gpu ≠ [] ∧ ∀ device ∈ devices, ∃ address, pciAddress device = some address ∧ address.deviceId = device
  begun : ∀ address ∈ addresses, atoi address.function = 0 → ∃ devices, gpus.find address.deviceId = some devices

theorem Reread.insert {addresses : List PciAddress} {key : Bytes} {before : List Bytes} {address : PciAddress}
    (reread : Reread addresses gpus) (split : address.Split) (filled : key ≠ [])
    (old : ∀ device ∈ before, ∃ address, pciAddress device = some address ∧ address.deviceId = device)
    (own : atoi address.function = 0 → key = address.deviceId) :
    Reread (addresses ++ [address]) (gpus.insert key (before ++ [address.deviceId])) where
  formed := by
    intro gpu devices found
    rw [OrdMap.find_insert] at found
    split at found
    · rename_i same
      cases found
      refine ⟨same ▸ filled, fun device member => ?_⟩
      rcases List.mem_append.mp member with earlier | last
      · exact old device earlier
      · rw [List.mem_singleton.mp last]
        exact ⟨address, split.pciAddress_deviceId, rfl⟩
    · exact reread.formed gpu devices found
  begun := by
    intro other member starts
    rw [OrdMap.find_insert]
    split
    · exact ⟨_, rfl⟩
    · rename_i apart
      rcases List.mem_append.mp member with earlier | last
      · exact reread.begun other earlier starts
      · rw [List.mem_singleton.mp last] at starts apart
        exact absurd (own starts).symm apart

theorem Reread.step {addresses : List PciAddress} {state after : Bytes × OrdMap Bytes (List Bytes)}
    {address : PciAddress} (reread : Reread addresses state.2) (split : address.Split)
    (step : readDevice state address = some after) :
    Reread (addresses ++ [address]) after.2 := by
  by_cases starts : atoi address.function = 0
  · rw [readDevice_zero starts] at step
    cases step
    refine reread.insert split split.deviceId_ne_nil (fun device member => ?_) fun _ => rfl
    cases old : state.2.find address.deviceId with
    | none =>
      rw [old] at member
      cases member
    | some devices =>
      rw [old] at member
      exact (reread.formed _ devices old).2 device member
  · rw [readDevice_other starts] at step
    obtain ⟨devices, found, rfl⟩ := Option.map_eq_some_iff.mp step
    obtain ⟨filled, formed⟩ := reread.formed _ devices found
    exact reread.insert split filled formed fun zero => absurd zero starts

theorem Reread.steps {addresses more : List PciAddress} {state after : Bytes × OrdMap Bytes (List Bytes)}
    (reread : Reread addresses state.2) (splits : ∀ address ∈ more, address.Split)
    (steps : more.foldlM readDevice state = some after) : Reread (addresses ++ more) after.2 := by
  induction more generalizing addresses state with
  | nil =>
    cases steps
    rw [List.append_nil]
    exact reread
  | cons address rest ih =>
    rw [List.foldlM_cons] at steps
    obtain ⟨next, step, steps⟩ := Option.bind_eq_some_iff.mp steps
    obtain ⟨here, later⟩ := List.forall_mem_cons.mp splits
    rw [List.append_cons]
    exact ih (reread.step here step) later steps

theorem mem_allDevices {device : Bytes} :
    device ∈ allDevices gpus ↔ ∃ gpu devices, gpus.find gpu = some devices ∧ device ∈ devices := by
  rw [allDevices, List.mem_flatMap]
  constructor
  · rintro ⟨entry, inside, member⟩
    exact ⟨entry.1, entry.2, OrdMap.find_eq_some.mpr inside, member⟩
  · rintro ⟨gpu, devices, found, member⟩
    exact ⟨(gpu, devices), OrdMap.find_eq_some.mp found, member⟩

theorem readable_of_reread (listed : GpusListed gpus)
    (reread : Reread ((allDevices gpus).filterMap pciAddress) gpus) :
    Readable gpus := by
  intro gpu devices found
  obtain ⟨filled, formed⟩ := reread.formed gpu devices found
  refine ⟨filled, fun device member => ?_⟩
  obtain ⟨address, parts, same⟩ := formed device member
  refine ⟨address, parts, same, fun starts => ?_⟩
  have written := List.mem_filterMap.mpr ⟨device, mem_allDevices.mpr ⟨gpu, devices, found, member⟩, parts⟩
  obtain ⟨own, begun⟩ := reread.begun address written starts
  have split := pciAddress_split parts
  rw [← split.functionOf_deviceId]
  exact (listed.first _ own begun split.deviceId_ne_nil).2

/-- The devices of a listing are read back as they are exactly when their
ids can be read. -/
theorem reread_iff (listed : GpusListed gpus) :
    ((pciAddresses (vgaPci gpus)).foldlM readDevice ([], .empty)).map (·.2) = some gpus ↔ Readable gpus := by
  rw [pciAddresses_vgaPci listed]
  constructor
  · intro read
    obtain ⟨after, steps, same⟩ := Option.map_eq_some_iff.mp read
    have start : Reread [] (OrdMap.empty : OrdMap Bytes (List Bytes)) := { formed := nofun, begun := nofun }
    have reread := start.steps (fun address member => ?_) steps
    · rw [List.nil_append, same] at reread
      exact readable_of_reread listed reread
    · obtain ⟨device, _, parts⟩ := List.mem_filterMap.mp member
      exact pciAddress_split parts
  · intro readable
    have back : ∀ entry ∈ gpus.entries, ReadsBack entry.1 entry.2 := fun entry member =>
      readable.readsBack listed (OrdMap.find_eq_some.mpr member)
    rw [allDevices, readGpus back gpus.sorted fun _ _ => rfl]
    exact congrArg some (OrdMap.ext (OrdMap.foldl_insert_entries gpus.sorted))

end Converse

/-- The records of a task with GPUs of the listing survive a restart exactly
when their ids can be read: what `createXmlStr` writes of a card is then
what is read from the definition afterwards. -/
theorem records_survive_iff (p : XmlParams) (info : TaskInfo) (gpus infos : OrdMap Bytes (List Bytes))
    (listing : Bytes) (read : updateGpuInfo listing = some infos)
    (assigned : ∀ gpu devices, gpus.find gpu = some devices → infos.find gpu = some devices)
    (created : p.createXmlStr.isSome) : RecordsSurvive p info gpus ↔ Readable gpus := by
  have listed := (updateGpuInfo_gpusListed read).of_find assigned
  obtain ⟨root, created⟩ := Option.isSome_iff_exists.mp created
  obtain ⟨network, made, _⟩ := Option.map_eq_some_iff.mp created
  rw [← reread_iff listed]
  constructor
  · intro survive
    have again : (p.withRecords info gpus).createXmlStr =
        some ((p.withRecords info gpus).document ((p.withRecords info gpus).deviceNodes network)) := by
      rw [XmlParams.createXmlStr, withRecords_networkNodes, made]
      rfl
    exact (initGpus_created _ again).symm.trans (survive.1 _ again)
  · intro same
    refine ⟨fun root created => (initGpus_created _ created).trans same, fun root redefined created done => ?_⟩
    exact (initGpus_redefined p info created done).trans same

theorem records_survive_small : RecordsSurvive (gpuParams false) gpuTask oneGpu ↔ Readable oneGpu :=
  records_survive_iff (gpuParams false) gpuTask oneGpu oneGpu (str "3D,01:00.0|Audio,01:00.1|") rfl
    (fun _ _ found => found)
    rfl

/-- A device of a listing whose function zero is of someone else. -/
def orphan : OrdMap Bytes (List Bytes) := OrdMap.empty.insert [] [str "01:00.1"]

/-- The device goes to a GPU without an id, and is read back through a null
pointer. -/
theorem orphan_lost : updateGpuInfo (str "Audio,01:00.1|") = some orphan ∧
    ¬ RecordsSurvive (gpuParams false) gpuTask orphan := by
  refine ⟨rfl, fun survive => ?_⟩
  obtain ⟨root, created⟩ : ∃ root, ((gpuParams false).withRecords gpuTask orphan).createXmlStr =
    some root := ⟨_, rfl⟩
  have read := survive.1 root created
  have one : pciAddresses (vgaPci orphan) = [⟨str "01", str "00", str "1"⟩] := by decide +kernel
  have lost : readDevice ([], .empty) ⟨str "01", str "00", str "1"⟩ = none := by
    rw [readDevice_other (by decide)]
    rfl
  rw [initGpus_created _ created, show ((gpuParams false).withRecords gpuTask orphan).vedioPci =
    vgaPci orphan from rfl, one, List.foldlM_cons, lost] at read
  cases read

end DbcNode
