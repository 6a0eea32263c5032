import DbcNode.Task.Down

namespace DbcNode.Host

/-- A GPU that is recorded for a task whose domain is not shut off. -/
def Counted (taskId gpu : Bytes) (h : Host) : Prop :=
  (h.taskInfos.find taskId).isSome ∧ h.getDomainStatus taskId ≠ .shutoff ∧ gpu ∈ (h.getTaskGpus taskId).keys

/-- A GPU that a domain which is not shut off was started with. -/
def GpuLive (taskId gpu : Bytes) (h : Host) : Prop :=
  ∃ domain, h.domains.find taskId = some domain ∧ domain.state ≠ .shutoff ∧ gpu ∈ domain.live.gpus.keys

/-- An allocation fails, or gives as many GPUs of this machine as were asked
for, and none that a domain has which is not shut off. -/
def AllocatesFree (hw : Hardware) (gpuCount : Int) (h : Host) : Prop :=
    ∀ gpus, h.allocateGpu hw gpuCount = some gpus →
  gpus.keys.length = gpuCount ∧ gpus.keys.Nodup ∧
    (∀ gpu devices, gpus.find gpu = some devices → hw.gpuInfo.find gpu = some devices) ∧
    ∀ gpu ∈ gpus.keys, ∀ taskId, ¬ GpuLive taskId gpu h

/-- Why a check of the GPUs of a task may fail: the machine has lost one or
a device of one, or a different task has it that is not shut off. -/
def GpuRefused (hw : Hardware) (taskId : Bytes) (h : Host) : Prop :=
  ∃ gpu devices, (h.getTaskGpus taskId).find gpu = some devices ∧
    (hw.gpuInfo.find gpu = none ∨
      (∃ system, hw.gpuInfo.find gpu = some system ∧ ∃ device ∈ devices, device ∉ system) ∨
      ∃ other, other ≠ taskId ∧ Counted other gpu h)

/-- The check of the GPUs of a task fails for no other reason. -/
def ChecksOthers (hw : Hardware) (taskId : Bytes) (h : Host) : Prop :=
  h.checkGpu hw (h.getTaskGpus taskId) ≠ none → GpuRefused hw taskId h

section Usable
variable {hw : Hardware} {h : Host} {gpu : Bytes} {devices : List Bytes}

theorem find_eraseAll (keys : List Bytes) (m : OrdMap Bytes (List Bytes)) (key : Bytes) :
    (keys.foldl OrdMap.erase m).find key = if key ∈ keys then none else m.find key := by
  induction keys generalizing m with
  | nil => simp
  | cons first rest ih =>
    rw [List.foldl_cons, ih, OrdMap.find_erase]
    by_cases later : key ∈ rest
    · simp [later]
    · by_cases same : key = first
      · simp [same]
      · simp [later, same]

theorem find_canUse (entries : List (Bytes × TaskInfo)) (m : OrdMap Bytes (List Bytes)) :
    (entries.foldl (fun canUse entry =>
      if h.getDomainStatus entry.1 ≠ .shutoff then (h.getTaskGpus entry.1).keys.foldl OrdMap.erase canUse
      else canUse)
      m).find gpu = some devices ↔
    m.find gpu = some devices ∧
      ∀ entry ∈ entries, h.getDomainStatus entry.1 ≠ .shutoff → gpu ∉ (h.getTaskGpus entry.1).keys := by
  induction entries generalizing m with
  | nil => simp
  | cons entry rest ih =>
    rw [List.foldl_cons, ih, List.forall_mem_cons]
    split
    · rename_i up
      rw [find_eraseAll]
      by_cases taken : gpu ∈ (h.getTaskGpus entry.1).keys
      · simp [taken, up]
      · simp [taken]
    · rename_i shutOff
      simp [shutOff]

/-- The GPUs that can be used are those of the machine that no task counts
for itself. -/
theorem find_canUseGpu : (h.canUseGpu hw).find gpu = some devices ↔
    hw.gpuInfo.find gpu = some devices ∧ ∀ taskId, ¬ Counted taskId gpu h := by
  unfold canUseGpu
  rw [find_canUse]
  refine and_congr_right (fun _ => ⟨?_, ?_⟩)
  · rintro free taskId ⟨known, up, recorded⟩
    obtain ⟨info, found⟩ := Option.isSome_iff_exists.mp known
    exact free (taskId, info) (OrdMap.find_eq_some.mp found) up recorded
  · intro free entry member up recorded
    refine free entry.1 ⟨?_, up, recorded⟩
    rw [OrdMap.find_eq_some.mpr (show (entry.1, entry.2) ∈ h.taskInfos.entries from member)]
    rfl

/-- The loop takes the first GPUs, as many as it is asked for. -/
theorem pickGpus_eq {gpuCount : Int} (entries : List (Bytes × List Bytes)) {curCount : Int}
    (below : curCount < gpuCount) (gpus : OrdMap Bytes (List Bytes)) : pickGpus gpuCount curCount entries gpus =
      (min gpuCount (curCount + entries.length),
        (entries.take (gpuCount - curCount).toNat).foldl (fun gpus entry => gpus.insert entry.1 entry.2) gpus) := by
  induction entries generalizing curCount gpus with
  | nil =>
    simp only [pickGpus, List.length_nil, List.take_nil, List.foldl_nil, Prod.mk.injEq, and_true]
    omega
  | cons entry rest ih =>
    obtain ⟨id, devices⟩ := entry
    have taken : (gpuCount - curCount).toNat = (gpuCount - curCount - 1).toNat + 1 := by omega
    rw [taken, List.take_succ_cons, List.foldl_cons]
    simp only [pickGpus]
    split
    · rename_i last
      have none : (gpuCount - curCount - 1).toNat = 0 := by omega
      rw [none, List.take_zero, List.foldl_nil, List.length_cons]
      refine Prod.ext ?_ rfl
      simp only
      omega
    · rename_i more
      rw [ih (by omega)]
      have same : gpuCount - (curCount + 1) = gpuCount - curCount - 1 := by omega
      rw [same, List.length_cons]
      refine Prod.ext ?_ rfl
      simp only
      omega

theorem allocateGpu_entries {gpuCount : Int} (asked : 0 ≤ gpuCount) {gpus : OrdMap Bytes (List Bytes)}
    (allocated : h.allocateGpu hw gpuCount = some gpus) :
    gpus.entries = (h.canUseGpu hw).entries.take gpuCount.toNat ∧ gpuCount ≤ (h.canUseGpu hw).entries.length := by
  unfold allocateGpu at allocated
  split at allocated
  · rename_i none
    cases allocated
    rw [none]
    exact ⟨rfl, by omega⟩
  · rename_i some
    rw [pickGpus_eq _ (by omega)] at allocated
    dsimp only at allocated
    split at allocated
    · rename_i enough
      have picked := Option.some.inj allocated
      rw [← picked, Int.sub_zero]
      refine ⟨OrdMap.foldl_insert_entries ?_, by omega⟩
      exact (h.canUseGpu hw).sorted.sublist (List.take_sublist _ _)
    · cases allocated

/-- What is allocated is of this machine, and not counted for any task. -/
theorem allocateGpu_find {gpuCount : Int} (asked : 0 ≤ gpuCount) {gpus : OrdMap Bytes (List Bytes)}
    (allocated : h.allocateGpu hw gpuCount = some gpus) (found : gpus.find gpu = some devices) :
    hw.gpuInfo.find gpu = some devices ∧ ∀ taskId, ¬ Counted taskId gpu h := by
  obtain ⟨entries, _⟩ := allocateGpu_entries asked allocated
  rw [OrdMap.find_eq_some, entries] at found
  exact find_canUseGpu.mp (OrdMap.find_eq_some.mpr (List.mem_of_mem_take found))

end Usable

section Check
variable {hw : Hardware} {h : Host} {taskId : Bytes}

theorem checkGpu_fails_iff {gpus : OrdMap Bytes (List Bytes)} : h.checkGpu hw gpus ≠ none ↔
    ∃ gpu devices, gpus.find gpu = some devices ∧ ((h.canUseGpu hw).find gpu = none ∨
      ∃ system, (h.canUseGpu hw).find gpu = some system ∧ ∃ device ∈ devices, device ∉ system) := by
  unfold checkGpu
  rw [← Option.isSome_iff_ne_none, List.isSome_findSome?, List.any_eq_true]
  constructor
  · rintro ⟨⟨gpu, devices⟩, member, refused⟩
    refine ⟨gpu, devices, OrdMap.find_eq_some.mpr member, ?_⟩
    cases usable : (h.canUseGpu hw).find gpu with
    | none => exact Or.inl rfl
    | some system =>
      rw [usable, List.isSome_findSome?, List.any_eq_true] at refused
      obtain ⟨device, listed, absent⟩ := refused
      refine Or.inr ⟨system, rfl, device, listed, fun present => ?_⟩
      rw [if_pos present] at absent
      cases absent
  · rintro ⟨gpu, devices, found, reason⟩
    refine ⟨(gpu, devices), OrdMap.find_eq_some.mp found, ?_⟩
    rcases reason with missing | ⟨system, usable, device, listed, absent⟩
    · rw [missing]
      rfl
    · rw [usable, List.isSome_findSome?, List.any_eq_true]
      refine ⟨device, listed, ?_⟩
      rw [if_neg absent]
      rfl

theorem canUseGpu_none {gpu : Bytes} : (h.canUseGpu hw).find gpu = none ↔
    hw.gpuInfo.find gpu = none ∨ ∃ taskId, Counted taskId gpu h := by
  cases machine : hw.gpuInfo.find gpu with
  | none =>
    refine ⟨fun _ => Or.inl rfl, fun _ => Option.eq_none_iff_forall_ne_some.mpr (fun devices usable => ?_)⟩
    rw [(find_canUseGpu.mp usable).1] at machine
    cases machine
  | some system =>
    constructor
    · intro unusable
      refine Or.inr ?_
      by_contra free
      rw [find_canUseGpu.mpr ⟨machine, not_exists.mp free⟩] at unusable
      cases unusable
    · rintro (missing | ⟨taskId, counted⟩)
      · cases missing
      · exact Option.eq_none_iff_forall_ne_some.mpr
          (fun devices usable => (find_canUseGpu.mp usable).2 taskId counted)

/-- The check is about the others exactly where the task does not count for
itself. -/
theorem checksOthers_iff : ChecksOthers hw taskId h ↔ h.getDomainStatus taskId = .shutoff ∨
    h.taskInfos.find taskId = none ∨ (h.getTaskGpus taskId).keys = [] ∨ GpuRefused hw taskId h := by
  constructor
  · intro others
    by_contra neither
    simp only [not_or] at neither
    obtain ⟨up, known, some, notRefused⟩ := neither
    obtain ⟨gpu, recorded⟩ := List.exists_mem_of_ne_nil _ some
    obtain ⟨devices, found⟩ := OrdMap.mem_keys.mp recorded
    have counted : Counted taskId gpu h := ⟨Option.isSome_iff_ne_none.mpr known, up, recorded⟩
    refine notRefused (others (checkGpu_fails_iff.mpr ⟨gpu, devices, found, Or.inl ?_⟩))
    exact canUseGpu_none.mpr (Or.inr ⟨taskId, counted⟩)
  · intro reasons fails
    obtain ⟨gpu, devices, found, unusable | ⟨system, usable, missing⟩⟩ := checkGpu_fails_iff.mp fails
    · rcases canUseGpu_none.mp unusable with lost | ⟨other, counted⟩
      · exact ⟨gpu, devices, found, Or.inl lost⟩
      · by_cases own : other = taskId
        · subst own
          rcases reasons with shutOff | unknown | none | refused
          · exact (counted.2.1 shutOff).elim
          · have known := counted.1
            rw [unknown] at known
            cases known
          · have recorded := counted.2.2
            rw [none] at recorded
            cases recorded
          · exact refused
        · exact ⟨gpu, devices, found, Or.inr (Or.inr ⟨other, own, counted⟩)⟩
    · exact ⟨gpu, devices, found, Or.inr (Or.inl ⟨system, (find_canUseGpu.mp usable).1, missing⟩)⟩

end Check

end DbcNode.Host
