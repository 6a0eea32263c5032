import DbcNode.Task.DomainHolds
import DbcNode.Task.Gpus

namespace DbcNode.Host

/-- A new count of GPUs is asked for only where the task is down, and then
nothing after the allocation fails. -/
def GpuCountSettled (hw : Hardware) (w : World) (taskId : Bytes) (doc : Json) (h : Host) : Prop :=
  doc.parseString (str "new_gpu_count") = [] ∨
    Down taskId h ∧ w.defineDomain ∧
      (doc.parseString (str "new_cpu_cores") = [] ∨ allocateCpu hw (atoi (doc.parseString (str "new_cpu_cores")))
        ⟨1, 1, 2⟩ ≠ none) ∧
      (doc.parseString (str "new_mem_size") = [] ∨
        allocateMemTwice w (memSizeOf (doc.parseString (str "new_mem_size"))))

/-- A task that is not down can be stopped when it is deleted. -/
def Stoppable (w : World) (taskId : Bytes) (h : Host) : Prop := Down taskId h ∨ w.destroyDomain

/-- The GPUs of a task: those of its domain are the ones that are recorded,
and they are of this machine. -/
structure GpusSound (hw : Hardware) (taskId : Bytes) (h : Host) : Prop where
  live : ∀ domain, h.domains.find taskId = some domain → domain.state ≠ .shutoff →
    (h.taskInfos.find taskId).isSome ∧ domain.live.gpus = h.getTaskGpus taskId
  definition : ∀ domain, h.domains.find taskId = some domain → (h.taskInfos.find taskId).isSome →
    domain.definition.gpus = h.getTaskGpus taskId
  machine : ∀ gpu ∈ (h.getTaskGpus taskId).keys, gpu ∈ hw.gpuInfo.keys

namespace GpusSound
variable {hw : Hardware} {w : World} {parts : Set Part} {taskId : Bytes} {h k : Host}

theorem frame (sound : GpusSound hw taskId h) (only : Only parts h k) (known : .known taskId ∉ parts)
    (gpus : .gpus taskId ∉ parts) (state : .state taskId ∉ parts) (live : .live taskId ∉ parts)
    (definition : .definition taskId ∉ parts) : GpusSound hw taskId k := by
  have same := only.domain state live definition
  refine ⟨fun domain found running => ?_, fun domain found existing => ?_, ?_⟩
  · rw [only.known known, only.getTaskGpus gpus]
    exact sound.live domain (same ▸ found) running
  · rw [only.known known] at existing
    rw [only.getTaskGpus gpus]
    exact sound.definition domain (same ▸ found) existing
  · rw [only.getTaskGpus gpus]
    exact sound.machine

theorem setDomain (sound : GpusSound hw taskId h) {domain : Domain}
    (live : domain.state ≠ .shutoff → (h.taskInfos.find taskId).isSome ∧ domain.live.gpus = h.getTaskGpus taskId)
    (definition : (h.taskInfos.find taskId).isSome → domain.definition.gpus = h.getTaskGpus taskId) :
    GpusSound hw taskId (h.setDomain taskId domain) := by
  have self : (h.setDomain taskId domain).domains.find taskId = some domain := OrdMap.find_insert_self _ _ _
  refine ⟨fun other found running => ?_, fun other found known => ?_, sound.machine⟩
  · cases self.symm.trans found
    exact live running
  · cases self.symm.trans found
    exact definition known

theorem destroyDomain (sound : GpusSound hw taskId h) : GpusSound hw taskId (h.destroyDomain w taskId).2 := by
  unfold Host.destroyDomain
  split
  · exact sound
  · rename_i domain found
    split
    · exact sound
    · split
      · exact sound.setDomain (fun running => (running rfl).elim) (sound.definition domain found)
      · exact sound

theorem redefine (sound : GpusSound hw taskId h) {domain : Domain} (found : h.domains.find taskId = some domain)
    {xml : DomainXml} (same : (h.taskInfos.find taskId).isSome → xml.gpus = h.getTaskGpus taskId) :
    GpusSound hw taskId (h.setDomain taskId { domain with definition := xml }) :=
  sound.setDomain (sound.live domain found) same

theorem redefineDomain (sound : GpusSound hw taskId h) (info : TaskInfo) :
    GpusSound hw taskId (h.redefineDomain w taskId info).2 := by
  unfold Host.redefineDomain
  split
  · exact sound
  · rename_i domain found
    split
    · exact sound
    · exact sound.redefine found (fun _ => rfl)

/-- What touches nothing that has to do with the GPUs. -/
theorem spared (sound : GpusSound hw taskId h) (only : Only parts h k) (outside : ∀ part ∈ parts,
    part ≠ .known taskId ∧ part ≠ .gpus taskId ∧ part ≠ .state taskId ∧ part ≠ .live taskId ∧
      part ≠ .definition taskId) :
    GpusSound hw taskId k :=
  sound.frame only (fun inside => (outside _ inside).1 rfl) (fun inside => (outside _ inside).2.1 rfl)
    (fun inside => (outside _ inside).2.2.1 rfl) (fun inside => (outside _ inside).2.2.2.1 rfl)
    (fun inside => (outside _ inside).2.2.2.2 rfl)

end GpusSound

theorem Stoppable.down {w : World} {taskId : Bytes} {h : Host} (stoppable : Stoppable w taskId h) :
    Down taskId (h.destroyAndUndefineDomain w taskId) := by
  rcases stoppable with down | stops
  · exact down.destroyAndUndefineDomain
  · intro domain found
    unfold destroyAndUndefineDomain at found
    split at found
    · rename_i missing
      rw [missing] at found
      cases found
    · simp only [stops, if_true] at found
      split at found
      · rw [OrdMap.find_erase, if_pos rfl] at found
        cases found
      · rw [setDomain, OrdMap.find_insert_self] at found
        cases found
        rfl

namespace GpusSound
variable {hw : Hardware} {w : World} {taskId : Bytes} {h k : Host}

theorem destroyTask (sound : GpusSound hw taskId h) (stoppable : Stoppable w taskId h) :
    GpusSound hw taskId (h.destroyTask w taskId) := by
  have unknown := destroyTask_unknown w taskId h
  have down := stoppable.down.frame (destroyTask_records w taskId h) (by simp [recordParts])
  refine ⟨fun domain found running => (running (down domain found)).elim, fun domain found known => ?_, ?_⟩
  · rw [unknown] at known
    cases known
  · intro gpu member
    by_cases known : (h.taskInfos.find taskId).isSome
    · rw [getTaskGpus, destroyTask_gpus w taskId h known] at member
      cases member
    · rw [destroyTask_eq_of_unknown w taskId h (Option.not_isSome_iff_eq_none.mp known),
        (destroyAndUndefineDomain_only w taskId).getTaskGpus (by simp)] at member
      exact sound.machine gpu member

/-- The domain has the GPUs that are recorded. -/
theorem holds (sound : GpusSound hw taskId h) (known : (h.taskInfos.find taskId).isSome) :
    DomainHolds (·.gpus) (h.getTaskGpus taskId) taskId h :=
  fun domain found => ⟨sound.definition domain found known, fun running => (sound.live domain found running).2⟩

/-- An event keeps the GPUs of its task sound. -/
theorem processJob (sound : GpusSound hw taskId h) {job : TaskJob}
    (deletes : job = .deleteTask → Stoppable w taskId h) :
    GpusSound hw taskId (processJob w taskId job h).2 := by
  by_cases deleted : job = .deleteTask
  · subst deleted
    change GpusSound hw taskId (h.processDeleteTask w taskId)
    unfold processDeleteTask
    split
    · exact sound
    · exact sound.destroyTask (deletes rfl)
  have footprint : Only (jobParts taskId job) h _ := processJob_confined w taskId job h
  have stays := footprint.known (notMem_jobParts_known deleted)
  have gpus := footprint.getTaskGpus (notMem_jobParts_gpus deleted)
  by_cases known : (h.taskInfos.find taskId).isSome
  · have after := (sound.holds known).processJob (w := w) (fun _ _ => rfl) deleted (fun _ _ _ _ _ same _ => same)
    refine ⟨fun domain found running => ⟨stays.trans known, ?_⟩, fun domain found _ => ?_, ?_⟩
    · rw [gpus]
      exact (after domain found).2 running
    · rw [gpus]
      exact (after domain found).1
    · rw [gpus]
      exact sound.machine
  · by_cases about : job.pending = none
    · refine ⟨fun domain found running => ?_, fun domain found existing => (known (stays ▸ existing)).elim, ?_⟩
      · have states := footprint.state (notMem_jobParts_state about)
        rw [found] at states
        obtain ⟨old, present, same⟩ := Option.map_eq_some_iff.mp states.symm
        exact (known (sound.live old present (same ▸ running)).1).elim
      · rw [gpus]
        exact sound.machine
    · rw [processJob_unknown (Option.not_isSome_iff_eq_none.mp known) about]
      exact sound

theorem processJob_gpus {job : TaskJob} {gpu : Bytes}
    (member : gpu ∈ ((Host.processJob w taskId job h).2.getTaskGpus taskId).keys) :
    gpu ∈ (h.getTaskGpus taskId).keys := by
  have footprint : Only (jobParts taskId job) h _ := processJob_confined w taskId job h
  cases job with
  | deleteTask =>
    change gpu ∈ ((h.processDeleteTask w taskId).getTaskGpus taskId).keys at member
    unfold processDeleteTask at member
    split at member
    · exact member
    · rename_i info found
      rw [getTaskGpus, destroyTask_gpus w taskId h (by rw [found]; rfl)] at member
      cases member
  | _ => rwa [footprint.getTaskGpus (by simp [jobParts])] at member

/-- No GPU is lost, so there is nothing to take from the task. -/
theorem checkXmlGpu (sound : GpusSound hw taskId h) (info : TaskInfo) : h.checkXmlGpu hw w taskId info = h := by
  have none : (h.getTaskGpus taskId).keys.filter (fun id => (hw.gpuInfo.find id).isNone) = [] := by
    refine List.filter_eq_nil_iff.mpr (fun gpu member => ?_)
    obtain ⟨devices, found⟩ := OrdMap.mem_keys.mp (sound.machine gpu member)
    simp [found]
  simp only [Host.checkXmlGpu, none, if_true]

theorem checkedSubmit (sound : GpusSound hw taskId h) (allowed : DomainState → Bool) (status : TaskStatus)
    (job : TaskJob) :
    Only {.info taskId, .events} h ((do
      let info ← existingTask taskId
      checkResource hw w taskId info
      submit taskId allowed status job : Call Bytes) h).2 := by
  refine Prog.bind_looked (P := fun k => Only _ h k) (existingTask_same taskId h) (.refl h) (fun info => ?_)
  have looked : (checkResource hw w taskId info h).2 = h := by
    refine Prog.Keeps.after (P := fun k => k = h) (sound.checkXmlGpu info) (fun _ k same => ?_)
    rw [refuse_same]
    exact same
  exact Prog.bind_looked (P := fun k => Only _ h k) looked (.refl h)
    (fun _ => submit_confined taskId allowed status job h)

theorem keeps {α : Type} {parts : Set Part} {call : Call α} (confined : Confined parts call)
    (outside : ∀ part ∈ parts,
    part ≠ .known taskId ∧ part ≠ .gpus taskId ∧ part ≠ .state taskId ∧ part ≠ .live taskId ∧
      part ≠ .definition taskId) :
    Prog.Keeps (GpusSound hw taskId) call := fun h sound => sound.spared (confined h) outside

theorem redefine_keeps (needed : Bool) : Prog.Keeps (GpusSound hw taskId) (Host.redefine w taskId needed) := by
  intro h sound
  unfold Host.redefine withInfo
  split
  · exact sound
  · rename_i info _
    have defined := sound.redefineDomain (w := w) info
    dsimp only
    split
    · split
      · rename_i same
        rw [same] at defined
        exact defined
      · rename_i same
        rw [same] at defined
        exact defined
    · exact sound

/-- A modification that does not name the GPUs. -/
theorem modifyTask_plain (sound : GpusSound hw taskId h) {doc : Json}
    (none : doc.parseString (str "new_gpu_count") = []) :
    GpusSound hw taskId (modifyTask hw w taskId doc h).2 := by
  have gpus : Prog.Keeps (GpusSound hw taskId) (modifyGpus hw taskId doc) := by
    intro k kept
    simpa only [modifyGpus, none, if_true] using kept
  refine Prog.bind_looked (existingTask_same taskId h) sound (fun _ => ?_)
  refine Prog.bind_looked (refuse_same _ h) sound (fun _ => ?_)
  refine Prog.Keeps.after (sound.spared (modifyNetwork_confined w taskId doc h) (by simp)) (fun _ => ?_)
  refine Prog.Keeps.bind ?_ (fun needed => (redefine_keeps needed).bind (fun _ => .pure _))
  refine (keeps (modifyVncPort_confined taskId doc) (by simp)).bind (fun vnc => gpus.bind (fun gpu => ?_))
  refine (keeps (modifyCpu_confined hw taskId doc) (by simp)).bind (fun cpu => ?_)
  exact (keeps (modifyMem_confined w taskId doc) (by simp)).bind (fun mem => .pure _)

end GpusSound

section Count
variable {hw : Hardware} {w : World} {taskId : Bytes} {h k : Host} {doc : Json}

theorem modifyCpu_ok (known : (h.taskInfos.find taskId).isSome) (fits : doc.parseString (str "new_cpu_cores") = [] ∨
    allocateCpu hw (atoi (doc.parseString (str "new_cpu_cores"))) ⟨1, 1, 2⟩ ≠ none) :
    ∃ changed k, modifyCpu hw taskId doc h = (.ok changed, k) := by
  obtain ⟨info, found⟩ := Option.isSome_iff_exists.mp known
  simp only [modifyCpu, withInfo, found]
  split
  · exact ⟨_, _, rfl⟩
  · rename_i text
    split
    · rename_i failed
      rcases fits with empty | fits
      · exact (text empty).elim
      · exact (fits failed).elim
    · split
      · exact ⟨_, _, rfl⟩
      · exact ⟨_, _, rfl⟩

theorem modifyMem_ok (known : (h.taskInfos.find taskId).isSome) (fits : doc.parseString (str "new_mem_size") = [] ∨
    allocateMemTwice w (memSizeOf (doc.parseString (str "new_mem_size")))) :
    ∃ changed k, modifyMem w taskId doc h = (.ok changed, k) := by
  obtain ⟨info, found⟩ := Option.isSome_iff_exists.mp known
  simp only [modifyMem, withInfo, found]
  split
  · exact ⟨_, _, rfl⟩
  · rename_i text
    split
    · rename_i failed
      rcases fits with empty | fits
      · exact (text empty).elim
      · rw [fits] at failed
        cases failed
    · split
      · exact ⟨_, _, rfl⟩
      · exact ⟨_, _, rfl⟩

/-- The domain that is down gets the definition with the GPUs that are
recorded by now. -/
theorem redefine_sound (known : (h.taskInfos.find taskId).isSome) (exist : h.isExistDomain taskId)
    (down : Down taskId h) (machine : ∀ gpu ∈ (h.getTaskGpus taskId).keys, gpu ∈ hw.gpuInfo.keys)
    (defines : w.defineDomain) :
    GpusSound hw taskId (redefine w taskId true h).2 := by
  obtain ⟨info, found⟩ := Option.isSome_iff_exists.mp known
  obtain ⟨domain, present⟩ := Option.isSome_iff_exists.mp exist
  have defined : h.redefineDomain w taskId info =
      (none, h.setDomain taskId { domain with definition := h.renewedXml taskId info domain.definition }) := by
    simp only [redefineDomain, present, defines, Bool.true_eq_false, if_false]
  simp only [redefine, withInfo, found, if_true, defined]
  have self := OrdMap.find_insert_self h.domains taskId
    { domain with definition := h.renewedXml taskId info domain.definition }
  refine ⟨fun other now running => ?_, fun other now _ => ?_, machine⟩
  · cases self.symm.trans now
    exact (running (down domain present)).elim
  · cases self.symm.trans now
    rfl

/-- A task whose domain is down and can be defined anew. -/
structure Redefinable (hw : Hardware) (taskId : Bytes) (h : Host) : Prop where
  known : (h.taskInfos.find taskId).isSome
  exist : h.isExistDomain taskId
  down : Down taskId h
  machine : ∀ gpu ∈ (h.getTaskGpus taskId).keys, gpu ∈ hw.gpuInfo.keys

theorem Redefinable.frame {parts : Set Part} (ready : Redefinable hw taskId h) (only : Only parts h k)
    (known : .known taskId ∉ parts) (gpus : .gpus taskId ∉ parts) (state : .state taskId ∉ parts) :
    Redefinable hw taskId k := by
  refine ⟨?_, ?_, ready.down.frame only state, ?_⟩
  · rw [only.known known]
    exact ready.known
  · rw [only.isExistDomain state]
    exact ready.exist
  · rw [only.getTaskGpus gpus]
    exact ready.machine

theorem existingTask_ok {info : TaskInfo} (ran : existingTask taskId h = (.ok info, k)) :
    (h.taskInfos.find taskId).isSome ∧ h.isExistDomain taskId ∧ k = h := by
  unfold existingTask at ran
  split at ran
  · cases ran
  · rename_i found
    split at ran
    · rename_i exist
      cases ran
      exact ⟨by rw [found]; rfl, exist, rfl⟩
    · cases ran

theorem modifyDomain_counted (sound : GpusSound hw taskId h) (ready : Redefinable hw taskId h)
    (asked : doc.parseString (str "new_gpu_count") ≠ []) (settled : GpuCountSettled hw w taskId doc h) :
    (∃ e k, modifyDomain hw w taskId doc h = (.error e, k) ∧ GpusSound hw taskId k) ∨
      ∃ k, modifyDomain hw w taskId doc h = (.ok true, k) ∧ Redefinable hw taskId k := by
  obtain ⟨_, _, cpuFits, memFits⟩ := settled.resolve_left asked
  unfold modifyDomain
  have vncOnly := modifyVncPort_confined taskId doc h
  rcases vncRan : modifyVncPort taskId doc h with ⟨e | vnc, h1⟩
  · rw [vncRan] at vncOnly
    exact Or.inl ⟨e, h1, Prog.bind_error vncRan, sound.spared vncOnly (by simp)⟩
  · rw [vncRan] at vncOnly
    rw [Prog.bind_ok vncRan]
    have sound1 := sound.spared vncOnly (by simp)
    have ready1 := ready.frame vncOnly (by simp) (by simp) (by simp)
    cases allocated : h1.allocateGpu hw (portOf (doc.parseString (str "new_gpu_count"))).toNat with
    | none =>
      have gpuRan : modifyGpus hw taskId doc h1 = (.error (.thrown (str "allocate gpu failed")), h1) := by
        simp only [modifyGpus, asked, if_false, allocated]
      exact Or.inl ⟨_, h1, Prog.bind_error gpuRan, sound1⟩
    | some gpus =>
      have gpuRan : modifyGpus hw taskId doc h1 =
        (.ok true, { h1 with taskGpus := h1.taskGpus.insert taskId gpus }) := by
        simp only [modifyGpus, asked, if_false, allocated]
      rw [Prog.bind_ok gpuRan]
      have ready2 : Redefinable hw taskId { h1 with taskGpus := h1.taskGpus.insert taskId gpus } := by
        refine ⟨ready1.known, ready1.exist, ready1.down, fun gpu member => ?_⟩
        rw [getTaskGpus, OrdMap.find_insert_self, Option.getD_some] at member
        obtain ⟨devices, found⟩ := OrdMap.mem_keys.mp member
        exact OrdMap.mem_keys.mpr ⟨devices, (allocateGpu_find (by omega) allocated found).1⟩
      obtain ⟨cpu, h3, cpuRan⟩ := modifyCpu_ok ready2.known cpuFits
      have cpuOnly := modifyCpu_confined hw taskId doc { h1 with taskGpus := h1.taskGpus.insert taskId gpus }
      rw [cpuRan] at cpuOnly
      have ready3 := ready2.frame cpuOnly (by simp) (by simp) (by simp)
      obtain ⟨mem, h4, memRan⟩ := modifyMem_ok ready3.known memFits
      have memOnly := modifyMem_confined w taskId doc h3
      rw [memRan] at memOnly
      refine Or.inr ⟨h4, ?_, ready3.frame memOnly (by simp) (by simp) (by simp)⟩
      rw [Prog.bind_ok cpuRan, Prog.bind_ok memRan, Bool.or_true]
      rfl

/-- A modification that names the GPUs of a task that is down. -/
theorem modifyTask_counted (sound : GpusSound hw taskId h) (asked : doc.parseString (str "new_gpu_count") ≠ [])
    (settled : GpuCountSettled hw w taskId doc h) : GpusSound hw taskId (modifyTask hw w taskId doc h).2 := by
  obtain ⟨down, defines, cpuFits, memFits⟩ := settled.resolve_left asked
  unfold modifyTask
  rcases looked : existingTask taskId h with ⟨e | info, k⟩
  · have same := existingTask_same taskId h
    rw [looked] at same
    rw [Prog.bind_error looked]
    exact same ▸ sound
  · obtain ⟨known, exist, rfl⟩ := existingTask_ok looked
    rw [Prog.bind_ok looked]
    refine Prog.bind_looked (refuse_same _ k) sound (fun _ => ?_)
    have only := modifyNetwork_confined w taskId doc k
    rcases network : modifyNetwork w taskId doc k with ⟨e | _, l⟩
    · rw [network] at only
      rw [Prog.bind_error network]
      exact sound.spared only (by simp)
    · rw [network] at only
      rw [Prog.bind_ok network]
      have kept := sound.spared only (by simp)
      have ready : Redefinable hw taskId l :=
        Redefinable.frame ⟨known, exist, down, sound.machine⟩ only (by simp) (by simp) (by simp)
      rcases modifyDomain_counted kept ready asked (Or.inr ⟨ready.down, defines, cpuFits, memFits⟩) with
        ⟨e, m, failed, still⟩ | ⟨m, changed, again⟩
      · rw [Prog.bind_error failed]
        exact still
      · rw [Prog.bind_ok changed]
        exact Prog.Keeps.after (redefine_sound again.known again.exist again.down again.machine defines)
          (fun _ => .pure _)

theorem modifyTask_confined_plain (none : doc.parseString (str "new_gpu_count") = []) :
    Confined {.info taskId, .ports taskId, .iptable taskId, .nat, .definition taskId}
      (modifyTask hw w taskId doc) := by
  have gpus : Confined ∅ (modifyGpus hw taskId doc) := by
    intro k
    simp only [modifyGpus, none, if_true]
    exact .refl k
  refine (existingTask_confined taskId).bind (fun _ => ?_)
  refine (refuse_confined _).bind (fun _ => ?_)
  refine ((modifyNetwork_confined w taskId doc).weaken (by simp [Set.insert_subset_iff])).bind (fun _ => ?_)
  refine Layout.Confined.bind ?_ (fun needed => ((redefine_confined w taskId needed).weaken (by simp)).bind
    (fun _ => .pure _))
  refine ((modifyVncPort_confined taskId doc).weaken (by simp [Set.insert_subset_iff])).bind (fun vnc => ?_)
  refine (gpus.weaken (Set.empty_subset _)).bind (fun gpu => ?_)
  refine ((modifyCpu_confined hw taskId doc).weaken (by simp)).bind (fun cpu => ?_)
  exact ((modifyMem_confined w taskId doc).weaken (by simp)).bind (fun mem => .pure _)

end Count

section Added
variable {hw : Hardware} {w : World} {h : Host}

theorem mem_mergedGpus {gpu : Bytes} (entries : List (Bytes × List Bytes)) (own : OrdMap Bytes (List Bytes))
    (member : gpu ∈ (entries.foldl (fun own entry =>
      if (own.find entry.1).isSome then own else own.insert entry.1 entry.2) own).keys) :
    gpu ∈ own.keys ∨ gpu ∈ entries.map (·.1) := by
  induction entries generalizing own with
  | nil => exact Or.inl member
  | cons entry rest ih =>
    rcases ih _ member with before | later
    · dsimp only at before
      split at before
      · exact Or.inl before
      · obtain ⟨devices, found⟩ := OrdMap.mem_keys.mp before
        rw [OrdMap.find_insert] at found
        split at found
        · rename_i same
          exact Or.inr (same ▸ List.mem_cons_self)
        · exact Or.inl (OrdMap.mem_keys.mpr ⟨devices, found⟩)
    · exact Or.inr (List.mem_cons_of_mem _ later)

theorem addGpus_keys {taskId gpu : Bytes} {gpus : OrdMap Bytes (List Bytes)}
    (member : gpu ∈ ((h.addGpus taskId gpus).getTaskGpus taskId).keys) :
    gpu ∈ (h.getTaskGpus taskId).keys ∨ gpu ∈ gpus.keys := by
  unfold addGpus at member
  split at member
  · exact Or.inl member
  · rw [getTaskGpus, OrdMap.find_insert_self] at member
    exact mem_mergedGpus gpus.entries _ member

/-- A new task has what it is given, and what its id had before. -/
theorem addTask_gpus {wallet root gpu : Bytes} {rentEnd : Int} {params : CreateTaskParams}
    (member : gpu ∈ ((h.addTask w wallet rentEnd params root).getTaskGpus params.taskId).keys) :
    gpu ∈ (h.getTaskGpus params.taskId).keys ∨ gpu ∈ params.gpus.keys := by
  unfold Host.addTask at member
  rw [(pushTaskEvent_only _ _).getTaskGpus (by simp),
    (addRentTask_only params.taskId _ wallet rentEnd).getTaskGpus (by simp)]
    at member
  rcases addGpus_keys member with before | new
  · rw [(addDisks_only w _ params).getTaskGpus (by simp), (addInfo_only h _).getTaskGpus (by simp)] at before
    exact Or.inl before
  · exact Or.inr new

/-- A new task has GPUs of this machine, and no domain yet. -/
theorem GpusSound.addTask {wallet root : Bytes} {rentEnd : Int} {params : CreateTaskParams}
    (sound : GpusSound hw params.taskId h) (fresh : h.isExistDomain params.taskId = false)
    {gpuCount : Int} (asked : 0 ≤ gpuCount) (allocated : h.allocateGpu hw gpuCount = some params.gpus) :
    GpusSound hw params.taskId (h.addTask w wallet rentEnd params root) := by
  have only := addTask_only w h wallet rentEnd params root
  have missing : ∀ domain, (h.addTask w wallet rentEnd params root).domains.find params.taskId ≠ some domain := by
    intro domain found
    have exist := isExistDomain_of_find params.taskId found
    rw [only.defined (by simp [createParts]), fresh] at exist
    cases exist
  refine ⟨fun domain found => (missing domain found).elim, fun domain found => (missing domain found).elim, ?_⟩
  intro gpu member
  rcases addTask_gpus member with before | new
  · exact sound.machine gpu before
  · obtain ⟨devices, found⟩ := OrdMap.mem_keys.mp new
    exact OrdMap.mem_keys.mpr ⟨devices, (allocateGpu_find asked allocated found).1⟩

end Added

end DbcNode.Host
