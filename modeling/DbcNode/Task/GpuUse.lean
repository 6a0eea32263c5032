import DbcNode.Task.GpuSound
import DbcNode.Task.ShutOff

namespace DbcNode.Host

/-- No GPU is in two domains that are not shut off. -/
def LiveGpusDisjoint (h : Host) : Prop := ∀ first second gpu, first ≠ second → GpuLive first gpu h →
    ¬ GpuLive second gpu h

/-- When a domain starts, no GPU of its task is counted for another one by
then. The GPUs of a task change only while it is down, a task is deleted
only with its domain, and the id of a new task is not one of a domain. -/
def GpusChecked (hw : Hardware) (h : Host) : World × HostEvent → Prop
  | (w, .create _ _ _ _) => h.isExistDomain w.newTaskId = false
  | (w, .request _ ⟨taskId, .modify doc⟩) => GpuCountSettled hw w taskId doc h
  | (w, .process) => ∀ event rest, h.events = event :: rest →
      (Starts w event h → Down event.taskId h →
        ∀ gpu ∈ (h.getTaskGpus event.taskId).keys, ∀ other, other ≠ event.taskId → ¬ Counted other gpu h) ∧
      (event.job = .deleteTask → Stoppable w event.taskId h)
  | (w, .destroy taskId) => Stoppable w taskId h
  | _ => True

/-- Only tasks that are known can count a GPU. -/
theorem counted_others {taskId : Bytes} {gpus : List Bytes} {h : Host} :
    (∀ gpu ∈ gpus, ∀ entry ∈ h.taskInfos.entries, entry.1 ≠ taskId → ¬ Counted entry.1 gpu h) ↔
      ∀ gpu ∈ gpus, ∀ other, other ≠ taskId → ¬ Counted other gpu h := by
  refine forall₂_congr (fun gpu _ => ⟨fun free other different counted => ?_, fun free entry _ => free entry.1⟩)
  obtain ⟨info, found⟩ := Option.isSome_iff_exists.mp counted.1
  exact free (other, info) (OrdMap.find_eq_some.mp found) different counted

instance (taskId gpu : Bytes) (h : Host) : Decidable (Counted taskId gpu h) :=
    inferInstanceAs (Decidable (_ ∧ _ ∧ _))

instance (w : World) (taskId : Bytes) (h : Host) : Decidable (Stoppable w taskId h) :=
  inferInstanceAs (Decidable (_ ∨ _ = true))

instance (hw : Hardware) (w : World) (taskId : Bytes) (doc : Json) (h : Host) :
    Decidable (GpuCountSettled hw w taskId doc h) :=
  inferInstanceAs (Decidable (_ ∨ _ ∧ _ = true ∧ (_ ∨ _ ≠ _) ∧ (_ ∨ _ = true)))

instance (taskId : Bytes) (gpus : List Bytes) (h : Host) :
    Decidable (∀ gpu ∈ gpus, ∀ other, other ≠ taskId → ¬ Counted other gpu h) := decidable_of_iff _ counted_others

instance (hw : Hardware) (h : Host) : (event : World × HostEvent) → Decidable (GpusChecked hw h event)
  | (w, .create _ _ _ _) => inferInstanceAs (Decidable (h.isExistDomain w.newTaskId = false))
  | (w, .request _ ⟨taskId, operation⟩) => match operation with
    | .modify doc => inferInstanceAs (Decidable (GpuCountSettled hw w taskId doc h))
    | .list | .start | .shutdown | .poweroff | .stop | .restart _ | .reset | .delete | .passwd _ | .logs _ _
    | .listDisk | .resizeDisk _ | .addDisk _ | .deleteDisk _ | .listSnapshot _ | .createSnapshot _
    | .deleteSnapshot _ => isTrue trivial
  | (w, .process) => match queue : h.events with
    | [] => isTrue (fun event rest same => by rw [queue] at same; cases same)
    | first :: _ => decidable_of_iff ((Starts w first h → Down first.taskId h →
        ∀ gpu ∈ (h.getTaskGpus first.taskId).keys, ∀ other, other ≠ first.taskId → ¬ Counted other gpu h) ∧
        (first.job = .deleteTask → Stoppable w first.taskId h))
      ⟨fun free event rest same => by rw [queue] at same; cases same; exact free, fun free => free first _ queue⟩
  | (w, .destroy taskId) => inferInstanceAs (Decidable (Stoppable w taskId h))
  | (_, .deleteImage _) | (_, .close _) | (_, .uploaded _ _) | (_, .domainChanges _ _) | (_, .fileAppears _ _) =>
    isTrue trivial

/-- The GPUs of all tasks. -/
structure GpusRecorded (hw : Hardware) (h : Host) : Prop where
  sound : ∀ taskId, GpusSound hw taskId h
  disjoint : ∀ first second gpu, first ≠ second → ¬ Down first h → ¬ Down second h →
    gpu ∈ (h.getTaskGpus first).keys → gpu ∉ (h.getTaskGpus second).keys

section Meaning
variable {hw : Hardware} {h : Host}

theorem GpuLive.up {taskId gpu : Bytes} (live : GpuLive taskId gpu h) : ¬ Down taskId h := by
  obtain ⟨domain, found, running, _⟩ := live
  exact fun down => running (down domain found)

theorem GpusSound.counted {taskId gpu : Bytes} (sound : GpusSound hw taskId h) (live : GpuLive taskId gpu h) :
    Counted taskId gpu h := by
  obtain ⟨domain, found, running, inside⟩ := live
  obtain ⟨known, same⟩ := sound.live domain found running
  refine ⟨known, ?_, same ▸ inside⟩
  rw [getDomainStatus_of_find found]
  exact running

theorem GpusRecorded.liveDisjoint (recorded : GpusRecorded hw h) : LiveGpusDisjoint h := by
  intro first second gpu different live other
  exact recorded.disjoint first second gpu different live.up other.up ((recorded.sound first).counted live).2.2
    ((recorded.sound second).counted other).2.2

theorem GpusRecorded.allocatesFree (recorded : GpusRecorded hw h) {gpuCount : Int} (asked : 0 ≤ gpuCount) :
    AllocatesFree hw gpuCount h := by
  intro gpus allocated
  obtain ⟨entries, enough⟩ := allocateGpu_entries asked allocated
  refine ⟨?_, ?_, fun gpu devices found => (allocateGpu_find asked allocated found).1,
    fun gpu member taskId live => ?_⟩
  · rw [OrdMap.keys, List.length_map, entries, List.length_take]
    omega
  · refine (List.pairwise_map.mpr gpus.sorted).imp ?_
    intro a b less same
    subst same
    exact Std.Asymm.asymm _ _ less less
  · obtain ⟨devices, found⟩ := OrdMap.mem_keys.mp member
    exact (allocateGpu_find asked allocated found).2 taskId ((recorded.sound taskId).counted live)

end Meaning

namespace GpusRecorded
variable {hw : Hardware} {w : World} {parts : Set Part} {taskId : Bytes} {h k : Host}

/-- A change of one task, whose GPUs stay sound and its own. -/
theorem change (recorded : GpusRecorded hw h) (only : Only parts h k) (within : Within taskId parts)
    (own : GpusSound hw taskId k)
    (apart : ∀ other gpu, other ≠ taskId → ¬ Down taskId k → ¬ Down other h → gpu ∈ (k.getTaskGpus taskId).keys →
      gpu ∉ (h.getTaskGpus other).keys) : GpusRecorded hw k := by
  have others : ∀ other, other ≠ taskId → (¬ Down other k → ¬ Down other h) ∧ k.getTaskGpus other =
    h.getTaskGpus other := by
    intro other different
    refine ⟨fun up => ?_, only.getTaskGpus (within.other rfl different)⟩
    rwa [Down.iff only (within.other rfl different)] at up
  refine ⟨fun other => ?_, fun first second gpu different upFirst upSecond inFirst inSecond => ?_⟩
  · by_cases same : other = taskId
    · exact same ▸ own
    · exact (recorded.sound other).frame only (within.other rfl same) (within.other rfl same)
        (within.other rfl same) (within.other rfl same) (within.other rfl same)
  · by_cases isFirst : first = taskId
    · subst isFirst
      obtain ⟨up, same⟩ := others second different.symm
      exact apart second gpu different.symm upFirst (up upSecond) inFirst (same ▸ inSecond)
    · obtain ⟨up, same⟩ := others first isFirst
      rw [same] at inFirst
      by_cases isSecond : second = taskId
      · subst isSecond
        exact apart first gpu isFirst upSecond (up upFirst) inSecond inFirst
      · obtain ⟨alsoUp, alsoSame⟩ := others second isSecond
        exact recorded.disjoint first second gpu different (up upFirst) (alsoUp upSecond) inFirst
          (alsoSame ▸ inSecond)

/-- A change of one task that does not bring it up and gives it no GPU. -/
theorem calm (recorded : GpusRecorded hw h) (only : Only parts h k) (within : Within taskId parts)
    (own : GpusSound hw taskId k) (down : Down taskId h → Down taskId k)
    (gpus : ∀ gpu ∈ (k.getTaskGpus taskId).keys, gpu ∈ (h.getTaskGpus taskId).keys) : GpusRecorded hw k := by
  refine recorded.change only within own (fun other gpu different up upOther member => ?_)
  exact recorded.disjoint taskId other gpu different.symm (fun was => up (down was)) upOther (gpus gpu member)

theorem frame (recorded : GpusRecorded hw h) (only : Only parts h k) (known : ∀ other, .known other ∉ parts)
    (gpus : ∀ other, .gpus other ∉ parts) (state : ∀ other, .state other ∉ parts)
    (live : ∀ other, .live other ∉ parts) (definition : ∀ other, .definition other ∉ parts) :
    GpusRecorded hw k := by
  refine ⟨fun other => (recorded.sound other).frame only (known other) (gpus other) (state other) (live other)
    (definition other), fun first second gpu different upFirst upSecond inFirst inSecond => ?_⟩
  rw [Down.iff only (state _)] at upFirst upSecond
  rw [only.getTaskGpus (gpus _)] at inFirst inSecond
  exact recorded.disjoint first second gpu different upFirst upSecond inFirst inSecond

theorem counted (recorded : GpusRecorded hw h) {other gpu : Bytes} (up : ¬ Down other h)
    (member : gpu ∈ (h.getTaskGpus other).keys) : Counted other gpu h := by
  obtain ⟨domain, found⟩ := not_forall.mp up
  obtain ⟨present, running⟩ := Classical.not_imp.mp found
  refine ⟨((recorded.sound other).live domain present running).1, ?_, member⟩
  rw [getDomainStatus_of_find present]
  exact running

theorem create (recorded : GpusRecorded hw h) {wallet root : Bytes} {rentEnd : Int} {params : CreateTaskParams}
    (fresh : h.isExistDomain params.taskId = false) {gpuCount : Int} (asked : 0 ≤ gpuCount)
    (allocated : h.allocateGpu hw gpuCount = some params.gpus) :
    GpusRecorded hw (h.addTask w wallet rentEnd params root) := by
  have only := addTask_only w h wallet rentEnd params root
  refine recorded.change only (createParts_within params.taskId)
    ((recorded.sound params.taskId).addTask fresh asked allocated) (fun other gpu different up => ?_)
  have missing : h.domains.find params.taskId = none := Option.not_isSome_iff_eq_none.mp (by
    rw [isExistDomain] at fresh
    simp [fresh])
  exact (up (Down.frame (.of_missing missing) only (by simp [createParts]))).elim

theorem modify (recorded : GpusRecorded hw h) {wallet : Bytes} {doc : Json}
    (settled : GpuCountSettled hw w taskId doc h) :
    GpusRecorded hw (execute hw w wallet ⟨taskId, .modify doc⟩ h).2 := by
  have only : Only {.info taskId, .ports taskId, .iptable taskId, .nat, .gpus taskId, .definition taskId} h
      (modifyTask hw w taskId doc h).2 := modifyTask_confined hw w taskId doc h
  have within : Within taskId {.info taskId, .ports taskId, .iptable taskId, .nat, .gpus taskId,
    .definition taskId} := by
    intro part member
    simp only [Set.mem_insert_iff, Set.mem_singleton_iff] at member
    rcases member with rfl | rfl | rfl | rfl | rfl | rfl <;> simp [Part.owner]
  have modified : GpusRecorded hw (modifyTask hw w taskId doc h).2 := by
    by_cases none : doc.parseString (str "new_gpu_count") = []
    · have same : (modifyTask hw w taskId doc h).2.getTaskGpus taskId = h.getTaskGpus taskId :=
        Only.getTaskGpus (modifyTask_confined_plain none h) (by simp)
      exact recorded.calm only within ((recorded.sound taskId).modifyTask_plain none)
        (fun down => down.frame only (by simp)) (fun gpu member => same ▸ member)
    · have down := (settled.resolve_left none).1
      refine recorded.change only within (modifyTask_counted (recorded.sound taskId) none settled)
        (fun other gpu different up => ?_)
      exact (up (down.frame only (by simp))).elim
  exact Prog.Keeps.after modified (fun _ => .pure _)

theorem start (recorded : GpusRecorded hw h) (allowed : DomainState → Bool) (status : TaskStatus) (job : TaskJob) :
    GpusRecorded hw ((TaskReply.message <$> (do
      let info ← existingTask taskId
      checkResource hw w taskId info
      submit taskId allowed status job) : Call TaskReply) h).2 := by
  have only := (recorded.sound taskId).checkedSubmit (w := w) allowed status job
  exact Prog.Keeps.after (recorded.frame only (by simp) (by simp) (by simp) (by simp) (by simp)) (fun _ => .pure _)

theorem request (recorded : GpusRecorded hw h) {wallet : Bytes} {request : TaskRequest}
    (checked : GpusChecked hw h (w, .request wallet request)) :
    GpusRecorded hw (execute hw w wallet request h).2 := by
  obtain ⟨taskId, operation⟩ := request
  have only := execute_confined hw w wallet ⟨taskId, operation⟩ h
  cases operation with
  | modify doc => exact recorded.modify checked
  | start => exact recorded.start _ _ _
  | restart forceReboot => exact recorded.start _ _ _
  | _ =>
    exact recorded.frame only (by simp [requestParts]) (by simp [requestParts]) (by simp [requestParts])
      (by simp [requestParts]) (by simp [requestParts])

theorem destroyTask (recorded : GpusRecorded hw h) (stoppable : Stoppable w taskId h) :
    GpusRecorded hw (h.destroyTask w taskId) := by
  refine recorded.change (destroyTask_only w taskId h) (destroyParts_within taskId)
    ((recorded.sound taskId).destroyTask stoppable) (fun other gpu different up => ?_)
  exact (up (stoppable.down.frame (destroyTask_records w taskId h) (by simp [recordParts]))).elim

theorem closeTask (recorded : GpusRecorded hw h) (taskId : Bytes) : GpusRecorded hw (h.closeTask w taskId) := by
  have only := closeTask_only w taskId h
  have own : GpusSound hw taskId (h.closeTask w taskId) := by
    have stopped := (recorded.sound taskId).destroyDomain (w := w)
    unfold Host.closeTask
    split
    · exact recorded.sound taskId
    · split
      · rename_i same
        rw [same] at stopped
        exact stopped
      · rename_i same
        rw [same] at stopped
        have settled := stopped.spared (setTaskStatus_only taskId _ .shutoff) (by simp)
        exact settled.spared (removeIptableFromSystem_only taskId _) (by simp)
  refine recorded.calm only (closeParts_within taskId) own (fun down => ?_) (fun gpu member => ?_)
  · rw [down.closeTask]
    exact down
  · rwa [only.getTaskGpus (by simp)] at member

theorem process (recorded : GpusRecorded hw h) (checked : GpusChecked hw h (w, .process))
    (ran : h.step hw (w, .process) = some k) : GpusRecorded hw k := by
  obtain ⟨event, rest, queue, ended⟩ := step_process ran
  obtain ⟨free, stoppable⟩ := checked event rest queue
  have taken : Only {.events} h { h with events := rest } := dequeue_only rest
  have before : GpusRecorded hw { h with events := rest } :=
    recorded.frame taken (by simp) (by simp) (by simp) (by simp) (by simp)
  have footprint : Only (jobParts event.taskId event.job) { h with events := rest } _ :=
    processJob_confined w event.taskId event.job { h with events := rest }
  have worked : GpusRecorded hw (processJob w event.taskId event.job { h with events := rest }).2 := by
    refine before.change footprint (jobParts_within event.taskId event.job)
      ((before.sound event.taskId).processJob stoppable) ?_
    intro other gpu different upOwn upOther member
    have own := GpusSound.processJob_gpus member
    rw [taken.getTaskGpus (by simp)] at own
    by_cases down : Down event.taskId h
    · -- It has just come up, so it was started with GPUs that are free.
      have starts : Starts w event h := by
        by_contra quiet
        exact upOwn (Down.processJob (down.frame taken (by simp)) (fun _ => quiet))
      exact fun taken => free starts down gpu own other different (recorded.counted upOther taken)
    · exact recorded.disjoint event.taskId other gpu different.symm down upOther own
  exact worked.frame ended (by simp) (by simp) (by simp) (by simp) (by simp)

theorem domainChanges (recorded : GpusRecorded hw h) {state : DomainState}
    (ran : h.domainChanges taskId state = some k) : GpusRecorded hw k := by
  unfold Host.domainChanges at ran
  split at ran
  · cases ran
  · rename_i domain found
    split at ran
    · cases ran
    · rename_i running
      cases ran
      have sound := recorded.sound taskId
      have only := setDomain_only_domain taskId (h := h) { domain with state := state }
      refine recorded.calm only (domainParts_within taskId)
        (sound.setDomain (fun _ => sound.live domain found running) (sound.definition domain found)) ?_
          (fun gpu member => member)
      exact fun down => (running (down domain found)).elim

theorem step (recorded : GpusRecorded hw h) {event : World × HostEvent} (checked : GpusChecked hw h event)
    (ran : h.step hw event = some k) : GpusRecorded hw k := by
  obtain ⟨w, event⟩ := event
  cases event with
  | create wallet additional rentEnd role =>
    rcases step_create ran with rfl | ⟨params, root, parsed, rfl⟩
    · exact recorded
    · obtain ⟨newId, gpuCount, asked, allocated⟩ := parseCreateParams_ok parsed
      exact recorded.create (newId ▸ checked) asked allocated
  | request wallet request =>
    rw [← step_request ran]
    exact recorded.request checked
  | deleteImage additional =>
    rw [← survives_some ran]
    exact recorded.frame (deleteImage_confined w additional h) (by simp) (by simp) (by simp) (by simp) (by simp)
  | process => exact recorded.process checked ran
  | close taskId =>
    cases ran
    exact recorded.closeTask taskId
  | destroy taskId =>
    cases ran
    exact recorded.destroyTask checked
  | uploaded taskId snapshotName =>
    rw [← survives_some ran]
    exact recorded.frame (setSnapshotStatus_confined taskId snapshotName .none h) (by simp) (by simp)
      (by simp) (by simp)
      (by simp)
  | domainChanges taskId state => exact recorded.domainChanges ran
  | fileAppears path backing =>
    exact recorded.frame (fileAppears_only ran) (by simp) (by simp) (by simp) (by simp) (by simp)

theorem empty : GpusRecorded hw Host.empty :=
  ⟨fun _ => ⟨fun _ found => (by cases found), fun _ found => (by cases found), fun _ member => (by cases member)⟩,
    fun _ _ _ _ up => (up (Down.of_missing rfl)).elim⟩

end GpusRecorded

/-- No task has more GPUs than before, and none comes to be counted. -/
structure NoMoreGpus (h k : Host) : Prop where
  gpus : ∀ taskId, ∀ gpu ∈ (k.getTaskGpus taskId).keys, gpu ∈ (h.getTaskGpus taskId).keys
  counts : ∀ taskId, (k.taskInfos.find taskId).isSome → k.getDomainStatus taskId ≠ .shutoff →
    (h.taskInfos.find taskId).isSome ∧ h.getDomainStatus taskId ≠ .shutoff

namespace NoMoreGpus
variable {hw : Hardware} {w : World} {parts : Set Part} {taskId : Bytes} {h k l : Host}

theorem refl (h : Host) : NoMoreGpus h h := ⟨fun _ _ member => member, fun _ known up => ⟨known, up⟩⟩

theorem trans (first : NoMoreGpus h k) (second : NoMoreGpus k l) : NoMoreGpus h l := by
  refine ⟨fun taskId gpu member => first.gpus taskId gpu (second.gpus taskId gpu member), fun taskId known up => ?_⟩
  obtain ⟨wasKnown, wasUp⟩ := second.counts taskId known up
  exact first.counts taskId wasKnown wasUp

theorem frame (only : Only parts h k) (known : ∀ other, .known other ∉ parts) (gpus : ∀ other, .gpus other ∉ parts)
    (state : ∀ other, .state other ∉ parts) : NoMoreGpus h k := by
  refine ⟨fun other gpu member => ?_, fun other isKnown up => ?_⟩
  · rwa [only.getTaskGpus (gpus other)] at member
  · rw [only.known (known other)] at isKnown
    rw [only.getDomainStatus (state other)] at up
    exact ⟨isKnown, up⟩

/-- A change of one task, which gets no GPU and does not come to be
counted. -/
theorem change (only : Only parts h k) (within : Within taskId parts)
    (gpus : ∀ gpu ∈ (k.getTaskGpus taskId).keys, gpu ∈ (h.getTaskGpus taskId).keys)
    (counts : (k.taskInfos.find taskId).isSome → k.getDomainStatus taskId ≠ .shutoff →
      (h.taskInfos.find taskId).isSome ∧ h.getDomainStatus taskId ≠ .shutoff) : NoMoreGpus h k := by
  refine ⟨fun other gpu member => ?_, fun other known up => ?_⟩
  · by_cases own : other = taskId
    · subst own
      exact gpus gpu member
    · rwa [only.getTaskGpus (within.other rfl own)] at member
  · by_cases own : other = taskId
    · subst own
      exact counts known up
    · rw [only.known (within.other rfl own)] at known
      rw [only.getDomainStatus (within.other rfl own)] at up
      exact ⟨known, up⟩

/-- A domain that is there and shut off is left so by an event that starts
nothing, unless it deletes the task. -/
theorem shutoff_of_quiet {event : TaskEvent} (quiet : ¬ Starts w event h) (kept : event.job ≠ .deleteTask)
    (shutOff : h.getDomainStatus event.taskId = .shutoff) :
    (processJob w event.taskId event.job h).2.getDomainStatus event.taskId = .shutoff := by
  obtain ⟨domain, found, state⟩ := status_some shutOff (by decide)
  have exist := isExistDomain_of_find event.taskId found
  have footprint : Only (jobParts event.taskId event.job) h _ := processJob_confined w event.taskId event.job h
  have defined : (processJob w event.taskId event.job h).2.isExistDomain event.taskId = true := by
    rcases creates : event.job with biosMode | _
    case createTask =>
      exact ((processCreateTask_exists exist biosMode).defined (by simp)).trans exist
    case deleteTask => exact (kept creates).elim
    all_goals
      rw [creates] at footprint
      exact (footprint.defined (by simp [jobParts])).trans exist
  obtain ⟨after, present⟩ := Option.isSome_iff_exists.mp defined
  rw [getDomainStatus_of_find present]
  exact Down.processJob (Down.of_shutoff shutOff) (fun _ => quiet) after present

theorem processJob {event : TaskEvent} (quiet : ¬ Starts w event h) :
    NoMoreGpus h (processJob w event.taskId event.job h).2 := by
  have footprint : Only (jobParts event.taskId event.job) h _ := processJob_confined w event.taskId event.job h
  refine change footprint (jobParts_within event.taskId event.job) (fun gpu => GpusSound.processJob_gpus) ?_
  intro known up
  by_cases deletes : event.job = .deleteTask
  · -- the record of a task that is deleted is gone
    rw [deletes] at known
    change ((h.processDeleteTask w event.taskId).taskInfos.find event.taskId).isSome at known
    unfold processDeleteTask at known
    split at known
    · rename_i missing
      rw [missing] at known
      cases known
    · rw [destroyTask_unknown] at known
      cases known
  · rw [footprint.known (notMem_jobParts_known deletes)] at known
    exact ⟨known, fun shutOff => up (shutoff_of_quiet quiet deletes shutOff)⟩

theorem closeTask (w : World) (taskId : Bytes) (h : Host) : NoMoreGpus h (h.closeTask w taskId) := by
  have only := closeTask_only w taskId h
  refine change only (closeParts_within taskId) (fun gpu member => ?_) (fun known up => ?_)
  · rwa [only.getTaskGpus (by simp)] at member
  · rw [only.known (by simp)] at known
    refine ⟨known, fun shutOff => up ?_⟩
    rwa [(Down.of_shutoff shutOff).closeTask]

theorem destroyTask (w : World) (taskId : Bytes) (h : Host) : NoMoreGpus h (h.destroyTask w taskId) := by
  refine change (destroyTask_only w taskId h) (destroyParts_within taskId) (fun gpu member => ?_)
    (fun known _ => ?_)
  · by_cases known : (h.taskInfos.find taskId).isSome
    · rw [getTaskGpus, destroyTask_gpus w taskId h known] at member
      cases member
    · rwa [destroyTask_eq_of_unknown w taskId h (Option.not_isSome_iff_eq_none.mp known),
        (destroyAndUndefineDomain_only w taskId).getTaskGpus (by simp)] at member
  · rw [destroyTask_unknown] at known
    cases known

theorem domainChanges {state : DomainState} (ran : h.domainChanges taskId state = some k) : NoMoreGpus h k := by
  have only := domainChanges_only ran
  unfold Host.domainChanges at ran
  split at ran
  · cases ran
  · rename_i domain found
    split at ran
    · cases ran
    · rename_i running
      cases ran
      refine change only (domainParts_within taskId) (fun gpu member => member) (fun known _ => ⟨known, ?_⟩)
      rwa [getDomainStatus_of_find found]

/-- A request gives nobody a GPU, unless it asks for a new count of them. -/
theorem request (recorded : GpusRecorded hw h) {wallet : Bytes} {request : TaskRequest}
    (none : ∀ doc, request.operation = .modify doc → doc.parseString (str "new_gpu_count") = []) :
    NoMoreGpus h (execute hw w wallet request h).2 := by
  obtain ⟨taskId, operation⟩ := request
  have only := execute_confined hw w wallet ⟨taskId, operation⟩ h
  have checked : ∀ allowed status job, NoMoreGpus h ((TaskReply.message <$> (do
      let info ← existingTask taskId
      checkResource hw w taskId info
      submit taskId allowed status job) : Call TaskReply) h).2 := by
    intro allowed status job
    have only := (recorded.sound taskId).checkedSubmit (w := w) allowed status job
    exact Prog.Keeps.after (frame only (by simp) (by simp) (by simp)) (fun _ => .pure _)
  cases operation with
  | modify doc =>
    have plain : Only {.info taskId, .ports taskId, .iptable taskId, .nat, .definition taskId} h
        (modifyTask hw w taskId doc h).2 := modifyTask_confined_plain (none doc rfl) h
    exact Prog.Keeps.after (frame plain (by simp) (by simp) (by simp)) (fun _ => .pure _)
  | start => exact checked _ _ _
  | restart forceReboot => exact checked _ _ _
  | _ => exact frame only (by simp [requestParts]) (by simp [requestParts]) (by simp [requestParts])

end NoMoreGpus

/-- The GPUs of a task are counted for no other one. -/
def GpusFree (taskId : Bytes) (h : Host) : Prop :=
  ∀ gpu ∈ (h.getTaskGpus taskId).keys, ∀ other, other ≠ taskId → ¬ Counted other gpu h

/-- No domain starts, and no task is given a GPU. -/
def GpusQuiet (h : Host) : World × HostEvent → Prop
  | (_, .create _ _ _ _) => False
  | (_, .request _ request) => ∀ doc, request.operation = .modify doc → doc.parseString (str "new_gpu_count") = []
  | (w, .process) => ∀ event rest, h.events = event :: rest → ¬ Starts w event h
  | _ => True

namespace GpusFree
variable {hw : Hardware} {w : World} {taskId : Bytes} {h k : Host}

theorem mono (free : GpusFree taskId h) (noMore : NoMoreGpus h k) : GpusFree taskId k := by
  intro gpu member other different counted
  obtain ⟨known, up⟩ := noMore.counts other counted.1 counted.2.1
  exact free gpu (noMore.gpus taskId gpu member) other different ⟨known, up, noMore.gpus other gpu counted.2.2⟩

/-- What `check_gpu` lets pass is counted for nobody. -/
theorem of_checkGpu (passed : h.checkGpu hw (h.getTaskGpus taskId) = none) : GpusFree taskId h := by
  intro gpu member other _ counted
  obtain ⟨devices, found⟩ := OrdMap.mem_keys.mp member
  have unusable : (h.canUseGpu hw).find gpu = none := canUseGpu_none.mpr (Or.inr ⟨other, counted⟩)
  exact checkGpu_fails_iff.mpr ⟨gpu, devices, found, Or.inl unusable⟩ passed

/-- A request to start a task, or to restart it, is accepted when the check
has found the GPUs of the task free. -/
theorem of_accepted (recorded : GpusRecorded hw h) {allowed : DomainState → Bool} {status : TaskStatus}
    {job : TaskJob} {message : Bytes} (accepted : (do
      let info ← existingTask taskId
      checkResource hw w taskId info
      submit taskId allowed status job : Call Bytes) h = (.ok message, k)) : GpusFree taskId k := by
  obtain ⟨info, same, looked, checking⟩ | ⟨error, _, failed⟩ := Prog.bind_cases accepted
  · obtain ⟨_, _, rfl⟩ := existingTask_ok looked
    obtain ⟨_, checked, passed, submitted⟩ | ⟨error, _, failed⟩ := Prog.bind_cases checking
    · have before : GpusFree taskId same ∧ checked = same := by
        change refuse _ (same.checkXmlGpu hw w taskId info) = _ at passed
        rw [(recorded.sound taskId).checkXmlGpu info, refuse] at passed
        split at passed
        · cases passed
        · rename_i faultless
          cases passed
          have free : same.checkGpu hw (same.getTaskGpus taskId) = none := by
            unfold resourceError at faultless
            split at faultless
            · cases faultless
            · split at faultless
              · cases faultless
              · rename_i free
                exact not_not.mp free
          exact ⟨of_checkGpu free, rfl⟩
      obtain ⟨free, rfl⟩ := before
      have only := submit_confined taskId allowed status job checked
      rw [submitted] at only
      exact free.mono (.frame only (by simp) (by simp) (by simp))
    · cases failed
  · cases failed

/-- A new task whose id has no GPUs gets some that are free. -/
theorem of_created {wallet : Bytes} {additional : Option Json} {rentEnd : Int} {role : UserRole}
    (free : GpusFree w.newTaskId h) (ran : h.step hw (w, .create wallet additional rentEnd role) = some k) :
    GpusFree w.newTaskId k := by
  rcases step_create ran with rfl | ⟨params, root, parsed, rfl⟩
  · exact free
  · obtain ⟨newId, gpuCount, asked, allocated⟩ := parseCreateParams_ok parsed
    rw [← newId] at free ⊢
    have only := addTask_only w h wallet rentEnd params root
    have within := createParts_within params.taskId
    intro gpu member other different counted
    have before : Counted other gpu h := by
      refine ⟨only.known (within.other rfl different) ▸ counted.1, ?_, ?_⟩
      · exact only.getDomainStatus (within.other rfl different) ▸ counted.2.1
      · exact only.getTaskGpus (within.other rfl different) ▸ counted.2.2
    rcases addTask_gpus member with had | new
    · exact free gpu had other different before
    · obtain ⟨devices, found⟩ := OrdMap.mem_keys.mp new
      exact (allocateGpu_find asked allocated found).2 other before

theorem step (free : GpusFree taskId h) (recorded : GpusRecorded hw h) {event : World × HostEvent}
    (quiet : GpusQuiet h event) (ran : h.step hw event = some k) : GpusFree taskId k := by
  obtain ⟨w, event⟩ := event
  cases event with
  | create wallet additional rentEnd role => exact quiet.elim
  | request wallet request =>
    rw [← step_request ran]
    exact free.mono (.request recorded quiet)
  | deleteImage additional =>
    rw [← survives_some ran]
    exact free.mono (.frame (deleteImage_confined w additional h) (by simp) (by simp) (by simp))
  | process =>
    obtain ⟨event, rest, queue, ended⟩ := step_process ran
    have taken : NoMoreGpus h { h with events := rest } := .frame (dequeue_only rest) (by simp) (by simp) (by simp)
    have worked := NoMoreGpus.processJob (h := { h with events := rest }) (quiet event rest queue)
    exact free.mono (taken.trans (worked.trans (.frame ended (by simp) (by simp) (by simp))))
  | close taskId =>
    cases ran
    exact free.mono (.closeTask w taskId h)
  | destroy taskId =>
    cases ran
    exact free.mono (.destroyTask w taskId h)
  | uploaded taskId snapshotName =>
    rw [← survives_some ran]
    exact free.mono (.frame (setSnapshotStatus_confined taskId snapshotName .none h) (by simp) (by simp) (by simp))
  | domainChanges taskId state => exact free.mono (.domainChanges ran)
  | fileAppears path backing =>
    exact free.mono (.frame (fileAppears_only ran) (by simp) (by simp) (by simp))

/-- What is free for a task stays so until something starts or GPUs are
given out again, so that the check made at the request to start it still
holds when its event is worked off. -/
theorem run (free : GpusFree taskId h) (recorded : GpusRecorded hw h) {trace : List (World × HostEvent)}
    (run : Run (Host.step hw) (fun h event => GpusChecked hw h event ∧ GpusQuiet h event) h trace k) :
    GpusFree taskId k := by
  have both : GpusFree taskId k ∧ GpusRecorded hw k := by
    refine run.invariant (P := fun k => GpusFree taskId k ∧ GpusRecorded hw k) ⟨free, recorded⟩ ?_
    rintro s t event ⟨free, recorded⟩ ⟨checked, quiet⟩ ran
    exact ⟨free.step recorded quiet ran, recorded.step checked ran⟩
  exact both.1

end GpusFree

/-- Where GPUs are counted for nobody else when they are started with, the
domains have none in common, what is allocated is free, and a check of the
GPUs of a task is about the others unless the task counts for itself.
Requests and events are each worked off in one go: `GpusFree.run` says that
the check made before a start still holds at it, where nothing else starts
meanwhile. -/
theorem gpus_accounted {hw : Hardware} {trace : List (World × HostEvent)} {h : Host}
    (run : Run (step hw) (GpusChecked hw) Host.empty trace h) :
    LiveGpusDisjoint h ∧ (∀ gpuCount, 0 ≤ gpuCount → AllocatesFree hw gpuCount h) ∧
      ∀ taskId, ChecksOthers hw taskId h ↔ h.getDomainStatus taskId = .shutoff ∨ h.taskInfos.find taskId = none ∨
        (h.getTaskGpus taskId).keys = [] ∨ GpuRefused hw taskId h := by
  have recorded : GpusRecorded hw h :=
    run.invariant GpusRecorded.empty (fun recorded checked ran => recorded.step checked ran)
  exact ⟨recorded.liveDisjoint, fun gpuCount asked => recorded.allocatesFree asked, fun taskId => checksOthers_iff⟩

/-- A node with two GPUs. -/
def twoGpus : Hardware :=
  { Hardware.small with
    gpuInfo := (OrdMap.empty.insert (str "a") [str "device a"]).insert (str "b") [str "device b"] }

/-- A task with one GPU is created, and then changed by a request before a
second one like it is created. -/
def twoGpuTasks (change : Json) : List (World × HostEvent) :=
  [(.calm (str "one"), .fileAppears (str "/data/a.qcow2") []),
    (.calm (str "one"), .create (str "wallet") (some (smallTask "20001" "5901" "1")) 100 .walletRenter),
    (.calm (str "one"), .process), (.calm (str "one"), .request (str "wallet") ⟨str "one", .modify change⟩),
    (.calm (str "two"), .create (str "wallet") (some (smallTask "20002" "5902" "1")) 100 .walletRenter),
    (.calm (str "two"), .process)]

theorem two_gpus_apart : ∃ trace h, Run (step twoGpus) (GpusChecked twoGpus) Host.empty trace h ∧
    GpuLive (str "one") (str "a") h ∧ GpuLive (str "two") (str "b") h ∧ LiveGpusDisjoint h := by
  have facts : (runAll (guarded (step twoGpus) (fun h event => decide (GpusChecked twoGpus h event))) Host.empty
      (twoGpuTasks (.object []))).any (fun h =>
        (h.domains.find (str "one")).any (fun domain => domain.state ≠ .shutoff ∧ str "a" ∈ domain.live.gpus.keys) ∧
        (h.domains.find (str "two")).any (fun domain => domain.state ≠ .shutoff ∧ str "b" ∈ domain.live.gpus.keys))
      = true := by decide +kernel
  obtain ⟨h, ran, holds⟩ := (Option.any_eq_true _ _).mp facts
  obtain ⟨one, two⟩ := of_decide_eq_true holds
  obtain ⟨first, foundFirst, upFirst⟩ := (Option.any_eq_true _ _).mp one
  obtain ⟨second, foundSecond, upSecond⟩ := (Option.any_eq_true _ _).mp two
  have run := Run.of_guarded (fun h event => of_decide_eq_true) _ .start ran
  exact ⟨_, h, run, ⟨first, foundFirst, of_decide_eq_true upFirst⟩,
    ⟨second, foundSecond, of_decide_eq_true upSecond⟩, (gpus_accounted run).1⟩

/-- The record of a task that runs is replaced, so the GPU that its domain
has is given to a second task; and the first one could not be restarted for
its own GPU before. -/
theorem one_gpu_twice :
    (∃ trace h, Reaches (step twoGpus) Host.empty trace h ∧ ¬ LiveGpusDisjoint h) ∧
      ∃ trace h, Reaches (step twoGpus) Host.empty trace h ∧ ¬ ChecksOthers twoGpus (str "one") h := by
  constructor
  · have facts : (runAll (step twoGpus) Host.empty
      (twoGpuTasks (.object [(str "new_gpu_count", .string (str "1"))]))).any
        (fun h =>
          (h.domains.find (str "one")).any (fun domain => domain.state ≠ .shutoff ∧
            str "a" ∈ domain.live.gpus.keys) ∧
          (h.domains.find (str "two")).any (fun domain => domain.state ≠ .shutoff ∧
            str "a" ∈ domain.live.gpus.keys))
        = true := by decide +kernel
    obtain ⟨h, ran, holds⟩ := (Option.any_eq_true _ _).mp facts
    obtain ⟨one, two⟩ := of_decide_eq_true holds
    obtain ⟨first, foundFirst, upFirst⟩ := (Option.any_eq_true _ _).mp one
    obtain ⟨second, foundSecond, upSecond⟩ := (Option.any_eq_true _ _).mp two
    refine ⟨_, h, Reaches.of_runAll _ .start ran, fun disjoint => ?_⟩
    exact disjoint (str "one") (str "two") (str "a") (by decide) ⟨first, foundFirst, of_decide_eq_true upFirst⟩
      ⟨second, foundSecond, of_decide_eq_true upSecond⟩
  · have facts : (runAll (step twoGpus) Host.empty ((twoGpuTasks (.object [])).take 3)).any (fun h =>
        h.checkGpu twoGpus (h.getTaskGpus (str "one")) ≠ none ∧ h.taskInfos.keys = [str "one"] ∧
        (h.getTaskGpus (str "one")).entries.all (fun entry => twoGpus.gpuInfo.find entry.1 = some entry.2)) =
          true := by
      decide +kernel
    obtain ⟨h, ran, holds⟩ := (Option.any_eq_true _ _).mp facts
    obtain ⟨fails, alone, present⟩ := of_decide_eq_true holds
    refine ⟨_, h, Reaches.of_runAll _ .start ran, fun others => ?_⟩
    obtain ⟨gpu, devices, found, reason⟩ := others fails
    have machine := of_decide_eq_true (List.all_eq_true.mp present (gpu, devices) (OrdMap.find_eq_some.mp found))
    rcases reason with lost | ⟨system, has, device, listed, missing⟩ | ⟨other, different, counted⟩
    · rw [machine] at lost
      cases lost
    · rw [machine] at has
      cases has
      exact missing listed
    · obtain ⟨info, known⟩ := Option.isSome_iff_exists.mp counted.1
      have member := OrdMap.mem_keys.mpr ⟨info, known⟩
      rw [alone, List.mem_singleton] at member
      exact different member

end DbcNode.Host
