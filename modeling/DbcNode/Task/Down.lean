import DbcNode.Task.Queue

namespace DbcNode.Host

/-- A task without a domain that does anything: it has none, or it is shut
off. -/
def Down (taskId : Bytes) (h : Host) : Prop := ∀ domain, h.domains.find taskId = some domain →
    domain.state = .shutoff

/-- An event that is about to start the domain of its task. -/
def Starts (w : World) (event : TaskEvent) (h : Host) : Prop :=
  w.createDomain ∧ (h.taskInfos.find event.taskId).isSome ∧
    match event.job with
    | .createTask _ => h.isExistDomain event.taskId = false
    | .startTask | .reStartTask | .forceRebootTask => True
    | _ => False

instance (taskId : Bytes) (h : Host) : Decidable (Down taskId h) :=
  inferInstanceAs (Decidable (∀ domain ∈ h.domains.find taskId, domain.state = .shutoff))

instance (w : World) (h : Host) : (event : TaskEvent) → Decidable (Starts w event h)
  | ⟨_, .createTask _⟩ => inferInstanceAs (Decidable (_ ∧ _ ∧ _ = _))
  | ⟨_, .startTask⟩ | ⟨_, .reStartTask⟩ | ⟨_, .forceRebootTask⟩ => inferInstanceAs (Decidable (_ ∧ _ ∧ True))
  | ⟨_, .shutdownTask⟩ | ⟨_, .powerOffTask⟩ | ⟨_, .resetTask⟩ | ⟨_, .deleteTask⟩ | ⟨_, .resizeDisk _ _ _⟩
  | ⟨_, .addDisk _ _⟩ | ⟨_, .deleteDisk _⟩ | ⟨_, .createSnapshot _ _ _ _⟩ => isFalse (fun starts => starts.2.2)

section Status
variable {taskId : Bytes} {h : Host}

theorem getDomainStatus_of_find {domain : Domain} (found : h.domains.find taskId = some domain) :
    h.getDomainStatus taskId = domain.state := by
  rw [getDomainStatus, found]
  rfl

theorem status_some {state : DomainState} (status : h.getDomainStatus taskId = state) (stated : state ≠ .nostate) :
    ∃ domain, h.domains.find taskId = some domain ∧ domain.state = state := by
  unfold getDomainStatus at status
  cases found : h.domains.find taskId with
  | none =>
    rw [found] at status
    exact (stated status.symm).elim
  | some domain =>
    rw [found] at status
    exact ⟨domain, rfl, status⟩

theorem Down.of_shutoff (shutOff : h.getDomainStatus taskId = .shutoff) : Down taskId h := by
  intro domain found
  rwa [getDomainStatus_of_find found] at shutOff

theorem Down.of_missing (missing : h.domains.find taskId = none) : Down taskId h := by
  intro domain found
  rw [missing] at found
  cases found

end Status

namespace Down
variable {parts : Set Part} {w : World} {taskId : Bytes} {h k : Host}

theorem frame (down : Down taskId h) (only : Only parts h k) (state : .state taskId ∉ parts) : Down taskId k := by
  intro domain found
  have same := only.state state
  rw [found] at same
  cases before : h.domains.find taskId with
  | none =>
    rw [before] at same
    cases same
  | some old =>
    rw [before] at same
    exact (Option.some.inj same).trans (down old before)

theorem iff (only : Only parts h k) (state : .state taskId ∉ parts) : Down taskId k ↔ Down taskId h :=
  ⟨fun down => down.frame only.symm state, fun down => down.frame only state⟩

/-- There is nothing to stop. -/
theorem destroyDomain (down : Down taskId h) : (h.destroyDomain w taskId).2 = h := by
  unfold Host.destroyDomain
  split
  · rfl
  · rename_i domain found
    rw [if_pos (down domain found)]

theorem closeTask (down : Down taskId h) : h.closeTask w taskId = h := by
  unfold Host.closeTask
  split
  · rfl
  · rename_i running
    cases found : h.domains.find taskId with
    | none => simp only [Host.destroyDomain, found]
    | some domain => exact (running ((getDomainStatus_of_find found).trans (down domain found))).elim

theorem destroyAndUndefineDomain (down : Down taskId h) : Down taskId (h.destroyAndUndefineDomain w taskId) := by
  intro domain found
  unfold Host.destroyAndUndefineDomain at found
  split at found
  · rename_i missing
    rw [missing] at found
    cases found
  · rename_i before present
    extract_lets state at found
    have stopped : state = .shutoff := by
      change (if w.destroyDomain then DomainState.shutoff else before.state) = _
      split
      · rfl
      · exact down before present
    split at found
    · rw [OrdMap.find_erase, if_pos rfl] at found
      cases found
    · rw [setDomain, OrdMap.find_insert_self] at found
      cases found
      exact stopped

theorem destroyTask (down : Down taskId h) : Down taskId (h.destroyTask w taskId) :=
  (down.destroyAndUndefineDomain (w := w)).frame (destroyTask_records w taskId h) (by simp [recordParts])

theorem processStop (down : Down taskId h) (pending failed : TaskStatus) :
    Down taskId (processStop w taskId pending failed h).2 := by
  have same := down.destroyDomain (w := w)
  unfold Host.processStop
  split
  · exact down
  · rename_i info _
    split
    · rename_i k stopped
      rw [stopped] at same
      subst same
      exact down.frame (settle_only taskId _ _ _) (by simp)
    · rename_i k stopped
      rw [stopped] at same
      subst same
      have settled := down.frame (settle_only taskId _ pending .shutoff) (by simp)
      have closed := settled.frame (removeIptableFromSystem_only taskId _) (by simp)
      exact closed.frame (recordRootBackfile_confined taskId info _) (by simp)

end Down

section Create
variable {w : World} {taskId : Bytes} {h : Host}

/-- A domain that is there is not created again. -/
theorem createDomain_exists (exist : h.isExistDomain taskId) (info : TaskInfo) :
    Only {.files} h (createDomain w taskId info h).2 ∧ (createDomain w taskId info h).1 ≠ .ok true := by
  have refused : ∀ {k : Host} {disks}, k.isExistDomain taskId → k.defineAndCreate w taskId info disks =
    (false, k) := by
    intro k disks present
    unfold defineAndCreate
    exact if_pos (Or.inl present)
  unfold createDomain
  split
  · rw [refused exist]
    exact ⟨.refl h, by simp⟩
  · split
    · rename_i vda vdb _ _
      have images := createImages_only h info.imageName vda.sourceFile vdb.sourceFile
      rw [refused ((images.defined (by simp)).trans exist)]
      exact ⟨images, by simp⟩
    · exact ⟨.refl h, by simp⟩

theorem processCreateTask_exists (exist : h.isExistDomain taskId) (biosMode : Bytes) :
    Only {.info taskId, .files} h (processCreateTask w taskId biosMode h).2 := by
  unfold processCreateTask
  split
  · exact .refl h
  · rename_i info found
    obtain ⟨files, failed⟩ := createDomain_exists (w := w) exist info
    split
    · exact (settle_only taskId h _ _).weaken (by simp)
    · split
      · rename_i created
        rw [created] at files
        exact files.weaken (by simp)
      · rename_i created
        rw [created] at files
        exact (files.weaken (by simp)).next (settle_only taskId _ _ _) (by simp)
      · rename_i created
        rw [created] at failed
        exact (failed rfl).elim

theorem defineAndCreate_down (down : Down taskId h) (refused : w.createDomain = false) (info : TaskInfo)
    (disks : List (Bytes × Bytes)) :
    (h.defineAndCreate w taskId info disks).1 = false ∧ Down taskId (h.defineAndCreate w taskId info disks).2 := by
  unfold defineAndCreate
  simp only [refused, if_true]
  split
  · exact ⟨rfl, down⟩
  · refine ⟨rfl, fun domain found => ?_⟩
    rw [setDomain, OrdMap.find_insert_self] at found
    cases found
    rfl

/-- A domain that libvirt does not start. -/
theorem createDomain_down (down : Down taskId h) (refused : w.createDomain = false) (info : TaskInfo) :
    (createDomain w taskId info h).1 ≠ .ok true ∧ Down taskId (createDomain w taskId info h).2 := by
  unfold createDomain
  split
  · obtain ⟨failed, still⟩ := defineAndCreate_down down refused info []
    exact ⟨by simp [failed], still⟩
  · split
    · rename_i vda vdb _ _
      have images := down.frame (createImages_only h info.imageName vda.sourceFile vdb.sourceFile) (by simp)
      obtain ⟨failed, still⟩ := defineAndCreate_down images refused info
        [(str "vda", vda.sourceFile), (str "vdb", vdb.sourceFile)]
      exact ⟨by simp [failed], still⟩
    · exact ⟨by simp, down⟩

theorem processCreateTask_down (down : Down taskId h) (refused : w.createDomain = false) (biosMode : Bytes) :
    Down taskId (processCreateTask w taskId biosMode h).2 := by
  unfold processCreateTask
  split
  · exact down
  · rename_i info found
    obtain ⟨failed, still⟩ := createDomain_down (w := w) down refused info
    split
    · exact down.frame (settle_only taskId h _ _) (by simp)
    · split
      · rename_i created
        rw [created] at still
        exact still
      · rename_i created
        rw [created] at still
        exact still.frame (settle_only taskId _ _ _) (by simp)
      · rename_i created
        rw [created] at failed
        exact (failed rfl).elim

end Create

namespace Down
variable {w : World} {taskId : Bytes} {h : Host}

theorem startDomain (down : Down taskId h) (refused : w.createDomain = false) :
    h.startDomain w taskId = (false, h) := by
  unfold Host.startDomain
  split
  · rfl
  · rename_i domain found
    rw [if_pos (Or.inr (down domain found)), if_neg (by simp [refused])]

theorem processStartTask (down : Down taskId h) (refused : w.createDomain = false) :
    Down taskId (h.processStartTask w taskId) := by
  unfold Host.processStartTask
  split
  · exact down
  · rw [down.startDomain refused]
    exact down.frame (settle_only taskId h _ _) (by simp)

theorem processRestartTask (down : Down taskId h) (refused : w.createDomain = false) :
    Down taskId (h.processRestartTask w taskId) := by
  unfold Host.processRestartTask
  rw [down.startDomain refused]
  split
  · exact down
  · split
    · exact down.frame (restarted_only taskId h _) (by simp)
    · split
      · exact down.frame (restarted_only taskId h _) (by simp)
      · exact down

theorem processForceRebootTask (down : Down taskId h) (refused : w.createDomain = false) :
    Down taskId (h.processForceRebootTask w taskId) := by
  have same := down.destroyDomain (w := w)
  unfold Host.processForceRebootTask
  rw [down.startDomain refused]
  split
  · exact down
  · split
    · exact down.frame (restarted_only taskId h _) (by simp)
    · split
      · rename_i stopped
        rw [stopped] at same
        subst same
        exact down.frame (restarted_only taskId _ _) (by simp)
      · rename_i stopped
        rw [stopped] at same
        subst same
        rw [down.startDomain refused]
        exact down.frame (restarted_only taskId _ _) (by simp)

/-- Only an event that starts it brings the domain of a task up. -/
theorem processJob (down : Down taskId h) {event : TaskEvent} (still : event.taskId = taskId → ¬ Starts w event h) :
    Down taskId (processJob w event.taskId event.job h).2 := by
  obtain ⟨other, job⟩ := event
  by_cases own : other = taskId
  · subst own
    have footprint := processJob_confined w other job h
    -- What starts nothing has an unknown task or a refused start.
    have refused : job = .startTask ∨ job = .reStartTask ∨ job = .forceRebootTask →
        h.taskInfos.find other = none ∨ w.createDomain = false := by
      intro starting
      by_contra neither
      rw [not_or] at neither
      refine still rfl ⟨by simpa using neither.2, Option.isSome_iff_ne_none.mpr neither.1, ?_⟩
      rcases starting with rfl | rfl | rfl <;> trivial
    cases job with
    | createTask biosMode =>
      change Down other (processCreateTask w other biosMode h).2
      by_cases exist : h.isExistDomain other
      · exact down.frame (processCreateTask_exists exist biosMode) (by simp)
      · by_cases created : w.createDomain
        · have unknown : h.taskInfos.find other = none := by
            by_contra known
            exact still rfl ⟨created, Option.isSome_iff_ne_none.mpr known, by simpa using exist⟩
          simp only [processCreateTask, unknown]
          exact down
        · exact processCreateTask_down down (by simpa using created) biosMode
    | startTask =>
      change Down other (h.processStartTask w other)
      rcases refused (Or.inl rfl) with unknown | failed
      · simp only [Host.processStartTask, unknown]
        exact down
      · exact down.processStartTask failed
    | reStartTask =>
      change Down other (h.processRestartTask w other)
      rcases refused (Or.inr (Or.inl rfl)) with unknown | failed
      · simp only [Host.processRestartTask, unknown]
        exact down
      · exact down.processRestartTask failed
    | forceRebootTask =>
      change Down other (h.processForceRebootTask w other)
      rcases refused (Or.inr (Or.inr rfl)) with unknown | failed
      · simp only [Host.processForceRebootTask, unknown]
        exact down
      · exact down.processForceRebootTask failed
    | shutdownTask => exact down.processStop _ _
    | powerOffTask => exact down.processStop _ _
    | deleteTask =>
      change Down other (h.processDeleteTask w other)
      unfold processDeleteTask
      split
      · exact down
      · exact down.destroyTask
    | _ => exact down.frame footprint (by simp [jobParts])
  · exact down.frame (processJob_confined w other job h) ((jobParts_within other job).other rfl (Ne.symm own))

end Down

end DbcNode.Host
