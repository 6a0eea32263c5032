import DbcNode.Task.Queue

namespace DbcNode

/-- A status that an event is still to end. -/
def TaskStatus.transient : TaskStatus → Bool
  | .creating | .starting | .beingShutdown | .beingPoweroff | .restarting | .resetting | .deleting => true
  | _ => false

/-- The status that a task has while an event waits for it. -/
def TaskJob.pending : TaskJob → Option TaskStatus
  | .createTask _ => some .creating
  | .startTask => some .starting
  | .shutdownTask => some .beingShutdown
  | .powerOffTask => some .beingPoweroff
  | .reStartTask | .forceRebootTask => some .restarting
  | .resetTask => some .resetting
  | .deleteTask => some .deleting
  | _ => none

/-- A record at the end of an event. -/
def TaskInfo.settled (pending status : TaskStatus) (info : TaskInfo) : TaskInfo :=
  if info.taskStatus = pending then { info with taskStatus := status } else info

theorem TaskInfo.settled_stored (pending status : TaskStatus) (info : TaskInfo) :
    (info.settled pending status).toDbTaskInfo = info.toDbTaskInfo := by
  unfold TaskInfo.settled
  split <;> rfl

namespace Host

/-- What memory and the database have of a task. -/
abbrev Record := Option TaskInfo × Option DbTaskInfo

def recordOf (taskId : Bytes) (h : Host) : Record := (h.taskInfos.find taskId, h.taskDb.find taskId)

def taskStatusOf (taskId : Bytes) (h : Host) : Option TaskStatus := (h.taskInfos.find taskId).map (·.taskStatus)

section Setters
variable {parts : Set Part} {taskId : Bytes} {h k : Host}

theorem Only.record (only : Only parts h k) (taskId : Bytes) (outside : Part.info taskId ∉ parts) :
    recordOf taskId k = recordOf taskId h :=
  only _ outside

theorem taskStatusOf_eq (same : recordOf taskId k = recordOf taskId h) :
    taskStatusOf taskId k = taskStatusOf taskId h :=
  congrArg (fun record : Record => record.1.map TaskInfo.taskStatus) same

theorem setInfo_record (change : TaskInfo → TaskInfo) :
    recordOf taskId (h.setInfo taskId change) = ((recordOf taskId h).1.map change, (recordOf taskId h).2) := by
  unfold setInfo recordOf
  split
  · rename_i missing
    rw [missing]
    rfl
  · rename_i info found
    rw [found, OrdMap.find_insert_self]
    rfl

theorem settle_record (pending status : TaskStatus) : recordOf taskId (h.settle taskId pending status) =
    ((recordOf taskId h).1.map (·.settled pending status), (recordOf taskId h).2) := setInfo_record _

theorem updateInfo_record {info : TaskInfo} (known : h.taskInfos.find taskId = some info)
    (change : TaskInfo → TaskInfo) :
    recordOf taskId (h.updateInfo taskId change) = (some (change info), some (change info).toDbTaskInfo) := by
  unfold updateInfo recordOf
  rw [known]
  dsimp only
  rw [OrdMap.find_insert_self, OrdMap.find_insert_self]

/-- A task without a record has nothing to change. -/
theorem updateInfo_unknown (unknown : h.taskInfos.find taskId = none) (change : TaskInfo → TaskInfo) :
    h.updateInfo taskId change = h := by
  unfold updateInfo
  rw [unknown]

end Setters

/-- The login after a creation. -/
def withLogin (w : World) (info : TaskInfo) : TaskInfo :=
  match w.setUserPassword with
  | some _ => { info with loginPassword := str "N/A", loginUsername := str "N/A" }
  | none => { info with loginUsername := loginUser info }

/-- A domain is created with an address. -/
def Opens (w : World) (taskId : Bytes) (info : TaskInfo) (h : Host) : Prop :=
  w.defineNwfilter ∧ (createDomain w taskId info h).1 = .ok true ∧ w.defaultRouteIp ≠ [] ∧ w.domainLocalIp ≠ []

/-- What an event does to the record of its task: nothing where the task is
unknown or the event is about its disks, and else the end of the status that
it waited in. A creation also records the login, a task that was stopped its
root file, and a restart is lost on a domain that is neither shut off nor
running. -/
inductive Ended (w : World) (taskId : Bytes) (h : Host) : TaskJob → Record → Record → Prop
  | unknown {job : TaskJob} (stored : Option DbTaskInfo) : Ended w taskId h job (none, stored) (none, stored)
  | plain {job : TaskJob} (record : Record) (none : job.pending = none) : Ended w taskId h job record record
  | settled {job : TaskJob} {pending status : TaskStatus} (info : TaskInfo) (stored : Option DbTaskInfo)
      (waits : job.pending = some pending) (stable : status.transient = false) :
      Ended w taskId h job (some info, stored) (some (info.settled pending status), stored)
  | created {biosMode : Bytes} (info : TaskInfo) (stored : Option DbTaskInfo) (plain : biosMode ≠ str "pxe")
      (opens : Opens w taskId info h) : Ended w taskId h (.createTask biosMode) (some info, stored)
        (some ((withLogin w info).settled .creating .running), stored)
  | stopped {job : TaskJob} {pending : TaskStatus} (info : TaskInfo) (stored : Option DbTaskInfo) (root : Bytes)
      (waits : job.pending = some pending) : Ended w taskId h job (some info, stored)
        (some { info.settled pending .shutoff with vdaRootBackfile := root },
          some { info.settled pending .shutoff with vdaRootBackfile := root }.toDbTaskInfo)
  | deleted (record : Record) : Ended w taskId h .deleteTask record (none, none)
  | lost (record : Record) (up : h.getDomainStatus taskId ≠ .shutoff) (busy : h.getDomainStatus taskId ≠ .running) :
      Ended w taskId h .reStartTask record record

theorem setLogin_record {w : World} {taskId : Bytes} {info : TaskInfo} {h : Host}
    (known : h.taskInfos.find taskId = some info) :
    recordOf taskId (h.setLogin w taskId info) = (some (withLogin w info), h.taskDb.find taskId) := by
  cases answer : w.setUserPassword with
  | none =>
    rw [setLogin, withLogin, answer]
    dsimp only
    rw [setInfo_record, recordOf, known]
    rfl
  | some error =>
    rw [setLogin, withLogin, answer]
    dsimp only
    rw [setInfo_record, recordOf, known]
    rfl

theorem openNetwork_done {w : World} {taskId : Bytes} {info : TaskInfo} {h k : Host}
    (opened : h.openNetwork w taskId info = (true, k)) : w.defaultRouteIp ≠ [] ∧ w.domainLocalIp ≠ [] := by
  unfold openNetwork at opened
  split at opened
  · rename_i made
    unfold createTaskIptable at made
    split at made
    · assumption
    · cases made
  · cases opened

/-- A task that is deleted leaves nothing in memory and in the database. -/
theorem destroyTask_record {w : World} {taskId : Bytes} {h : Host} (known : (h.taskInfos.find taskId).isSome) :
    recordOf taskId (h.destroyTask w taskId) = (none, none) := by
  rw [destroyTask_eq w taskId h known, (delRentTask_only taskId _).record taskId (by simp),
    (delIptable_only taskId _).record taskId (by simp),
      (removeIptableFromSystem_only taskId _).record taskId (by simp),
    (delSnapshots_only taskId _).record taskId (by simp), (delDisks_only taskId _).record taskId (by simp),
    (delGpus_only taskId _).record taskId (by simp)]
  exact Prod.ext ((OrdMap.find_erase _ _ _).trans (if_pos rfl)) ((OrdMap.find_erase _ _ _).trans (if_pos rfl))

theorem destroyDomain_done {w : World} {taskId : Bytes} {h k : Host}
    (stopped : h.destroyDomain w taskId = (true, k)) :
    h.isExistDomain taskId ∧ (h.getDomainStatus taskId = .shutoff ∨ w.destroyDomain) := by
  unfold destroyDomain at stopped
  split at stopped
  · cases stopped
  · rename_i domain found
    refine ⟨isExistDomain_of_find taskId found, ?_⟩
    rw [getDomainStatus, found]
    split at stopped
    · exact Or.inl ‹_›
    · split at stopped
      · exact Or.inr ‹_›
      · cases stopped

/-- A task is closed only where its domain is stopped. -/
theorem closeTask_record (w : World) (taskId : Bytes) (h : Host) :
    recordOf taskId (h.closeTask w taskId) = recordOf taskId h ∨
      h.getDomainStatus taskId ≠ .shutoff ∧ h.isExistDomain taskId ∧ w.destroyDomain ∧
        recordOf taskId (h.closeTask w taskId) =
          ((recordOf taskId h).1.map (fun info => { info with taskStatus := .shutoff }),
            (recordOf taskId h).2) := by
  unfold closeTask
  split
  · exact Or.inl rfl
  · rename_i up
    have halted := (destroyDomain_only w taskId (h := h)).record taskId (by simp)
    split
    · rename_i same
      rw [same] at halted
      exact Or.inl halted
    · rename_i same
      rw [same] at halted
      obtain ⟨exist, stopped⟩ := destroyDomain_done same
      refine Or.inr ⟨up, exist, stopped.resolve_left up, ?_⟩
      rw [(removeIptableFromSystem_only taskId _).record taskId (by simp), ← halted]
      exact setInfo_record _

/-- A chain of images ends, or the search does not. -/
theorem rootBackfile_unthrown (fuel : Nat) (image error : Bytes) {h : Host} :
    h.rootBackfile fuel image ≠ .error (.thrown error) := by
  induction fuel generalizing image with
  | zero => exact fun ended => (by cases ended)
  | succ fuel ih =>
    unfold rootBackfile
    split
    · exact fun ended => (by cases ended)
    · exact ih _

namespace Ended
variable {w : World} {taskId : Bytes} {h k l : Host} {job : TaskJob}

theorem of_unknown (unknown : h.taskInfos.find taskId = none) (same : recordOf taskId k = recordOf taskId h) :
    Ended w taskId l job (recordOf taskId h) (recordOf taskId k) := by
  rw [same, recordOf, unknown]
  exact .unknown _

theorem of_settle {pending status : TaskStatus} (waits : job.pending = some pending)
    (stable : status.transient = false) {info : TaskInfo} (known : h.taskInfos.find taskId = some info)
    (before : recordOf taskId k = recordOf taskId h) :
    Ended w taskId l job (recordOf taskId h) (recordOf taskId (k.settle taskId pending status)) := by
  rw [settle_record, before, recordOf, known]
  exact .settled info _ waits stable

/-- The rest after the status was settled leaves the record as it is. -/
theorem next {record : Record} (ended : Ended w taskId l job record (recordOf taskId h))
    (same : recordOf taskId k = recordOf taskId h) : Ended w taskId l job record (recordOf taskId k) := same ▸ ended

theorem processCreateTask {biosMode : Bytes} (ran : processCreateTask w taskId biosMode h = (.ok (), k)) :
    Ended w taskId h (.createTask biosMode) (recordOf taskId h) (recordOf taskId k) := by
  unfold Host.processCreateTask at ran
  split at ran
  · rename_i unknown
    cases ran
    exact of_unknown unknown rfl
  · rename_i info known
    have created := Only.record (createDomain_confined w taskId info h) taskId (by simp)
    split at ran
    · cases ran
      exact of_settle rfl rfl known rfl
    · rename_i named
      split at ran
      · cases ran
      · rename_i same
        rw [same] at created
        cases ran
        exact of_settle rfl rfl known created
      · rename_i l made
        rw [made] at created
        split at ran
        · cases ran
          exact of_settle rfl rfl known created
        · rename_i plain
          have opened := (openNetwork_only w taskId l info).record taskId (by simp)
          split at ran
          · rename_i network
            rw [network] at opened
            cases ran
            exact of_settle rfl rfl known (opened.trans created)
          · rename_i l network
            rw [network] at opened
            cases ran
            have added := (addIptableToSystem_only taskId l).record taskId (by simp)
            have before := added.trans (opened.trans created)
            have found : (l.addIptableToSystem taskId).taskInfos.find taskId = some info :=
              (congrArg Prod.fst before).trans known
            have stored : (l.addIptableToSystem taskId).taskDb.find taskId = h.taskDb.find taskId :=
              congrArg Prod.snd before
            have login := setLogin_record (w := w) found
            rw [stored] at login
            rw [settle_record, login, recordOf, known]
            exact .created info _ plain ⟨by simpa using named, by rw [made], openNetwork_done network⟩

theorem processStartTask :
    Ended w taskId h .startTask (recordOf taskId h) (recordOf taskId (h.processStartTask w taskId)) := by
  unfold Host.processStartTask
  split
  · rename_i unknown
    exact of_unknown unknown rfl
  · rename_i info known
    have started := (startDomain_only w taskId (h := h)).record taskId (by simp)
    split
    · rename_i same
      rw [same] at started
      exact of_settle rfl rfl known started
    · rename_i l same
      rw [same] at started
      have opened := (openNetwork_only w taskId l info).record taskId (by simp)
      have ended : ∀ {m : Host}, recordOf taskId m = recordOf taskId h →
        Ended w taskId h .startTask (recordOf taskId h)
          (recordOf taskId ((m.settle taskId .starting .running).addIptableToSystem taskId)) := fun before =>
        (of_settle rfl rfl known before).next ((addIptableToSystem_only taskId _).record taskId (by simp))
      split
      · split
        · rename_i network
          rw [network] at opened
          exact of_settle rfl rfl known (opened.trans started)
        · rename_i network
          rw [network] at opened
          exact ended (opened.trans started)
      · exact ended started

/-- The end of a task that was stopped. -/
theorem recordRootBackfile {pending : TaskStatus} (waits : job.pending = some pending) {info : TaskInfo}
    (known : h.taskInfos.find taskId = some info) (before : recordOf taskId l =
      (some (info.settled pending .shutoff), h.taskDb.find taskId))
    (ran : recordRootBackfile taskId info l = (.ok (), k)) :
    Ended w taskId h job (recordOf taskId h) (recordOf taskId k) := by
  have start : recordOf taskId h = (some info, h.taskDb.find taskId) := Prod.ext known rfl
  unfold Host.recordRootBackfile at ran
  split at ran
  · cases ran
    rw [before, start]
    exact .settled info _ waits rfl
  · split at ran
    · cases ran
    · rename_i root _
      cases ran
      rw [updateInfo_record (congrArg Prod.fst before), start]
      exact .stopped info _ root waits

theorem processStop {pending failed : TaskStatus} (waits : job.pending = some pending)
    (stable : failed.transient = false) (ran : processStop w taskId pending failed h = (.ok (), k)) :
    Ended w taskId h job (recordOf taskId h) (recordOf taskId k) := by
  unfold Host.processStop at ran
  split at ran
  · rename_i unknown
    cases ran
    exact of_unknown unknown rfl
  · rename_i info known
    have halted := (destroyDomain_only w taskId (h := h)).record taskId (by simp)
    split at ran
    · rename_i same
      rw [same] at halted
      cases ran
      exact of_settle waits stable known halted
    · rename_i l same
      rw [same] at halted
      refine recordRootBackfile waits known ?_ ran
      rw [(removeIptableFromSystem_only taskId _).record taskId (by simp), settle_record, halted, recordOf, known]
      rfl

theorem restarted (waits : job.pending = some .restarting) {info : TaskInfo}
    (known : h.taskInfos.find taskId = some info) (before : recordOf taskId k = recordOf taskId h) (done : Bool) :
    Ended w taskId h job (recordOf taskId h) (recordOf taskId (k.restarted taskId done)) := by
  unfold Host.restarted
  split
  · exact (of_settle waits rfl known before).next ((addIptableToSystem_only taskId _).record taskId (by simp))
  · exact of_settle waits rfl known before

theorem processRestartTask :
    Ended w taskId h .reStartTask (recordOf taskId h) (recordOf taskId (h.processRestartTask w taskId)) := by
  unfold Host.processRestartTask
  split
  · rename_i unknown
    exact of_unknown unknown rfl
  · rename_i info known
    split
    · exact restarted rfl known ((startDomain_only w taskId (h := h)).record taskId (by simp)) _
    · rename_i up
      split
      · exact restarted rfl known rfl _
      · rename_i busy
        exact .lost _ up busy

theorem processForceRebootTask :
    Ended w taskId h .forceRebootTask (recordOf taskId h)
      (recordOf taskId (h.processForceRebootTask w taskId)) := by
  unfold Host.processForceRebootTask
  split
  · rename_i unknown
    exact of_unknown unknown rfl
  · rename_i info known
    split
    · exact restarted rfl known ((startDomain_only w taskId (h := h)).record taskId (by simp)) _
    · have halted := (destroyDomain_only w taskId (h := h)).record taskId (by simp)
      split
      · rename_i same
        rw [same] at halted
        exact restarted rfl known halted _
      · rename_i l same
        rw [same] at halted
        exact restarted rfl known (((startDomain_only w taskId (h := l)).record taskId (by simp)).trans halted) _

theorem processResetTask :
    Ended w taskId h .resetTask (recordOf taskId h) (recordOf taskId (h.processResetTask w taskId)) := by
  unfold Host.processResetTask
  split
  · rename_i unknown
    exact of_unknown unknown rfl
  · rename_i info known
    split
    · exact of_settle rfl rfl known rfl
    · exact of_settle rfl rfl known rfl

theorem processDeleteTask :
    Ended w taskId h .deleteTask (recordOf taskId h) (recordOf taskId (h.processDeleteTask w taskId)) := by
  unfold Host.processDeleteTask
  split
  · rename_i unknown
    exact of_unknown unknown rfl
  · rename_i info known
    rw [destroyTask_record (by rw [known]; rfl)]
    exact .deleted _

/-- What every event does to the record of its task. -/
theorem processJob (ran : processJob w taskId job h = (.ok (), k)) :
    Ended w taskId h job (recordOf taskId h) (recordOf taskId k) := by
  have spared : job.pending = none → Ended w taskId h job (recordOf taskId h) (recordOf taskId k) := by
    intro none
    have same : recordOf taskId k = recordOf taskId h := by
      have only := processJob_confined w taskId job h
      rw [ran] at only
      refine Only.record only taskId ?_
      cases job <;> simp [jobParts] at none ⊢ <;> cases none
    rw [same]
    exact .plain _ none
  cases job with
  | createTask biosMode => exact processCreateTask ran
  | startTask =>
    cases ran
    exact processStartTask
  | shutdownTask => exact processStop rfl rfl ran
  | powerOffTask => exact processStop rfl rfl ran
  | reStartTask =>
    cases ran
    exact processRestartTask
  | forceRebootTask =>
    cases ran
    exact processForceRebootTask
  | resetTask =>
    cases ran
    exact processResetTask
  | deleteTask =>
    cases ran
    exact processDeleteTask
  | _ => exact spared rfl

end Ended

section Process
variable {hw : Hardware} {w : World} {taskId : Bytes} {h k : Host}

/-- Events have nobody to return an error to. -/
theorem processJob_unthrown (job : TaskJob) (error : Bytes) :
    (processJob w taskId job h).1 ≠ .error (.thrown error) := by
  have root : ∀ info l, (recordRootBackfile taskId info l).1 ≠ .error (.thrown error) := by
    intro info l ended
    unfold recordRootBackfile at ended
    split at ended
    · cases ended
    · split at ended
      · rename_i stopped looked
        rw [Except.error.inj ended] at looked
        exact rootBackfile_unthrown _ _ error looked
      · cases ended
  have stop : ∀ pending failed, (processStop w taskId pending failed h).1 ≠ .error (.thrown error) := by
    intro pending failed ended
    unfold processStop at ended
    split at ended
    · cases ended
    · split at ended
      · cases ended
      · exact root _ _ ended
  cases job with
  | createTask biosMode =>
    intro ended
    change (processCreateTask w taskId biosMode h).1 = _ at ended
    unfold processCreateTask at ended
    split at ended
    · cases ended
    · split at ended
      · cases ended
      · split at ended
        · rename_i stopped l made
          rw [Except.error.inj ended] at made
          unfold createDomain at made
          split at made
          · cases made
          · split at made
            · cases made
            · cases made
        · cases ended
        · split at ended
          · cases ended
          · split at ended <;> cases ended
  | shutdownTask => exact stop _ _
  | powerOffTask => exact stop _ _
  | addDisk sizeK mountDir =>
    intro ended
    change (processAddDisk w taskId sizeK mountDir h).1 = _ at ended
    unfold processAddDisk at ended
    split at ended
    · cases ended
    · dsimp only at ended
      split at ended <;> cases ended
  | createSnapshot snapshotName rootBackfile sourceFile snapshotFile =>
    intro ended
    change (processCreateSnapshot w taskId snapshotName rootBackfile sourceFile snapshotFile h).1 = _ at ended
    unfold processCreateSnapshot at ended
    dsimp only at ended
    split at ended
    · unfold setSnapshotStatus at ended
      split at ended <;> cases ended
    · cases ended
  | _ => exact fun ended => (by cases ended)

/-- The first event of the queue is worked off, and then the tasks that run
are recorded. -/
theorem step_processed (ran : h.step hw (w, .process) = some k) : ∃ event rest l, h.events = event :: rest ∧
    processJob w event.taskId event.job { h with events := rest } = (.ok (), l) ∧ k = l.updateRunningTasks := by
  simp only [step] at ran
  split at ran
  · cases ran
  · rename_i event rest queue
    rw [processTask] at ran
    rcases worked : processJob w event.taskId event.job { h with events := rest } with ⟨result, l⟩
    cases result with
    | ok _ =>
      rw [Prog.bind_ok worked] at ran
      exact ⟨event, rest, l, queue, worked, (Option.some.inj ran).symm⟩
    | error stopped =>
      rw [Prog.bind_error worked] at ran
      cases stopped with
      | thrown error => exact (processJob_unthrown _ _ (congrArg Prod.fst worked)).elim
      | asserted => cases ran
      | diverged => cases ran

end Process

end Host

end DbcNode
