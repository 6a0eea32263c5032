import DbcNode.Lib.Runs
import DbcNode.Task.Down
import DbcNode.Task.Records

namespace DbcNode

/-- How far the event thread is with the event that it took off the queue.
It has done nothing yet; it sleeps between the two halves of a forced
reboot; it waits for the address of a domain that it started; it is about to
start that domain once more because no address came; it looks up the root
file of a domain that it stopped; or it has attached a disk that is not
recorded yet. The record that an event found is held to its end, also where
the task is deleted meanwhile. -/
inductive EventStage
  | taken
  | asleep
  | addressing (info : TaskInfo)
  | recreating (info : TaskInfo)
  | rootLookup (info : TaskInfo)
  | attached (disk : DiskInfo)

/-- What is set in the record of a task shows in the record that its event
holds, as long as the task is known. -/
def EventStage.seen (record : Option TaskInfo) : EventStage → EventStage
  | .taken => .taken
  | .asleep => .asleep
  | .addressing info => .addressing (record.getD info)
  | .recreating info => .recreating (record.getD info)
  | .rootLookup info => .rootLookup (record.getD info)
  | .attached disk => .attached disk

structure OngoingEvent where
  event : TaskEvent
  stage : EventStage

namespace Host

section Stages
variable (w : World)

/-- `process_create_task` up to `GetDomainLocalIP`. -/
def beginCreateTask (taskId biosMode : Bytes) : Call (Option EventStage) := fun h =>
  match h.taskInfos.find taskId with
  | none => (.ok none, h)
  | some info =>
    if w.defineNwfilter = false then (.ok none, h.settle taskId .creating .createTaskError)
    else match createDomain w taskId info h with
      | (.error stopped, h) => (.error stopped, h)
      | (.ok false, h) => (.ok none, h.settle taskId .creating .createTaskError)
      | (.ok true, h) =>
        if biosMode = str "pxe" then (.ok none, h.settle taskId .creating .running)
        else (.ok (some (.addressing info)), h)

/-- `process_start_task` up to `GetDomainLocalIP`, which it calls for a task
without rules. -/
def beginStartTask (taskId : Bytes) : Call (Option EventStage) := fun h =>
  match h.taskInfos.find taskId with
  | none => (.ok none, h)
  | some info =>
    match h.startDomain w taskId with
    | (false, h) => (.ok none, h.settle taskId .starting .startTaskError)
    | (true, h) =>
      if info.biosMode ≠ str "pxe" ∧ (h.taskIptables.find taskId).isNone then (.ok (some (.addressing info)), h)
      else (.ok none, (h.settle taskId .starting .running).addIptableToSystem taskId)

/-- `process_shutdown_task` and `process_poweroff_task` up to the lookup of
the root file. -/
def beginStop (taskId : Bytes) (pending failed : TaskStatus) : Call (Option EventStage) := fun h =>
  match h.taskInfos.find taskId with
  | none => (.ok none, h)
  | some info =>
    match h.destroyDomain w taskId with
    | (false, h) => (.ok none, h.settle taskId pending failed)
    | (true, h) =>
      let h := (h.settle taskId pending .shutoff).removeIptableFromSystem taskId
      if info.biosMode = str "pxe" ∨ info.vdaRootBackfile ≠ [] then (.ok none, h)
      else (.ok (some (.rootLookup info)), h)

/-- `process_force_reboot_task` up to its `sleep`. -/
def beginForceReboot (taskId : Bytes) : Call (Option EventStage) := fun h =>
  match h.taskInfos.find taskId with
  | none => (.ok none, h)
  | some _ =>
    if h.getDomainStatus taskId = .shutoff then
      let (done, h) := h.startDomain w taskId
      (.ok none, h.restarted taskId done)
    else match h.destroyDomain w taskId with
      | (false, h) => (.ok none, h.restarted taskId false)
      | (true, h) => (.ok (some .asleep), h)

/-- `process_add_disk` up to the entry of the new disk. -/
def beginAddDisk (taskId : Bytes) (sizeK : Int) (mountDir : Bytes) : Call (Option EventStage) := fun h =>
  match h.nextDiskName taskId with
  | none => (.error .asserted, h)
  | some diskName =>
    let sourceFile := mountDir ++ str "/" ++ w.newDataDisk
    match (h.writeImage sourceFile []).attachDisk w taskId diskName sourceFile with
    | (some _, h) => (.ok none, h.removeFile sourceFile)
    | (none, h) => (.ok (some (.attached ⟨diskName, sizeK * 1024, sourceFile⟩)), h)

/-- What is done before the event thread first waits. The other events do
not wait. -/
def beginJob (taskId : Bytes) : TaskJob → Call (Option EventStage)
  | .createTask biosMode => beginCreateTask w taskId biosMode
  | .startTask => beginStartTask w taskId
  | .shutdownTask => beginStop w taskId .beingShutdown .shutdownTaskError
  | .powerOffTask => beginStop w taskId .beingPoweroff .poweroffTaskError
  | .forceRebootTask => beginForceReboot w taskId
  | .addDisk sizeK mountDir => beginAddDisk w taskId sizeK mountDir
  | job => do
    processJob w taskId job
    pure none

/-- The end of a creation or of a start when `GetDomainLocalIP` returns. -/
def addressed (taskId : Bytes) (info : TaskInfo) (job : TaskJob) (h : Host) : Host :=
  match job, h.openNetwork w taskId info with
  | .createTask _, (false, h) => h.settle taskId .creating .createTaskError
  | .createTask _, (true, h) =>
      ((h.addIptableToSystem taskId).setLogin w taskId info).settle taskId .creating .running
  | _, (false, h) => h.settle taskId .starting .startTaskError
  | _, (true, h) => (h.settle taskId .starting .running).addIptableToSystem taskId

/-- `virDomainCreate` on a domain that was stopped because it had no
address. -/
def recreateDomain (taskId : Bytes) (h : Host) : Host :=
  if h.getDomainStatus taskId = .shutoff then (h.startDomain w taskId).2 else h

/-- `TaskInfoManager::update`: the record goes back, whether the task is
still known or not. -/
def storeInfo (taskId : Bytes) (info : TaskInfo) (h : Host) : Host :=
  { h with taskInfos := h.taskInfos.insert taskId info, taskDb := h.taskDb.insert taskId info.toDbTaskInfo }

/-- What an event does from one wait of the event thread to the next one, or
to its end. -/
def processStage (event : TaskEvent) : EventStage → Call (Option EventStage)
  | .taken => beginJob w event.taskId event.job
  | .asleep => fun h =>
    let (done, h) := h.startDomain w event.taskId
    (.ok none, h.restarted event.taskId done)
  | .addressing info => fun h => (.ok none, h.addressed w event.taskId info event.job)
  | .recreating info => fun h => (.ok (some (.addressing info)), h.recreateDomain w event.taskId)
  | .rootLookup info => fun h =>
    match h.rootBackfile h.chainRounds (str "/data/" ++ info.imageName) with
    | .error stopped => (.error stopped, h)
    | .ok root => (.ok none, h.storeInfo event.taskId { info with vdaRootBackfile := root })
  | .attached disk => fun h => (.ok none, h.addDiskInfo event.taskId disk)

end Stages

end Host

/-- A node with the event that its event thread works on. -/
structure TaskThread where
  host : Host
  ongoing : Option OngoingEvent

/-- What happens to a node and to its event thread: requests, pruning and
all that comes from outside, at any time; an event that is taken off the
queue; its work up to the next wait; and the attempt of `GetDomainLocalIP`
to get an address by starting the domain again. -/
inductive ThreadEvent
  | node (event : World × HostEvent)
  | take
  | work (w : World)
  | retry (w : World)

namespace TaskThread

def idle (h : Host) : TaskThread := ⟨h, none⟩

def busy (h : Host) (ongoing : OngoingEvent) : TaskThread :=
  ⟨h, some { ongoing with stage := ongoing.stage.seen (h.taskInfos.find ongoing.event.taskId) }⟩

/-- The thread after something else has happened on its node. -/
def on (h : Host) : Option OngoingEvent → TaskThread
  | none => idle h
  | some ongoing => busy h ongoing

def work (w : World) (ongoing : OngoingEvent) (h : Host) : Option TaskThread :=
  match Host.processStage w ongoing.event ongoing.stage h with
  | (.ok (some stage), h) => some (busy h ⟨ongoing.event, stage⟩)
  | (.ok none, h) => some (idle h.updateRunningTasks)
  | (.error _, _) => none

/-- `virDomainDestroy` fails on a domain that does not run. -/
def retry (w : World) (h : Host) : OngoingEvent → Option TaskThread
  | ⟨event, .addressing info⟩ =>
    if h.getDomainStatus event.taskId = .shutoff then none
    else match h.destroyDomain w event.taskId with
      | (false, _) => none
      | (true, h) => some (busy h ⟨event, .recreating info⟩)
  | _ => none

def step (hw : Hardware) (t : TaskThread) : ThreadEvent → Option TaskThread
  | .node (_, .process) => none
  | .node event => (t.host.step hw event).map (fun h => on h t.ongoing)
  | .take =>
    match t.ongoing, t.host.events with
    | none, event :: rest => some (busy { t.host with events := rest } ⟨event, .taken⟩)
    | _, _ => none
  | .work w => t.ongoing.bind (fun ongoing => work w ongoing t.host)
  | .retry w => t.ongoing.bind (retry w t.host)

end TaskThread


/-- The events that may start a domain. -/
def TaskJob.starts : TaskJob → Bool
  | .createTask _ | .startTask | .reStartTask | .forceRebootTask => true
  | _ => false

/-- An event that has a start still before it. -/
def OngoingEvent.mayStart (ongoing : OngoingEvent) : Bool :=
  match ongoing.stage with
  | .taken => ongoing.event.job.starts
  | .asleep | .recreating _ => true
  | _ => false

theorem OngoingEvent.mayStart_seen (event : TaskEvent) (stage : EventStage) (record : Option TaskInfo) :
    (⟨event, stage.seen record⟩ : OngoingEvent).mayStart = (⟨event, stage⟩ : OngoingEvent).mayStart := by
  cases stage <;> rfl

namespace Host

/-- The thread is about to start the domain of the event that it works
on. -/
def StageStarts (w : World) (ongoing : OngoingEvent) (h : Host) : Prop :=
  match ongoing.stage with
  | .taken => Starts w ongoing.event h
  | .asleep | .recreating _ => w.createDomain
  | _ => False

instance (w : World) (h : Host) : (ongoing : OngoingEvent) → Decidable (StageStarts w ongoing h)
  | ⟨event, .taken⟩ => inferInstanceAs (Decidable (Starts w event h))
  | ⟨_, .asleep⟩ | ⟨_, .recreating _⟩ => inferInstanceAs (Decidable (w.createDomain = true))
  | ⟨_, .addressing _⟩ | ⟨_, .rootLookup _⟩ | ⟨_, .attached _⟩ => isFalse id

theorem StageStarts.mayStart {w : World} {ongoing : OngoingEvent} {h : Host} (starts : StageStarts w ongoing h) :
    ongoing.mayStart = true := by
  obtain ⟨⟨taskId, job⟩, stage⟩ := ongoing
  cases stage with
  | taken =>
    obtain ⟨_, _, starting⟩ := starts
    cases job with
    | createTask | startTask | reStartTask | forceRebootTask => rfl
    | _ => exact starting.elim
  | asleep | recreating => rfl
  | addressing | rootLookup | attached => exact starts.elim

section Footprints
variable (w : World) (taskId : Bytes)

/-- What a stage of an event touches. -/
def stageParts (taskId : Bytes) (job : TaskJob) : EventStage → Set Part
  | .taken => jobParts taskId job
  | .asleep => jobParts taskId .forceRebootTask
  | .addressing _ => {.info taskId, .iptable taskId, .state taskId, .nat}
  | .recreating _ => {.state taskId, .live taskId}
  | .rootLookup _ => {.known taskId, .info taskId, .ports taskId}
  | .attached _ => {.disks taskId}

theorem beginCreateTask_confined (biosMode : Bytes) :
    Confined (jobParts taskId (.createTask biosMode)) (beginCreateTask w taskId biosMode) := by
  intro h
  unfold beginCreateTask
  have settled : ∀ {k : Host} {status}, Only (jobParts taskId (.createTask biosMode)) h k →
      Only (jobParts taskId (.createTask biosMode)) h (k.settle taskId .creating status) :=
    fun before => before.next (settle_only taskId _ _ _) (by simp [jobParts])
  split
  · exact .refl h
  · rename_i info _
    have created := (createDomain_confined w taskId info h).weaken
      (show _ ⊆ jobParts taskId (.createTask biosMode) by simp [jobParts, Set.insert_subset_iff])
    split
    · exact settled (.refl h)
    · split
      · rename_i same
        rw [same] at created
        exact created
      · rename_i same
        rw [same] at created
        exact settled created
      · rename_i same
        rw [same] at created
        split
        · exact settled created
        · exact created

theorem beginStartTask_confined : Confined (jobParts taskId .startTask) (beginStartTask w taskId) := by
  intro h
  unfold beginStartTask
  split
  · exact .refl h
  · have started := (startDomain_only w taskId (h := h)).weaken
      (show _ ⊆ jobParts taskId .startTask by simp [jobParts, Set.insert_subset_iff])
    split
    · rename_i same
      rw [same] at started
      exact started.next (settle_only taskId _ _ _) (by simp [jobParts])
    · rename_i k same
      rw [same] at started
      split
      · exact started
      · have settled := started.next (settle_only taskId k .starting .running) (by simp [jobParts])
        exact settled.next (addIptableToSystem_only taskId _) (by simp [jobParts])

theorem beginStop_confined (pending failed : TaskStatus) :
    Confined {.info taskId, .state taskId, .nat} (beginStop w taskId pending failed) := by
  intro h
  unfold beginStop
  split
  · exact .refl h
  · have stopped := (destroyDomain_only w taskId (h := h)).weaken
      (show _ ⊆ ({.info taskId, .state taskId, .nat} : Set Part) by simp)
    split
    · rename_i same
      rw [same] at stopped
      exact stopped.next (settle_only taskId _ _ _) (by simp)
    · rename_i same
      rw [same] at stopped
      have settled := stopped.next (settle_only taskId _ pending .shutoff) (by simp)
      have closed := settled.next (removeIptableFromSystem_only taskId _) (by simp)
      dsimp only
      split <;> exact closed

theorem beginForceReboot_confined : Confined (jobParts taskId .forceRebootTask) (beginForceReboot w taskId) := by
  intro h
  unfold beginForceReboot
  split
  · exact .refl h
  · split
    · exact startAgain_only w taskId h
    · have stopped := (destroyDomain_only w taskId (h := h)).weaken
        (show _ ⊆ jobParts taskId .forceRebootTask by simp [jobParts])
      split
      · rename_i same
        rw [same] at stopped
        dsimp only at stopped ⊢
        exact stopped.next (restarted_only taskId _ _) (by simp [jobParts, Set.insert_subset_iff])
      · rename_i same
        rw [same] at stopped
        exact stopped

theorem beginAddDisk_confined (sizeK : Int) (mountDir : Bytes) :
    Confined (jobParts taskId (.addDisk sizeK mountDir)) (beginAddDisk w taskId sizeK mountDir) := by
  intro h
  unfold beginAddDisk
  split
  · exact .refl h
  · rename_i diskName _
    extract_lets sourceFile
    have written := (writeImage_only h sourceFile []).weaken
      (show _ ⊆ jobParts taskId (.addDisk sizeK mountDir) by simp [jobParts])
    have attached := written.next (attachDisk_only w taskId diskName sourceFile) (by simp [jobParts])
    split
    · rename_i same
      rw [same] at attached
      exact attached.next (removeFile_only _ _) (by simp [jobParts])
    · rename_i same
      rw [same] at attached
      exact attached

theorem beginJob_confined (job : TaskJob) : Confined (jobParts taskId job) (beginJob w taskId job) := by
  have whole := processJob_confined w taskId job
  cases job with
  | createTask biosMode => exact beginCreateTask_confined w taskId biosMode
  | startTask => exact beginStartTask_confined w taskId
  | shutdownTask => exact beginStop_confined w taskId _ _
  | powerOffTask => exact beginStop_confined w taskId _ _
  | forceRebootTask => exact beginForceReboot_confined w taskId
  | addDisk sizeK mountDir => exact beginAddDisk_confined w taskId sizeK mountDir
  | _ => exact whole.bind (fun _ => .pure none)

theorem addressed_only (info : TaskInfo) (job : TaskJob) (h : Host) :
    Only {.info taskId, .iptable taskId, .state taskId, .nat} h (h.addressed w taskId info job) := by
  have opened := (openNetwork_only w taskId h info).weaken
    (show _ ⊆ ({.info taskId, .iptable taskId, .state taskId, .nat} : Set Part) by simp [Set.insert_subset_iff])
  have settled : ∀ {k : Host} {pending status}, Only {.info taskId, .iptable taskId, .state taskId, .nat} h k →
      Only {.info taskId, .iptable taskId, .state taskId, .nat} h (k.settle taskId pending status) :=
    fun before => before.next (settle_only taskId _ _ _) (by simp)
  unfold addressed
  split
  all_goals
    rename_i same
    rw [same] at opened
  · exact settled opened
  · have added := opened.next (addIptableToSystem_only taskId _) (by simp)
    exact settled (added.next (setLogin_only w taskId _ info) (by simp))
  · exact settled opened
  · exact (settled opened).next (addIptableToSystem_only taskId _) (by simp)

theorem recreateDomain_only (h : Host) : Only {.state taskId, .live taskId} h (h.recreateDomain w taskId) := by
  unfold recreateDomain
  split
  · exact startDomain_only w taskId
  · exact .refl h

theorem storeInfo_only (info : TaskInfo) (h : Host) :
    Only {.known taskId, .info taskId, .ports taskId} h (h.storeInfo taskId info) := by
  have others : ∀ {α : Type} (m : OrdMap Bytes α) (value : α) {other : Bytes}, other ≠ taskId →
      (m.insert taskId value).find other = m.find other := fun m value _ different =>
        OrdMap.find_insert_ne different m value
  intro part outside
  cases part with
  | known other =>
    have different : other ≠ taskId := fun same => outside (by simp [same])
    exact congrArg Option.isSome (others h.taskInfos info different)
  | info other =>
    have different : other ≠ taskId := fun same => outside (by simp [same])
    exact Prod.ext (others h.taskInfos info different) (others h.taskDb info.toDbTaskInfo different)
  | ports other =>
    have different : other ≠ taskId := fun same => outside (by simp [same])
    exact congrArg (Option.map TaskInfo.ports) (others h.taskInfos info different)
  | _ => rfl

theorem processStage_confined (event : TaskEvent) (stage : EventStage) :
    Confined (stageParts event.taskId event.job stage) (processStage w event stage) := by
  cases stage with
  | taken => exact beginJob_confined w event.taskId event.job
  | asleep => exact startAgain_only w event.taskId
  | addressing info => exact addressed_only w event.taskId info event.job
  | recreating info => exact recreateDomain_only w event.taskId
  | rootLookup info =>
    intro h
    unfold processStage
    dsimp only
    split
    · exact .refl h
    · exact storeInfo_only event.taskId _ h
  | attached disk => exact fun h => addDiskInfo_only event.taskId h disk

theorem stageParts_within (job : TaskJob) (stage : EventStage) : Within taskId (stageParts taskId job stage) := by
  cases stage with
  | taken => exact jobParts_within taskId job
  | asleep => exact jobParts_within taskId .forceRebootTask
  | _ =>
    intro part member
    simp only [stageParts, Set.mem_insert_iff, Set.mem_singleton_iff] at member
    grind [Part.owner]

theorem events_notMem_stageParts (job : TaskJob) (stage : EventStage) : .events ∉ stageParts taskId job stage := by
  cases stage with
  | taken => exact events_notMem_jobParts taskId job
  | _ => simp [stageParts, jobParts]

end Footprints

namespace Down
variable {w : World} {taskId : Bytes} {h : Host}

theorem beginCreateTask (down : Down taskId h) {biosMode : Bytes}
    (still : ¬ Starts w ⟨taskId, .createTask biosMode⟩ h) :
    Down taskId (beginCreateTask w taskId biosMode h).2 := by
  unfold Host.beginCreateTask
  split
  · exact down
  · rename_i info found
    -- a domain that is there is not created, and libvirt refuses the others
    have kept : (createDomain w taskId info h).1 ≠ .ok true ∧ Down taskId (createDomain w taskId info h).2 := by
      by_cases exist : h.isExistDomain taskId
      · obtain ⟨files, failed⟩ := createDomain_exists (w := w) exist info
        exact ⟨failed, down.frame files (by simp)⟩
      · refine createDomain_down down ?_ info
        by_contra created
        exact still ⟨by simpa using created, by simp [found], by simpa using exist⟩
    obtain ⟨failed, stays⟩ := kept
    split
    · exact down.frame (settle_only taskId h _ _) (by simp)
    · split
      · rename_i created
        rw [created] at stays
        exact stays
      · rename_i created
        rw [created] at stays
        exact stays.frame (settle_only taskId _ _ _) (by simp)
      · rename_i created
        rw [created] at failed
        exact (failed rfl).elim

theorem beginStartTask (down : Down taskId h) (still : ¬ Starts w ⟨taskId, .startTask⟩ h) :
    Down taskId (beginStartTask w taskId h).2 := by
  unfold Host.beginStartTask
  split
  · exact down
  · rename_i info found
    have refused : w.createDomain = false := by
      by_contra created
      exact still ⟨by simpa using created, by simp [found], trivial⟩
    rw [down.startDomain refused]
    exact down.frame (settle_only taskId h _ _) (by simp)

theorem beginStop (down : Down taskId h) (pending failed : TaskStatus) :
    Down taskId (beginStop w taskId pending failed h).2 := by
  have same := down.destroyDomain (w := w)
  unfold Host.beginStop
  split
  · exact down
  · split
    · rename_i stopped
      rw [stopped] at same
      subst same
      exact down.frame (settle_only taskId _ _ _) (by simp)
    · rename_i stopped
      rw [stopped] at same
      subst same
      have settled := down.frame (settle_only taskId _ pending .shutoff) (by simp)
      have closed := settled.frame (removeIptableFromSystem_only taskId _) (by simp)
      dsimp only
      split <;> exact closed

theorem beginForceReboot (down : Down taskId h) (still : ¬ Starts w ⟨taskId, .forceRebootTask⟩ h) :
    Down taskId (beginForceReboot w taskId h).2 := by
  have same := down.destroyDomain (w := w)
  unfold Host.beginForceReboot
  split
  · exact down
  · rename_i info found
    have refused : w.createDomain = false := by
      by_contra created
      exact still ⟨by simpa using created, by simp [found], trivial⟩
    rw [down.startDomain refused]
    dsimp only
    split
    · exact down.frame (restarted_only taskId h false) (by simp)
    · split
      · rename_i k stopped
        rw [stopped] at same
        subst same
        exact down.frame (restarted_only taskId k false) (by simp)
      · rename_i stopped
        rw [stopped] at same
        subst same
        exact down

theorem openNetwork (down : Down taskId h) (info : TaskInfo) : Down taskId (h.openNetwork w taskId info).2 := by
  have made := down.frame (createTaskIptable_only w taskId h info w.domainLocalIp) (by simp)
  unfold Host.openNetwork
  split
  · rename_i same
    rw [same] at made
    exact made
  · rename_i same
    rw [same] at made
    dsimp only
    rw [made.destroyDomain]
    exact made

theorem addressed (down : Down taskId h) (info : TaskInfo) (job : TaskJob) :
    Down taskId (h.addressed w taskId info job) := by
  have opened := down.openNetwork (w := w) info
  unfold Host.addressed
  split
  all_goals
    rename_i same
    rw [same] at opened
  · exact opened.frame (settle_only taskId _ _ _) (by simp)
  · have added := opened.frame (addIptableToSystem_only taskId _) (by simp)
    have told := added.frame (setLogin_only w taskId _ info) (by simp)
    exact told.frame (settle_only taskId _ _ _) (by simp)
  · exact opened.frame (settle_only taskId _ _ _) (by simp)
  · have settled := opened.frame (settle_only taskId _ .starting .running) (by simp)
    exact settled.frame (addIptableToSystem_only taskId _) (by simp)

/-- Only a stage that starts it brings the domain of a task up. -/
theorem processStage (down : Down taskId h) {event : TaskEvent} {stage : EventStage}
    (still : event.taskId = taskId → ¬ StageStarts w ⟨event, stage⟩ h) :
    Down taskId (processStage w event stage h).2 := by
  have footprint := processStage_confined w event stage h
  by_cases own : event.taskId = taskId
  · subst own
    have quiet := still rfl
    cases stage with
    | taken =>
      obtain ⟨taskId, job⟩ := event
      change Down taskId (beginJob w taskId job h).2
      cases job with
      | createTask biosMode => exact down.beginCreateTask quiet
      | startTask => exact down.beginStartTask quiet
      | shutdownTask | powerOffTask => exact down.beginStop _ _
      | forceRebootTask => exact down.beginForceReboot quiet
      | addDisk sizeK mountDir => exact down.frame footprint (by simp [stageParts, jobParts])
      | _ => exact Prog.Keeps.after (down.processJob (fun _ => quiet)) (fun _ => .pure _)
    | asleep =>
      change Down event.taskId ((h.startDomain w event.taskId).2.restarted event.taskId
        (h.startDomain w event.taskId).1)
      rw [down.startDomain (by simpa [StageStarts] using quiet)]
      exact down.frame (restarted_only event.taskId h _) (by simp)
    | addressing info => exact down.addressed info event.job
    | recreating info =>
      change Down event.taskId (h.recreateDomain w event.taskId)
      unfold recreateDomain
      rw [down.startDomain (by simpa [StageStarts] using quiet)]
      split <;> exact down
    | rootLookup info => exact down.frame footprint (by simp [stageParts])
    | attached disk => exact down.frame footprint (by simp [stageParts])
  · exact down.frame footprint ((stageParts_within event.taskId event.job stage).other rfl (Ne.symm own))

/-- Nothing but the event thread brings a domain up. -/
theorem node (down : Down taskId h) {hw : Hardware} {event : HostEvent} {k : Host} (outside : event ≠ .process)
    (ran : h.step hw (w, event) = some k) : Down taskId k := by
  cases event with
  | process => exact (outside rfl).elim
  | create wallet additional rentEnd role =>
    rcases step_create ran with rfl | ⟨params, root, _, rfl⟩
    · exact down
    · exact down.frame (addTask_only w h wallet rentEnd params root) (by simp [createParts])
  | request wallet request =>
    rw [← step_request ran]
    exact down.frame (execute_confined hw w wallet request h) (notMem_requestParts rfl request)
  | deleteImage additional =>
    rw [← survives_some ran]
    exact down.frame (deleteImage_confined w additional h) (by simp)
  | close other =>
    cases ran
    by_cases own : other = taskId
    · rw [own, down.closeTask]
      exact down
    · exact down.frame (closeTask_only w other h) ((closeParts_within other).other rfl (Ne.symm own))
  | destroy other =>
    cases ran
    by_cases own : other = taskId
    · exact own ▸ down.destroyTask
    · exact down.frame (destroyTask_only w other h) ((destroyParts_within other).other rfl (Ne.symm own))
  | uploaded other snapshotName =>
    rw [← survives_some ran]
    exact down.frame (setSnapshotStatus_confined other snapshotName .none h) (by simp)
  | domainChanges other state =>
    by_cases own : other = taskId
    · subst own
      simp only [step, domainChanges] at ran
      split at ran
      · cases ran
      · rename_i domain found
        rw [if_pos (down domain found)] at ran
        cases ran
    · exact down.frame (domainChanges_only ran) ((domainParts_within other).other rfl (Ne.symm own))
  | fileAppears path backing => exact down.frame (fileAppears_only ran) (by simp)

/-- A domain that was stopped is down. -/
theorem of_destroyDomain {k : Host} (stopped : h.destroyDomain w taskId = (true, k)) : Down taskId k := by
  unfold Host.destroyDomain at stopped
  split at stopped
  · cases stopped
  · rename_i domain found
    intro other present
    split at stopped
    · rename_i off
      cases stopped
      rw [found] at present
      exact Option.some.inj present ▸ off
    · split at stopped
      · cases stopped
        rw [setDomain, OrdMap.find_insert_self] at present
        exact Option.some.inj present ▸ rfl
      · cases stopped

end Down

section Waits
variable {w : World} {event : TaskEvent} {stage next : EventStage} {taskId : Bytes} {h k : Host}

/-- The stages that a first stage leads to. -/
theorem beginJob_next {job : TaskJob} (ran : beginJob w taskId job h = (.ok (some next), k)) :
    next = .asleep ∧ job = .forceRebootTask ∨ (∃ info, next = .addressing info) ∨ (∃ disk, next = .attached disk) ∨
      (∃ info, next = .rootLookup info) ∧ Down taskId k := by
  have stopped : ∀ {pending failed : TaskStatus}, beginStop w taskId pending failed h = (.ok (some next), k) →
      (∃ info, next = .rootLookup info) ∧ Down taskId k := by
    intro pending failed stopping
    unfold beginStop at stopping
    split at stopping
    · cases stopping
    · rename_i info _
      split at stopping
      · cases stopping
      · rename_i l off
        dsimp only at stopping
        split at stopping
        · cases stopping
        · cases stopping
          have settled := (Down.of_destroyDomain off).frame (settle_only taskId l pending .shutoff) (by simp)
          exact ⟨⟨info, rfl⟩, settled.frame (removeIptableFromSystem_only taskId _) (by simp)⟩
  have whole : ∀ call : Call Unit, (do
      call
      pure (none : Option EventStage)) h ≠ (.ok (some next), k) := by
    intro call ran
    rcases Prog.bind_cases ran with ⟨_, _, _, ended⟩ | ⟨_, _, failed⟩
    · cases ended
    · cases failed
  cases job with
  | createTask biosMode =>
    refine Or.inr (Or.inl ?_)
    change beginCreateTask w taskId biosMode h = _ at ran
    unfold beginCreateTask at ran
    grind
  | startTask =>
    refine Or.inr (Or.inl ?_)
    change beginStartTask w taskId h = _ at ran
    unfold beginStartTask at ran
    grind
  | shutdownTask | powerOffTask => exact Or.inr (Or.inr (Or.inr (stopped ran)))
  | forceRebootTask =>
    refine Or.inl ⟨?_, rfl⟩
    change beginForceReboot w taskId h = _ at ran
    unfold beginForceReboot at ran
    grind
  | addDisk sizeK mountDir =>
    refine Or.inr (Or.inr (Or.inl ?_))
    change beginAddDisk w taskId sizeK mountDir h = _ at ran
    unfold beginAddDisk at ran
    grind
  | _ => exact (whole _ ran).elim

/-- What an event waits for when it goes on: a start is before it only where
one was. -/
theorem processStage_next (ran : processStage w event stage h = (.ok (some next), k)) :
    ((⟨event, next⟩ : OngoingEvent).mayStart = true → (⟨event, stage⟩ : OngoingEvent).mayStart = true) ∧
      ∀ info, next = .rootLookup info → Down event.taskId k := by
  cases stage with
  | taken =>
    rcases beginJob_next ran with ⟨rfl, job⟩ | ⟨info, rfl⟩ | ⟨disk, rfl⟩ | ⟨⟨info, rfl⟩, down⟩
    · refine ⟨fun _ => ?_, fun info same => (by cases same)⟩
      change event.job.starts = true
      rw [job]
      rfl
    · exact ⟨fun starts => (by cases starts), fun other same => (by cases same)⟩
    · exact ⟨fun starts => (by cases starts), fun other same => (by cases same)⟩
    · exact ⟨fun starts => (by cases starts), fun _ _ => down⟩
  | recreating info =>
    cases ran
    exact ⟨fun starts => (by cases starts), fun other same => (by cases same)⟩
  | rootLookup info =>
    unfold processStage at ran
    dsimp only at ran
    split at ran <;> cases ran
  | asleep | addressing | attached => cases ran

end Waits

end Host


namespace Host
variable {w : World} {taskId : Bytes} {h : Host}

/-- What is left of an event after its first stage, where nothing happens in
between. None of the second stages waits again. -/
def resume (w : World) (event : TaskEvent) : Except (Stop Bytes) (Option EventStage) × Host →
    Except (Stop Bytes) Unit × Host
  | (.error stopped, h) => (.error stopped, h)
  | (.ok none, h) => (.ok (), h)
  | (.ok (some stage), h) =>
    match processStage w event (stage.seen (h.taskInfos.find event.taskId)) h with
    | (.error stopped, k) => (.error stopped, k)
    | (.ok none, k) => (.ok (), k)
    | (.ok (some _), k) => (.error .diverged, k)

theorem processCreateTask_resumed (biosMode : Bytes) : processCreateTask w taskId biosMode h =
    resume w ⟨taskId, .createTask biosMode⟩ (beginCreateTask w taskId biosMode h) := by
  unfold processCreateTask beginCreateTask
  rcases found : h.taskInfos.find taskId with _ | info
  · rfl
  · dsimp only
    by_cases refused : w.defineNwfilter = false
    · rw [if_pos refused, if_pos refused]
      rfl
    · rw [if_neg refused, if_neg refused]
      have same : (createDomain w taskId info h).2.taskInfos.find taskId = some info :=
        (Only.info (createDomain_confined w taskId info h) (by simp)).trans found
      rcases created : createDomain w taskId info h with ⟨_ | _ | _, k⟩
      · rfl
      · rfl
      · rw [created] at same
        dsimp only at same ⊢
        by_cases pxe : biosMode = str "pxe"
        · rw [if_pos pxe, if_pos pxe]
          rfl
        · rw [if_neg pxe, if_neg pxe]
          simp only [resume, EventStage.seen, processStage, addressed, same, Option.getD_some]
          rcases k.openNetwork w taskId info with ⟨_ | _, l⟩ <;> rfl

theorem processStartTask_resumed : processJob w taskId .startTask h =
    resume w ⟨taskId, .startTask⟩ (beginStartTask w taskId h) := by
  change (Except.ok (), h.processStartTask w taskId) = _
  unfold processStartTask beginStartTask
  rcases found : h.taskInfos.find taskId with _ | info
  · rfl
  · have same : (h.startDomain w taskId).2.taskInfos.find taskId = some info :=
      (Only.info (startDomain_only w taskId) (by simp)).trans found
    dsimp only
    rcases started : h.startDomain w taskId with ⟨_ | _, k⟩
    · rfl
    · rw [started] at same
      dsimp only at same ⊢
      by_cases bare : info.biosMode ≠ str "pxe" ∧ (k.taskIptables.find taskId).isNone
      · rw [if_pos bare, if_pos bare]
        simp only [resume, EventStage.seen, processStage, addressed, same, Option.getD_some]
        rcases k.openNetwork w taskId info with ⟨_ | _, l⟩ <;> rfl
      · rw [if_neg bare, if_neg bare]
        rfl

/-- A record that is known is put back with its change. -/
theorem updateInfo_known {info : TaskInfo} (known : h.taskInfos.find taskId = some info)
    (change : TaskInfo → TaskInfo) :
    h.updateInfo taskId change = h.storeInfo taskId (change info) := by
  rw [updateInfo, known]
  rfl

theorem processStop_resumed (pending failed : TaskStatus) (job : TaskJob) : processStop w taskId pending failed h =
    resume w ⟨taskId, job⟩ (beginStop w taskId pending failed h) := by
  unfold processStop beginStop
  rcases found : h.taskInfos.find taskId with _ | info
  · rfl
  · have stopped : (h.destroyDomain w taskId).2.taskInfos.find taskId = some info :=
      (Only.info (destroyDomain_only w taskId) (by simp)).trans found
    dsimp only
    rcases done : h.destroyDomain w taskId with ⟨_ | _, k⟩
    · rfl
    · rw [done] at stopped
      dsimp only at stopped ⊢
      have settled : recordOf taskId (k.settle taskId pending .shutoff) =
          (some (info.settled pending .shutoff), k.taskDb.find taskId) := by
        rw [settle_record, recordOf, stopped]
        rfl
      generalize closed : (k.settle taskId pending .shutoff).removeIptableFromSystem taskId = l
      have same : l.taskInfos.find taskId = some (info.settled pending .shutoff) := by
        rw [← closed, (removeIptableFromSystem_only taskId _).info (by simp)]
        exact congrArg Prod.fst settled
      have image : (info.settled pending .shutoff).imageName = info.imageName :=
        congrArg DbTaskInfo.imageName (TaskInfo.settled_stored pending .shutoff info)
      unfold recordRootBackfile
      by_cases looked : info.biosMode = str "pxe" ∨ info.vdaRootBackfile ≠ []
      · rw [if_pos looked, if_pos looked]
        rfl
      · rw [if_neg looked, if_neg looked]
        simp only [resume, EventStage.seen, processStage, same, Option.getD_some]
        rw [← image]
        rcases l.rootBackfile l.chainRounds (str "/data/" ++ (info.settled pending .shutoff).imageName) with
          _ | root
        · rfl
        · exact congrArg (Prod.mk _) (updateInfo_known same _)

theorem processForceReboot_resumed : processJob w taskId .forceRebootTask h =
    resume w ⟨taskId, .forceRebootTask⟩ (beginForceReboot w taskId h) := by
  change (Except.ok (), h.processForceRebootTask w taskId) = _
  unfold processForceRebootTask beginForceReboot
  rcases h.taskInfos.find taskId with _ | info
  · rfl
  · dsimp only
    by_cases off : h.getDomainStatus taskId = .shutoff
    · rw [if_pos off, if_pos off]
      rfl
    · rw [if_neg off, if_neg off]
      rcases h.destroyDomain w taskId with ⟨_ | _, k⟩ <;> rfl

theorem processAddDisk_resumed (sizeK : Int) (mountDir : Bytes) : processAddDisk w taskId sizeK mountDir h =
    resume w ⟨taskId, .addDisk sizeK mountDir⟩ (beginAddDisk w taskId sizeK mountDir h) := by
  unfold processAddDisk beginAddDisk
  rcases h.nextDiskName taskId with _ | diskName
  · rfl
  · dsimp only
    rcases (h.writeImage (mountDir ++ str "/" ++ w.newDataDisk) []).attachDisk w taskId diskName
      (mountDir ++ str "/" ++ w.newDataDisk) with ⟨_ | error, k⟩ <;> rfl

theorem resume_whole (event : TaskEvent) (call : Call Unit) : call h = resume w event ((do
    call
    pure none) h) := by
  rcases ran : call h with ⟨_ | _, k⟩
  · rw [Prog.bind_error ran]
    rfl
  · rw [Prog.bind_ok ran]
    rfl

/-- An event that is worked off in one go does what its stages do one after
the other. -/
theorem processJob_resumed (job : TaskJob) :
    processJob w taskId job h = resume w ⟨taskId, job⟩ (beginJob w taskId job h) := by
  cases job with
  | createTask biosMode => exact processCreateTask_resumed biosMode
  | startTask => exact processStartTask_resumed
  | shutdownTask => exact processStop_resumed _ _ _
  | powerOffTask => exact processStop_resumed _ _ _
  | forceRebootTask => exact processForceReboot_resumed
  | addDisk sizeK mountDir => exact processAddDisk_resumed sizeK mountDir
  | _ => exact resume_whole _ _

end Host

namespace TaskThread
variable {hw : Hardware} {t u : TaskThread}

/-- All that a step of a node with its event thread can be. -/
inductive Moves (hw : Hardware) (t : TaskThread) : ThreadEvent → TaskThread → Prop
  | node {w : World} {event : HostEvent} {h : Host} (outside : event ≠ .process)
      (ran : t.host.step hw (w, event) = some h) : Moves hw t (.node (w, event)) (on h t.ongoing)
  | takes {event : TaskEvent} {rest : List TaskEvent} (free : t.ongoing = none) (queue : t.host.events =
    event :: rest) :
      Moves hw t .take (busy { t.host with events := rest } ⟨event, .taken⟩)
  | waits {w : World} {ongoing : OngoingEvent} {stage : EventStage} {h : Host} (now : t.ongoing = some ongoing)
      (ran : Host.processStage w ongoing.event ongoing.stage t.host = (.ok (some stage), h)) :
      Moves hw t (.work w) (busy h ⟨ongoing.event, stage⟩)
  | ends {w : World} {ongoing : OngoingEvent} {h : Host} (now : t.ongoing = some ongoing)
      (ran : Host.processStage w ongoing.event ongoing.stage t.host = (.ok none, h)) :
      Moves hw t (.work w) (idle h.updateRunningTasks)
  | retries {w : World} {event : TaskEvent} {info : TaskInfo} {h : Host} (now : t.ongoing =
    some ⟨event, .addressing info⟩)
      (up : t.host.getDomainStatus event.taskId ≠ .shutoff)
      (stopped : t.host.destroyDomain w event.taskId = (true, h)) :
        Moves hw t (.retry w) (busy h ⟨event, .recreating info⟩)

theorem Moves.of_step {event : ThreadEvent} (ran : t.step hw event = some u) : Moves hw t event u := by
  obtain ⟨h, ongoing⟩ := t
  cases event with
  | node event =>
    obtain ⟨w, event⟩ := event
    have outside : event ≠ .process := by
      rintro rfl
      cases ran
    have after : (h.step hw (w, event)).map (fun k => on k ongoing) = some u := by
      cases event <;> first | exact ran | exact (outside rfl).elim
    obtain ⟨k, happened, rfl⟩ := Option.map_eq_some_iff.mp after
    exact .node outside happened
  | take =>
    simp only [step] at ran
    split at ran
    · rename_i _ _ queue
      cases ran
      exact .takes rfl queue
    · cases ran
  | work w =>
    obtain ⟨now, rfl, worked⟩ := Option.bind_eq_some_iff.mp ran
    unfold work at worked
    split at worked
    · rename_i done
      cases worked
      exact .waits rfl done
    · rename_i done
      cases worked
      exact .ends rfl done
    · cases worked
  | retry w =>
    obtain ⟨now, rfl, tried⟩ := Option.bind_eq_some_iff.mp ran
    unfold retry at tried
    split at tried
    · split at tried
      · cases tried
      · split at tried
        · cases tried
        · rename_i up _ _ stopped
          cases tried
          exact .retries rfl up stopped
    · cases tried

/-- A node whose events are worked off in one go is one whose event thread
is never interrupted: each of its steps is one or more steps of the
thread. -/
theorem runs_of_step {h k : Host} {event : World × HostEvent} (ran : h.step hw event = some k) :
    ∃ events, runAll (step hw) (idle h) events = some (idle k) := by
  obtain ⟨w, event⟩ := event
  by_cases inside : event = .process
  · subst inside
    obtain ⟨event, rest, l, queue, worked, rfl⟩ := Host.step_processed ran
    have taken : step hw (idle h) .take = some (busy { h with events := rest } ⟨event, .taken⟩) := by
      simp only [step, idle, queue]
    rw [Host.processJob_resumed] at worked
    -- either the event ends with its first stage, or with its second one
    rcases begun : Host.beginJob w event.taskId event.job { h with events := rest } with ⟨_ | _ | stage, m⟩
    · rw [begun] at worked
      cases worked
    · rw [begun] at worked
      cases worked
      have ended : step hw (busy { h with events := rest } ⟨event, .taken⟩) (.work w) =
        some (idle l.updateRunningTasks) := by
        simp only [step, busy, EventStage.seen, Option.bind_some, work, Host.processStage, begun]
      exact ⟨[.take, .work w], by simp only [runAll, taken, ended, Option.bind_some]⟩
    · rw [begun] at worked
      have waits : step hw (busy { h with events := rest } ⟨event, .taken⟩) (.work w) =
        some (busy m ⟨event, stage⟩) := by
        simp only [step, busy, EventStage.seen, Option.bind_some, work, Host.processStage, begun]
      have ended : step hw (busy m ⟨event, stage⟩) (.work w) = some (idle l.updateRunningTasks) := by
        simp only [Host.resume] at worked
        split at worked
        · cases worked
        · rename_i done
          cases worked
          simp only [step, busy, Option.bind_some, work, done]
        · cases worked
      exact ⟨[.take, .work w, .work w], by simp only [runAll, taken, waits, ended, Option.bind_some]⟩
  · have alone : step hw (idle h) (.node (w, event)) = some (idle k) := by
      have outside : step hw (idle h) (.node (w, event)) = (h.step hw (w, event)).map (fun k => on k none) := by
        cases event <;> first | rfl | exact (inside rfl).elim
      rw [outside, ran]
      rfl
    exact ⟨[.node (w, event)], by simp only [runAll, alone, Option.bind_some]⟩

/-- Every state of a node is one of a node with its event thread. -/
theorem reaches_of_host {h : Host} {trace : List (World × HostEvent)}
    (reached : Reaches (Host.step hw) Host.empty trace h) :
    ∃ steps, Reaches (step hw) (idle Host.empty) steps (idle h) := by
  induction reached with
  | start => exact ⟨[], .start⟩
  | next _ _ ran ih =>
    obtain ⟨steps, before⟩ := ih
    obtain ⟨events, ran⟩ := runs_of_step ran
    exact ⟨_, Reaches.of_runAll events before ran⟩

end TaskThread

end DbcNode
