import DbcNode.Task.TaskThread

namespace DbcNode

/-- The requests that work on the disk images of a task. -/
def TaskOperation.touchesDisk : TaskOperation → Bool
  | .resizeDisk _ | .addDisk _ | .deleteDisk _ | .createSnapshot _ => true
  | _ => false

theorem TaskOperation.Queues.touchesDisk {operation : TaskOperation} {job : TaskJob} (queues : operation.Queues job)
    (touches : job.touchesDisk) : operation.touchesDisk := by
  cases queues with
  | resizeDisk | addDisk | deleteDisk | createSnapshot => rfl
  | _ => cases touches

/-- The events that work on disks start nothing. -/
theorem TaskJob.starts_of_touchesDisk {job : TaskJob} (touches : job.touchesDisk) : job.starts = false := by
  cases job with
  | resizeDisk | addDisk | deleteDisk | createSnapshot => rfl
  | _ => cases touches

namespace TaskThread

/-- While the event thread works on the disks of a task, the domain of the
task is shut off, as far as there is one. -/
def DisksTouchedShutOff (t : TaskThread) : Prop :=
  ∀ ongoing ∈ t.ongoing, ongoing.event.job.touchesDisk → Host.Down ongoing.event.taskId t.host

/-- A disk request comes only when no event that starts its task waits, and
none is worked off that has a start still before it. -/
def DisksAlone (t : TaskThread) : ThreadEvent → Prop
  | .node (_, .request _ request) => request.operation.touchesDisk →
      (∀ event ∈ t.host.events, event.taskId = request.taskId → event.job.starts = false) ∧
        ∀ ongoing ∈ t.ongoing, ongoing.event.taskId = request.taskId → ongoing.mayStart = false
  | _ => True

instance (t : TaskThread) : (event : ThreadEvent) → Decidable (DisksAlone t event)
  | .node (_, .request _ request) => inferInstanceAs (Decidable (request.operation.touchesDisk →
      (∀ event ∈ t.host.events, event.taskId = request.taskId → event.job.starts = false) ∧
        ∀ ongoing ∈ t.ongoing, ongoing.event.taskId = request.taskId → ongoing.mayStart = false))
  | .node (_, .create _ _ _ _) | .node (_, .deleteImage _) | .node (_, .process) | .node (_, .close _)
  | .node (_, .destroy _) | .node (_, .uploaded _ _) | .node (_, .domainChanges _ _) | .node (_, .fileAppears _ _)
  | .take | .work _ | .retry _ => isTrue trivial

/-- What makes the disks safe: an event that works on them waits behind no
event that starts its task, nor behind the one that the thread works on, and
the domain stays down. -/
structure DisksWait (t : TaskThread) : Prop where
  down : ∀ event ∈ t.host.events, event.job.touchesDisk → Host.Down event.taskId t.host
  order : t.host.events.Pairwise (fun first second =>
    second.job.touchesDisk → first.taskId = second.taskId → first.job.starts = false)
  now : ∀ ongoing ∈ t.ongoing, ongoing.event.job.touchesDisk →
    Host.Down ongoing.event.taskId t.host ∧ ongoing.mayStart = false
  ahead : ∀ ongoing ∈ t.ongoing, ∀ event ∈ t.host.events, event.job.touchesDisk →
    ongoing.event.taskId = event.taskId → ongoing.mayStart = false

namespace DisksWait
variable {hw : Hardware} {w : World} {t u : TaskThread} {h k : Host} {ongoing : Option OngoingEvent}

theorem on (wait : DisksWait ⟨h, ongoing⟩) : DisksWait (TaskThread.on h ongoing) := by
  cases ongoing with
  | none => exact wait
  | some ongoing =>
    refine ⟨wait.down, wait.order, fun seen now touches => ?_, fun seen now event member touches same => ?_⟩
    · cases now
      obtain ⟨down, apart⟩ := wait.now ongoing rfl touches
      exact ⟨down, (OngoingEvent.mayStart_seen _ _ _).trans apart⟩
    · cases now
      exact (OngoingEvent.mayStart_seen _ _ _).trans (wait.ahead ongoing rfl event member touches same)

/-- What leaves the queue alone, and every domain down that is down. -/
theorem keep (wait : DisksWait ⟨h, ongoing⟩) (events : k.events = h.events)
    (stays : ∀ taskId, Host.Down taskId h → Host.Down taskId k) : DisksWait ⟨k, ongoing⟩ := by
  refine ⟨fun event member touches => ?_, ?_, fun now present touches => ?_, fun now present event member => ?_⟩
  · exact stays _ (wait.down event (events ▸ member) touches)
  · exact events ▸ wait.order
  · exact (wait.now now present touches).imp_left (stays _)
  · exact wait.ahead now present event (events ▸ member)

/-- One more event at the end of the queue. -/
theorem append {event : TaskEvent} (wait : DisksWait ⟨h, ongoing⟩) (queue : k.events = h.events ++ [event])
    (stays : ∀ taskId, Host.Down taskId h → Host.Down taskId k)
    (new : event.job.touchesDisk → Host.Down event.taskId k)
    (before : event.job.touchesDisk → (∀ other ∈ h.events, other.taskId = event.taskId → other.job.starts = false) ∧
      ∀ now ∈ ongoing, now.event.taskId = event.taskId → now.mayStart = false) : DisksWait ⟨k, ongoing⟩ := by
  refine ⟨fun other member touches => ?_, ?_, fun now present touches => ?_,
    fun now present other member touches same => ?_⟩
  · change other ∈ k.events at member
    rw [queue] at member
    rcases List.mem_append.mp member with old | last
    · exact stays _ (wait.down other old touches)
    · rw [List.mem_singleton.mp last] at touches ⊢
      exact new touches
  · change k.events.Pairwise _
    rw [queue, List.pairwise_append]
    refine ⟨wait.order, List.pairwise_singleton _ _, fun first old second last touches same => ?_⟩
    rw [List.mem_singleton.mp last] at touches same
    exact (before touches).1 first old same
  · exact (wait.now now present touches).imp_left (stays _)
  · change other ∈ k.events at member
    rw [queue] at member
    rcases List.mem_append.mp member with old | last
    · exact wait.ahead now present other old touches same
    · rw [List.mem_singleton.mp last] at touches same
      exact (before touches).2 now present same

theorem request (wait : DisksWait ⟨h, ongoing⟩) {wallet : Bytes} {request : TaskRequest}
    (alone : DisksAlone ⟨h, ongoing⟩ (.node (w, .request wallet request))) :
    DisksWait ⟨(Host.execute hw w wallet request h).2, ongoing⟩ := by
  have only : Host.Only (Host.requestParts request) h (Host.execute hw w wallet request h).2 :=
    Host.execute_confined hw w wallet request h
  have stays : ∀ taskId, Host.Down taskId h → Host.Down taskId (Host.execute hw w wallet request h).2 :=
    fun taskId down => down.frame only (Host.notMem_requestParts rfl request)
  rcases Host.execute_mayQueue hw w wallet request h with same | ⟨job, ⟨queues, shutOff⟩, queue⟩
  · exact wait.keep same stays
  · refine wait.append queue stays (fun touches => ?_) (fun touches => ?_)
    · exact stays _ (.of_shutoff (shutOff touches))
    · exact alone (queues.touchesDisk touches)

theorem node (wait : DisksWait ⟨h, ongoing⟩) {event : HostEvent} (outside : event ≠ .process)
    (alone : DisksAlone ⟨h, ongoing⟩ (.node (w, event))) (ran : h.step hw (w, event) = some k) :
    DisksWait ⟨k, ongoing⟩ := by
  have stays : ∀ taskId, Host.Down taskId h → Host.Down taskId k := fun taskId down => down.node outside ran
  cases event with
  | create wallet additional rentEnd role =>
    rcases Host.step_create ran with rfl | ⟨params, root, _, rfl⟩
    · exact wait
    · exact wait.append (Host.addTask_events wallet rentEnd params root) stays (fun touches => (by cases touches))
        (fun touches => (by cases touches))
  | request wallet request => exact Host.step_request ran ▸ wait.request alone
  | process => exact (outside rfl).elim
  | deleteImage additional =>
    have only : Host.Only {.files} h k := Host.survives_some ran ▸ Host.deleteImage_confined w additional h
    exact wait.keep (only.events (by simp)) stays
  | close taskId =>
    have only : Host.Only {.state taskId, .info taskId, .nat} h k :=
      Option.some.inj ran ▸ Host.closeTask_only w taskId h
    exact wait.keep (only.events (by simp)) stays
  | destroy taskId =>
    have only : Host.Only (Host.destroyParts taskId) h k := Option.some.inj ran ▸ Host.destroyTask_only w taskId h
    exact wait.keep (only.events (by simp [Host.destroyParts, Host.recordParts])) stays
  | uploaded taskId snapshotName =>
    have only : Host.Only {.snapshots taskId} h k :=
      Host.survives_some ran ▸ Host.setSnapshotStatus_confined taskId snapshotName .none h
    exact wait.keep (only.events (by simp)) stays
  | domainChanges taskId state => exact wait.keep ((Host.domainChanges_only ran).events (by simp)) stays
  | fileAppears path backing => exact wait.keep ((Host.fileAppears_only ran).events (by simp)) stays

/-- A stage of the event that is worked off, which may or may not be its
last one. -/
theorem worked (wait : DisksWait t) {now : OngoingEvent} (present : t.ongoing = some now) {next : Option EventStage}
    (ran : Host.processStage w now.event now.stage t.host = (.ok next, k)) :
    DisksWait ⟨k, next.map (OngoingEvent.mk now.event)⟩ := by
  have confined := Host.processStage_confined w now.event now.stage t.host
  have still : ∀ event : TaskEvent, Host.Down event.taskId t.host →
    (now.event.taskId = event.taskId → now.mayStart = false) →
      Host.Down event.taskId (Host.processStage w now.event now.stage t.host).2 := by
    intro event down apart
    refine down.processStage (fun same starts => ?_)
    have impossible := starts.mayStart
    rw [apart same] at impossible
    cases impossible
  rw [ran] at confined still
  have same : k.events = t.host.events := Host.Only.events confined (Host.events_notMem_stageParts _ _ _)
  -- no start comes before an event that goes on which was not before it already
  have quiet : ∀ ongoing ∈ next.map (OngoingEvent.mk now.event), now.mayStart = false →
      ongoing.event = now.event ∧ ongoing.mayStart = false := by
    intro ongoing goesOn apart
    obtain ⟨stage, rfl, rfl⟩ := Option.map_eq_some_iff.mp goesOn
    refine ⟨rfl, Bool.eq_false_iff.mpr (fun starts => ?_)⟩
    have before := (Host.processStage_next ran).1 starts
    exact Bool.false_ne_true (apart.symm.trans before)
  refine ⟨fun event member touches => ?_, same ▸ wait.order, fun ongoing goesOn touches => ?_,
    fun ongoing goesOn event member touches own => ?_⟩
  · have member : event ∈ t.host.events := same ▸ member
    exact still event (wait.down event member touches) (wait.ahead now present event member touches)
  · have event : ongoing.event = now.event := by
      obtain ⟨stage, _, rfl⟩ := Option.map_eq_some_iff.mp goesOn
      rfl
    rw [event] at touches ⊢
    obtain ⟨down, apart⟩ := wait.now now present touches
    exact ⟨still now.event down (fun _ => apart), (quiet ongoing goesOn apart).2⟩
  · have member : event ∈ t.host.events := same ▸ member
    have event : ongoing.event = now.event := by
      obtain ⟨stage, _, rfl⟩ := Option.map_eq_some_iff.mp goesOn
      rfl
    exact (quiet ongoing goesOn (wait.ahead now present _ member touches (event ▸ own))).2

theorem moves {event : ThreadEvent} (wait : DisksWait t) (alone : DisksAlone t event) (moves : Moves hw t event u) :
    DisksWait u := by
  cases moves with
  | node outside ran => exact (wait.node outside alone ran).on
  | @takes event rest free queue =>
    have order := wait.order
    rw [queue, List.pairwise_cons] at order
    have member : ∀ other, other ∈ event :: rest → other ∈ t.host.events := fun other inside => queue ▸ inside
    refine ⟨fun other inside touches => ?_, order.2, fun now present touches => ?_,
      fun now present other inside touches => ?_⟩
    · exact wait.down other (member other (List.mem_cons_of_mem _ inside)) touches
    · cases present
      exact ⟨wait.down event (member event List.mem_cons_self) touches, TaskJob.starts_of_touchesDisk touches⟩
    · cases present
      exact order.1 other inside touches
  | @waits w now stage h present ran => exact (wait.worked present ran).on
  | @ends w now h present ran =>
    exact (wait.worked present ran).keep rfl (fun _ down => down.frame (Host.updateRunningTasks_only h) (by simp))
  | @retries w event info h present up stopped =>
    -- a domain that was running has no event about its disks
    have running : ¬ Host.Down event.taskId t.host := by
      intro down
      unfold Host.destroyDomain at stopped
      split at stopped
      · cases stopped
      · rename_i domain found
        exact up ((Host.getDomainStatus_of_find found).trans (down domain found))
    have only : Host.Only {.state event.taskId} t.host h := by
      have confined := Host.destroyDomain_only w event.taskId (h := t.host)
      rwa [stopped] at confined
    have same : h.events = t.host.events := only.events (by simp)
    refine ⟨fun other member touches => ?_, same ▸ wait.order, fun now goesOn touches => ?_,
      fun now goesOn other member touches own => ?_⟩
    · have down := wait.down other (same ▸ member) touches
      refine down.frame only ?_
      simp only [Set.mem_singleton_iff, Host.Part.state.injEq]
      exact fun own => running (own ▸ down)
    · cases goesOn
      exact (running (wait.now _ present touches).1).elim
    · cases goesOn
      have own : event.taskId = other.taskId := own
      exact (running (own ▸ wait.down other (same ▸ member) touches)).elim

theorem empty : DisksWait (idle Host.empty) :=
  ⟨fun _ member => (by cases member), .nil, fun _ none => (by cases none), fun _ none => (by cases none)⟩

end DisksWait

/-- Where no disk request comes while a start of its task is still to come,
in the queue or in the event that is being worked off, the disks of a task
are touched only when its domain is shut off. -/
theorem disks_touched_shut_off {hw : Hardware} {trace : List ThreadEvent} {t : TaskThread}
    (run : Run (step hw) DisksAlone (idle Host.empty) trace t) : DisksTouchedShutOff t := by
  have wait : DisksWait t := run.invariant DisksWait.empty (fun wait alone ran => wait.moves alone (.of_step ran))
  exact fun ongoing present touches => (wait.now ongoing present touches).1

end TaskThread

/-- A node with one GPU. -/
def Hardware.small : Hardware := ⟨8, 1, 4, 2, OrdMap.empty.insert (str "gpu") [str "device"]⟩

/-- A world where every call works, and what is new is named after a
task. -/
def World.calm (taskId : Bytes) : World where
  time := 0
  memFree := 2 ^ 30
  memFreeDropped := 2 ^ 30
  diskTotal := 2 ^ 40
  diskAvailable := 2 ^ 40
  mountFree := fun _ => 2 ^ 40
  mountExists := fun _ => true
  defaultRouteIp := str "10.0.0.1"
  validIp := fun _ => true
  multicastError := fun _ => none
  networkClientError := fun _ => none
  isDownloading := fun _ => false
  isUploading := fun _ => false
  upload := true
  defineDomain := true
  createDomain := true
  destroyDomain := true
  undefineDomain := true
  wakeupDomain := true
  rebootDomain := true
  resetDomain := true
  defineNwfilter := true
  setUserPassword := none
  domainLocalIp := str "192.168.122.2"
  domainLog := fun _ => .ok []
  diskVirtualSize := 0
  uninitialised := 0
  newTaskId := taskId
  newPassword := str "password"
  newSystemDisk := str "disk_" ++ taskId ++ str ".qcow2"
  newDataDisk := str "data_" ++ taskId ++ str ".qcow2"
  newSnapshotFile := str "snap_" ++ taskId ++ str ".qcow2"

/-- The parameters of a small task. -/
def smallTask (sshPort vncPort gpuCount : String) : Json :=
  .object ([("image_name", "a.qcow2"), ("ssh_port", sshPort), ("vnc_port", vncPort), ("cpu_cores", "2"),
    ("mem_size", "1"), ("gpu_count", gpuCount), ("disk_size", "1")].map
      (fun member => (str member.1, .string (str member.2))))

namespace Host

/-- A task is created and powered off. -/
def poweredOff (taskId : Bytes) : List (World × HostEvent) :=
  [.fileAppears (str "/data/a.qcow2") [],
    .create (str "wallet") (some (smallTask "20001" "5901" "0")) 100 .walletRenter,
    .process, .request (str "wallet") ⟨taskId, .poweroff⟩, .process].map (fun event => (.calm taskId, event))

/-- The request for one more G on the data disk. -/
def growData (taskId : Bytes) : TaskRequest :=
  ⟨taskId, .resizeDisk (.object [(str "disk", .string (str "vdb")), (str "size", .int 1)])⟩

end Host

namespace TaskThread

/-- The next event is taken off the queue and worked off in so many
stages. -/
def workOff (w : World) (stages : Nat) : List ThreadEvent := .take :: List.replicate stages (.work w)

def ofNode (w : World) (event : HostEvent) : ThreadEvent := .node (w, event)

/-- A task is created and gets its address. -/
def created (taskId : Bytes) : List ThreadEvent :=
  ofNode (.calm taskId) (.fileAppears (str "/data/a.qcow2") []) ::
    ofNode (.calm taskId) (.create (str "wallet") (some (smallTask "20001" "5901" "0")) 100 .walletRenter) ::
      workOff (.calm taskId) 2

/-- A task is created and powered off. -/
def poweredOff (taskId : Bytes) : List ThreadEvent :=
  created taskId ++ ofNode (.calm taskId) (.request (str "wallet") ⟨taskId, .poweroff⟩) :: workOff (.calm taskId) 1

/-- The disk of a task is being worked on, and its domain does not run. -/
def TouchesIn (state : DomainState) (taskId : Bytes) (t : TaskThread) : Prop :=
  t.ongoing.any (fun ongoing => ongoing.event.taskId = taskId ∧ ongoing.event.job.touchesDisk) ∧
    t.host.getDomainStatus taskId = state

instance (state : DomainState) (taskId : Bytes) (t : TaskThread) : Decidable (TouchesIn state taskId t) :=
  inferInstanceAs (Decidable (_ ∧ _))

/-- A disk grows, and a start of the task that is asked for meanwhile
waits. -/
theorem disk_grows_shut_off : ∃ trace t, Run (step .small) DisksAlone (idle Host.empty) trace t ∧
    TouchesIn .shutoff (str "task") t ∧ t.host.events = [⟨str "task", .startTask⟩] ∧ DisksTouchedShutOff t := by
  have facts : (runAll (guarded (step .small) (fun t event => decide (DisksAlone t event))) (idle Host.empty)
      (poweredOff (str "task") ++ [ofNode (.calm (str "task"))
        (.request (str "wallet") (Host.growData (str "task"))), .take,
        ofNode (.calm (str "task")) (.request (str "wallet") ⟨str "task", .start⟩)])).any
      (fun t => TouchesIn .shutoff (str "task") t ∧ t.host.events = [⟨str "task", .startTask⟩]) = true := by
        decide +kernel
  obtain ⟨t, ran, holds⟩ := (Option.any_eq_true _ _).mp facts
  obtain ⟨touches, waits⟩ := of_decide_eq_true holds
  have run := Run.of_guarded (fun t event => of_decide_eq_true) _ .start ran
  exact ⟨_, t, run, touches, waits, disks_touched_shut_off run⟩

theorem TouchesIn.running {taskId : Bytes} {t : TaskThread} (touched : TouchesIn .running taskId t) :
    ¬ DisksTouchedShutOff t := by
  obtain ⟨busy, running⟩ := touched
  obtain ⟨ongoing, present, about⟩ := (Option.any_eq_true _ _).mp busy
  obtain ⟨own, touches⟩ := of_decide_eq_true about
  intro shutOff
  have down := shutOff ongoing present touches
  obtain ⟨domain, found, up⟩ := Host.status_some running (by decide)
  rw [own] at down
  exact absurd (up.symm.trans (down domain found)) (by decide)

/-- The disk is to grow while the start of the task waits: the domain runs
when its image is resized. -/
theorem disk_grows_running : ∃ trace t, Reaches (step .small) (idle Host.empty) trace t ∧
    ¬ DisksTouchedShutOff t := by
  have facts : (runAll (step .small) (idle Host.empty) (poweredOff (str "task") ++
      [ofNode (.calm (str "task")) (.request (str "wallet") ⟨str "task", .start⟩),
        ofNode (.calm (str "task")) (.request (str "wallet") (Host.growData (str "task")))] ++
      workOff (.calm (str "task")) 1 ++ [.take])).any (fun t => TouchesIn .running (str "task") t) =
        true := by decide +kernel
  obtain ⟨t, ran, touched⟩ := (Option.any_eq_true _ _).mp facts
  exact ⟨_, t, Reaches.of_runAll _ .start ran, (of_decide_eq_true touched).running⟩

/-- The disk is to grow while the event thread sleeps between the halves of
a forced reboot: no event waits, and the domain runs again when its image is
resized. -/
theorem disk_grows_rebooted : ∃ trace t, Reaches (step .small) (idle Host.empty) trace t ∧
    ¬ DisksTouchedShutOff t := by
  have facts : (runAll (step .small) (idle Host.empty) (created (str "task") ++
      ofNode (.calm (str "task")) (.request (str "wallet") ⟨str "task", .restart true⟩) :: workOff
        (.calm (str "task")) 1 ++
      [ofNode (.calm (str "task")) (.request (str "wallet") (Host.growData (str "task"))),
        .work (.calm (str "task")),
        .take])).any (fun t => TouchesIn .running (str "task") t) = true := by decide +kernel
  obtain ⟨t, ran, touched⟩ := (Option.any_eq_true _ _).mp facts
  exact ⟨_, t, Reaches.of_runAll _ .start ran, (of_decide_eq_true touched).running⟩

end TaskThread

end DbcNode
