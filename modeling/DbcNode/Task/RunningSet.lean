import DbcNode.Task.Edits
import DbcNode.Task.ShutOff

namespace DbcNode.Host

/-- Every record is under the name of its task. -/
def Named (h : Host) : Prop := ∀ taskId info, h.taskInfos.find taskId = some info → info.taskId = taskId

/-- All that was asked of a task is done. -/
def Settled (taskId : Bytes) (h : Host) : Prop := ∀ event ∈ h.events, event.taskId ≠ taskId

/-- The tasks that are recorded as running are those that run, apart from
those with an operation that is not completed. -/
def RunningExact (h : Host) : Prop :=
  ∀ taskId, Settled taskId h → (taskId ∈ h.runningTasks ↔ taskStatusOf taskId h = some .running)

/-- A query takes a task for running that was not, or the other way. -/
def Contradicted (status : TaskStatus) (state : DomainState) : Prop :=
  (status = .running ∧ (state = .shutoff ∨ state = .shutdown ∨ state = .pmsuspended)) ∨
    ((status = .shutoff ∨ status = .pmSuspend) ∧ (state = .running ∨ state = .paused ∨ state = .blocked))

/-- A task that nothing waits for is not found to run or to have stopped by
a query, it is not closed while it runs, and it is not deleted by the
pruning while it runs. -/
def RunningKept (h : Host) : World × HostEvent → Prop
  | (_, .request wallet ⟨taskId, .list⟩) => ∀ other ∈ h.queriedIds wallet taskId, Settled other h →
      ∀ status ∈ taskStatusOf other h, ¬ Contradicted status (h.getDomainStatus other)
  | (w, .close taskId) => Settled taskId h → taskStatusOf taskId h = some .running →
      h.getDomainStatus taskId = .shutoff ∨ h.isExistDomain taskId = false ∨ w.destroyDomain = false
  | (_, .destroy taskId) => Settled taskId h → taskStatusOf taskId h ≠ some .running
  | _ => True

instance (taskId : Bytes) (h : Host) : Decidable (Settled taskId h) :=
  inferInstanceAs (Decidable (∀ event ∈ h.events, event.taskId ≠ taskId))

instance (status : TaskStatus) (state : DomainState) : Decidable (Contradicted status state) :=
  inferInstanceAs (Decidable (_ ∧ (_ ∨ _ ∨ _) ∨ (_ ∨ _) ∧ (_ ∨ _ ∨ _)))

instance (h : Host) : (event : World × HostEvent) → Decidable (RunningKept h event)
  | (_, .request wallet ⟨taskId, operation⟩) => match operation with
    | .list => inferInstanceAs (Decidable (∀ other ∈ h.queriedIds wallet taskId, Settled other h →
        ∀ status ∈ taskStatusOf other h, ¬ Contradicted status (h.getDomainStatus other)))
    | .modify _ | .start | .shutdown | .poweroff | .stop | .restart _ | .reset | .delete | .passwd _ | .logs _ _
    | .listDisk | .resizeDisk _ | .addDisk _ | .deleteDisk _ | .listSnapshot _ | .createSnapshot _
    | .deleteSnapshot _ => isTrue trivial
  | (w, .close taskId) => inferInstanceAs (Decidable (Settled taskId h → taskStatusOf taskId h = some .running →
      h.getDomainStatus taskId = .shutoff ∨ h.isExistDomain taskId = false ∨ w.destroyDomain = false))
  | (_, .destroy taskId) => inferInstanceAs (Decidable (Settled taskId h → taskStatusOf taskId h ≠ some .running))
  | (_, .create _ _ _ _) | (_, .deleteImage _) | (_, .process) | (_, .uploaded _ _) | (_, .domainChanges _ _)
  | (_, .fileAppears _ _) => isTrue trivial

theorem queriedStatus_running {status : TaskStatus} {state : DomainState} (agree : ¬ Contradicted status state) :
    queriedStatus status state = .running ↔ status = .running := by
  unfold Contradicted at agree
  cases status <;> cases state <;> simp [queriedStatus] at agree ⊢

namespace Named
variable {hw : Hardware} {w : World} {parts : Set Part} {taskId : Bytes} {h k : Host}

/-- The name in a record stays. -/
theorem keep (named : Named h) (same : ∀ taskId, ((k.taskInfos.find taskId).map (·.taskId)) =
    (h.taskInfos.find taskId).map (·.taskId)) : Named k := by
  intro taskId info found
  have before := same taskId
  rw [found] at before
  obtain ⟨old, present, name⟩ := Option.map_eq_some_iff.mp before.symm
  exact name.symm.trans (named taskId old present)

theorem of_label (named : Named h) (label : ∀ taskId, (k.taskInfos.find taskId).map TaskInfo.label =
    (h.taskInfos.find taskId).map TaskInfo.label) : Named k := by
  refine named.keep (fun taskId => ?_)
  have same := congrArg (Option.map Prod.fst) (label taskId)
  rwa [Option.map_map, Option.map_map] at same

/-- A change of one record. -/
theorem change (named : Named h) (only : Only parts h k) (taskId : Bytes) (within : Within taskId parts)
    (own : ∀ info ∈ (recordOf taskId k).1, info.taskId = taskId) : Named k := by
  intro other info found
  by_cases same : other = taskId
  · subst same
    exact own info found
  · rw [only.info (within.other rfl same)] at found
    exact named other info found

theorem ended {job : TaskJob} {before after : Record} (ended : Ended w taskId h job before after)
    (named : ∀ info ∈ before.1, info.taskId = taskId) : ∀ info ∈ after.1, info.taskId = taskId := by
  have settled : ∀ (info : TaskInfo) pending status, (info.settled pending status).taskId = info.taskId := by
    intro info pending status
    unfold TaskInfo.settled
    split <;> rfl
  cases ended with
  | unknown stored => exact named
  | plain record none => exact named
  | settled info stored waits stable =>
    rintro _ ⟨⟩
    rw [settled]
    exact named info rfl
  | created info stored plain opens =>
    rintro _ ⟨⟩
    rw [settled]
    unfold withLogin
    split <;> exact named info rfl
  | stopped info stored root waits =>
    rintro _ ⟨⟩
    exact (settled info _ _).trans (named info rfl)
  | deleted record => simp
  | lost record up busy => exact named

theorem create (named : Named h) (wallet root : Bytes) (rentEnd : Int) (params : CreateTaskParams) :
    Named (h.addTask w wallet rentEnd params root) := by
  refine named.change (addTask_only w h wallet rentEnd params root) _ (createParts_within params.taskId)
    (fun info found => ?_)
  have known := addTask_known (w := w) (h := h) wallet rentEnd params root
  have same := Option.some.inj (known.symm.trans found)
  rw [← same]
  rfl

theorem request (named : Named h) {wallet : Bytes} {request : TaskRequest}
    (requested : Requested w wallet request h k) :
    Named k := by
  cases requested with
  | edited edits events _ => exact named.of_label edits.label
  | waits pending events others own =>
    refine named.keep (fun taskId => ?_)
    by_cases same : taskId = request.taskId
    · have changed := congrArg Prod.fst own
      rw [same]
      change Option.map _ (recordOf request.taskId k).1 = _
      rw [changed, Option.map_map]
      rfl
    · exact congrArg (fun record : Record => record.1.map (fun info => info.taskId)) (others taskId same)
  | listed asked events records =>
    refine named.keep (fun taskId => ?_)
    have record := congrArg (fun record : Record => record.1.map (fun info => info.taskId)) (records taskId)
    refine record.trans ?_
    split
    · rw [queriedRecord, Option.map_map]
      rfl
    · rfl
  | passwd asked allowed changed =>
    subst changed
    exact named.of_label (fun taskId => setInfo_label (passwdChange_label _) request.taskId taskId h)

theorem process (named : Named h) (ran : h.step hw (w, .process) = some k) : Named k := by
  obtain ⟨event, rest, l, queue, worked, rfl⟩ := step_processed ran
  have only := processJob_confined w event.taskId event.job { h with events := rest }
  rw [worked] at only
  have before : Named { h with events := rest } := named
  have after : Named l := before.change only _ (jobParts_within event.taskId event.job)
    (ended (Ended.processJob worked) (fun info found => named event.taskId info found))
  exact after

theorem step (named : Named h) {event : World × HostEvent} (ran : h.step hw event = some k) : Named k := by
  obtain ⟨w, event⟩ := event
  cases event with
  | create wallet additional rentEnd role =>
    rcases step_create ran with rfl | ⟨params, root, _, rfl⟩
    · exact named
    · exact named.create wallet root rentEnd params
  | request wallet request =>
    rw [← step_request ran]
    exact named.request Requested.execute
  | deleteImage additional =>
    rw [← survives_some ran]
    exact named.keep
      (fun taskId => congrArg (Option.map _) (Only.info (deleteImage_confined w additional h) (by simp)))
  | process => exact named.process ran
  | close taskId =>
    cases ran
    refine named.change (closeTask_only w taskId h) _ (closeParts_within taskId) ?_
    rcases closeTask_record w taskId h with same | ⟨_, _, _, changed⟩
    · rw [same]
      exact fun info found => named taskId info found
    · rw [changed]
      intro info found
      obtain ⟨old, present, rfl⟩ := Option.map_eq_some_iff.mp found
      exact named taskId old present
  | destroy taskId =>
    cases ran
    refine named.change (destroyTask_only w taskId h) _ (destroyParts_within taskId) (fun info found => ?_)
    have gone := destroyTask_unknown w taskId h
    rw [show (recordOf taskId (h.destroyTask w taskId)).1 = none from gone] at found
    cases found
  | uploaded taskId snapshotName =>
    rw [← survives_some ran]
    exact named.keep
      (fun other => congrArg (Option.map _) (Only.info (setSnapshotStatus_confined taskId snapshotName .none h)
      (by simp)))
  | domainChanges taskId state =>
    exact named.keep (fun other => congrArg (Option.map _) ((domainChanges_only ran).info (by simp)))
  | fileAppears path backing =>
    exact named.keep (fun other => congrArg (Option.map _) ((fileAppears_only ran).info (by simp)))

theorem empty : Named Host.empty := fun _ _ found => (by cases found)

end Named

section Exact
variable {hw : Hardware} {w : World} {parts : Set Part} {h k : Host}

theorem Settled.before {taskId : Bytes} (settled : Settled taskId k) (events : h.events <+: k.events) :
    Settled taskId h :=
  fun event member => settled event (events.subset member)

/-- The tasks that are settled keep their statuses as far as they run. -/
theorem RunningExact.keep (exact : RunningExact h) (running : k.runningTasks = h.runningTasks)
    (events : h.events <+: k.events) (statuses : ∀ taskId, Settled taskId k → Settled taskId h →
      (taskStatusOf taskId k = some .running ↔ taskStatusOf taskId h = some .running)) : RunningExact k := by
  intro taskId settled
  have before := settled.before events
  rw [running, statuses taskId settled before]
  exact exact taskId before

/-- A step that touches no record. -/
theorem RunningExact.frame (exact : RunningExact h) (only : Only parts h k) (running : .running ∉ parts)
    (events : .events ∉ parts) (infos : ∀ taskId, .info taskId ∉ parts) : RunningExact k := by
  refine exact.keep (only .running running) (only.events events ▸ List.prefix_rfl) (fun taskId _ _ => ?_)
  rw [taskStatusOf_eq (only.record taskId (infos taskId))]

/-- What is recorded when an event has been worked off. -/
theorem updateRunningTasks_exact (named : Named h) (taskId : Bytes) :
    taskId ∈ h.updateRunningTasks.runningTasks ↔ taskStatusOf taskId h = some .running := by
  change taskId ∈ ((h.taskInfos.values.filter _).map _) ↔ _
  rw [List.mem_map]
  constructor
  · rintro ⟨info, member, rfl⟩
    obtain ⟨listed, running⟩ := List.mem_filter.mp member
    obtain ⟨entry, inside, rfl⟩ := List.mem_map.mp listed
    have found := OrdMap.find_eq_some.mpr (show (entry.1, entry.2) ∈ h.taskInfos.entries from inside)
    rw [named entry.1 entry.2 found, taskStatusOf, found]
    exact congrArg some (of_decide_eq_true running)
  · intro running
    obtain ⟨info, found, status⟩ := Option.map_eq_some_iff.mp running
    refine ⟨info, List.mem_filter.mpr ⟨?_, decide_eq_true status⟩, named taskId info found⟩
    exact List.mem_map.mpr ⟨(taskId, info), OrdMap.find_eq_some.mp found, rfl⟩

theorem RunningExact.request (exact : RunningExact h) {wallet : Bytes} {request : TaskRequest}
    (kept : RunningKept h (w, .request wallet request)) (running : k.runningTasks = h.runningTasks)
    (requested : Requested w wallet request h k) : RunningExact k := by
  cases requested with
  | edited edits events _ =>
    refine exact.keep running events (fun taskId _ _ => ?_)
    rw [edits.taskStatusOf taskId]
  | waits pending events others own =>
    refine exact.keep running (events ▸ List.prefix_append _ _) (fun taskId settled _ => ?_)
    have different : taskId ≠ request.taskId := fun same =>
      settled ⟨request.taskId, _⟩ (events ▸ List.mem_append_right _ (List.mem_singleton.mpr rfl)) same.symm
    rw [taskStatusOf_eq (others taskId different)]
  | listed asked events records =>
    refine exact.keep running (events ▸ List.prefix_rfl) (fun taskId settled before => ?_)
    have record := congrArg (fun record : Record => record.1.map TaskInfo.taskStatus) (records taskId)
    change taskStatusOf taskId k = _ at record
    rw [record]
    split
    · rename_i queried
      obtain ⟨name, operation⟩ := request
      cases asked
      rw [queriedRecord, Option.map_map]
      cases known : h.taskInfos.find taskId with
      | none => simp [taskStatusOf, known]
      | some info =>
        have status : taskStatusOf taskId h = some info.taskStatus := by rw [taskStatusOf, known]; rfl
        rw [status, Option.map_some, Option.some_inj, Option.some_inj]
        exact queriedStatus_running (kept taskId queried before info.taskStatus status)
    · rfl
  | @passwd doc asked allowed changed =>
    subst changed
    have events := (setInfo_only request.taskId h (passwdChange doc)).events (by simp)
    refine exact.keep running (events ▸ List.prefix_rfl) (fun taskId _ _ => ?_)
    rw [taskStatusOf_of_label (setInfo_label (passwdChange_label _) request.taskId taskId h)]

theorem RunningExact.closeTask (exact : RunningExact h) {taskId : Bytes} (kept : RunningKept h (w, .close taskId)) :
    RunningExact (h.closeTask w taskId) := by
  have only := closeTask_only w taskId h
  refine exact.keep (only .running (by simp)) (only.events (by simp) ▸ List.prefix_rfl) (fun other _ settled => ?_)
  by_cases own : other = taskId
  · subst own
    rcases closeTask_record w other h with same | ⟨up, exist, stopped, changed⟩
    · rw [taskStatusOf_eq same]
    · have closed : taskStatusOf other (h.closeTask w other) = (taskStatusOf other h).map (fun _ => .shutoff) := by
        have record := congrArg (fun record : Record => record.1.map TaskInfo.taskStatus) changed
        refine record.trans ?_
        rw [Option.map_map, taskStatusOf, Option.map_map]
        rfl
      rw [closed]
      refine ⟨fun running => ?_, fun running => ?_⟩
      · obtain ⟨status, _, same⟩ := Option.map_eq_some_iff.mp running
        cases same
      · rcases kept settled running with shutOff | missing | refused
        · exact (up shutOff).elim
        · rw [missing] at exist
          cases exist
        · rw [refused] at stopped
          cases stopped
  · rw [taskStatusOf_eq (only.record other (by simpa using own))]

theorem RunningExact.destroyTask (exact : RunningExact h) {taskId : Bytes}
    (kept : RunningKept h (w, .destroy taskId)) :
    RunningExact (h.destroyTask w taskId) := by
  have only := destroyTask_only w taskId h
  have within := destroyParts_within taskId
  refine exact.keep (only .running (by simp [destroyParts, recordParts]))
    (only.events (by simp [destroyParts, recordParts]) ▸ List.prefix_rfl) (fun other _ settled => ?_)
  by_cases own : other = taskId
  · subst own
    have gone : taskStatusOf other (h.destroyTask w other) = none := by
      rw [taskStatusOf, destroyTask_unknown]
      rfl
    rw [gone]
    exact ⟨fun running => (by cases running), fun running => (kept settled running).elim⟩
  · rw [taskStatusOf_eq (only.record other (within.other rfl own))]

theorem RunningExact.create (exact : RunningExact h) (wallet root : Bytes) (rentEnd : Int)
    (params : CreateTaskParams) :
    RunningExact (h.addTask w wallet rentEnd params root) := by
  have only := addTask_only w h wallet rentEnd params root
  have events := addTask_events (w := w) (h := h) wallet rentEnd params root
  refine exact.keep (only .running (by simp [createParts])) (events ▸ List.prefix_append _ _)
    (fun other settled _ => ?_)
  have different : other ≠ params.taskId := fun same =>
    settled ⟨params.taskId, _⟩ (events ▸ List.mem_append_right _ (List.mem_singleton.mpr rfl)) same.symm
  rw [taskStatusOf_eq (only.record other ((createParts_within params.taskId).other rfl different))]

theorem RunningExact.step (exact : RunningExact h) (named : Named h) {event : World × HostEvent}
    (kept : RunningKept h event) (ran : h.step hw event = some k) : RunningExact k := by
  have namedAfter := named.step ran
  obtain ⟨w, event⟩ := event
  cases event with
  | create wallet additional rentEnd role =>
    rcases step_create ran with rfl | ⟨params, root, _, rfl⟩
    · exact exact
    · exact exact.create wallet root rentEnd params
  | request wallet request =>
    rw [← step_request ran]
    have only := execute_confined hw w wallet request h
    exact exact.request kept (only .running (notMem_requestParts rfl request)) Requested.execute
  | deleteImage additional =>
    rw [← survives_some ran]
    exact exact.frame (deleteImage_confined w additional h) (by simp) (by simp) (by simp)
  | process =>
    obtain ⟨event, rest, l, _, _, rfl⟩ := step_processed ran
    exact fun taskId _ => updateRunningTasks_exact namedAfter taskId
  | close taskId =>
    cases ran
    exact exact.closeTask kept
  | destroy taskId =>
    cases ran
    exact exact.destroyTask kept
  | uploaded taskId snapshotName =>
    rw [← survives_some ran]
    exact exact.frame (setSnapshotStatus_confined taskId snapshotName .none h) (by simp) (by simp) (by simp)
  | domainChanges taskId state => exact exact.frame (domainChanges_only ran) (by simp) (by simp) (by simp)
  | fileAppears path backing => exact exact.frame (fileAppears_only ran) (by simp) (by simp) (by simp)

end Exact

/-- Where no query, close or deletion changes which tasks run without an
event, the tasks that are recorded as running are those that run, once
nothing waits for them in the queue. -/
theorem running_tasks_exact {hw : Hardware} {trace : List (World × HostEvent)} {h : Host}
    (run : Run (step hw) RunningKept Host.empty trace h) : RunningExact h := by
  have first : Named Host.empty ∧ RunningExact Host.empty :=
    ⟨.empty, fun taskId _ => ⟨fun member => (by cases member), fun running => (by cases running)⟩⟩
  exact (run.invariant (P := fun h => Named h ∧ RunningExact h) first
    (fun both kept ran => ⟨both.1.step ran, both.2.step both.1 kept ran⟩)).2

/-- A small task is created and runs. -/
def oneRuns (taskId : Bytes) : List (World × HostEvent) :=
  [.fileAppears (str "/data/a.qcow2") [],
    .create (str "wallet") (some (smallTask "20001" "5901" "0")) 100 .walletRenter,
    .process].map (fun event => (.calm taskId, event))

theorem running_after_list : ∃ trace h, Run (step .small) RunningKept Host.empty trace h ∧
    h.runningTasks = [str "task"] ∧ RunningExact h := by
  have facts : (runAll (guarded (step .small) (fun h event => decide (RunningKept h event))) Host.empty
      (oneRuns (str "task") ++ [(.calm (str "task"), .request (str "wallet") ⟨[], .list⟩)])).any
      (fun h => h.runningTasks = [str "task"]) = true := by decide +kernel
  obtain ⟨h, ran, holds⟩ := (Option.any_eq_true _ _).mp facts
  have run := Run.of_guarded (fun h event => of_decide_eq_true) _ .start ran
  exact ⟨_, h, run, of_decide_eq_true holds, running_tasks_exact run⟩

/-- A guest is shut down from inside, and a query finds it: the task is
still recorded as running. -/
theorem running_after_shutdown : ∃ trace h, Reaches (step .small) Host.empty trace h ∧ ¬ RunningExact h := by
  have facts : (runAll (step .small) Host.empty (oneRuns (str "task") ++
      [.domainChanges (str "task") .shutoff, .request (str "wallet") ⟨[], .list⟩].map
        (fun event => (.calm (str "task"), event)))).any
      (fun h => h.events = [] ∧ str "task" ∈ h.runningTasks ∧ taskStatusOf (str "task") h = some .shutoff) =
        true := by
    decide +kernel
  obtain ⟨h, ran, holds⟩ := (Option.any_eq_true _ _).mp facts
  obtain ⟨done, listed, status⟩ := of_decide_eq_true holds
  refine ⟨_, h, Reaches.of_runAll _ .start ran, fun exact => ?_⟩
  have settled : Settled (str "task") h := by
    rw [Settled, done]
    exact fun event member => (by cases member)
  rw [(exact (str "task") settled).mp listed] at status
  cases status

end DbcNode.Host
