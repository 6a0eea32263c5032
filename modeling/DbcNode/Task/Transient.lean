import DbcNode.Task.RunningSet

namespace DbcNode.Host

/-- An event waits for every task whose status is still to be ended by
one. -/
def Awaited (h : Host) : Prop := ∀ taskId status, taskStatusOf taskId h = some status → status.transient →
  ∃ event ∈ h.events, event.taskId = taskId ∧ event.job.pending = some status

/-- When nothing waits, no task is on its way anywhere. -/
def NoneStuck (h : Host) : Prop :=
  h.events = [] → ∀ taskId status, taskStatusOf taskId h = some status → status.transient = false

/-- A restart of a task that is marked for it comes while its domain is shut
off or runs, or there is another one after it. -/
def RestartsReady (h : Host) : World × HostEvent → Prop
  | (_, .process) => ∀ event rest, h.events = event :: rest → event.job = .reStartTask →
      taskStatusOf event.taskId h = some .restarting →
      h.getDomainStatus event.taskId = .shutoff ∨ h.getDomainStatus event.taskId = .running ∨
        ∃ later ∈ rest, later.taskId = event.taskId ∧ later.job.pending = some .restarting
  | _ => True

instance (h : Host) : (event : World × HostEvent) → Decidable (RestartsReady h event)
  | (_, .process) => match queue : h.events with
    | [] => isTrue (fun event rest same => by rw [queue] at same; cases same)
    | first :: later =>
        decidable_of_iff (first.job = .reStartTask → taskStatusOf first.taskId h = some .restarting →
            h.getDomainStatus first.taskId = .shutoff ∨ h.getDomainStatus first.taskId = .running ∨
              ∃ other ∈ later, other.taskId = first.taskId ∧ other.job.pending = some .restarting)
          ⟨fun ready event rest same => by rw [queue] at same; cases same; exact ready,
            fun ready => ready first later queue⟩
  | (_, .request _ _) | (_, .create _ _ _ _) | (_, .deleteImage _) | (_, .close _) | (_, .destroy _)
  | (_, .uploaded _ _) | (_, .domainChanges _ _) | (_, .fileAppears _ _) => isTrue trivial

theorem Awaited.noneStuck {h : Host} (awaited : Awaited h) : NoneStuck h := by
  intro done taskId status found
  by_contra stuck
  obtain ⟨event, member, _⟩ := awaited taskId status found (Bool.not_eq_false _ |>.mp stuck)
  rw [done] at member
  cases member

/-- What is left of the status that an event ends. -/
theorem Ended.status {w : World} {taskId : Bytes} {h : Host} {job : TaskJob} {before after : Record}
    (ended : Ended w taskId h job before after) {status : TaskStatus}
    (found : after.1.map TaskInfo.taskStatus = some status) (transient : status.transient) :
    before.1.map TaskInfo.taskStatus = some status ∧ (job.pending = some status → job = .reStartTask ∧
      h.getDomainStatus taskId ≠ .shutoff ∧ h.getDomainStatus taskId ≠ .running) := by
  have settled : ∀ {info other : TaskInfo} {pending end_ : TaskStatus}, other.taskStatus = info.taskStatus →
      job.pending = some pending → end_.transient = false → (other.settled pending end_).taskStatus = status →
      info.taskStatus = status ∧ job.pending ≠ some status := by
    intro info other pending end_ same waits stable now
    unfold TaskInfo.settled at now
    split at now
    · have : end_ = status := now
      rw [this, transient] at stable
      cases stable
    · rename_i different
      refine ⟨same.symm.trans now, fun other => different ?_⟩
      rw [now]
      exact Option.some.inj (other.symm.trans waits)
  cases ended with
  | unknown stored => cases found
  | plain record none => exact ⟨found, fun waits => (by rw [none] at waits; cases waits)⟩
  | settled info stored waits stable =>
    obtain ⟨same, other⟩ := settled rfl waits stable (Option.some.inj found)
    exact ⟨congrArg some same, fun waits => (other waits).elim⟩
  | created info stored plain opens =>
    have login : (withLogin w info).taskStatus = info.taskStatus := by
      unfold withLogin
      split <;> rfl
    obtain ⟨same, other⟩ := settled login rfl rfl (Option.some.inj found)
    exact ⟨congrArg some same, fun waits => (other waits).elim⟩
  | stopped info stored root waits =>
    obtain ⟨same, other⟩ := settled rfl waits rfl (Option.some.inj found)
    exact ⟨congrArg some same, fun waits => (other waits).elim⟩
  | deleted record => cases found
  | lost record up busy => exact ⟨found, fun _ => ⟨rfl, up, busy⟩⟩

namespace Awaited
variable {hw : Hardware} {w : World} {parts : Set Part} {h k : Host}

theorem keep (awaited : Awaited h) (events : h.events <+: k.events) (statuses : ∀ taskId status,
    taskStatusOf taskId k = some status → status.transient → taskStatusOf taskId h = some status) : Awaited k := by
  intro taskId status found transient
  obtain ⟨event, member, own⟩ := awaited taskId status (statuses taskId status found transient) transient
  exact ⟨event, events.subset member, own⟩

theorem frame (awaited : Awaited h) (only : Only parts h k) (events : .events ∉ parts)
    (infos : ∀ taskId, .info taskId ∉ parts) : Awaited k := by
  refine awaited.keep (only.events events ▸ List.prefix_rfl) (fun taskId status found _ => ?_)
  rwa [taskStatusOf_eq (only.record taskId (infos taskId))] at found

/-- One task gets a status, and its event is put at the end of the queue. -/
theorem queue (awaited : Awaited h) {taskId : Bytes} {job : TaskJob}
    (events : k.events = h.events ++ [⟨taskId, job⟩])
    (others : ∀ other, other ≠ taskId → recordOf other k = recordOf other h)
    (own : ∀ status, taskStatusOf taskId k = some status → job.pending = some status) : Awaited k := by
  intro other status found transient
  rw [events]
  by_cases same : other = taskId
  · subst same
    exact ⟨⟨other, job⟩, List.mem_append_right _ (List.mem_singleton.mpr rfl), rfl, own status found⟩
  · rw [taskStatusOf_eq (others other same)] at found
    obtain ⟨event, member, waits⟩ := awaited other status found transient
    exact ⟨event, List.mem_append_left _ member, waits⟩

theorem request (awaited : Awaited h) {wallet : Bytes} {request : TaskRequest}
    (requested : Requested w wallet request h k) :
    Awaited k := by
  cases requested with
  | edited edits events _ =>
    refine awaited.keep events (fun taskId status found _ => ?_)
    rwa [edits.taskStatusOf taskId] at found
  | waits pending events others own =>
    refine awaited.queue events others (fun status found => ?_)
    have record := congrArg (fun record : Record => record.1.map TaskInfo.taskStatus) own
    change taskStatusOf request.taskId k = _ at record
    rw [record, Option.map_map] at found
    obtain ⟨info, _, rfl⟩ := Option.map_eq_some_iff.mp found
    exact pending
  | listed asked events records =>
    refine awaited.keep (events ▸ List.prefix_rfl) (fun taskId status found transient => ?_)
    have record := congrArg (fun record : Record => record.1.map TaskInfo.taskStatus) (records taskId)
    change taskStatusOf taskId k = _ at record
    rw [record] at found
    split at found
    · rw [queriedRecord, Option.map_map] at found
      obtain ⟨info, known, rfl⟩ := Option.map_eq_some_iff.mp found
      rw [taskStatusOf, known]
      exact congrArg some (queriedStatus_same transient).symm
    · exact found
  | @passwd doc asked allowed changed =>
    subst changed
    have events := (setInfo_only request.taskId h (passwdChange doc)).events (by simp)
    refine awaited.keep (events ▸ List.prefix_rfl) (fun taskId status found _ => ?_)
    rwa [taskStatusOf_of_label (setInfo_label (passwdChange_label _) request.taskId taskId h)] at found

theorem process (awaited : Awaited h) (ready : RestartsReady h (w, .process))
    (ran : h.step hw (w, .process) = some k) :
    Awaited k := by
  obtain ⟨event, rest, l, queue, worked, rfl⟩ := step_processed ran
  have only := processJob_confined w event.taskId event.job { h with events := rest }
  rw [worked] at only
  have ended := Ended.processJob worked
  have events : l.events = rest := Only.events only (events_notMem_jobParts event.taskId event.job)
  intro taskId status found transient
  change ∃ event ∈ l.events, _
  rw [events]
  by_cases own : taskId = event.taskId
  · subst own
    obtain ⟨before, lost⟩ := ended.status found transient
    obtain ⟨waiting, member, same, waits⟩ := awaited event.taskId status before transient
    rw [queue] at member
    rcases List.mem_cons.mp member with first | later
    · subst first
      obtain ⟨restart, up, busy⟩ := lost waits
      rw [restart] at waits
      cases Option.some.inj waits
      rcases ready _ rest queue restart before with shutOff | running | ⟨later, inside, of⟩
      · exact (up shutOff).elim
      · exact (busy running).elim
      · exact ⟨later, inside, of⟩
    · exact ⟨waiting, later, same, waits⟩
  · have same : recordOf taskId l = recordOf taskId h :=
      Only.record only taskId ((jobParts_within event.taskId event.job).other rfl own)
    have before : taskStatusOf taskId h = some status := (taskStatusOf_eq same).symm.trans found
    obtain ⟨waiting, member, named, waits⟩ := awaited taskId status before transient
    rw [queue] at member
    rcases List.mem_cons.mp member with rfl | later
    · exact (own named.symm).elim
    · exact ⟨waiting, later, named, waits⟩

theorem step (awaited : Awaited h) {event : World × HostEvent} (ready : RestartsReady h event)
    (ran : h.step hw event = some k) : Awaited k := by
  obtain ⟨w, event⟩ := event
  cases event with
  | create wallet additional rentEnd role =>
    rcases step_create ran with rfl | ⟨params, root, _, rfl⟩
    · exact awaited
    · have only := addTask_only w h wallet rentEnd params root
      refine awaited.queue (addTask_events wallet rentEnd params root)
        (fun other different => only.record other ((createParts_within params.taskId).other rfl different)) ?_
      intro status found
      rw [taskStatusOf, addTask_known] at found
      exact found
  | request wallet request =>
    rw [← step_request ran]
    exact awaited.request Requested.execute
  | deleteImage additional =>
    rw [← survives_some ran]
    exact awaited.frame (deleteImage_confined w additional h) (by simp) (by simp)
  | process => exact awaited.process ready ran
  | close taskId =>
    cases ran
    have only := closeTask_only w taskId h
    refine awaited.keep (only.events (by simp) ▸ List.prefix_rfl) (fun other status found transient => ?_)
    by_cases own : other = taskId
    · subst own
      rcases closeTask_record w other h with same | ⟨_, _, _, changed⟩
      · rwa [taskStatusOf_eq same] at found
      · have record := congrArg (fun record : Record => record.1.map TaskInfo.taskStatus) changed
        change taskStatusOf other _ = _ at record
        rw [record, Option.map_map] at found
        obtain ⟨info, _, rfl⟩ := Option.map_eq_some_iff.mp found
        cases transient
    · rwa [taskStatusOf_eq (only.record other (by simpa using own))] at found
  | destroy taskId =>
    cases ran
    have only := destroyTask_only w taskId h
    refine awaited.keep (only.events (by simp [destroyParts, recordParts]) ▸ List.prefix_rfl)
      (fun other status found transient => ?_)
    by_cases own : other = taskId
    · subst own
      rw [taskStatusOf, destroyTask_unknown] at found
      cases found
    · rwa [taskStatusOf_eq (only.record other ((destroyParts_within taskId).other rfl own))] at found
  | uploaded taskId snapshotName =>
    rw [← survives_some ran]
    exact awaited.frame (setSnapshotStatus_confined taskId snapshotName .none h) (by simp) (by simp)
  | domainChanges taskId state => exact awaited.frame (domainChanges_only ran) (by simp) (by simp)
  | fileAppears path backing => exact awaited.frame (fileAppears_only ran) (by simp) (by simp)

theorem empty : Awaited Host.empty := fun _ _ found => (by cases found)

end Awaited

end DbcNode.Host
