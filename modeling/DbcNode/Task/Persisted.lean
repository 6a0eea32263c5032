import DbcNode.Lib.Runs
import DbcNode.Task.Edits

namespace DbcNode.Host

/-- The database has what memory has of every task. -/
def AllStored {α : Type} (view : DbTaskInfo → α) (h : Host) : Prop := ∀ taskId, Stored view (recordOf taskId h)

/-- The two steps that write a login into memory alone do not show in a
view. -/
def LoginKept {α : Type} (view : DbTaskInfo → α) (h : Host) : World × HostEvent → Prop
  | (w, .request _ ⟨taskId, .passwd doc⟩) => passwdError w taskId doc h = none →
      ∀ info, h.taskInfos.find taskId = some info →
      view (passwdChange doc info).toDbTaskInfo = view info.toDbTaskInfo
  | (w, .process) => ∀ event rest, h.events = event :: rest → ∀ biosMode, event.job = .createTask biosMode →
      biosMode ≠ str "pxe" → ∀ info, h.taskInfos.find event.taskId = some info →
      Opens w event.taskId info { h with events := rest } →
      view (withLogin w info).toDbTaskInfo = view info.toDbTaskInfo
  | _ => True

/-- A view that does not tell the login. -/
def LoginFree {α : Type} (view : DbTaskInfo → α) : Prop := ∀ db username password,
  view { db with loginUsername := username, loginPassword := password } = view db

theorem LoginFree.kept {α : Type} {view : DbTaskInfo → α} (free : LoginFree view) (h : Host)
    (event : World × HostEvent) :
    LoginKept view h event := by
  unfold LoginKept
  split
  · rename_i w _ taskId doc
    intro _ info _
    unfold passwdChange
    extract_lets changed
    split
    · exact free info.toDbTaskInfo _ _
    · exact free info.toDbTaskInfo info.loginUsername _
  · rename_i w
    intro _ _ _ _ _ _ info _ _
    unfold withLogin
    split
    · exact free info.toDbTaskInfo _ _
    · exact free info.toDbTaskInfo _ info.loginPassword
  · trivial

section Records
variable {α : Type} {view : DbTaskInfo → α} {record : Record}

theorem Stored.of_none (db : Option DbTaskInfo) : Stored view (none, db) := fun _ found => (by cases found)

/-- A change in memory that the view does not tell. -/
theorem Stored.map (stored : Stored view record) (change : TaskInfo → TaskInfo)
    (unseen : ∀ info ∈ record.1, view (change info).toDbTaskInfo = view info.toDbTaskInfo) :
    Stored view (record.1.map change, record.2) := by
  intro changed found
  obtain ⟨info, present, rfl⟩ := Option.map_eq_some_iff.mp found
  rw [unseen info present]
  exact stored info present

theorem Stored.ended {w : World} {taskId : Bytes} {h : Host} {job : TaskJob} {before after : Record}
    (stored : Stored view before) (ended : Ended w taskId h job before after)
    (login : ∀ biosMode info, job = .createTask biosMode → biosMode ≠ str "pxe" → before.1 = some info →
      Opens w taskId info h → view (withLogin w info).toDbTaskInfo =
        view info.toDbTaskInfo) : Stored view after := by
  cases ended with
  | unknown db => exact .of_none db
  | plain record none => exact stored
  | settled info db waits stable =>
    refine stored.map (TaskInfo.settled _ _) (fun other _ => ?_)
    rw [TaskInfo.settled_stored]
  | created info db plain opens =>
    refine stored.map (fun info => (withLogin w info).settled .creating .running) (fun other found => ?_)
    rw [TaskInfo.settled_stored]
    exact login _ _ rfl plain found (Option.some.inj found ▸ opens)
  | stopped info db root waits =>
    intro other found
    cases Option.some.inj found
    rfl
  | deleted record => exact .of_none none
  | lost record up busy => exact stored

end Records

/-- A new task is in memory and in the database. -/
theorem addTask_record (w : World) (h : Host) (wallet : Bytes) (rentEnd : Int) (params : CreateTaskParams)
    (root : Bytes) :
    recordOf params.taskId (h.addTask w wallet rentEnd params root) =
      (some (CreateTaskParams.info params w.time root),
        some (CreateTaskParams.info params w.time root).toDbTaskInfo) := by
  unfold addTask
  rw [(pushTaskEvent_only _ _).record params.taskId (by simp),
    (addRentTask_only params.taskId _ wallet rentEnd).record params.taskId (by simp),
    (addGpus_only params.taskId _ _).record params.taskId (by simp),
      (addDisks_only w _ params).record params.taskId (by simp)]
  exact Prod.ext (OrdMap.find_insert_self _ _ _) (OrdMap.find_insert_self _ _ _)

namespace AllStored
variable {α : Type} {view : DbTaskInfo → α} {hw : Hardware} {w : World} {parts : Set Part} {h k : Host}

theorem frame (stored : AllStored view h) (only : Only parts h k) (outside : ∀ taskId, .info taskId ∉ parts) :
    AllStored view k := fun taskId => only.record taskId (outside taskId) ▸ stored taskId

/-- A change of the record of one task. -/
theorem own (stored : AllStored view h) (taskId : Bytes) (only : Only parts h k) (within : Within taskId parts)
    (own : Stored view (recordOf taskId k)) : AllStored view k := by
  intro other
  by_cases same : other = taskId
  · exact same ▸ own
  · rw [only.record other (within.other rfl same)]
    exact stored other

theorem request (stored : AllStored view h) {wallet : Bytes} {request : TaskRequest}
    (login : LoginKept view h (w, .request wallet request)) (requested : Requested w wallet request h k) :
    AllStored view k := by
  cases requested with
  | edited edits events _ => exact fun taskId => edits.stored view taskId (stored taskId)
  | waits pending events others own =>
    intro taskId
    by_cases same : taskId = request.taskId
    · rw [same, own]
      exact (stored request.taskId).map _ (fun _ _ => rfl)
    · rw [others taskId same]
      exact stored taskId
  | listed asked events records =>
    intro taskId
    rw [records taskId]
    split
    · exact (stored taskId).map _ (fun _ _ => rfl)
    · exact stored taskId
  | @passwd doc asked allowed changed =>
    subst changed
    obtain ⟨taskId, operation⟩ := request
    subst asked
    refine stored.own taskId (setInfo_only taskId h _) (by simp [Within, Part.owner]) ?_
    rw [setInfo_record]
    exact (stored taskId).map _ (login allowed)

theorem process (stored : AllStored view h) (login : LoginKept view h (w, .process))
    (ran : h.step hw (w, .process) = some k) : AllStored view k := by
  obtain ⟨event, rest, l, queue, worked, rfl⟩ := step_processed ran
  have only := processJob_confined w event.taskId event.job { h with events := rest }
  rw [worked] at only
  have before : AllStored view { h with events := rest } := stored
  have after : AllStored view l := by
    refine before.own event.taskId only (jobParts_within event.taskId event.job) ?_
    exact (before event.taskId).ended (Ended.processJob worked)
      (fun biosMode info created plain known opens => login event rest queue biosMode created plain info
        known opens)
  exact after

theorem step (stored : AllStored view h) {event : World × HostEvent} (login : LoginKept view h event)
    (ran : h.step hw event = some k) : AllStored view k := by
  obtain ⟨w, event⟩ := event
  cases event with
  | create wallet additional rentEnd role =>
    rcases step_create ran with rfl | ⟨params, root, _, rfl⟩
    · exact stored
    · refine stored.own params.taskId (addTask_only w h wallet rentEnd params root)
        (createParts_within params.taskId) ?_
      intro info found
      rw [addTask_record] at found ⊢
      cases Option.some.inj found
      rfl
  | request wallet request =>
    rw [← step_request ran]
    exact stored.request login Requested.execute
  | deleteImage additional =>
    rw [← survives_some ran]
    exact stored.frame (deleteImage_confined w additional h) (by simp)
  | process => exact stored.process login ran
  | close taskId =>
    cases ran
    refine stored.own taskId (closeTask_only w taskId h) ?_ ?_
    · simp [Within, Part.owner]
    · rcases closeTask_record w taskId h with same | ⟨_, _, _, changed⟩
      · rw [same]
        exact stored taskId
      · rw [changed]
        exact (stored taskId).map _ (fun _ _ => rfl)
  | destroy taskId =>
    cases ran
    refine stored.own taskId (destroyTask_only w taskId h) (destroyParts_within taskId) ?_
    rw [recordOf, destroyTask_unknown]
    exact .of_none _
  | uploaded taskId snapshotName =>
    rw [← survives_some ran]
    exact stored.frame (setSnapshotStatus_confined taskId snapshotName .none h) (by simp)
  | domainChanges taskId state => exact stored.frame (domainChanges_only ran) (by simp)
  | fileAppears path backing => exact stored.frame (fileAppears_only ran) (by simp)

theorem empty : AllStored view Host.empty := fun _ => .of_none _

end AllStored

/-- All but the login is in the database in every state that is reached. -/
theorem allStored_of_reaches {α : Type} {view : DbTaskInfo → α} (free : LoginFree view) {hw : Hardware}
    {trace : List (World × HostEvent)} {h : Host} (reached : Reaches (step hw) Host.empty trace h) :
    AllStored view h :=
  reached.invariant AllStored.empty (fun stored _ ran => stored.step (free.kept _ _) ran)

end DbcNode.Host
