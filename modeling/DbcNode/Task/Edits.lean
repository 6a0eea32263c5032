import DbcNode.Task.Records

namespace DbcNode

/-- What a modification leaves to a task: its name, the password of its
screen and its status. -/
def TaskInfo.label (info : TaskInfo) : Bytes × Bytes × TaskStatus :=
    (info.taskId, info.vncPassword, info.taskStatus)

namespace Host

/-- The database has what memory has, as far as a view of it tells. -/
def Stored {α : Type} (view : DbTaskInfo → α) (record : Record) : Prop :=
  ∀ info ∈ record.1, record.2.map view = some (view info.toDbTaskInfo)

/-- A change of records that keeps the labels of the tasks, and the database
up to date where it was. -/
structure Edits (h k : Host) : Prop where
  label : ∀ taskId, (k.taskInfos.find taskId).map TaskInfo.label = (h.taskInfos.find taskId).map TaskInfo.label
  stored : ∀ {α : Type} (view : DbTaskInfo → α) taskId, Stored view (recordOf taskId h) →
    Stored view (recordOf taskId k)

theorem taskStatusOf_of_label {taskId : Bytes} {h k : Host}
    (label : (k.taskInfos.find taskId).map TaskInfo.label = (h.taskInfos.find taskId).map TaskInfo.label) :
    taskStatusOf taskId k = taskStatusOf taskId h := by
  have same := congrArg (Option.map (·.2.2)) label
  rwa [Option.map_map, Option.map_map] at same

/-- The labels stay where a setter leaves them alone. -/
theorem setInfo_label {change : TaskInfo → TaskInfo} (label : ∀ info, (change info).label = info.label)
    (taskId other : Bytes) (h : Host) : ((h.setInfo taskId change).taskInfos.find other).map TaskInfo.label =
      (h.taskInfos.find other).map TaskInfo.label := by
  by_cases same : other = taskId
  · subst same
    have changed : (h.setInfo other change).taskInfos.find other = (h.taskInfos.find other).map change :=
      congrArg Prod.fst (setInfo_record change)
    rw [changed, Option.map_map]
    exact congrArg (Option.map · _) (funext label)
  · rw [(setInfo_only taskId h change).info (by simpa using same)]

namespace Edits
variable {parts : Set Part} {taskId : Bytes} {h k l : Host}

theorem refl (h : Host) : Edits h h := ⟨fun _ => rfl, fun _ _ stored => stored⟩

theorem trans (first : Edits h k) (second : Edits k l) : Edits h l :=
  ⟨fun taskId => (second.label taskId).trans (first.label taskId),
    fun view taskId stored => second.stored view taskId (first.stored view taskId stored)⟩

theorem of_record (same : ∀ taskId, recordOf taskId k = recordOf taskId h) : Edits h k :=
  ⟨fun taskId => congrArg (fun record : Record => record.1.map TaskInfo.label) (same taskId),
    fun _ taskId stored => (same taskId).symm ▸ stored⟩

theorem of_only (only : Only parts h k) (outside : ∀ taskId, .info taskId ∉ parts) : Edits h k :=
  of_record (fun taskId => only.record taskId (outside taskId))

theorem taskStatusOf (edits : Edits h k) (taskId : Bytes) : taskStatusOf taskId k = taskStatusOf taskId h :=
  taskStatusOf_of_label (edits.label taskId)

/-- A change of one record. -/
theorem own (only : Only parts h k) (taskId : Bytes) (within : Within taskId parts)
    (label : (k.taskInfos.find taskId).map TaskInfo.label = (h.taskInfos.find taskId).map TaskInfo.label)
    (stored : ∀ {α : Type} (view : DbTaskInfo → α), Stored view (recordOf taskId h) →
      Stored view (recordOf taskId k)) :
    Edits h k := by
  have others : ∀ other, other ≠ taskId → recordOf other k = recordOf other h :=
    fun other different => only.record other (within.other rfl different)
  refine ⟨fun other => ?_, fun view other => ?_⟩
  · by_cases same : other = taskId
    · exact same ▸ label
    · exact congrArg (fun record : Record => record.1.map TaskInfo.label) (others other same)
  · by_cases same : other = taskId
    · exact same ▸ stored view
    · rw [others other same]
      exact id

theorem setInfo {change : TaskInfo → TaskInfo} (label : ∀ info, (change info).label = info.label)
    (stored : ∀ info, (change info).toDbTaskInfo = info.toDbTaskInfo) : Edits h (h.setInfo taskId change) := by
  refine own (setInfo_only taskId h change) taskId (by simp [Within, Part.owner])
    (setInfo_label label taskId taskId h) ?_
  intro _ _ before
  rw [setInfo_record]
  intro changed found
  obtain ⟨info, present, rfl⟩ := Option.map_eq_some_iff.mp found
  rw [stored]
  exact before info present

theorem updateInfo {change : TaskInfo → TaskInfo} (label : ∀ info, (change info).label = info.label) :
    Edits h (h.updateInfo taskId change) := by
  cases known : h.taskInfos.find taskId with
  | none =>
    rw [updateInfo_unknown known]
    exact refl h
  | some info =>
    have record := updateInfo_record known change
    refine own (updateInfo_only taskId h change) taskId (by simp [Within, Part.owner]) ?_ (fun _ _ => ?_)
    · have changed : (h.updateInfo taskId change).taskInfos.find taskId = some (change info) :=
        congrArg Prod.fst record
      rw [changed, known]
      exact congrArg some (label info)
    · rw [record]
      intro changed found
      cases found
      rfl

/-- A change that goes on to the rules of the task. -/
theorem passedOn {change : TaskInfo → TaskInfo} {rules : IptableInfo → IptableInfo}
    (label : ∀ info, (change info).label = info.label) :
    Edits h ((h.updateInfo taskId change).setIptable taskId rules) :=
  (updateInfo label).trans (of_only (setIptable_only taskId _ _) (by simp))

end Edits

/-- A call that only edits. -/
def Editing {α : Type} (call : Call α) : Prop := ∀ h, Edits h (call h).2

namespace Editing
variable {α β : Type} {parts : Set Part} {taskId : Bytes}

theorem of_confined {call : Call α} (confined : Confined parts call) (outside : ∀ taskId, .info taskId ∉ parts) :
    Editing call := fun h => .of_only (confined h) outside

theorem bind {call : Call α} {rest : α → Call β} (first : Editing call) (second : ∀ a, Editing (rest a)) :
    Editing (call >>= rest) := by
  intro h
  have before := first h
  refine Prog.Keeps.after (P := Edits h) before (fun a k edits => ?_)
  exact edits.trans (second a k)

theorem pure (a : α) : Editing (Pure.pure a : Call α) := fun h => .refl h

theorem withInfo {call : TaskInfo → Call α} (editing : ∀ info, Editing (call info)) :
    Editing (withInfo taskId call) := by
  intro h
  unfold Host.withInfo
  split
  · exact .refl h
  · exact editing _ h

/-- What a modification does before and after a change of its record. -/
theorem modifyPublicIp (w : World) (newPublicIp : Bytes) : Editing (modifyPublicIp w taskId newPublicIp) := by
  refine withInfo (fun info h => ?_)
  split
  · exact .refl h
  · split
    · exact .refl h
    · exact Edits.passedOn (fun _ => rfl)

theorem modifyPort (field : PortField) (label : ∀ port info, (field.set port info).label = info.label)
    (doc : Json) :
    Editing (modifyPort field taskId doc) := by
  refine withInfo (fun info h => ?_)
  extract_lets text
  split
  · exact .refl h
  · split
    · exact .refl h
    · split
      · exact .refl h
      · exact Edits.passedOn (label _)

theorem modifyCustomPort (doc : Json) : Editing (modifyCustomPort taskId doc) := by
  refine withInfo (fun info h => ?_)
  split
  · exact .refl h
  · split
    · exact .refl h
    · split
      · exact .refl h
      · exact Edits.passedOn (fun _ => rfl)

theorem modifyNwfilter (w : World) (doc : Json) : Editing (modifyNwfilter w taskId doc) := by
  refine withInfo (fun info h => ?_)
  split
  · exact .refl h
  · extract_lets nwfilter
    split
    · exact .refl h
    · split <;> exact Edits.updateInfo (fun _ => rfl)

theorem modifyVncPort (doc : Json) : Editing (modifyVncPort taskId doc) := by
  refine withInfo (fun info h => ?_)
  extract_lets text
  split
  · exact .refl h
  · split
    · exact .refl h
    · split
      · exact .refl h
      · exact Edits.setInfo (fun _ => rfl) (fun _ => rfl)

theorem modifyCpu (hw : Hardware) (doc : Json) : Editing (modifyCpu hw taskId doc) := by
  refine withInfo (fun info h => ?_)
  extract_lets text
  split
  · exact .refl h
  · split
    · exact .refl h
    · split
      · exact .refl h
      · exact Edits.setInfo (fun _ => rfl) (fun _ => rfl)

theorem modifyMem (w : World) (doc : Json) : Editing (modifyMem w taskId doc) := by
  refine withInfo (fun info h => ?_)
  extract_lets text
  split
  · exact .refl h
  · split
    · exact .refl h
    · split
      · exact .refl h
      · exact Edits.setInfo (fun _ => rfl) (fun _ => rfl)

theorem of_looked {call : Call α} (confined : Confined ∅ call) : Editing call := of_confined confined (by simp)

theorem refuse (check : Host → Option Bytes) : Editing (refuse check) := of_looked (refuse_confined check)

theorem modifyNetwork (w : World) (doc : Json) : Editing (modifyNetwork w taskId doc) := by
  refine (modifyPublicIp w _).bind (fun _ => ?_)
  refine (modifyPort sshField (fun _ _ => rfl) doc).bind (fun _ => ?_)
  refine (modifyPort rdpField (fun _ _ => rfl) doc).bind (fun _ => ?_)
  refine (refuse _).bind (fun _ => ?_)
  refine (modifyCustomPort doc).bind (fun _ => ?_)
  refine (of_confined (.update (resetIptables_only taskId _)) (by simp)).bind (fun _ => ?_)
  exact modifyNwfilter w doc

theorem modifyDomain (hw : Hardware) (w : World) (doc : Json) : Editing (modifyDomain hw w taskId doc) := by
  refine (modifyVncPort doc).bind (fun _ => ?_)
  refine (of_confined (modifyGpus_confined hw taskId doc) (by simp)).bind (fun _ => ?_)
  refine (modifyCpu hw doc).bind (fun _ => ?_)
  exact (modifyMem w doc).bind (fun _ => pure _)

/-- A modification keeps the name and the status of its task, and stores
what it has to. -/
theorem modifyTask (hw : Hardware) (w : World) (doc : Json) : Editing (modifyTask hw w taskId doc) := by
  refine (of_looked (existingTask_confined taskId)).bind (fun _ => ?_)
  refine (refuse _).bind (fun _ => ?_)
  refine (modifyNetwork w doc).bind (fun _ => ?_)
  refine (modifyDomain hw w doc).bind (fun needed => ?_)
  exact (of_confined (redefine_confined w taskId needed) (by simp)).bind (fun _ => pure _)

end Editing

section Query
variable {taskId : Bytes} {h : Host}

/-- What a query makes of a status. -/
def queriedStatus (status : TaskStatus) (state : DomainState) : TaskStatus :=
  if (status = .shutoff ∧ state ≠ .shutoff) ∨ (status = .running ∧ state ≠ .running) ∨
      (status = .pmSuspend ∧ state ≠ .pmsuspended) then
    if state = .shutoff ∨ state = .shutdown then .shutoff
    else if state = .running ∨ state = .paused ∨ state = .blocked then .running
    else if state = .pmsuspended then .pmSuspend
    else status
  else status

theorem queriedStatus_again (status : TaskStatus) (state : DomainState) :
    queriedStatus (queriedStatus status state) state = queriedStatus status state := by
  cases status <;> cases state <;> rfl

/-- A query ends no status that an event is still to end, and starts
none. -/
theorem queriedStatus_same {status : TaskStatus} {state : DomainState}
    (transient : (queriedStatus status state).transient) :
    queriedStatus status state = status := by
  cases status <;> cases state <;> first | rfl | cases transient

/-- The record of a task after it was queried. -/
def queriedRecord (taskId : Bytes) (h : Host) : Record :=
  ((h.taskInfos.find taskId).map
    (fun info => { info with taskStatus := queriedStatus info.taskStatus (h.getDomainStatus taskId) }),
      h.taskDb.find taskId)

theorem queryTaskStatus_record : recordOf taskId (h.queryTaskStatus taskId) = queriedRecord taskId h := by
  unfold queryTaskStatus queriedRecord
  cases known : h.taskInfos.find taskId with
  | none => exact Prod.ext known rfl
  | some info =>
    have same : recordOf taskId h = (some info, h.taskDb.find taskId) := Prod.ext known rfl
    have set : ∀ status, recordOf taskId (h.setTaskStatus taskId status) =
        (some { info with taskStatus := status }, h.taskDb.find taskId) := by
      intro status
      exact (setInfo_record _).trans (by rw [same]; rfl)
    dsimp only [Option.map_some, queriedStatus]
    split
    · split
      · exact set _
      · split
        · exact set _
        · split
          · exact set _
          · exact same
    · exact same

theorem queriedRecord_again {k : Host} (queried : recordOf taskId k = queriedRecord taskId h)
    (state : k.getDomainStatus taskId = h.getDomainStatus taskId) :
    queriedRecord taskId k = queriedRecord taskId h := by
  have info := congrArg Prod.fst queried
  have stored := congrArg Prod.snd queried
  refine Prod.ext ?_ stored
  unfold queriedRecord
  rw [state]
  change Option.map _ (recordOf taskId k).1 = _
  rw [info, queriedRecord, Option.map_map]
  refine congrArg (Option.map · _) (funext fun info => ?_)
  simp only [Function.comp_apply, queriedStatus_again]

theorem queryTaskStatuses_record (infos : List TaskInfo) (taskId : Bytes) :
    recordOf taskId (infos.foldl (fun h info => h.queryTaskStatus info.taskId) h) =
      if taskId ∈ infos.map (·.taskId) then queriedRecord taskId h else recordOf taskId h := by
  induction infos generalizing h with
  | nil => rfl
  | cons info rest ih =>
    have only := queryTaskStatus_only info.taskId h
    rw [List.foldl_cons, ih]
    by_cases own : taskId = info.taskId
    · subst own
      have first : recordOf info.taskId (h.queryTaskStatus info.taskId) = queriedRecord info.taskId h :=
        queryTaskStatus_record
      rw [queriedRecord_again first (only.getDomainStatus (by simp)), first, ite_self, if_pos (by simp)]
    · have same := only.record taskId (by simpa using own)
      have again : queriedRecord taskId (h.queryTaskStatus info.taskId) = queriedRecord taskId h := by
        have found : (h.queryTaskStatus info.taskId).taskInfos.find taskId = h.taskInfos.find taskId :=
          congrArg Prod.fst same
        have stored : (h.queryTaskStatus info.taskId).taskDb.find taskId = h.taskDb.find taskId :=
          congrArg Prod.snd same
        rw [queriedRecord, found, stored, only.getDomainStatus (by simp)]
        rfl
      rw [same, again]
      simp [own]

end Query

/-- The tasks that a list of tasks asks libvirt about. -/
def queriedIds (wallet taskId : Bytes) (h : Host) : List Bytes :=
  if taskId = [] then ((h.taskIdsOf wallet).filterMap h.taskInfos.find).map (·.taskId)
  else if taskId ∈ h.taskIdsOf wallet then [taskId] else []

theorem taskList_record (wallet taskId : Bytes) (h : Host) (other : Bytes) :
    recordOf other (taskList wallet taskId h).2 =
      if other ∈ h.queriedIds wallet taskId then queriedRecord other h else recordOf other h := by
  unfold taskList queriedIds
  split
  · exact queryTaskStatuses_record _ other
  · by_cases own : taskId ∈ h.taskIdsOf wallet
    · rw [if_pos own, findTask, if_pos own]
      by_cases same : other = taskId
      · subst same
        rw [if_pos (List.mem_singleton.mpr rfl)]
        cases known : h.taskInfos.find other with
        | none => exact Prod.ext (by rw [queriedRecord, known]; exact known) rfl
        | some info => exact queryTaskStatus_record
      · rw [if_neg (by simpa using same)]
        split
        · rfl
        · exact (queryTaskStatus_only taskId h).record other (by simpa using same)
    · rw [if_neg own, findTask, if_neg own]
      rfl

theorem refuse_error {check : Host → Option Bytes} {error : Bytes} {h : Host} (checked : check h = some error) :
    refuse check h = (.error (.thrown error), h) := by
  rw [refuse, checked]

theorem refuse_ok {check : Host → Option Bytes} {h : Host} (checked : check h = none) :
    refuse check h = (.ok (), h) := by
  rw [refuse, checked]

/-- What a new password changes. -/
def passwdChange (doc : Json) (info : TaskInfo) : TaskInfo :=
  let info := { info with loginPassword := doc.parseString (str "password") }
  if info.loginUsername = [] ∨ info.loginUsername = str "N/A" then
    { info with loginUsername := doc.parseString (str "username") }
  else info

theorem passwdChange_label (doc : Json) (info : TaskInfo) : (passwdChange doc info).label = info.label := by
  unfold passwdChange
  extract_lets changed
  split <;> rfl

/-- What a request does to the records: it edits them if it is a
modification, it marks its task until its event is processed, it asks
libvirt for the statuses, or it sets a password. -/
inductive Requested (w : World) (wallet : Bytes) (request : TaskRequest) (h k : Host) : Prop
  | edited (edits : Edits h k) (events : h.events <+: k.events)
      (records : (∀ doc, request.operation ≠ .modify doc) → ∀ other, recordOf other k = recordOf other h)
  | waits {job : TaskJob} {status : TaskStatus} (pending : job.pending = some status)
      (events : k.events = h.events ++ [⟨request.taskId, job⟩])
      (others : ∀ other, other ≠ request.taskId → recordOf other k = recordOf other h)
      (own : recordOf request.taskId k =
        ((recordOf request.taskId h).1.map (fun info => { info with taskStatus := status }),
        (recordOf request.taskId h).2))
  | listed (asked : request.operation = .list) (events : k.events = h.events) (records : ∀ other, recordOf other k =
      if other ∈ h.queriedIds wallet request.taskId then queriedRecord other h else recordOf other h)
  | passwd {doc : Json} (asked : request.operation = .passwd doc)
    (allowed : passwdError w request.taskId doc h = none)
      (changed : k = h.setInfo request.taskId (passwdChange doc))

namespace Requested
variable {hw : Hardware} {w : World} {wallet : Bytes} {request : TaskRequest} {h : Host}

theorem same : Requested w wallet request h h := .edited (.refl h) List.prefix_rfl (fun _ _ => rfl)

theorem submit {k : Host} (before : ∀ other, recordOf other k = recordOf other h) (events : k.events = h.events)
    (allowed : DomainState → Bool) {status : TaskStatus} {job : TaskJob} (pending : job.pending = some status) :
    Requested w wallet request h (submit request.taskId allowed status job k).2 := by
  unfold Host.submit
  split
  · have marked := setTaskStatus_only request.taskId k status
    refine .waits pending ?_ (fun other different => ?_) ?_
    · change (k.setTaskStatus request.taskId status).events ++ _ = _
      rw [marked.events (by simp), events]
    · exact (marked.record other (by simpa using different)).trans (before other)
    · rw [← before]
      exact setInfo_record _
  · exact .edited (.of_record before) (events ▸ List.prefix_rfl) (fun _ => before)

/-- A request that is only checked for its task. -/
theorem plainSubmit (allowed : DomainState → Bool) {status : TaskStatus} {job : TaskJob}
    (pending : job.pending = some status) :
    Requested w wallet request h ((TaskReply.message <$> (do
      let _ ← existingTask request.taskId
      Host.submit request.taskId allowed status job) : Call TaskReply) h).2 := by
  refine Prog.Keeps.after ?_ (fun _ => .pure _)
  exact Prog.bind_looked (existingTask_same request.taskId h) same
    (fun _ => submit (fun _ => rfl) rfl allowed pending)

/-- A start or a restart. -/
theorem checkedSubmit (allowed : DomainState → Bool) {status : TaskStatus} {job : TaskJob}
    (pending : job.pending = some status) :
    Requested w wallet request h ((TaskReply.message <$> (do
      let info ← existingTask request.taskId
      checkResource hw w request.taskId info
      Host.submit request.taskId allowed status job) : Call TaskReply) h).2 := by
  refine Prog.Keeps.after ?_ (fun _ => .pure _)
  refine Prog.bind_looked (existingTask_same request.taskId h) same (fun info => ?_)
  have only := checkResource_confined hw w request.taskId info h
  rcases ran : checkResource hw w request.taskId info h with ⟨result, k⟩
  rw [ran] at only
  have before : ∀ other, recordOf other k = recordOf other h := fun other => Only.record only other (by simp)
  have events : k.events = h.events := Only.events only (by simp)
  cases result with
  | error stopped =>
    rw [Prog.bind_error ran]
    exact .edited (.of_record before) (events ▸ List.prefix_rfl) (fun _ => before)
  | ok _ =>
    rw [Prog.bind_ok ran]
    exact submit before events allowed pending

theorem passwdTask {doc : Json} (asked : request.operation = .passwd doc) :
    Requested w wallet request h
      ((TaskReply.message <$> passwdTask w request.taskId doc : Call TaskReply) h).2 := by
  refine Prog.Keeps.after ?_ (fun _ => .pure _)
  refine Prog.bind_looked (existingTask_same request.taskId h) same (fun info => ?_)
  cases checked : passwdError w request.taskId doc h with
  | some error =>
    rw [Prog.bind_error (refuse_error checked)]
    exact same
  | none =>
    rw [Prog.bind_ok (refuse_ok checked)]
    exact .passwd asked checked rfl

/-- What every request does to the records. -/
theorem execute : Requested w wallet request h (execute hw w wallet request h).2 := by
  have grows : h.events <+: (Host.execute hw w wallet request h).2.events := by
    rcases execute_mayQueue hw w wallet request h with same | ⟨job, _, more⟩
    · rw [same]
    · rw [more]
      exact List.prefix_append _ _
  have only := execute_confined hw w wallet request h
  obtain ⟨taskId, operation⟩ := request
  cases operation with
  | list =>
    refine .listed rfl ?_ (taskList_record wallet taskId h)
    exact Only.events (taskList_confined taskId wallet h) (by simp)
  | start => exact checkedSubmit _ rfl
  | shutdown => exact plainSubmit _ rfl
  | poweroff => exact plainSubmit _ rfl
  | stop => exact plainSubmit _ rfl
  | restart forceReboot =>
    cases forceReboot with
    | false => exact checkedSubmit _ rfl
    | true => exact checkedSubmit _ rfl
  | reset => exact plainSubmit _ rfl
  | delete => exact plainSubmit _ rfl
  | modify doc =>
    exact .edited ((Editing.modifyTask hw w doc).bind (fun _ => .pure _) h) grows
      (fun other => (other doc rfl).elim)
  | passwd doc => exact passwdTask rfl
  | _ =>
    have records : ∀ other, recordOf other _ = recordOf other h :=
      fun other => Only.record only other (by simp [requestParts])
    exact .edited (.of_record records) grows (fun _ => records)

end Requested

end Host

end DbcNode
