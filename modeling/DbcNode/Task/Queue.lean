import DbcNode.Task.Footprints

namespace DbcNode

/-- The events that a request of a kind leads to. -/
inductive TaskOperation.Queues : TaskOperation → TaskJob → Prop
  | start : Queues .start .startTask
  | shutdown : Queues .shutdown .shutdownTask
  | poweroff : Queues .poweroff .powerOffTask
  | stop : Queues .stop .powerOffTask
  | restart : Queues (.restart false) .reStartTask
  | forceReboot : Queues (.restart true) .forceRebootTask
  | reset : Queues .reset .resetTask
  | delete : Queues .delete .deleteTask
  | resizeDisk {additional diskName sizeK sourceFile} :
      Queues (.resizeDisk additional) (.resizeDisk diskName sizeK sourceFile)
  | addDisk {additional sizeK mountDir} : Queues (.addDisk additional) (.addDisk sizeK mountDir)
  | deleteDisk {additional diskName} : Queues (.deleteDisk additional) (.deleteDisk diskName)
  | createSnapshot {additional snapshotName rootBackfile sourceFile snapshotFile} :
      Queues (.createSnapshot additional) (.createSnapshot snapshotName rootBackfile sourceFile snapshotFile)

/-- The events that work on the disk images of a task. -/
def TaskJob.touchesDisk : TaskJob → Bool
  | .resizeDisk _ _ _ | .addDisk _ _ | .deleteDisk _ | .createSnapshot _ _ _ _ => true
  | _ => false

namespace Host

/-- An event that a request leads to. It is about disks only where the
domain is shut off. -/
def Accepts (request : TaskRequest) (job : TaskJob) (h : Host) : Prop :=
  request.operation.Queues job ∧ (job.touchesDisk → h.getDomainStatus request.taskId = .shutoff)

/-- A call that may leave one more event of a task in the queue. -/
def MayQueue {α : Type} (request : TaskRequest) (call : Call α) : Prop := ∀ h : Host,
  (call h).2.events = h.events ∨
    ∃ job, Accepts request job h ∧ (call h).2.events = h.events ++ [⟨request.taskId, job⟩]

namespace MayQueue
variable {α β : Type} {request : TaskRequest} {parts : Set Part}

theorem quiet {call : Call α} (confined : Confined parts call) (outside : .events ∉ parts) :
    MayQueue request call :=
  fun h => Or.inl (Only.events (confined h) outside)

theorem after {call : Call α} {rest : α → Call β} (confined : Confined parts call) (events : .events ∉ parts)
    (state : .state request.taskId ∉ parts) (later : ∀ a, MayQueue request (rest a)) :
    MayQueue request (call >>= rest) := by
  intro h
  have first : Only parts h (call h).2 := confined h
  rcases ran : call h with ⟨result, k⟩
  rw [ran] at first
  cases result with
  | error e =>
    rw [Prog.bind_error ran]
    exact Or.inl (first.events events)
  | ok a =>
    rw [Prog.bind_ok ran]
    rcases later a k with same | ⟨job, ⟨queues, shutOff⟩, more⟩
    · exact Or.inl (same.trans (first.events events))
    · refine Or.inr ⟨job, ⟨queues, fun touches => ?_⟩, ?_⟩
      · rw [← first.getDomainStatus state]
        exact shutOff touches
      · rw [more, first.events events]

/-- After a call that only looks. -/
theorem checked {call : Call α} {rest : α → Call β} (confined : Confined ∅ call)
    (later : ∀ a, MayQueue request (rest a)) : MayQueue request (call >>= rest) :=
  after confined (Set.notMem_empty _) (Set.notMem_empty _) later

theorem before {call : Call α} {rest : α → Call β} (queue : MayQueue request call)
    (confined : ∀ a, Confined ∅ (rest a)) : MayQueue request (call >>= rest) := by
  intro h
  have first := queue h
  rcases ran : call h with ⟨result, k⟩
  rw [ran] at first
  cases result with
  | error e =>
    rw [Prog.bind_error ran]
    exact first
  | ok a =>
    rw [Prog.bind_ok ran, Only.events (confined a k) (Set.notMem_empty _)]
    exact first

theorem map {call : Call α} (f : α → β) (queue : MayQueue request call) : MayQueue request (f <$> call) :=
  queue.before (fun a => .pure (f a))

end MayQueue

section Requests
variable (hw : Hardware) (w : World) (taskId : Bytes)

theorem submit_mayQueue {request : TaskRequest} (allowed : DomainState → Bool) (status : TaskStatus) {job : TaskJob}
    (queues : request.operation.Queues job) (plain : job.touchesDisk = false) :
    MayQueue request (submit request.taskId allowed status job) := by
  intro h
  unfold submit
  split
  · refine Or.inr ⟨job, ⟨queues, fun touches => ?_⟩, ?_⟩
    · rw [plain] at touches
      cases touches
    · change (h.setTaskStatus request.taskId status).events ++ _ = _
      rw [(setTaskStatus_only request.taskId h status).events (by simp)]
  · exact Or.inl rfl

theorem plainSubmit_mayQueue {request : TaskRequest} (allowed : DomainState → Bool) (status : TaskStatus)
    {job : TaskJob} (queues : request.operation.Queues job) (plain : job.touchesDisk = false) :
    MayQueue request (do
      let _ ← existingTask request.taskId
      submit request.taskId allowed status job) :=
  .checked (existingTask_confined request.taskId) (fun _ => submit_mayQueue allowed status queues plain)

theorem checkedSubmit_mayQueue {request : TaskRequest} (allowed : DomainState → Bool) (status : TaskStatus)
    {job : TaskJob} (queues : request.operation.Queues job) (plain : job.touchesDisk = false) :
    MayQueue request (do
      let info ← existingTask request.taskId
      checkResource hw w request.taskId info
      submit request.taskId allowed status job) := by
  refine .checked (existingTask_confined request.taskId) (fun info => ?_)
  refine .after (checkResource_confined hw w request.taskId info) (by simp) (by simp) (fun _ => ?_)
  exact submit_mayQueue allowed status queues plain

/-- The disk requests: once the task and the parameters are accepted, the
call queues. -/
theorem diskRequest_mayQueue {request : TaskRequest} (check : Host → Option Bytes) {call : Call Bytes}
    (queue : MayQueue request call) :
    MayQueue request (do
      diskTask request.taskId
      refuse check
      let text ← call
      pure (TaskReply.message text)) := by
  refine .checked (diskTask_confined request.taskId) (fun _ => ?_)
  refine .checked (refuse_confined check) (fun _ => ?_)
  exact queue.map TaskReply.message

theorem resizeDisk_mayQueue {request : TaskRequest} {additional : Json} (diskName : Bytes) (sizeK : Int)
    (operation : request.operation = .resizeDisk additional) :
    MayQueue request (resizeDisk request.taskId diskName sizeK) := by
  intro h
  unfold resizeDisk
  split
  · exact Or.inl rfl
  · split
    · exact Or.inl rfl
    · split
      · exact Or.inl rfl
      · split
        · exact Or.inl rfl
        · rename_i shutOff
          exact Or.inr ⟨_, ⟨operation ▸ .resizeDisk, fun _ => not_not.mp shutOff⟩, rfl⟩

theorem addNewDisk_mayQueue {request : TaskRequest} {additional : Json} (sizeK : Int) (mountDir : Bytes)
    (operation : request.operation = .addDisk additional) :
    MayQueue request (addNewDisk w request.taskId sizeK mountDir) := by
  intro h
  unfold addNewDisk
  split
  · exact Or.inl rfl
  · split
    · exact Or.inl rfl
    · split
      · exact Or.inl rfl
      · split
        · exact Or.inl rfl
        · rename_i shutOff
          split
          · exact Or.inl rfl
          · exact Or.inr ⟨_, ⟨operation ▸ .addDisk, fun _ => not_not.mp shutOff⟩, rfl⟩

theorem deleteDisk_mayQueue {request : TaskRequest} {additional : Json} (diskName : Bytes)
    (operation : request.operation = .deleteDisk additional) :
    MayQueue request (deleteDisk request.taskId diskName) := by
  intro h
  unfold deleteDisk
  split
  · exact Or.inl rfl
  · split
    · exact Or.inl rfl
    · split
      · exact Or.inl rfl
      · rename_i shutOff
        split
        · exact Or.inl rfl
        · exact Or.inr ⟨_, ⟨operation ▸ .deleteDisk, fun _ => not_not.mp shutOff⟩, rfl⟩

theorem createAndUploadSnapshot_mayQueue {request : TaskRequest} {additional : Json} (snapshotName desc : Bytes)
    (operation : request.operation = .createSnapshot additional) :
    MayQueue request (createAndUploadSnapshot w request.taskId snapshotName desc) := by
  intro h
  unfold createAndUploadSnapshot
  split
  · exact Or.inl rfl
  · split
    · exact Or.inl rfl
    · split
      · exact Or.inl rfl
      · rename_i shutOff
        extract_lets root file
        split
        · exact Or.inl rfl
        · exact Or.inr ⟨_, ⟨operation ▸ .createSnapshot, fun _ => not_not.mp shutOff⟩, rfl⟩

/-- A request leaves at most one event, of its own kind and task. -/
theorem execute_mayQueue (wallet : Bytes) (request : TaskRequest) :
    MayQueue request (execute hw w wallet request) := by
  unfold execute
  split
  · exact .quiet (taskList_confined request.taskId wallet) (by simp)
  · rename_i operation
    exact (checkedSubmit_mayQueue hw w _ _ (operation ▸ .start) rfl).map _
  · rename_i operation
    exact (plainSubmit_mayQueue _ _ (operation ▸ .shutdown) rfl).map _
  · rename_i operation
    exact (plainSubmit_mayQueue _ _ (operation ▸ .poweroff) rfl).map _
  · rename_i operation
    exact (plainSubmit_mayQueue _ _ (operation ▸ .stop) rfl).map _
  · rename_i forceReboot operation
    cases forceReboot with
    | false => exact (checkedSubmit_mayQueue hw w _ _ (operation ▸ .restart) rfl).map _
    | true => exact (checkedSubmit_mayQueue hw w _ _ (operation ▸ .forceReboot) rfl).map _
  · rename_i operation
    exact (plainSubmit_mayQueue _ _ (operation ▸ .reset) rfl).map _
  · rename_i operation
    exact (plainSubmit_mayQueue _ _ (operation ▸ .delete) rfl).map _
  · exact .map _ (.quiet (modifyTask_confined hw w request.taskId _) (by simp))
  · exact .map _ (.quiet (passwdTask_confined w request.taskId _) (by simp))
  · exact .checked (refuse_confined _) (fun _ => .quiet (.map _ (getTaskLog_confined w request.taskId))
      (Set.notMem_empty _))
  · exact .checked (diskTask_confined request.taskId) (fun _ => .quiet (.fetch _) (Set.notMem_empty _))
  · rename_i additional operation
    exact diskRequest_mayQueue _ (resizeDisk_mayQueue _ _ operation)
  · rename_i additional operation
    exact diskRequest_mayQueue _ (addNewDisk_mayQueue w _ _ operation)
  · rename_i additional operation
    exact diskRequest_mayQueue _ (deleteDisk_mayQueue _ operation)
  · intro h
    unfold snapshotList
    split
    · exact Or.inl rfl
    · split <;> exact Or.inl rfl
  · rename_i additional operation
    refine .checked (refuse_confined _) (fun _ => ?_)
    exact (createAndUploadSnapshot_mayQueue w _ _ operation).map TaskReply.message
  · intro h
    unfold snapshotDelete
    split
    · exact Or.inl rfl
    · exact Or.inl ((terminateUploadSnapshot_only request.taskId _ h).events (by simp))

end Requests

section Steps
variable {hw : Hardware} {w : World} {h k : Host}

theorem survives_some {α : Type} {ended : Except (Stop Bytes) α × Host} (ran : survives ended = some k) :
    ended.2 = k := by
  unfold survives at ran
  split at ran
  · exact Option.some.inj ran
  · exact Option.some.inj ran
  · cases ran

theorem dequeue_only (rest : List TaskEvent) : Only {.events} h { h with events := rest } := by
  intro part outside
  cases part with
  | events => exact (outside rfl).elim
  | _ => rfl

/-- The first event of the queue goes, and then it does its work. -/
theorem step_process (ran : h.step hw (w, .process) = some k) : ∃ event rest, h.events = event :: rest ∧
    Only {.running} (processJob w event.taskId event.job { h with events := rest }).2 k := by
  simp only [step] at ran
  split at ran
  · cases ran
  · rename_i event rest queue
    refine ⟨event, rest, queue, ?_⟩
    rw [← survives_some ran, processTask]
    rcases job : processJob w event.taskId event.job { h with events := rest } with ⟨_ | _, l⟩
    · rw [Prog.bind_error job]
      exact .refl l
    · rw [Prog.bind_ok job]
      exact updateRunningTasks_only l

theorem Checked.bind_ok {α β : Type} {call : Checked α} {rest : α → Checked β} {b : β}
    (ran : (call >>= rest) = .ok b) : ∃ a, call = .ok a ∧ rest a = .ok b := by
  cases call with
  | error e => cases ran
  | ok a => exact ⟨a, rfl, ran⟩

theorem Checked.elim_ok {α : Type} {found : Option α} {error : Stop Bytes} {a : α}
    (ran : (found.elim (.error error) .ok : Checked α) = .ok a) : found = some a := by
  cases found with
  | none => cases ran
  | some b => exact congrArg some (Except.ok.inj ran)

theorem require_ok {condition : Bool} {error : Bytes} {u : Unit} (ran : require condition error = .ok u) :
    condition := by
  unfold require at ran
  split at ran
  · assumption
  · cases ran

/-- The parameters that are accepted have the new id, and GPUs that were
allocated. -/
theorem parseCreateParams_ok {role : UserRole} {additional : Option Json} {params : CreateTaskParams}
    (parsed : h.parseCreateParams hw w role additional = .ok params) :
    params.taskId = w.newTaskId ∧ ∃ gpuCount, 0 ≤ gpuCount ∧ h.allocateGpu hw gpuCount = some params.gpus := by
  unfold parseCreateParams at parsed
  iterate 16 obtain ⟨_, _, parsed⟩ := Checked.bind_ok parsed
  obtain ⟨_, asked, parsed⟩ := Checked.bind_ok parsed
  obtain ⟨gpus, allocated, parsed⟩ := Checked.bind_ok parsed
  iterate 5 obtain ⟨_, _, parsed⟩ := Checked.bind_ok parsed
  cases Except.ok.inj parsed
  refine ⟨rfl, _, ?_, Checked.elim_ok allocated⟩
  have counted := of_decide_eq_true (require_ok asked)
  split
  · exact Int.natCast_nonneg _
  · exact counted

/-- A task that is created gets its records and its event, all under the new
id. -/
theorem step_create {wallet : Bytes} {additional : Option Json} {rentEnd : Int} {role : UserRole}
    (ran : h.step hw (w, .create wallet additional rentEnd role) = some k) :
    k = h ∨ ∃ params root, h.parseCreateParams hw w role additional = .ok params ∧
      k = h.addTask w wallet rentEnd params root := by
  have result := survives_some ran
  unfold createTask at result
  split at result
  · exact Or.inl result.symm
  · rename_i params parsed
    split at result
    · exact Or.inl result.symm
    · rename_i root _
      exact Or.inr ⟨params, root, parsed, result.symm⟩

/-- The events after a task was added. -/
theorem addTask_events (wallet : Bytes) (rentEnd : Int) (params : CreateTaskParams) (root : Bytes) :
    (h.addTask w wallet rentEnd params root).events =
      h.events ++ [⟨params.taskId, .createTask params.biosMode⟩] := by
  unfold addTask
  change (Host.events _) ++ _ = _
  rw [(addRentTask_only params.taskId _ wallet rentEnd).events (by simp),
    (addGpus_only params.taskId _ _).events (by simp),
    (addDisks_only w _ params).events (by simp), (addInfo_only h _).events (by simp)]

theorem addTask_known (wallet : Bytes) (rentEnd : Int) (params : CreateTaskParams) (root : Bytes) :
    (h.addTask w wallet rentEnd params root).taskInfos.find params.taskId =
      some (CreateTaskParams.info params w.time root) := by
  unfold addTask
  rw [(pushTaskEvent_only _ _).info (by simp), (addRentTask_only params.taskId _ wallet rentEnd).info (by simp),
    (addGpus_only params.taskId _ _).info (by simp), (addDisks_only w _ params).info (by simp)]
  exact OrdMap.find_insert_self _ _ _

theorem step_request {wallet : Bytes} {request : TaskRequest}
    (ran : h.step hw (w, .request wallet request) = some k) : (execute hw w wallet request h).2 = k :=
      survives_some ran

end Steps

end Host

end DbcNode
