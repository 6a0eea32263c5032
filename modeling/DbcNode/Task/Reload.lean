import DbcNode.Task.Events
import DbcNode.Task.ModifyAtomic

namespace DbcNode

/-- What a record and the description of a domain have in common. -/
def TaskInfo.shape (info : TaskInfo) : Sizes × Bytes := (info.sizes, info.vncPassword)

def DomainXml.shape (xml : DomainXml) : Sizes × Bytes := (xml.sizes, xml.vncPassword)

namespace Host

/-- A restart would give every task that has a domain the record that it
has, but for its status. -/
def ReloadExact (h : Host) : Prop := ∀ taskId info, h.taskInfos.find taskId = some info → h.isExistDomain taskId →
  h.reloaded taskId = some { info with taskStatus := .none }

/-- A modification that changes what the description of the domain has is
for a domain that is down, and is not refused. -/
def ShapeModified (hw : Hardware) (w : World) (taskId : Bytes) (doc : Json) (h : Host) : Prop := ∀ info,
  h.taskInfos.find taskId = some info → h.isExistDomain taskId → doc.isObject →
    (∀ setting ∈ [Setting.vncPort, .cpu, .memory],
      .setting setting ∉ Stage.changed (modifyStages hw w taskId doc info h)) ∨
    Down taskId h ∧ Stage.refused (modifyStages hw w taskId doc info h) = false

/-- A step that leaves nothing in memory that a restart would lose. -/
def Lasting (hw : Hardware) (h : Host) : World × HostEvent → Prop
  | (w, .create _ _ _ _) => h.isExistDomain w.newTaskId = false
  | (w, .request _ ⟨taskId, .modify doc⟩) => ShapeModified hw w taskId doc h
  | event => LoginKept id h event

instance (w : World) (taskId : Bytes) (info : TaskInfo) (h : Host) : Decidable (Opens w taskId info h) :=
  inferInstanceAs (Decidable (_ = true ∧ _ = _ ∧ _ ≠ _ ∧ _ ≠ _))

instance (hw : Hardware) (w : World) (taskId : Bytes) (doc : Json) (h : Host) :
    Decidable (ShapeModified hw w taskId doc h) :=
  inferInstanceAs (Decidable (∀ info ∈ h.taskInfos.find taskId, h.isExistDomain taskId = true →
    doc.isObject = true →
    (∀ setting ∈ [Setting.vncPort, .cpu, .memory], _ ∉ Stage.changed (modifyStages hw w taskId doc info h)) ∨
      Down taskId h ∧ _ = false))

instance (h : Host) : (event : World × HostEvent) → Decidable (LoginKept id h event)
  | (w, .request _ ⟨taskId, operation⟩) => match operation with
    | .passwd doc =>
        inferInstanceAs (Decidable (passwdError w taskId doc h = none → ∀ info ∈ h.taskInfos.find taskId,
        (passwdChange doc info).toDbTaskInfo = info.toDbTaskInfo))
    | .list | .start | .shutdown | .poweroff | .stop | .restart _ | .reset | .delete | .modify _ | .logs _ _
    | .listDisk | .resizeDisk _ | .addDisk _ | .deleteDisk _ | .listSnapshot _ | .createSnapshot _
    | .deleteSnapshot _ => isTrue trivial
  | (w, .process) => match queue : h.events with
    | [] => isTrue (fun event rest same => by rw [queue] at same; cases same)
    | first :: later =>
        decidable_of_iff (∀ biosMode ∈ (match first.job with | .createTask biosMode => [biosMode] | _ => []),
        biosMode ≠ str "pxe" → ∀ info ∈ h.taskInfos.find first.taskId,
          Opens w first.taskId info { h with events := later } → (withLogin w info).toDbTaskInfo =
            info.toDbTaskInfo)
      ⟨fun kept event rest same biosMode job => by
          rw [queue] at same
          cases same
          rw [job] at kept
          exact kept biosMode (List.mem_singleton.mpr rfl),
        fun kept biosMode member => by
          split at member
          · rename_i other job
            cases List.mem_singleton.mp member
            exact kept first later queue _ job
          · cases member⟩
  | (_, .create _ _ _ _) | (_, .deleteImage _) | (_, .close _) | (_, .destroy _) | (_, .uploaded _ _)
  | (_, .domainChanges _ _) | (_, .fileAppears _ _) => isTrue trivial

instance (hw : Hardware) (h : Host) : (event : World × HostEvent) → Decidable (Lasting hw h event)
  | (w, .create _ _ _ _) => inferInstanceAs (Decidable (h.isExistDomain w.newTaskId = false))
  | (w, .request wallet ⟨taskId, operation⟩) => match operation with
    | .modify doc => inferInstanceAs (Decidable (ShapeModified hw w taskId doc h))
    | .passwd doc => inferInstanceAs (Decidable (LoginKept id h (w, .request wallet ⟨taskId, .passwd doc⟩)))
    | .list | .start | .shutdown | .poweroff | .stop | .restart _ | .reset | .delete | .logs _ _
    | .listDisk | .resizeDisk _ | .addDisk _ | .deleteDisk _ | .listSnapshot _ | .createSnapshot _
    | .deleteSnapshot _ => isTrue trivial
  | (w, .process) => inferInstanceAs (Decidable (LoginKept id h (w, .process)))
  | (_, .deleteImage _) | (_, .close _) | (_, .destroy _) | (_, .uploaded _ _) | (_, .domainChanges _ _)
  | (_, .fileAppears _ _) => isTrue trivial

theorem Lasting.login {hw : Hardware} {h : Host} {event : World × HostEvent} (lasting : Lasting hw h event) :
    LoginKept id h event := by
  unfold Lasting at lasting
  split at lasting
  · trivial
  · trivial
  · exact lasting

/-- The domain of a task has the shape that is recorded. -/
def Shaped (taskId : Bytes) (h : Host) : Prop := ∀ info, h.taskInfos.find taskId = some info →
  DomainHolds DomainXml.shape info.shape taskId h

section Exact
variable {h : Host}

theorem reloadExact_of (stored : AllStored id h) (shaped : ∀ taskId, Shaped taskId h) : ReloadExact h := by
  intro taskId info known present
  obtain ⟨domain, found⟩ := Option.isSome_iff_exists.mp present
  obtain ⟨db, has, same⟩ := Option.map_eq_some_iff.mp (stored taskId info known)
  have has : h.taskDb.find taskId = some db := has
  have same : db = info.toDbTaskInfo := same
  have shape : (currentXml domain).shape = info.shape := (shaped taskId info known).currentXml found
  simp only [DomainXml.shape, TaskInfo.shape, DomainXml.sizes, TaskInfo.sizes, Prod.mk.injEq,
    Sizes.mk.injEq] at shape
  obtain ⟨⟨vncPort, sockets, cores, threads, memory⟩, password⟩ := shape
  simp only [reloaded, has, found, loadInfo, same, vncPort, sockets, cores, threads, memory, password]

end Exact

namespace Shaped
variable {hw : Hardware} {w : World} {parts : Set Part} {taskId : Bytes} {h k : Host}

/-- A step that keeps the shape in the record, and the domain with it. -/
theorem keep (shaped : Shaped taskId h)
    (records : ∀ info, k.taskInfos.find taskId = some info → ∃ old, h.taskInfos.find taskId = some old ∧
      old.shape = info.shape)
    (domain : ∀ old, h.taskInfos.find taskId = some old → DomainHolds DomainXml.shape old.shape taskId h →
      DomainHolds DomainXml.shape old.shape taskId k) : Shaped taskId k := by
  intro info known
  obtain ⟨old, before, same⟩ := records info known
  rw [← same]
  exact domain old before (shaped old before)

theorem of_record (same : recordOf taskId k = recordOf taskId h) (info : TaskInfo)
    (known : k.taskInfos.find taskId = some info) : ∃ old, h.taskInfos.find taskId = some old ∧
      old.shape = info.shape := by
  have before : k.taskInfos.find taskId = h.taskInfos.find taskId := congrArg Prod.fst same
  exact ⟨info, before ▸ known, rfl⟩

theorem frame (shaped : Shaped taskId h) (only : Only parts h k) (info : .info taskId ∉ parts)
    (outside : ∀ part ∈ parts, part ≠ .state taskId ∧ part ≠ .live taskId ∧ part ≠ .definition taskId) :
    Shaped taskId k :=
  shaped.keep (of_record (only.record taskId info)) (fun _ _ holds => holds.spared only outside)

theorem of_map {change : TaskInfo → TaskInfo} {db : Option DbTaskInfo}
    (changed : recordOf taskId k = ((recordOf taskId h).1.map change, db))
    (shape : ∀ info, (change info).shape = info.shape) (info : TaskInfo)
    (known : k.taskInfos.find taskId = some info) :
    ∃ old, h.taskInfos.find taskId = some old ∧ old.shape = info.shape := by
  have now : k.taskInfos.find taskId = (h.taskInfos.find taskId).map change := congrArg Prod.fst changed
  rw [now] at known
  obtain ⟨old, before, rfl⟩ := Option.map_eq_some_iff.mp known
  exact ⟨old, before, (shape old).symm⟩

end Shaped

theorem TaskInfo.settled_shape (pending status : TaskStatus) (info : TaskInfo) :
    (info.settled pending status).shape = info.shape := by
  unfold TaskInfo.settled
  split <;> rfl

theorem withLogin_shape (w : World) (info : TaskInfo) : (withLogin w info).shape = info.shape := by
  unfold withLogin
  split <;> rfl

/-- An event does not change the shape of a record. -/
theorem Ended.shape {w : World} {taskId : Bytes} {h : Host} {job : TaskJob} {before after : Record}
    (ended : Ended w taskId h job before after) {info : TaskInfo} (known : after.1 = some info) :
    ∃ old, before.1 = some old ∧ old.shape = info.shape := by
  cases ended with
  | unknown db => cases known
  | plain record none => exact ⟨info, known, rfl⟩
  | settled old db waits stable =>
    cases Option.some.inj known
    exact ⟨old, rfl, (TaskInfo.settled_shape _ _ old).symm⟩
  | created old db plain opens =>
    cases Option.some.inj known
    exact ⟨old, rfl, ((TaskInfo.settled_shape _ _ _).trans (withLogin_shape w old)).symm⟩
  | stopped old db root waits =>
    cases Option.some.inj known
    exact ⟨old, rfl, (TaskInfo.settled_shape _ _ old).symm⟩
  | deleted record => cases known
  | lost record up busy => exact ⟨info, known, rfl⟩

theorem DomainHolds.redefineDomain {w : World} {taskId : Bytes} {info : TaskInfo} {h : Host} {value : Sizes × Bytes}
    (holds : DomainHolds DomainXml.shape value taskId h) (same : info.sizes = value.1) :
    DomainHolds DomainXml.shape value taskId (h.redefineDomain w taskId info).2 := by
  unfold Host.redefineDomain
  split
  · exact holds
  · rename_i domain found
    split
    · exact holds
    · have password : domain.definition.vncPassword = value.2 := congrArg Prod.snd (holds domain found).1
      exact holds.redefine found (Prod.ext same password)

theorem DomainHolds.checkedSubmit {hw : Hardware} {w : World} {taskId : Bytes} {old : TaskInfo} {h : Host}
    (known : h.taskInfos.find taskId = some old) (holds : DomainHolds DomainXml.shape old.shape taskId h)
    (allowed : DomainState → Bool) (status : TaskStatus) (job : TaskJob) :
    DomainHolds DomainXml.shape old.shape taskId ((do
      let info ← existingTask taskId
      checkResource hw w taskId info
      submit taskId allowed status job : Call Bytes) h).2 := by
  rcases looked : existingTask taskId h with ⟨e | info, k⟩
  · have same := existingTask_same taskId h
    rw [looked] at same
    rw [Prog.bind_error looked]
    exact same ▸ holds
  · obtain ⟨found, rfl⟩ : h.taskInfos.find taskId = some info ∧ k = h := by
      unfold existingTask at looked
      rw [known] at looked
      dsimp only at looked
      split at looked
      · cases looked
        exact ⟨known, rfl⟩
      · cases looked
    cases Option.some.inj (known.symm.trans found)
    rw [Prog.bind_ok looked]
    have submits : Prog.Keeps (DomainHolds DomainXml.shape old.shape taskId) (submit taskId allowed status job) :=
      fun l before => before.spared (submit_confined taskId allowed status job l) (by simp)
    refine Prog.Keeps.after (Prog.Keeps.after ?_ (fun _ => ?_)) (fun _ => submits)
    · change DomainHolds DomainXml.shape old.shape taskId (k.checkXmlGpu hw w taskId old)
      unfold checkXmlGpu
      extract_lets lost
      split
      · exact holds
      · have taken : DomainHolds DomainXml.shape old.shape taskId
            { k with taskGpus := k.taskGpus.insert taskId (lost.foldl OrdMap.erase (k.getTaskGpus taskId)) } :=
              holds
        exact taken.redefineDomain rfl
    · intro l before
      rw [refuse_same]
      exact before

/-- A change of the domain of a task that only defines it anew, as the
records of the task have it by then. -/
def Renewed (taskId : Bytes) (h k : Host) : Prop := k.domains.find taskId = h.domains.find taskId ∨
  ∃ info domain, k.taskInfos.find taskId = some info ∧ h.domains.find taskId = some domain ∧
    k.domains.find taskId = some { domain with definition := k.renewedXml taskId info domain.definition }

theorem Renewed.redefine (w : World) (taskId : Bytes) (needed : Bool) (h : Host) :
    Renewed taskId h (redefine w taskId needed h).2 := by
  unfold Host.redefine withInfo
  split
  · exact Or.inl rfl
  · rename_i info known
    dsimp only
    cases needed with
    | false => exact Or.inl rfl
    | true =>
      simp only [if_true]
      cases found : h.domains.find taskId with
      | none =>
        simp only [redefineDomain, found]
        exact Or.inl rfl
      | some domain =>
        simp only [redefineDomain, found]
        cases w.defineDomain with
        | false => exact Or.inl rfl
        | true =>
          refine Or.inr ⟨info, domain, known, found, ?_⟩
          exact OrdMap.find_insert_self _ _ _

/-- What a call leaves whose last part defines the domain. -/
theorem Renewed.bind {front : Call Bool} {r : Bool → Bytes} {w : World} {taskId : Bytes}
    (confined : Confined {.info taskId, .ports taskId, .iptable taskId, .nat, .gpus taskId} front) (h : Host) :
    Renewed taskId h ((do
      let needed ← front
      Host.redefine w taskId needed
      pure (r needed) : Call Bytes) h).2 := by
  have only := confined h
  rcases ran : front h with ⟨error | needed, l⟩
  · rw [ran] at only
    rw [Prog.bind_error ran]
    exact Or.inl (Only.domain only (by simp) (by simp) (by simp))
  · rw [ran] at only
    have before : l.domains.find taskId = h.domains.find taskId := Only.domain only (by simp) (by simp) (by simp)
    rw [Prog.bind_ok ran]
    have renewed := Renewed.redefine w taskId needed l
    rw [Renewed, before] at renewed
    exact Prog.Keeps.after (P := Renewed taskId h) renewed (fun _ => .pure _)

theorem modifyTask_renews (hw : Hardware) (w : World) (taskId : Bytes) (doc : Json) (h : Host) :
    Renewed taskId h (modifyTask hw w taskId doc h).2 := by
  have front : Confined {.info taskId, .ports taskId, .iptable taskId, .nat, .gpus taskId} (do
      let _ ← existingTask taskId
      refuse (fun _ => if doc.isObject then none else some (str "additional parse failed"))
      modifyNetwork w taskId doc
      modifyDomain hw w taskId doc : Call Bool) := by
    refine (existingTask_confined taskId).bind (fun _ => (refuse_confined _).bind (fun _ => ?_))
    refine ((modifyNetwork_confined w taskId doc).weaken (by simp [Set.insert_subset_iff])).bind (fun _ => ?_)
    exact (modifyDomain_confined hw w taskId doc).weaken (by simp [Set.insert_subset_iff])
  have renewed := Renewed.bind (w := w) (r := fun needed =>
    if needed then str "some changes will take effect on the next boot" else str "ok") front h
  simp only [bind_assoc] at renewed
  exact renewed

namespace Shaped
variable {hw : Hardware} {w : World} {parts : Set Part} {taskId : Bytes} {h k : Host}

/-- The sizes of a record that none of its three settings has changed. -/
theorem sizes_kept {doc : Json} {info now : TaskInfo} (known : h.taskInfos.find taskId = some info)
    (present : h.isExistDomain taskId) (object : doc.isObject)
    (found : (modifyTask hw w taskId doc h).2.taskInfos.find taskId = some now)
    (unchanged : ∀ setting ∈ [Setting.vncPort, .cpu, .memory],
      .setting setting ∉ Stage.changed (modifyStages hw w taskId doc info h)) : now.sizes = info.sizes := by
  have outcome := modifyTask_outcome hw w known present object
  have kept : ∀ setting ∈ [Setting.vncPort, .cpu, .memory],
      setting.get (some now) ((modifyTask hw w taskId doc h).2.taskIptables.find taskId) =
        setting.get (some info) (h.taskIptables.find taskId) := by
    intro setting member
    have same := (outcome.moved (.setting setting) ModifyPart.noConfusion).mpr (unchanged setting member)
    have same : setting.get ((modifyTask hw w taskId doc h).2.taskInfos.find taskId) _ =
      setting.get (h.taskInfos.find taskId) _ := same
    rwa [found, known] at same
  have vnc := shows_vncPort _ _ _ _ (kept .vncPort (by simp))
  have cpu := shows_cpu _ _ _ _ (kept .cpu (by simp))
  have memory := shows_memory _ _ _ _ (kept .memory (by simp))
  simp only [CpuTopology.mk.injEq] at cpu
  obtain ⟨sockets, cores, threads⟩ := cpu
  simp only [TaskInfo.sizes, Sizes.mk.injEq]
  exact ⟨vnc, sockets, cores, threads, memory⟩

/-- A change of a size asks for a new definition of the domain. -/
theorem redefine_needed {doc : Json} {info : TaskInfo} {setting : Setting}
    (one : setting ∈ [Setting.vncPort, .cpu, .memory])
    (changed : .setting setting ∈ Stage.changed (modifyStages hw w taskId doc info h)) :
    redefineNeeded hw w taskId doc info h = true ∧ customPorts doc ≠ some none := by
  obtain ⟨stage, inside, part, changes⟩ := Stage.changes_of_mem changed
  constructor
  · have inside := mem_modifyStages inside
    simp only [List.mem_cons, List.not_mem_nil, or_false] at inside one
    rcases inside with rfl | rfl | rfl | rfl | rfl | rfl | rfl | rfl | rfl | rfl | rfl | rfl <;> cases part <;>
      simp_all [redefineNeeded]
  · intro noText
    rw [modifyStages, if_pos noText] at inside
    simp only [List.mem_cons, List.not_mem_nil, or_false] at inside one
    rcases inside with rfl | rfl | rfl | rfl <;> cases part <;> simp at one

/-- A domain after a modification: its state and what it runs with are as
before, as is the password of its screen. -/
theorem renewed_domain {domain : Domain} {now : TaskInfo} (renewed : Renewed taskId h k)
    (defined : k.domains.find taskId = some domain) (found : k.taskInfos.find taskId = some now) :
    ∃ old, h.domains.find taskId = some old ∧ domain.state = old.state ∧ domain.live = old.live ∧
      domain.definition.vncPassword = old.definition.vncPassword ∧
      (domain.definition = old.definition ∨ domain.definition.sizes = now.sizes) := by
  rcases renewed with same | ⟨info, old, known, before, after⟩
  · exact ⟨domain, same ▸ defined, rfl, rfl, rfl, Or.inl rfl⟩
  · cases Option.some.inj (found.symm.trans known)
    cases Option.some.inj (defined.symm.trans after)
    exact ⟨old, before, rfl, rfl, rfl, Or.inr rfl⟩

theorem modify (shaped : Shaped taskId h) {doc : Json} (modified : ShapeModified hw w taskId doc h) :
    Shaped taskId (modifyTask hw w taskId doc h).2 := by
  intro now found domain defined
  have edits : Edits h (modifyTask hw w taskId doc h).2 := Editing.modifyTask hw w doc h
  have label := edits.label taskId
  rw [found] at label
  obtain ⟨info, known, named⟩ := Option.map_eq_some_iff.mp label.symm
  have password : now.vncPassword = info.vncPassword := (congrArg (·.2.1) named).symm
  obtain ⟨old, before, state, live, screen, definition⟩ :=
    renewed_domain (modifyTask_renews hw w taskId doc h) defined found
  obtain ⟨oldDefinition, oldLive⟩ := shaped info known old before
  have screen : domain.definition.vncPassword = now.vncPassword :=
    (screen.trans (congrArg Prod.snd oldDefinition)).trans password.symm
  have plain : now.sizes = info.sizes →
      domain.definition.shape = now.shape ∧ (domain.state ≠ .shutoff → domain.live.shape = now.shape) := by
    intro same
    have shape : info.shape = now.shape := Prod.ext same.symm password.symm
    refine ⟨?_, fun running => ?_⟩
    · rcases definition with kept | renewed
      · rw [kept, oldDefinition, shape]
      · exact Prod.ext renewed screen
    · rw [live, oldLive (state ▸ running), shape]
  by_cases object : doc.isObject
  · have present : h.isExistDomain taskId := isExistDomain_of_find taskId before
    rcases modified info known present object with unchanged | ⟨down, passes⟩
    · exact plain (sizes_kept known present object found unchanged)
    · by_cases unchanged : ∀ setting ∈ [Setting.vncPort, .cpu, .memory],
          .setting setting ∉ Stage.changed (modifyStages hw w taskId doc info h)
      · exact plain (sizes_kept known present object found unchanged)
      · simp only [not_forall, not_not] at unchanged
        obtain ⟨setting, one, changed⟩ := unchanged
        obtain ⟨needed, texts⟩ := redefine_needed one changed
        have ended := (modifyTask_outcome hw w known present object).ends passes
        rw [if_neg (by simpa using texts)] at ended
        have sizes : domain.definition.sizes = now.sizes := ended.2 needed now domain found defined
        refine ⟨Prod.ext sizes screen, fun running => ?_⟩
        exact (running (state.trans (down old before))).elim
  · have stops : ∀ info, h.taskInfos.find taskId = some info → h.isExistDomain taskId → ¬ doc.isObject :=
      fun _ _ _ => object
    obtain ⟨error, stopped⟩ := modifyTask_stops hw w stops
    rw [stopped] at found
    cases Option.some.inj (known.symm.trans found)
    exact plain rfl

/-- What a request that is no modification does to the record of a task. -/
theorem requested {wallet : Bytes} {request : TaskRequest} (requested : Requested w wallet request h k)
    (other : ∀ doc, request.operation ≠ .modify doc) (info : TaskInfo)
    (known : k.taskInfos.find taskId = some info) :
    ∃ old, h.taskInfos.find taskId = some old ∧ old.shape = info.shape := by
  cases requested with
  | edited edits events records => exact of_record (records other taskId) info known
  | waits pending events others own =>
    by_cases same : taskId = request.taskId
    · subst same
      exact of_map own (fun _ => rfl) info known
    · exact of_record (others taskId same) info known
  | listed asked events records =>
    have record := records taskId
    split at record
    · exact of_map record (fun _ => rfl) info known
    · exact of_record record info known
  | @passwd doc asked allowed changed =>
    subst changed
    by_cases same : taskId = request.taskId
    · subst same
      refine of_map (setInfo_record _) (fun old => ?_) info known
      unfold passwdChange
      extract_lets changed
      split <;> rfl
    · exact of_record ((setInfo_only request.taskId h _).record taskId (by simpa using same)) info known

theorem definition_mem_requestParts {request : TaskRequest}
    (member : Part.definition taskId ∈ requestParts request) :
    taskId = request.taskId ∧ ((∃ doc, request.operation = .modify doc) ∨ request.operation = .start ∨
      ∃ forceReboot, request.operation = .restart forceReboot) := by
  obtain ⟨name, operation⟩ := request
  cases operation <;> simp_all [requestParts]

/-- A request leaves the domain of a task as it is, unless it defines it
anew. -/
theorem request (shaped : Shaped taskId h) {wallet : Bytes} {request : TaskRequest}
    (lasting : Lasting hw h (w, .request wallet request)) : Shaped taskId (execute hw w wallet request h).2 := by
  have only : Only (requestParts request) h (execute hw w wallet request h).2 :=
    execute_confined hw w wallet request h
  have records : (∀ doc, request.operation ≠ .modify doc) → ∀ info,
      (execute hw w wallet request h).2.taskInfos.find taskId = some info →
      ∃ old, h.taskInfos.find taskId = some old ∧ old.shape = info.shape :=
    fun other info known => requested Requested.execute other info known
  have spared : .definition taskId ∉ requestParts request → ∀ old : TaskInfo, h.taskInfos.find taskId = some old →
      DomainHolds DomainXml.shape old.shape taskId h →
      DomainHolds DomainXml.shape old.shape taskId (execute hw w wallet request h).2 :=
    fun outside _ _ holds =>
      holds.frame only (notMem_requestParts rfl request) (notMem_requestParts rfl request) outside
  by_cases defines : Part.definition taskId ∈ requestParts request
  · obtain ⟨own, operation⟩ := definition_mem_requestParts defines
    obtain ⟨name, asked⟩ := request
    dsimp only at own
    subst own
    rcases operation with ⟨doc, rfl⟩ | rfl | ⟨forceReboot, rfl⟩
    · exact Prog.Keeps.after (P := Shaped taskId) (shaped.modify lasting) (fun _ => .pure _)
    · refine shaped.keep (records (fun _ => TaskOperation.noConfusion)) (fun old known holds => ?_)
      exact Prog.Keeps.after (DomainHolds.checkedSubmit known holds _ _ _) (fun _ => .pure _)
    · refine shaped.keep (records (fun _ => TaskOperation.noConfusion)) (fun old known holds => ?_)
      exact Prog.Keeps.after (DomainHolds.checkedSubmit known holds _ _ _) (fun _ => .pure _)
  · by_cases modifies : ∃ doc, request.operation = .modify doc
    · obtain ⟨doc, asked⟩ := modifies
      have different : taskId ≠ request.taskId := by
        intro same
        simp [requestParts, asked, same] at defines
      refine shaped.keep (of_record (only.record taskId ?_)) (spared defines)
      simp [requestParts, asked, different]
    · exact shaped.keep (records (fun doc asked => modifies ⟨doc, asked⟩)) (spared defines)

theorem processDeleteTask_unknown : (h.processDeleteTask w taskId).taskInfos.find taskId = none := by
  unfold processDeleteTask
  split
  · assumption
  · exact destroyTask_unknown w taskId h

theorem process (shaped : Shaped taskId h) (ran : h.step hw (w, .process) = some k) : Shaped taskId k := by
  obtain ⟨event, rest, l, queue, worked, rfl⟩ := step_processed ran
  have only : Only (jobParts event.taskId event.job) { h with events := rest } l := by
    have confined := processJob_confined w event.taskId event.job { h with events := rest }
    rwa [worked] at confined
  have before : Shaped taskId { h with events := rest } := shaped
  have after : Shaped taskId l := by
    by_cases own : taskId = event.taskId
    · subst own
      by_cases deleted : event.job = .deleteTask
      · intro info known
        have same : l = processDeleteTask w event.taskId { h with events := rest } := by
          rw [deleted] at worked
          exact (congrArg Prod.snd worked).symm
        rw [same, processDeleteTask_unknown] at known
        cases known
      · refine before.keep (fun info known => (Ended.processJob worked).shape known) (fun old known holds => ?_)
        have kept := holds.processJob (w := w) (fun _ _ => rfl) deleted (fun _ info _ same _ _ _ => by
          cases Option.some.inj (known.symm.trans same)
          rfl)
        rwa [worked] at kept
    · have within := jobParts_within event.taskId event.job
      exact before.keep (of_record (only.record taskId (within.other rfl own)))
        (fun _ _ holds => holds.frame only (within.other rfl own) (within.other rfl own) (within.other rfl own))
  exact after

theorem step (shaped : ∀ taskId, Shaped taskId h) {event : World × HostEvent} (lasting : Lasting hw h event)
    (ran : h.step hw event = some k) (taskId : Bytes) : Shaped taskId k := by
  have shape := shaped taskId
  obtain ⟨w, event⟩ := event
  cases event with
  | create wallet additional rentEnd role =>
    rcases step_create ran with rfl | ⟨params, root, parsed, rfl⟩
    · exact shape
    · have only := addTask_only w h wallet rentEnd params root
      by_cases own : taskId = params.taskId
      · intro info _
        refine .of_missing ?_
        rw [own, only.defined (by simp [createParts]), (parseCreateParams_ok parsed).1]
        exact lasting
      · have within := createParts_within params.taskId
        exact shape.keep (of_record (only.record taskId (within.other rfl own)))
          (fun _ _ holds => holds.frame only (within.other rfl own) (within.other rfl own) (within.other rfl own))
  | request wallet request =>
    rw [← step_request ran]
    exact shape.request lasting
  | deleteImage additional =>
    rw [← survives_some ran]
    exact shape.frame (deleteImage_confined w additional h) (by simp) (by simp)
  | process => exact shape.process ran
  | close target =>
    cases ran
    have only := closeTask_only w target h
    by_cases own : taskId = target
    · subst own
      refine shape.keep (fun info known => ?_) (fun _ _ holds => holds.closeTask)
      rcases closeTask_record w taskId h with same | ⟨_, _, _, changed⟩
      · exact of_record same info known
      · exact of_map changed (fun _ => rfl) info known
    · exact shape.frame only (by simpa using own) (by simpa using Ne.symm own)
  | destroy target =>
    cases ran
    have only := destroyTask_only w target h
    by_cases own : taskId = target
    · intro info known
      rw [own, destroyTask_unknown] at known
      cases known
    · have within := destroyParts_within target
      exact shape.keep (of_record (only.record taskId (within.other rfl own)))
        (fun _ _ holds => holds.frame only (within.other rfl own) (within.other rfl own) (within.other rfl own))
  | uploaded target snapshotName =>
    rw [← survives_some ran]
    exact shape.frame (setSnapshotStatus_confined target snapshotName .none h) (by simp) (by simp)
  | domainChanges target state =>
    have only := domainChanges_only ran
    refine shape.keep (of_record (only.record taskId (by simp))) (fun _ _ holds => ?_)
    by_cases own : taskId = target
    · subst own
      exact holds.domainChanges ran
    · exact holds.frame only (by simpa using own) (by simpa using own) (by simpa using own)
  | fileAppears path backing => exact shape.frame (fileAppears_only ran) (by simp) (by simp)

end Shaped

/-- Where no step leaves something in memory alone, a restart would find
every record as it is: what is in the database is stored with each change,
and the rest is read from the definition of the domain. -/
theorem reload_exact {hw : Hardware} {trace : List (World × HostEvent)} {h : Host}
    (run : Run (step hw) (Lasting hw) Host.empty trace h) : ReloadExact h := by
  have both : AllStored id h ∧ ∀ taskId, Shaped taskId h := by
    refine run.invariant (P := fun h => AllStored id h ∧ ∀ taskId, Shaped taskId h) ⟨AllStored.empty, ?_⟩ ?_
    · intro taskId info known
      cases known
    · intro h k event before lasting ran
      exact ⟨before.1.step lasting.login ran, Shaped.step before.2 lasting ran⟩
  exact reloadExact_of both.1 both.2

/-- The parameters of a small task that boots over the network. -/
def pxeTask (sshPort vncPort gpuCount : String) : Json :=
  .object ([("image_name", "a.qcow2"), ("bios_mode", "pxe"), ("ssh_port", sshPort), ("vnc_port", vncPort),
    ("cpu_cores", "2"),
    ("mem_size", "1"), ("gpu_count", gpuCount)].map (fun member => (str member.1, .string (str member.2))))

/-- A task that boots over the network is created and stopped, and then its
screen gets another port. -/
theorem screen_moved : ∃ trace h, Run (step .small) (Lasting .small) Host.empty trace h ∧
    ((h.taskInfos.find (str "task")).map (·.vncPort) = some 5902 ∧ h.isExistDomain (str "task")) ∧
      ReloadExact h := by
  have facts : (runAll (guarded (step .small) (fun h event => decide (Lasting .small h event))) Host.empty
      ([.fileAppears (str "/data/a.qcow2") [],
        .create (str "wallet") (some (pxeTask "20001" "5901" "0")) 100 .walletRenter,
        .process, .request (str "wallet") ⟨str "task", .poweroff⟩, .process,
        .request (str "wallet") ⟨str "task", .modify (.object [(str "new_vnc_port", .string (str "5902"))])⟩].map
          (fun event => (.calm (str "task"), event)))).any
      (fun h => (h.taskInfos.find (str "task")).map (·.vncPort) = some 5902 ∧
        h.isExistDomain (str "task")) = true := by
    decide +kernel
  obtain ⟨h, ran, holds⟩ := (Option.any_eq_true _ _).mp facts
  have run := Run.of_guarded (fun h event => of_decide_eq_true) _ .start ran
  exact ⟨_, h, run, of_decide_eq_true holds, reload_exact run⟩

/-- The login of a task that was created is only in memory. -/
theorem login_lost : ∃ trace h, Reaches (step .small) Host.empty trace h ∧ ¬ ReloadExact h := by
  have facts : (runAll (step .small) Host.empty (oneRuns (str "task"))).any (fun h =>
      h.isExistDomain (str "task") ∧ (h.taskInfos.find (str "task")).any (fun info =>
        (h.reloaded (str "task")).map (·.loginUsername) ≠ some info.loginUsername)) = true := by decide +kernel
  obtain ⟨h, ran, holds⟩ := (Option.any_eq_true _ _).mp facts
  obtain ⟨present, lost⟩ := of_decide_eq_true holds
  obtain ⟨info, known, differs⟩ := (Option.any_eq_true _ _).mp lost
  refine ⟨_, h, Reaches.of_runAll _ .start ran, fun same => of_decide_eq_true differs ?_⟩
  rw [same (str "task") info known present]
  rfl

end Host

end DbcNode
