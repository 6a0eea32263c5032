import DbcNode.Task.Persisted
import DbcNode.Task.RunningSet
import DbcNode.Task.StageRuns

namespace DbcNode.Host
open Layout
variable {hw : Hardware} {w : World} {taskId : Bytes} {doc : Json} {info : TaskInfo} {h t : Host}

/-- What a modification is about. -/
def modifiable : Set ModifyPart := {.rest}ᶜ

theorem resetIptables_kept (needed : Bool) (part : ModifyPart) :
    (settings taskId).read part (t.resetIptables taskId needed) = (settings taskId).read part t := by
  unfold resetIptables addIptableToSystem removeIptableFromSystem
  split
  · split <;> split <;> cases part <;> rfl
  · rfl

/-- The second half, which goes on from any state that has the domain of the
task as it was. -/
theorem modifyDomain_outcome {reply : Bool → Bytes} {parts : Set ModifyPart} {touched : Bool}
    (known : h.taskInfos.find taskId = some info) (present : h.isExistDomain taskId)
    (only : (settings taskId).ModifiesOnly parts h t) (rest : .rest ∉ parts) (gpus : .gpus ∉ parts)
    (vnc : .setting .vncPort ∉ parts) (cpu : .setting .cpu ∉ parts) (memory : .setting .memory ∉ parts) :
    (settings taskId).Outcome modifiable false (Redefined (redefineNeeded hw w taskId doc info h) taskId) touched
      [vncStage taskId doc info h, gpuStage hw taskId doc h,
      cpuStage hw doc info, memStage w doc info, redefineStage hw w taskId doc info h] t
      ((do
        let needed ← modifyDomain hw w taskId doc
        redefine w taskId needed
        pure (reply needed) : Call Bytes) t) := by
  simp only [modifyDomain, bind_assoc, pure_bind]
  have midway := Midway.of_only only rest
  obtain ⟨now, found⟩ := midway.own known
  refine .bind (modifyVncPort_runs midway found (shows_vncPort.now only vnc known found))
    (by simp [vncStage, gpuStage, cpuStage, memStage, redefineStage]) ?_
  intro t _ next
  have only := only.grow next
  have midway := Midway.of_only only (by simpa [vncStage] using rest)
  refine .bind (modifyGpus_runs midway (only .gpus (by simpa [vncStage] using gpus)))
    (by simp [gpuStage, cpuStage, memStage, redefineStage]) ?_
  intro t _ next
  have only := only.grow next
  have midway := Midway.of_only only (by simpa [vncStage, gpuStage] using rest)
  obtain ⟨now, found⟩ := midway.own known
  refine .bind (modifyCpu_runs found (shows_cpu.now only (by simpa [vncStage, gpuStage] using cpu) known found))
    (by simp [cpuStage, memStage, redefineStage]) ?_
  intro t _ next
  have only := only.grow next
  have midway := Midway.of_only only (by simpa [vncStage, gpuStage, cpuStage] using rest)
  obtain ⟨now, found⟩ := midway.own known
  have size := shows_memory.now only (by simpa [vncStage, gpuStage, cpuStage] using memory) known found
  refine .bind (modifyMem_runs found size) (by simp [memStage, redefineStage]) ?_
  intro t _ next
  have only := only.grow next
  have midway := Midway.of_only only (by simpa [vncStage, gpuStage, cpuStage, memStage] using rest)
  obtain ⟨now, found⟩ := midway.own known
  refine redefine_outcome found ?_ ?_ rfl (by simp [modifiable])
  · rw [isExistDomain, midway.domains]
    exact present
  · rfl

theorem existingTask_found (known : h.taskInfos.find taskId = some info) (present : h.isExistDomain taskId) :
    existingTask taskId h = (.ok info, h) := by
  unfold existingTask
  rw [known]
  exact if_pos present

theorem modifyPublicIp_address {ip : Bytes} {changed : Bool} (known : h.taskInfos.find taskId = some info)
    (ran : modifyPublicIp w taskId ip h = (.ok changed, t)) :
    (t.taskInfos.find taskId).map (·.publicIp) = some ip := by
  unfold modifyPublicIp at ran
  have run := (withInfo_found known).symm.trans ran
  split at run
  · cases run
  · split at run
    · rename_i same
      cases run
      rw [known, same]
      rfl
    · cases run
      have set := (SetTo.updateInfo taskId (fun info => { info with publicIp := ip }) h).setIptable
        (fun iptable => { iptable with publicIp := ip })
      rw [set.own, known]
      rfl

/-- The stages from the custom ports on. -/
theorem modifyLater_outcome {touched : Bool} {reply : Bool → Bytes} (known : h.taskInfos.find taskId = some info)
    (present : h.isExistDomain taskId) (texts : customPorts doc ≠ some none)
    (only : (settings taskId).ModifiesOnly {.setting .rdpPort, .setting .sshPort, .setting .publicIp} h t) :
    (settings taskId).Outcome modifiable false (Redefined (redefineNeeded hw w taskId doc info h) taskId) touched
      [customStage doc info, nwfilterStage doc info, filterStage w doc info,
      vncStage taskId doc info h, gpuStage hw taskId doc h, cpuStage hw doc info, memStage w doc info,
      redefineStage hw w taskId doc info h] t
      ((do
        let custom ← modifyCustomPort taskId doc
        Prog.update (resetIptables taskId (touched || custom))
        modifyNwfilter w taskId doc
        let needed ← modifyDomain hw w taskId doc
        redefine w taskId needed
        pure (reply needed) : Call Bytes) t) := by
  have midway := Midway.of_only only (by simp)
  obtain ⟨now, found⟩ := midway.own known
  have ports := shows_customPort.now only (by simp) known found
  refine .bind (modifyCustomPort_runs found ports texts)
    (by simp [customStage, nwfilterStage, filterStage, vncStage, gpuStage, cpuStage, memStage, redefineStage]) ?_
  intro t _ next
  have only := only.grow next
  rw [Prog.bind_ok (Prog.update_run _ _)]
  refine .after (u := t.resetIptables taskId (touched || (customStage doc info).changes))
    (fun part _ => resetIptables_kept _ part) (fun untouched => by rw [untouched]; rfl) ?_
  have only := only.trans (u := t.resetIptables taskId (touched || (customStage doc info).changes))
    (fun part _ => resetIptables_kept _ part)
  have midway := Midway.of_only only (by simp [customStage])
  obtain ⟨now, found⟩ := midway.own known
  have filters := shows_nwfilter.now only (by simp [customStage]) known found
  refine modifyNwfilter_outcome found filters (by simp [vncStage, gpuStage, cpuStage, memStage, redefineStage]) ?_
  intro t next
  refine modifyDomain_outcome known present (only.grow next) ?_ ?_ ?_ ?_ ?_ <;> simp [customStage]

/-- The first three stages are about parts that no later one is about. -/
theorem modifyStages_fresh {part : ModifyPart}
    (first : part = .setting .publicIp ∨ part = .setting .sshPort ∨ part = .setting .rdpPort) : part ∉
      (samePortsStage doc :: if customPorts doc = some none then []
        else [customStage doc info, nwfilterStage doc info, filterStage w doc info, vncStage taskId doc info h,
          gpuStage hw taskId doc h, cpuStage hw doc info, memStage w doc info,
            redefineStage hw w taskId doc info h]).map
        Stage.part := by
  rcases first with rfl | rfl | rfl <;> split <;>
    simp [samePortsStage, customStage, nwfilterStage, filterStage, vncStage, gpuStage, cpuStage, memStage,
      redefineStage]

/-- A modification is refused exactly where one of its stages is, and it has
changed what the stages before have changed. -/
theorem modifyTask_outcome (hw : Hardware) (w : World) (known : h.taskInfos.find taskId = some info)
    (present : h.isExistDomain taskId) (object : doc.isObject) :
    (settings taskId).Outcome modifiable (customPorts doc = some none)
      (Redefined (redefineNeeded hw w taskId doc info h) taskId) false (modifyStages hw w taskId doc info h) h
        (modifyTask hw w taskId doc h) := by
  have accepted : (if doc.isObject then none else some (str "additional parse failed")) = none := if_pos object
  simp only [modifyTask, modifyNetwork, bind_assoc]
  rw [Prog.bind_ok (existingTask_found known present), Prog.bind_ok (refuse_ok accepted)]
  refine .bind (modifyPublicIp_runs known) ?_ ?_
  · simpa [ipStage, portStage] using modifyStages_fresh (Or.inl rfl)
  intro t ran only
  have address := modifyPublicIp_address known ran
  have midway := Midway.of_only only (by simp [ipStage])
  obtain ⟨now, found⟩ := midway.own known
  have own : now.publicIp = doc.parseString (str "new_public_ip") := by
    rw [found] at address
    exact Option.some.inj address
  have port := shows_sshPort.now only (by simp [ipStage]) known found
  refine .bind (modifyPort_runs midway found own shows_sshPort port setBy_sshPort (fun _ _ => rfl)) ?_ ?_
  · simpa [portStage] using modifyStages_fresh (Or.inr (Or.inl rfl))
  intro u _ next
  have still : ∀ after, u.taskInfos.find taskId = some after →
    after.publicIp = doc.parseString (str "new_public_ip") :=
    fun after found' => (shows_publicIp.now next (by simp [portStage]) found found').trans own
  have only := only.grow next
  have midway := Midway.of_only only (by simp [ipStage, portStage])
  obtain ⟨after, found'⟩ := midway.own known
  have port := shows_rdpPort.now only (by simp [ipStage, portStage]) known found'
  refine .bind (modifyPort_runs midway found' (still after found') shows_rdpPort port setBy_rdpPort
    (fun _ _ => rfl)) ?_ ?_
  · exact modifyStages_fresh (Or.inr (Or.inr rfl))
  intro t _ next
  have only := only.grow next
  refine .check rfl (refuse_runs .rest (fun _ => samePorts doc)) ?_
  split
  · rename_i noText
    have midway := Midway.of_only only (by simp [ipStage, portStage])
    obtain ⟨now, found⟩ := midway.own known
    rw [Prog.bind_error (modifyCustomPort_dies found noText)]
    exact .done (by rw [if_pos (decide_eq_true noText)]) (fun _ _ => rfl)
  · rename_i texts
    rw [decide_eq_false texts]
    exact modifyLater_outcome known present texts only

/-- A setting in the database, which has only those of the network. -/
def Setting.ofDb : (setting : Setting) → Option DbTaskInfo → setting.Value
  | .publicIp => fun db => (db.map (·.publicIp), none)
  | .sshPort => fun db => (db.map (·.sshPort), none)
  | .rdpPort => fun db => (db.map (·.rdpPort), none)
  | .customPort => fun db => (db.map (·.customPort), none)
  | .nwfilter => fun db => db.map (·.nwfilter)
  | .vncPort | .cpu | .memory => fun _ => none

/-- A modification that is refused leaves the records of the task as they
were. -/
def ModifyAtomic (hw : Hardware) (w : World) (taskId : Bytes) (doc : Json) (h : Host) : Prop := ∀ error k,
  modifyTask hw w taskId doc h = (.error (.thrown error), k) → recordOf taskId k = recordOf taskId h ∧
    k.taskIptables.find taskId = h.taskIptables.find taskId ∧ k.taskGpus.find taskId = h.taskGpus.find taskId

/-- A modification that is done leaves all as it was that the request does
not name. -/
def ModifyFramed (hw : Hardware) (w : World) (taskId : Bytes) (doc : Json) (h : Host) : Prop := ∀ reply k,
  modifyTask hw w taskId doc h = (.ok reply, k) →
    (∀ setting : Setting, doc.member setting.key = none →
      setting.get (k.taskInfos.find taskId) (k.taskIptables.find taskId) =
        setting.get (h.taskInfos.find taskId) (h.taskIptables.find taskId) ∧
      setting.ofDb (k.taskDb.find taskId) = setting.ofDb (h.taskDb.find taskId)) ∧
    (doc.member (str "new_gpu_count") = none → k.taskGpus.find taskId = h.taskGpus.find taskId)

/-- No stage is refused after one that changes something, and a public ip is
not forgotten that the request does not name. -/
def ModifyClean (hw : Hardware) (w : World) (taskId : Bytes) (doc : Json) (h : Host) : Prop := ∀ info,
  h.taskInfos.find taskId = some info → h.isExistDomain taskId → doc.isObject →
    (Stage.refused (modifyStages hw w taskId doc info h) →
      Stage.changed (modifyStages hw w taskId doc info h) = []) ∧
    (Stage.refused (modifyStages hw w taskId doc info h) = false → customPorts doc ≠ some none →
      doc.member (str "new_public_ip") = none → info.publicIp = [])

theorem parseString_absent (key : Bytes) (absent : doc.member key = none) : doc.parseString key = [] := by
  rw [Json.parseString, absent]
  rfl

theorem mem_modifyStages {stage : Stage ModifyPart} (member : stage ∈ modifyStages hw w taskId doc info h) :
    stage ∈ [ipStage w taskId doc info h, portStage taskId doc info h .sshPort sshField,
      portStage taskId doc info h .rdpPort rdpField, samePortsStage doc, customStage doc info,
        nwfilterStage doc info,
      filterStage w doc info, vncStage taskId doc info h, gpuStage hw taskId doc h, cpuStage hw doc info,
      memStage w doc info, redefineStage hw w taskId doc info h] := by
  unfold modifyStages at member
  split at member
  · simp only [List.mem_cons, List.not_mem_nil, or_false] at member ⊢
    tauto
  · exact member

/-- What a request does not name is not changed, except for the public
ip. -/
theorem changed_named {setting : Setting}
    (member : .setting setting ∈ Stage.changed (modifyStages hw w taskId doc info h))
    (other : setting ≠ .publicIp) : doc.member setting.key ≠ none := by
  intro absent
  obtain ⟨stage, inside, part, changes⟩ := Stage.changes_of_mem member
  have inside := mem_modifyStages inside
  simp only [List.mem_cons, List.not_mem_nil, or_false] at inside
  rcases inside with rfl | rfl | rfl | rfl | rfl | rfl | rfl | rfl | rfl | rfl | rfl | rfl <;> cases part
  · exact other rfl
  · simp [portStage, parseString_absent sshField.name absent] at changes
  · simp [portStage, parseString_absent rdpField.name absent] at changes
  · simp [customStage, customPorts, show doc.member (str "new_custom_port") = none from absent] at changes
  · simp [nwfilterStage, show doc.member (str "new_network_filters") = none from absent] at changes
  · simp [vncStage, parseString_absent (str "new_vnc_port") absent] at changes
  · simp [cpuStage, parseString_absent (str "new_cpu_cores") absent] at changes
  · simp [memStage, parseString_absent (str "new_mem_size") absent] at changes

theorem gpus_changed_named (member : .gpus ∈ Stage.changed (modifyStages hw w taskId doc info h)) :
    doc.member (str "new_gpu_count") ≠ none := by
  intro absent
  obtain ⟨stage, inside, part, changes⟩ := Stage.changes_of_mem member
  have inside := mem_modifyStages inside
  simp only [List.mem_cons, List.not_mem_nil, or_false] at inside
  rcases inside with rfl | rfl | rfl | rfl | rfl | rfl | rfl | rfl | rfl | rfl | rfl | rfl <;> cases part
  simp [gpuStage, gpuAsked, parseString_absent _ absent] at changes

/-- A public ip that the request does not name is forgotten. -/
theorem publicIp_changed (absent : doc.member (str "new_public_ip") = none) :
    .setting .publicIp ∈ Stage.changed (modifyStages hw w taskId doc info h) ↔ info.publicIp ≠ [] := by
  have empty := parseString_absent _ absent
  have passes : (ipStage w taskId doc info h).refuses = false := by simp [ipStage, empty, checkPublicIp]
  constructor
  · rintro member
    obtain ⟨stage, inside, part, changes⟩ := Stage.changes_of_mem member
    have inside := mem_modifyStages inside
    simp only [List.mem_cons, List.not_mem_nil, or_false] at inside
    rcases inside with rfl | rfl | rfl | rfl | rfl | rfl | rfl | rfl | rfl | rfl | rfl | rfl <;> cases part
    rw [ipStage, empty] at changes
    exact fun none => of_decide_eq_true changes none.symm
  · intro address
    have changes : (ipStage w taskId doc info h).changes = true := by
      rw [ipStage, empty]
      exact decide_eq_true (fun none => address none.symm)
    rw [modifyStages, Stage.changed, if_neg (by rw [passes]; exact Bool.false_ne_true), if_pos changes]
    exact List.mem_cons_self

section Clean
variable {k : Host}

theorem modifyTask_stops (hw : Hardware) (w : World)
    (stops : ∀ info, h.taskInfos.find taskId = some info → h.isExistDomain taskId → ¬ doc.isObject) :
    ∃ error, modifyTask hw w taskId doc h = (.error (.thrown error), h) := by
  unfold modifyTask
  by_cases exists_ : ∃ info, h.taskInfos.find taskId = some info ∧ h.isExistDomain taskId
  · obtain ⟨info, known, present⟩ := exists_
    have refused : (if doc.isObject then none else some (str "additional parse failed")) =
        some (str "additional parse failed") := if_neg (stops info known present)
    rw [Prog.bind_ok (existingTask_found known present), Prog.bind_error (refuse_error refused)]
    exact ⟨_, rfl⟩
  · have missing : existingTask taskId h = (.error (.thrown (str "task not exist")), h) := by
      unfold existingTask
      split
      · rfl
      · rename_i info known
        exact if_neg (fun present => exists_ ⟨info, known, present⟩)
    rw [Prog.bind_error missing]
    exact ⟨_, rfl⟩

/-- The login is not a setting. -/
theorem ofDb_loginFree (setting : Setting) : LoginFree (fun db => setting.ofDb (some db)) := by
  intro db username password
  cases setting <;> rfl

theorem Setting.ofDb_stored {setting : Setting} (stored : AllStored (fun db => setting.ofDb (some db)) h)
    (known : h.taskInfos.find taskId = some info) :
    setting.ofDb (h.taskDb.find taskId) = setting.ofDb (some info.toDbTaskInfo) := by
  obtain ⟨db, found, same⟩ := Option.map_eq_some_iff.mp (stored taskId info known)
  have found : h.taskDb.find taskId = some db := found
  rw [found]
  exact same

/-- A setting of the database is as it was where the one in memory is. -/
theorem Setting.ofDb_kept {setting : Setting} {now : TaskInfo}
    (before : AllStored (fun db => setting.ofDb (some db)) h)
    (after : AllStored (fun db => setting.ofDb (some db)) k) (known : h.taskInfos.find taskId = some info)
    (found : k.taskInfos.find taskId = some now)
    (same : setting.get (k.taskInfos.find taskId) (k.taskIptables.find taskId) =
      setting.get (h.taskInfos.find taskId) (h.taskIptables.find taskId)) :
    setting.ofDb (k.taskDb.find taskId) = setting.ofDb (h.taskDb.find taskId) := by
  rw [ofDb_stored before known, ofDb_stored after found]
  rw [known, found] at same
  cases setting with
  | publicIp =>
    have own : some now.publicIp = some info.publicIp := congrArg Prod.fst same
    exact Prod.ext own rfl
  | sshPort =>
    have own : some now.sshPort = some info.sshPort := congrArg Prod.fst same
    exact Prod.ext own rfl
  | rdpPort =>
    have own : some now.rdpPort = some info.rdpPort := congrArg Prod.fst same
    exact Prod.ext own rfl
  | customPort =>
    have own : some now.customPort = some info.customPort := congrArg Prod.fst same
    exact Prod.ext own rfl
  | nwfilter => exact same
  | vncPort => rfl
  | cpu => rfl
  | memory => rfl

/-- A part that a stage has changed is in the records of the task. -/
theorem modifyTask_differs {part : ModifyPart} (counts : part ∈ modifiable)
    (ran : (modifyTask hw w taskId doc h).2 = k)
    (differs : (settings taskId).read part k ≠ (settings taskId).read part h) :
    ¬ (recordOf taskId k = recordOf taskId h ∧ k.taskIptables.find taskId = h.taskIptables.find taskId ∧
      k.taskGpus.find taskId = h.taskGpus.find taskId) := by
  rintro ⟨record, iptable, gpus⟩
  have info : k.taskInfos.find taskId = h.taskInfos.find taskId := congrArg Prod.fst record
  cases part with
  | setting one =>
    refine differs ?_
    change one.get (k.taskInfos.find taskId) (k.taskIptables.find taskId) = _
    rw [info, iptable]
    rfl
  | gpus =>
    have only := modifyTask_confined hw w taskId doc h
    rw [ran] at only
    have same : k.taskGpus = h.taskGpus := by
      refine OrdMap.ext_find (fun other => ?_)
      by_cases own : other = taskId
      · rw [own, gpus]
      · exact Only.gpus only (by simpa using own)
    exact differs same
  | rest => exact counts rfl

end Clean

section Settle
variable {k : Host} (known : h.taskInfos.find taskId = some info) (present : h.isExistDomain taskId)
    (object : doc.isObject)
include known present object

/-- A modification is atomic exactly if nothing is changed before it is
refused. -/
theorem modifyAtomic_iff : ModifyAtomic hw w taskId doc h ↔ (Stage.refused (modifyStages hw w taskId doc info h) →
    Stage.changed (modifyStages hw w taskId doc info h) = []) := by
  have outcome := modifyTask_outcome hw w known present object
  constructor
  · intro atomic refused
    obtain ⟨error, thrown⟩ := outcome.refuses refused
    by_contra changed
    obtain ⟨part, member⟩ := List.exists_mem_of_ne_nil _ changed
    have counts : part ∈ modifiable := by
      obtain ⟨stage, inside, rfl, changes⟩ := Stage.changes_of_mem member
      have inside := mem_modifyStages inside
      simp only [List.mem_cons, List.not_mem_nil, or_false] at inside
      rcases inside with rfl | rfl | rfl | rfl | rfl | rfl | rfl | rfl | rfl | rfl | rfl | rfl <;>
        first | exact ModifyPart.noConfusion | cases changes
    refine modifyTask_differs counts rfl (fun same => (outcome.moved part counts).mp same member) ?_
    exact atomic error _ (Prod.ext thrown rfl)
  · intro clean error k stopped
    rw [stopped] at outcome
    have refused : Stage.refused (modifyStages hw w taskId doc info h) = true := by
      by_contra passes
      have ended := outcome.ends (Bool.eq_false_iff.mpr passes)
      split at ended
      · cases ended
      · obtain ⟨⟨_, returned⟩, _⟩ := ended
        cases returned
    have same : k = h := outcome.same refused rfl (clean refused)
    subst same
    exact ⟨rfl, rfl, rfl⟩

/-- A modification keeps to what it names exactly if it does not forget a
public ip. -/
theorem modifyFramed_iff (stored : ∀ setting : Setting, AllStored (fun db => setting.ofDb (some db)) h) :
    ModifyFramed hw w taskId doc h ↔ (Stage.refused (modifyStages hw w taskId doc info h) = false →
      customPorts doc ≠ some none → doc.member (str "new_public_ip") = none → info.publicIp = []) := by
  have outcome := modifyTask_outcome hw w known present object
  constructor
  · intro framed passes texts absent
    have ended := outcome.ends passes
    rw [if_neg (by simpa using texts)] at ended
    obtain ⟨⟨reply, returned⟩, _⟩ := ended
    obtain ⟨kept, _⟩ := framed reply _ (Prod.ext returned rfl)
    have moved := outcome.moved (.setting .publicIp) ModifyPart.noConfusion
    by_contra address
    exact moved.mp (kept .publicIp absent).1 ((publicIp_changed absent).mpr address)
  · intro clean reply k returned
    have edits : Edits h (modifyTask hw w taskId doc h).2 := Editing.modifyTask hw w doc h
    rw [returned] at outcome edits
    have passes : Stage.refused (modifyStages hw w taskId doc info h) = false := by
      by_contra refused
      obtain ⟨error, thrown⟩ := outcome.refuses (by simpa using refused)
      cases thrown
    have texts : customPorts doc ≠ some none := by
      intro noText
      have ended := outcome.ends passes
      rw [if_pos (decide_eq_true noText)] at ended
      cases ended
    have kept : ∀ setting : Setting, doc.member setting.key = none →
        setting.get (k.taskInfos.find taskId) (k.taskIptables.find taskId) =
          setting.get (h.taskInfos.find taskId) (h.taskIptables.find taskId) := by
      intro setting absent
      refine (outcome.moved (.setting setting) ModifyPart.noConfusion).mpr (fun member => ?_)
      by_cases address : setting = .publicIp
      · subst address
        exact (publicIp_changed absent).mp member (clean passes texts absent)
      · exact changed_named member address absent
    refine ⟨fun setting absent => ⟨kept setting absent, ?_⟩, fun absent => ?_⟩
    · obtain ⟨now, found, _⟩ := Option.map_eq_some_iff.mp ((edits.label taskId).trans (congrArg _ known))
      exact Setting.ofDb_kept (stored setting)
        (fun other => edits.stored _ other (stored setting other)) known found (kept setting absent)
    · have same : k.taskGpus = h.taskGpus :=
        (outcome.moved .gpus ModifyPart.noConfusion).mpr (fun member => gpus_changed_named member absent)
      rw [same]

end Settle

/-- The database keeps up with memory in all but the login, so a
modification is atomic and keeps to what it names exactly if it is clean.
One that is refused at a later stage keeps what the earlier ones have
changed. -/
theorem modify_atomic_framed {trace : List (World × HostEvent)}
    (reached : Reaches (step hw) Host.empty trace h) (w : World) (taskId : Bytes) (doc : Json) :
    ModifyAtomic hw w taskId doc h ∧ ModifyFramed hw w taskId doc h ↔ ModifyClean hw w taskId doc h := by
  have stored : ∀ setting : Setting, AllStored (fun db => setting.ofDb (some db)) h :=
    fun setting => allStored_of_reaches (ofDb_loginFree setting) reached
  by_cases goes : ∃ info, h.taskInfos.find taskId = some info ∧ h.isExistDomain taskId ∧ doc.isObject
  · obtain ⟨info, known, present, object⟩ := goes
    rw [modifyAtomic_iff known present object, modifyFramed_iff known present object stored]
    constructor
    · intro both other found _ _
      cases Option.some.inj (known.symm.trans found)
      exact both
    · intro clean
      exact clean info known present object
  · have stops : ∀ info, h.taskInfos.find taskId = some info → h.isExistDomain taskId → ¬ doc.isObject :=
      fun info known present object => goes ⟨info, known, present, object⟩
    obtain ⟨error, stopped⟩ := modifyTask_stops hw w stops
    constructor
    · intro _ info known present object
      exact (stops info known present object).elim
    · intro _
      refine ⟨fun other k ended => ?_, fun reply k ended => ?_⟩
      · rw [stopped] at ended
        cases ended
        exact ⟨rfl, rfl, rfl⟩
      · rw [stopped] at ended
        cases ended

/-- New ports for SSH and for RDP. -/
def newPorts (ssh rdp : String) : Json :=
  .object [(str "new_ssh_port", .string (str ssh)), (str "new_rdp_port", .string (str rdp))]

theorem new_ports_kept : ∃ trace h, Reaches (step .small) Host.empty trace h ∧ str "task" ∈ h.taskInfos.keys ∧
    ModifyAtomic .small (.calm []) (str "task") (newPorts "20002" "20003") h ∧
    ModifyFramed .small (.calm []) (str "task") (newPorts "20002" "20003") h := by
  have facts : (runAll (step .small) Host.empty (oneRuns (str "task"))).any
    (fun h => str "task" ∈ h.taskInfos.keys ∧
      (h.taskInfos.find (str "task")).all (fun info => info.publicIp = [] ∧
        Stage.refused (modifyStages .small (.calm []) (str "task") (newPorts "20002" "20003") info h) = false)) =
          true := by
    decide +kernel
  obtain ⟨h, ran, holds⟩ := (Option.any_eq_true _ _).mp facts
  obtain ⟨listed, clean⟩ := of_decide_eq_true holds
  have reached := Reaches.of_runAll _ .start ran
  refine ⟨_, h, reached, listed, (modify_atomic_framed reached _ _ _).mpr (fun info known _ _ => ?_)⟩
  rw [known] at clean
  obtain ⟨address, passes⟩ := of_decide_eq_true clean
  exact ⟨fun refused => (by rw [passes] at refused; cases refused), fun _ _ _ => address⟩

/-- The port for SSH is set, and then the one for RDP is refused. -/
theorem new_port_set_and_refused : ∃ trace h, Reaches (step .small) Host.empty trace h ∧
    ¬ (ModifyAtomic .small (.calm []) (str "task") (newPorts "20002" "0") h ∧
      ModifyFramed .small (.calm []) (str "task") (newPorts "20002" "0") h) := by
  have facts : (runAll (step .small) Host.empty (oneRuns (str "task"))).any (fun h =>
      (modifyTask .small (.calm []) (str "task") (newPorts "20002" "0") h).1 =
        .error (.thrown (str "new_rdp_port 0 is invalid! (usage: > 0)")) ∧
      ((modifyTask .small (.calm []) (str "task") (newPorts "20002" "0") h).2.taskInfos.find (str "task")).map
        (·.sshPort) ≠ (h.taskInfos.find (str "task")).map (·.sshPort)) = true := by
    decide +kernel
  obtain ⟨h, ran, holds⟩ := (Option.any_eq_true _ _).mp facts
  obtain ⟨refused, moved⟩ := of_decide_eq_true holds
  refine ⟨_, h, Reaches.of_runAll _ .start ran, fun both => moved ?_⟩
  obtain ⟨record, _⟩ := both.1 _ _ (Prod.ext refused rfl)
  exact congrArg (fun record : Record => record.1.map (·.sshPort)) record

end DbcNode.Host
