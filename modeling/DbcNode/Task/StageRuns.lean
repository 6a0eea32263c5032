import DbcNode.Task.DomainHolds
import DbcNode.Task.Stages

namespace DbcNode.Host
open Layout
variable {hw : Hardware} {w : World} {taskId : Bytes} {doc : Json} {info : TaskInfo} {h t : Host}

/-- The state in the middle of a modification, as far as the stages to come
read it. -/
structure Midway (taskId : Bytes) (h t : Host) : Prop where
  known : (t.taskInfos.find taskId).isSome = (h.taskInfos.find taskId).isSome
  others : t.otherInfos taskId = h.otherInfos taskId
  domains : t.domains = h.domains

theorem Midway.of_only {parts : Set ModifyPart} (only : (settings taskId).ModifiesOnly parts h t)
    (outside : .rest ∉ parts) :
    Midway taskId h t := by
  have same : ((t.taskInfos.find taskId).isSome, t.otherInfos taskId, t.domains) =
      ((h.taskInfos.find taskId).isSome, h.otherInfos taskId, h.domains) := only .rest outside
  simp only [Prod.mk.injEq] at same
  exact ⟨same.1, same.2.1, same.2.2⟩

theorem Midway.own (midway : Midway taskId h t) (known : h.taskInfos.find taskId = some info) :
    ∃ now, t.taskInfos.find taskId = some now := by
  have still := midway.known
  rw [known] at still
  exact Option.isSome_iff_exists.mp still

theorem checkPortConflict_eq_none {port : UInt16} : h.checkPortConflict port taskId = none ↔
    ∀ other info, h.otherInfos taskId other = some info → h.portConflict port other info = none := by
  unfold checkPortConflict
  rw [List.findSome?_eq_none_iff]
  constructor
  · intro free other info found
    unfold otherInfos at found
    split at found
    · cases found
    · rename_i different
      have passed := free (other, info) (OrdMap.find_eq_some.mp found)
      rwa [if_neg different] at passed
  · intro free entry member
    split
    · rfl
    · rename_i different
      refine free entry.1 entry.2 ?_
      rw [otherInfos, if_neg different]
      exact OrdMap.find_eq_some.mpr member

theorem Midway.checkPortConflict (midway : Midway taskId h t) (port : UInt16) :
    (t.checkPortConflict port taskId).isSome = (h.checkPortConflict port taskId).isSome := by
  have states : ∀ other info, t.portConflict port other info = h.portConflict port other info := by
    intro other info
    unfold portConflict getDomainStatus
    rw [midway.domains]
  rw [Bool.eq_iff_iff, Option.isSome_iff_ne_none, Option.isSome_iff_ne_none]
  refine not_congr ?_
  rw [checkPortConflict_eq_none, checkPortConflict_eq_none, midway.others]
  simp only [states]

theorem Midway.vncError (midway : Midway taskId h t) (text : Bytes) :
    (t.vncError taskId text).isSome = (h.vncError taskId text).isSome := by
  have conflict := midway.checkPortConflict (portOf text)
  unfold Host.vncError
  split
  · rfl
  · rw [Bool.eq_iff_iff, Option.isSome_iff_ne_none, Option.isSome_iff_ne_none] at conflict
    simp only [ne_eq] at conflict
    simp only [ne_eq, conflict]

theorem Midway.counted (midway : Midway taskId h t) (gpus : t.taskGpus = h.taskGpus) (other gpu : Bytes) :
    Counted other gpu t ↔ Counted other gpu h := by
  have known : (t.taskInfos.find other).isSome = (h.taskInfos.find other).isSome := by
    by_cases same : other = taskId
    · rw [same, midway.known]
    · have record := congrFun midway.others other
      rw [otherInfos, otherInfos, if_neg same, if_neg same] at record
      rw [record]
  unfold Counted getDomainStatus getTaskGpus
  rw [known, midway.domains, gpus]

/-- The same GPUs are free as long as the task still has its own. -/
theorem Midway.allocateGpu (midway : Midway taskId h t) (gpus : t.taskGpus = h.taskGpus) (hw : Hardware)
    (gpuCount : Int) :
    t.allocateGpu hw gpuCount = h.allocateGpu hw gpuCount := by
  have usable : t.canUseGpu hw = h.canUseGpu hw := by
    refine OrdMap.ext_find (fun gpu => Option.ext (fun devices => ?_))
    rw [find_canUseGpu, find_canUseGpu]
    simp only [midway.counted gpus]
  unfold Host.allocateGpu
  rw [usable]

section Runs
variable {α : Type} {a : α} {call : Call α} {stage : Stage ModifyPart}

theorem runsAs_idle (passes : stage.refuses = false) (idle : stage.changes = false) (ran : call t = (.ok a, t)) :
    (settings taskId).RunsAs stage a call t := by
  refine .passed t passes ran (.refl t) (fun _ => rfl) (fun changes => ?_)
  rw [idle] at changes
  cases changes

theorem runsAs_set {setting : Setting} {refuses changes : Bool} {change : TaskInfo → TaskInfo}
    {rules : IptableInfo → IptableInfo} {now : TaskInfo} {u : Host} (passes : refuses = false)
    (happens : changes = true) (ran : call t = (.ok a, u)) (set : SetTo taskId change rules t u)
    (setBy : setting.SetBy change rules) (found : t.taskInfos.find taskId = some now)
    (moved : ∀ first second, setting.get (some (change now)) first ≠ setting.get (some now) second) :
    (settings taskId).RunsAs ⟨.setting setting, refuses, changes⟩ a call t := by
  refine .passed u passes ran (set.only setBy) (fun idle => ?_) (fun _ => ?_)
  · rw [show changes = false from idle] at happens
    cases happens
  · change setting.get (u.taskInfos.find taskId) _ ≠ setting.get (t.taskInfos.find taskId) _
    rw [set.own, found]
    exact moved _ _

end Runs

/-- What tells a setting of two records apart. -/
def Setting.Shows {β : Type} (setting : Setting) (view : TaskInfo → β) : Prop := ∀ first second iptable rules,
  setting.get (some first) iptable = setting.get (some second) rules → view first = view second

theorem Setting.Shows.now {β : Type} {setting : Setting} {view : TaskInfo → β} {now : TaskInfo}
    {parts : Set ModifyPart} (shows : setting.Shows view) (only : (settings taskId).ModifiesOnly parts h t)
    (outside : .setting setting ∉ parts) (known : h.taskInfos.find taskId = some info)
    (found : t.taskInfos.find taskId = some now) : view now = view info := by
  have same : setting.get (t.taskInfos.find taskId) (t.taskIptables.find taskId) =
      setting.get (h.taskInfos.find taskId) (h.taskIptables.find taskId) := only _ outside
  rw [found, known] at same
  exact shows _ _ _ _ same

theorem shows_publicIp : Setting.publicIp.Shows (·.publicIp) := fun _ _ _ _ same =>
    Option.some.inj (congrArg Prod.fst same)

theorem shows_sshPort : Setting.sshPort.Shows (·.sshPort) := fun _ _ _ _ same =>
    Option.some.inj (congrArg Prod.fst same)

theorem shows_rdpPort : Setting.rdpPort.Shows (·.rdpPort) := fun _ _ _ _ same =>
    Option.some.inj (congrArg Prod.fst same)

theorem shows_customPort : Setting.customPort.Shows (·.customPort) :=
  fun _ _ _ _ same => Option.some.inj (congrArg Prod.fst same)

theorem shows_nwfilter : Setting.nwfilter.Shows (·.nwfilter) := fun _ _ _ _ same => Option.some.inj same

theorem shows_vncPort : Setting.vncPort.Shows (·.vncPort) := fun _ _ _ _ same => Option.some.inj same

theorem shows_cpu : Setting.cpu.Shows (fun info =>
    (⟨info.cpuSockets, info.cpuCoresPerSocket, info.cpuThreadsPerCore⟩ : CpuTopology)) :=
  fun _ _ _ _ same => Option.some.inj same

theorem shows_memory : Setting.memory.Shows (·.memSize) := fun _ _ _ _ same => Option.some.inj same

section SetBy

theorem setBy_publicIp (ip : Bytes) : Setting.publicIp.SetBy (fun info => { info with publicIp := ip })
    (fun iptable => { iptable with publicIp := ip }) := by
  intro other different info iptable
  cases other <;> first | exact absurd rfl different | (cases info <;> cases iptable <;> rfl)

theorem setBy_sshPort (port : UInt16) : Setting.sshPort.SetBy (sshField.set port) (sshField.setIptable port) := by
  intro other different info iptable
  cases other <;> first | exact absurd rfl different | (cases info <;> cases iptable <;> rfl)

theorem setBy_rdpPort (port : UInt16) : Setting.rdpPort.SetBy (rdpField.set port) (rdpField.setIptable port) := by
  intro other different info iptable
  cases other <;> first | exact absurd rfl different | (cases info <;> cases iptable <;> rfl)

theorem setBy_customPort (ports : List Bytes) :
    Setting.customPort.SetBy (fun info => { info with customPort := ports })
    (fun iptable => { iptable with customPort := ports }) := by
  intro other different info iptable
  cases other <;> first | exact absurd rfl different | (cases info <;> cases iptable <;> rfl)

theorem setBy_nwfilter (nwfilter : List Bytes) :
    Setting.nwfilter.SetBy (fun info => { info with nwfilter := nwfilter }) id := by
  intro other different info iptable
  cases other <;> first | exact absurd rfl different | (cases info <;> cases iptable <;> rfl)

theorem setBy_vncPort (port : UInt16) : Setting.vncPort.SetBy (fun info => { info with vncPort := port }) id := by
  intro other different info iptable
  cases other <;> first | exact absurd rfl different | (cases info <;> cases iptable <;> rfl)

theorem setBy_cpu (cpu : CpuTopology) : Setting.cpu.SetBy (fun info => { info with
    cpuSockets := cpu.sockets, cpuCoresPerSocket := cpu.cores, cpuThreadsPerCore := cpu.threads }) id := by
  intro other different info iptable
  cases other <;> first | exact absurd rfl different | (cases info <;> cases iptable <;> rfl)

theorem setBy_memory (size : Int) : Setting.memory.SetBy (fun info => { info with memSize := size }) id := by
  intro other different info iptable
  cases other <;> first | exact absurd rfl different | (cases info <;> cases iptable <;> rfl)

end SetBy

theorem withInfo_found {α : Type} {call : TaskInfo → Call α} {now : TaskInfo}
    (found : t.taskInfos.find taskId = some now) :
    withInfo taskId call t = call now t := by
  unfold withInfo
  rw [found]

section Network

theorem modifyPublicIp_runs (known : h.taskInfos.find taskId = some info) :
    (settings taskId).RunsAs (ipStage w taskId doc info h) (ipStage w taskId doc info h).changes
      (modifyPublicIp w taskId (doc.parseString (str "new_public_ip"))) h := by
  unfold modifyPublicIp
  cases checked : h.checkPublicIp w (doc.parseString (str "new_public_ip")) taskId with
  | some error =>
    refine .refused error (by simp [ipStage, checked]) ?_
    refine (withInfo_found known).trans ?_
    rw [checked]
  | none =>
    have passes : (ipStage w taskId doc info h).refuses = false := by simp [ipStage, checked]
    by_cases same : doc.parseString (str "new_public_ip") = info.publicIp
    · have idle : (ipStage w taskId doc info h).changes = false := by simp [ipStage, same]
      refine runsAs_idle passes idle ?_
      refine (withInfo_found known).trans ?_
      rw [checked, idle]
      exact if_pos same
    · have changes : (ipStage w taskId doc info h).changes = true := by simp [ipStage, same]
      refine runsAs_set passes changes ?_ ((SetTo.updateInfo _ _ _).setIptable _)
        (setBy_publicIp (doc.parseString (str "new_public_ip"))) known ?_
      · refine (withInfo_found known).trans ?_
        rw [checked, changes]
        exact if_neg same
      · intro _ _ equal
        exact same (shows_publicIp _ _ _ _ equal)

theorem portStage_refuses (info : TaskInfo) (setting : Setting) (field : PortField) {now : TaskInfo}
    (midway : Midway taskId h t) (address : now.publicIp = doc.parseString (str "new_public_ip"))
    (given : doc.parseString field.name ≠ []) : (portStage taskId doc info h setting field).refuses =
      (t.portError field taskId (doc.parseString field.name) now).isSome := by
  have conflict := midway.checkPortConflict (portOf (doc.parseString field.name))
  simp only [portStage, given, ne_eq, not_false_eq_true, true_and, ← conflict, portError, address]
  split
  · rename_i zero
    simp [zero]
  · rename_i valid
    simp only [valid, false_or, Option.isSome_iff_ne_none, ne_eq]
    split
    · rename_i used
      simpa using used
    · rename_i free
      simpa using free

theorem modifyPort_runs {field : PortField} {setting : Setting} {now : TaskInfo} (midway : Midway taskId h t)
    (found : t.taskInfos.find taskId = some now) (address : now.publicIp = doc.parseString (str "new_public_ip"))
    (shows : setting.Shows field.get) (same : field.get now = field.get info)
    (setBy : ∀ port, setting.SetBy (field.set port) (field.setIptable port))
    (sets : ∀ port info, field.get (field.set port info) = port) :
    (settings taskId).RunsAs (portStage taskId doc info h setting field)
      (portStage taskId doc info h setting field).changes
      (modifyPort field taskId doc) t := by
  unfold modifyPort
  by_cases given : doc.parseString field.name = []
  · have idle : (portStage taskId doc info h setting field).changes = false := by simp [portStage, given]
    refine runsAs_idle (by simp [portStage, given]) idle ?_
    refine (withInfo_found found).trans ?_
    dsimp only
    rw [idle]
    exact if_pos given
  have refuses := portStage_refuses info setting field midway address given
  cases checked : t.portError field taskId (doc.parseString field.name) now with
  | some error =>
    refine .refused error (by rw [refuses, checked]; rfl) ?_
    refine (withInfo_found found).trans ?_
    dsimp only
    rw [if_neg given, checked]
  | none =>
    have passes : (portStage taskId doc info h setting field).refuses = false := by rw [refuses, checked]; rfl
    by_cases old : portOf (doc.parseString field.name) = field.get now
    · have idle : (portStage taskId doc info h setting field).changes = false := by simp [portStage, old, same]
      refine runsAs_idle passes idle ?_
      refine (withInfo_found found).trans ?_
      dsimp only
      rw [idle]
      rw [if_neg given, checked]
      exact if_pos old
    · have changes : (portStage taskId doc info h setting field).changes = true := by
        simp [portStage, given, ← same, old]
      refine runsAs_set passes changes ?_ ((SetTo.updateInfo _ _ _).setIptable _)
        (setBy (portOf (doc.parseString field.name))) found ?_
      · refine (withInfo_found found).trans ?_
        dsimp only
        rw [changes]
        rw [if_neg given, checked]
        exact if_neg old
      · intro _ _ equal
        have kept := shows _ _ _ _ equal
        rw [sets] at kept
        exact old kept

theorem refuse_runs (part : ModifyPart) (check : Host → Option Bytes) :
    (settings taskId).RunsAs ⟨part, (check t).isSome, false⟩ () (refuse check) t := by
  cases checked : check t with
  | some error => exact .refused error rfl (refuse_error checked)
  | none => exact runsAs_idle rfl rfl (refuse_ok checked)

theorem modifyCustomPort_runs {now : TaskInfo} (found : t.taskInfos.find taskId = some now)
    (same : now.customPort = info.customPort) (texts : customPorts doc ≠ some none) :
    (settings taskId).RunsAs (customStage doc info) (customStage doc info).changes
      (modifyCustomPort taskId doc) t := by
  unfold modifyCustomPort
  cases given : (doc.member (str "new_custom_port")).bind Json.getArray with
  | none =>
    have idle : (customStage doc info).changes = false := by simp [customStage, customPorts, given]
    refine runsAs_idle rfl idle ?_
    refine (withInfo_found found).trans ?_
    dsimp only
    rw [idle]
  | some items =>
    rw [customPorts, given] at texts
    cases read : allTexts items with
    | none => exact (texts (by simp [read])).elim
    | some ports =>
      by_cases old : ports = now.customPort
      · have idle : (customStage doc info).changes = false := by
          simp [customStage, customPorts, given, read, old, same]
        refine runsAs_idle rfl idle ?_
        refine (withInfo_found found).trans ?_
        dsimp only
        rw [idle, read]
        exact if_pos old
      · have changes : (customStage doc info).changes = true := by
          simpa [customStage, customPorts, given, read, ← same] using old
        refine runsAs_set rfl changes ?_ ((SetTo.updateInfo _ _ _).setIptable _) (setBy_customPort ports) found ?_
        · refine (withInfo_found found).trans ?_
          dsimp only
          rw [changes, read]
          exact if_neg old
        · intro _ _ equal
          exact old (shows_customPort _ _ _ _ equal)

theorem modifyCustomPort_dies {now : TaskInfo} (found : t.taskInfos.find taskId = some now)
    (noText : customPorts doc = some none) : modifyCustomPort taskId doc t = (.error .asserted, t) := by
  obtain ⟨items, given, read⟩ := Option.map_eq_some_iff.mp noText
  unfold modifyCustomPort
  refine (withInfo_found found).trans ?_
  rw [given]
  dsimp only
  rw [read]

/-- Filters that are not given, or are those of the task, are left alone. -/
theorem modifyNwfilter_same {now : TaskInfo} (found : t.taskInfos.find taskId = some now)
    (same : now.nwfilter = info.nwfilter) (unchanged : (nwfilterStage doc info).changes = false) :
    modifyNwfilter w taskId doc t = (.ok (), t) := by
  unfold modifyNwfilter
  refine (withInfo_found found).trans ?_
  cases given : (doc.member (str "new_network_filters")).bind Json.getArray with
  | none => rfl
  | some items =>
    refine if_pos ?_
    simpa [nwfilterStage, given, same] using unchanged

/-- New filters of a task are recorded, whether libvirt takes them or
not. -/
theorem modifyNwfilter_new {now : TaskInfo} (found : t.taskInfos.find taskId = some now)
    (same : now.nwfilter = info.nwfilter) (changes : (nwfilterStage doc info).changes = true) :
    ∃ filters, filters ≠ now.nwfilter ∧ modifyNwfilter w taskId doc t =
      (if w.defineNwfilter then .ok () else .error (.thrown (str "modify network filter error")),
        t.updateInfo taskId (fun info => { info with nwfilter := filters })) := by
  cases given : (doc.member (str "new_network_filters")).bind Json.getArray with
  | none => simp [nwfilterStage, given] at changes
  | some items =>
    have new : items.filterMap Json.getString ≠ now.nwfilter := by
      simpa [nwfilterStage, given, ← same] using changes
    refine ⟨items.filterMap Json.getString, new, ?_⟩
    unfold modifyNwfilter
    refine (withInfo_found found).trans ?_
    rw [given]
    dsimp only
    rw [if_neg new]
    split
    · rfl
    · rfl

/-- The filters of a task are recorded before libvirt is asked to take
them. -/
theorem modifyNwfilter_outcome {α : Type} {now : TaskInfo} {counting : Set ModifyPart} {dies touched : Bool}
    {post : Host → Prop}
    {stages : List (Stage ModifyPart)} {rest : Call α} (found : t.taskInfos.find taskId = some now)
    (same : now.nwfilter = info.nwfilter) (fresh : .setting .nwfilter ∉ stages.map (·.part))
    (later : ∀ u, (settings taskId).ModifiesOnly {.setting .nwfilter} t u →
      (settings taskId).Outcome counting dies post (touched || (nwfilterStage doc info).changes) stages
        u (rest u)) :
    (settings taskId).Outcome counting dies post touched
      (nwfilterStage doc info :: filterStage w doc info :: stages) t
        ((modifyNwfilter w taskId doc >>= fun _ => rest) t) := by
  have unthreatened : ModifyPart.setting .nwfilter ∉ (filterStage w doc info :: stages).map (·.part) := by
    simpa [filterStage] using fresh
  cases changes : (nwfilterStage doc info).changes with
  | false =>
    rw [Prog.bind_ok (modifyNwfilter_same found same changes)]
    refine .go rfl (.refl t) (fun _ => rfl) (fun moves => ?_) (fun _ => unthreatened) ?_
    · rw [changes] at moves
      cases moves
    refine .go (by simp [filterStage, changes]) (.refl t) (fun _ => rfl) nofun nofun ?_
    exact (Bool.or_false _).symm ▸ later t (.refl t)
  | true =>
    obtain ⟨filters, new, ran⟩ := modifyNwfilter_new (w := w) found same changes
    have set := SetTo.updateInfo taskId (fun info => { info with nwfilter := filters }) t
    have only := set.only (setBy_nwfilter _)
    refine .go rfl only (fun unchanged => ?_) (fun _ => ?_) (fun _ => unthreatened) ?_
    · rw [changes] at unchanged
      cases unchanged
    · change Option.map (fun info : TaskInfo => info.nwfilter) (OrdMap.find _ taskId) ≠ Option.map _
        (t.taskInfos.find taskId)
      rw [set.own, found]
      exact fun equal => new (Option.some.inj equal)
    cases defined : w.defineNwfilter with
    | true =>
      rw [defined, if_pos rfl] at ran
      rw [Prog.bind_ok ran]
      refine .go (by simp [filterStage, defined]) (.refl _) (fun _ => rfl) nofun nofun ?_
      exact (Bool.or_false _).symm ▸ later _ only
    | false =>
      rw [defined, if_neg Bool.false_ne_true] at ran
      rw [Prog.bind_error ran]
      exact .stop (by simp [filterStage, changes, defined])

end Network

section Domain

theorem modifyVncPort_runs {now : TaskInfo} (midway : Midway taskId h t)
    (found : t.taskInfos.find taskId = some now) (same : now.vncPort = info.vncPort) :
    (settings taskId).RunsAs (vncStage taskId doc info h) (vncStage taskId doc info h).changes
      (modifyVncPort taskId doc) t := by
  unfold modifyVncPort
  by_cases given : doc.parseString (str "new_vnc_port") = []
  · have idle : (vncStage taskId doc info h).changes = false := by simp [vncStage, given]
    refine runsAs_idle (by simp [vncStage, given]) idle ?_
    refine (withInfo_found found).trans ?_
    rw [idle]
    exact if_pos given
  have refuses : (vncStage taskId doc info h).refuses =
    (t.vncError taskId (doc.parseString (str "new_vnc_port"))).isSome := by
    rw [midway.vncError]
    simp [vncStage, given]
  cases checked : t.vncError taskId (doc.parseString (str "new_vnc_port")) with
  | some error =>
    refine .refused error (by rw [refuses, checked]; rfl) ?_
    refine (withInfo_found found).trans ?_
    dsimp only
    rw [if_neg given, checked]
  | none =>
    have passes : (vncStage taskId doc info h).refuses = false := by rw [refuses, checked]; rfl
    by_cases old : portOf (doc.parseString (str "new_vnc_port")) = now.vncPort
    · have idle : (vncStage taskId doc info h).changes = false := by simp [vncStage, old, same]
      refine runsAs_idle passes idle ?_
      refine (withInfo_found found).trans ?_
      dsimp only
      rw [if_neg given, checked, idle]
      exact if_pos old
    · have changes : (vncStage taskId doc info h).changes = true := by simp [vncStage, given, ← same, old]
      refine runsAs_set passes changes ?_ (SetTo.setInfo _ _ _)
        (setBy_vncPort (portOf (doc.parseString (str "new_vnc_port")))) found ?_
      · refine (withInfo_found found).trans ?_
        dsimp only
        rw [if_neg given, checked, changes]
        exact if_neg old
      · intro _ _ equal
        exact old (Option.some.inj equal)

theorem modifyGpus_runs (midway : Midway taskId h t) (gpus : t.taskGpus = h.taskGpus) :
    (settings taskId).RunsAs (gpuStage hw taskId doc h) (gpuAsked doc) (modifyGpus hw taskId doc) t := by
  unfold modifyGpus
  dsimp only
  by_cases given : doc.parseString (str "new_gpu_count") = []
  · have idle : gpuAsked doc = false := by simp [gpuAsked, given]
    refine runsAs_idle (by simp [gpuStage, idle]) (by simp [gpuStage, idle]) ?_
    rw [idle]
    exact if_pos given
  have asked : gpuAsked doc = true := by simp [gpuAsked, given]
  have free := midway.allocateGpu gpus hw (portOf (doc.parseString (str "new_gpu_count"))).toNat
  cases allocated : h.allocateGpu hw (portOf (doc.parseString (str "new_gpu_count"))).toNat with
  | none =>
    refine .refused (str "allocate gpu failed") (by simp [gpuStage, asked, allocated]) ?_
    rw [if_neg given, free, allocated]
  | some new =>
    have found : ∀ value, (t.taskGpus.insert taskId new).find taskId = some value → value = new := by
      intro value has
      rw [OrdMap.find_insert_self] at has
      exact (Option.some.inj has).symm
    refine .passed { t with taskGpus := t.taskGpus.insert taskId new } (by simp [gpuStage, allocated]) ?_ ?_ ?_ ?_
    · rw [if_neg given, free, allocated, asked]
    · intro part outside
      cases part with
      | setting one => rfl
      | gpus => exact (outside rfl).elim
      | rest => rfl
    · intro idle
      have recorded : t.taskGpus.find taskId = some new := by
        have entries : some new.entries = (h.taskGpus.find taskId).map (·.entries) := by
          simpa [gpuStage, asked, allocated] using idle
        obtain ⟨old, has, equal⟩ := Option.map_eq_some_iff.mp entries.symm
        rw [gpus, has, OrdMap.ext equal]
      rw [OrdMap.insert_find recorded]
    · intro changes same
      have kept : t.taskGpus.insert taskId new = t.taskGpus := same
      have recorded : h.taskGpus.find taskId = some new := by rw [← gpus, ← kept, OrdMap.find_insert_self]
      simp [gpuStage, allocated, recorded] at changes

theorem modifyCpu_runs {now : TaskInfo} (found : t.taskInfos.find taskId = some now)
    (same : (⟨now.cpuSockets, now.cpuCoresPerSocket, now.cpuThreadsPerCore⟩ : CpuTopology) =
      ⟨info.cpuSockets, info.cpuCoresPerSocket, info.cpuThreadsPerCore⟩) :
    (settings taskId).RunsAs (cpuStage hw doc info) (cpuStage hw doc info).changes
      (modifyCpu hw taskId doc) t := by
  unfold modifyCpu
  by_cases given : doc.parseString (str "new_cpu_cores") = []
  · have idle : (cpuStage hw doc info).changes = false := by simp [cpuStage, given]
    refine runsAs_idle (by simp [cpuStage, given]) idle ?_
    refine (withInfo_found found).trans ?_
    rw [idle]
    exact if_pos given
  cases allocated : allocateCpu hw (atoi (doc.parseString (str "new_cpu_cores"))) ⟨1, 1, 2⟩ with
  | none =>
    refine .refused (str "allocate cpu failed") (by simp [cpuStage, given, allocated]) ?_
    refine (withInfo_found found).trans ?_
    dsimp only
    rw [if_neg given, allocated]
  | some cpu =>
    have passes : (cpuStage hw doc info).refuses = false := by simp [cpuStage, allocated]
    by_cases old : cpu = ⟨now.cpuSockets, now.cpuCoresPerSocket, now.cpuThreadsPerCore⟩
    · have idle : (cpuStage hw doc info).changes = false := by
        simp only [cpuStage, allocated, ← same, old, ne_eq, not_true, and_false, decide_false]
      refine runsAs_idle passes idle ?_
      refine (withInfo_found found).trans ?_
      dsimp only
      rw [if_neg given, allocated, idle]
      exact if_pos old
    · have changes : (cpuStage hw doc info).changes = true := by
        simp only [cpuStage, allocated, ← same, given, ne_eq, not_false_eq_true, true_and, Option.some.injEq, old,
          decide_true]
      refine runsAs_set passes changes ?_ (SetTo.setInfo _ _ _) (setBy_cpu cpu) found ?_
      · refine (withInfo_found found).trans ?_
        dsimp only
        rw [if_neg given, allocated, changes]
        exact if_neg old
      · intro _ _ equal
        exact old (Option.some.inj equal)

theorem modifyMem_runs {now : TaskInfo} (found : t.taskInfos.find taskId = some now)
    (same : now.memSize = info.memSize) :
    (settings taskId).RunsAs (memStage w doc info) (memStage w doc info).changes
      (modifyMem w taskId doc) t := by
  unfold modifyMem
  by_cases given : doc.parseString (str "new_mem_size") = []
  · have idle : (memStage w doc info).changes = false := by simp [memStage, given]
    refine runsAs_idle (by simp [memStage, given]) idle ?_
    refine (withInfo_found found).trans ?_
    rw [idle]
    exact if_pos given
  cases allocated : allocateMemTwice w (memSizeOf (doc.parseString (str "new_mem_size"))) with
  | false =>
    refine .refused (str "allocate memory failed") (by simp [memStage, given, allocated]) ?_
    refine (withInfo_found found).trans ?_
    dsimp only
    rw [if_neg given, if_pos allocated]
  | true =>
    have passes : (memStage w doc info).refuses = false := by simp [memStage, allocated]
    have enough : ¬ allocateMemTwice w (memSizeOf (doc.parseString (str "new_mem_size"))) = false := by
      rw [allocated]
      exact Bool.noConfusion
    by_cases old : memSizeOf (doc.parseString (str "new_mem_size")) = now.memSize
    · have idle : (memStage w doc info).changes = false := by simp [memStage, old, same]
      refine runsAs_idle passes idle ?_
      refine (withInfo_found found).trans ?_
      dsimp only
      rw [if_neg given, if_neg enough, idle]
      exact if_pos old
    · have changes : (memStage w doc info).changes = true := by simp [memStage, given, ← same, old]
      refine runsAs_set passes changes ?_ (SetTo.setInfo _ _ _)
        (setBy_memory (memSizeOf (doc.parseString (str "new_mem_size")))) found ?_
      · refine (withInfo_found found).trans ?_
        dsimp only
        rw [if_neg given, if_neg enough, changes]
        exact if_neg old
      · intro _ _ equal
        exact old (Option.some.inj equal)

/-- Where it is needed, the domain is defined as the records of the task
have it. -/
def Redefined (needed : Bool) (taskId : Bytes) (h : Host) : Prop := needed = true → ∀ info domain,
  h.taskInfos.find taskId = some info → h.domains.find taskId = some domain → domain.definition.sizes = info.sizes

/-- The last stage, on a domain that is still there. -/
theorem redefine_outcome {needed : Bool} {reply : Bytes} {now : TaskInfo} {counting : Set ModifyPart}
    {touched : Bool} {stage : Stage ModifyPart} (found : t.taskInfos.find taskId = some now)
    (present : t.isExistDomain taskId) (refuses : stage.refuses = (needed && !w.defineDomain))
    (looks : stage.changes = false) (uncounted : .rest ∉ counting) :
    (settings taskId).Outcome counting false (Redefined needed taskId) touched [stage] t
      ((redefine w taskId needed >>= fun _ => pure reply) t) := by
  obtain ⟨domain, has⟩ := Option.isSome_iff_exists.mp present
  have passed : stage.refuses = false → ∀ u, redefine w taskId needed t = (.ok (), u) →
    Only {.definition taskId} t u → Redefined needed taskId u →
      (settings taskId).Outcome counting false (Redefined needed taskId) touched [stage] t
        ((redefine w taskId needed >>= fun _ => pure reply) t) := by
    intro passes u ran only redefined
    rw [Prog.bind_ok ran]
    have idle : stage.changes = true → False := fun changes => by rw [looks] at changes; cases changes
    refine .go passes (.refl t) (fun _ => rfl) (fun changes => (idle changes).elim)
      (fun changes => (idle changes).elim) ?_
    refine .done ⟨⟨reply, rfl⟩, redefined⟩ (fun part counts => ?_)
    cases part with
    | setting one =>
      change one.get (u.taskInfos.find taskId) (u.taskIptables.find taskId) = _
      rw [only.info (by simp), only.iptable (by simp)]
      rfl
    | gpus => exact OrdMap.ext_find (fun other => only.gpus (by simp))
    | rest => exact (uncounted counts).elim
  cases needed with
  | false =>
    refine passed (by simpa using refuses) t ?_ (.refl t) (fun none => by cases none)
    unfold redefine
    exact (withInfo_found found).trans (if_neg Bool.false_ne_true)
  | true =>
    cases defined : w.defineDomain with
    | true =>
      refine passed (by simpa [defined] using refuses) (t.redefineDomain w taskId now).2 ?_
        (redefineDomain_only w taskId now) ?_
      rotate_left
      · intro _ info domain' same present'
        have xml : (t.redefineDomain w taskId now).2 = t.setDomain taskId
            { domain with definition := t.renewedXml taskId now domain.definition } := by
          simp only [redefineDomain, has, defined, Bool.true_eq_false, if_false]
        rw [xml] at same present'
        cases found.symm.trans same
        cases (OrdMap.find_insert_self t.domains taskId _).symm.trans present'
        rfl
      unfold redefine
      refine (withInfo_found found).trans ?_
      rw [if_pos rfl, redefineDomain, has]
      dsimp only
      rw [if_neg (by rw [defined]; exact Bool.noConfusion)]
    | false =>
      have ran : redefine w taskId true t = (.error (.thrown (str "defineXML failed: ")), t) := by
        unfold redefine
        refine (withInfo_found found).trans ?_
        rw [if_pos rfl, redefineDomain, has]
        dsimp only
        rw [if_pos defined]
      rw [Prog.bind_error ran]
      exact .stop (by simp [refuses, defined])

end Domain

end DbcNode.Host
