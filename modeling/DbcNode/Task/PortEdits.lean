import DbcNode.Task.ModifyAtomic
import DbcNode.Task.PortTexts

namespace DbcNode.Host
open Layout
variable {hw : Hardware} {w : World} {taskId : Bytes} {doc : Json} {h t u v : Host}

/-- One of the ports of a task: the setting that it is in, what the text
asks for it to be, and the range that the text is checked for. -/
structure AskedPort where
  setting : Setting
  get : TaskInfo → UInt16
  shows : setting.Shows get
  text : Bytes
  low : UInt16
  high : UInt16

namespace AskedPort

def ssh (doc : Json) : AskedPort := ⟨.sshPort, (·.sshPort), shows_sshPort, doc.parseString sshField.name, 1, 65535⟩

def rdp (doc : Json) : AskedPort := ⟨.rdpPort, (·.rdpPort), shows_rdpPort, doc.parseString rdpField.name, 1, 65535⟩

def vnc (doc : Json) : AskedPort :=
    ⟨.vncPort, (·.vncPort), shows_vncPort, doc.parseString (str "new_vnc_port"), 5900, 6000⟩

variable (asked : AskedPort)

/-- The port is what it was, or what is asked for. -/
structure Carries (taskId : Bytes) (t u : Host) : Prop where
  known : (u.taskInfos.find taskId).isSome = (t.taskInfos.find taskId).isSome
  port : (settings taskId).read (.setting asked.setting) u = (settings taskId).read (.setting asked.setting) t ∨
    (u.taskInfos.find taskId).map asked.get = some (portOf asked.text)

variable {asked}

/-- The setting tells the port. -/
theorem get_eq
    (same : (settings taskId).read (.setting asked.setting) u = (settings taskId).read (.setting asked.setting) t)
    (known : (u.taskInfos.find taskId).isSome = (t.taskInfos.find taskId).isSome) :
    (u.taskInfos.find taskId).map asked.get = (t.taskInfos.find taskId).map asked.get := by
  change asked.setting.get (u.taskInfos.find taskId) _ = asked.setting.get (t.taskInfos.find taskId) _ at same
  cases after : u.taskInfos.find taskId with
  | none =>
    rw [after, Option.isSome_none, eq_comm, Option.isSome_eq_false_iff, Option.isNone_iff_eq_none] at known
    rw [known]
  | some now =>
    rw [after] at known same
    obtain ⟨info, before⟩ := Option.isSome_iff_exists.mp known.symm
    rw [before] at same ⊢
    exact congrArg some (asked.shows _ _ _ _ same)

namespace Carries

theorem of_same (info : u.taskInfos.find taskId = t.taskInfos.find taskId)
    (iptable : u.taskIptables.find taskId = t.taskIptables.find taskId) : asked.Carries taskId t u := by
  refine ⟨by rw [info], Or.inl ?_⟩
  change asked.setting.get _ _ = asked.setting.get _ _
  rw [info, iptable]

theorem refl (t : Host) : asked.Carries taskId t t := of_same rfl rfl

theorem trans (first : asked.Carries taskId t u) (second : asked.Carries taskId u v) :
    asked.Carries taskId t v := by
  refine ⟨second.known.trans first.known, ?_⟩
  rcases second.port with same | port
  · rcases first.port with before | port
    · exact Or.inl (same.trans before)
    · exact Or.inr ((get_eq same second.known).trans port)
  · exact Or.inr port

/-- A setter of another setting, or of this one to what is asked for. -/
theorem of_set {setting : Setting} {change : TaskInfo → TaskInfo} {rules : IptableInfo → IptableInfo}
    {now : TaskInfo} (set : SetTo taskId change rules t u) (setBy : setting.SetBy change rules)
    (found : t.taskInfos.find taskId = some now)
    (own : setting = asked.setting → ∀ info, asked.get (change info) = portOf asked.text) :
    asked.Carries taskId t u := by
  refine ⟨by rw [set.own, Option.isSome_map], ?_⟩
  by_cases same : setting = asked.setting
  · refine Or.inr ?_
    rw [set.own, found]
    exact congrArg some (own same now)
  · exact Or.inl (set.only setBy _ fun equal => same (ModifyPart.setting.inj equal).symm)

end Carries

/-- A call that carries the port. -/
def Carrying {α : Type} (asked : AskedPort) (taskId : Bytes) (call : Call α) : Prop :=
  ∀ t, asked.Carries taskId t (call t).2

namespace Carrying
variable {α β : Type} {parts : Set Part}

theorem of_confined {call : Call α} (confined : Confined parts call) (info : .info taskId ∉ parts)
    (iptable : .iptable taskId ∉ parts) : asked.Carrying taskId call := by
  intro t
  have only : Only parts t (call t).2 := confined t
  exact .of_same (only.info info) (only.iptable iptable)

theorem of_looked {call : Call α} (confined : Confined ∅ call) : asked.Carrying taskId call :=
  of_confined confined (by simp) (by simp)

theorem bind {call : Call α} {rest : α → Call β} (first : asked.Carrying taskId call)
    (second : ∀ a, asked.Carrying taskId (rest a)) : asked.Carrying taskId (call >>= rest) := by
  intro t
  have before := first t
  refine Prog.Keeps.after (P := asked.Carries taskId t) before (fun a u carries => ?_)
  exact carries.trans (second a u)

theorem pure (a : α) : asked.Carrying taskId (Pure.pure a : Call α) := fun t => .refl t

theorem withInfo {call : TaskInfo → Call α}
    (carrying : ∀ t now, t.taskInfos.find taskId = some now → asked.Carries taskId t (call now t).2) :
    asked.Carrying taskId (withInfo taskId call) := by
  intro t
  unfold Host.withInfo
  split
  · exact .refl t
  · rename_i now found
    exact carrying t now found

theorem modifyPublicIp (newPublicIp : Bytes) (apart : asked.setting ≠ .publicIp) :
    asked.Carrying taskId (modifyPublicIp w taskId newPublicIp) := by
  refine withInfo (fun t now found => ?_)
  split
  · exact .refl t
  · split
    · exact .refl t
    · exact .of_set ((SetTo.updateInfo taskId _ t).setIptable _) (setBy_publicIp newPublicIp) found
        fun same => absurd same.symm apart

theorem modifyPort {field : PortField} {setting : Setting}
    (setBy : ∀ port, setting.SetBy (field.set port) (field.setIptable port))
    (own : setting = asked.setting → ∀ info, asked.get (field.set (portOf (doc.parseString field.name)) info) =
      portOf asked.text) :
    asked.Carrying taskId (modifyPort field taskId doc) := by
  refine withInfo (fun t now found => ?_)
  extract_lets text
  split
  · exact .refl t
  · split
    · exact .refl t
    · split
      · exact .refl t
      · exact .of_set ((SetTo.updateInfo taskId _ t).setIptable _) (setBy _) found own

theorem modifyCustomPort (apart : asked.setting ≠ .customPort) :
    asked.Carrying taskId (modifyCustomPort taskId doc) := by
  refine withInfo (fun t now found => ?_)
  split
  · exact .refl t
  · split
    · exact .refl t
    · split
      · exact .refl t
      · exact .of_set ((SetTo.updateInfo taskId _ t).setIptable _) (setBy_customPort _) found
          fun same => absurd same.symm apart

theorem modifyNwfilter (apart : asked.setting ≠ .nwfilter) :
    asked.Carrying taskId (modifyNwfilter w taskId doc) := by
  refine withInfo (fun t now found => ?_)
  split
  · exact .refl t
  · extract_lets nwfilter
    split
    · exact .refl t
    · split
      all_goals
        exact .of_set (SetTo.updateInfo taskId _ t) (setBy_nwfilter _) found fun same => absurd same.symm apart

theorem modifyVncPort (own : Setting.vncPort = asked.setting →
      ∀ info : TaskInfo, asked.get { info with vncPort := portOf (doc.parseString (str "new_vnc_port")) } =
        portOf asked.text) :
    asked.Carrying taskId (modifyVncPort taskId doc) := by
  refine withInfo (fun t now found => ?_)
  extract_lets text
  split
  · exact .refl t
  · split
    · exact .refl t
    · split
      · exact .refl t
      · exact .of_set (SetTo.setInfo taskId _ t) (setBy_vncPort _) found own

theorem modifyCpu (apart : asked.setting ≠ .cpu) : asked.Carrying taskId (modifyCpu hw taskId doc) := by
  refine withInfo (fun t now found => ?_)
  extract_lets text
  split
  · exact .refl t
  · split
    · exact .refl t
    · split
      · exact .refl t
      · exact .of_set (SetTo.setInfo taskId _ t) (setBy_cpu _) found fun same => absurd same.symm apart

theorem modifyMem (apart : asked.setting ≠ .memory) : asked.Carrying taskId (modifyMem w taskId doc) := by
  refine withInfo (fun t now found => ?_)
  extract_lets text
  split
  · exact .refl t
  · split
    · exact .refl t
    · split
      · exact .refl t
      · exact .of_set (SetTo.setInfo taskId _ t) (setBy_memory _) found fun same => absurd same.symm apart

/-- The port is one of the three, and what is asked for it is in the
request. -/
structure Of (asked : AskedPort) (doc : Json) : Prop where
  apart : asked.setting ∉ [.publicIp, .customPort, .nwfilter, .cpu, .memory]
  ssh : Setting.sshPort = asked.setting →
    ∀ info, asked.get (sshField.set (portOf (doc.parseString sshField.name)) info) = portOf asked.text
  rdp : Setting.rdpPort = asked.setting →
    ∀ info, asked.get (rdpField.set (portOf (doc.parseString rdpField.name)) info) = portOf asked.text
  vnc : Setting.vncPort = asked.setting →
    ∀ info : TaskInfo, asked.get { info with vncPort := portOf (doc.parseString (str "new_vnc_port")) } =
      portOf asked.text

/-- A modification leaves the port of a task as it is, or sets it to what is
asked for. -/
theorem modifyTask (hw : Hardware) (w : World) (one : Of asked doc) :
    asked.Carrying taskId (modifyTask hw w taskId doc) := by
  have apart : ∀ setting ∈ [Setting.publicIp, .customPort, .nwfilter, .cpu, .memory], asked.setting ≠ setting :=
    fun setting member same => one.apart (same ▸ member)
  refine (of_looked (existingTask_confined taskId)).bind (fun _ => ?_)
  refine (of_looked (refuse_confined _)).bind (fun _ => ?_)
  refine bind ?_ (fun _ => bind ?_ (fun needed => ?_))
  · refine (modifyPublicIp _ (apart _ (by simp))).bind (fun _ => ?_)
    refine (modifyPort setBy_sshPort one.ssh).bind (fun _ => ?_)
    refine (modifyPort setBy_rdpPort one.rdp).bind (fun _ => ?_)
    refine (of_looked (refuse_confined _)).bind (fun _ => ?_)
    refine (modifyCustomPort (apart _ (by simp))).bind (fun _ => ?_)
    refine (of_confined (.update (resetIptables_only taskId _)) (by simp) (by simp)).bind (fun _ => ?_)
    exact modifyNwfilter (apart _ (by simp))
  · refine (modifyVncPort one.vnc).bind (fun _ => ?_)
    refine (of_confined (modifyGpus_confined hw taskId doc) (by simp) (by simp)).bind (fun _ => ?_)
    refine (modifyCpu (apart _ (by simp))).bind (fun _ => ?_)
    exact (modifyMem (apart _ (by simp))).bind (fun _ => pure _)
  · exact (of_confined (redefine_confined w taskId needed) (by simp) (by simp)).bind (fun _ => pure _)

end Carrying

theorem ssh_of (doc : Json) : Carrying.Of (ssh doc) doc := ⟨by simp [ssh], fun _ _ => rfl, nofun, nofun⟩

theorem rdp_of (doc : Json) : Carrying.Of (rdp doc) doc := ⟨by simp [rdp], nofun, fun _ _ => rfl, nofun⟩

theorem vnc_of (doc : Json) : Carrying.Of (vnc doc) doc := ⟨by simp [vnc], nofun, nofun, fun _ _ => rfl⟩

/-- The port of a task, if the request has set it or was granted with it. -/
def Exact (asked : AskedPort) (granted : Prop) (info now : TaskInfo) : Prop :=
  asked.get now ≠ asked.get info ∨ (granted ∧ asked.text ≠ []) →
    Denotes asked.text (asked.get now) ∧ asked.low ≤ asked.get now ∧ asked.get now ≤ asked.high

/-- The request gets to set the port, before one of its stages refuses or
because none does. -/
def Taken (asked : AskedPort) (hw : Hardware) (w : World) (taskId : Bytes) (doc : Json) (info : TaskInfo)
    (h : Host) :
    Prop :=
  .setting asked.setting ∈ Stage.changed (modifyStages hw w taskId doc info h) ∨
    (Stage.refused (modifyStages hw w taskId doc info h) = false ∧ customPorts doc ≠ some none ∧ asked.text ≠ [])

/-- The stage of a modification that is about the port. -/
structure Staged (asked : AskedPort) (hw : Hardware) (w : World) (taskId : Bytes) (doc : Json) (info : TaskInfo)
    (h : Host) : Prop where
  present : customPorts doc ≠ some none →
    ∃ stage ∈ modifyStages hw w taskId doc info h, stage.part = .setting asked.setting
  changes : ∀ stage ∈ modifyStages hw w taskId doc info h, stage.part = .setting asked.setting →
    (stage.changes = true ↔ asked.text ≠ [] ∧ portOf asked.text ≠ asked.get info)
  range : ∀ stage ∈ modifyStages hw w taskId doc info h, stage.part = .setting asked.setting →
    stage.refuses = false → asked.text ≠ [] →
    asked.low ≤ portOf asked.text ∧ portOf asked.text ≤ asked.high

section Iff
variable {info now : TaskInfo}

/-- A modification is granted when no stage refuses and the custom ports are
texts. -/
theorem granted_iff (known : h.taskInfos.find taskId = some info) (present : h.isExistDomain taskId)
    (object : doc.isObject) : (∃ reply, (modifyTask hw w taskId doc h).1 = .ok reply) ↔
      Stage.refused (modifyStages hw w taskId doc info h) = false ∧ customPorts doc ≠ some none := by
  have outcome := modifyTask_outcome hw w known present object
  constructor
  · rintro ⟨reply, ran⟩
    cases refused : Stage.refused (modifyStages hw w taskId doc info h) with
    | true =>
      obtain ⟨e, stopped⟩ := outcome.refuses refused
      rw [ran] at stopped
      cases stopped
    | false =>
      refine ⟨rfl, fun noText => ?_⟩
      have died := outcome.ends refused
      rw [if_pos (decide_eq_true noText), ran] at died
      cases died
  · rintro ⟨passes, texts⟩
    have ended := outcome.ends passes
    rw [if_neg (by simpa using texts)] at ended
    exact ended.1

/-- The port is what is asked for if its stage has changed it, and what it
was if not. -/
theorem get_modified (one : Carrying.Of asked doc) (known : h.taskInfos.find taskId = some info)
    (present : h.isExistDomain taskId) (object : doc.isObject)
    (found : (modifyTask hw w taskId doc h).2.taskInfos.find taskId = some now) : asked.get now =
      if .setting asked.setting ∈ Stage.changed (modifyStages hw w taskId doc info h) then portOf asked.text
      else asked.get info := by
  have carries : asked.Carries taskId h (modifyTask hw w taskId doc h).2 := Carrying.modifyTask hw w one h
  have moved := (modifyTask_outcome hw w known present object).moved (.setting asked.setting) (by simp [modifiable])
  split
  · rename_i inside
    rcases carries.port with same | port
    · exact absurd inside (moved.mp same)
    · rw [found] at port
      exact Option.some.inj port
  · rename_i outside
    have same := get_eq (moved.mpr outside) carries.known
    rw [found, known] at same
    exact Option.some.inj same

/-- A port that the request gets to set is the one it asks for, and in
range. -/
theorem Taken.ranged (taken : asked.Taken hw w taskId doc info h) (staged : Staged asked hw w taskId doc info h)
    (value : asked.get now =
      if .setting asked.setting ∈ Stage.changed (modifyStages hw w taskId doc info h) then portOf asked.text
      else asked.get info) :
    asked.get now = portOf asked.text ∧ asked.low ≤ portOf asked.text ∧ portOf asked.text ≤ asked.high := by
  rcases taken with inside | ⟨passes, texts, filled⟩
  · obtain ⟨stage, member, part, changes, refuses⟩ := Stage.passes_of_mem inside
    have asks := (staged.changes stage member part).mp changes
    exact ⟨value.trans (if_pos inside), staged.range stage member part refuses asks.1⟩
  · obtain ⟨stage, member, part⟩ := staged.present texts
    have refuses : stage.refuses = false := by
      rw [Stage.refused, List.any_eq_false] at passes
      simpa using passes stage member
    refine ⟨?_, staged.range stage member part refuses filled⟩
    by_cases inside : .setting asked.setting ∈ Stage.changed (modifyStages hw w taskId doc info h)
    · exact value.trans (if_pos inside)
    · rw [value, if_neg inside]
      by_contra other
      have changes := (staged.changes stage member part).mpr ⟨filled, fun same => other same.symm⟩
      exact inside (part ▸ Stage.mem_changed passes member changes)

theorem exact_iff (one : Carrying.Of asked doc) (staged : Staged asked hw w taskId doc info h)
    (known : h.taskInfos.find taskId = some info) (present : h.isExistDomain taskId) (object : doc.isObject)
    (found : (modifyTask hw w taskId doc h).2.taskInfos.find taskId = some now) :
    asked.Exact (∃ reply, (modifyTask hw w taskId doc h).1 = .ok reply) info now ↔
      (asked.Taken hw w taskId doc info h → Plain asked.text) := by
  have granted : (∃ reply, (modifyTask hw w taskId doc h).1 = .ok reply) ↔ _ := granted_iff known present object
  have value := get_modified one known present object found
  have premise : (asked.get now ≠ asked.get info ∨
      ((∃ reply, (modifyTask hw w taskId doc h).1 = .ok reply) ∧ asked.text ≠ [])) ↔
        asked.Taken hw w taskId doc info h := by
    constructor
    · rintro (differs | ⟨done, filled⟩)
      · exact Or.inl (by_contra fun outside => differs (value.trans (if_neg outside)))
      · exact Or.inr ⟨(granted.mp done).1, (granted.mp done).2, filled⟩
    · rintro (inside | ⟨passes, texts, filled⟩)
      · obtain ⟨stage, member, part, changes, _⟩ := Stage.passes_of_mem inside
        refine Or.inl ?_
        rw [value, if_pos inside]
        exact ((staged.changes stage member part).mp changes).2
      · exact Or.inr ⟨granted.mpr ⟨passes, texts⟩, filled⟩
  rw [Exact, premise]
  refine imp_congr_right fun takes => ?_
  obtain ⟨same, range⟩ := takes.ranged staged value
  rw [same, and_iff_left range, denotes_portOf]

theorem staged_of (stage : Stage ModifyPart) (part : stage.part = .setting asked.setting)
    (present : customPorts doc ≠ some none → stage ∈ modifyStages hw w taskId doc info h)
    (only : ∀ other ∈ modifyStages hw w taskId doc info h, other.part = .setting asked.setting → other = stage)
    (changes : stage.changes = true ↔ asked.text ≠ [] ∧ portOf asked.text ≠ asked.get info)
    (range : stage.refuses = false → asked.text ≠ [] → asked.low ≤ portOf asked.text ∧
      portOf asked.text ≤ asked.high) :
    asked.Staged hw w taskId doc info h where
  present texts := ⟨stage, present texts, part⟩
  changes other member same := by
    rw [only other member same]
    exact changes
  range other member same := by
    rw [only other member same]
    exact range

theorem stage_eq {stage : Stage ModifyPart} {setting : Setting} {one : Stage ModifyPart}
    (member : stage ∈ modifyStages hw w taskId doc info h) (part : stage.part = .setting setting)
    (is : setting = .sshPort ∧ one = portStage taskId doc info h .sshPort sshField ∨
      setting = .rdpPort ∧ one = portStage taskId doc info h .rdpPort rdpField ∨
      setting = .vncPort ∧ one = vncStage taskId doc info h) : stage = one := by
  have inside := mem_modifyStages member
  simp only [List.mem_cons, List.not_mem_nil, or_false] at inside
  rcases is with ⟨rfl, rfl⟩ | ⟨rfl, rfl⟩ | ⟨rfl, rfl⟩
  all_goals
    rcases inside with rfl | rfl | rfl | rfl | rfl | rfl | rfl | rfl | rfl | rfl | rfl | rfl <;> cases part
    rfl

/-- The two ports are in range where they are not zero. -/
theorem portStage_range {setting : Setting} {field : PortField}
    (refuses : (portStage taskId doc info h setting field).refuses = false)
    (filled : doc.parseString field.name ≠ []) :
    1 ≤ portOf (doc.parseString field.name) ∧ portOf (doc.parseString field.name) ≤ 65535 := by
  have passes := of_decide_eq_false refuses
  have positive : portOf (doc.parseString field.name) ≠ 0 := fun zero => passes ⟨filled, Or.inl zero⟩
  rw [Ne, ← UInt16.toNat_inj] at positive
  rw [UInt16.le_iff_toNat_le, UInt16.le_iff_toNat_le]
  have zero : (0 : UInt16).toNat = 0 := rfl
  have one : (1 : UInt16).toNat = 1 := rfl
  have last : (65535 : UInt16).toNat = 65535 := rfl
  have bounded := (portOf (doc.parseString field.name)).toNat_lt
  omega

theorem ssh_staged : Staged (ssh doc) hw w taskId doc info h := by
  refine staged_of (portStage taskId doc info h .sshPort sshField) rfl (fun _ => ?_)
    (fun other member part => stage_eq member part (Or.inl ⟨rfl, rfl⟩)) ?_ portStage_range
  · exact List.mem_cons_of_mem _ List.mem_cons_self
  · exact decide_eq_true_iff

theorem rdp_staged : Staged (rdp doc) hw w taskId doc info h := by
  refine staged_of (portStage taskId doc info h .rdpPort rdpField) rfl (fun _ => ?_)
    (fun other member part => stage_eq member part (Or.inr (Or.inl ⟨rfl, rfl⟩))) ?_
    portStage_range
  · exact List.mem_cons_of_mem _ (List.mem_cons_of_mem _ List.mem_cons_self)
  · exact decide_eq_true_iff

theorem vnc_staged : Staged (vnc doc) hw w taskId doc info h := by
  refine staged_of (vncStage taskId doc info h) rfl (fun texts => ?_)
    (fun other member part => stage_eq member part (Or.inr (Or.inr ⟨rfl, rfl⟩))) ?_ ?_
  · rw [modifyStages, if_neg texts]
    simp
  · exact decide_eq_true_iff
  · intro refuses filled
    have passes := of_decide_eq_false refuses
    have inside : vncError taskId (doc.parseString (str "new_vnc_port")) h = none := by
      rw [← Option.not_isSome_iff_eq_none]
      exact fun error => passes ⟨filled, error⟩
    unfold vncError at inside
    split at inside
    · cases inside
    · rename_i range
      rw [not_or] at range
      exact ⟨UInt16.not_lt.mp range.1, UInt16.not_lt.mp range.2⟩

end Iff

end AskedPort

/-- After a request to modify a task, granted or not, its ports are what was
asked for as numbers, where they were set or granted. -/
def ModifyExact (hw : Hardware) (w : World) (taskId : Bytes) (doc : Json) (h : Host) : Prop :=
  ∀ info now, h.taskInfos.find taskId = some info →
    (modifyTask hw w taskId doc h).2.taskInfos.find taskId = some now →
    ∀ asked ∈ [AskedPort.ssh doc, .rdp doc, .vnc doc],
      asked.Exact (∃ reply, (modifyTask hw w taskId doc h).1 = .ok reply) info now

/-- The ports that a request gets to set are numbers of ports. -/
def ModifyPlain (hw : Hardware) (w : World) (taskId : Bytes) (doc : Json) (h : Host) : Prop :=
  ∀ info, h.taskInfos.find taskId = some info → h.isExistDomain taskId → doc.isObject →
    ∀ asked ∈ [AskedPort.ssh doc, .rdp doc, .vnc doc], asked.Taken hw w taskId doc info h → Plain asked.text

/-- A request that does not get to its stages is not granted and changes
nothing. -/
theorem modifyTask_early (early : ¬ ∃ info, h.taskInfos.find taskId = some info ∧ h.isExistDomain taskId ∧
    doc.isObject) :
    ∃ error, modifyTask hw w taskId doc h = (.error (.thrown error), h) := by
  unfold modifyTask
  cases known : h.taskInfos.find taskId with
  | none => exact ⟨_, existingTask_bind_unknown known _⟩
  | some info =>
    cases present : h.isExistDomain taskId with
    | false =>
      have missing : existingTask taskId h = (.error (.thrown (str "task not exist")), h) := by
        rw [existingTask, known]
        exact if_neg (by rw [present]; exact Bool.false_ne_true)
      exact ⟨_, Prog.bind_error missing⟩
    | true =>
      have object : ¬ doc.isObject = true := fun object => early ⟨info, known, present, object⟩
      rw [Prog.bind_ok (existingTask_found known present)]
      exact ⟨_, Prog.bind_error (refuse_error (if_neg object))⟩

theorem modifyExact_iff (hw : Hardware) (w : World) (taskId : Bytes) (doc : Json) (h : Host) :
    ModifyExact hw w taskId doc h ↔ ModifyPlain hw w taskId doc h := by
  by_cases reached : ∃ info, h.taskInfos.find taskId = some info ∧ h.isExistDomain taskId ∧ doc.isObject
  · obtain ⟨info, known, present, object⟩ := reached
    have carries : (AskedPort.ssh doc).Carries taskId h (modifyTask hw w taskId doc h).2 :=
      AskedPort.Carrying.modifyTask hw w (AskedPort.ssh_of doc) h
    have still := carries.known
    rw [known] at still
    obtain ⟨now, found⟩ := Option.isSome_iff_exists.mp still
    have all : ∀ asked ∈ [AskedPort.ssh doc, .rdp doc, .vnc doc],
        asked.Exact (∃ reply, (modifyTask hw w taskId doc h).1 = .ok reply) info now ↔
          (asked.Taken hw w taskId doc info h → Plain asked.text) := by
      simp only [List.forall_mem_cons, List.not_mem_nil, false_imp_iff, implies_true, and_true]
      exact ⟨AskedPort.exact_iff (AskedPort.ssh_of doc) AskedPort.ssh_staged known present object found,
        AskedPort.exact_iff (AskedPort.rdp_of doc) AskedPort.rdp_staged known present object found,
        AskedPort.exact_iff (AskedPort.vnc_of doc) AskedPort.vnc_staged known present object found⟩
    constructor
    · intro sound other same _ _ asked member
      cases known.symm.trans same
      exact (all asked member).mp (sound info now known found asked member)
    · intro plain other after same stored asked member
      cases known.symm.trans same
      cases found.symm.trans stored
      exact (all asked member).mpr (plain info known present object asked member)
  · obtain ⟨error, stopped⟩ : ∃ error, modifyTask hw w taskId doc h = (.error (.thrown error), h) :=
      modifyTask_early reached
    refine iff_of_true ?_ fun info known present object => (reached ⟨info, known, present, object⟩).elim
    intro info now known found asked _ premise
    rw [stopped] at found premise
    cases known.symm.trans found
    rcases premise with differs | ⟨⟨_, granted⟩, _⟩
    · exact absurd rfl differs
    · cases granted

/-- The ports that a new task gets, and those that a modified one has, are
the numbers of the request exactly where its texts are the numbers of
ports. -/
theorem ports_exact_iff (hw : Hardware) (w : World) (h : Host) (doc : Json) :
    (∀ role, (∀ params, h.parseCreateParams hw w role (some doc) = .ok params → CreateExact doc params) ↔
      ((∃ params, h.parseCreateParams hw w role (some doc) = .ok params) → CreatePlain doc)) ∧
    ∀ taskId, ModifyExact hw w taskId doc h ↔ ModifyPlain hw w taskId doc h := by
  refine ⟨fun role => ?_, fun taskId => modifyExact_iff hw w taskId doc h⟩
  constructor
  · rintro sound ⟨params, parsed⟩
    exact (createExact_iff parsed).mp (sound params parsed)
  · intro plain params parsed
    exact (createExact_iff parsed).mpr (plain ⟨params, parsed⟩)

/-- A Windows task with different ports for SSH and RDP. -/
def windowsTask (sshPort rdpPort vncPort : String) : Json :=
  .object ([("operation_system", "windows"), ("image_name", "a.qcow2"), ("ssh_port", sshPort),
    ("rdp_port", rdpPort),
    ("vnc_port", vncPort), ("cpu_cores", "2"), ("mem_size", "1"), ("gpu_count", "0"), ("disk_size", "1")].map
      (fun member => (str member.1, .string (str member.2))))

/-- The port that is stored for RDP is not the one that was checked. -/
theorem rdp_port_unchecked : ∃ trace h, Reaches (step .small) Host.empty trace h ∧
    ¬ ∀ params, h.parseCreateParams .small (.calm (str "task")) .walletRenter
      (some (windowsTask "20001" "20002" "5901")) =
      .ok params → CreateExact (windowsTask "20001" "20002" "5901") params := by
  have facts : (runAll (step .small) Host.empty
    [(.calm (str "task"), .fileAppears (str "/data/a.qcow2") [])]).any (fun h =>
      match h.parseCreateParams .small (.calm (str "task")) .walletRenter
        (some (windowsTask "20001" "20002" "5901")) with
      | .ok params => decide (params.rdpPort ≠ portOf (windowsTask "20001" "20002" "5901").sshText)
      | .error _ => false) = true := by
    decide +kernel
  obtain ⟨h, ran, holds⟩ := (Option.any_eq_true _ _).mp facts
  refine ⟨_, h, Reaches.of_runAll _ .start ran, fun sound => ?_⟩
  split at holds
  · rename_i params parsed
    have rdp := (sound params parsed).rdp
    rw [if_pos (by decide), if_pos (by decide)] at rdp
    exact of_decide_eq_true holds rdp.2
  · cases holds

end DbcNode.Host
