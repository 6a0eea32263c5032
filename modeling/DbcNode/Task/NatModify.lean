import DbcNode.Task.ModifyAtomic
import DbcNode.Task.NatSteps

namespace DbcNode.Host
open Layout
variable {hw : Hardware} {w : World} {taskId : Bytes} {doc : Json} {info : TaskInfo} {h k t : Host}

/-- The part of a modification that is about ports and addresses. The value
is whether the rules have to be set again. -/
def modifyPorts (w : World) (taskId : Bytes) (doc : Json) : Call Bool := do
  let ip ← modifyPublicIp w taskId (doc.parseString (str "new_public_ip"))
  let ssh ← modifyPort sshField taskId doc
  let rdp ← modifyPort rdpField taskId doc
  refuse (fun _ => samePorts doc)
  let custom ← modifyCustomPort taskId doc
  pure (ip || ssh || rdp || custom)

theorem modifyNetwork_eq (w : World) (taskId : Bytes) (doc : Json) : modifyNetwork w taskId doc = (do
    let needed ← modifyPorts w taskId doc
    Prog.update (resetIptables taskId needed)
    modifyNwfilter w taskId doc) := by
  simp only [modifyNetwork, modifyPorts, bind_assoc, pure_bind]

/-- Its stages, by what they would do on the state that the call finds. -/
def portStages (w : World) (taskId : Bytes) (doc : Json) (info : TaskInfo) (h : Host) : List (Stage ModifyPart) :=
  ipStage w taskId doc info h :: portStage taskId doc info h .sshPort sshField ::
    portStage taskId doc info h .rdpPort rdpField :: samePortsStage doc ::
    if customPorts doc = some none then [] else [customStage doc info]

theorem modifyPorts_collects (w : World) (known : h.taskInfos.find taskId = some info) :
    Collects (customPorts doc = some none) false (portStages w taskId doc info h) h
      (modifyPorts w taskId doc h) := by
  refine .bind (modifyPublicIp_runs known) (fun t ran only => ?_)
  have address := modifyPublicIp_address known ran
  have midway := Midway.of_only only (by simp [ipStage])
  obtain ⟨now, found⟩ := midway.own known
  have own : now.publicIp = doc.parseString (str "new_public_ip") := by
    rw [found] at address
    exact Option.some.inj address
  have port := shows_sshPort.now only (by simp [ipStage]) known found
  refine .bind (modifyPort_runs midway found own shows_sshPort port setBy_sshPort (fun _ _ => rfl))
    (fun u _ next => ?_)
  have still : ∀ after, u.taskInfos.find taskId = some after →
    after.publicIp = doc.parseString (str "new_public_ip") :=
    fun after found' => (shows_publicIp.now next (by simp [portStage]) found found').trans own
  have only := only.grow next
  have midway := Midway.of_only only (by simp [ipStage, portStage])
  obtain ⟨after, found'⟩ := midway.own known
  have port := shows_rdpPort.now only (by simp [ipStage, portStage]) known found'
  refine .bind (modifyPort_runs midway found' (still after found') shows_rdpPort port setBy_rdpPort
    (fun _ _ => rfl)) (fun t _ next => ?_)
  have only := only.grow next
  have midway := Midway.of_only only (by simp [ipStage, portStage])
  obtain ⟨now, found⟩ := midway.own known
  have ports := shows_customPort.now only (by simp [ipStage, portStage]) known found
  have looked : (settings taskId).RunsAs (samePortsStage doc) () (refuse (fun _ => samePorts doc)) t :=
    refuse_runs .rest (fun _ => samePorts doc)
  refine .check rfl looked ?_
  split
  · rename_i noText
    rw [Prog.bind_error (modifyCustomPort_dies found noText), decide_eq_true noText]
    exact .dead _ _
  · rename_i texts
    rw [decide_eq_false texts]
    exact .bind (modifyCustomPort_runs found ports texts) (fun u _ _ => .done _ u)

theorem modifyPorts_confined (w : World) (taskId : Bytes) (doc : Json) :
    Confined {.info taskId, .ports taskId, .iptable taskId} (modifyPorts w taskId doc) := by
  refine (modifyPublicIp_confined w taskId _).bind (fun ip => ?_)
  refine (modifyPort_confined taskId sshField doc).bind (fun ssh => ?_)
  refine (modifyPort_confined taskId rdpField doc).bind (fun rdp => ?_)
  refine (refuse_confined _).bind (fun _ => ?_)
  exact ((modifyCustomPort_confined taskId doc).weaken (by simp [Set.insert_subset_iff])).bind (fun _ => .pure _)

/-- What the table goes by, and what was done to it. -/
def NatIs (views : Bytes → NatView) (nat : List NatCall) (h : Host) : Prop := h.natViews = views ∧ h.nat = nat

namespace NatIs
variable {α : Type} {views : Bytes → NatView} {nat : List NatCall}

theorem of_confined {call : Call α} {parts : Set Part} (confined : Confined parts call)
    (outside : ∀ taskId, .iptable taskId ∉ parts ∧ .ports taskId ∉ parts ∧ .state taskId ∉ parts)
    (table : .nat ∉ parts) :
    Prog.Keeps (NatIs views nat) call := by
  rintro h ⟨same, calls⟩
  have only : Only parts h (call h).2 := confined h
  refine ⟨?_, (only.nat table).trans calls⟩
  rw [← same]
  exact funext (fun taskId => natViews_eq_of_only only (outside taskId).1 (outside taskId).2.1 (outside taskId).2.2)

/-- A new port for VNC is in no rule. -/
theorem modifyVncPort : Prog.Keeps (NatIs views nat) (modifyVncPort taskId doc) := by
  rintro h ⟨same, calls⟩
  have only := modifyVncPort_confined taskId doc h
  refine ⟨?_, (Only.nat only (by simp)).trans calls⟩
  have within : Within taskId {.info taskId, .ports taskId} := by simp [Within, Part.owner]
  rw [natViews_within only within, ← same]
  suffices address : ((Host.modifyVncPort taskId doc h).2.taskInfos.find taskId).map (·.publicIp) =
      (h.taskInfos.find taskId).map (·.publicIp) by
    have view : (Host.modifyVncPort taskId doc h).2.natViews taskId = h.natViews taskId := by
      unfold natViews
      rw [address, Only.iptable only (by simp), Only.state only (by simp)]
    rw [view, Function.update_eq_self]
  unfold Host.modifyVncPort withInfo
  split
  · rfl
  · extract_lets text
    split
    · rfl
    · dsimp only
      split
      · rfl
      · split
        · rfl
        · rw [(SetTo.setInfo taskId _ h).own, Option.map_map]
          rfl

/-- All that a modification does when the rules have been set. -/
theorem modifyLater (hw : Hardware) (w : World) (taskId : Bytes) (doc : Json) (reply : Bool → Bytes) :
    Prog.Keeps (NatIs views nat) (do
      modifyNwfilter w taskId doc
      let needed ← modifyDomain hw w taskId doc
      redefine w taskId needed
      pure (reply needed)) := by
  refine .bind (of_confined (modifyNwfilter_confined w taskId doc) (by simp) (by simp)) (fun _ => ?_)
  refine .bind ?_ (fun needed => ?_)
  · refine .bind modifyVncPort (fun vnc => ?_)
    refine .bind (of_confined (modifyGpus_confined hw taskId doc) (by simp) (by simp)) (fun gpu => ?_)
    refine .bind (of_confined (modifyCpu_confined hw taskId doc) (by simp) (by simp)) (fun cpu => ?_)
    exact .bind (of_confined (modifyMem_confined w taskId doc) (by simp) (by simp)) (fun mem => .pure _)
  · exact .bind (of_confined (redefine_confined w taskId needed) (by simp) (by simp)) (fun _ => .pure _)

end NatIs

theorem passedOn_only (taskId : Bytes) (change : TaskInfo → TaskInfo) (rules : IptableInfo → IptableInfo)
    (h : Host) :
    Only {.info taskId, .ports taskId, .iptable taskId} h
      ((h.updateInfo taskId change).setIptable taskId rules) := by
  have changed : Only {.info taskId, .ports taskId, .iptable taskId} h (h.updateInfo taskId change) :=
    (updateInfo_only taskId h change).weaken (by simp [Set.insert_subset_iff])
  exact changed.next (setIptable_only taskId _ _) (by simp)

/-- What is set in the record of a task is set in its rules as well, and a
public ip that is new is free. -/
theorem passedOn_records (change : TaskInfo → TaskInfo) (rules : IptableInfo → IptableInfo)
    (records : NatRecords h.natViews) (known : h.taskInfos.find taskId = some info)
    (named : ∀ r, (rules r).taskId = r.taskId)
    (owned : ∀ r, info.publicIp = r.publicIp → (change info).publicIp = (rules r).publicIp)
    (free : (change info).publicIp = info.publicIp ∨ ∃ w, h.checkPublicIp w (change info).publicIp taskId = none) :
    NatRecords ((h.updateInfo taskId change).setIptable taskId rules).natViews := by
  have set := (SetTo.updateInfo taskId change h).setIptable rules
  have only := passedOn_only taskId change rules h
  generalize (h.updateInfo taskId change).setIptable taskId rules = k at set only ⊢
  have before : (h.natViews taskId).address = some info.publicIp := congrArg (Option.map _) known
  have address : (k.natViews taskId).address = some (change info).publicIp := by
    have own : k.taskInfos.find taskId = some (change info) := by
      rw [set.own, known]
      rfl
    exact congrArg (Option.map _) own
  have state : (k.natViews taskId).state = (h.natViews taskId).state := Only.state only (by simp)
  have fits := records.fits taskId
  have iptable : ∀ r', (k.natViews taskId).iptable = some r' → ∃ r, (h.natViews taskId).iptable = some r ∧
    rules r = r' := by
    intro r' found
    exact Option.map_eq_some_iff.mp (set.passed.symm.trans found)
  have after : (k.natViews taskId).Fits taskId := by
    refine ⟨fun r' found => ?_, fun r' found => ?_, fun r' found => ?_,
      fun one has => fits.settled one (state ▸ has)⟩ <;>
      obtain ⟨r, was, rfl⟩ := iptable r' found
    · rw [named]
      exact fits.named r was
    · have same := Option.some.inj (before.symm.trans (fits.owned r was))
      rw [address, owned r same]
    · rw [state]
      exact fits.defined r was
  have within : Within taskId {.info taskId, .ports taskId, .iptable taskId} := by simp [Within, Part.owner]
  rw [natViews_within only within]
  rcases free with same | ⟨w, free⟩
  · refine records.update_same after (Or.inl ?_)
    rw [address, before, same]
  · refine records.update after (fun other ip different some has => ?_) (fun empty => ?_)
    · have same := Option.some.inj (address.symm.trans has)
      rw [← same] at some ⊢
      exact checkPublicIp_apart free some different
    · rw [empty, records.unnamed] at before
      cases before

/-- The records fit together, and the task has this address, and rules or
none. -/
structure Recorded (taskId : Bytes) (ruled : Bool) (address : Option Bytes) (h : Host) : Prop where
  records : NatRecords h.natViews
  ruled : (h.taskIptables.find taskId).isSome = ruled
  address : (h.taskInfos.find taskId).map (·.publicIp) = address

namespace Recorded
variable {α : Type} {ruled : Bool} {address : Option Bytes}

/-- A port that is set. -/
theorem passedOn {change : TaskInfo → TaskInfo} {rules : IptableInfo → IptableInfo}
    (recorded : Recorded taskId ruled address h) (known : h.taskInfos.find taskId = some info)
    (named : ∀ r, (rules r).taskId = r.taskId ∧ (rules r).publicIp = r.publicIp)
    (same : (change info).publicIp = info.publicIp) :
    Recorded taskId ruled address ((h.updateInfo taskId change).setIptable taskId rules) where
  records := by
    refine passedOn_records change rules recorded.records known (fun r => (named r).1) (fun r equal => ?_)
      (Or.inl same)
    rw [same, (named r).2]
    exact equal
  ruled := by
    rw [((SetTo.updateInfo taskId change h).setIptable rules).passed, Option.isSome_map]
    exact recorded.ruled
  address := by
    rw [((SetTo.updateInfo taskId change h).setIptable rules).own, ← recorded.address, known]
    exact congrArg some same

/-- A call that looks at the record of the task. -/
theorem withInfo {call : TaskInfo → Call α} (keeps : ∀ info h, h.taskInfos.find taskId = some info →
    Recorded taskId ruled address h → Recorded taskId ruled address (call info h).2) :
    Prog.Keeps (Recorded taskId ruled address) (withInfo taskId call) := by
  intro h recorded
  unfold Host.withInfo
  split
  · exact recorded
  · rename_i info known
    exact keeps info h known recorded

theorem modifyPort {field : PortField} (info : ∀ port info, (field.set port info).publicIp = info.publicIp)
    (rules : ∀ port r, (field.setIptable port r).taskId = r.taskId ∧ (field.setIptable port r).publicIp =
      r.publicIp) :
    Prog.Keeps (Recorded taskId ruled address) (modifyPort field taskId doc) := by
  refine withInfo (fun now h known recorded => ?_)
  extract_lets text
  split
  · exact recorded
  · split
    · exact recorded
    · split
      · exact recorded
      · exact recorded.passedOn known (rules _) (info _ now)

theorem modifyCustomPort : Prog.Keeps (Recorded taskId ruled address) (modifyCustomPort taskId doc) := by
  refine withInfo (fun info h known recorded => ?_)
  split
  · exact recorded
  · split
    · exact recorded
    · split
      · exact recorded
      · exact recorded.passedOn known (fun _ => ⟨rfl, rfl⟩) rfl

theorem refuse (check : Host → Option Bytes) : Prog.Keeps (Recorded taskId ruled address) (refuse check) := by
  intro h recorded
  rw [refuse_same]
  exact recorded

/-- A public ip that is set, or refused. -/
theorem modifyPublicIp (w : World) (ip : Bytes) (records : NatRecords h.natViews)
    (known : h.taskInfos.find taskId = some info) : (∃ e, Host.modifyPublicIp w taskId ip h = (.error e, h)) ∨
      ∃ changed k, Host.modifyPublicIp w taskId ip h = (.ok changed, k) ∧
      Recorded taskId (h.taskIptables.find taskId).isSome (some ip) k := by
  unfold Host.modifyPublicIp
  cases free : h.checkPublicIp w ip taskId with
  | some error =>
    refine Or.inl ⟨.thrown error, (withInfo_found known).trans ?_⟩
    rw [free]
  | none =>
    refine Or.inr ?_
    by_cases same : ip = info.publicIp
    · refine ⟨false, h, (withInfo_found known).trans ?_, records, rfl, ?_⟩
      · rw [free]
        exact if_pos same
      · rw [known, same]
        rfl
    · have set := (SetTo.updateInfo taskId (fun info => { info with publicIp := ip }) h).setIptable
        (fun iptable => { iptable with publicIp := ip })
      have fitting := passedOn_records (fun info => { info with publicIp := ip })
        (fun iptable => { iptable with publicIp := ip }) records known (fun _ => rfl) (fun _ _ => rfl)
          (Or.inr ⟨w, free⟩)
      refine ⟨true, _, (withInfo_found known).trans ?_, fitting, ?_, ?_⟩
      · rw [free]
        exact if_neg same
      · rw [set.passed, Option.isSome_map]
      · rw [set.own, known]
        rfl

/-- However the ports are set, the records fit together, and where they are
set, the task has the address that was asked for. -/
theorem modifyPorts (w : World) (doc : Json) (records : NatRecords h.natViews)
    (known : h.taskInfos.find taskId = some info) : (∃ e, Host.modifyPorts w taskId doc h = (.error e, h)) ∨
      Recorded taskId (h.taskIptables.find taskId).isSome
      (some (doc.parseString (str "new_public_ip"))) (Host.modifyPorts w taskId doc h).2 := by
  unfold Host.modifyPorts
  rcases modifyPublicIp w (doc.parseString (str "new_public_ip")) records known with
    ⟨e, refused⟩ | ⟨changed, k, ran, recorded⟩
  · exact Or.inl ⟨e, Prog.bind_error refused⟩
  · refine Or.inr ?_
    rw [Prog.bind_ok ran]
    refine Prog.Keeps.bind (modifyPort (fun _ _ => rfl) (fun _ _ => ⟨rfl, rfl⟩)) (fun ssh => ?_) k recorded
    refine .bind (modifyPort (fun _ _ => rfl) (fun _ _ => ⟨rfl, rfl⟩)) (fun rdp => ?_)
    refine .bind (refuse _) (fun _ => ?_)
    exact .bind modifyCustomPort (fun custom => .pure _)

end Recorded

end DbcNode.Host
