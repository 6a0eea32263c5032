import DbcNode.Task.ShutOff

namespace DbcNode

/-- The ports of the host that are passed on to a task. One with a public ip
needs none, and there is no port 0. -/
def Ports.hostPorts (p : Ports) : List UInt16 :=
  if p.publicIp = [] then [p.sshPort, p.rdpPort].filter (· ≠ 0) else []

/-- Two tasks that take no port from each other. -/
def Ports.Apart (p q : Ports) : Prop := (∀ port ∈ p.hostPorts, port ∉ q.hostPorts) ∧ p.vncPort ≠ q.vncPort

theorem Ports.Apart.symm {p q : Ports} (apart : p.Apart q) : q.Apart p :=
  ⟨fun port inside other => apart.1 port other inside, apart.2.symm⟩

namespace Host

def portsOf (taskId : Bytes) (h : Host) : Option Ports := (h.taskInfos.find taskId).map TaskInfo.ports

/-- No two tasks whose domains are not shut off take the same port of the
host. -/
def PortsExclusive (h : Host) : Prop := ∀ first second p q, first ≠ second → ¬ Down first h → ¬ Down second h →
  h.portsOf first = some p → h.portsOf second = some q → p.Apart q

/-- Every other domain that is not shut off is in a state in which its ports
are seen. -/
def OthersSeen (taskId : Bytes) (h : Host) : Prop := ∀ other, other ≠ taskId → ¬ Down other h →
  h.getDomainStatus other = .running ∨ h.getDomainStatus other = .blocked ∨ h.getDomainStatus other = .paused

/-- The ports of a task pass the check that `check_resource` makes of one of
them. -/
def PortsFree (taskId : Bytes) (p : Ports) (h : Host) : Prop :=
  (∀ port ∈ p.hostPorts, h.checkPortConflict port taskId = none) ∧ h.checkPortConflict p.vncPort taskId = none ∧
    OthersSeen taskId h

/-- What a request to modify a task asks of the other tasks, where the task
is not shut off: each of them is seen, and the public ip of the task is
given up only where its ports are free. -/
def ModifiesSafely (taskId : Bytes) (doc : Json) (h : Host) : Prop := ¬ Down taskId h → OthersSeen taskId h ∧
  ∀ p, h.portsOf taskId = some p → p.publicIp ≠ [] → doc.parseString (str "new_public_ip") = [] →
    PortsFree taskId { p with publicIp := [] } h

theorem othersSeen_iff {taskId : Bytes} {h : Host} : OthersSeen taskId h ↔
    ∀ entry ∈ h.domains.entries, entry.1 ≠ taskId → entry.2.state ≠ .shutoff →
      entry.2.state = .running ∨ entry.2.state = .blocked ∨ entry.2.state = .paused := by
  constructor
  · intro seen entry member different up
    have found : h.domains.find entry.1 = some entry.2 := OrdMap.find_eq_some.mpr member
    rw [← getDomainStatus_of_find found] at up ⊢
    exact seen entry.1 different (fun down => up ((getDomainStatus_of_find found).trans (down entry.2 found)))
  · intro seen other different up
    obtain ⟨domain, found⟩ := not_forall.mp up
    obtain ⟨present, running⟩ := Classical.not_imp.mp found
    rw [getDomainStatus_of_find present]
    exact seen (other, domain) (OrdMap.find_eq_some.mp present) different running

instance (taskId : Bytes) (h : Host) : Decidable (OthersSeen taskId h) := decidable_of_iff _ othersSeen_iff.symm

instance (taskId : Bytes) (p : Ports) (h : Host) : Decidable (PortsFree taskId p h) :=
  -- the ports of the task are looked at, not all there are
  have : Decidable (∀ port ∈ p.hostPorts, checkPortConflict port taskId h = none) := List.decidableBAll _ _
  inferInstanceAs (Decidable (_ ∧ _ ∧ _))

instance (taskId : Bytes) (doc : Json) (h : Host) : Decidable (ModifiesSafely taskId doc h) :=
  inferInstanceAs (Decidable (¬ Down taskId h → OthersSeen taskId h ∧
    ∀ p ∈ h.portsOf taskId, p.publicIp ≠ [] → doc.parseString (str "new_public_ip") = [] →
      PortsFree taskId { p with publicIp := [] } h))

section Check
variable {port : UInt16} {taskId other : Bytes} {info : TaskInfo} {p q : Ports} {h : Host}

theorem checkPortConflict_none (passed : h.checkPortConflict port taskId = none) (different : other ≠ taskId)
    (found : h.taskInfos.find other = some info)
    (seen : h.getDomainStatus other = .running ∨ h.getDomainStatus other = .blocked ∨
      h.getDomainStatus other = .paused) :
    info.vncPort ≠ port ∧ (info.publicIp = [] → info.sshPort ≠ port ∧ info.rdpPort ≠ port) := by
  have free := List.findSome?_eq_none_iff.mp passed (other, info) (OrdMap.find_eq_some.mp found)
  rw [if_neg different, portConflict] at free
  dsimp only at free
  have counted : ¬ (h.getDomainStatus other ≠ .running ∧ h.getDomainStatus other ≠ .blocked ∧
      h.getDomainStatus other ≠ .paused) := by
    rintro ⟨notRunning, notBlocked, notPaused⟩
    rcases seen with running | blocked | paused
    · exact notRunning running
    · exact notBlocked blocked
    · exact notPaused paused
  rw [if_neg counted] at free
  split at free
  · cases free
  · rename_i vnc
    refine ⟨vnc, fun shared => ?_⟩
    rw [if_neg (not_not.mpr shared)] at free
    split at free
    · cases free
    · rename_i ssh
      split at free
      · cases free
      · rename_i rdp
        exact ⟨ssh, rdp⟩

theorem mem_hostPorts {port : UInt16} : port ∈ p.hostPorts ↔
    p.publicIp = [] ∧ (port = p.sshPort ∨ port = p.rdpPort) ∧ port ≠ 0 := by
  unfold Ports.hostPorts
  split
  · rename_i shared
    simp [shared, List.mem_filter]
  · rename_i own
    simp [own]

/-- A port that passes the check is in no other task's way. -/
theorem notMem_hostPorts (passed : h.checkPortConflict port taskId = none) (different : other ≠ taskId)
    (seen : OthersSeen taskId h) (up : ¬ Down other h) (found : h.portsOf other = some q) :
    port ∉ q.hostPorts ∧ q.vncPort ≠ port := by
  obtain ⟨info, known, rfl⟩ := Option.map_eq_some_iff.mp found
  obtain ⟨vnc, shared⟩ := checkPortConflict_none passed different known (seen other different up)
  refine ⟨fun member => ?_, vnc⟩
  obtain ⟨noIp, ssh | rdp, _⟩ := mem_hostPorts.mp member
  · exact (shared noIp).1 ssh.symm
  · exact (shared noIp).2 rdp.symm

theorem PortsFree.apart (free : PortsFree taskId p h) (different : other ≠ taskId) (up : ¬ Down other h)
    (found : h.portsOf other = some q) : p.Apart q := by
  obtain ⟨host, vnc, seen⟩ := free
  refine ⟨fun port member => ?_, ?_⟩
  · exact (notMem_hostPorts (host port member) different seen up found).1
  · exact (notMem_hostPorts vnc different seen up found).2.symm

end Check

/-- What a modification of a task that is not shut off keeps. -/
structure PortsKept (taskId : Bytes) (h : Host) : Prop where
  seen : OthersSeen taskId h
  apart : ∀ other p q, other ≠ taskId → ¬ Down other h → h.portsOf taskId = some p →
    h.portsOf other = some q → p.Apart q

section Modify
variable {hw : Hardware} {w : World} {parts : Set Part} {taskId : Bytes} {h k : Host}

theorem portsOf_frame {other : Bytes} (only : Only parts h k) (outside : .ports other ∉ parts) :
    k.portsOf other = h.portsOf other := only.ports outside

/-- A change of the ports of the task, to some that are out of the way of
the others. -/
theorem PortsKept.change (kept : PortsKept taskId h) (only : Only parts h k)
    (states : ∀ other, .state other ∉ parts) (ports : ∀ other, other ≠ taskId → .ports other ∉ parts)
    (own : ∀ other p q, other ≠ taskId → ¬ Down other h → k.portsOf taskId = some p → h.portsOf other = some q →
      p.Apart q) : PortsKept taskId k := by
  refine ⟨fun other different up => ?_, fun other p q different up new found => ?_⟩
  · rw [Down.iff only (states other)] at up
    rw [only.getDomainStatus (states other)]
    exact kept.seen other different up
  · rw [Down.iff only (states other)] at up
    rw [portsOf_frame only (ports other different)] at found
    exact own other p q different up new found

theorem PortsKept.frame (kept : PortsKept taskId h) (only : Only parts h k) (states : ∀ other, .state other ∉ parts)
    (ports : ∀ other, .ports other ∉ parts) : PortsKept taskId k := by
  refine kept.change only states (fun other _ => ports other) ?_
  intro other p q different up new found
  rw [portsOf_frame only (ports taskId)] at new
  exact kept.apart other p q different up new found

/-- A setter of the record of the task that is known. -/
theorem PortsKept.updateInfo (kept : PortsKept taskId h) {info : TaskInfo}
    (known : h.taskInfos.find taskId = some info) {set : TaskInfo → TaskInfo}
    (apart : ∀ other q, other ≠ taskId → ¬ Down other h → h.portsOf other = some q →
      (set info).ports.Apart q) : PortsKept taskId (h.updateInfo taskId set) := by
  refine kept.change (updateInfo_only taskId h set) (by simp) (by simp) ?_
  intro other p q different up new found
  simp only [portsOf, Host.updateInfo, known, OrdMap.find_insert_self, Option.map_some, Option.some.injEq] at new
  subst new
  exact apart other q different up found

theorem PortsKept.setInfo (kept : PortsKept taskId h) {info : TaskInfo}
    (known : h.taskInfos.find taskId = some info) {set : TaskInfo → TaskInfo}
    (apart : ∀ other q, other ≠ taskId → ¬ Down other h → h.portsOf other = some q →
      (set info).ports.Apart q) : PortsKept taskId (h.setInfo taskId set) := by
  refine kept.change (setInfo_only taskId h set) (by simp) (by simp) ?_
  intro other p q different up new found
  simp only [portsOf, Host.setInfo, known, OrdMap.find_insert_self, Option.map_some, Option.some.injEq] at new
  subst new
  exact apart other q different up found

/-- A task that gives its public ip up needs ports that are free. -/
theorem PortsKept.modifyPublicIp (kept : PortsKept taskId h) {newPublicIp : Bytes}
    (free : ∀ p, h.portsOf taskId = some p → p.publicIp ≠ [] → newPublicIp = [] →
      PortsFree taskId { p with publicIp := [] } h) : PortsKept taskId
        (modifyPublicIp w taskId newPublicIp h).2 := by
  unfold Host.modifyPublicIp withInfo
  split
  · exact kept
  · rename_i info known
    have own : h.portsOf taskId = some info.ports := by rw [portsOf, known, Option.map_some]
    dsimp only
    split
    · exact kept
    · split
      · exact kept
      · rename_i different
        refine PortsKept.frame ?_ (setIptable_only taskId _ _) (by simp) (by simp)
        refine kept.updateInfo known ?_
        intro other q apart up found
        have before := kept.apart other _ q apart up own found
        by_cases lost : newPublicIp = []
        · have held : info.publicIp ≠ [] := fun none => different (lost.trans none.symm)
          rw [lost]
          exact (free _ own held lost).apart apart up found
        · refine ⟨fun port member => ?_, before.2⟩
          exact (lost (mem_hostPorts.mp member).1).elim

/-- One of the two ports: the new one was checked, and the other one
stays. -/
theorem PortsKept.modifyPort {field : PortField} (kept : PortsKept taskId h) (doc : Json)
    (vnc : ∀ port info, (field.set port info).vncPort = info.vncPort)
    (publicIp : ∀ port info, (field.set port info).publicIp = info.publicIp)
    (others : ∀ port info number, number ∈ (field.set port info).ports.hostPorts →
      number = port ∨ number ∈ info.ports.hostPorts) : PortsKept taskId (modifyPort field taskId doc h).2 := by
  unfold Host.modifyPort withInfo
  split
  · exact kept
  · rename_i info known
    have own : h.portsOf taskId = some info.ports := by rw [portsOf, known, Option.map_some]
    dsimp only
    split
    · exact kept
    · split
      · exact kept
      · rename_i accepted
        split
        · exact kept
        · refine PortsKept.frame ?_ (setIptable_only taskId _ _) (by simp) (by simp)
          refine kept.updateInfo known ?_
          intro other q different up found
          have before := kept.apart other _ q different up own found
          refine ⟨fun number member => ?_, ?_⟩
          · rcases others _ _ _ member with rfl | old
            · have noIp : info.publicIp = [] := (publicIp _ info).symm.trans (mem_hostPorts.mp member).1
              have passed : h.checkPortConflict (portOf (doc.parseString field.name)) taskId = none := by
                by_contra conflict
                unfold portError at accepted
                split at accepted
                · cases accepted
                · rw [if_pos ⟨noIp, conflict⟩] at accepted
                  cases accepted
              exact (notMem_hostPorts passed different kept.seen up found).1
            · exact before.1 number old
          · change (field.set _ info).vncPort ≠ _
            rw [vnc]
            exact before.2

theorem PortsKept.modifySshPort (kept : PortsKept taskId h) (doc : Json) :
    PortsKept taskId (Host.modifyPort sshField taskId doc h).2 := by
  refine kept.modifyPort doc (fun _ _ => rfl) (fun _ _ => rfl) ?_
  intro port info number member
  obtain ⟨noIp, held, positive⟩ := mem_hostPorts.mp member
  rcases held with ssh | rdp
  · exact Or.inl ssh
  · exact Or.inr (mem_hostPorts.mpr ⟨noIp, Or.inr rdp, positive⟩)

theorem PortsKept.modifyRdpPort (kept : PortsKept taskId h) (doc : Json) :
    PortsKept taskId (Host.modifyPort rdpField taskId doc h).2 := by
  refine kept.modifyPort doc (fun _ _ => rfl) (fun _ _ => rfl) ?_
  intro port info number member
  obtain ⟨noIp, held, positive⟩ := mem_hostPorts.mp member
  rcases held with ssh | rdp
  · exact Or.inr (mem_hostPorts.mpr ⟨noIp, Or.inl ssh, positive⟩)
  · exact Or.inl rdp

theorem PortsKept.modifyVncPort (kept : PortsKept taskId h) (doc : Json) :
    PortsKept taskId (modifyVncPort taskId doc h).2 := by
  unfold Host.modifyVncPort withInfo
  split
  · exact kept
  · rename_i info known
    have own : h.portsOf taskId = some info.ports := by rw [portsOf, known, Option.map_some]
    dsimp only
    split
    · exact kept
    · split
      · exact kept
      · rename_i accepted
        split
        · exact kept
        · refine kept.setInfo known ?_
          intro other q different up found
          have before := kept.apart other _ q different up own found
          have passed : h.checkPortConflict (portOf (doc.parseString (str "new_vnc_port"))) taskId = none := by
            by_contra conflict
            unfold vncError at accepted
            split at accepted
            · cases accepted
            · cases accepted
          exact ⟨before.1, (notMem_hostPorts passed different kept.seen up found).2.symm⟩

/-- What leaves states and ports alone keeps them. -/
theorem PortsKept.keeps {α : Type} {call : Call α} (confined : Confined parts call)
    (states : ∀ other, .state other ∉ parts) (ports : ∀ other, .ports other ∉ parts) :
    Prog.Keeps (PortsKept taskId) call := fun h kept => kept.frame (confined h) states ports

theorem PortsKept.modifyNetwork (kept : PortsKept taskId h) {doc : Json}
    (free : ∀ p, h.portsOf taskId = some p → p.publicIp ≠ [] → doc.parseString (str "new_public_ip") = [] →
      PortsFree taskId { p with publicIp := [] } h) : PortsKept taskId (modifyNetwork w taskId doc h).2 := by
  refine Prog.Keeps.after (kept.modifyPublicIp free) (fun ip => ?_)
  refine Prog.Keeps.bind (fun h kept => kept.modifySshPort doc) (fun ssh => ?_)
  refine Prog.Keeps.bind (fun h kept => kept.modifyRdpPort doc) (fun rdp => ?_)
  refine (keeps (refuse_confined _) (fun _ => Set.notMem_empty _) (fun _ => Set.notMem_empty _)).bind (fun _ => ?_)
  refine (keeps (modifyCustomPort_confined taskId doc) (by simp) (by simp)).bind (fun custom => ?_)
  refine (keeps (Layout.Confined.update (resetIptables_only taskId _)) (by simp) (by simp)).bind (fun _ => ?_)
  exact keeps (modifyNwfilter_confined w taskId doc) (by simp) (by simp)

theorem PortsKept.modifyDomain (doc : Json) : Prog.Keeps (PortsKept taskId) (modifyDomain hw w taskId doc) := by
  refine Prog.Keeps.bind (fun h kept => kept.modifyVncPort doc) (fun vnc => ?_)
  refine (keeps (modifyGpus_confined hw taskId doc) (by simp) (by simp)).bind (fun gpu => ?_)
  refine (keeps (modifyCpu_confined hw taskId doc) (by simp) (by simp)).bind (fun cpu => ?_)
  exact (keeps (modifyMem_confined w taskId doc) (by simp) (by simp)).bind (fun mem => .pure _)

theorem PortsKept.modifyTask (hw : Hardware) (w : World) (kept : PortsKept taskId h) {doc : Json}
    (free : ∀ p, h.portsOf taskId = some p → p.publicIp ≠ [] → doc.parseString (str "new_public_ip") = [] →
      PortsFree taskId { p with publicIp := [] } h) : PortsKept taskId (modifyTask hw w taskId doc h).2 := by
  refine Prog.bind_looked (existingTask_same taskId h) kept (fun _ => ?_)
  refine Prog.bind_looked (refuse_same _ h) kept (fun _ => ?_)
  refine Prog.Keeps.after (kept.modifyNetwork free) (fun _ => ?_)
  refine (modifyDomain doc).bind (fun needed => ?_)
  exact (keeps (redefine_confined w taskId needed) (by simp) (by simp)).bind (fun _ => .pure _)

end Modify

namespace PortsExclusive
variable {hw : Hardware} {w : World} {parts : Set Part} {taskId : Bytes} {h k : Host}

/-- A change of one task, whose ports stay out of the way of the others. -/
theorem change (exclusive : PortsExclusive h) (only : Only parts h k)
    (states : ∀ other, other ≠ taskId → .state other ∉ parts)
    (ports : ∀ other, other ≠ taskId → .ports other ∉ parts)
    (own : ∀ other p q, other ≠ taskId → ¬ Down taskId k → ¬ Down other h → k.portsOf taskId = some p →
      h.portsOf other = some q → p.Apart q) : PortsExclusive k := by
  have others : ∀ other, other ≠ taskId → (¬ Down other k → ¬ Down other h) ∧ k.portsOf other =
    h.portsOf other := by
    intro other different
    refine ⟨fun up => ?_, portsOf_frame only (ports other different)⟩
    rwa [Down.iff only (states other different)] at up
  intro first second p q different upFirst upSecond foundFirst foundSecond
  by_cases isFirst : first = taskId
  · subst isFirst
    obtain ⟨up, same⟩ := others second different.symm
    exact own second p q different.symm upFirst (up upSecond) foundFirst (same ▸ foundSecond)
  · obtain ⟨up, same⟩ := others first isFirst
    rw [same] at foundFirst
    by_cases isSecond : second = taskId
    · subst isSecond
      exact (own first q p isFirst upSecond (up upFirst) foundSecond foundFirst).symm
    · obtain ⟨alsoUp, alsoSame⟩ := others second isSecond
      exact exclusive first second p q different (up upFirst) (alsoUp upSecond) foundFirst (alsoSame ▸ foundSecond)

/-- A change of one task that does not bring it up and leaves its ports. -/
theorem calm (exclusive : PortsExclusive h) (only : Only parts h k) (within : Within taskId parts)
    (down : Down taskId h → Down taskId k)
    (ports : ∀ p, k.portsOf taskId = some p → h.portsOf taskId = some p) : PortsExclusive k := by
  refine exclusive.change only (fun other different => within.other rfl different)
    (fun other different => within.other rfl different) ?_
  intro other p q different upOwn upOther foundOwn foundOther
  exact exclusive taskId other p q different.symm (fun wasDown => upOwn (down wasDown)) upOther
    (ports p foundOwn) foundOther

theorem frame (exclusive : PortsExclusive h) (only : Only parts h k) (states : ∀ other, .state other ∉ parts)
    (ports : ∀ other, .ports other ∉ parts) : PortsExclusive k := by
  intro first second p q different upFirst upSecond foundFirst foundSecond
  rw [Down.iff only (states _)] at upFirst upSecond
  rw [portsOf_frame only (ports _)] at foundFirst foundSecond
  exact exclusive first second p q different upFirst upSecond foundFirst foundSecond

theorem create (exclusive : PortsExclusive h) {wallet root : Bytes} {rentEnd : Int} {params : CreateTaskParams}
    (fresh : Down params.taskId h) : PortsExclusive (h.addTask w wallet rentEnd params root) := by
  have only := addTask_only w h wallet rentEnd params root
  refine exclusive.change only (fun other _ => by simp [createParts])
    (fun other different => (createParts_within params.taskId).other rfl different) ?_
  intro other p q different up
  exact (up (fresh.frame only (by simp [createParts]))).elim

theorem modify (exclusive : PortsExclusive h) {wallet : Bytes} {doc : Json}
    (checked : ModifiesSafely taskId doc h) :
    PortsExclusive (execute hw w wallet ⟨taskId, .modify doc⟩ h).2 := by
  have only : Only (requestParts ⟨taskId, .modify doc⟩) h _ := execute_confined hw w wallet ⟨taskId, .modify doc⟩ h
  refine exclusive.change only (fun other _ => by simp [requestParts]) (fun other _ => by simpa [requestParts]) ?_
  intro other p q different upOwn upOther foundOwn foundOther
  rw [Down.iff only (by simp [requestParts])] at upOwn
  obtain ⟨seen, free⟩ := checked upOwn
  have kept : PortsKept taskId h := ⟨seen, fun other p q different upOther own found =>
    exclusive taskId other p q different.symm upOwn upOther own found⟩
  have after : PortsKept taskId (execute hw w wallet ⟨taskId, .modify doc⟩ h).2 :=
    Prog.Keeps.after (kept.modifyTask hw w free) (fun _ => .pure _)
  refine after.apart other p q different ?_ foundOwn ?_
  · rwa [Down.iff only (by simp [requestParts])]
  · rwa [portsOf_frame only (by simpa [requestParts])]

theorem destroyTask (exclusive : PortsExclusive h) (taskId : Bytes) : PortsExclusive (h.destroyTask w taskId) := by
  refine exclusive.calm (destroyTask_only w taskId h) (destroyParts_within taskId) Down.destroyTask ?_
  intro p found
  rw [portsOf, destroyTask_unknown] at found
  cases found

theorem closeTask (exclusive : PortsExclusive h) (taskId : Bytes) : PortsExclusive (h.closeTask w taskId) := by
  have only := closeTask_only w taskId h
  refine exclusive.calm only (closeParts_within taskId) (fun down => ?_) (fun p found => ?_)
  · rw [down.closeTask]
    exact down
  · rwa [portsOf_frame only (by simp)] at found

/-- An event leaves the ports of its task, or takes them away with it. -/
theorem processJob_ports {job : TaskJob} {p : Ports}
    (found : (processJob w taskId job h).2.portsOf taskId = some p) :
    h.portsOf taskId = some p := by
  have footprint : Only (jobParts taskId job) h _ := processJob_confined w taskId job h
  cases job with
  | deleteTask =>
    change (h.processDeleteTask w taskId).portsOf taskId = some p at found
    unfold processDeleteTask at found
    split at found
    · exact found
    · rw [portsOf, destroyTask_unknown] at found
      cases found
  | _ => rwa [portsOf_frame footprint (by simp [jobParts])] at found

theorem beginJob_ports {job : TaskJob} {p : Ports} (found : (beginJob w taskId job h).2.portsOf taskId = some p) :
    h.portsOf taskId = some p := by
  have footprint : Only (jobParts taskId job) h _ := beginJob_confined w taskId job h
  cases job with
  | deleteTask =>
    have whole : (beginJob w taskId .deleteTask h).2 = (processJob w taskId .deleteTask h).2 := rfl
    rw [whole] at found
    exact processJob_ports found
  | _ => rwa [portsOf_frame footprint (by simp [jobParts])] at found

/-- A stage that finds the ports of its task free when it starts it. The
root file of a task is looked up only while it is down, and what is put back
into its record then does not matter. -/
theorem processStage (exclusive : PortsExclusive h) {event : TaskEvent} {stage : EventStage}
    (stopped : ∀ info, stage = .rootLookup info → Down event.taskId h)
    (free : StageStarts w ⟨event, stage⟩ h → Down event.taskId h → ∀ p, h.portsOf event.taskId = some p →
      PortsFree event.taskId p h) : PortsExclusive (processStage w event stage h).2 := by
  have footprint : Only (stageParts event.taskId event.job stage) h _ := processStage_confined w event stage h
  have within := stageParts_within event.taskId event.job stage
  refine exclusive.change footprint (fun other different => within.other rfl different)
    (fun other different => within.other rfl different) ?_
  intro other p q different upOwn upOther foundOwn foundOther
  have own : ¬ (∃ info, stage = .rootLookup info) → h.portsOf event.taskId = some p := by
    intro plain
    cases stage with
    | taken => exact beginJob_ports foundOwn
    | rootLookup info => exact (plain ⟨info, rfl⟩).elim
    | _ => rwa [portsOf_frame footprint (by simp [stageParts, jobParts])] at foundOwn
  by_cases down : Down event.taskId h
  · -- it has just come up, so it was started
    have starts : StageStarts w ⟨event, stage⟩ h := by
      by_contra quiet
      exact upOwn (down.processStage (fun _ => quiet))
    have plain : ¬ ∃ info, stage = .rootLookup info := by
      rintro ⟨info, rfl⟩
      exact starts
    exact (free starts down p (own plain)).apart different upOther foundOther
  · have plain : ¬ ∃ info, stage = .rootLookup info := by
      rintro ⟨info, looks⟩
      exact down (stopped info looks)
    exact exclusive event.taskId other p q different.symm down upOther (own plain) foundOther

theorem domainChanges (exclusive : PortsExclusive h) {state : DomainState}
    (ran : h.domainChanges taskId state = some k) : PortsExclusive k := by
  unfold Host.domainChanges at ran
  split at ran
  · cases ran
  · rename_i domain found
    split at ran
    · cases ran
    · rename_i running
      cases ran
      have only := setDomain_only_domain taskId (h := h) { domain with state := state }
      exact exclusive.calm only (domainParts_within taskId) (fun down => (running (down domain found)).elim)
        (fun p same => same)

theorem empty : PortsExclusive Host.empty := fun _ _ _ _ _ up => (up (Down.of_missing rfl)).elim

end PortsExclusive

end Host

namespace TaskThread

/-- When a domain starts, its ports are free by then. A task that is not
shut off is modified only when every other one is seen, and it gives its
public ip up only where its ports are free. A new task has no domain yet
that does anything. -/
def PortsChecked (t : TaskThread) : ThreadEvent → Prop
  | .node (w, .create _ _ _ _) => Host.Down w.newTaskId t.host
  | .node (_, .request _ ⟨taskId, .modify doc⟩) => t.host.ModifiesSafely taskId doc
  | .work w => ∀ ongoing ∈ t.ongoing, t.host.StageStarts w ongoing → Host.Down ongoing.event.taskId t.host →
      ∀ p, t.host.portsOf ongoing.event.taskId = some p → t.host.PortsFree ongoing.event.taskId p
  | _ => True

instance (t : TaskThread) : (event : ThreadEvent) → Decidable (PortsChecked t event)
  | .node (w, .create _ _ _ _) => inferInstanceAs (Decidable (Host.Down w.newTaskId t.host))
  | .node (_, .request _ ⟨taskId, .modify doc⟩) => inferInstanceAs (Decidable (t.host.ModifiesSafely taskId doc))
  | .node (_, .request _ ⟨_, .list⟩) | .node (_, .request _ ⟨_, .start⟩) | .node (_, .request _ ⟨_, .shutdown⟩)
  | .node (_, .request _ ⟨_, .poweroff⟩) | .node (_, .request _ ⟨_, .stop⟩) | .node (_, .request _ ⟨_, .restart _⟩)
  | .node (_, .request _ ⟨_, .reset⟩) | .node (_, .request _ ⟨_, .delete⟩) | .node (_, .request _ ⟨_, .passwd _⟩)
  | .node (_, .request _ ⟨_, .logs _ _⟩) | .node (_, .request _ ⟨_, .listDisk⟩)
  | .node (_, .request _ ⟨_, .resizeDisk _⟩) | .node (_, .request _ ⟨_, .addDisk _⟩)
  | .node (_, .request _ ⟨_, .deleteDisk _⟩) | .node (_, .request _ ⟨_, .listSnapshot _⟩)
  | .node (_, .request _ ⟨_, .createSnapshot _⟩) | .node (_, .request _ ⟨_, .deleteSnapshot _⟩) => isTrue trivial
  | .work w => inferInstanceAs (Decidable (∀ ongoing ∈ t.ongoing, t.host.StageStarts w ongoing →
      Host.Down ongoing.event.taskId t.host → ∀ p ∈ t.host.portsOf ongoing.event.taskId,
        t.host.PortsFree ongoing.event.taskId p))
  | .node (_, .deleteImage _) | .node (_, .process) | .node (_, .close _) | .node (_, .destroy _)
  | .node (_, .uploaded _ _) | .node (_, .domainChanges _ _) | .node (_, .fileAppears _ _) | .take
  | .retry _ => isTrue trivial

/-- The ports are apart, and a task whose root file is looked up is down. -/
structure PortsApart (t : TaskThread) : Prop where
  exclusive : t.host.PortsExclusive
  stopped : ∀ ongoing ∈ t.ongoing, ∀ info, ongoing.stage = .rootLookup info → Host.Down ongoing.event.taskId t.host

namespace PortsApart
variable {hw : Hardware} {w : World} {t u : TaskThread} {h k : Host}

theorem idle (exclusive : h.PortsExclusive) : PortsApart (idle h) := ⟨exclusive, fun _ none => (by cases none)⟩

theorem busy {ongoing : OngoingEvent} (exclusive : h.PortsExclusive)
    (stopped : ∀ info, ongoing.stage = .rootLookup info → Host.Down ongoing.event.taskId h) :
    PortsApart (busy h ongoing) := by
  refine ⟨exclusive, fun seen present info looks => ?_⟩
  cases present
  obtain ⟨event, stage⟩ := ongoing
  cases stage with
  | rootLookup held => exact stopped held rfl
  | _ => cases looks

theorem on {ongoing : Option OngoingEvent} (apart : PortsApart ⟨h, ongoing⟩) (exclusive : k.PortsExclusive)
    (stays : ∀ taskId, Host.Down taskId h → Host.Down taskId k) : PortsApart (on k ongoing) := by
  cases ongoing with
  | none => exact .idle exclusive
  | some ongoing => exact .busy exclusive (fun info looks => stays _ (apart.stopped ongoing rfl info looks))

theorem node {event : HostEvent} (exclusive : h.PortsExclusive) {ongoing : Option OngoingEvent}
    (checked : PortsChecked ⟨h, ongoing⟩ (.node (w, event))) (outside : event ≠ .process)
    (ran : h.step hw (w, event) = some k) : k.PortsExclusive := by
  cases event with
  | create wallet additional rentEnd role =>
    rcases Host.step_create ran with rfl | ⟨params, root, parsed, rfl⟩
    · exact exclusive
    · exact exclusive.create ((Host.parseCreateParams_ok parsed).1 ▸ checked)
  | request wallet request =>
    rw [← Host.step_request ran]
    by_cases modifies : ∃ doc, request.operation = .modify doc
    · obtain ⟨taskId, operation⟩ := request
      obtain ⟨doc, rfl⟩ := modifies
      exact exclusive.modify checked
    · refine exclusive.frame (Host.execute_confined hw w wallet request h)
        (fun _ => Host.notMem_requestParts rfl request) ?_
      intro other
      unfold Host.requestParts
      split
      · rename_i doc same
        exact (modifies ⟨doc, same⟩).elim
      all_goals simp
  | deleteImage additional =>
    rw [← Host.survives_some ran]
    exact exclusive.frame (Host.deleteImage_confined w additional h) (by simp) (by simp)
  | process => exact (outside rfl).elim
  | close taskId =>
    cases ran
    exact exclusive.closeTask taskId
  | destroy taskId =>
    cases ran
    exact exclusive.destroyTask taskId
  | uploaded taskId snapshotName =>
    rw [← Host.survives_some ran]
    exact exclusive.frame (Host.setSnapshotStatus_confined taskId snapshotName .none h) (by simp) (by simp)
  | domainChanges taskId state => exact exclusive.domainChanges ran
  | fileAppears path backing => exact exclusive.frame (Host.fileAppears_only ran) (by simp) (by simp)

theorem moves {event : ThreadEvent} (apart : PortsApart t) (checked : PortsChecked t event)
    (moves : Moves hw t event u) :
    PortsApart u := by
  have worked : ∀ {w : World} {ongoing : OngoingEvent}, PortsChecked t (.work w) → t.ongoing = some ongoing →
      (Host.processStage w ongoing.event ongoing.stage t.host).2.PortsExclusive := by
    intro w ongoing checked present
    exact apart.exclusive.processStage (apart.stopped ongoing present) (checked ongoing present)
  cases moves with
  | node outside ran =>
      exact apart.on (node apart.exclusive checked outside ran) (fun _ down => down.node outside ran)
  | takes free queue =>
    refine .busy (apart.exclusive.frame (Host.dequeue_only _) (by simp) (by simp)) (fun info looks => ?_)
    cases looks
  | waits present ran =>
    have after := worked checked present
    rw [ran] at after
    exact .busy after (fun info looks => (Host.processStage_next ran).2 info looks)
  | ends present ran =>
    have after := worked checked present
    rw [ran] at after
    exact .idle (after.frame (Host.updateRunningTasks_only _) (by simp) (by simp))
  | @retries w event info h present up stopped =>
    have only := Host.destroyDomain_only w event.taskId (h := t.host)
    rw [stopped] at only
    have ports : h.portsOf event.taskId = t.host.portsOf event.taskId := Host.portsOf_frame only (by simp)
    have within : Host.Within event.taskId {.state event.taskId} := by simp [Host.Within, Host.Part.owner]
    refine .busy (apart.exclusive.calm only within (fun _ => .of_destroyDomain stopped)
      (fun p same => ports ▸ same)) ?_
    intro info looks
    cases looks

end PortsApart

/-- Two tasks are created before the first of them has started. -/
def twoTasks (second : Json) : List ThreadEvent :=
  [ofNode (.calm (str "one")) (.fileAppears (str "/data/a.qcow2") []),
    ofNode (.calm (str "one")) (.create (str "wallet") (some (smallTask "20001" "5901" "0")) 100 .walletRenter),
    ofNode (.calm (str "two")) (.create (str "wallet") (some second) 100 .walletRenter)] ++
  workOff (.calm (str "one")) 2 ++ workOff (.calm (str "two")) 2

/-- Both tasks run. -/
def BothRun (h : Host) : Prop :=
  h.getDomainStatus (str "one") = .running ∧ h.getDomainStatus (str "two") = .running

instance (h : Host) : Decidable (BothRun h) := inferInstanceAs (Decidable (_ ∧ _))

/-- The two tasks run, and this port is passed on to both. -/
def SharePort (port : UInt16) (h : Host) : Prop := BothRun h ∧
  (h.portsOf (str "one")).any (fun p => (h.portsOf (str "two")).any (fun q => port ∈ p.hostPorts ∧
    port ∈ q.hostPorts))

instance (port : UInt16) (h : Host) : Decidable (SharePort port h) := inferInstanceAs (Decidable (_ ∧ _))

theorem SharePort.not_exclusive {port : UInt16} {h : Host} (share : SharePort port h) : ¬ h.PortsExclusive := by
  have up : ∀ taskId, h.getDomainStatus taskId = .running → ¬ Host.Down taskId h := by
    intro taskId running down
    obtain ⟨domain, found, state⟩ := Host.status_some running (by decide)
    exact absurd (state.symm.trans (down domain found)) (by decide)
  obtain ⟨⟨one, two⟩, both⟩ := share
  obtain ⟨p, first, other⟩ := (Option.any_eq_true _ _).mp both
  obtain ⟨q, second, held⟩ := (Option.any_eq_true _ _).mp other
  obtain ⟨byOne, byTwo⟩ := of_decide_eq_true held
  intro exclusive
  exact (exclusive (str "one") (str "two") p q (by decide) (up _ one) (up _ two) first second).1 port byOne byTwo

/-- The request for another port. -/
def newSshPort (taskId : Bytes) (port : String) : TaskRequest :=
  ⟨taskId, .modify (.object [(str "new_ssh_port", .string (str port))])⟩

/-- While the event thread sleeps between the halves of a forced reboot of
the first task, the second one is given its port. -/
theorem rebooted_task_one_port :
    ∃ trace t, Reaches (step .small) (idle Host.empty) trace t ∧ ¬ t.host.PortsExclusive := by
  have facts : (runAll (step .small) (idle Host.empty) (twoTasks (smallTask "20002" "5902" "0") ++
      ofNode (.calm (str "one")) (.request (str "wallet") ⟨str "one", .restart true⟩) :: workOff
        (.calm (str "one")) 1 ++
      [ofNode (.calm (str "two")) (.request (str "wallet") (newSshPort (str "two") "20001")),
        .work (.calm (str "one"))])).any (fun t => SharePort 20001 t.host) = true := by decide +kernel
  obtain ⟨t, ran, holds⟩ := (Option.any_eq_true _ _).mp facts
  exact ⟨_, t, Reaches.of_runAll _ .start ran, (of_decide_eq_true holds).not_exclusive⟩

end TaskThread

end DbcNode
