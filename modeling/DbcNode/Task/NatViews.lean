import DbcNode.Task.Down
import DbcNode.Task.NatInstalls

namespace DbcNode

/-- What a node has of a task as far as the `nat` table goes. -/
structure NatView where
  iptable : Option IptableInfo
  address : Option Bytes
  state : Option DomainState

namespace NatView
variable (v : NatView)

/-- The record of a task whose domain is running. -/
def installed : Option IptableInfo := if v.state.getD .nostate = .running then v.iptable else none

/-- The record of a task is the task's own and has its public ip, and there
is a domain for it. A domain runs or is shut off. -/
structure Fits (taskId : Bytes) : Prop where
  named : ∀ r, v.iptable = some r → r.taskId = taskId
  owned : ∀ r, v.iptable = some r → v.address = some r.publicIp
  defined : ∀ r, v.iptable = some r → v.state.isSome
  settled : ∀ state, v.state = some state → state = .running ∨ state = .shutoff

variable {v}

theorem installed_eq_some {r : IptableInfo} (found : v.installed = some r) : v.iptable = some r := by
  unfold installed at found
  split at found
  · exact found
  · cases found

theorem installed_running (runs : v.state = some .running) : v.installed = v.iptable := by
  rw [installed, runs]
  rfl

theorem installed_shutoff (stops : v.state = some .shutoff) : v.installed = none := by
  rw [installed, stops]
  rfl

theorem installed_none (missing : v.iptable = none) : v.installed = none := by
  rw [installed, missing, ite_self]

end NatView

namespace Host

def natViews (h : Host) (taskId : Bytes) : NatView :=
  ⟨h.taskIptables.find taskId, (h.taskInfos.find taskId).map (·.publicIp), (h.domains.find taskId).map (·.state)⟩

/-- No two tasks have one public ip. -/
structure NatRecords (views : Bytes → NatView) : Prop where
  fits : ∀ taskId, (views taskId).Fits taskId
  apart : ∀ taskId other ip, taskId ≠ other → ip ≠ [] → (views taskId).address = some ip →
    (views other).address ≠ some ip
  unnamed : (views []).address = none

namespace NatRecords
variable {views : Bytes → NatView} {taskId : Bytes} {v : NatView}

/-- Another view of one task. A public ip that is new to it is nobody
else's. -/
theorem update (records : NatRecords views) (fits : v.Fits taskId)
    (apart : ∀ other ip, other ≠ taskId → ip ≠ [] → v.address = some ip → (views other).address ≠ some ip)
    (unnamed : taskId = [] → v.address = none) : NatRecords (Function.update views taskId v) where
  fits other := by
    by_cases same : other = taskId
    · subst same
      rw [Function.update_self]
      exact fits
    · rw [Function.update_of_ne same]
      exact records.fits other
  apart := by
    intro one other ip different some
    by_cases first : one = taskId
    · subst first
      rw [Function.update_self, Function.update_of_ne different.symm]
      exact apart other ip different.symm some
    · rw [Function.update_of_ne first]
      by_cases second : other = taskId
      · subst second
        rw [Function.update_self]
        exact fun has same => apart one ip first some same has
      · rw [Function.update_of_ne second]
        exact records.apart one other ip different some
  unnamed := by
    by_cases same : ([] : Bytes) = taskId
    · rw [← same, Function.update_self]
      exact unnamed same.symm
    · rw [Function.update_of_ne same]
      exact records.unnamed

/-- A view with the same public ip, or none any more. -/
theorem update_same (records : NatRecords views) (fits : v.Fits taskId)
    (address : v.address = (views taskId).address ∨ v.address = none) :
    NatRecords (Function.update views taskId v) := by
  refine records.update fits (fun other ip different some has => ?_) (fun empty => ?_)
  · rcases address with same | none
    · exact records.apart taskId other ip different.symm some (same ▸ has)
    · rw [none] at has
      cases has
  · rcases address with same | none
    · rw [same, empty]
      exact records.unnamed
    · exact none

end NatRecords

theorem natViews_eq_of_only {parts : Set Part} {h k : Host} {taskId : Bytes} (only : Only parts h k)
    (iptable : .iptable taskId ∉ parts) (ports : .ports taskId ∉ parts) (state : .state taskId ∉ parts) :
    k.natViews taskId = h.natViews taskId := by
  have address := congrArg (Option.map Ports.publicIp) (only.ports ports)
  rw [Option.map_map, Option.map_map] at address
  unfold natViews
  rw [only.iptable iptable, only.state state]
  exact congrArg (fun address => NatView.mk _ address _) address

/-- What is about one task leaves the others as they are. -/
theorem natViews_within {parts : Set Part} {h k : Host} {taskId : Bytes} (only : Only parts h k)
    (within : Within taskId parts) :
    k.natViews = Function.update h.natViews taskId (k.natViews taskId) := by
  funext other
  by_cases same : other = taskId
  · rw [same, Function.update_self]
  · rw [Function.update_of_ne same]
    exact natViews_eq_of_only only (within.other rfl same) (within.other rfl same) (within.other rfl same)

theorem Only.address {parts : Set Part} {h k : Host} {taskId : Bytes} (only : Only parts h k)
    (ports : .ports taskId ∉ parts) : (k.natViews taskId).address = (h.natViews taskId).address := by
  have address := congrArg (Option.map Ports.publicIp) (only.ports ports)
  rwa [Option.map_map, Option.map_map] at address

theorem Only.nat {parts : Set Part} {h k : Host} (only : Only parts h k) (outside : Part.nat ∉ parts) :
    k.nat = h.nat :=
  only _ outside

/-- The calls for a task, for its record if it has one. -/
def natCalls (call : IptableInfo → NatCall) (iptable : Option IptableInfo) (calls : List NatCall) : List NatCall :=
  match iptable with
  | none => calls
  | some r => call r :: calls

theorem addIptableToSystem_nat (taskId : Bytes) (h : Host) :
    (h.addIptableToSystem taskId).nat = natCalls .added (h.taskIptables.find taskId) h.nat := by
  unfold addIptableToSystem natCalls
  cases h.taskIptables.find taskId with
  | none => rfl
  | some iptable => rfl

theorem removeIptableFromSystem_nat (taskId : Bytes) (h : Host) :
    (h.removeIptableFromSystem taskId).nat = natCalls .removed (h.taskIptables.find taskId) h.nat := by
  unfold removeIptableFromSystem natCalls
  cases h.taskIptables.find taskId with
  | none => rfl
  | some iptable => rfl

/-- The table is that of the records of the tasks that run, and the records
fit together. -/
structure NatKept (nic : Bytes) (h : Host) : Prop where
  exact : NatExact nic h
  records : NatRecords h.natViews

theorem installed_eq (h : Host) : h.installed = fun taskId => (h.natViews taskId).installed := rfl

namespace NatKept
variable {nic taskId : Bytes} {h k : Host} {v : NatView}

theorem empty : NatKept nic Host.empty where
  exact := Installs.empty
  records := ⟨fun _ => ⟨fun _ none => (by cases none), fun _ none => (by cases none), fun _ none => (by cases none),
    fun _ none => (by cases none)⟩, fun _ _ _ _ _ none => (by cases none), rfl⟩

theorem installed_update (views : k.natViews = Function.update h.natViews taskId v) :
    k.installed = Function.update h.installed taskId v.installed := by
  rw [installed_eq, installed_eq, views]
  funext other
  by_cases same : other = taskId
  · rw [same, Function.update_self, Function.update_self]
  · rw [Function.update_of_ne same, Function.update_of_ne same]

/-- A step that leaves the table as it is, and what should be in it. -/
theorem quiet (kept : NatKept nic h) (views : k.natViews = Function.update h.natViews taskId v)
    (records : NatRecords k.natViews) (nat : k.nat = h.nat)
    (installed : v.installed = (h.natViews taskId).installed) :
    NatKept nic k := by
  refine ⟨?_, records⟩
  have same : k.installed = h.installed := by
    rw [installed_update views, installed]
    exact Function.update_eq_self taskId h.installed
  have exact := kept.exact
  unfold NatExact at exact ⊢
  rw [nat, same]
  exact exact

/-- A task comes to run, or goes on running, and what it should have is
added. -/
theorem added (kept : NatKept nic h) (views : k.natViews = Function.update h.natViews taskId v)
    (records : NatRecords k.natViews) (nat : k.nat = natCalls .added v.iptable h.nat)
    (runs : v.state = some .running)
    (same : (h.natViews taskId).installed = none ∨ v.iptable = (h.natViews taskId).iptable) : NatKept nic k := by
  have own : k.natViews taskId = v := by rw [views, Function.update_self]
  cases found : v.iptable with
  | none =>
    refine kept.quiet views records (by rw [nat, found]; rfl) ?_
    rw [NatView.installed_none found]
    rcases same with none | same
    · exact none.symm
    · exact (NatView.installed_none (same.symm.trans found)).symm
  | some r =>
    refine ⟨?_, records⟩
    have named : r.taskId = taskId := (records.fits taskId).named r (own ▸ found)
    have calls : natTable nic k.nat = (natTable nic h.nat).run (r.shellAdd nic) := by
      rw [nat, found]
      rfl
    unfold NatExact
    rw [calls, installed_update views, NatView.installed_running runs, found, ← named]
    refine Installs.add kept.exact (fun old was => ?_)
    have was : (h.natViews taskId).installed = some old := named ▸ was
    rcases same with none | same
    · rw [none] at was
      cases was
    · have equal := (NatView.installed_eq_some was).symm.trans (same.symm.trans found)
      exact Or.inr (congrArg IptableInfo.publicIp (Option.some.inj equal))

/-- A task stops, or loses its record, and what it had is removed. -/
theorem removed (kept : NatKept nic h) (views : k.natViews = Function.update h.natViews taskId v)
    (records : NatRecords k.natViews) (nat : k.nat = natCalls .removed (h.natViews taskId).iptable h.nat)
    (stops : v.installed = none) : NatKept nic k := by
  cases found : (h.natViews taskId).iptable with
  | none =>
    refine kept.quiet views records (by rw [nat, found]; rfl) ?_
    rw [stops, NatView.installed_none found]
  | some r =>
    refine ⟨?_, records⟩
    have fits := kept.records.fits taskId
    have named : r.taskId = taskId := fits.named r found
    have calls : natTable nic k.nat = (natTable nic h.nat).run (r.shellRemove nic) := by
      rw [nat, found]
      rfl
    unfold NatExact
    rw [calls, installed_update views, stops, ← named]
    refine Installs.remove kept.exact (fun old was => ?_) (fun other one different was some same => ?_)
    · have was : (h.natViews taskId).installed = some old := named ▸ was
      have equal := (NatView.installed_eq_some was).symm.trans found
      exact Or.inr (congrArg IptableInfo.publicIp (Option.some.inj equal))
    · have owns := (kept.records.fits other).owned one (NatView.installed_eq_some was)
      rw [named] at different
      exact kept.records.apart taskId other r.publicIp different.symm some (fits.owned r found) (same ▸ owns)

end NatKept

end Host

end DbcNode
