import DbcNode.Lan.Records
import DbcNode.Lib.Runs

namespace DbcNode

/-- A record of a network as a CREATE or a LIST tells it. -/
structure LanRecord where
  network : NetworkData
  machineId : Bytes
  members : List Bytes
  now : Int
  deriving DecidableEq

/-- The records of a message. Only the owner tells of the members. -/
def LanMessage.records (now : Int) : LanMessage → List LanRecord
  | .networkCreate machineId network => [⟨network, machineId, [], now⟩]
  | .networkList machineId networks => networks.map (fun network => ⟨network.1, machineId, network.2, now⟩)
  | _ => []

namespace LanNode
variable {s t u : LanNode} {name : Bytes}

def hear (s : LanNode) (r : LanRecord) : LanNode :=
    s.addNetworkFromMulticast (r.network.info r.machineId r.members r.now)

/-- Whether `CreateNetworkClient` comes to `CreateVxlanDevice`. -/
def clientCreatesDevice (s : LanNode) (networkName : Bytes) : Bool :=
  (s.getNetwork networkName).any (fun info =>
    ¬ (info.nativeFlags.device ∨ s.isSameHost info.machineId) ∧
      ¬ (info.bridgeName = [] ∨ info.vxlanName = [] ∨ info.vxlanVni = []))

/-- Whether `MoveNetwork` comes to `CreateVxlanDevice`. -/
def moveCreatesDevice (s : LanNode) (networkName newMachineId : Bytes) : Bool :=
  (s.getNetwork networkName).any (fun info =>
    newMachineId = s.machineId ∧ ¬ s.isSameHost info.machineId ∧ ¬ info.nativeFlags.device)

/-- Whether `MoveNetworkAck` comes to `StopDhcpServer`. -/
def ackStopsDhcp (s : LanNode) (networkName newMachineId : Bytes) : Bool :=
  (s.getNetwork networkName).any (fun info =>
    newMachineId ≠ s.machineId ∧ ¬ s.isSameHost newMachineId ∧ info.nativeFlags.dhcpServer)

/-- Where it does not come to it, the answer of the command does not
matter. -/
theorem createNetworkClient_device {w : LanWorld} (quiet : s.clientCreatesDevice name = false)
    (answer : Bytes → Except Bytes Unit) :
    s.createNetworkClient w name = s.createNetworkClient { w with createVxlanDevice := answer } name := by
  unfold createNetworkClient
  unfold clientCreatesDevice at quiet
  cases found : s.getNetwork name with
  | none => rfl
  | some info =>
    rw [found] at quiet
    have stops := of_decide_eq_false quiet
    dsimp only
    by_cases has : info.nativeFlags.device ∨ s.isSameHost info.machineId
    · rw [if_pos has, if_pos has]
    · by_cases invalid : info.bridgeName = [] ∨ info.vxlanName = [] ∨ info.vxlanVni = []
      · rw [if_neg has, if_neg has, if_pos invalid, if_pos invalid]
      · exact (stops ⟨has, invalid⟩).elim

theorem moveNetwork_device {w : LanWorld} {newMachineId : Bytes}
    (quiet : s.moveCreatesDevice name newMachineId = false) (answer : Bytes → Except Bytes Unit) :
    s.moveNetwork w name newMachineId = s.moveNetwork { w with createVxlanDevice := answer } name newMachineId := by
  unfold moveNetwork
  unfold moveCreatesDevice at quiet
  cases found : s.getNetwork name with
  | none => rfl
  | some info =>
    rw [found] at quiet
    have stops := of_decide_eq_false quiet
    dsimp only
    by_cases mine : newMachineId ≠ s.machineId
    · rw [if_pos mine, if_pos mine]
    · have kept : ¬ (¬ s.isSameHost info.machineId ∧ ¬ info.nativeFlags.device) :=
        fun both => stops ⟨not_not.mp mine, both.1, both.2⟩
      unfold serveNetwork
      rw [if_neg kept, if_neg kept]

/-- No flag of an entry is cleared, no entry is touched that was not told
of, and what goes by the flags goes on as before. -/
structure Framed (s t : LanNode) (told : List Bytes) : Prop where
  flags : ∀ name old, s.networks.find name = some old → ∃ info, t.networks.find name = some info ∧
    (old.nativeFlags.device = true → info.nativeFlags.device = true) ∧
    (old.nativeFlags.dhcpServer = true → info.nativeFlags.dhcpServer = true)
  others : ∀ name, name ∉ told → t.networks.find name = s.networks.find name
  client : ∀ name old, s.networks.find name = some old → old.nativeFlags.device = true →
    t.clientCreatesDevice name = false
  move : ∀ name newMachineId old, s.networks.find name = some old → old.nativeFlags.device = true →
    t.moveCreatesDevice name newMachineId = false
  ack : ∀ name newMachineId, s.ackStopsDhcp name newMachineId = true → t.ackStopsDhcp name newMachineId = true

/-- The record is of the node itself, or it meets no entry that runs a DHCP
server, and one with a device only where it comes from the same host. -/
def Spared (s : LanNode) (r : LanRecord) : Prop :=
  r.machineId = s.machineId ∨ (s.networks.find r.network.networkName).all (fun old =>
    ¬ old.nativeFlags.dhcpServer ∧ (old.nativeFlags.device → s.isSameHost r.machineId)) = true

instance (s : LanNode) (r : LanRecord) : Decidable (s.Spared r) := by unfold Spared; infer_instance

/-- The same node, but for the timers of moves. -/
def SameBut (s t : LanNode) : Prop :=
  ∃ timers moveInvokers moveTimerId,
    t = { s with timers := timers, moveInvokers := moveInvokers, moveTimerId := moveTimerId }

theorem SameBut.hear (same : SameBut s t) (r : LanRecord) : SameBut (s.hear r) (t.hear r) := by
  obtain ⟨timers, invokers, ids, rfl⟩ := same
  unfold LanNode.hear
  rw [addNetworkFromMulticast_eq, addNetworkFromMulticast_eq]
  dsimp only
  split
  · exact ⟨timers, invokers, ids, rfl⟩
  · exact ⟨timers, invokers, ids, rfl⟩

theorem SameBut.removeMoveTimer (same : SameBut s t) (networkName : Bytes) :
    SameBut s (t.removeMoveTimer networkName) := by
  obtain ⟨timers, invokers, ids, rfl⟩ := same
  unfold LanNode.removeMoveTimer LanNode.removeTimer
  dsimp only
  split
  · exact ⟨timers, invokers, ids, rfl⟩
  · split
    · exact ⟨timers, invokers, _, rfl⟩
    · exact ⟨_, _, _, rfl⟩

theorem SameBut.list (same : SameBut s t) (now : Int) (machineId : Bytes)
    (networks : List (NetworkData × List Bytes)) :
    SameBut (((LanMessage.networkList machineId networks).records now).foldl LanNode.hear s)
      (networks.foldl (fun t network => t.onListed now machineId network) t) := by
  induction networks generalizing s t with
  | nil => exact same
  | cons network rest ih => exact ih ((same.hear ⟨network.1, machineId, network.2, now⟩).removeMoveTimer _)

/-- What a CREATE or a LIST does to the table is what its records do, one
after the other. -/
theorem receive_hears (w : LanWorld) (addr machineId : Bytes) (network : NetworkData) :
    (s.onMulticastReceive w addr (.networkCreate machineId network)).1.networks =
      (((LanMessage.networkCreate machineId network).records w.now).foldl hear s).networks := rfl

theorem receive_hears_list (w : LanWorld) (addr machineId : Bytes) (networks : List (NetworkData × List Bytes)) :
    (s.onMulticastReceive w addr (.networkList machineId networks)).1.networks =
      (((LanMessage.networkList machineId networks).records w.now).foldl hear s).networks := by
  obtain ⟨_, _, _, same⟩ := SameBut.list ⟨s.timers, s.moveInvokers, s.moveTimerId, rfl⟩ w.now machineId networks
  unfold onMulticastReceive
  dsimp only
  rw [same]

theorem hear_machineId (r : LanRecord) : (s.hear r).machineId = s.machineId := by
  unfold hear
  rw [addNetworkFromMulticast_eq]
  split <;> rfl

theorem hear_isSameHost (r : LanRecord) (machineId : Bytes) :
    (s.hear r).isSameHost machineId = s.isSameHost machineId := by
  unfold hear
  rw [addNetworkFromMulticast_eq]
  split <;> rfl

/-- The entry that a record leaves. -/
theorem find_hear (r : LanRecord) (name : Bytes) : (s.hear r).networks.find name =
    if r.machineId ≠ s.machineId ∧ name = r.network.networkName then
      some (s.told (r.network.info r.machineId r.members r.now)) else s.networks.find name :=
  find_addNetworkFromMulticast s _ name

theorem told_flags (r : LanRecord) : (s.told (r.network.info r.machineId r.members r.now)).nativeFlags =
    ⟨s.isSameHost r.machineId, false⟩ := by
  unfold told
  split
  · rename_i same
    have here : s.isSameHost r.machineId = true := same
    rw [here]
    rfl
  · rename_i apart
    have there : s.isSameHost r.machineId = false := (Bool.not_eq_true _).mp apart
    rw [there]
    rfl

/-- What is done by the flags follows from the flags. -/
theorem Framed.of_flags {told : List Bytes} (machine : t.machineId = s.machineId)
    (host : ∀ machineId, t.isSameHost machineId = s.isSameHost machineId)
    (flags : ∀ name old, s.networks.find name = some old → ∃ info, t.networks.find name = some info ∧
      (old.nativeFlags.device = true → info.nativeFlags.device = true) ∧
      (old.nativeFlags.dhcpServer = true → info.nativeFlags.dhcpServer = true))
    (others : ∀ name, name ∉ told → t.networks.find name = s.networks.find name) : Framed s t told := by
  have device {name : Bytes} {old info : NetworkInfo} (found : s.networks.find name = some old)
      (has : old.nativeFlags.device = true) (after : t.getNetwork name = some info) :
        info.nativeFlags.device = true := by
    obtain ⟨other, there, kept, -⟩ := flags name old found
    obtain ⟨-, here⟩ := getNetwork_eq_some.mp after
    cases there.symm.trans here
    exact kept has
  refine ⟨flags, others, fun name old found has => ?_, fun name newMachineId old found has => ?_,
    fun name newMachineId stops => ?_⟩
  · unfold clientCreatesDevice
    cases after : t.getNetwork name with
    | none => rfl
    | some info => simp [device found has after]
  · unfold moveCreatesDevice
    cases after : t.getNetwork name with
    | none => rfl
    | some info => simp [device found has after]
  · unfold ackStopsDhcp at stops
    obtain ⟨old, got, runs⟩ := (Option.any_eq_true _ _).mp stops
    obtain ⟨other, apart, serves⟩ := of_decide_eq_true runs
    obtain ⟨named, found⟩ := getNetwork_eq_some.mp got
    obtain ⟨info, there, -, kept⟩ := flags name old found
    refine (Option.any_eq_true _ _).mpr ⟨info, getNetwork_eq_some.mpr ⟨named, there⟩,
      decide_eq_true ⟨?_, ?_, kept serves⟩⟩
    · rwa [machine]
    · rwa [host]

theorem Framed.refl (s : LanNode) (told : List Bytes) : Framed s s told :=
  .of_flags rfl (fun _ => rfl) (fun _ old found => ⟨old, found, id, id⟩) (fun _ _ => rfl)

/-- One record keeps the flags just where it is spared to clear them. -/
theorem hear_framed_iff (r : LanRecord) : Framed s (s.hear r) [r.network.networkName] ↔ s.Spared r := by
  constructor
  · intro framed
    by_cases own : r.machineId = s.machineId
    · exact .inl own
    · refine .inr ((Option.all_eq_true _ _).mpr (fun old found => decide_eq_true ?_))
      obtain ⟨info, after, device, dhcp⟩ := framed.flags _ old found
      rw [find_hear, if_pos ⟨own, rfl⟩] at after
      cases after
      rw [told_flags] at device dhcp
      exact ⟨fun serves => Bool.false_ne_true (dhcp serves), device⟩
  · intro spared
    refine .of_flags (hear_machineId r) (hear_isSameHost r) (fun name old found => ?_) (fun name other => ?_)
    · rw [find_hear]
      by_cases here : r.machineId ≠ s.machineId ∧ name = r.network.networkName
      · obtain ⟨other, rfl⟩ := here
        rw [if_pos ⟨other, rfl⟩]
        have keeps := (Option.all_eq_true _ _).mp (spared.resolve_left other) old found
        obtain ⟨quiet, device⟩ := of_decide_eq_true keeps
        refine ⟨_, rfl, ?_, ?_⟩
        · rw [told_flags]
          exact device
        · exact fun serves => (quiet serves).elim
      · rw [if_neg here]
        exact ⟨old, found, id, id⟩
    · rw [find_hear, if_neg (fun both => other (List.mem_singleton.mpr both.2))]

/-- The names that the records told of. -/
def toldOf (trace : List LanRecord) : List Bytes := trace.map (·.network.networkName)

/-- While every record is spared to clear them, the flags of every entry
stay, and from there on a record keeps them just where it is. A record is
what a message tells of one network. -/
theorem flags_kept_while_spared {trace : List LanRecord} (run : Run (fun s r => some (s.hear r)) Spared s trace t) :
    Framed s t (toldOf trace) ∧ ∀ r, Framed t (t.hear r) [r.network.networkName] ↔ t.Spared r := by
  have kept : (t.machineId = s.machineId ∧ ∀ machineId, t.isSameHost machineId = s.isSameHost machineId) ∧
      Framed s t (toldOf trace) := by
    refine run.history (P := fun trace t => (t.machineId = s.machineId ∧
      ∀ machineId, t.isSameHost machineId = s.isSameHost machineId) ∧ Framed s t (toldOf trace))
      ⟨⟨rfl, fun _ => rfl⟩, .refl s _⟩ ?_
    rintro trace t u r ⟨⟨machine, host⟩, framed⟩ spared ran
    cases ran
    have step := (hear_framed_iff r).mpr spared
    have machine' := (hear_machineId r).trans machine
    have host' (machineId : Bytes) := (hear_isSameHost r machineId).trans (host machineId)
    refine ⟨⟨machine', host'⟩, .of_flags machine' host' (fun name old found => ?_) (fun name other => ?_)⟩
    · obtain ⟨middle, there, device, dhcp⟩ := framed.flags name old found
      obtain ⟨info, after, device', dhcp'⟩ := step.flags name middle there
      exact ⟨info, after, fun has => device' (device has), fun has => dhcp' (dhcp has)⟩
    · obtain ⟨differs, before⟩ := not_or.mp (fun told => other (List.mem_cons.mpr told))
      exact (step.others name (fun told => differs (List.mem_singleton.mp told))).trans (framed.others name before)
  exact ⟨kept.2, fun r => hear_framed_iff r⟩

section Example

def toldNetwork : NetworkData :=
  ⟨str "abcdef", str "brabcdef", str "vxabcdef", str "5", str "10.0.0.0/24", str "10.0.0.1", str "10.0.0.254",
    str "tap0", str "w", 7⟩

/-- A node has heard of a network and made the device for it. -/
def networkClient (localAddress : Bytes) : LanNode :=
  let heard := ((LanNode.fresh (str "b")).addLanNode (str "a") (str "mainnet") 1 localAddress 21107 0 6).hear
    ⟨toldNetwork, str "a", [], 7⟩
  (heard.createNetworkClient (.fine 8 []) (str "abcdef")).toOption.getD heard

/-- Nodes on one host: the list of the owner leaves the entry its device. -/
theorem flags_kept_on_host : ∃ t info, Framed (networkClient (str "b")) t [str "abcdef"] ∧
    t.networks.find (str "abcdef") = some info ∧ info.nativeFlags.device = true ∧ info.members = [str "t"] := by
  have ran : (runAll (guarded (fun s r => some (s.hear r)) (fun s r => decide (s.Spared r)))
    (networkClient (str "b"))
      [⟨toldNetwork, str "a", [str "t"], 9⟩]).any (fun t => (t.networks.find (str "abcdef")).any
        (fun info => info.nativeFlags.device ∧ info.members = [str "t"])) = true := by decide +kernel
  obtain ⟨t, reached, left⟩ := (Option.any_eq_true _ _).mp ran
  obtain ⟨info, found, both⟩ := (Option.any_eq_true _ _).mp left
  obtain ⟨device, members⟩ := of_decide_eq_true both
  have run : Run (fun s r => some (hear s r)) Spared (networkClient (str "b")) _ t :=
    Run.of_guarded (fun _ _ test => of_decide_eq_true test) _ .start reached
  exact ⟨t, info, (flags_kept_while_spared run).1, found, device, members⟩

/-- The node has made the device, and the list of the owner clears that it
has. -/
theorem device_forgotten : ¬ ∀ (s t : LanNode) (trace : List LanRecord),
    Reaches (fun s r => some (s.hear r)) s trace t → Framed s t (toldOf trace) := by
  intro framed
  have before : ((networkClient (str "c")).networks.find (str "abcdef")).any (fun old => old.nativeFlags.device) =
    true := by
    decide +kernel
  have after : (((networkClient (str "c")).hear ⟨toldNetwork, str "a", [str "t"], 9⟩).networks.find
    (str "abcdef")).all
      (fun info => !info.nativeFlags.device) = true := by decide +kernel
  obtain ⟨old, found, has⟩ := (Option.any_eq_true _ _).mp before
  obtain ⟨info, there, device, -⟩ := (framed _ _ _ (.next .start trivial rfl)).flags _ old found
  have lost := (Option.all_eq_true _ _).mp after info there
  rw [device has] at lost
  cases lost

end Example

end LanNode

end DbcNode
