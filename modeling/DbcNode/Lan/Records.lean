import DbcNode.Lan.Node
import DbcNode.Lib.Prog

namespace DbcNode

/-- A record as the node that takes the network over keeps it. -/
def NetworkInfo.taken (info : NetworkInfo) (machineId : Bytes) : NetworkInfo :=
  { info with nativeFlags := ⟨true, true⟩, machineId := machineId }

namespace LanNode
variable {s next : LanNode} {w : LanWorld} {name other : Bytes} {sent : List LanMessage}

@[simp] theorem put_machineId (s : LanNode) (name : Bytes) (info : NetworkInfo) :
    (s.put name info).machineId = s.machineId := rfl

@[simp] theorem drop_machineId (s : LanNode) (name : Bytes) : (s.drop name).machineId = s.machineId := rfl

@[simp] theorem find_put (s : LanNode) (name other : Bytes) (info : NetworkInfo) :
    (s.put name info).networks.find other = if other = name then some info else s.networks.find other :=
  OrdMap.find_insert _ _ _ _

@[simp] theorem find_drop (s : LanNode) (name other : Bytes) :
    (s.drop name).networks.find other = if other = name then none else s.networks.find other :=
  OrdMap.find_erase _ _ _

/-- Nothing but the table of the networks has changed, and what is left to
clear of it. -/
def Edits (s next : LanNode) : Prop :=
  ∃ networks clearing, next = { s with networks := networks, clearing := clearing }

theorem Edits.refl (s : LanNode) : s.Edits s := ⟨s.networks, s.clearing, rfl⟩

theorem Edits.trans {last : LanNode} (first : s.Edits next) (second : next.Edits last) : s.Edits last := by
  obtain ⟨_, _, rfl⟩ := first
  obtain ⟨networks, clearing, rfl⟩ := second
  exact ⟨networks, clearing, rfl⟩

theorem Edits.put (s : LanNode) (name : Bytes) (info : NetworkInfo) : s.Edits (s.put name info) := ⟨_, _, rfl⟩

theorem Edits.drop (s : LanNode) (name : Bytes) : s.Edits (s.drop name) := ⟨_, _, rfl⟩

theorem Edits.clearing (s : LanNode) (clearing : Clearing) : s.Edits { s with clearing := clearing } := ⟨_, _, rfl⟩

theorem Edits.machineId (edits : s.Edits next) : next.machineId = s.machineId := by
  obtain ⟨_, _, rfl⟩ := edits
  rfl

theorem Edits.timers (edits : s.Edits next) : next.timers = s.timers := by
  obtain ⟨_, _, rfl⟩ := edits
  rfl

/-- A change to the record of one network, where there is one. -/
theorem Edits.one (f : NetworkInfo → LanNode) (name : Bytes) (edits : ∀ info, s.Edits (f info)) :
    s.Edits (match s.getNetwork name with | none => s | some info => f info) := by
  split
  · exact .refl s
  · exact edits _

theorem getNetwork_eq_some {info : NetworkInfo} :
    s.getNetwork name = some info ↔ name ≠ [] ∧ s.networks.find name = some info := by
  unfold getNetwork
  split
  · rename_i empty
    simp [empty]
  · rename_i named
    simp [named]

/-- The record that is kept of a network that a message tells of. -/
def told (s : LanNode) (info : NetworkInfo) : NetworkInfo :=
  if s.isSameHost info.machineId then { info with nativeFlags :=
    { info.nativeFlags with device := true } } else info

theorem told_machineId (s : LanNode) (info : NetworkInfo) : (s.told info).machineId = info.machineId := by
  unfold told
  split <;> rfl

theorem told_networkId (s : LanNode) (info : NetworkInfo) : (s.told info).networkId = info.networkId := by
  unfold told
  split <;> rfl

theorem told_dhcpServer (s : LanNode) (info : NetworkInfo) :
    (s.told info).nativeFlags.dhcpServer = info.nativeFlags.dhcpServer := by
  unfold told
  split <;> rfl

/-- What is done with the record of another node. -/
def keep (s : LanNode) (info : NetworkInfo) : LanNode :=
  match s.getNetwork info.networkId with
  | some old =>
    if { info with lastUpdateTime := old.lastUpdateTime } = old then
      s.put info.networkId { old with lastUpdateTime := info.lastUpdateTime }
    else s.put info.networkId info
  | none => s.put info.networkId info

/-- Whether the record tells something new or not, it is what is kept
afterwards. -/
theorem keep_eq (s : LanNode) (info : NetworkInfo) : s.keep info = s.put info.networkId info := by
  unfold keep
  split
  · rename_i old found
    split
    · rename_i same
      rw [← same]
    · rfl
  · rfl

theorem addNetworkFromMulticast_eq (s : LanNode) (info : NetworkInfo) :
    s.addNetworkFromMulticast info =
      if info.machineId = s.machineId then s else s.put info.networkId (s.told info) := by
  unfold addNetworkFromMulticast
  split
  · rfl
  · change s.keep (s.told info) = _
    rw [keep_eq, told_networkId]

theorem find_addNetworkFromMulticast (s : LanNode) (info : NetworkInfo) (other : Bytes) :
    (s.addNetworkFromMulticast info).networks.find other =
      if info.machineId ≠ s.machineId ∧
        other = info.networkId then some (s.told info) else s.networks.find other := by
  rw [addNetworkFromMulticast_eq]
  by_cases own : info.machineId = s.machineId
  · simp [own]
  · simp [own]

theorem Edits.addNetworkFromMulticast (s : LanNode) (info : NetworkInfo) :
    s.Edits (s.addNetworkFromMulticast info) := by
  rw [addNetworkFromMulticast_eq]
  split
  · exact .refl s
  · exact .put _ _ _

/-- What a network is like that a node has made. -/
structure Made (s : LanNode) (name ipCidr wallet : Bytes) (info : NetworkInfo) : Prop where
  networkId : info.networkId = name
  ipCidr : info.ipCidr = ipCidr
  machineId : info.machineId = s.machineId
  rentWallet : info.rentWallet = wallet
  members : info.members = []
  nativeFlags : info.nativeFlags = ⟨true, true⟩

theorem createNetworkServer_ok {ipCidr wallet : Bytes}
    (made : s.createNetworkServer w name ipCidr wallet = .ok (next, sent)) :
    name ≠ [] ∧ s.networks.find name = none ∧ ipCidr ≠ [] ∧ ∃ info, s.Made name ipCidr wallet info ∧
      next = s.put name info ∧ sent = [.networkCreate s.machineId info.data] := by
  unfold createNetworkServer at made
  split at made
  · cases made
  · rename_i named
    split at made
    · cases made
    · split at made
      · cases made
      · rename_i free
        split at made
        · cases made
        · split at made
          · cases made
          · rename_i ranged
            split at made
            · cases made
            · have unknown : s.networks.find name = none := by
                simpa [getNetwork, named] using free
              obtain ⟨range, _, made⟩ := except_bind_ok.mp made
              obtain ⟨_, _, made⟩ := except_bind_ok.mp made
              obtain ⟨_, _, made⟩ := except_bind_ok.mp made
              dsimp only at made
              split at made
              · cases made
                exact ⟨named, unknown, ranged, _, ⟨rfl, rfl, rfl, rfl, rfl, rfl⟩, rfl, rfl⟩
              · cases made

theorem createNetworkClient_ok (made : s.createNetworkClient w name = .ok next) :
    next = s ∨ ∃ info, s.networks.find name = some info ∧
      next = s.put name { info with nativeFlags := { info.nativeFlags with device := true } } := by
  unfold createNetworkClient at made
  split at made
  · cases made
  · rename_i info found
    split at made
    · cases made
      exact Or.inl rfl
    · split at made
      · cases made
      · obtain ⟨_, _, made⟩ := except_bind_ok.mp made
        dsimp only at made
        split at made
        · cases made
          exact Or.inr ⟨info, (getNetwork_eq_some.mp found).2, rfl⟩
        · cases made

theorem deleteNetwork_ok {wallet : Bytes} (deleted : s.deleteNetwork name wallet = .ok (next, sent)) :
    ∃ info, s.networks.find name = some info ∧ info.members = [] ∧ next = s.drop name ∧
      sent = [.networkDelete s.machineId name] := by
  unfold deleteNetwork at deleted
  split at deleted
  · cases deleted
  · rename_i info found
    split at deleted
    · cases deleted
    · split at deleted
      · cases deleted
      · rename_i unused
        cases deleted
        exact ⟨info, found, not_not.mp unused, rfl, rfl⟩

theorem moveNetwork_ok {newMachineId : Bytes} (moved : s.moveNetwork w name newMachineId = .ok (next, sent)) :
    newMachineId = s.machineId ∧ name ≠ [] ∧ ∃ info, s.networks.find name = some info ∧
      next = s.put name (info.taken s.machineId) ∧ sent = s.sendNetworkMoveAckRequest name s.machineId := by
  unfold moveNetwork at moved
  split at moved
  · cases moved
  · rename_i info found
    obtain ⟨named, found⟩ := getNetwork_eq_some.mp found
    split at moved
    · cases moved
    · rename_i own
      have own := not_not.mp own
      subst own
      obtain ⟨_, _, moved⟩ := except_bind_ok.mp moved
      cases moved
      exact ⟨rfl, named, info, found, rfl, rfl⟩

/-- Whether the node can take the network over depends on nothing but its
record. -/
theorem moveNetwork_isOk_congr (host : next.isSameHost = s.isSameHost)
    (same : next.networks.find name = s.networks.find name) :
    (next.moveNetwork w name next.machineId).isOk = (s.moveNetwork w name s.machineId).isOk := by
  have got : next.getNetwork name = s.getNetwork name := by
    unfold getNetwork
    rw [same]
  unfold moveNetwork
  rw [got]
  cases s.getNetwork name with
  | none => rfl
  | some info =>
    have served : next.serveNetwork w name info = s.serveNetwork w name info := by
      unfold serveNetwork
      rw [host]
    dsimp only
    rw [if_neg (not_not.mpr rfl), if_neg (not_not.mpr rfl), served]
    cases s.serveNetwork w name info <;> rfl

theorem Edits.isSameHost (edits : s.Edits next) : next.isSameHost = s.isSameHost := by
  obtain ⟨_, _, rfl⟩ := edits
  rfl

/-- A network changes hands to the node: it is taken over, or all stays as
it is. -/
theorem takeOver_cases (s : LanNode) (w : LanWorld) (name : Bytes) :
    (∃ next info, (s.moveNetwork w name s.machineId).isOk ∧ name ≠ [] ∧ s.networks.find name = some info ∧
      next = s.put name (info.taken s.machineId) ∧ s.takeOver w name =
        (next, s.sendNetworkMoveAckRequest name s.machineId ++ next.sendNetworkListRequest)) ∨
      (s.moveNetwork w name s.machineId).isOk = false ∧ s.takeOver w name = (s, []) := by
  unfold takeOver
  cases moved : s.moveNetwork w name s.machineId with
  | error text => exact Or.inr ⟨rfl, rfl⟩
  | ok done =>
    obtain ⟨next, sent⟩ := done
    obtain ⟨_, named, info, found, rfl, rfl⟩ := moveNetwork_ok moved
    exact Or.inl ⟨_, info, rfl, named, found, rfl, rfl⟩

@[simp] theorem removeTimer_networks (s : LanNode) (timerId : Nat) :
    (s.removeTimer timerId).networks = s.networks := by
  unfold removeTimer
  split <;> rfl

@[simp] theorem removeTimer_machineId (s : LanNode) (timerId : Nat) :
    (s.removeTimer timerId).machineId = s.machineId := by
  unfold removeTimer
  split <;> rfl

/-- A record as the node keeps it when it gives the network up, if it
does. -/
theorem find_exit (s : LanNode) (name : Bytes) :
    s.exit.1.networks.find name = (s.networks.find name).map s.left := by
  rw [exit, OrdMap.find_filterMap]
  cases s.networks.find name <;> rfl

@[simp] theorem removeMoveTimer_networks (s : LanNode) (name : Bytes) :
    (s.removeMoveTimer name).networks = s.networks := by
  unfold removeMoveTimer
  split
  · rfl
  · exact removeTimer_networks s _

@[simp] theorem removeMoveTimer_machineId (s : LanNode) (name : Bytes) :
    (s.removeMoveTimer name).machineId = s.machineId := by
  unfold removeMoveTimer
  split
  · rfl
  · exact removeTimer_machineId s _

theorem find_onListed (s : LanNode) (now : Int) (machineId : Bytes) (network : NetworkData × List Bytes)
    (other : Bytes) : (s.onListed now machineId network).networks.find other =
      if machineId ≠ s.machineId ∧ other = network.1.networkName then
        some (s.told (network.1.info machineId network.2 now))
      else s.networks.find other := by
  rw [onListed, removeMoveTimer_networks, find_addNetworkFromMulticast]
  rfl

@[simp] theorem onListed_machineId (s : LanNode) (now : Int) (machineId : Bytes)
    (network : NetworkData × List Bytes) : (s.onListed now machineId network).machineId = s.machineId := by
  rw [onListed, removeMoveTimer_machineId, (Edits.addNetworkFromMulticast s _).machineId]

/-- The candidates of a queue only start timers. -/
theorem onCandidates_networks (networkName : Bytes) (queue : List (Bytes × Nat)) (s : LanNode) :
    (queue.foldl (onCandidate networkName) s).networks = s.networks ∧
      (queue.foldl (onCandidate networkName) s).machineId = s.machineId := by
  induction queue generalizing s with
  | nil => exact ⟨rfl, rfl⟩
  | cons candidate queue ih =>
    have same : (onCandidate networkName s candidate).networks = s.networks ∧
        (onCandidate networkName s candidate).machineId = s.machineId := by
      unfold onCandidate addMoveTimer
      split
      · split <;> exact ⟨rfl, rfl⟩
      · exact ⟨rfl, rfl⟩
    obtain ⟨networks, machineId⟩ := ih (onCandidate networkName s candidate)
    exact ⟨networks.trans same.1, machineId.trans same.2⟩

end LanNode

end DbcNode
