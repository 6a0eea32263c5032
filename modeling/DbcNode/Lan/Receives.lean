import DbcNode.Lan.Sends
import DbcNode.Lib.Runs

namespace DbcNode

/-- What a message can do to the record of a network. -/
inductive ReceiveStep (s : LanNode) (name : Bytes) : LanMessage → Option NetworkInfo → Prop
  | same (message : LanMessage) : ReceiveStep s name message (s.networks.find name)
  | told {message : LanMessage} {machineId : Bytes} {network : NetworkData × List Bytes} {now : Int}
      (tells : message = .networkCreate machineId network.1 ∨
        ∃ networks, message = .networkList machineId networks ∧ network ∈ networks)
      (other : machineId ≠ s.machineId) (named : network.1.networkName = name) :
      ReceiveStep s name message (some (s.told (network.1.info machineId network.2 now)))
  | dropped (machineId : Bytes) : ReceiveStep s name (.networkDelete machineId name) none
  | acked {machineId newMachineId : Bytes} {info : NetworkInfo} (found : s.networks.find name = some info)
      (other : newMachineId ≠ s.machineId) : ReceiveStep s name (.networkMoveAck machineId name newMachineId)
        (some { info with machineId := newMachineId, nativeFlags := { info.nativeFlags with dhcpServer := false } })
  | moved {machineId : Bytes} {queue : List Bytes} {info : NetworkInfo} (found : s.networks.find name = some info) :
      ReceiveStep s name (.networkMove machineId name s.machineId queue) (some (info.taken s.machineId))
  | used {message : LanMessage} {info : NetworkInfo} {members : List Bytes} {now : Int}
      (found : s.networks.find name = some info) :
      ReceiveStep s name message (some { info with members := members, lastUseTime := now })

namespace LanNode
variable {s : LanNode} {w : LanWorld} {addr name : Bytes} {message answer : LanMessage}

theorem mem_of_lastNamed {networks : List (NetworkData × List Bytes)} {network : NetworkData × List Bytes}
    (last : lastNamed networks name = some network) : network ∈ networks ∧ network.1.networkName = name := by
  obtain ⟨member, named⟩ := List.mem_filter.mp (List.mem_of_getLast? last)
  exact ⟨member, of_decide_eq_true named⟩

theorem retold_cases (s : LanNode) (now : Int) (machineId : Bytes) (networks : List (NetworkData × List Bytes))
    (name : Bytes) : s.retold now machineId networks name = s.networks.find name ∨
      machineId ≠ s.machineId ∧ ∃ network ∈ networks, network.1.networkName = name ∧
        s.retold now machineId networks name = some (s.told (network.1.info machineId network.2 now)) := by
  unfold retold
  split
  · exact Or.inl rfl
  · rename_i other
    cases last : lastNamed networks name with
    | none => exact Or.inl rfl
    | some network =>
      obtain ⟨member, named⟩ := mem_of_lastNamed last
      exact Or.inr ⟨other, network, member, named, rfl⟩

theorem receive_record (s : LanNode) (w : LanWorld) (addr : Bytes) (message : LanMessage) (name : Bytes) :
    ReceiveStep s name message ((s.onMulticastReceive w addr message).1.networks.find name) := by
  cases message with
  | machineInfo =>
    simp only [onMulticastReceive, addLanNode]
    split <;> exact .same _
  | machineExit =>
    simp only [onMulticastReceive, deleteLanNode]
    split <;> exact .same _
  | networkQuery =>
    rw [onMulticastReceive]
    split <;> exact .same _
  | networkCreate machineId network =>
    rw [find_receive_create]
    rcases retold_cases s w.now machineId [(network, [])] name with kept | ⟨other, heard, member, named, after⟩
    · rw [kept]
      exact .same _
    · cases List.mem_singleton.mp member
      rw [after]
      exact .told (Or.inl rfl) other named
  | networkList machineId networks =>
    rw [find_receive_list]
    rcases retold_cases s w.now machineId networks name with kept | ⟨other, heard, member, named, after⟩
    · rw [kept]
      exact .same _
    · rw [after]
      exact .told (Or.inr ⟨networks, rfl, member⟩) other named
  | networkDelete machineId networkName =>
    rw [onMulticastReceive, deleteNetworkFromMulticast, find_drop]
    split
    · rename_i same
      subst same
      exact .dropped machineId
    · exact .same _
  | networkMove machineId networkName newMachineId queue =>
    rcases find_receive_move s w addr machineId networkName newMachineId queue name with
      kept | ⟨rfl, rfl, info, found, taken⟩
    · rw [kept]
      exact .same _
    · rw [taken]
      exact .moved found
  | networkMoveAck machineId networkName newMachineId =>
    rw [onMulticastReceive, removeMoveTimer_networks, find_moveNetworkAck]
    split
    · rename_i applies
      obtain ⟨rfl, _, other⟩ := applies
      cases found : s.networks.find name with
      | none =>
        rw [Option.map_none, ← found]
        exact .same _
      | some info => exact .acked found other
    · exact .same _
  | networkJoin machineId networkName taskId =>
    rw [onMulticastReceive, find_joinNetwork]
    split
    · rename_i applies
      obtain ⟨rfl, _⟩ := applies
      cases found : s.networks.find name with
      | none =>
        rw [Option.map_none, ← found]
        exact .same _
      | some info => exact .used found
    · exact .same _
  | networkLeave machineId networkName taskId =>
    rw [onMulticastReceive, find_leaveNetwork]
    split
    · rename_i applies
      obtain ⟨rfl, _⟩ := applies
      cases found : s.networks.find name with
      | none =>
        rw [Option.map_none, ← found]
        exact .same _
      | some info => exact .used found
    · exact .same _

/-- A message is answered with the list of the own networks; a
`network move` of an earlier version is answered by the node that it
names. -/
theorem receive_sends (sent : answer ∈ (s.onMulticastReceive w addr message).2) :
    answer ∈ s.sendNetworkListRequest ∨
      ∃ machineId networkName queue, message = .networkMove machineId networkName s.machineId queue ∧
        (answer = .networkMoveAck s.machineId networkName s.machineId ∨
          ∃ oldMachineId, answer ∈ s.sendNetworkMoveRequest networkName oldMachineId) := by
  cases message with
  | networkQuery =>
    rw [onMulticastReceive] at sent
    split at sent
    · exact Or.inl sent
    · cases sent
  | networkMove machineId networkName newMachineId queue =>
    change answer ∈ (s.onMoveTo w machineId networkName newMachineId).2 at sent
    unfold onMoveTo at sent
    split at sent
    · rename_i own
      subst own
      refine Or.inr ⟨machineId, networkName, queue, rfl, ?_⟩
      split at sent
      · rename_i done moved
        obtain ⟨next, messages⟩ := done
        obtain ⟨_, _, info, found, rfl, rfl⟩ := moveNetwork_ok moved
        exact Or.inl (mem_sendNetworkMoveAckRequest sent)
      · exact Or.inr ⟨machineId, sent⟩
    · cases sent
  | machineInfo | machineExit | networkCreate | networkDelete | networkList | networkMoveAck | networkJoin
    | networkLeave =>
    cases sent

theorem listEach_machineId (now : Int) (machineId : Bytes) (networks : List (NetworkData × List Bytes))
    (s : LanNode) : (networks.foldl (fun s network => s.onListed now machineId network) s).machineId =
      s.machineId := by
  induction networks generalizing s with
  | nil => rfl
  | cons network networks ih =>
    rw [List.foldl_cons, ih, onListed_machineId]

theorem Edits.clearNext (s : LanNode) (now : Int) : s.Edits (s.clearNext now).1 := by
  unfold LanNode.clearNext
  split
  · exact .refl s
  · exact .clearing s _
  · rename_i network rest _
    rcases toOption_getD (s.deleteNetwork network.1 network.2) (s, []) with refused | ⟨⟨next, _⟩, deleted, ran⟩
    · dsimp only
      rw [refused]
      exact .clearing s _
    · obtain ⟨_, _, _, rfl, _⟩ := deleteNetwork_ok deleted
      dsimp only
      rw [ran]
      exact (Edits.drop s _).trans (.clearing _ _)
  · exact .clearing s _
  · exact (Edits.drop s _).trans (.clearing _ _)

/-- Most calls change nothing but the table of the networks. -/
theorem Edits.call {c : LanCall} (machine : c ≠ .machineTimer) (move : ∀ timer, c ≠ .moveTimer timer)
    (ends : ∀ timerId, c ≠ .endTimer timerId) : s.Edits (s.call w c).1 := by
  cases c with
  | createNetworkServer networkName ipCidr wallet =>
    rcases toOption_getD (s.createNetworkServer w networkName ipCidr wallet) (s, []) with
      refused | ⟨⟨next, _⟩, made, ran⟩
    · rw [LanNode.call, refused]
      exact .refl s
    · obtain ⟨_, _, _, _, _, rfl, _⟩ := createNetworkServer_ok made
      rw [LanNode.call, ran]
      exact .put _ _ _
  | createNetworkClient networkName =>
    rcases toOption_getD (s.createNetworkClient w networkName) s with refused | ⟨next, made, ran⟩
    · rw [LanNode.call, refused]
      exact .refl s
    · rw [LanNode.call, ran]
      rcases createNetworkClient_ok made with same | ⟨_, _, rfl⟩
      · rw [same]
        exact .refl s
      · exact .put _ _ _
  | deleteNetwork networkName wallet =>
    rcases toOption_getD (s.deleteNetwork networkName wallet) (s, []) with refused | ⟨⟨next, _⟩, deleted, ran⟩
    · rw [LanNode.call, refused]
      exact .refl s
    · obtain ⟨_, _, _, rfl, _⟩ := deleteNetwork_ok deleted
      rw [LanNode.call, ran]
      exact .drop _ _
  | joinRequest | leaveRequest | init | machineExit => exact .refl s
  | exit => exact ⟨_, _, rfl⟩
  | machineTimer => exact absurd rfl machine
  | networkTimer =>
    rw [LanNode.call, onMulticastNetworkTaskTimer]
    split
    · exact .clearing s _
    · exact .refl s
  | clearNext => exact .clearNext s w.now
  | moveTimer timer => exact absurd rfl (move timer)
  | endTimer timerId => exact absurd rfl (ends timerId)
  | resumeTimer => exact (TakesOver.resume s w).edits

theorem call_machineId (s : LanNode) (w : LanWorld) (c : LanCall) : (s.call w c).1.machineId = s.machineId := by
  by_cases move : ∃ timer, c = .moveTimer timer
  · obtain ⟨timer, rfl⟩ := move
    rw [call]
    split
    · rw [onTimerTick]
      dsimp only
      split
      · exact (TakesOver.takeOver s w timer.name).machineId
      · rfl
    · rfl
  by_cases ends : ∃ timerId, c = .endTimer timerId
  · obtain ⟨timerId, rfl⟩ := ends
    rw [call]
    split
    · exact removeTimer_machineId s timerId
    · rfl
  by_cases machine : c = .machineTimer
  · rw [machine]
    rfl
  · exact (Edits.call machine (fun timer same => move ⟨timer, same⟩)
      (fun timerId same => ends ⟨timerId, same⟩)).machineId

theorem onMoveTo_edits (s : LanNode) (w : LanWorld) (machineId networkName newMachineId : Bytes) :
    s.Edits (s.onMoveTo w machineId networkName newMachineId).1 := by
  unfold onMoveTo
  split
  · split
    · rename_i done moved
      obtain ⟨next, sent⟩ := done
      obtain ⟨_, _, _, _, rfl, _⟩ := moveNetwork_ok moved
      exact .put _ _ _
    · exact .refl s
  · exact .refl s

theorem moveNetworkAck_edits (s : LanNode) (networkName newMachineId : Bytes) :
    s.Edits (s.moveNetworkAck networkName newMachineId) := by
  refine Edits.one _ networkName fun info => ?_
  split
  · exact .refl s
  · exact .put _ _ _

theorem receive_machineId (s : LanNode) (w : LanWorld) (addr : Bytes) (message : LanMessage) :
    (s.onMulticastReceive w addr message).1.machineId = s.machineId := by
  cases message with
  | machineInfo =>
    simp only [onMulticastReceive, addLanNode]
    split <;> rfl
  | machineExit =>
    simp only [onMulticastReceive, deleteLanNode]
    split <;> rfl
  | networkQuery =>
    rw [onMulticastReceive]
    split <;> rfl
  | networkCreate machineId network => exact (Edits.addNetworkFromMulticast _ _).machineId
  | networkDelete => rfl
  | networkList machineId networks => exact listEach_machineId w.now machineId networks s
  | networkMove machineId networkName newMachineId queue =>
    exact (onCandidates_networks networkName _ _).2.trans
      (onMoveTo_edits s w machineId networkName newMachineId).machineId
  | networkMoveAck machineId networkName newMachineId =>
    rw [onMulticastReceive, removeMoveTimer_machineId, (moveNetworkAck_edits s networkName newMachineId).machineId]
  | networkJoin => exact (Edits.one _ _ fun _ => .put _ _ _).machineId
  | networkLeave => exact (Edits.one _ _ fun _ => .put _ _ _).machineId

end LanNode

/-- The nodes of a multicast group by their ids, all messages that were
sent, and which node has handled which of them. -/
structure LanGroup where
  ids : List Bytes
  nodes : Bytes → LanNode
  sent : List LanMessage
  handled : List (Bytes × Nat)

/-- A node acts by itself, or handles a message that was sent: any one, at
any time and as often as it arrives. -/
inductive GroupEvent
  | call (id : Bytes) (w : LanWorld) (c : LanCall)
  | deliver (id : Bytes) (w : LanWorld) (addr : Bytes) (k : Nat)

namespace LanGroup

/-- A node changes, and what it has sent can arrive from now on. -/
def update (g : LanGroup) (id : Bytes) (done : LanSent) : LanGroup :=
  { g with nodes := Function.update g.nodes id done.1, sent := g.sent ++ done.2 }

@[simp] theorem update_self (g : LanGroup) (id : Bytes) (done : LanSent) :
    (g.update id done).nodes id = done.1 := by
  simp [update]

theorem update_other {other id : Bytes} (different : other ≠ id) (g : LanGroup) (done : LanSent) :
    (g.update id done).nodes other = g.nodes other := by
  simp [update, different]

def step (g : LanGroup) : GroupEvent → Option LanGroup
  | .call id w c => if id ∈ g.ids then some (g.update id ((g.nodes id).call w c)) else none
  | .deliver id w addr k =>
    if id ∈ g.ids then
      g.sent[k]?.map fun message =>
        { g.update id ((g.nodes id).onMulticastReceive w addr message) with handled := (id, k) :: g.handled }
    else none

variable {g next : LanGroup} {event : GroupEvent}

/-- What a step is: the call of a node, or a message that one handles. -/
theorem step_cases (ran : g.step event = some next) :
    (∃ id w c, event = .call id w c ∧ id ∈ g.ids ∧ next = g.update id ((g.nodes id).call w c)) ∨
      ∃ id w addr k message, event = .deliver id w addr k ∧ id ∈ g.ids ∧ g.sent[k]? = some message ∧
        next = { g.update id ((g.nodes id).onMulticastReceive w addr message) with handled := (id,
          k) :: g.handled } := by
  cases event with
  | call id w c =>
    simp only [step] at ran
    split at ran
    · rename_i member
      cases ran
      exact Or.inl ⟨id, w, c, rfl, member, rfl⟩
    · cases ran
  | deliver id w addr k =>
    simp only [step] at ran
    split at ran
    · rename_i member
      obtain ⟨message, sent, rfl⟩ := Option.map_eq_some_iff.mp ran
      exact Or.inr ⟨id, w, addr, k, message, rfl, member, sent, rfl⟩
    · cases ran

/-- The nodes have ids, know them, and have heard of nothing yet. -/
structure Begins (g : LanGroup) : Prop where
  named : [] ∉ g.ids
  own : ∀ id ∈ g.ids, (g.nodes id).machineId = id
  empty : ∀ id ∈ g.ids, ∀ name, (g.nodes id).networks.find name = none
  idle : ∀ id ∈ g.ids, (g.nodes id).timers = [] ∧ (g.nodes id).ranOut = []
  unset : ∀ id ∈ g.ids, ∀ name, (g.nodes id).moveTimerId.find name = none
  unsent : g.sent = []
  unhandled : g.handled = []

/-- A group of new nodes. -/
def fresh (ids : List Bytes) : LanGroup := ⟨ids, LanNode.fresh, [], []⟩

theorem begins_fresh {ids : List Bytes} (named : [] ∉ ids) : (fresh ids).Begins :=
  ⟨named, fun _ _ => rfl, fun _ _ _ => rfl, fun _ _ => ⟨rfl, rfl⟩, fun _ _ _ => rfl, rfl, rfl⟩

end LanGroup

end DbcNode
