import DbcNode.Peer.Steps

namespace DbcNode

namespace Network

def links (net : Network) : List (SocketId × Endpoint) := net.channels.map (fun ch => (ch.sid, ch.remoteAddr))

/-- Two networks that differ only in what a channel stores and in what was
written. -/
structure Wired (a b : Network) : Prop where
  curIdx : a.curIdx = b.curIdx
  connectors : a.connectors = b.connectors
  links : a.links = b.links
  recycled : a.recycleChannels = b.recycleChannels

namespace Wired

theorem refl (a : Network) : Wired a a := ⟨rfl, rfl, rfl, rfl⟩

theorem trans {a b c : Network} (first : Wired a b) (second : Wired b c) : Wired a c :=
  ⟨first.curIdx.trans second.curIdx, first.connectors.trans second.connectors, first.links.trans second.links,
    first.recycled.trans second.recycled⟩

theorem updateChannel (net : Network) (sid : SocketId) {f : Channel → Channel} (kept : ∀ ch, (f ch).sid = ch.sid)
    (remote : ∀ ch, (f ch).remoteAddr = ch.remoteAddr) : Wired (net.updateChannel sid f) net := by
  refine ⟨rfl, rfl, ?_, rfl⟩
  rw [Network.links, Network.updateChannel, List.map_map]
  refine List.map_congr_left ?_
  intro ch _
  simp only [Function.comp]
  split
  · rw [kept, remote]
  · rfl

theorem sendMessage (net : Network) (sid : SocketId) (msg : Outgoing) : Wired (net.sendMessage sid msg) net := by
  rw [Network.sendMessage]
  split
  · exact refl net
  · exact ⟨rfl, rfl, rfl, rfl⟩

end Wired

end Network

namespace Service

/-- Each candidate with the state that it is in. -/
def states (s : Service) : List (Endpoint × NetState) := s.candidates.map (fun c => (c.tcpEp, c.netSt))

theorem amendCandidate_states (s : Service) {f : Candidate → Candidate} (kept : ∀ c, (f c).tcpEp = c.tcpEp)
    (state : ∀ c, (f c).netSt = c.netSt) (ep : Endpoint) : (s.amendCandidate ep f).states = s.states := by
  simp only [states, amendCandidate]
  induction s.candidates with
  | nil => rfl
  | cons c rest ih =>
    rw [amend]
    split
    · rw [List.map_cons, List.map_cons, kept, state]
    · rw [List.map_cons, List.map_cons, ih]

/-- A change of the candidates alone, after which no more of them are in
use. -/
structure Quiet (s t : Service) : Prop where
  peerNodes : t.peerNodes = s.peerNodes
  net : t.net = s.net
  db : t.db = s.db
  inUse : ∀ ep, (ep, .inUse) ∈ t.states → (ep, .inUse) ∈ s.states

namespace Quiet

theorem refl (s : Service) : Quiet s s := ⟨rfl, rfl, rfl, fun _ member => member⟩

theorem trans {a b c : Service} (first : Quiet a b) (second : Quiet b c) : Quiet a c :=
  ⟨second.peerNodes.trans first.peerNodes, second.net.trans first.net, second.db.trans first.db,
    fun ep member => first.inUse ep (second.inUse ep member)⟩

theorem addPeerCandidate (ep : Endpoint) {ns : NetState} (idle : ns ≠ .inUse) (ntype : PeerNodeType)
    (nodeId : Bytes) (s : Service) : Quiet s (s.addPeerCandidate ep ns ntype nodeId) := by
  rw [Service.addPeerCandidate]
  split
  · exact refl s
  split
  · exact refl s
  refine ⟨rfl, rfl, rfl, ?_⟩
  intro other member
  rw [states, List.map_append] at member
  rcases List.mem_append.mp member with old | new
  · exact old
  · cases List.mem_singleton.mp new
    exact (idle rfl).elim

theorem addSeeds (seeds : List Endpoint) (s : Service) : Quiet s (addSeeds seeds s) := by
  rw [Service.addSeeds]
  induction seeds generalizing s with
  | nil => exact refl s
  | cons ep rest ih => exact (addPeerCandidate ep (by simp) .seed [] s).trans (ih _)

theorem addDnsSeeds (resolve : Bytes → List Endpoint) (s : Service) : Quiet s (s.addDnsSeeds resolve) := by
  rw [Service.addDnsSeeds]
  split
  · exact refl s
  rename_i rest _
  have popped : Quiet s { s with dnsSeeds := rest } := ⟨rfl, rfl, rfl, fun _ member => member⟩
  exact popped.trans (addSeeds _ _)

theorem dropFailed (s : Service) : Quiet s s.dropFailed :=
  ⟨rfl, rfl, rfl, fun _ member => (List.filter_sublist.map _).subset member⟩

theorem replenish (env : PeerEnv) (resolve : Bytes → List Endpoint) (s : Service) :
    Quiet s (s.replenish env resolve) := by
  rw [Service.replenish]
  have dns : Quiet s (if s.dropFailed.getMaybeAvailablePeerCandidatesCount < minPeerCandidatesCount then
      s.dropFailed.addDnsSeeds resolve else s.dropFailed) := by
    split
    · exact (dropFailed s).trans (addDnsSeeds resolve s.dropFailed)
    · exact dropFailed s
  generalize (if s.dropFailed.getMaybeAvailablePeerCandidatesCount < minPeerCandidatesCount then
      s.dropFailed.addDnsSeeds resolve else s.dropFailed) = middle at dns
  split
  · exact dns.trans (addSeeds env.ipSeeds middle)
  · exact dns

theorem amendCandidate {f : Candidate → Candidate} (kept : ∀ c, (f c).tcpEp = c.tcpEp)
    (state : ∀ c, (f c).netSt = c.netSt) (ep : Endpoint) (s : Service) : Quiet s (s.amendCandidate ep f) := by
  refine ⟨rfl, rfl, rfl, ?_⟩
  rw [amendCandidate_states s kept state]
  exact fun _ member => member

theorem learnPeer {env : PeerEnv} {s t : Service} {info : PeerInfo} (ran : learnPeer env s info = some t) :
    Quiet s t := by
  simp only [Service.learnPeer, Option.bind_eq_bind, Option.pure_def] at ran
  obtain ⟨address, _, ran⟩ := Option.bind_eq_some_iff.mp ran
  split at ran
  · cases ran
    exact refl s
  split at ran
  · cases ran
    exact addPeerCandidate _ (by simp) .normal [] s
  split at ran
  · cases ran
    exact amendCandidate (by intro; rfl) (by intro; rfl) _ s
  · cases ran
    exact refl s

theorem learnPeers {env : PeerEnv} {s t : Service} {infos : List PeerInfo}
    (ran : infos.foldlM (Service.learnPeer env) s = some t) : Quiet s t := by
  induction infos generalizing s with
  | nil =>
    cases ran
    exact refl t
  | cons info rest ih =>
    rw [List.foldlM_cons] at ran
    obtain ⟨middle, first, later⟩ := Option.bind_eq_some_iff.mp ran
    exact (learnPeer first).trans (ih later)

theorem onBroadcastPeerNodes {env : PeerEnv} {s t : Service} {nonce : Bytes} {peerNodesList : List PeerInfo}
    (ran : s.onBroadcastPeerNodes env nonce peerNodesList = some t) : Quiet s t := by
  unfold Service.onBroadcastPeerNodes at ran
  split at ran
  · cases ran
    exact refl s
  split at ran
  · cases ran
    exact refl s
  split at ran
  · rename_i info
    simp only [learnSender, Option.bind_eq_bind, Option.pure_def] at ran
    obtain ⟨address, _, ran⟩ := Option.bind_eq_some_iff.mp ran
    split at ran
    · cases ran
      exact refl s
    · cases ran
      exact (addPeerCandidate _ (by simp) .normal info.peerNodeId s).trans
        (amendCandidate (by intro; rfl) (by intro; rfl) _ _)
  · exact learnPeers ran

/-- A candidate that is moved to the end is not in use afterwards. -/
theorem moveToTail {f : Candidate → Candidate} (state : ∀ c, (f c).netSt ≠ .inUse) (ep : Endpoint) (s : Service) :
    Quiet s (s.moveToTail ep f) := by
  rw [Service.moveToTail]
  split
  · exact refl s
  rename_i c _
  refine ⟨rfl, rfl, rfl, ?_⟩
  intro other member
  simp only [states, removePeerCandidate, List.map_append, List.map_cons, List.map_nil] at member
  rcases List.mem_append.mp member with old | new
  · exact (List.eraseP_sublist.map _).subset old
  · exact (state c (Prod.mk.inj (List.mem_singleton.mp new)).2.symm).elim

theorem failCandidate (ep : Endpoint) (s : Service) : Quiet s (s.failCandidate ep) := by
  rw [Service.failCandidate]
  split
  · exact refl s
  split
  · exact refl s
  exact moveToTail (by intro; simp) ep s

end Quiet

/-- A node that `add_peer_node` takes: it has a channel, and a name of its
own. -/
structure Welcome (env : PeerEnv) (s : Service) (sid : SocketId) (m : Login) (ch : Channel) : Prop where
  named : m.nodeId ≠ []
  other : env.nodeId ≠ m.nodeId
  unknown : ∀ n ∈ s.peerNodes, n.id ≠ m.nodeId
  channel : s.net.getChannel sid = some ch

/-- A service after a node was added: the candidates keep their states. -/
structure Joined (s : Service) (sid : SocketId) (m : Login) (ch : Channel) (t : Service) : Prop where
  states : t.states = s.states
  peerNodes : ∃ nodeType, t.peerNodes = ⟨m.nodeId, sid, ch.remoteAddr, nodeType⟩ :: s.peerNodes
  wired : t.net.Wired s.net
  db : t.db = s.db

theorem addPeerNode_cases {env : PeerEnv} {name : LoginName} {sid : SocketId} {m : Login} {s t : Service}
    (added : s.addPeerNode env name sid m = some t) :
    ∃ ch, Welcome env s sid m ch ∧ Joined s sid m ch t ∧ t.candidates = s.candidates := by
  simp only [addPeerNode] at added
  split at added
  · cases added
  rename_i named
  split at added
  · cases added
  rename_i other
  split at added
  · cases added
  rename_i unknown
  split at added
  · cases added
  rename_i ch channel
  cases added
  refine ⟨ch, ⟨named, other, ?_, channel⟩, ⟨rfl, ⟨_, rfl⟩, ?_, rfl⟩, rfl⟩
  · simpa using unknown
  · exact Network.Wired.updateChannel s.net sid (fun _ => rfl) (fun _ => rfl)

theorem addPeerNode_welcome (name : LoginName) {env : PeerEnv} {sid : SocketId} {m : Login} {s : Service}
    {ch : Channel} (welcome : Welcome env s sid m ch) : ∃ t, s.addPeerNode env name sid m = some t := by
  have unknown : ¬ s.peerNodes.any (·.id = m.nodeId) = true := by simpa using welcome.unknown
  rw [addPeerNode, if_neg welcome.named, if_neg welcome.other, if_neg unknown]
  simp only [welcome.channel]
  exact ⟨_, rfl⟩

section Frames
variable (s : Service)

theorem setProtoCapacity_frame (sid : SocketId) (capacity : Option Bytes) :
    (s.setProtoCapacity sid capacity).states = s.states ∧
    (s.setProtoCapacity sid capacity).peerNodes = s.peerNodes ∧
    (s.setProtoCapacity sid capacity).net.Wired s.net ∧ (s.setProtoCapacity sid capacity).db = s.db := by
  cases capacity with
  | none => exact ⟨rfl, rfl, .refl _, rfl⟩
  | some c => exact ⟨rfl, rfl, .updateChannel s.net sid (fun _ => rfl) (fun _ => rfl), rfl⟩

theorem advertiseLocal_frame (env : PeerEnv) (ep : Endpoint) (sid : SocketId) :
    (s.advertiseLocal env ep sid).states = s.states ∧ (s.advertiseLocal env ep sid).peerNodes = s.peerNodes ∧
    (s.advertiseLocal env ep sid).net.Wired s.net ∧ (s.advertiseLocal env ep sid).db = s.db := by
  rw [advertiseLocal]
  split
  · exact ⟨rfl, rfl, .refl _, rfl⟩
  · exact ⟨rfl, rfl, .sendMessage s.net sid _, rfl⟩

end Frames

/-- What the handler of a login request can do: nothing, stop the channel of
a node that is not taken, or take the node, whether its signature is right
or not. -/
theorem onVerReq_cases (env : PeerEnv) (sid : SocketId) (m : Login) (s : Service) :
    s.onVerReq env sid m = s ∨
    (env.checkId m.nonce = true ∧ (∀ ch, ¬ Welcome env s sid m ch) ∧ s.onVerReq env sid m = s.stopChannel sid) ∨
    (env.checkId m.nonce = true ∧ ∃ ch, Welcome env s sid m ch ∧ Joined s sid m ch (s.onVerReq env sid m)) := by
  rw [onVerReq]
  split
  · exact Or.inl rfl
  rename_i checked
  rw [Bool.not_eq_false] at checked
  split
  · rename_i refused
    refine Or.inr (Or.inl ⟨checked, ?_, rfl⟩)
    intro ch welcome
    obtain ⟨t, added⟩ := addPeerNode_welcome .verReq welcome
    rw [refused] at added
    cases added
  rename_i added ran
  obtain ⟨ch, welcome, joined, _⟩ := addPeerNode_cases ran
  obtain ⟨nodeType, nodes⟩ := joined.peerNodes
  obtain ⟨states, peerNodes, wired, db⟩ := added.setProtoCapacity_frame sid m.capacity
  have stored : Joined s sid m ch (added.setProtoCapacity sid m.capacity) :=
    ⟨states.trans joined.states, ⟨nodeType, peerNodes.trans nodes⟩, wired.trans joined.wired, db.trans joined.db⟩
  refine Or.inr (Or.inr ⟨checked, ch, welcome, ?_⟩)
  simp only
  split
  · exact stored
  · exact ⟨stored.states, stored.peerNodes, (Network.Wired.sendMessage _ sid _).trans stored.wired, stored.db⟩

/-- The candidate of the channel learns the node id before anything is
decided. -/
def named (sid : SocketId) (m : Login) (s : Service) : Service :=
  match s.net.getChannel sid with
  | none => s
  | some ch => s.amendCandidate ch.remoteAddr (fun c => { c with nodeId := m.nodeId })

theorem named_frame (sid : SocketId) (m : Login) (s : Service) :
    (s.named sid m).states = s.states ∧ (s.named sid m).peerNodes = s.peerNodes ∧ (s.named sid m).net = s.net ∧
      (s.named sid m).db = s.db := by
  rw [named]
  split
  · exact ⟨rfl, rfl, rfl, rfl⟩
  · exact ⟨amendCandidate_states s (by intro; rfl) (by intro; rfl) _, rfl, rfl, rfl⟩

theorem Welcome.of_named {env : PeerEnv} {s : Service} {sid : SocketId} {m : Login} {ch : Channel} :
    Welcome env (s.named sid m) sid m ch ↔ Welcome env s sid m ch := by
  obtain ⟨_, peerNodes, net, _⟩ := s.named_frame sid m
  constructor
  · intro welcome
    exact ⟨welcome.named, welcome.other, peerNodes ▸ welcome.unknown, net ▸ welcome.channel⟩
  · intro welcome
    exact ⟨welcome.named, welcome.other, peerNodes.symm ▸ welcome.unknown, net.symm ▸ welcome.channel⟩

/-- What the handler of a login response can do: nothing; release the
candidate and stop the channel when there are enough nodes; stop the channel
of a node that is not taken; or take the node. -/
theorem onVerResp_cases (env : PeerEnv) (sid : SocketId) (m : Login) (s : Service) :
    s.onVerResp env sid m = s ∨
    (env.checkId m.nonce = true ∧ m.verified env = true ∧ ∃ ch, s.net.getChannel sid = some ch ∧
      ((maxConnectedPeerNodesCount ≤ s.getPeerNodesCountBySocketType .client ∧
          s.onVerResp env sid m =
            ((s.named sid m).updatePeerCandidateState ch.remoteAddr .available).stopChannel sid) ∨
        (s.getPeerNodesCountBySocketType .client < maxConnectedPeerNodesCount ∧
          (¬ Welcome env s sid m ch) ∧ s.onVerResp env sid m = (s.named sid m).stopChannel sid) ∨
        (s.getPeerNodesCountBySocketType .client < maxConnectedPeerNodesCount ∧
          Welcome env s sid m ch ∧ Joined s sid m ch (s.onVerResp env sid m)))) := by
  rw [onVerResp]
  split
  · exact Or.inl rfl
  rename_i checked
  split
  · exact Or.inl rfl
  rename_i verified
  rw [Bool.not_eq_false] at checked verified
  split
  · exact Or.inl rfl
  rename_i ch channel
  refine Or.inr ⟨checked, verified, ch, channel, ?_⟩
  have meant : s.amendCandidate ch.remoteAddr (fun c => { c with nodeId := m.nodeId }) = s.named sid m := by
    rw [named, channel]
  obtain ⟨states, peerNodes, net, db⟩ := s.named_frame sid m
  have count : (s.named sid m).getPeerNodesCountBySocketType .client = s.getPeerNodesCountBySocketType .client := by
    rw [getPeerNodesCountBySocketType, getPeerNodesCountBySocketType, peerNodes]
  simp only [meant, count]
  split
  · rename_i full
    exact Or.inl ⟨full, rfl⟩
  rename_i room
  rw [not_le] at room
  split
  · rename_i refused
    refine Or.inr (Or.inl ⟨room, ?_, rfl⟩)
    intro welcome
    obtain ⟨t, added⟩ := addPeerNode_welcome .verResp (Welcome.of_named.mpr welcome)
    rw [refused] at added
    cases added
  rename_i added ran
  obtain ⟨other, welcome, joined, _⟩ := addPeerNode_cases ran
  have same : some other = some ch := by
    rw [← welcome.channel, net, channel]
  cases same
  refine Or.inr (Or.inr ⟨room, Welcome.of_named.mp welcome, ?_⟩)
  obtain ⟨nodeType, nodes⟩ := joined.peerNodes
  have counted := amendCandidate_states added (f := fun c => { c with reconnCnt := 0 }) (fun _ => rfl)
    (fun _ => rfl) ch.remoteAddr
  obtain ⟨states', peerNodes', wired', db'⟩ :=
    (added.amendCandidate ch.remoteAddr (fun c => { c with reconnCnt := 0 })).setProtoCapacity_frame sid m.capacity
  obtain ⟨states'', peerNodes'', wired'', db''⟩ := ((added.amendCandidate ch.remoteAddr
    (fun c => { c with reconnCnt := 0 })).setProtoCapacity sid m.capacity).advertiseLocal_frame env ch.localAddr sid
  refine ⟨?_, ⟨nodeType, ?_⟩, ?_, ?_⟩
  · rw [states'', states', counted, joined.states, states]
  · rw [peerNodes'', peerNodes']
    exact nodes.trans (congrArg _ peerNodes)
  · have wired := wired''.trans (wired'.trans joined.wired)
    rwa [net] at wired
  · rw [db'', db']
    exact joined.db.trans db

end Service

end DbcNode
