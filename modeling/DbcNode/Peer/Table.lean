import DbcNode.Peer.Handlers

namespace DbcNode

namespace Service

theorem startConnector_peerNodes (env : PeerEnv) (connects : Endpoint → Bool) (s : Service) :
    (s.startConnector env connects).peerNodes = s.peerNodes := by
  rw [startConnector]
  generalize env.peers = peers
  induction peers generalizing s with
  | nil => rfl
  | cons ep rest ih =>
    refine (ih _).trans ?_
    rw [startConnectorStep]
    split
    · rfl
    simp only
    split
    · split
      · rfl
      · rw [addPeerCandidate]
        split
        · rfl
        · split <;> rfl
    · rfl

theorem onTcpChannelError_peerNodes (sid : SocketId) (ep : Endpoint) (s : Service) :
    (s.onTcpChannelError sid ep).peerNodes = s.peerNodes.eraseP (·.sid = sid) := by
  change (s.failCandidate ep).peerNodes.eraseP (·.sid = sid) = _
  rw [(Quiet.failCandidate ep s).peerNodes]

theorem onClientTcpConnectNotify_peerNodes (connector : Connector) (s : Service) :
    (s.onClientTcpConnectNotify connector).peerNodes = s.peerNodes := by
  rw [onClientTcpConnectNotify]
  split
  · rfl
  cases connector.phase <;> rfl

theorem replaceNode_peerNodes {env : PeerEnv} {connects : Endpoint → Bool} {draw : Nat} {node : PeerNode}
    {s t : Service} (ran : s.replaceNode env connects draw node = some t) : t.peerNodes = s.peerNodes := by
  rw [replaceNode] at ran
  split at ran
  · cases ran
    rfl
  split at ran
  · cases ran
  simp only at ran
  cases ran
  exact (Quiet.moveToTail (by intro; simp) _ s).peerNodes

theorem onTimerDynamicAdjustNetwork_peerNodes {env : PeerEnv} {connects : Endpoint → Bool} {leave join : Nat}
    {s t : Service} (ran : s.onTimerDynamicAdjustNetwork env connects leave join = some t) :
    t.peerNodes.Sublist s.peerNodes := by
  rw [onTimerDynamicAdjustNetwork] at ran
  simp only at ran
  split at ran
  · cases ran
    exact .refl _
  split at ran
  · cases ran
    exact .refl _
  split at ran
  · cases ran
    exact .refl _
  rw [replaceNode_peerNodes ran]
  exact List.eraseP_sublist

theorem savePeerCandidates_peerNodes (env : PeerEnv) (written : Bool) (s : Service) :
    (s.savePeerCandidates env written).peerNodes = s.peerNodes := by
  rw [savePeerCandidates]
  split
  · rfl
  · split <;> rfl

/-- A login message that the service takes a node from, in the state it
comes in. -/
inductive Enters (env : PeerEnv) (s : Service) (sid : SocketId) (m : Login) (ch : Channel) : PeerEvent → Prop
  | verReq (checked : env.checkId m.nonce = true) (welcome : Welcome env s sid m ch) :
  Enters env s sid m ch (.verReq sid m)
  | verResp (checked : env.checkId m.nonce = true) (verified : m.verified env = true)
      (room : s.getPeerNodesCountBySocketType .client < maxConnectedPeerNodesCount)
      (welcome : Welcome env s sid m ch) : Enters env s sid m ch (.verResp sid m)

theorem Enters.welcome {env : PeerEnv} {s : Service} {sid : SocketId} {m : Login} {ch : Channel} {event : PeerEvent}
    (enters : Enters env s sid m ch event) : Welcome env s sid m ch := by
  cases enters with
  | verReq _ welcome => exact welcome
  | verResp _ _ _ welcome => exact welcome

/-- A login message leaves the table as it is, or enters one node. -/
theorem onVerReq_peerNodes (env : PeerEnv) (sid : SocketId) (m : Login) (s : Service) :
    (s.onVerReq env sid m).peerNodes = s.peerNodes ∨ ∃ ch nodeType, Enters env s sid m ch (.verReq sid m) ∧
      (s.onVerReq env sid m).peerNodes = ⟨m.nodeId, sid, ch.remoteAddr, nodeType⟩ :: s.peerNodes := by
  rcases s.onVerReq_cases env sid m with same | ⟨_, _, stopped⟩ | ⟨checked, ch, welcome, joined⟩
  · exact Or.inl (congrArg peerNodes same)
  · rw [stopped]
    exact Or.inl rfl
  · obtain ⟨nodeType, nodes⟩ := joined.peerNodes
    exact Or.inr ⟨ch, nodeType, .verReq checked welcome, nodes⟩

theorem onVerResp_peerNodes (env : PeerEnv) (sid : SocketId) (m : Login) (s : Service) :
    (s.onVerResp env sid m).peerNodes = s.peerNodes ∨ ∃ ch nodeType, Enters env s sid m ch (.verResp sid m) ∧
      (s.onVerResp env sid m).peerNodes = ⟨m.nodeId, sid, ch.remoteAddr, nodeType⟩ :: s.peerNodes := by
  obtain ⟨_, named, _, _⟩ := s.named_frame sid m
  rcases s.onVerResp_cases env sid m with
    same | ⟨checked, verified, ch, _, ⟨_, full⟩ | ⟨_, _, stopped⟩ | ⟨room, welcome, joined⟩⟩
  · exact Or.inl (congrArg peerNodes same)
  · rw [full]
    exact Or.inl named
  · rw [stopped]
    exact Or.inl named
  · obtain ⟨nodeType, nodes⟩ := joined.peerNodes
    exact Or.inr ⟨ch, nodeType, .verResp checked verified room welcome, nodes⟩

/-- The table of the nodes after a step: no entry is new but the one of a
login message that was taken. -/
theorem step_peerNodes {env : PeerEnv} {s t : Service} {event : PeerEvent} (ran : s.step env event = some t) :
    (∃ kept : List PeerNode, t.peerNodes.Perm kept ∧ kept.Sublist s.peerNodes) ∨
    ∃ sid m ch nodeType, Enters env s sid m ch event ∧
      t.peerNodes = ⟨m.nodeId, sid, ch.remoteAddr, nodeType⟩ :: s.peerNodes := by
  have frame {nodes : List PeerNode} (same : t.peerNodes = nodes) (part : nodes.Sublist s.peerNodes) :
      (∃ kept : List PeerNode, t.peerNodes.Perm kept ∧ kept.Sublist s.peerNodes) ∨
      ∃ sid m ch nodeType, Enters env s sid m ch event ∧
        t.peerNodes = ⟨m.nodeId, sid, ch.remoteAddr, nodeType⟩ :: s.peerNodes :=
    Or.inl ⟨nodes, .of_eq same, part⟩
  cases event with
  | clock now =>
    cases ran
    exact frame rfl (.refl _)
  | rehash order =>
    rw [step] at ran
    split at ran
    · rename_i same
      cases ran
      exact Or.inl ⟨s.peerNodes, same, .refl _⟩
    · cases ran
  | restart connects =>
    cases ran
    exact frame (startConnector_peerNodes env connects _) (List.nil_sublist _)
  | accept remoteAddr localAddr =>
    cases ran
    exact frame rfl (.refl _)
  | connect sid localAddr =>
    obtain ⟨net, _, rfl⟩ := Option.map_eq_some_iff.mp ran
    exact frame rfl (.refl _)
  | connectFail sid =>
    obtain ⟨net, _, rfl⟩ := Option.map_eq_some_iff.mp ran
    exact frame rfl (.refl _)
  | connectNotify sid =>
    rw [step] at ran
    split at ran
    · cases ran
    rename_i connector _
    split at ran
    · cases ran
    cases ran
    exact frame (onClientTcpConnectNotify_peerNodes connector s) (.refl _)
  | channelError sid =>
    obtain ⟨ch, _, rfl⟩ := Option.map_eq_some_iff.mp ran
    exact frame (onTcpChannelError_peerNodes sid ch.remoteAddr s) List.eraseP_sublist
  | verReq sid m =>
    cases ran
    rcases onVerReq_peerNodes env sid m s with same | ⟨ch, nodeType, enters, nodes⟩
    · exact frame same (.refl _)
    · exact Or.inr ⟨sid, m, ch, nodeType, enters, nodes⟩
  | verResp sid m =>
    cases ran
    rcases onVerResp_peerNodes env sid m s with same | ⟨ch, nodeType, enters, nodes⟩
    · exact frame same (.refl _)
    · exact Or.inr ⟨sid, m, ch, nodeType, enters, nodes⟩
  | broadcast nonce peerNodesList => exact frame (Quiet.onBroadcastPeerNodes ran).peerNodes (.refl _)
  | checkTimer connects resolve =>
    cases ran
    exact frame (Quiet.replenish env resolve s).peerNodes (.refl _)
  | adjustTimer connects leave join => exact frame rfl (onTimerDynamicAdjustNetwork_peerNodes ran)
  | exchangeTimer =>
    cases ran
    exact frame rfl (.refl _)
  | dumpTimer written =>
    cases ran
    exact frame (savePeerCandidates_peerNodes env written s) (.refl _)

end Service

namespace Service

/-- An entry that came in with a login message on its own channel, signed
for its node id. The message is one of the events of the run. -/
def Authentic (env : PeerEnv) (trace : List PeerEvent) (n : PeerNode) : Prop :=
  ∃ later earlier before after m ch event, trace = later ++ event :: earlier ∧
    Reaches (step env) (first env) earlier before ∧ before.step env event = some after ∧
    Enters env before n.sid m ch event ∧ n ∈ after.peerNodes ∧ m.nodeId = n.id ∧ m.verified env = true

theorem Authentic.later {env : PeerEnv} {trace : List PeerEvent} {n : PeerNode} (authentic : Authentic env trace n)
    (event : PeerEvent) : Authentic env (event :: trace) n := by
  obtain ⟨later, earlier, before, after, m, ch, login, whole, rest⟩ := authentic
  exact ⟨event :: later, earlier, before, after, m, ch, login, congrArg (event :: ·) whole, rest⟩

/-- A login request is signed if a node is taken from it. -/
def SignedRequest (env : PeerEnv) (s : Service) : PeerEvent → Prop
  | .verReq sid m => (∃ ch, Enters env s sid m ch (.verReq sid m)) → m.verified env = true
  | _ => True

theorem Enters.verified {env : PeerEnv} {s : Service} {sid : SocketId} {m : Login} {ch : Channel}
    {event : PeerEvent} (enters : Enters env s sid m ch event) (signed : SignedRequest env s event) :
    m.verified env = true := by
  cases enters with
  | verReq checked welcome => exact signed ⟨ch, .verReq checked welcome⟩
  | verResp _ verified _ _ => exact verified

/-- As long as the login requests that nodes are taken from are signed,
every entry of the table was brought by a signed login message on its
channel. -/
theorem entries_authentic (env : PeerEnv) {trace : List PeerEvent} {s : Service}
    (run : Run (step env) (SignedRequest env) (first env) trace s) : ∀ n ∈ s.peerNodes, Authentic env trace n := by
  induction run with
  | start =>
    intro n member
    cases member
  | @next trace s t event before admitted ran ih =>
    intro n member
    rcases step_peerNodes ran with ⟨kept, same, part⟩ | ⟨sid, m, ch, nodeType, enters, nodes⟩
    · exact (ih n (part.subset (same.subset member))).later event
    · rw [nodes] at member
      rcases List.mem_cons.mp member with rfl | old
      · refine ⟨[], trace, s, t, m, ch, event, rfl, before.reaches, ran, enters, ?_, rfl, enters.verified admitted⟩
        rw [nodes]
        exact List.mem_cons_self
      · exact (ih n old).later event

/-- A node whose request is signed is taken, and its entry is an authentic
one. -/
theorem entries_authentic_signed :
    ∃ s n, Run (step PeerEnv.lone) (SignedRequest PeerEnv.lone) (first PeerEnv.lone)
        [.verReq ⟨.server, 1⟩ (.signed [5] [2]), .accept ⟨.v4 9 9 9 9, 5000⟩ ⟨.v4 7 7 7 7, 10001⟩] s ∧
      n ∈ s.peerNodes ∧ Authentic PeerEnv.lone
        [.verReq ⟨.server, 1⟩ (.signed [5] [2]), .accept ⟨.v4 9 9 9 9, 5000⟩ ⟨.v4 7 7 7 7, 10001⟩] n := by
  have run : Run (step PeerEnv.lone) (SignedRequest PeerEnv.lone) (first PeerEnv.lone)
      [.verReq ⟨.server, 1⟩ (.signed [5] [2]), .accept ⟨.v4 9 9 9 9, 5000⟩ ⟨.v4 7 7 7 7, 10001⟩] _ :=
    .next (.next .start trivial rfl) (fun _ => by decide) rfl
  have member :
    ⟨[2], ⟨.server, 1⟩, ⟨.v4 9 9 9 9, 5000⟩, .normal⟩ ∈ (onVerReq PeerEnv.lone ⟨.server, 1⟩ (.signed [5] [2])
      { first PeerEnv.lone with
        net := Network.empty.onAccept ⟨.v4 9 9 9 9, 5000⟩ ⟨.v4 7 7 7 7, 10001⟩ }).peerNodes := by decide
  exact ⟨_, _, run, member, entries_authentic PeerEnv.lone run _ member⟩

/-- A peer that connects and sends a request without a signature stays in
the table. -/
theorem unsigned_entry_stays :
    ∃ trace s n, Reaches (step PeerEnv.lone) (first PeerEnv.lone) trace s ∧ n ∈ s.peerNodes ∧
      ¬ Authentic PeerEnv.lone trace n := by
  have run : Reaches (step PeerEnv.lone) (first PeerEnv.lone)
      [.verReq ⟨.server, 1⟩ (.unsigned [5] [2]), .accept ⟨.v4 9 9 9 9, 5000⟩ ⟨.v4 7 7 7 7, 10001⟩] _ :=
    .next (.next .start trivial rfl) trivial rfl
  have member : ⟨[2], ⟨.server, 1⟩, ⟨.v4 9 9 9 9, 5000⟩, .normal⟩ ∈ (onVerReq PeerEnv.lone ⟨.server, 1⟩
      (.unsigned [5] [2]) { first PeerEnv.lone with
        net := Network.empty.onAccept ⟨.v4 9 9 9 9, 5000⟩ ⟨.v4 7 7 7 7, 10001⟩ }).peerNodes := by decide
  refine ⟨_, _, _, run, member, ?_⟩
  rintro ⟨later, earlier, before, after, m, ch, event, whole, _, _, enters, _, _, verified⟩
  have happened : event ∈ later ++ event :: earlier := by simp
  rw [← whole] at happened
  simp only [List.mem_cons, List.not_mem_nil, or_false] at happened
  rcases happened with rfl | rfl
  · cases enters
    exact absurd verified (by decide)
  · cases enters

/-- What the table and the channels should agree on: no channel has two
entries, and there are not too many nodes that this one connected to. -/
structure Agrees (s : Service) : Prop where
  distinct : (s.peerNodes.map (·.sid)).Nodup
  bounded : s.getPeerNodesCountBySocketType .client ≤ maxConnectedPeerNodesCount

/-- A login message that a node is taken from comes on a channel that has no
node yet, and on a channel of this node's own only while there is room. -/
def OwnChannel (env : PeerEnv) (s : Service) (event : PeerEvent) : Prop :=
  ∀ sid m ch, Enters env s sid m ch event → (∀ n ∈ s.peerNodes, n.sid ≠ sid) ∧
    (sid.type = .client → s.getPeerNodesCountBySocketType .client < maxConnectedPeerNodesCount)

theorem Agrees.step {env : PeerEnv} {s t : Service} {event : PeerEvent} (agrees : Agrees s)
    (own : OwnChannel env s event) (ran : s.step env event = some t) : Agrees t := by
  rcases step_peerNodes ran with ⟨kept, same, part⟩ | ⟨sid, m, ch, nodeType, enters, nodes⟩
  · refine ⟨(same.map _).nodup_iff.mpr (agrees.distinct.sublist (part.map _)), ?_⟩
    rw [getPeerNodesCountBySocketType, same.countP_eq]
    exact part.countP_le.trans agrees.bounded
  · obtain ⟨fresh, room⟩ := own sid m ch enters
    refine ⟨?_, ?_⟩
    · rw [nodes, List.map_cons, List.nodup_cons]
      refine ⟨?_, agrees.distinct⟩
      intro member
      obtain ⟨n, old, same⟩ := List.mem_map.mp member
      exact fresh n old same
    · have bounded := agrees.bounded
      rw [getPeerNodesCountBySocketType] at bounded room ⊢
      rw [nodes, List.countP_cons]
      split
      · rename_i client
        exact room (by simpa using client)
      · exact bounded

/-- With one node on a channel its error leaves none. -/
theorem Agrees.onTcpChannelError {s : Service} (agrees : Agrees s) (sid : SocketId) (ep : Endpoint) :
    ∀ n ∈ (s.onTcpChannelError sid ep).peerNodes, n.sid ≠ sid := by
  rw [onTcpChannelError_peerNodes]
  have distinct := agrees.distinct
  generalize s.peerNodes = nodes at distinct
  induction nodes with
  | nil =>
    intro n member
    cases member
  | cons head rest ih =>
    obtain ⟨fresh, tail⟩ := List.nodup_cons.mp distinct
    intro n member
    rw [List.eraseP_cons] at member
    by_cases same : head.sid = sid
    · simp only [same, decide_true, cond_true] at member
      intro equal
      refine fresh (List.mem_map.mpr ⟨n, member, ?_⟩)
      exact equal.trans same.symm
    · simp only [same, decide_false, cond_false] at member
      rcases List.mem_cons.mp member with rfl | later
      · exact same
      · exact ih tail n later

/-- As long as every channel brings one node, and a request on a channel of
this node's own comes while there is room, the table and the channels
agree. -/
theorem table_agrees (env : PeerEnv) {trace : List PeerEvent} {s : Service}
    (run : Run (step env) (OwnChannel env) (first env) trace s) :
    (s.peerNodes.map (·.sid)).Nodup ∧ s.getPeerNodesCountBySocketType .client ≤ maxConnectedPeerNodesCount ∧
    ∀ sid ep, ∀ n ∈ (s.onTcpChannelError sid ep).peerNodes, n.sid ≠ sid := by
  have start : Agrees (first env) := ⟨List.nodup_nil, Nat.zero_le _⟩
  have agrees : Agrees s := run.invariant (P := Agrees) start (fun agrees own ran => agrees.step own ran)
  exact ⟨agrees.distinct, agrees.bounded, agrees.onTcpChannelError⟩

/-- A peer that connected and logged in once. -/
theorem table_agrees_one_login :
    ∃ s, Run (step PeerEnv.lone) (OwnChannel PeerEnv.lone) (first PeerEnv.lone)
        [.verReq ⟨.server, 1⟩ (.signed [5] [2]), .accept ⟨.v4 9 9 9 9, 5000⟩ ⟨.v4 7 7 7 7, 10001⟩] s ∧
      s.peerNodes.map (·.sid) = [⟨.server, 1⟩] ∧ ∀ sid ep, ∀ n ∈ (s.onTcpChannelError sid ep).peerNodes,
        n.sid ≠ sid := by
  have quiet : OwnChannel PeerEnv.lone (first PeerEnv.lone) (.accept ⟨.v4 9 9 9 9, 5000⟩ ⟨.v4 7 7 7 7, 10001⟩) := by
    intro sid m ch enters
    cases enters
  have own : OwnChannel PeerEnv.lone { first PeerEnv.lone with
      net := Network.empty.onAccept ⟨.v4 9 9 9 9, 5000⟩ ⟨.v4 7 7 7 7, 10001⟩ }
      (.verReq ⟨.server, 1⟩ (.signed [5] [2])) := by
    intro sid m ch enters
    cases enters
    refine ⟨?_, fun client => absurd client (by decide)⟩
    intro n member
    cases member
  have run : Run (step PeerEnv.lone) (OwnChannel PeerEnv.lone) (first PeerEnv.lone)
      [.verReq ⟨.server, 1⟩ (.signed [5] [2]), .accept ⟨.v4 9 9 9 9, 5000⟩ ⟨.v4 7 7 7 7, 10001⟩] _ :=
    .next (.next .start quiet rfl) own rfl
  refine ⟨_, run, by decide, ?_⟩
  exact (table_agrees PeerEnv.lone run).2.2

/-- A node that this one connected to logs in, and then sends a login
request of its own under another name. The error of the channel leaves the
other entry. -/
theorem two_entries_on_one_channel :
    ∃ trace s, Reaches (step PeerEnv.lone) (first PeerEnv.lone) trace s ∧
      s.peerNodes.map (fun n => (n.id, n.sid)) = [([3], ⟨.client, 1⟩), ([2], ⟨.client, 1⟩)] ∧
      (s.onTcpChannelError ⟨.client, 1⟩ ⟨.v4 8 8 8 8, 10001⟩).peerNodes.map (·.sid) = [⟨.client, 1⟩] := by
  have run : Reaches (step PeerEnv.lone) (first PeerEnv.lone) _ _ := Reaches.of_runAll
    [.checkTimer (fun _ => true) (fun _ => []), .connect ⟨.client, 1⟩ ⟨.v4 7 7 7 7, 40000⟩,
      .connectNotify ⟨.client, 1⟩, .verResp ⟨.client, 1⟩ (.signed [5] [2]), .verReq ⟨.client, 1⟩ (.signed [6] [3])]
    .start rfl
  exact ⟨_, _, run, by decide, by decide⟩

end Service

end DbcNode
