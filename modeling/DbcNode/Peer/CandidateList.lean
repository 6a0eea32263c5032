import DbcNode.Peer.Candidates

namespace DbcNode

/-- The table of candidates and the database that it is saved to. -/
structure Listed (env : PeerEnv) (s : Service) : Prop where
  tidy : Tidy s.endpoints
  saved : Saved env s.db

namespace Listed
variable {env : PeerEnv} {s t : Service}

/-- A change that keeps the endpoints up to order, and the database. -/
theorem perm (listed : Listed env s) (same : t.endpoints.Perm s.endpoints) (kept : t.db = s.db) : Listed env t :=
  ⟨listed.tidy.perm same, kept ▸ listed.saved⟩

theorem addPeerCandidate (listed : Listed env s) (ep : Endpoint) (ns : NetState) (ntype : PeerNodeType)
    (nodeId : Bytes) : Listed env (s.addPeerCandidate ep ns ntype nodeId) := by
  rw [Service.addPeerCandidate]
  split
  · exact listed
  rename_i room
  split
  · exact listed
  rename_i absent
  refine ⟨?_, listed.saved⟩
  have fresh : ep ∉ s.endpoints := by
    intro member
    obtain ⟨c, found, same⟩ := List.mem_map.mp member
    have different := List.find?_eq_none.mp absent c found
    simp only [decide_eq_true_eq] at different
    exact different same
  have short : s.endpoints.length < maxPeerCandidatesCount := by
    rw [Service.endpoints, List.length_map]
    omega
  have longer := listed.tidy.concat short fresh
  rw [Service.endpoints, List.map_append]
  exact longer

theorem addSeeds (listed : Listed env s) (seeds : List Endpoint) : Listed env (Service.addSeeds seeds s) := by
  rw [Service.addSeeds]
  induction seeds generalizing s with
  | nil => exact listed
  | cons ep rest ih => exact ih (listed.addPeerCandidate ep .idle .seed [])

theorem addDnsSeeds (listed : Listed env s) (resolve : Bytes → List Endpoint) :
    Listed env (s.addDnsSeeds resolve) := by
  rw [Service.addDnsSeeds]
  split
  · exact listed
  rename_i rest _
  have popped : Listed env { s with dnsSeeds := rest } := ⟨listed.tidy, listed.saved⟩
  exact popped.addSeeds _

theorem markInUse (listed : Listed env s) (exist : Bool) (ep : Endpoint) : Listed env (s.markInUse exist ep) := by
  cases exist with
  | true => exact listed.perm (.of_eq (Service.updatePeerCandidateState_endpoints ep .inUse s)) rfl
  | false => exact listed.addPeerCandidate ep .inUse .normal []

theorem startConnectorStep (listed : Listed env s) (connects : Endpoint → Bool) (ep : Endpoint) :
    Listed env (Service.startConnectorStep env connects s ep) := by
  rw [Service.startConnectorStep]
  split
  · exact listed
  simp only
  have tried : Listed env { s with net := (s.net.startConnect ep (connects ep)).2 } := ⟨listed.tidy, listed.saved⟩
  split
  · exact tried.markInUse _ ep
  · exact tried

theorem startConnector (listed : Listed env s) (connects : Endpoint → Bool) :
    Listed env (s.startConnector env connects) := by
  rw [Service.startConnector]
  generalize env.peers = peers
  induction peers generalizing s with
  | nil => exact listed
  | cons ep rest ih => exact ih (listed.startConnectorStep connects ep)

theorem init (connects : Endpoint → Bool) (clock : Int) {db : OrdMap Bytes DbCandidate} (saved : Saved env db) :
    Listed env (Service.init env connects clock db) := by
  refine startConnector ?_ connects
  exact ⟨saved.tidy, saved.filter _⟩

theorem first : Listed env (Service.first env) :=
  ⟨⟨List.nodup_nil, Nat.zero_le _⟩, Saved.empty⟩

theorem dropFailed (listed : Listed env s) : Listed env s.dropFailed :=
  ⟨listed.tidy.sublist (List.filter_sublist.map _), listed.saved⟩

theorem replenish (listed : Listed env s) (resolve : Bytes → List Endpoint) :
    Listed env (s.replenish env resolve) := by
  rw [Service.replenish]
  have dns : Listed env (if s.dropFailed.getMaybeAvailablePeerCandidatesCount < minPeerCandidatesCount then
      s.dropFailed.addDnsSeeds resolve else s.dropFailed) := by
    split
    · exact listed.dropFailed.addDnsSeeds resolve
    · exact listed.dropFailed
  generalize (if s.dropFailed.getMaybeAvailablePeerCandidatesCount < minPeerCandidatesCount then
      s.dropFailed.addDnsSeeds resolve else s.dropFailed) = middle at dns
  split
  · exact dns.addSeeds env.ipSeeds
  · exact dns

theorem onTimerCheckPeerCandidates (listed : Listed env s) (connects : Endpoint → Bool)
    (resolve : Bytes → List Endpoint) : Listed env (s.onTimerCheckPeerCandidates env connects resolve) :=
  (listed.replenish resolve).perm (.of_eq (Service.connectLoop_endpoints env _ connects _ 0 _ _)) rfl

theorem learnSender (listed : Listed env s) {info : PeerInfo} (ran : s.learnSender env info = some t) :
    Listed env t := by
  simp only [Service.learnSender, Option.bind_eq_bind, Option.pure_def] at ran
  obtain ⟨address, _, ran⟩ := Option.bind_eq_some_iff.mp ran
  split at ran
  · cases ran
    exact listed
  cases ran
  refine (listed.addPeerCandidate _ .available .normal info.peerNodeId).perm (.of_eq ?_) rfl
  exact amend_map_key (by intro; rfl) _

theorem learnPeer (listed : Listed env s) {info : PeerInfo} (ran : Service.learnPeer env s info = some t) :
    Listed env t := by
  simp only [Service.learnPeer, Option.bind_eq_bind, Option.pure_def] at ran
  obtain ⟨address, _, ran⟩ := Option.bind_eq_some_iff.mp ran
  split at ran
  · cases ran
    exact listed
  split at ran
  · cases ran
    exact listed.addPeerCandidate _ .idle .normal []
  split at ran
  · cases ran
    exact listed.perm (.of_eq (amend_map_key (by intro; rfl) s.candidates)) rfl
  · cases ran
    exact listed

theorem learnPeers (listed : Listed env s) {infos : List PeerInfo}
    (ran : infos.foldlM (Service.learnPeer env) s = some t) : Listed env t := by
  induction infos generalizing s with
  | nil =>
    cases ran
    exact listed
  | cons info rest ih =>
    rw [List.foldlM_cons] at ran
    obtain ⟨middle, first, later⟩ := Option.bind_eq_some_iff.mp ran
    exact ih (listed.learnPeer first) later

theorem onBroadcastPeerNodes (listed : Listed env s) {nonce : Bytes} {peerNodesList : List PeerInfo}
    (ran : s.onBroadcastPeerNodes env nonce peerNodesList = some t) : Listed env t := by
  unfold Service.onBroadcastPeerNodes at ran
  split at ran
  · cases ran
    exact listed
  split at ran
  · cases ran
    exact listed
  split at ran
  · exact listed.learnSender ran
  · exact listed.learnPeers ran

theorem savePeerCandidates (listed : Listed env s) (written : Bool) :
    Listed env (s.savePeerCandidates env written) := by
  rw [Service.savePeerCandidates]
  split
  · exact listed
  split
  · obtain ⟨bounded, texts⟩ := Saved.foldl s.candidates OrdMap.empty Saved.empty.texts
    refine ⟨listed.tidy, ⟨?_, texts⟩⟩
    have whole := listed.tidy.bounded
    rw [Service.endpoints, List.length_map] at whole
    exact bounded.trans (by simpa [OrdMap.empty] using whole)
  · exact ⟨listed.tidy, Saved.empty⟩

theorem step (listed : Listed env s) {event : PeerEvent} (ran : s.step env event = some t) : Listed env t := by
  cases event with
  | clock now =>
    cases ran
    exact ⟨listed.tidy, listed.saved⟩
  | rehash order =>
    rw [Service.step] at ran
    split at ran
    · cases ran
      exact ⟨listed.tidy, listed.saved⟩
    · cases ran
  | restart connects =>
    cases ran
    exact init connects s.clock listed.saved
  | accept remoteAddr localAddr =>
    cases ran
    exact ⟨listed.tidy, listed.saved⟩
  | connect sid localAddr =>
    obtain ⟨net, _, rfl⟩ := Option.map_eq_some_iff.mp ran
    exact ⟨listed.tidy, listed.saved⟩
  | connectFail sid =>
    obtain ⟨net, _, rfl⟩ := Option.map_eq_some_iff.mp ran
    exact ⟨listed.tidy, listed.saved⟩
  | connectNotify sid =>
    rw [Service.step] at ran
    split at ran
    · cases ran
    rename_i connector _
    split at ran
    · cases ran
    cases ran
    obtain ⟨same, db⟩ := s.onClientTcpConnectNotify_frame connector
    exact listed.perm (.of_eq same) db
  | channelError sid =>
    obtain ⟨ch, _, rfl⟩ := Option.map_eq_some_iff.mp ran
    obtain ⟨same, db⟩ := s.onTcpChannelError_frame sid ch.remoteAddr
    exact listed.perm same db
  | verReq sid m =>
    cases ran
    obtain ⟨same, db⟩ := s.onVerReq_frame env sid m
    exact listed.perm (.of_eq same) db
  | verResp sid m =>
    cases ran
    obtain ⟨same, db⟩ := s.onVerResp_frame env sid m
    exact listed.perm (.of_eq same) db
  | broadcast nonce peerNodesList => exact listed.onBroadcastPeerNodes ran
  | checkTimer connects resolve =>
    cases ran
    exact listed.onTimerCheckPeerCandidates connects resolve
  | adjustTimer connects leave join =>
    obtain ⟨same, db⟩ := Service.onTimerDynamicAdjustNetwork_frame ran
    exact listed.perm same db
  | exchangeTimer =>
    cases ran
    exact listed.perm ((Service.broadcastPeerNodes_perm env s).map _) rfl
  | dumpTimer written =>
    cases ran
    exact listed.savePeerCandidates written

theorem reached {trace : List PeerEvent} (run : Reaches (Service.step env) (Service.first env) trace s) :
    Listed env s :=
  run.invariant (P := Listed env) first (fun listed _ ran => listed.step ran)

end Listed

/-- In every state that the service reaches, over restarts and whatever the
peers send, the candidates have distinct endpoints and fit into the table;
and what reorders them only does that. -/
theorem candidates_listed (env : PeerEnv) {trace : List PeerEvent} {s : Service}
    (run : Reaches (Service.step env) (Service.first env) trace s) :
    s.endpoints.Nodup ∧ s.candidates.length ≤ maxPeerCandidatesCount ∧
    (s.broadcastPeerNodes env).candidates.Perm s.candidates ∧
    (∀ sid ep, (s.onTcpChannelError sid ep).endpoints.Perm s.endpoints) ∧
    (∀ connects leave join t, s.onTimerDynamicAdjustNetwork env connects leave join = some t →
      t.endpoints.Perm s.endpoints) := by
  have listed := Listed.reached run
  have bounded := listed.tidy.bounded
  rw [Service.endpoints, List.length_map] at bounded
  refine ⟨listed.tidy.distinct, bounded, Service.broadcastPeerNodes_perm env s, ?_, ?_⟩
  · intro sid ep
    exact (s.onTcpChannelError_frame sid ep).1
  · intro connects leave join t ran
    exact (Service.onTimerDynamicAdjustNetwork_frame ran).1

/-- A node that has just found its seed and tries to connect to it. -/
theorem candidates_listed_seed :
    ∃ s : Service, Reaches (Service.step PeerEnv.lone) (Service.first PeerEnv.lone)
        [.checkTimer (fun _ => true) (fun _ => [])] s ∧
      s.endpoints = [⟨.v4 8 8 8 8, 10001⟩] ∧ s.endpoints.Nodup ∧ s.candidates.length ≤ maxPeerCandidatesCount := by
  have run : Reaches (Service.step PeerEnv.lone) (Service.first PeerEnv.lone)
    [.checkTimer (fun _ => true) (fun _ => [])]
      ((Service.first PeerEnv.lone).onTimerCheckPeerCandidates PeerEnv.lone (fun _ => true) (fun _ => [])) :=
    .next .start trivial rfl
  refine ⟨_, run, by decide, ?_⟩
  obtain ⟨distinct, bounded, _⟩ := candidates_listed PeerEnv.lone run
  exact ⟨distinct, bounded⟩

end DbcNode
