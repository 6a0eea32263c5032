import DbcNode.Peer.Placed

namespace DbcNode

namespace Service

/-- Something is going on for an endpoint: a connector that was not
released, a channel that was not stopped, or an entry of the table. -/
def Linked (s : Service) (ep : Endpoint) : Prop :=
  (∃ c ∈ s.net.connectors, c.connectAddr = ep) ∨ (∃ ch ∈ s.net.channels, ch.remoteAddr = ep) ∨
    ∃ n ∈ s.peerNodes, n.peerAddr = ep

/-- The same, with connectors that have their channel left out. -/
def Firm (s : Service) (ep : Endpoint) : Prop := s.net.Carries ep ∨ ∃ n ∈ s.peerNodes, n.peerAddr = ep

theorem Firm.linked {s : Service} {ep : Endpoint} (firm : s.Firm ep) : s.Linked ep := by
  rcases firm with (⟨c, member, same, _⟩ | opened) | entry
  · exact Or.inl ⟨c, member, same⟩
  · exact Or.inr (Or.inl opened)
  · exact Or.inr (Or.inr entry)

/-- Every candidate in use is held by something. -/
def Holding (s : Service) : Prop := ∀ ep, (ep, .inUse) ∈ s.states → s.Firm ep

/-- Stopping a channel would leave the candidate at its other end in use for
nothing. -/
def Strands (s : Service) (sid : SocketId) : Prop :=
  ∃ ch, s.net.getChannel sid = some ch ∧ (ch.remoteAddr, .inUse) ∈ s.states ∧
    ¬ (s.stopChannel sid).Firm ch.remoteAddr

/-- The node that the adjustment of the network takes out. -/
def leaving (leave : Nat) (s : Service) : Option PeerNode :=
  if s.getPeerNodesCountBySocketType .client < maxConnectedPeerNodesCount then none
  else if s.getAvailablePeerCandidatesCountByNodeType .normal < minNormalAvailableNodeCount then none
  else (s.getDynamicDisconnectPeerNode leave).1

/-- The three places that stop a channel and leave its candidate in use: a
login request or response whose node is not taken, and an adjustment that
finds no candidate to connect to instead. They do no harm while something
else holds the candidate. -/
def Spares (env : PeerEnv) (s : Service) : PeerEvent → Prop
  | .verReq sid m => env.checkId m.nonce = true → (∀ ch, ¬ Welcome env s sid m ch) → ¬ s.Strands sid
  | .verResp sid m => env.checkId m.nonce = true → m.verified env = true →
      s.getPeerNodesCountBySocketType .client < maxConnectedPeerNodesCount → (∀ ch, ¬ Welcome env s sid m ch) →
      ¬ s.Strands sid
  | .adjustTimer _ leave join => ∀ node, s.leaving leave = some node →
      (s.disconnect node).getDynamicConnectPeerCandidate join = none → (node.peerAddr, .inUse) ∈ s.states →
      (s.disconnect node).Firm node.peerAddr
  | _ => True

/-- `start_connector` is about to mark a candidate: the one it was told of
is still there, or one that it was told is missing still is, and there is a
place left for it. -/
def Marks (s : Service) : Bool → Endpoint → Prop
  | true, ep => s.isPeerCandidateExist ep
  | false, ep => s.isPeerCandidateExist ep = false ∧ s.candidates.length < maxPeerCandidatesCount

namespace Holding
variable {env : PeerEnv} {s t : Service}

/-- Fewer candidates in use, the same nodes, and a network that gives
nothing up. -/
theorem grows (holding : Holding s) (fewer : ∀ ep, (ep, .inUse) ∈ t.states → (ep, .inUse) ∈ s.states)
    (net : s.net.Grows t.net) (nodes : s.peerNodes ⊆ t.peerNodes) : Holding t := by
  intro ep member
  rcases holding ep (fewer ep member) with carries | ⟨n, entry, same⟩
  · exact Or.inl (net.carries ep carries)
  · exact Or.inr ⟨n, nodes entry, same⟩

theorem stopChannel (holding : Holding s) (sound : s.net.Sound) {sid : SocketId} (spared : ¬ s.Strands sid) :
    Holding (s.stopChannel sid) := by
  intro ep member
  rcases holding ep member with carries | entry
  · by_cases own : ∃ ch, s.net.getChannel sid = some ch ∧ ch.remoteAddr = ep
    · obtain ⟨ch, found, rfl⟩ := own
      by_contra stuck
      exact spared ⟨ch, found, member, stuck⟩
    · refine Or.inl (carries.stopChannel ?_ sound)
      exact fun ch found same => own ⟨ch, found, same⟩
  · exact Or.inr entry

theorem onVerReq (holding : Holding s) (sound : s.net.Sound) {sid : SocketId} {m : Login}
    (spares : Spares env s (.verReq sid m)) : Holding (s.onVerReq env sid m) := by
  rcases s.onVerReq_cases env sid m with same | ⟨checked, refused, stopped⟩ | ⟨_, ch, _, joined⟩
  · rw [same]
    exact holding
  · rw [stopped]
    exact holding.stopChannel sound (spares checked refused)
  · obtain ⟨nodeType, nodes⟩ := joined.peerNodes
    refine holding.grows ?_ (.wired joined.wired) ?_
    · rw [joined.states]
      exact fun _ member => member
    · rw [nodes]
      exact List.subset_cons_self _ _

theorem onVerResp (holding : Holding s) (listed : Listed env s) (sound : s.net.Sound) {sid : SocketId} {m : Login}
    (spares : Spares env s (.verResp sid m)) : Holding (s.onVerResp env sid m) := by
  obtain ⟨states, peerNodes, net, _⟩ := s.named_frame sid m
  have named : Holding (s.named sid m) := by
    intro ep member
    rw [states] at member
    rw [Firm, net, peerNodes]
    exact holding ep member
  rcases s.onVerResp_cases env sid m with
    same | ⟨checked, verified, ch, channel, ⟨_, full⟩ | ⟨room, refused, stopped⟩ | ⟨_, _, joined⟩⟩
  · rw [same]
    exact holding
  · -- the candidate is released before its channel is stopped
    rw [full]
    have distinct : (s.named sid m).endpoints.Nodup := by
      rw [endpoints_eq_of_states states]
      exact listed.tidy.distinct
    intro ep member
    rcases mem_updatePeerCandidateState distinct member with ⟨old, other⟩ | wrong
    · rcases named ep old with carries | entry
      · rw [net] at carries
        refine Or.inl ?_
        change Network.Carries ((s.named sid m).net.stopChannel sid) ep
        rw [net]
        refine carries.stopChannel ?_ sound
        intro ch' found same
        rw [channel] at found
        cases found
        exact other same.symm
      · exact Or.inr entry
    · cases wrong
  · rw [stopped]
    refine named.stopChannel (net ▸ sound) ?_
    rintro ⟨ch', found, member, stuck⟩
    rw [net] at found
    rw [states] at member
    refine spares checked verified room ?_ ⟨ch', found, member, ?_⟩
    · intro other welcome
      have equal := welcome.channel
      rw [channel] at equal
      cases equal
      exact refused welcome
    · intro firm
      refine stuck ?_
      change (Network.Carries ((s.named sid m).net.stopChannel sid) ch'.remoteAddr) ∨
        ∃ n ∈ (s.named sid m).peerNodes, _
      rw [net, peerNodes]
      exact firm
  · obtain ⟨nodeType, nodes⟩ := joined.peerNodes
    refine holding.grows ?_ (.wired joined.wired) ?_
    · rw [joined.states]
      exact fun _ member => member
    · rw [nodes]
      exact List.subset_cons_self _ _

/-- The notice of a connector: one that succeeded has its channel, and the
candidate of one that failed is no longer in use. -/
theorem onClientTcpConnectNotify (holding : Holding s) (listed : Listed env s) (sound : s.net.Sound)
    {sid : SocketId} {connector : Connector} (found : s.net.getConnector sid = some connector)
    (done : connector.phase ≠ .connecting) :
    Holding (s.onClientTcpConnectNotify connector) := by
  have own : connector.sid = sid := by simpa using List.find?_some found
  have present : connector ∈ s.net.connectors := List.mem_of_find?_eq_some found
  subst own
  rw [Service.onClientTcpConnectNotify]
  split
  · rename_i absent
    intro ep member
    have elsewhere : connector.connectAddr ≠ ep := by
      rintro rfl
      exact no_state_of_getPeerCandidate absent member
    rcases holding ep member with carries | entry
    · refine Or.inl ((carries.releaseConnector found (Or.inr elsewhere)).stopChannel ?_ (sound.releaseConnector _))
      intro ch opened same
      have openly : s.net.getChannel connector.sid = some ch := opened
      obtain ⟨_, _, wire⟩ := Network.getChannel_wire openly
      exact elsewhere ((sound.opened connector present _ wire rfl).symm.trans same)
    · exact Or.inr entry
  · cases phase : connector.phase with
    | connecting => exact (done phase).elim
    | connected =>
      intro ep member
      rcases holding ep member with carries | entry
      · have wired := Network.Wired.sendMessage s.net connector.sid (.verReq connector.connectAddr)
        have kept : (s.net.sendMessage connector.sid (.verReq connector.connectAddr)).getConnector connector.sid =
            some connector := by
          rw [Network.getConnector, wired.connectors]
          exact found
        exact Or.inl ((carries.wired wired).releaseConnector kept (Or.inl phase))
      · exact Or.inr entry
    | failed =>
      intro ep member
      rcases mem_updatePeerCandidateState listed.tidy.distinct member with ⟨old, other⟩ | wrong
      · rcases holding ep old with carries | entry
        · exact Or.inl (carries.releaseConnector found (Or.inr (fun same => other same.symm)))
        · exact Or.inr entry
      · cases wrong

/-- The error of a channel takes the candidate at its other end out of
use. -/
theorem onTcpChannelError (holding : Holding s) (listed : Listed env s) (placed : Placed s) {sid : SocketId}
    {ch : Channel} (found : s.net.anyChannel sid = some ch) : Holding (s.onTcpChannelError sid ch.remoteAddr) := by
  have quiet := Quiet.failCandidate ch.remoteAddr s
  have wire := Network.anyChannel_wire found
  intro ep member
  have old : (ep, .inUse) ∈ s.states := quiet.inUse ep member
  have other : ch.remoteAddr ≠ ep := by
    rintro rfl
    exact failCandidate_not_inUse listed.tidy.distinct member
  rcases holding ep old with carries | ⟨n, entry, same⟩
  · refine Or.inl ?_
    change Network.Carries ((s.failCandidate ch.remoteAddr).net.stopChannel sid) ep
    rw [quiet.net]
    refine carries.stopChannel ?_ placed.sound
    intro ch' opened equal
    obtain ⟨_, _, wire'⟩ := Network.getChannel_wire opened
    exact other ((placed.sound.same_peer wire wire').trans equal)
  · refine Or.inr ⟨n, ?_, same⟩
    change n ∈ (s.failCandidate ch.remoteAddr).peerNodes.eraseP (·.sid = sid)
    rw [quiet.peerNodes]
    refine (List.mem_eraseP_of_neg ?_).mpr entry
    simp only [decide_eq_true_eq]
    intro onIt
    have wire' := placed.wired n entry
    rw [onIt] at wire'
    exact other ((placed.sound.same_peer wire wire').trans same)

/-- A candidate may be marked as in use while something holds its
endpoint. -/
theorem markInUse (holding : Holding s) {exist : Bool} {ep : Endpoint} (firm : s.Marks exist ep → s.Firm ep) :
    Holding (s.markInUse exist ep) := by
  cases exist with
  | true =>
    intro other member
    obtain ⟨c, present, equal⟩ := List.mem_map.mp member
    rcases mem_amend present with old | ⟨d, known, same, rfl⟩
    · exact holding other (List.mem_map.mpr ⟨c, old, equal⟩)
    · rw [← (Prod.mk.inj equal).1]
      have there : s.isPeerCandidateExist ep := List.any_eq_true.mpr ⟨d, known, by simpa using same⟩
      exact same ▸ firm there
  | false =>
    change Holding (s.addPeerCandidate ep .inUse .normal [])
    rw [Service.addPeerCandidate]
    split
    · exact holding
    rename_i room
    split
    · exact holding
    rename_i absent
    intro other member
    rw [states, List.map_append] at member
    rcases List.mem_append.mp member with old | new
    · exact holding other old
    · cases List.mem_singleton.mp new
      have missing : s.isPeerCandidateExist ep = false := List.any_eq_false.mpr (List.find?_eq_none.mp absent)
      exact firm ⟨missing, Nat.lt_of_not_le room⟩

theorem startConnectorStep (holding : Holding s) (connects : Endpoint → Bool) (ep : Endpoint) :
    Holding (startConnectorStep env connects s ep) := by
  rw [Service.startConnectorStep]
  split
  · exact holding
  have tried : Holding { s with net := (s.net.startConnect ep (connects ep)).2 } :=
    holding.grows (fun _ member => member) (.startConnect s.net ep (connects ep)) (fun _ entry => entry)
  simp only
  split
  · rename_i started
    exact tried.markInUse (fun _ => Or.inl (Network.Carries.started started))
  · exact tried

/-- The candidates that come from the database are idle. -/
theorem loadPeerCandidatesFromDb (s : Service) : Holding (s.loadPeerCandidatesFromDb env) := by
  intro ep member
  obtain ⟨c, present, equal⟩ := List.mem_map.mp member
  obtain ⟨entry, _, read⟩ := List.mem_filterMap.mp present
  obtain ⟨address, _, rfl⟩ := Option.map_eq_some_iff.mp read
  cases (Prod.mk.inj equal).2

theorem init (connects : Endpoint → Bool) (clock : Int) (db : OrdMap Bytes DbCandidate) :
    Holding (Service.init env connects clock db) := by
  rw [Service.init, startConnector]
  have loaded : Holding ((fresh env clock db).loadPeerCandidatesFromDb env) := loadPeerCandidatesFromDb _
  generalize (fresh env clock db).loadPeerCandidatesFromDb env = start at loaded
  generalize env.peers = peers
  induction peers generalizing start with
  | nil => exact loaded
  | cons ep rest ih => exact ih _ (loaded.startConnectorStep connects ep)

theorem onTimerCheckPeerCandidates (holding : Holding s) (connects : Endpoint → Bool)
    (resolve : Bytes → List Endpoint) : Holding (s.onTimerCheckPeerCandidates env connects resolve) := by
  have quiet := Quiet.replenish env resolve s
  have full : Holding (s.replenish env resolve) := by
    refine holding.grows quiet.inUse ?_ ?_
    · rw [quiet.net]
      exact .refl _
    · rw [quiet.peerNodes]
      exact fun _ entry => entry
  have loop := connectLoop_connects env (s.replenish env resolve).peerNodes connects
    (s.replenish env resolve).clock 0 (s.replenish env resolve).net (s.replenish env resolve).candidates
  intro ep member
  obtain ⟨c, present, equal⟩ := List.mem_map.mp member
  obtain ⟨rfl, state⟩ := Prod.mk.inj equal
  rcases loop.inUse c present state with before | carries
  · rcases full c.tcpEp before with carries | entry
    · exact Or.inl (loop.grows.carries _ carries)
    · exact Or.inr entry
  · exact Or.inl carries

/-- The disconnected node is the one entry that its endpoint may lose, and
its channel the one channel. -/
theorem disconnect (holding : Holding s) (placed : Placed s) {node : PeerNode} (member : node ∈ s.peerNodes)
    {ep : Endpoint} (used : (ep, .inUse) ∈ s.states) (other : node.peerAddr ≠ ep) :
    (s.disconnect node).Firm ep := by
  have wire := placed.wired node member
  rcases holding ep used with carries | ⟨n, entry, same⟩
  · refine Or.inl (carries.stopChannel ?_ placed.sound)
    intro ch found equal
    obtain ⟨_, _, wire'⟩ := Network.getChannel_wire found
    exact other ((placed.sound.same_peer wire wire').trans equal)
  · refine Or.inr ⟨n, ?_, same⟩
    change n ∈ s.peerNodes.eraseP (·.id = node.id)
    refine (List.mem_eraseP_of_neg ?_).mpr entry
    simp only [decide_eq_true_eq]
    intro twin
    have equal : n = node := List.inj_on_of_nodup_map placed.ids entry member twin
    rw [equal] at same
    exact other same

end Holding

theorem mem_getDynamicDisconnectPeerNode {leave : Nat} {s : Service} {node : PeerNode}
    (chosen : (s.getDynamicDisconnectPeerNode leave).1 = some node) : node ∈ s.peerNodes := by
  rw [getDynamicDisconnectPeerNode] at chosen
  split at chosen
  · rename_i seed found
    cases chosen
    exact List.mem_of_find?_eq_some found
  simp only at chosen
  split at chosen
  · cases chosen
  split at chosen
  · cases chosen
  · exact (List.mem_filter.mp (List.mem_of_getElem? chosen)).1

/-- An address whose text reads back as a version 4 one is that address. -/
theorem fromTextV4_toText {env : PeerEnv} {address other : Address}
    (read : env.fromTextV4 (env.toText address) = some other) : other = address := by
  rw [PeerEnv.fromTextV4, env.fromText_toText] at read
  cases address with
  | v4 a b c d =>
    cases read
    rfl
  | v6 bits => cases read

namespace Holding
variable {env : PeerEnv} {s t : Service}

/-- A candidate that takes the place of a node: the candidate of that node
is released, and the new one is being connected. -/
theorem replaceNode {connects : Endpoint → Bool} {draw : Nat} {node : PeerNode} (distinct : s.endpoints.Nodup)
    (others : ∀ ep, (ep, .inUse) ∈ s.states → node.peerAddr ≠ ep → s.Firm ep)
    (nobody : s.getDynamicConnectPeerCandidate draw = none → (node.peerAddr, .inUse) ∈ s.states →
      s.Firm node.peerAddr)
    (ran : s.replaceNode env connects draw node = some t) : Holding t := by
  rw [Service.replaceNode] at ran
  split at ran
  · rename_i none
    cases ran
    intro ep used
    by_cases own : node.peerAddr = ep
    · subst own
      exact nobody none used
    · exact others ep used own
  split at ran
  · cases ran
  rename_i connect _ _ address read
  cases ran
  obtain rfl := fromTextV4_toText read
  have available : ∀ c : Candidate, ({ c with netSt := .available } : Candidate).netSt ≠ .inUse := by
    intro c
    simp
  have quiet := Quiet.moveToTail available node.peerAddr s
  have gone := moveToTail_not_inUse node.peerAddr distinct available
  have same := moveToTail_endpoints (f := fun c => { c with netSt := .available }) (fun _ => rfl) node.peerAddr s
  change Holding (updatePeerCandidateState connect.tcpEp _ { s.moveToTail node.peerAddr _ with net := _ })
  generalize s.moveToTail node.peerAddr (fun c => { c with netSt := .available }) = moved at quiet gone same
  have held : Holding moved := by
    intro ep used
    rw [Firm, quiet.net, quiet.peerNodes]
    refine others ep (quiet.inUse ep used) ?_
    rintro rfl
    exact gone used
  obtain ⟨grows, carried⟩ := startConnect_grows env moved.peerNodes connect.tcpEp (connects connect.tcpEp) moved.net
  intro ep used
  have unique : moved.endpoints.Nodup := same.nodup_iff.mpr distinct
  rcases mem_updatePeerCandidateState unique used with ⟨old, _⟩ | new
  · rcases held ep old with carries | entry
    · exact Or.inl (grows.carries ep carries)
    · exact Or.inr entry
  · obtain ⟨rfl, state⟩ := Prod.mk.inj new
    split at state
    · rename_i started
      exact Or.inl (carried started)
    · cases state

theorem onTimerDynamicAdjustNetwork {connects : Endpoint → Bool} {leave join : Nat} (holding : Holding s)
    (listed : Listed env s) (placed : Placed s) (spares : Spares env s (.adjustTimer connects leave join))
    (ran : s.onTimerDynamicAdjustNetwork env connects leave join = some t) : Holding t := by
  rw [Service.onTimerDynamicAdjustNetwork] at ran
  simp only at ran
  split at ran
  · cases ran
    have loop := connectAvailable_connects env s.peerNodes connects
      (maxConnectedPeerNodesCount - s.getPeerNodesCountBySocketType .client) s.net s.candidates
    intro ep member
    obtain ⟨c, present, equal⟩ := List.mem_map.mp member
    obtain ⟨rfl, state⟩ := Prod.mk.inj equal
    rcases loop.inUse c present state with before | carries
    · rcases holding c.tcpEp before with carries | entry
      · exact Or.inl (loop.grows.carries _ carries)
      · exact Or.inr entry
    · exact Or.inl carries
  rename_i enough
  split at ran
  · cases ran
    exact holding
  rename_i available
  split at ran
  · cases ran
    exact holding
  rename_i node chosen
  have member := mem_getDynamicDisconnectPeerNode chosen
  have left : s.leaving leave = some node := by
    rw [leaving, if_neg enough, if_neg available, chosen]
  refine replaceNode ?_ ?_ ?_ ran
  · exact listed.tidy.distinct
  · intro ep used other
    exact holding.disconnect placed member used other
  · exact spares node left

/-- One step: only the spared places matter. -/
theorem step {event : PeerEvent} (holding : Holding s) (listed : Listed env s) (placed : Placed s)
    (spares : Spares env s event) (ran : s.step env event = some t) : Holding t := by
  cases event with
  | clock now =>
    cases ran
    exact holding
  | rehash order =>
    rw [Service.step] at ran
    split at ran
    · rename_i same
      cases ran
      exact holding.grows (fun _ member => member) (.refl _) same.symm.subset
    · cases ran
  | restart connects =>
    cases ran
    exact init connects s.clock s.db
  | accept remoteAddr localAddr =>
    cases ran
    refine holding.grows (fun _ member => member) ⟨.onAccept s.net remoteAddr localAddr, ?_⟩ (fun _ entry => entry)
    exact fun _ carries => carries.onAccept remoteAddr localAddr
  | connect sid localAddr =>
    obtain ⟨net, opened, rfl⟩ := Option.map_eq_some_iff.mp ran
    refine holding.grows (fun _ member => member) ⟨.onConnect opened, ?_⟩ (fun _ entry => entry)
    exact fun _ carries => carries.onConnect placed.sound opened
  | connectFail sid =>
    obtain ⟨net, failed, rfl⟩ := Option.map_eq_some_iff.mp ran
    refine holding.grows (fun _ member => member) ⟨.onConnectFail failed, ?_⟩ (fun _ entry => entry)
    exact fun _ carries => carries.onConnectFail failed
  | connectNotify sid =>
    rw [Service.step] at ran
    split at ran
    · cases ran
    rename_i connector found
    split at ran
    · cases ran
    rename_i done
    cases ran
    exact holding.onClientTcpConnectNotify listed placed.sound found done
  | channelError sid =>
    obtain ⟨ch, found, rfl⟩ := Option.map_eq_some_iff.mp ran
    exact holding.onTcpChannelError listed placed found
  | verReq sid m =>
    cases ran
    exact holding.onVerReq placed.sound spares
  | verResp sid m =>
    cases ran
    exact holding.onVerResp listed placed.sound spares
  | broadcast nonce peerNodesList =>
    have quiet := Quiet.onBroadcastPeerNodes ran
    refine holding.grows quiet.inUse ?_ ?_
    · rw [quiet.net]
      exact .refl _
    · rw [quiet.peerNodes]
      exact fun _ entry => entry
  | checkTimer connects resolve =>
    cases ran
    exact holding.onTimerCheckPeerCandidates connects resolve
  | adjustTimer connects leave join => exact holding.onTimerDynamicAdjustNetwork listed placed spares ran
  | exchangeTimer =>
    cases ran
    refine holding.grows ?_ ?_ (fun _ entry => entry)
    · exact fun _ member => ((s.broadcastPeerNodes_perm env).map _).subset member
    · change s.net.Grows (if _ then s.net else s.net.broadcastMessage _)
      split
      · exact .refl _
      · exact .wired ⟨rfl, rfl, rfl, rfl⟩
  | dumpTimer written =>
    cases ran
    rw [savePeerCandidates]
    split
    · exact holding
    · split <;> exact holding

end Holding

end Service

namespace Startup

/-- The places where a candidate may come to be in use for nothing: the
three of the service, and the marking in `start_connector`, which does not
look whether the connect that it started has ended meanwhile. -/
def Spares (env : PeerEnv) (u : Startup) : StartupEvent → Prop
  | .restart => True
  | .main _ => ∀ exist ep peers, u.stage = .asked exist ep peers → u.service.Marks exist ep → u.service.Firm ep
  | .service event => u.service.Spares env event

/-- Marking a candidate leaves the network and the table as they are. -/
theorem markInUse_frame (s : Service) (exist : Bool) (ep : Endpoint) :
    (s.markInUse exist ep).net = s.net ∧ (s.markInUse exist ep).peerNodes = s.peerNodes := by
  cases exist with
  | true => exact ⟨rfl, rfl⟩
  | false =>
    have added : s.markInUse false ep = s.addPeerCandidate ep .inUse .normal [] := rfl
    rw [added, Service.addPeerCandidate]
    split
    · exact ⟨rfl, rfl⟩
    · split <;> exact ⟨rfl, rfl⟩

/-- What holds of the service at any point of `init` and after it. -/
structure Sound (env : PeerEnv) (u : Startup) : Prop where
  listed : Listed env u.service
  placed : u.service.Placed
  holding : u.service.Holding

namespace Sound
variable {env : PeerEnv} {u v : Startup}

theorem fresh (clock : Int) {db : OrdMap Bytes DbCandidate} (saved : Saved env db) :
    Sound env ⟨Service.fresh env clock db, .loading⟩ where
  listed := ⟨⟨List.nodup_nil, Nat.zero_le _⟩, saved⟩
  placed := ⟨.empty, List.nodup_nil, fun _ member => (List.not_mem_nil member).elim⟩
  holding _ member := (List.not_mem_nil member).elim

theorem first : Sound env (first env) := fresh 0 Saved.empty

theorem advance {connects : Endpoint → Bool} (sound : Sound env u) (spares : Spares env u (.main connects))
    (ran : u.advance env connects = some v) : Sound env v := by
  obtain ⟨listed, placed, holding⟩ := sound
  rw [Startup.advance] at ran
  split at ran
  · cases ran
    refine ⟨⟨listed.saved.tidy, listed.saved.filter _⟩, ⟨placed.sound, placed.ids, placed.wired⟩, ?_⟩
    exact .loadPeerCandidatesFromDb u.service
  · cases ran
  · cases ran
    exact ⟨listed, placed, holding⟩
  · rename_i ep peers _
    cases ran
    refine ⟨⟨listed.tidy, listed.saved⟩, ?_, ?_⟩
    · exact placed.evolves (.startConnect u.service.net ep (connects ep))
    · exact holding.grows (fun _ member => member) (.startConnect u.service.net ep (connects ep))
        (fun _ entry => entry)
  · cases ran
    exact ⟨listed, placed, holding⟩
  · rename_i exist ep peers stage
    cases ran
    obtain ⟨net, peerNodes⟩ := markInUse_frame u.service exist ep
    refine ⟨listed.markInUse exist ep, ?_, holding.markInUse (spares exist ep peers stage)⟩
    exact ⟨net ▸ placed.sound, peerNodes ▸ placed.ids, by rw [net, peerNodes]; exact placed.wired⟩

theorem step {event : StartupEvent} (sound : Sound env u) (spares : Spares env u event)
    (ran : u.step env event = some v) : Sound env v := by
  cases event with
  | restart =>
    cases ran
    exact fresh u.service.clock sound.listed.saved
  | main connects => exact sound.advance spares ran
  | service event =>
    rw [Startup.step] at ran
    split at ran
    · cases ran
    obtain ⟨s, handled, rfl⟩ := Option.map_eq_some_iff.mp ran
    exact ⟨sound.listed.step handled, sound.placed.step handled,
      sound.holding.step sound.listed sound.placed spares handled⟩

end Sound

/-- At any point of `init` and after it: as long as no channel is stopped in
one of the three places while it is all that holds its candidate, and
`start_connector` marks no candidate that nothing holds any more, every
candidate in use has a connector, a channel or an entry of the table. -/
theorem candidates_not_stuck (env : PeerEnv) {trace : List StartupEvent} {u : Startup}
    (run : Run (step env) (Spares env) (first env) trace u) :
    ∀ c ∈ u.service.candidates, c.netSt = .inUse → u.service.Linked c.tcpEp := by
  have sound : Sound env u := run.invariant .first (fun sound spares ran => sound.step spares ran)
  intro c member used
  exact (sound.holding c.tcpEp (List.mem_map.mpr ⟨c, member, by rw [used]⟩)).linked

/-- A node with one peer in its configuration. -/
def befriended : PeerEnv := { PeerEnv.lone with peers := [⟨.v4 9 9 9 9, 10001⟩] }

/-- A test for steps that are spared: the node does no more than connect,
and marks a peer whose channel is open. -/
def connectsOnly (u : Startup) : StartupEvent → Bool
  | .main _ =>
    match u.stage with
    | .asked _ ep _ => u.service.net.channels.any (·.remoteAddr = ep)
    | _ => true
  | .service (.connect _ _) => true
  | .service (.connectNotify _) => true
  | _ => false

theorem spares_of_connectsOnly {env : PeerEnv} (u : Startup) (event : StartupEvent) (test : u.connectsOnly event) :
    Spares env u event := by
  cases event with
  | restart => trivial
  | main connects =>
    intro exist ep peers stage _
    rw [connectsOnly, stage] at test
    obtain ⟨ch, opened, same⟩ := List.any_eq_true.mp test
    exact Or.inl (Or.inr ⟨ch, opened, by simpa using same⟩)
  | service event =>
    cases event with
    | connect | connectNotify => trivial
    | _ => cases test

/-- The connect to the configured peer succeeds before its candidate is
marked, and the service hears of it afterwards. -/
theorem candidates_not_stuck_configured :
    ∃ trace u c, Run (step befriended) (Spares befriended) (first befriended) trace u ∧ c ∈ u.service.candidates ∧
      c.netSt = .inUse ∧ u.service.Linked c.tcpEp := by
  have run : Run (step befriended) (Spares befriended) (first befriended) _ _ :=
    Run.of_guarded spares_of_connectsOnly
      [.main (fun _ => true), .main (fun _ => true), .main (fun _ => true),
        .service (.connect ⟨.client, 1⟩ ⟨.v4 7 7 7 7, 40000⟩), .main (fun _ => true), .main (fun _ => true),
        .service (.connectNotify ⟨.client, 1⟩)]
      .start rfl
  have member : (⟨⟨.v4 9 9 9 9, 10001⟩, .normal, [], .inUse, 0, 0, 0⟩ : Candidate) ∈ _ := List.mem_singleton.mpr rfl
  exact ⟨_, _, _, run, member, rfl, candidates_not_stuck befriended run _ member rfl⟩

/-- The seed has connected to this node before this node connects to it, so
its login response is refused. The channel is stopped, and the candidate
stays in use with nothing behind it. -/
theorem refused_candidate_stuck :
    ∃ trace u c, Reaches (step PeerEnv.lone) (first PeerEnv.lone) trace u ∧ c ∈ u.service.candidates ∧
      c.netSt = .inUse ∧ ¬ u.service.Linked c.tcpEp := by
  have run : Reaches (step PeerEnv.lone) (first PeerEnv.lone) _ _ := Reaches.of_runAll
    [.main (fun _ => true), .service (.accept ⟨.v4 8 8 8 8, 50000⟩ ⟨.v4 7 7 7 7, 10001⟩),
      .service (.verReq ⟨.server, 1⟩ (.signed [5] [2])), .service (.checkTimer (fun _ => true) (fun _ => [])),
      .service (.connect ⟨.client, 2⟩ ⟨.v4 7 7 7 7, 40000⟩), .service (.connectNotify ⟨.client, 2⟩),
      .service (.verResp ⟨.client, 2⟩ (.signed [6] [2]))]
    .start rfl
  refine ⟨_, _, ⟨⟨.v4 8 8 8 8, 10001⟩, .seed, [2], .inUse, 1, 0, 0⟩, run, by decide, rfl, ?_⟩
  simp only [Service.Linked]
  decide

/-- A connect to a configured peer fails, and the service hears of it,
before the main thread marks the candidate: the notice finds no candidate to
release, and the one that is added afterwards is in use for nothing. -/
theorem configured_candidate_stuck :
    ∃ trace u c, Reaches (step befriended) (first befriended) trace u ∧ c ∈ u.service.candidates ∧
      c.netSt = .inUse ∧ ¬ u.service.Linked c.tcpEp := by
  have run : Reaches (step befriended) (first befriended) _ _ := Reaches.of_runAll
    [.main (fun _ => true), .main (fun _ => true), .main (fun _ => true), .service (.connectFail ⟨.client, 1⟩),
      .service (.connectNotify ⟨.client, 1⟩), .main (fun _ => true), .main (fun _ => true)]
    .start rfl
  refine ⟨_, _, ⟨⟨.v4 9 9 9 9, 10001⟩, .normal, [], .inUse, 0, 0, 0⟩, run, by decide, rfl, ?_⟩
  simp only [Service.Linked]
  decide

end Startup

end DbcNode
