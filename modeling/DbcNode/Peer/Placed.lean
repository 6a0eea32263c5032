import DbcNode.Peer.InUse
import DbcNode.Peer.Table

namespace DbcNode

namespace Service

/-- The table and the channels: the nodes have distinct ids, and the channel
of a node, open or not, leads to the address that the table has for it. -/
structure Placed (s : Service) : Prop where
  sound : s.net.Sound
  ids : (s.peerNodes.map (·.id)).Nodup
  wired : ∀ n ∈ s.peerNodes, (n.sid, n.peerAddr) ∈ s.net.wires

theorem onClientTcpConnectNotify_evolves (connector : Connector) (s : Service) :
    s.net.Evolves (s.onClientTcpConnectNotify connector).net := by
  rw [onClientTcpConnectNotify]
  split
  · exact (Network.Evolves.releaseConnector s.net _).trans (.stopChannel _ _)
  · cases connector.phase with
    | connected => exact (Network.Evolves.wired (.sendMessage s.net _ _)).trans (.releaseConnector _ _)
    | connecting => exact .releaseConnector s.net _
    | failed => exact .releaseConnector s.net _

theorem replaceNode_evolves {env : PeerEnv} {connects : Endpoint → Bool} {draw : Nat} {node : PeerNode}
    {s t : Service} (ran : s.replaceNode env connects draw node = some t) : s.net.Evolves t.net := by
  rw [replaceNode] at ran
  split at ran
  · cases ran
    exact .refl _
  split at ran
  · cases ran
  rename_i connect _ _ address _
  simp only at ran
  cases ran
  have moved := (Quiet.moveToTail (f := fun c => { c with netSt := .available }) (by intro; simp)
    ⟨address, node.peerAddr.port⟩ s).net
  change s.net.Evolves (startConnect env _ _ _ _).2
  rw [moved]
  exact (startConnect_grows env _ _ _ s.net).1.toEvolves

theorem onTimerDynamicAdjustNetwork_evolves {env : PeerEnv} {connects : Endpoint → Bool} {leave join : Nat}
    {s t : Service} (ran : s.onTimerDynamicAdjustNetwork env connects leave join = some t) :
    s.net.Evolves t.net := by
  rw [onTimerDynamicAdjustNetwork] at ran
  simp only at ran
  split at ran
  · cases ran
    exact (connectAvailable_connects env s.peerNodes connects _ s.net s.candidates).grows.toEvolves
  split at ran
  · cases ran
    exact .refl _
  split at ran
  · cases ran
    exact .refl _
  · exact (Network.Evolves.stopChannel s.net _).trans (replaceNode_evolves ran)

theorem onVerReq_evolves (env : PeerEnv) (sid : SocketId) (m : Login) (s : Service) :
    s.net.Evolves (s.onVerReq env sid m).net := by
  rcases s.onVerReq_cases env sid m with same | ⟨_, _, stopped⟩ | ⟨_, ch, _, joined⟩
  · rw [same]
    exact .refl _
  · rw [stopped]
    exact .stopChannel s.net sid
  · exact .wired joined.wired

theorem onVerResp_evolves (env : PeerEnv) (sid : SocketId) (m : Login) (s : Service) :
    s.net.Evolves (s.onVerResp env sid m).net := by
  obtain ⟨_, _, net, _⟩ := s.named_frame sid m
  have stops : s.net.Evolves ((s.named sid m).net.stopChannel sid) := by
    rw [net]
    exact .stopChannel s.net sid
  rcases s.onVerResp_cases env sid m with
    same | ⟨_, _, ch, _, ⟨_, full⟩ | ⟨_, _, stopped⟩ | ⟨_, _, joined⟩⟩
  · rw [same]
    exact .refl _
  · rw [full]
    exact stops
  · rw [stopped]
    exact stops
  · exact .wired joined.wired

/-- The check timer only connects. -/
theorem onTimerCheckPeerCandidates_evolves (env : PeerEnv) (connects : Endpoint → Bool)
    (resolve : Bytes → List Endpoint) (s : Service) :
    s.net.Evolves (s.onTimerCheckPeerCandidates env connects resolve).net := by
  have quiet := (Quiet.replenish env resolve s).net
  have grows :=
    (connectLoop_connects env (s.replenish env resolve).peerNodes connects (s.replenish env resolve).clock 0
      (s.replenish env resolve).net (s.replenish env resolve).candidates).grows.toEvolves
  rw [quiet] at grows
  change s.net.Evolves (connectLoop env _ connects _ 0 (s.replenish env resolve).net _).1
  rw [quiet]
  exact grows

theorem step_evolves {env : PeerEnv} {s t : Service} {event : PeerEvent} (ran : s.step env event = some t)
    (going : ∀ connects, event ≠ .restart connects) : s.net.Evolves t.net := by
  cases event with
  | clock now =>
    cases ran
    exact .refl _
  | rehash order =>
    rw [step] at ran
    split at ran
    · cases ran
      exact .refl _
    · cases ran
  | restart connects => exact (going connects rfl).elim
  | accept remoteAddr localAddr =>
    cases ran
    exact .onAccept s.net remoteAddr localAddr
  | connect sid localAddr =>
    obtain ⟨net, opened, rfl⟩ := Option.map_eq_some_iff.mp ran
    exact .onConnect opened
  | connectFail sid =>
    obtain ⟨net, failed, rfl⟩ := Option.map_eq_some_iff.mp ran
    exact .onConnectFail failed
  | connectNotify sid =>
    rw [step] at ran
    split at ran
    · cases ran
    split at ran
    · cases ran
    cases ran
    exact onClientTcpConnectNotify_evolves _ s
  | channelError sid =>
    obtain ⟨ch, _, rfl⟩ := Option.map_eq_some_iff.mp ran
    have quiet := (Quiet.failCandidate ch.remoteAddr s).net
    change s.net.Evolves ((s.failCandidate ch.remoteAddr).net.stopChannel sid)
    rw [quiet]
    exact .stopChannel s.net sid
  | verReq sid m =>
    cases ran
    exact onVerReq_evolves env sid m s
  | verResp sid m =>
    cases ran
    exact onVerResp_evolves env sid m s
  | broadcast nonce peerNodesList =>
    rw [(Quiet.onBroadcastPeerNodes ran).net]
    exact .refl _
  | checkTimer connects resolve =>
    cases ran
    exact onTimerCheckPeerCandidates_evolves env connects resolve s
  | adjustTimer connects leave join => exact onTimerDynamicAdjustNetwork_evolves ran
  | exchangeTimer =>
    cases ran
    change s.net.Evolves (if _ then s.net else s.net.broadcastMessage _)
    split
    · exact .refl _
    · exact .wired ⟨rfl, rfl, rfl, rfl⟩
  | dumpTimer written =>
    cases ran
    rw [savePeerCandidates]
    split
    · exact .refl _
    · split <;> exact .refl _

theorem startConnectorStep_sound {env : PeerEnv} {connects : Endpoint → Bool} {s : Service} (sound : s.net.Sound)
    (ep : Endpoint) : (startConnectorStep env connects s ep).net.Sound := by
  rw [startConnectorStep]
  split
  · exact sound
  have tried := sound.startConnect ep (connects ep)
  simp only
  split
  · split
    · exact tried
    · rw [addPeerCandidate]
      split
      · exact tried
      · split <;> exact tried
  · exact tried

theorem startConnector_sound {env : PeerEnv} {connects : Endpoint → Bool} {s : Service} (sound : s.net.Sound) :
    (s.startConnector env connects).net.Sound := by
  rw [startConnector]
  generalize env.peers = peers
  induction peers generalizing s with
  | nil => exact sound
  | cons ep rest ih => exact ih (startConnectorStep_sound sound ep)

namespace Placed
variable {env : PeerEnv} {s t : Service}

theorem first : Placed (first env) :=
  ⟨.empty, List.nodup_nil, fun _ member => (List.not_mem_nil member).elim⟩

/-- A change of the network that loses no channel, and nothing else. -/
theorem evolves (placed : Placed s) {net : Network} (evolves : s.net.Evolves net) : Placed { s with net := net } :=
  ⟨evolves.sound placed.sound, placed.ids, fun n member => evolves.wires (placed.wired n member)⟩

theorem init (connects : Endpoint → Bool) (clock : Int) (db : OrdMap Bytes DbCandidate) :
    Placed (Service.init env connects clock db) := by
  have nodes : (Service.init env connects clock db).peerNodes = [] := startConnector_peerNodes env connects _
  refine ⟨startConnector_sound Network.Sound.empty, ?_, ?_⟩
  · rw [nodes]
    exact List.nodup_nil
  · rw [nodes]
    exact fun _ member => (List.not_mem_nil member).elim

theorem step {event : PeerEvent} (placed : Placed s) (ran : s.step env event = some t) : Placed t := by
  by_cases restart : ∃ connects, event = .restart connects
  · obtain ⟨connects, rfl⟩ := restart
    cases ran
    exact init connects s.clock s.db
  have evolves := step_evolves ran (fun connects equal => restart ⟨connects, equal⟩)
  rcases step_peerNodes ran with ⟨kept, same, part⟩ | ⟨sid, m, ch, nodeType, enters, nodes⟩
  · refine ⟨evolves.sound placed.sound, ?_, ?_⟩
    · exact (same.map _).nodup_iff.mpr (placed.ids.sublist (part.map _))
    · intro n member
      exact evolves.wires (placed.wired n (part.subset (same.subset member)))
  · obtain ⟨_, _, wire⟩ := Network.getChannel_wire enters.welcome.channel
    refine ⟨evolves.sound placed.sound, ?_, ?_⟩
    · rw [nodes, List.map_cons, List.nodup_cons]
      refine ⟨?_, placed.ids⟩
      intro member
      obtain ⟨n, old, equal⟩ := List.mem_map.mp member
      exact enters.welcome.unknown n old equal
    · rw [nodes]
      intro n member
      rcases List.mem_cons.mp member with rfl | old
      · exact evolves.wires wire
      · exact evolves.wires (placed.wired n old)

end Placed

end Service

end DbcNode
