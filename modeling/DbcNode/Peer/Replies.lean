import DbcNode.Channel.Handler
import DbcNode.Peer.Handlers
import DbcNode.Peer.Steps

namespace DbcNode

/-- What the peer service reads of a login message. -/
def Content.login (content : Content) : Option Login :=
  content.nodeId.map (fun nodeId => ⟨content.header.nonce.getD [], content.header.exten "sign",
    content.header.exten "capacity", nodeId⟩)

/-- The login message that each side of a channel waits for. -/
def SocketType.loginName : SocketType → Bytes
  | .client => verRespName
  | .server => verReqName

/-- A node: its peer service, the channels with their handlers, the messages
on their way from the handlers to the service, and the login messages that
have passed `verify_sign`. -/
structure Hub (B : Bloom) where
  service : Service
  sessions : SocketId → Session B
  queue : List (SocketId × Message)
  verified : List (SocketId × Message)

/-- The network thread reads or sends on a channel, the peer service takes
the next message off its queue, or something else happens to it. -/
inductive HubEvent
  | line (sid : SocketId) (event : LineEvent)
  | serve
  | peer (event : PeerEvent)

namespace Service

/-- Whether the handler of a login message calls `verify_sign`, and the call
succeeds. -/
def verifies (env : PeerEnv) (name : LoginName) (sid : SocketId) (m : Login) (s : Service) : Bool :=
  env.checkId m.nonce ∧ (name = .verReq → (s.addPeerNode env .verReq sid m).isSome = true) ∧ m.verified env

end Service

namespace Hub
variable {B : Bloom}

def start (env : PeerEnv) : Hub B := ⟨Service.first env, fun sid => Session.start sid.type, [], []⟩

/-- The session of a channel after an event: what its handler has published
goes to the queue, and the channel is ready when the handler has logged
in. -/
def setSession (sid : SocketId) (t : Session B) (hub : Hub B) : Hub B :=
  { hub with
    service := { hub.service with net := hub.service.net.updateChannel sid (fun ch =>
      { ch with loginSuccess := t.line.handler.loginSuccess, recvVerReq := t.line.handler.recvVerReq }) }
    sessions := fun other => if other = sid then t else hub.sessions other
    queue := hub.queue ++
      (t.line.handler.published.drop (hub.sessions sid).line.handler.published.length).map (fun msg => (sid, msg)) }

/-- A login message reaches the peer service. Other messages are not for it,
or are among its other events. -/
def serve (env : PeerEnv) (sid : SocketId) (msg : Message) (hub : Hub B) : Hub B :=
  match msg.content.login with
  | none => hub
  | some m =>
    if msg.name = verReqName then { hub with
      service := hub.service.onVerReq env sid m
      verified := if hub.service.verifies env .verReq sid m then hub.verified ++ [(sid, msg)] else hub.verified }
    else if msg.name = verRespName then { hub with
      service := hub.service.onVerResp env sid m
      verified := if hub.service.verifies env .verResp sid m then hub.verified ++ [(sid, msg)] else hub.verified }
    else hub

/-- Only a response that the service wrote to a channel is sent on it. -/
def Sendable (sid : SocketId) (hub : Hub B) : LineEvent → Prop
  | .outside (.sent msgName) => msgName = verRespName → (sid, .verResp) ∈ hub.service.net.written
  | _ => True

instance (sid : SocketId) (hub : Hub B) : (event : LineEvent) → Decidable (hub.Sendable sid event)
  | .outside (.sent msgName) =>
    inferInstanceAs (Decidable (msgName = verRespName → (sid, Outgoing.verResp) ∈ hub.service.net.written))
  | .outside (.written _) => .isTrue trivial
  | .outside (.identified _) => .isTrue trivial
  | .outside .shakeHandTimer => .isTrue trivial
  | .read _ => .isTrue trivial

/-- A restart leaves nothing but the database of the service. -/
def step (env : PeerEnv) (conf : NodeConf) (hub : Hub B) : HubEvent → Option (Hub B)
  | .line sid event => do
    guard ((hub.service.net.getChannel sid).isSome ∧ hub.Sendable sid event)
    return hub.setSession sid (← (hub.sessions sid).step conf event)
  | .serve =>
    match hub.queue with
    | [] => none
    | (sid, msg) :: rest => some ({ hub with queue := rest }.serve env sid msg)
  | .peer (.verReq _ _) => none
  | .peer (.verResp _ _) => none
  | .peer (.restart connects) => (hub.service.step env (.restart connects)).map (fun service =>
      { (start env : Hub B) with service := service })
  | .peer event => (hub.service.step env event).map (fun service => { hub with service := service })

end Hub

namespace Network

/-- A change of the network that writes no login response. -/
structure Mute (old new : Network) : Prop where
  written : ∀ sid, (sid, .verResp) ∈ new.written → (sid, .verResp) ∈ old.written

namespace Mute

theorem refl (net : Network) : Mute net net := ⟨fun _ member => member⟩

theorem trans {a b c : Network} (first : Mute a b) (second : Mute b c) : Mute a c :=
  ⟨fun sid member => first.written sid (second.written sid member)⟩

theorem of_eq {a b : Network} (same : b.written = a.written) : Mute a b := ⟨fun _ member => same ▸ member⟩

theorem sendMessage (net : Network) (sid : SocketId) {msg : Outgoing} (other : msg ≠ .verResp) :
    Mute net (net.sendMessage sid msg) := by
  rw [Network.sendMessage]
  split
  · exact refl net
  · refine ⟨fun target member => ?_⟩
    rcases List.mem_append.mp member with old | new
    · exact old
    · cases List.mem_singleton.mp new
      exact (other rfl).elim

theorem broadcastMessage (net : Network) {msg : Outgoing} (other : msg ≠ .verResp) :
    Mute net (net.broadcastMessage msg) := by
  refine ⟨fun target member => ?_⟩
  rcases List.mem_append.mp member with old | new
  · exact old
  · obtain ⟨ch, _, same⟩ := List.mem_map.mp new
    exact (other (Prod.mk.inj same).2).elim

theorem stopChannel (net : Network) (sid : SocketId) : Mute net (net.stopChannel sid) := by
  rw [Network.stopChannel]
  split
  · exact refl net
  · exact of_eq rfl

theorem startConnect (net : Network) (ep : Endpoint) (starts : Bool) : Mute net (net.startConnect ep starts).2 := by
  rw [Network.startConnect]
  cases starts <;> exact of_eq rfl

theorem onConnect {net other : Network} {sid : SocketId} {localAddr : Endpoint}
    (ran : net.onConnect sid localAddr = some other) : Mute net other := by
  simp only [Network.onConnect, Option.bind_eq_bind, Option.pure_def] at ran
  obtain ⟨_, _, ran⟩ := Option.bind_eq_some_iff.mp ran
  obtain ⟨_, _, ran⟩ := Option.bind_eq_some_iff.mp ran
  cases ran
  exact of_eq rfl

theorem onConnectFail {net other : Network} {sid : SocketId} (ran : net.onConnectFail sid = some other) :
    Mute net other := by
  simp only [Network.onConnectFail, Option.bind_eq_bind, Option.pure_def] at ran
  obtain ⟨_, _, ran⟩ := Option.bind_eq_some_iff.mp ran
  obtain ⟨_, _, ran⟩ := Option.bind_eq_some_iff.mp ran
  cases ran
  exact of_eq rfl

end Mute

end Network

open Network (Mute)

namespace Service

theorem addPeerNode_mute {env : PeerEnv} {name : LoginName} {sid : SocketId} {m : Login} {s t : Service}
    (added : s.addPeerNode env name sid m = some t) : Mute s.net t.net := by
  simp only [addPeerNode] at added
  split at added
  · cases added
  split at added
  · cases added
  split at added
  · cases added
  split at added
  · cases added
  cases added
  exact .of_eq rfl

theorem setProtoCapacity_mute (sid : SocketId) (capacity : Option Bytes) (s : Service) :
    Mute s.net (s.setProtoCapacity sid capacity).net := by
  cases capacity <;> exact .of_eq rfl

theorem advertiseLocal_mute (env : PeerEnv) (ep : Endpoint) (sid : SocketId) (s : Service) :
    Mute s.net (s.advertiseLocal env ep sid).net := by
  rw [advertiseLocal]
  split
  · exact .refl _
  · exact .sendMessage s.net sid (by simp)

theorem onVerResp_mute (env : PeerEnv) (sid : SocketId) (m : Login) (s : Service) :
    Mute s.net (s.onVerResp env sid m).net := by
  rw [onVerResp]
  split
  · exact .refl _
  split
  · exact .refl _
  split
  · exact .refl _
  dsimp only
  split
  · exact .stopChannel s.net sid
  split
  · exact .stopChannel s.net sid
  · rename_i ch _ _ _ added ran
    obtain ⟨counted, same⟩ :
      ∃ counted, counted = added.amendCandidate ch.remoteAddr (fun c => { c with reconnCnt := 0 }) :=
      ⟨_, rfl⟩
    have joined : Mute s.net counted.net := (addPeerNode_mute ran).trans (.of_eq (by rw [same]; rfl))
    rw [← same]
    exact (joined.trans (setProtoCapacity_mute sid m.capacity counted)).trans
      (advertiseLocal_mute env ch.localAddr sid _)

/-- A login response is written for a request that has passed
`verify_sign`. -/
theorem onVerReq_written {env : PeerEnv} {sid target : SocketId} {m : Login} {s : Service}
    (member : (target, .verResp) ∈ (s.onVerReq env sid m).net.written) :
    (target, .verResp) ∈ s.net.written ∨ (target = sid ∧ s.verifies env .verReq sid m = true) := by
  rw [onVerReq] at member
  split at member
  · exact Or.inl member
  rename_i checked
  split at member
  · exact Or.inl ((Mute.stopChannel s.net sid).written target member)
  rename_i added ran
  have stored : Mute s.net (added.setProtoCapacity sid m.capacity).net :=
    (addPeerNode_mute ran).trans (setProtoCapacity_mute sid m.capacity added)
  dsimp only at member
  split at member
  · exact Or.inl (stored.written target member)
  rename_i verified
  rw [sendMessage, Network.sendMessage] at member
  split at member
  · exact Or.inl (stored.written target member)
  rcases List.mem_append.mp member with old | new
  · exact Or.inl (stored.written target old)
  · cases List.mem_singleton.mp new
    refine Or.inr ⟨rfl, ?_⟩
    rw [Bool.not_eq_false] at checked verified
    simp [verifies, checked, verified, ran]

theorem onClientTcpConnectNotify_mute (connector : Connector) (s : Service) :
    Mute s.net (s.onClientTcpConnectNotify connector).net := by
  rw [onClientTcpConnectNotify]
  split
  · have released : Mute s.net (s.net.releaseConnector connector.sid) := .of_eq rfl
    exact released.trans (.stopChannel _ connector.sid)
  dsimp only
  split
  · exact (Mute.sendMessage s.net connector.sid (by simp)).trans (.of_eq rfl)
  · exact .of_eq rfl

theorem connectLoop_mute (env : PeerEnv) (peerNodes : List PeerNode) (connects : Endpoint → Bool) (clock : Int)
    (newConnCnt : Nat) (net : Network) (candidates : List Candidate) :
    Mute net (connectLoop env peerNodes connects clock newConnCnt net candidates).1 := by
  induction candidates generalizing newConnCnt net with
  | nil => exact .refl net
  | cons c rest ih =>
    rw [connectLoop]
    split
    · exact .refl net
    split
    · split
      · exact ih newConnCnt net
      split
      · exact ih newConnCnt net
      · exact (Mute.startConnect net c.tcpEp (connects c.tcpEp)).trans (ih (newConnCnt + 1) _)
    · exact ih newConnCnt net

theorem startConnect_mute (env : PeerEnv) (peerNodes : List PeerNode) (ep : Endpoint) (starts : Bool)
    (net : Network) :
    Mute net (startConnect env peerNodes ep starts net).2 := by
  rw [startConnect]
  split
  · exact .refl net
  · exact .startConnect net ep starts

theorem connectAvailable_mute (env : PeerEnv) (peerNodes : List PeerNode) (connects : Endpoint → Bool) (left : Nat)
    (net : Network) (candidates : List Candidate) :
    Mute net (connectAvailable env peerNodes connects left net candidates).1 := by
  induction candidates generalizing left net with
  | nil => exact .refl net
  | cons c rest ih =>
    rw [connectAvailable]
    split
    · exact (startConnect_mute env peerNodes c.tcpEp (connects c.tcpEp) net).trans (ih (left - 1) _)
    · exact ih left net

theorem replaceNode_mute {env : PeerEnv} {connects : Endpoint → Bool} {draw : Nat} {node : PeerNode} {s t : Service}
    (ran : s.replaceNode env connects draw node = some t) : Mute s.net t.net := by
  rw [replaceNode] at ran
  split at ran
  · cases ran
    exact .refl _
  split at ran
  · cases ran
  rename_i connect _ _ address _
  cases ran
  have moved := (Quiet.moveToTail (f := fun c => { c with netSt := .available }) (by intro; simp)
    ⟨address, node.peerAddr.port⟩ s).net
  have started := startConnect_mute env
    (s.moveToTail ⟨address, node.peerAddr.port⟩ (fun c => { c with netSt := .available })).peerNodes connect.tcpEp
    (connects connect.tcpEp)
      (s.moveToTail ⟨address, node.peerAddr.port⟩ (fun c => { c with netSt := .available })).net
  exact (Mute.of_eq (by rw [moved])).trans started

theorem onTimerDynamicAdjustNetwork_mute {env : PeerEnv} {connects : Endpoint → Bool} {leave join : Nat}
    {s t : Service} (ran : s.onTimerDynamicAdjustNetwork env connects leave join = some t) : Mute s.net t.net := by
  rw [onTimerDynamicAdjustNetwork] at ran
  dsimp only at ran
  split at ran
  · cases ran
    exact connectAvailable_mute ..
  split at ran
  · cases ran
    exact .refl _
  split at ran
  · cases ran
    exact .refl _
  · rename_i node _
    exact (Mute.stopChannel s.net node.sid).trans (replaceNode_mute ran)

theorem startConnectorStep_mute (env : PeerEnv) (connects : Endpoint → Bool) (s : Service) (ep : Endpoint) :
    Mute s.net (startConnectorStep env connects s ep).net := by
  have started := Mute.startConnect s.net ep (connects ep)
  rw [startConnectorStep]
  split
  · exact .refl _
  dsimp only
  split
  · split
    · exact started
    · rw [addPeerCandidate]
      split
      · exact started
      split
      · exact started
      · exact started
  · exact started

theorem startConnector_mute (env : PeerEnv) (connects : Endpoint → Bool) (s : Service) :
    Mute s.net (s.startConnector env connects).net := by
  rw [startConnector]
  induction env.peers generalizing s with
  | nil => exact .refl _
  | cons ep rest ih => exact (startConnectorStep_mute env connects s ep).trans (ih _)

/-- A process that has just started has written no login response. -/
theorem init_silent (env : PeerEnv) (connects : Endpoint → Bool) (clock : Int) (db : OrdMap Bytes DbCandidate)
    (sid : SocketId) : (sid, .verResp) ∉ (init env connects clock db).net.written := by
  intro member
  have first :=
    (startConnector_mute env connects ((fresh env clock db).loadPeerCandidatesFromDb env)).written sid member
  cases first

/-- Apart from login requests and restarts, nothing writes a login
response. -/
theorem step_mute {env : PeerEnv} {s t : Service} {event : PeerEvent} (ran : s.step env event = some t)
    (other : ∀ sid m, event ≠ .verReq sid m) (running : ∀ connects, event ≠ .restart connects) :
    Mute s.net t.net := by
  cases event with
  | clock now =>
    cases ran
    exact .refl _
  | rehash order =>
    rw [step] at ran
    split at ran
    · cases ran
      exact .refl _
    · cases ran
  | restart connects => exact (running connects rfl).elim
  | accept remoteAddr localAddr =>
    cases ran
    exact .of_eq rfl
  | connect sid localAddr =>
    obtain ⟨net, connected, rfl⟩ := Option.map_eq_some_iff.mp ran
    exact .onConnect connected
  | connectFail sid =>
    obtain ⟨net, failed, rfl⟩ := Option.map_eq_some_iff.mp ran
    exact .onConnectFail failed
  | connectNotify sid =>
    rw [step] at ran
    split at ran
    · cases ran
    split at ran
    · cases ran
    · cases ran
      exact onClientTcpConnectNotify_mute _ s
  | channelError sid =>
    obtain ⟨ch, _, rfl⟩ := Option.map_eq_some_iff.mp ran
    have told := (Quiet.failCandidate ch.remoteAddr s).net
    exact (Mute.of_eq (by rw [told])).trans (.stopChannel (s.failCandidate ch.remoteAddr).net sid)
  | verReq sid m => exact (other sid m rfl).elim
  | verResp sid m =>
    cases ran
    exact onVerResp_mute env sid m s
  | broadcast nonce peerNodesList =>
    have learnt := (Quiet.onBroadcastPeerNodes ran).net
    exact .of_eq (by rw [learnt])
  | checkTimer connects resolve =>
    cases ran
    have replenished := (Quiet.replenish env resolve s).net
    exact (Mute.of_eq (by rw [replenished])).trans (connectLoop_mute ..)
  | adjustTimer connects leave join => exact onTimerDynamicAdjustNetwork_mute ran
  | exchangeTimer =>
    cases ran
    rw [broadcastPeerNodes]
    dsimp only
    split
    · exact .refl _
    · exact .broadcastMessage s.net (by simp)
  | dumpTimer written =>
    cases ran
    rw [savePeerCandidates]
    split
    · exact .refl _
    split
    · exact .refl _
    · exact .refl _

end Service

end DbcNode
