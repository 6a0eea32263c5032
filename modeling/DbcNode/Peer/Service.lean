import DbcNode.Lib.Keyed
import DbcNode.Lib.OrdMap
import DbcNode.Peer.Network

namespace DbcNode

def maxReconnectTimes : Nat := 1

def maxConnectedPeerNodesCount : Nat := 16

def maxPeerCandidatePerCheck : Nat := 16

def maxPeerCandidatesCount : Nat := 64

def minPeerCandidatesCount : Nat := 8

def maxBroadcastPeerNodesCount : Nat := 16

def minNormalAvailableNodeCount : Nat := 2

def disconnectNodePerMinutes : UInt32 := 5

inductive NetState
  | idle
  | inUse
  | failed
  | zombie
  | available
  deriving DecidableEq, Repr

inductive PeerNodeType
  | normal
  | seed
  deriving DecidableEq, Repr

/-- `peer_candidate`. The list holds pointers, which are told apart by the
endpoint. -/
structure Candidate where
  tcpEp : Endpoint
  nodeType : PeerNodeType
  nodeId : Bytes
  netSt : NetState
  reconnCnt : Nat
  lastConnTm : Int
  score : Nat
  deriving DecidableEq, Repr

structure PeerNode where
  id : Bytes
  sid : SocketId
  peerAddr : Endpoint
  nodeType : PeerNodeType
  deriving DecidableEq, Repr

/-- `db_peer_candidate`, a record of the database under the text of its
address. -/
structure DbCandidate where
  ip : Bytes
  port : UInt16
  netState : NetState
  reconnCnt : Nat
  lastConnTm : Int
  score : Nat
  nodeId : Bytes
  nodeType : PeerNodeType
  deriving DecidableEq, Repr

/-- What the service reads of a `ver_req` or `ver_resp`: the nonce, the
`sign` and `capacity` entries of `exten_info`, and the node id of the
body. -/
structure Login where
  nonce : Bytes
  sign : Option Bytes
  capacity : Option Bytes
  nodeId : Bytes
  deriving DecidableEq, Repr

/-- The configuration of a node, the texts of addresses, and the two checks
of `util` that the service relies on. -/
structure PeerEnv where
  nodeId : Bytes
  listen : Endpoint
  peers : List Endpoint
  dnsSeeds : List Bytes
  ipSeeds : List Endpoint
  toText : Address → Bytes
  fromText : Bytes → Option Address
  fromText_toText : ∀ address, fromText (toText address) = some address
  checkId : Bytes → Bool
  verifySign : Bytes → Bytes → Bytes → Bool

/-- The sign entry is looked up with a default, and covers the nonce and the
node id. -/
def Login.verified (env : PeerEnv) (m : Login) : Bool :=
  env.verifySign (m.sign.getD []) (m.nonce ++ m.nodeId) m.nodeId

/-- `address_v4::from_string`. -/
def PeerEnv.fromTextV4 (env : PeerEnv) (text : Bytes) : Option Address :=
  match env.fromText text with
  | some (.v4 a b c d) => some (.v4 a b c d)
  | _ => none

inductive LoginName
  | verReq
  | verResp
  deriving DecidableEq, Repr

def PeerNode.info (n : PeerNode) (env : PeerEnv) : PeerInfo :=
    ⟨n.id, env.toText n.peerAddr.address, n.peerAddr.port⟩

def Candidate.info (c : Candidate) (env : PeerEnv) : PeerInfo :=
    ⟨c.nodeId, env.toText c.tcpEp.address, c.tcpEp.port⟩

def Candidate.record (c : Candidate) (env : PeerEnv) : DbCandidate :=
  ⟨env.toText c.tcpEp.address, c.tcpEp.port, c.netSt, c.reconnCnt, c.lastConnTm, c.score, c.nodeId, c.nodeType⟩

/-- `ip_validator`, `port_validator` and the check of the node id: the text
is that of an address up to case, and the port is not zero. -/
def DbCandidate.address (record : DbCandidate) (env : PeerEnv) : Option Address :=
  match env.fromText record.ip with
  | none => none
  | some address =>
    let lower := List.map (fun b : UInt8 => if 65 ≤ b ∧ b ≤ 90 then b + 32 else b)
    if lower (env.toText address) = lower record.ip ∧ record.port ≠ 0 ∧
      record.nodeId ≠ [] then some address else none

def DbCandidate.candidate (record : DbCandidate) (env : PeerEnv) : Option Candidate :=
  (record.address env).map (fun address =>
    ⟨⟨address, record.port⟩, record.nodeType, record.nodeId, .idle, 0, record.lastConnTm, record.score⟩)

structure Service where
  candidates : List Candidate
  peerNodes : List PeerNode
  dnsSeeds : List Bytes
  disconnectInterval : UInt32
  clock : Int
  net : Network
  db : OrdMap Bytes DbCandidate

namespace Service

def getPeerCandidate (s : Service) (ep : Endpoint) : Option Candidate := s.candidates.find? (·.tcpEp = ep)

def isPeerCandidateExist (s : Service) (ep : Endpoint) : Bool := s.candidates.any (·.tcpEp = ep)

/-- A change to the candidate of an endpoint, if there is one. -/
def amendCandidate (ep : Endpoint) (f : Candidate → Candidate) (s : Service) : Service :=
  { s with candidates := amend (·.tcpEp) ep f s.candidates }

def addPeerCandidate (ep : Endpoint) (ns : NetState) (ntype : PeerNodeType) (nodeId : Bytes)
    (s : Service) : Service :=
  if maxPeerCandidatesCount ≤ s.candidates.length then s
  else match s.getPeerCandidate ep with
    | some _ => s
    | none => { s with candidates := s.candidates ++ [⟨ep, ntype, nodeId, ns, 0, s.clock, 0⟩] }

def removePeerCandidate (ep : Endpoint) (s : Service) : Service :=
  { s with candidates := s.candidates.eraseP (·.tcpEp = ep) }

def updatePeerCandidateState (ep : Endpoint) (state : NetState) (s : Service) : Service :=
  s.amendCandidate ep (fun c => { c with netSt := state })

def getMaybeAvailablePeerCandidatesCount (s : Service) : Nat :=
  s.candidates.countP (fun c => c.netSt = .idle ∨ c.netSt = .inUse ∨ c.netSt = .available ∨
    (c.netSt = .failed ∧ c.reconnCnt < maxReconnectTimes))

def existPeerNodeAt (env : PeerEnv) (peerNodes : List PeerNode) (ep : Endpoint) : Bool :=
  ep = env.listen ∨ peerNodes.any (·.peerAddr = ep)

def existPeerNode (peerNodes : List PeerNode) (nodeId : Bytes) : Bool :=
  nodeId ≠ [] ∧ peerNodes.any (·.id = nodeId)

def getPeerNodesCountBySocketType (s : Service) (type : SocketType) : Nat :=
  s.peerNodes.countP (fun n => n.sid.type = type)

/-- There is no next state when the node is refused; a refusal changes
nothing. -/
def addPeerNode (env : PeerEnv) (name : LoginName) (sid : SocketId) (m : Login) (s : Service) : Option Service :=
  if m.nodeId = [] then none
  else if env.nodeId = m.nodeId then none
  else if s.peerNodes.any (·.id = m.nodeId) then none
  else match s.net.getChannel sid with
    | none => none
    | some ch =>
      let nodeType := match name with
        | .verReq => PeerNodeType.normal
        | .verResp => ((s.getPeerCandidate ch.remoteAddr).map (·.nodeType)).getD .normal
      some { s with
        net := s.net.updateChannel sid (fun ch => { ch with remoteNodeId := m.nodeId })
        peerNodes := ⟨m.nodeId, sid, ch.remoteAddr, nodeType⟩ :: s.peerNodes }

def setProtoCapacity (sid : SocketId) (capacity : Option Bytes) (s : Service) : Service :=
  match capacity with
  | none => s
  | some c => { s with net := s.net.updateChannel sid (fun ch => { ch with protoCapacity := some c }) }

def stopChannel (sid : SocketId) (s : Service) : Service := { s with net := s.net.stopChannel sid }

def sendMessage (sid : SocketId) (msg : Outgoing) (s : Service) : Service :=
  { s with net := s.net.sendMessage sid msg }

def onVerReq (env : PeerEnv) (sid : SocketId) (m : Login) (s : Service) : Service :=
  if env.checkId m.nonce = false then s
  else match s.addPeerNode env .verReq sid m with
    | none => s.stopChannel sid
    | some added =>
      let stored := added.setProtoCapacity sid m.capacity
      if m.verified env = false then stored else stored.sendMessage sid .verResp

/-- `broadcast_peer_nodes` of one node, the local one. -/
def advertiseLocal (env : PeerEnv) (tcpEp : Endpoint) (sid : SocketId) (s : Service) : Service :=
  if isRfc1918 tcpEp then s
  else s.sendMessage sid (.peerNodes [⟨env.nodeId, env.toText tcpEp.address, env.listen.port⟩])

def onVerResp (env : PeerEnv) (sid : SocketId) (m : Login) (s : Service) : Service :=
  if env.checkId m.nonce = false then s
  else if m.verified env = false then s
  else match s.net.getChannel sid with
    | none => s
    | some ch =>
      let named := s.amendCandidate ch.remoteAddr (fun c => { c with nodeId := m.nodeId })
      if maxConnectedPeerNodesCount ≤ named.getPeerNodesCountBySocketType .client then
        (named.updatePeerCandidateState ch.remoteAddr .available).stopChannel sid
      else match named.addPeerNode env .verResp sid m with
        | none => named.stopChannel sid
        | some added =>
          let counted := added.amendCandidate ch.remoteAddr (fun c => { c with reconnCnt := 0 })
          (counted.setProtoCapacity sid m.capacity).advertiseLocal env ch.localAddr sid

/-- A connector announces how its attempt ended. -/
def onClientTcpConnectNotify (connector : Connector) (s : Service) : Service :=
  match s.getPeerCandidate connector.connectAddr with
  | none => { s with net := (s.net.releaseConnector connector.sid).stopChannel connector.sid }
  | some _ =>
    let told := match connector.phase with
      | .connected => s.sendMessage connector.sid (.verReq connector.connectAddr)
      | _ => s.updatePeerCandidateState connector.connectAddr .failed
    { told with net := told.net.releaseConnector connector.sid }

/-- A candidate goes to the end of the list, changed. -/
def moveToTail (ep : Endpoint) (f : Candidate → Candidate) (s : Service) : Service :=
  match s.getPeerCandidate ep with
  | none => s
  | some c =>
    let removed := s.removePeerCandidate ep
    { removed with candidates := removed.candidates ++ [f c] }

/-- The candidate of a channel that failed goes to the end of the list. -/
def failCandidate (ep : Endpoint) (s : Service) : Service :=
  match s.getPeerCandidate ep with
  | none => s
  | some c =>
    if c.netSt = .zombie ∨ c.netSt = .available then s
    else s.moveToTail ep (fun c => { c with lastConnTm := s.clock, netSt := .failed })

/-- The error of a channel, of which the connection manager stops the
channel and the service drops the first node it finds on it. -/
def onTcpChannelError (sid : SocketId) (ep : Endpoint) (s : Service) : Service :=
  let told := s.failCandidate ep
  { told with peerNodes := told.peerNodes.eraseP (·.sid = sid), net := told.net.stopChannel sid }

/-- `p2p_net_service::start_connect`, over the answer of the connection
manager. -/
def startConnect (env : PeerEnv) (peerNodes : List PeerNode) (ep : Endpoint) (starts : Bool) (net : Network) :
    Bool × Network :=
  if existPeerNodeAt env peerNodes ep then (false, net) else net.startConnect ep starts

def startConnectorStep (env : PeerEnv) (connects : Endpoint → Bool) (s : Service) (ep : Endpoint) : Service :=
  if existPeerNodeAt env s.peerNodes ep then s
  else
    let (started, net) := s.net.startConnect ep (connects ep)
    let tried := { s with net := net }
    if started then
      if tried.isPeerCandidateExist ep then tried.updatePeerCandidateState ep .inUse
      else tried.addPeerCandidate ep .inUse .normal []
    else tried

def startConnector (env : PeerEnv) (connects : Endpoint → Bool) (s : Service) : Service :=
  env.peers.foldl (startConnectorStep env connects) s

def addSeeds (seeds : List Endpoint) (s : Service) : Service :=
  seeds.foldl (fun s ep => s.addPeerCandidate ep .idle .seed []) s

/-- One name is taken off the list; `resolve` is what the resolver finds for
it. -/
def addDnsSeeds (resolve : Bytes → List Endpoint) (s : Service) : Service :=
  match s.dnsSeeds with
  | [] => s
  | seed :: rest => addSeeds (resolve seed) { s with dnsSeeds := rest }

def addIpSeeds (env : PeerEnv) (s : Service) : Service := addSeeds env.ipSeeds s

/-- The connecting loop of `on_timer_check_peer_candidates`, with the count
of new connections and the candidates that are left. -/
def connectLoop (env : PeerEnv) (peerNodes : List PeerNode) (connects : Endpoint → Bool) (clock : Int) :
    Nat → Network → List Candidate → Network × List Candidate
  | _, net, [] => (net, [])
  | newConnCnt, net, c :: rest =>
    if maxPeerCandidatePerCheck < newConnCnt then (net, c :: rest)
    else if c.netSt = .idle ∨ (c.netSt = .failed ∧ c.reconnCnt < maxReconnectTimes) then
      if existPeerNode peerNodes c.nodeId ∨ existPeerNodeAt env peerNodes c.tcpEp then
        let (net, rest) := connectLoop env peerNodes connects clock newConnCnt net rest
        (net, { c with reconnCnt := 0 } :: rest)
      else if env.nodeId = c.nodeId then
        let (net, rest) := connectLoop env peerNodes connects clock newConnCnt net rest
        (net, { c with netSt := .zombie } :: rest)
      else
        let (started, net) := net.startConnect c.tcpEp (connects c.tcpEp)
        let (net, rest) := connectLoop env peerNodes connects clock (newConnCnt + 1) net rest
        (net, { c with
          netSt := if started then .inUse else .failed
          reconnCnt := c.reconnCnt + 1
          lastConnTm := clock } :: rest)
    else
      let (net, rest) := connectLoop env peerNodes connects clock newConnCnt net rest
      (net, c :: rest)

def dropFailed (s : Service) : Service :=
  { s with candidates := s.candidates.filter (fun c => ¬ (c.netSt = .failed ∧ maxReconnectTimes ≤ c.reconnCnt)) }

/-- The first half of `on_timer_check_peer_candidates`: what has failed too
often goes, and seeds come when there is too little left to try. -/
def replenish (env : PeerEnv) (resolve : Bytes → List Endpoint) (s : Service) : Service :=
  let dropped := s.dropFailed
  let dns :=
    if dropped.getMaybeAvailablePeerCandidatesCount < minPeerCandidatesCount then dropped.addDnsSeeds resolve
    else dropped
  if dns.getMaybeAvailablePeerCandidatesCount < minPeerCandidatesCount then dns.addIpSeeds env else dns

def onTimerCheckPeerCandidates (env : PeerEnv) (connects : Endpoint → Bool) (resolve : Bytes → List Endpoint)
    (s : Service) : Service :=
  let s := s.replenish env resolve
  let (net, candidates) := connectLoop env s.peerNodes connects s.clock 0 s.net s.candidates
  { s with net := net, candidates := candidates }

/-- The first `left` available candidates are connected, in the order of the
list. -/
def connectAvailable (env : PeerEnv) (peerNodes : List PeerNode) (connects : Endpoint → Bool) :
    Nat → Network → List Candidate → Network × List Candidate
  | _, net, [] => (net, [])
  | left, net, c :: rest =>
    if c.netSt = .available ∧ 0 < left then
      let (started, net) := startConnect env peerNodes c.tcpEp (connects c.tcpEp) net
      let (net, rest) := connectAvailable env peerNodes connects (left - 1) net rest
      (net, { c with netSt := if started then .inUse else .failed } :: rest)
    else
      let (net, rest) := connectAvailable env peerNodes connects left net rest
      (net, c :: rest)

def getAvailablePeerCandidatesCountByNodeType (s : Service) (nodeType : PeerNodeType) : Nat :=
  s.candidates.countP (fun c => c.netSt = .available ∧ c.nodeType = nodeType)

/-- A seed goes first; a normal node only every few minutes, and at
random. -/
def getDynamicDisconnectPeerNode (draw : Nat) (s : Service) : Option PeerNode × UInt32 :=
  match s.peerNodes.find? (fun n => n.nodeType = .seed ∧ n.sid.type = .client) with
  | some node => (some node, s.disconnectInterval)
  | none =>
    let clients := s.peerNodes.filter (fun n => n.sid.type = .client)
    if clients = [] then (none, s.disconnectInterval)
    else
      let interval := s.disconnectInterval + 1
      if interval % disconnectNodePerMinutes ≠ 0 then (none, interval)
      else (clients[draw % clients.length]?, interval)

/-- A node that is connected already is passed over. -/
def getDynamicConnectPeerCandidate (draw : Nat) (s : Service) : Option Candidate :=
  let free := s.candidates.filter (fun c => c.netSt = .available ∧ s.peerNodes.all (·.id ≠ c.nodeId))
  let normal := free.filter (fun c => c.nodeType = .normal)
  let seed := free.filter (fun c => c.nodeType = .seed)
  if normal ≠ [] then normal[draw % normal.length]? else seed[draw % seed.length]?

/-- The second half of the adjustment, after a node was taken out. The text
of its address is read back as a version 4 one. -/
def replaceNode (env : PeerEnv) (connects : Endpoint → Bool) (draw : Nat) (node : PeerNode) (s : Service) :
    Option Service :=
  match s.getDynamicConnectPeerCandidate draw with
  | none => some s
  | some connect =>
    match env.fromTextV4 (env.toText node.peerAddr.address) with
    | none => none
    | some address =>
      let moved := s.moveToTail ⟨address, node.peerAddr.port⟩ (fun c => { c with netSt := .available })
      let (started, net) := startConnect env moved.peerNodes connect.tcpEp (connects connect.tcpEp) moved.net
      some ({ moved with net := net }.updatePeerCandidateState connect.tcpEp (if started then .inUse else .failed))

/-- A node is taken out of the table, and its channel stopped. -/
def disconnect (node : PeerNode) (s : Service) : Service :=
  { s with peerNodes := s.peerNodes.eraseP (·.id = node.id) }.stopChannel node.sid

/-- There is no next state when an exception ends the process. -/
def onTimerDynamicAdjustNetwork (env : PeerEnv) (connects : Endpoint → Bool) (leave join : Nat) (s : Service) :
    Option Service :=
  let count := s.getPeerNodesCountBySocketType .client
  if count < maxConnectedPeerNodesCount then
    let (net, candidates) :=
      connectAvailable env s.peerNodes connects (maxConnectedPeerNodesCount - count) s.net s.candidates
    some { s with net := net, candidates := candidates }
  else if s.getAvailablePeerCandidatesCountByNodeType .normal < minNormalAvailableNodeCount then some s
  else
    let (chosen, interval) := s.getDynamicDisconnectPeerNode leave
    let counted := { s with disconnectInterval := interval }
    match chosen with
    | none => some counted
    | some node => (counted.disconnect node).replaceNode env connects join node

/-- The available normal candidates are taken out of the list while fewer
than a hundred nodes are counted; what stays, and what was taken. -/
def takeAvailable : Nat → List Candidate → List Candidate × List Candidate
  | _, [] => ([], [])
  | count, c :: rest =>
    if 100 ≤ count then (c :: rest, [])
    else if c.netSt = .available ∧ c.nodeType = .normal then
      let (kept, taken) := takeAvailable (count + 1) rest
      (kept, c :: taken)
    else
      let (kept, taken) := takeAvailable count rest
      (c :: kept, taken)

/-- `broadcast_peer_nodes` without a node: the connected normal nodes and
the available candidates go out, and these candidates to the end of the
list. -/
def broadcastPeerNodes (env : PeerEnv) (s : Service) : Service :=
  let nodes := (s.peerNodes.filter (fun n => n.sid.type ≠ .server ∧ n.nodeType ≠ .seed)).take
    maxBroadcastPeerNodesCount
  let (kept, taken) := takeAvailable nodes.length s.candidates
  let peerNodesList := nodes.map (·.info env) ++ taken.map (·.info env)
  { s with
    candidates := kept ++ taken
    net := if peerNodesList = [] then s.net else s.net.broadcastMessage (.peerNodes peerNodesList) }

/-- One entry of a list of several peers. The node id of a new candidate is
lost: the pointer that is asked for it is still the null one. -/
def learnPeer (env : PeerEnv) (s : Service) (info : PeerInfo) : Option Service := do
  let ep : Endpoint := ⟨← env.fromTextV4 info.ip, info.port⟩
  if isRfc1918 ep then return s
  match s.getPeerCandidate ep with
  | none => return s.addPeerCandidate ep .idle .normal []
  | some c =>
    if c.nodeId = [] ∧ info.peerNodeId ≠ [] then
      return s.amendCandidate ep (fun c => { c with nodeId := info.peerNodeId })
    else return s

/-- The only entry of a list is the sender itself. -/
def learnSender (env : PeerEnv) (s : Service) (info : PeerInfo) : Option Service := do
  let ep : Endpoint := ⟨← env.fromTextV4 info.ip, info.port⟩
  if isRfc1918 ep then return s
  return (s.addPeerCandidate ep .available .normal info.peerNodeId).amendCandidate ep
    (fun c => { c with nodeId := info.peerNodeId })

/-- An address that does not parse throws, which ends the process. -/
def onBroadcastPeerNodes (env : PeerEnv) (nonce : Bytes) (peerNodesList : List PeerInfo) (s : Service) :
    Option Service :=
  if maxPeerCandidatesCount ≤ s.candidates.length then some s
  else if env.checkId nonce = false then some s
  else match peerNodesList with
    | [info] => s.learnSender env info
    | infos => infos.foldlM (learnPeer env) s

/-- The database is cleared first; `written` tells whether the batch went
in. -/
def savePeerCandidates (env : PeerEnv) (written : Bool) (s : Service) : Service :=
  if s.candidates = [] then s
  else if written then
    { s with
      db := s.candidates.foldl (fun db c => db.insert (env.toText c.tcpEp.address) (c.record env)) OrdMap.empty }
  else { s with db := OrdMap.empty }

/-- A record that is not valid is deleted. -/
def loadPeerCandidatesFromDb (env : PeerEnv) (s : Service) : Service :=
  { s with
    candidates := s.db.entries.filterMap (fun entry => entry.2.candidate env)
    db := s.db.filter (fun entry => (entry.2.address env).isSome) }

end Service

end DbcNode
