import DbcNode.Lib.Bytes

namespace DbcNode

/-- `ip::address`. -/
inductive Address
  | v4 (a b c d : UInt8)
  | v6 (bits : BitVec 128)
  deriving DecidableEq, Repr

/-- `tcp::endpoint`, and the `net_address` made from one. -/
structure Endpoint where
  address : Address
  port : UInt16
  deriving DecidableEq, Repr

/-- `net_address::is_rfc1918`: the private networks 10/8, 192.168/16 and
172.16/12. -/
def isRfc1918 (ep : Endpoint) : Bool :=
  match ep.address with
  | .v4 a b _ _ => a = 10 ∨ (b = 168 ∧ a = 192) ∨ ((16 ≤ b ∧ b ≤ 31) ∧ a = 172)
  | .v6 _ => false

inductive SocketType
  | server
  | client
  deriving DecidableEq, Repr

structure SocketId where
  type : SocketType
  id : Nat
  deriving DecidableEq, Repr

/-- Where an attempt to connect is: its outcome is first known to the
connector, and later announced to the service. -/
inductive Phase
  | connecting
  | connected
  | failed
  deriving DecidableEq, Repr

structure Connector where
  sid : SocketId
  connectAddr : Endpoint
  phase : Phase
  deriving DecidableEq, Repr

/-- A `tcp_socket_channel` with the flags of its handler. -/
structure Channel where
  sid : SocketId
  remoteAddr : Endpoint
  localAddr : Endpoint
  remoteNodeId : Bytes
  protoCapacity : Option Bytes
  loginSuccess : Bool
  recvVerReq : Bool
  deriving DecidableEq, Repr

def Channel.fresh (sid : SocketId) (remoteAddr localAddr : Endpoint) : Channel :=
  ⟨sid, remoteAddr, localAddr, [], none, false, false⟩

/-- What an exchange of peers says of one node. -/
structure PeerInfo where
  peerNodeId : Bytes
  ip : Bytes
  port : UInt16
  deriving DecidableEq, Repr

/-- The messages that the peer service writes to a channel. -/
inductive Outgoing
  | verReq (addrYou : Endpoint)
  | verResp
  | peerNodes (peerNodesList : List PeerInfo)
  deriving DecidableEq, Repr

/-- The part of `connection_manager` that the peer service uses: the counter
of socket ids, the connectors, the channels, those that were stopped, and
what was written to channels. -/
structure Network where
  curIdx : Nat
  connectors : List Connector
  channels : List Channel
  recycleChannels : List Channel
  written : List (SocketId × Outgoing)
  deriving DecidableEq, Repr

namespace Network

def empty : Network := ⟨0, [], [], [], []⟩

/-- `starts` tells whether the connector could be made and started. -/
def startConnect (ep : Endpoint) (starts : Bool) (net : Network) : Bool × Network :=
  let sid : SocketId := ⟨.client, net.curIdx + 1⟩
  if starts then (true,
    { net with curIdx := net.curIdx + 1, connectors := net.connectors ++ [⟨sid, ep, .connecting⟩] })
  else (false, { net with curIdx := net.curIdx + 1 })

def getConnector (net : Network) (sid : SocketId) : Option Connector := net.connectors.find? (·.sid = sid)

def releaseConnector (sid : SocketId) (net : Network) : Network :=
  { net with connectors := net.connectors.eraseP (·.sid = sid) }

def getChannel (net : Network) (sid : SocketId) : Option Channel := net.channels.find? (·.sid = sid)

/-- Every channel that was ever stopped or is open, under its socket id. -/
def anyChannel (net : Network) (sid : SocketId) : Option Channel :=
  (net.channels ++ net.recycleChannels).find? (·.sid = sid)

def stopChannel (sid : SocketId) (net : Network) : Network :=
  match net.getChannel sid with
  | none => net
  | some ch =>
    { net with channels := net.channels.eraseP (·.sid = sid), recycleChannels := net.recycleChannels ++ [ch] }

def sendMessage (sid : SocketId) (msg : Outgoing) (net : Network) : Network :=
  match net.getChannel sid with
  | none => net
  | some _ => { net with written := net.written ++ [(sid, msg)] }

/-- A message to every channel that has logged in. -/
def broadcastMessage (msg : Outgoing) (net : Network) : Network :=
  { net with written := net.written ++ (net.channels.filter (·.loginSuccess)).map (fun ch => (ch.sid, msg)) }

def updateChannel (sid : SocketId) (f : Channel → Channel) (net : Network) : Network :=
  { net with channels := net.channels.map (fun ch => if ch.sid = sid then f ch else ch) }

/-- `tcp_connector::on_connect` without an error: the channel is open before
the service hears of it. -/
def onConnect (sid : SocketId) (localAddr : Endpoint) (net : Network) : Option Network := do
  let connector ← net.getConnector sid
  guard (connector.phase = .connecting)
  return { net with
    connectors := net.connectors.map (fun c => if c.sid = sid then { c with phase := .connected } else c)
    channels := net.channels ++ [Channel.fresh sid connector.connectAddr localAddr] }

/-- The last attempt of a connector failed. -/
def onConnectFail (sid : SocketId) (net : Network) : Option Network := do
  let connector ← net.getConnector sid
  guard (connector.phase = .connecting)
  return { net with
    connectors := net.connectors.map (fun c => if c.sid = sid then { c with phase := .failed } else c) }

/-- `tcp_acceptor::on_accept`: a channel to a peer that connected to this
node. -/
def onAccept (remoteAddr localAddr : Endpoint) (net : Network) : Network :=
  let sid : SocketId := ⟨.server, net.curIdx + 1⟩
  { net with curIdx := net.curIdx + 1, channels := net.channels ++ [Channel.fresh sid remoteAddr localAddr] }

end Network

end DbcNode
