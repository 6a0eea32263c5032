import DbcNode.Channel.Handler
import DbcNode.Request.Authority

namespace DbcNode

/-- `NODE_TYPE`. -/
inductive NodeType
  | computeNode
  | clientNode
  | seedNode
  deriving DecidableEq, Repr

/-- The requests that `node_request_service` has a handler for. -/
def requestNames : List Bytes := ([
  "node_create_task_req", "node_start_task_req", "node_shutdown_task_req", "node_poweroff_task_req",
  "node_stop_task_req", "node_restart_task_req", "node_reset_task_req", "node_delete_task_req",
    "node_task_logs_req",
  "node_list_task_req", "node_modify_task_req", "node_passwd_task_req", "node_query_node_info_req",
  "node_session_id_req", "node_free_memory_req", "node_list_images_req", "node_download_image_req",
  "node_download_image_progress_req", "node_stop_download_image_req", "node_upload_image_req",
  "node_upload_image_progress_req", "node_stop_upload_image_req", "node_delete_image_req", "node_list_snapshot_req",
  "node_create_snapshot_req", "node_delete_snapshot_req", "node_list_disk_req", "node_resize_disk_req",
  "node_add_disk_req", "node_delete_disk_req", "node_list_monitor_server_req", "node_set_monitor_server_req",
  "node_list_lan_req", "node_create_lan_req", "node_delete_lan_req"] : List String).map str

def queryNodeInfoName : Bytes := str "node_query_node_info_req"

def serviceBroadcastName : Bytes := str "service_broadcast_req"

/-- One node of the network: what its channels and its request handlers know
of it, and the class that the handler of a name reads a body as. -/
structure FloodConf where
  conf : NodeConf
  env : RequestEnv
  nodeType : NodeType
  kindOf : Bytes → env.Kind

def BaseHeader.requestHeader (header : BaseHeader) : RequestHeader :=
  ⟨header.nonce.getD [], header.sessionId.getD [], header.exten "pub_key"⟩

/-- A handler returns without doing anything, passes the request on, or
executes it: it answers, be it with an error. -/
inductive Verdict
  | dropped
  | forwarded
  | executed
  deriving DecidableEq, Repr

namespace Gate
variable {B : Bloom} (c : FloodConf)

/-- The handlers of the requests. That of `query_node_info` asks for no
authority. -/
def onNodeRequest (chain : ChainView) (made name : Bytes) (header : BaseHeader) (body : Bytes) (g : Gate B) :
    Verdict × Gate B :=
  let (good, g) := g.checkReqHeaderNonce c.env (header.nonce.getD [])
  if good = false then (.dropped, g)
  else if c.nodeType ≠ .computeNode then (.forwarded, g)
  else if checkReqHeader c.env header.requestHeader = false then (.forwarded, g)
  else
    let pubKey := (header.exten "pub_key").getD []
    if pubKey = [] ∨ c.env.privKey = [] then (.forwarded, g)
    else match c.env.opens (c.kindOf name) pubKey body with
      | none => (.forwarded, g)
      | some data =>
        if c.env.nodeId ∉ data.peerNodesList then (.forwarded, g)
        else if name = queryNodeInfoName then (.executed, g)
        else (.executed, (g.checkAuthority c.env chain data.params made).2)

/-- A broadcast of services goes to the neighbours only. -/
def onNetServiceBroadcastReq (header : BaseHeader) (g : Gate B) : Verdict × Gate B :=
  let (good, g) := g.checkReqHeaderNonce c.env (header.nonce.getD [])
  if good = false then (.dropped, g)
  else if checkReqHeader c.env header.requestHeader = false then (.dropped, g)
  else
    let signMsg := header.nonce.getD [] ++ header.sessionId.getD []
    if c.env.verifySign ((header.exten "sign").getD []) signMsg ((header.exten "node_id").getD []) = false then
      (.dropped, g)
    else (.executed, g)

end Gate

/-- `header.path.push_back`. A path that is not set stays so on the wire. -/
def Content.pushPath (nodeId : Bytes) : Content → Content
  | .typed type registered header body =>
    .typed type registered { header with path := header.path.map (· ++ [nodeId]) } body
  | .forward header body => .forward { header with path := header.path.map (· ++ [nodeId]) } body

def Message.pushPath (nodeId : Bytes) (msg : Message) : Message :=
    { msg with content := msg.content.pushPath nodeId }

/-- The text of the body that a handler decrypts. -/
def Content.data : Content → Bytes
  | .typed type _ _ body => (type.body.firstText body).getD []
  | .forward _ body => body

/-- One end of a connection: its handler, what waits to be written to it,
and the end that this is written to. -/
structure FloodPort (N : Type) (B : Bloom) where
  handler : Handler B
  stopped : Bool
  queue : List Message
  peer : N × SocketId

/-- A request that a handler has forwarded or executed: its nonce, the
channel it came from, and the channels it was broadcast to if it was
forwarded. -/
structure Handling where
  nonce : Bytes
  srcSid : SocketId
  broadcast : Option (List SocketId)
  deriving DecidableEq

/-- A node: its channels, the messages that are published to
`node_request_service`, and what its handlers have done, the last one
first. -/
structure FloodNode (N : Type) (B : Bloom) where
  curIdx : Nat
  channels : List (SocketId × FloodPort N B)
  gate : Gate B
  inbox : List (SocketId × Message)
  handled : List Handling

namespace FloodNode
variable {N : Type} {B : Bloom} (c : FloodConf)

def fresh : FloodNode N B := ⟨0, [], Gate.fresh, [], []⟩

end FloodNode

def FloodPort.isChannelReady {N : Type} {B : Bloom} (port : FloodPort N B) : Bool :=
  port.handler.loginSuccess ∧ port.stopped = false

namespace FloodNode
variable {N : Type} {B : Bloom} (c : FloodConf)

def haveActiveChannel (node : FloodNode N B) : Bool := node.channels.any (fun channel => channel.2.isChannelReady)

/-- The channels that a broadcast goes to: a socket id of number 0 excludes
none. -/
def broadcastTo (excludeSid : SocketId) (channel : SocketId × FloodPort N B) : Bool :=
  ¬ (excludeSid.id ≠ 0 ∧ channel.1 = excludeSid) ∧ channel.2.isChannelReady

/-- `connection_manager::broadcast_message`, with the channels that it has
written to. -/
def broadcastMessage (msg : Message) (excludeSid : SocketId) (node : FloodNode N B) :
    List SocketId × FloodNode N B :=
  if msg.content.header.nonce.getD [] = [] then ([], node)
  else if node.haveActiveChannel = false then ([], node)
  else ((node.channels.filter (broadcastTo excludeSid)).map (·.1), { node with
    channels := node.channels.map (fun channel =>
      if broadcastTo excludeSid channel then (channel.1, { channel.2 with queue := channel.2.queue ++ [msg] })
      else channel) })

/-- The socket id of a message that came from no channel. -/
def noSid : SocketId := ⟨.server, 0⟩

/-- A message that `node_request_service` takes from its queue. -/
def handle (chain : ChainView) (made : Bytes) (sid : SocketId) (msg : Message) (node : FloodNode N B) :
    FloodNode N B :=
  let header := msg.content.header
  let (verdict, gate) :=
    if msg.name = serviceBroadcastName then node.gate.onNetServiceBroadcastReq c header
    else node.gate.onNodeRequest c chain made msg.name header msg.content.data
  match verdict with
  | .dropped => { node with gate }
  | .executed => { node with gate, handled := ⟨header.nonce.getD [], sid, none⟩ :: node.handled }
  | .forwarded =>
    let (written, node) := { node with gate }.broadcastMessage (msg.pushPath c.env.nodeId) sid
    { node with handled := ⟨header.nonce.getD [], sid, some written⟩ :: node.handled }

def getChannel (sid : SocketId) (node : FloodNode N B) : Option (FloodPort N B) :=
  (node.channels.find? (·.1 = sid)).map (·.2)

def updateChannel (sid : SocketId) (f : FloodPort N B → FloodPort N B) (node : FloodNode N B) : FloodNode N B :=
  { node with
    channels := node.channels.map
      (fun channel => if channel.1 = sid then (channel.1, f channel.2) else channel) }

/-- A new channel, under the next socket id. -/
def addChannel (type : SocketType) (peer : N × SocketId) (node : FloodNode N B) : FloodNode N B :=
  { node with
    curIdx := node.curIdx + 1
    channels := node.channels ++ [(⟨type, node.curIdx + 1⟩, ⟨Handler.fresh type, false, [], peer⟩)] }

/-- A message that has come over a channel: what its handler publishes goes
to the queue of the service that has registered for its name. -/
def receive (sid : SocketId) (msg : Message) (node : FloodNode N B) : Option (FloodNode N B) := do
  let port ← node.getChannel sid
  let heard := (port.handler.onMessage c.conf msg).2
  let published := (heard.published.drop port.handler.published.length).filter
    (fun msg => msg.name ∈ serviceBroadcastName :: requestNames)
  return { node.updateChannel sid (fun port => { port with handler := heard }) with
    inbox := node.inbox ++ published.map (fun msg => (sid, msg)) }

/-- The front of the queue of a channel is encoded and sent to its peer. -/
def transmit (sid : SocketId) (node : FloodNode N B) : Option ((N × SocketId × Message) × FloodNode N B) := do
  let port ← node.getChannel sid
  let msg ← port.queue.head?
  return ((port.peer.1, port.peer.2, msg),
    node.updateChannel sid
      (fun port => { port with handler := port.handler.onWritten msg, queue := port.queue.tail }))

end FloodNode

/-- The nodes and the messages between them. -/
structure Flood (N : Type) (B : Bloom) where
  nodes : N → FloodNode N B
  wire : List (N × SocketId × Message)

/-- What can happen: two nodes connect, logins and other traffic of a
channel, a channel stops or is dropped, a client's request starts at a node,
a peer outside sends a message, a node writes one, one reaches its node or
is lost, and a service takes one from its queue. -/
inductive FloodEvent (N : Type)
  | connect (client server : N)
  | outside (n : N) (sid : SocketId) (event : Handler.Outside)
  | stop (n : N) (sid : SocketId)
  | drop (n : N) (sid : SocketId)
  | originate (n : N) (msg : Message)
  | arrive (n : N) (sid : SocketId) (msg : Message)
  | transmit (n : N) (sid : SocketId)
  | deliver (place : Nat)
  | lose (place : Nat)
  | handle (n : N) (chain : ChainView) (made : Bytes)

namespace Flood
variable {N : Type} [DecidableEq N] {B : Bloom} (c : N → FloodConf)

def start : Flood N B := ⟨fun _ => FloodNode.fresh, []⟩

def setNode (n : N) (node : FloodNode N B) (s : Flood N B) : Flood N B :=
  { s with nodes := Function.update s.nodes n node }

def step (s : Flood N B) : FloodEvent N → Option (Flood N B)
  | .connect client server =>
    let clientSid : SocketId := ⟨.client, (s.nodes client).curIdx + 1⟩
    let s' := s.setNode client
      ((s.nodes client).addChannel .client (server, ⟨.server, (s.nodes server).curIdx + 1⟩))
    if client = server then none
    else some (s'.setNode server ((s.nodes server).addChannel .server (client, clientSid)))
  | .outside n sid event =>
    some (s.setNode n
      ((s.nodes n).updateChannel sid (fun port => { port with handler := port.handler.outside event })))
  | .stop n sid => some (s.setNode n ((s.nodes n).updateChannel sid (fun port => { port with stopped := true })))
  | .drop n sid =>
    some (s.setNode n { s.nodes n with channels := (s.nodes n).channels.filter (fun channel => channel.1 ≠ sid) })
  | .originate n msg => some (s.setNode n ((s.nodes n).broadcastMessage msg FloodNode.noSid).2)
  | .arrive n sid msg => some { s with wire := s.wire ++ [(n, sid, msg)] }
  | .transmit n sid => do
    let (sent, node) ← (s.nodes n).transmit sid
    return { s.setNode n node with wire := s.wire ++ [sent] }
  | .deliver place => do
    let (n, sid, msg) ← s.wire[place]?
    let node ← (s.nodes n).receive (c n) sid msg
    return { s.setNode n node with wire := s.wire.eraseIdx place }
  | .lose place => some { s with wire := s.wire.eraseIdx place }
  | .handle n chain made => do
    let (sid, msg) ← (s.nodes n).inbox.head?
    return s.setNode n ({ s.nodes n with inbox := (s.nodes n).inbox.tail }.handle (c n) chain made sid msg)

end Flood

end DbcNode
