import DbcNode.Coder.Chunking
import DbcNode.Coder.Receive
import DbcNode.Lib.Runs
import DbcNode.NonceFilter
import DbcNode.Peer.Network

namespace DbcNode

/-- What a handler knows of its node, and the compression library. -/
structure NodeConf where
  nodeId : Bytes
  netFlag : BitVec 32
  snappy : Snappy

/-- The matrix handler of a channel, with the id that its channel has
learnt, what it has handed to the topic manager and the headers that it has
answered with. -/
structure Handler (B : Bloom) where
  type : SocketType
  remoteNodeId : Bytes
  loginSuccess : Bool
  recvVerReq : Bool
  hasMessage : Bool
  nonceFilter : NonceFilter B
  published : List Message
  answered : List BaseHeader

def verReqName : Bytes := str "ver_req"

def verRespName : Bytes := str "ver_resp"

def shakeHandReqName : Bytes := str "shake_hand_req"

def shakeHandRespName : Bytes := str "shake_hand_resp"

/-- The requests, and the responses, whose path is looked at. -/
def pathReqNames : List Bytes :=
    [str "node_list_task_req", str "node_task_logs_req", str "node_query_node_info_req"]

def pathRespNames : List Bytes :=
    [str "node_list_task_rsp", str "node_task_logs_rsp", str "node_query_node_info_rsp"]

/-- The text that a body starts with. -/
def Fields.firstText : (fields : Fields) → fields.Val → Option Bytes
  | .required _ .string _, body => some body.1
  | _, _ => none

/-- The node id of a login message, which its body starts with. -/
def Content.nodeId : Content → Option Bytes
  | .typed t _ _ body => t.body.firstText body
  | .forward _ _ => none

/-- `std::unique` leaves the path as long as it was. -/
def noRepeats (path : List Bytes) : Bool := path.destutter (· ≠ ·) = path

def validateRespPath (msgName : Bytes) (path : List Bytes) : Bool :=
  if msgName ∉ pathRespNames then true
  else path.length ≤ 20 ∧ noRepeats path

def validateReqPath (nodeId peerId msgName : Bytes) (path : List Bytes) : Bool :=
  if msgName ∉ pathReqNames then true
  else (path.length ≠ 0 ∧ path.length ≤ 100) ∧ path.getLast? = some peerId ∧ nodeId ∉ path ∧ noRepeats path

namespace Handler
variable {B : Bloom}

def fresh (type : SocketType) : Handler B := ⟨type, [], false, false, false, NonceFilter.fresh, [], []⟩

/-- The client side takes any `ver_resp` for the end of the login. There is
no next state where an error is returned. -/
def clientAfterMsgReceived (msg : Message) (h : Handler B) : Option (Handler B) :=
  if h.loginSuccess = false ∧ msg.name ≠ verRespName then none
  else if msg.name = verRespName then if h.loginSuccess then none else some { h with loginSuccess := true }
  else some h

/-- The server side takes one `ver_req`, and answers a heartbeat by
itself. -/
def serverAfterMsgReceived (conf : NodeConf) (msg : Message) (h : Handler B) : Option (Handler B) :=
  if msg.content.header.magic ≠ conf.netFlag then none
  else if h.loginSuccess = false ∧ msg.name ≠ verReqName then none
  else if msg.name = verReqName then
    if msg.content.nodeId = some conf.nodeId then none
    else if h.recvVerReq then none
    else some { h with recvVerReq := true }
  else if msg.name = shakeHandReqName then
    some { h with answered := h.answered ++ [⟨conf.netFlag, shakeHandRespName, none, none, none, none⟩] }
  else some h

def onAfterMsgReceived (conf : NodeConf) (msg : Message) (h : Handler B) : Option (Handler B) :=
  match h.type with
  | .client => h.clientAfterMsgReceived msg
  | .server => h.serverAfterMsgReceived conf msg

/-- The server side has logged in once its `ver_resp` is sent. -/
def onAfterMsgSent (msgName : Bytes) (h : Handler B) : Handler B :=
  match h.type with
  | .client => h
  | .server => if msgName = verRespName then { h with loginSuccess := true } else h

def setHasMessage (msgName : Bytes) (h : Handler B) : Handler B :=
  if msgName ∈ [shakeHandReqName, shakeHandRespName, verReqName, verRespName] then h
  else { h with hasMessage := true }

/-- After an encoding that succeeded: the nonce of what is sent is not
received again. -/
def onWritten (msg : Message) (h : Handler B) : Handler B :=
  if msg.name = shakeHandReqName ∨ msg.name = shakeHandRespName then h.setHasMessage msg.name
  else { h with
    nonceFilter := h.nonceFilter.insert (msg.content.header.nonce.getD []) }.setHasMessage msg.name

/-- What other threads and the timers do to a handler between its calls. -/
inductive Outside
  | sent (msgName : Bytes)
  | written (msg : Message)
  | identified (nodeId : Bytes)
  | shakeHandTimer

def outside (h : Handler B) : Outside → Handler B
  | .sent msgName => h.onAfterMsgSent msgName
  | .written msg => h.onWritten msg
  | .identified nodeId => { h with remoteNodeId := nodeId }
  | .shakeHandTimer => { h with hasMessage := false }

end Handler

/-- What `on_read` returns: success, the default error of a handler, or the
status of a decoder that failed. -/
inductive ReadStatus
  | success
  | default
  | decode (status : DecodeStatus)
  deriving DecidableEq, Repr

namespace Handler
variable {B : Bloom}

/-- A decoded message: whether the loop goes on, or what `on_read` returns.
The speed limit of the source is off. -/
def onMessage (conf : NodeConf) (msg : Message) (h : Handler B) : (Unit ⊕ ReadStatus) × Handler B :=
  match h.onAfterMsgReceived conf msg with
  | none => (.inr .default, h)
  | some h =>
    if msg.name = shakeHandReqName ∨ msg.name = shakeHandRespName then (.inl (), h.setHasMessage msg.name)
    else if validateReqPath conf.nodeId h.remoteNodeId msg.name (msg.content.header.path.getD []) = false then
      (.inr .success, h)
    else if validateRespPath msg.name (msg.content.header.path.getD []) = false then (.inr .success, h)
    else
      let (seen, nonceFilter) := h.nonceFilter.contains (msg.content.header.nonce.getD [])
      let heard := { h with nonceFilter }
      if seen then (.inl (), heard.setHasMessage msg.name)
      else (.inl (), { heard with published := heard.published ++ [msg] }.setHasMessage msg.name)

/-- What `decode` has returned: a message that is not known is passed over,
and one without a content is an error. -/
def onDecoded (conf : NodeConf) (result : DecodeStatus × Option Message) (h : Handler B) :
    (Unit ⊕ ReadStatus) × Handler B :=
  match result with
  | (.success, some msg) => h.onMessage conf msg
  | (.success, none) => (.inr (.decode .error), h)
  | (.unknownMsg, _) => (.inl (), h)
  | (.needMoreData, _) => (.inl (), h)
  | (.error, _) => (.inr (.decode .error), h)

end Handler

/-- A handler with its decoder. -/
structure Line (B : Bloom) where
  handler : Handler B
  decoder : Receiver

namespace Line
variable {B : Bloom}

def readRound (conf : NodeConf) : Prog Exn (Line B) (Unit ⊕ ReadStatus) := fun l =>
  if hasCompleteMessage l.decoder.recvMessages = false then (.ok (.inr .success), l)
  else match decode conf.snappy ⟨false, 0, conf.nodeId⟩ l.decoder with
    | (.error e, decoder) => (.error e, { l with decoder })
    | (.ok result, decoder) =>
      let (turn, handler) := l.handler.onDecoded conf result
      (.ok turn, ⟨handler, decoder⟩)

/-- A frame leaves the decoder in every round, so one more round than there
are frames ends the loop. -/
def readLoop (conf : NodeConf) : Prog Exn (Line B) ReadStatus := do
  Prog.loop (← Prog.fetch (·.decoder.recvMessages.length + 1)) (fun _ => readRound conf) ()

def onRead (conf : NodeConf) (input : ByteBuf) : Prog Exn (Line B) ReadStatus := fun l =>
  if input.validReadLen = 0 then (.ok .success, l)
  else match recvMessage ⟨input, l.decoder.recvMessages⟩ with
    | (.error e, box) => (.error e, { l with decoder := { l.decoder with recvMessages := box.recvMessages } })
    | (.ok status, box) =>
      let received : Line B := { l with decoder := { l.decoder with recvMessages := box.recvMessages } }
      if status ≠ .success then (.ok (.decode status), received) else readLoop conf received

end Line

/-- What happens to a channel that is read from. -/
inductive LineEvent
  | read (input : ByteBuf)
  | outside (event : Handler.Outside)

/-- Whether the channel reads on. -/
def ReadStatus.fine : Except (Stop Exn) ReadStatus → Bool
  | .ok .success => true
  | _ => false

/-- A channel: once `on_read` has returned an error, or thrown one, it is
closed. -/
structure Session (B : Bloom) where
  line : Line B
  open_ : Bool

namespace Session
variable {B : Bloom}

def start (type : SocketType) : Session B := ⟨⟨Handler.fresh type, ⟨Protos.fresh, []⟩⟩, true⟩

def step (conf : NodeConf) (s : Session B) (event : LineEvent) : Option (Session B) :=
  if s.open_ = false then none
  else match event with
    | .read input => some ⟨(s.line.onRead conf input).2, ReadStatus.fine (s.line.onRead conf input).1⟩
    | .outside event => some { s with line := { s.line with handler := s.line.handler.outside event } }

end Session

/-- The bytes that a channel has received, the last event first. -/
def streamOf : List LineEvent → Bytes
  | [] => []
  | .read input :: earlier => streamOf earlier ++ input.data
  | .outside _ :: earlier => streamOf earlier

/-- What a handler goes through: the frames that the length prefixes cut the
stream into, each when its last byte has arrived, and what comes from
outside. -/
def storyOf : List LineEvent → List (Bytes ⊕ Handler.Outside)
  | [] => []
  | .read input :: earlier => storyOf earlier ++ (((matrixFraming.cut (streamOf (.read input :: earlier))).1.drop
      (matrixFraming.cut (streamOf earlier)).1.length).map .inl)
  | .outside event :: earlier => storyOf earlier ++ [.inr event]

end DbcNode
