import DbcNode.Lib.OrdMap
import DbcNode.Message
import DbcNode.NonceFilter

namespace DbcNode

/-- The REST requests that another node answers. -/
inductive RestKind
  | listTask
  | createTask
  | startTask
  | shutdownTask
  | poweroffTask
  | stopTask
  | restartTask
  | resetTask
  | deleteTask
  | modifyTask
  | passwdTask
  | taskLogs
  | listImages
  | downloadImage
  | downloadImageProgress
  | stopDownloadImage
  | uploadImage
  | uploadImageProgress
  | stopUploadImage
  | deleteImage
  | listDisk
  | resizeDisk
  | addDisk
  | deleteDisk
  | queryNodeInfo
  | freeMemory
  | sessionId
  | listSnapshot
  | createSnapshot
  | deleteSnapshot
  | listMonitorServer
  | setMonitorServer
  | listLan
  | createLan
  | deleteLan
  deriving DecidableEq, Repr

/-- What the client is told where no node answers in time. -/
def RestKind.timeoutText : RestKind → Bytes
  | .listTask => str "list task timeout"
  | .createTask => str "create task timeout"
  | .startTask => str "start task timeout"
  | .shutdownTask => str "shutdown task timeout"
  | .poweroffTask | .stopTask => str "stop task timeout"
  | .restartTask => str "restart task timeout"
  | .resetTask => str "reset task timeout"
  | .deleteTask => str "delete task timeout"
  | .modifyTask => str "modify task timeout"
  | .passwdTask => str "set task user password timeout"
  | .taskLogs => str "task logs timeout"
  | .listImages => str "list images timeout"
  | .downloadImage | .stopDownloadImage => str "download image timeout"
  | .downloadImageProgress => str "query download image progress timeout"
  | .uploadImage | .stopUploadImage | .deleteImage => str "upload image timeout"
  | .uploadImageProgress => str "query upload image progress timeout"
  | .listDisk => str "list disk timeout"
  | .resizeDisk => str "resize disk timeout"
  | .addDisk => str "add disk timeout"
  | .deleteDisk => str "delete disk timeout"
  | .queryNodeInfo => str "query node info timeout"
  | .freeMemory => str "free memory timeout"
  | .sessionId => str "get session_id timeout"
  | .listSnapshot => str "list snapshot timeout"
  | .createSnapshot => str "create snapshot timeout"
  | .deleteSnapshot => str "delete snapshot timeout"
  | .listMonitorServer => str "list monitor server timeout"
  | .setMonitorServer => str "set monitor server timeout"
  | .listLan => str "list local area network timeout"
  | .createLan => str "create local area network timeout"
  | .deleteLan => str "delete local area network timeout"

/-- What the client is told of a response that cannot be decrypted, of one
where that throws, and of one that is no document. -/
structure RspTexts where
  undecrypted : Bytes
  thrown : Bytes
  unparsed : Bytes

def RestKind.rspTexts : RestKind → RspTexts
  | .listImages | .downloadImage | .downloadImageProgress | .stopDownloadImage | .uploadImage | .uploadImageProgress
  | .stopUploadImage | .deleteImage | .listDisk | .resizeDisk | .addDisk | .deleteDisk | .freeMemory =>
    ⟨str "rsp decrypt error1", str "rsp decrypt error2", str "http response parse error"⟩
  | .queryNodeInfo | .sessionId => ⟨str "rsq decrypt error1", str "rsq decrypt error2", str "response parse error"⟩
  | _ => ⟨str "rsq decrypt error1", str "req decrypt error2", str "response parse error"⟩

/-- What `reply_comm_rest_err` and `reply_comm_rest_succ2` are called
with. -/
inductive RestReply
  | err (status : Nat) (code : Int) (message : Bytes)
  | succ (json : Bytes)
  deriving DecidableEq

def RestReply.internal (code : Int) (message : Bytes) : RestReply := .err 500 code message

/-- `HTTP_BADREQUEST` with `RPC_RESPONSE_ERROR`. -/
def RestReply.refused (message : Bytes) : RestReply := .err 400 (-32701) message

inductive Decrypted
  | failed
  | thrown
  | message (text : Bytes)

/-- The keys and the cryptography of the node, and the parser of
documents. -/
structure RestEnv where
  privKey : Bytes
  checkId : Bytes → Bool
  verifySign : Bytes → Bytes → Bytes → Bool
  decryptData : Bytes → Bytes → Bytes → Decrypted
  parses : Bytes → Bool

/-- A response of a node, by the name of its request. -/
structure RspMessage where
  kind : RestKind
  nonce : Bytes
  sessionId : Bytes
  extenInfo : OrdMap Bytes Bytes
  data : Bytes

/-- A session keeps the request that waits in it. -/
structure RestSession where
  timerId : Nat
  request : Nat
  peerNodeId : Bytes

/-- A timer that goes off once. -/
structure RestTimer where
  timerId : Nat
  kind : RestKind
  sessionId : Bytes
  timeOutTick : Nat

/-- The sessions and the timers of the service, the kinds that have a timer
callback, and the requests whose handler has not come to the end, by the
numbers in which they arrived. `replies` has the calls of `write_reply`, the
last one first, and `opened` the session and the timer that were made for a
request. -/
structure RestService (B : Bloom) where
  sessions : OrdMap Bytes RestSession
  timers : List RestTimer
  timerInvokers : List RestKind
  timerAllocId : Nat
  arrived : Nat
  handling : List Nat
  replies : List (Nat × RestReply)
  opened : List (Nat × Bytes × Nat)
  nonceFilter : NonceFilter B

namespace RestService
variable {B : Bloom}

def empty : RestService B := ⟨.empty, [], [], 0, 0, [], [], [], .fresh⟩

def maxSessionCount : Nat := 1024

def maxTimerId : Nat := 2 ^ 32 - 1

/-- `MAX_WAIT_HTTP_RESPONSE_TIME`, in ticks. -/
def maxWaitTicks : Nat := 300

/-- The requests that have been replied to. -/
def replied (s : RestService B) : List Nat := s.replies.map Prod.fst

def writeReply (request : Nat) (reply : RestReply) (s : RestService B) : RestService B :=
  { s with replies := (request, reply) :: s.replies }

/-- The end of a request that nobody holds any more: its destructor replies
where nobody did. -/
def release (request : Nat) (s : RestService B) : RestService B :=
  if request ∈ s.replied ∨ request ∈ s.handling ∨
    s.sessions.values.any (fun session => session.request = request) then s
  else s.writeReply request (.internal (-32701) (str "Unhandled request"))

/-- The callback of a timer is kept by its name. -/
def addTimer (kind : RestKind) (sessionId : Bytes) (curTick : Nat) (s : RestService B) :
    Option (Nat × RestService B) :=
  if s.timerAllocId = maxTimerId then none
  else
    let timerId := s.timerAllocId + 1
    some (timerId, { s with
      timerAllocId := timerId
      timers := s.timers ++ [⟨timerId, kind, sessionId, curTick + maxWaitTicks⟩]
      timerInvokers := kind :: s.timerInvokers })

/-- With a timer goes the callback of its name, which other timers may have
too. -/
def removeTimer (timerId : Nat) (s : RestService B) : RestService B :=
  match s.timers.find? (fun timer => timer.timerId = timerId) with
  | none => s
  | some timer => { s with
      timers := s.timers.eraseP (fun timer => timer.timerId = timerId)
      timerInvokers := s.timerInvokers.filter (· ≠ timer.kind) }

def removeSession (sessionId : Bytes) (s : RestService B) : RestService B :=
    { s with sessions := s.sessions.erase sessionId }

/-- The session of a request, unless there are too many or one of its id. -/
def createRequestSession (timerId request : Nat) (sessionId peerNodeId : Bytes) (s : RestService B) :
    Option (RestService B) :=
  if s.sessions.entries.length ≥ maxSessionCount ∨ (s.sessions.find sessionId).isSome then none
  else some { s with
    sessions := s.sessions.insert sessionId ⟨timerId, request, peerNodeId⟩
    opened := (request, sessionId, timerId) :: s.opened }

/-- A handler as far as its broadcast: it has the message, and makes a timer
and a session. -/
def openRequest (kind : RestKind) (sessionId peerNodeId : Bytes) (curTick : Nat) (s : RestService B) :
    RestService B :=
  let request := s.arrived
  let s := { s with arrived := s.arrived + 1 }
  match s.addTimer kind sessionId curTick with
  | none => s.writeReply request (.refused (str "add timer failed"))
  | some (timerId, s) =>
    match s.createRequestSession timerId request sessionId peerNodeId with
    | none => (s.removeTimer timerId).writeReply request (.refused (str "create request session failed"))
    | some s => { s with handling := request :: s.handling }

/-- The rest of a handler. Nothing is sent where no channel is active. -/
def broadcastRequest (request : Nat) (haveActiveChannel : Bool) (s : RestService B) : RestService B :=
  let ended := { s with handling := s.handling.erase request }
  if haveActiveChannel then ended.release request
  else ended.writeReply request (.refused (str "broadcast request failed"))

/-- A request that its handler answers itself, or forgets. -/
def answerRequest (reply : Option RestReply) (s : RestService B) : RestService B :=
  let request := s.arrived
  let s := { s with arrived := s.arrived + 1 }
  match reply with
  | some reply => s.writeReply request reply
  | none => s.release request

section Response
variable (env : RestEnv)

/-- A nonce goes into the filter before the rest of the header is looked
at. -/
def checkRspHeader (msg : RspMessage) (filter : NonceFilter B) : Bool × NonceFilter B :=
  if msg.nonce = [] ∨ env.checkId msg.nonce = false then (false, filter)
  else
    let (used, filter) := filter.contains msg.nonce
    (used = false ∧ msg.sessionId ≠ [] ∧ env.checkId msg.sessionId ∧ 2 ≤ msg.extenInfo.entries.length ∧
      (msg.extenInfo.find (str "pub_key")).isSome, filter)

/-- What `on_node_list_task_rsp` and its likes reply. -/
def rspReply (msg : RspMessage) : RestReply :=
  let texts := msg.kind.rspTexts
  let pubKey := (msg.extenInfo.find (str "pub_key")).getD []
  if pubKey = [] ∨ env.privKey = [] then .internal (-1) (str "pub_key or priv_key is empty")
  else match env.decryptData msg.data pubKey env.privKey with
    | .failed => .internal (-1) texts.undecrypted
    | .thrown => .internal (-1) texts.thrown
    | .message text =>
      if text = [] then .internal (-1) texts.undecrypted
      else if env.parses text = false then .internal (-1) texts.unparsed
      else .succ text

/-- A response without a session here goes on to other nodes. -/
def onCallRspHandler (msg : RspMessage) (s : RestService B) : RestService B :=
  match s.sessions.find msg.sessionId with
  | none => s
  | some session =>
    let (passes, filter) := checkRspHeader env msg s.nonceFilter
    let s := { s with nonceFilter := filter }
    if passes = false then s
    else if env.verifySign ((msg.extenInfo.find (str "sign")).getD [])
      (msg.nonce ++ msg.sessionId) session.peerNodeId = false
      then s
    else
      (((s.writeReply session.request (rspReply env msg)).removeTimer session.timerId).removeSession
        msg.sessionId).release
      session.request

end Response

/-- `on_node_list_task_timer` and its likes. -/
def onTimer (timer : RestTimer) (s : RestService B) : RestService B :=
  match s.sessions.find timer.sessionId with
  | none => s
  | some session =>
    (s.writeReply session.request (.internal (-1) timer.kind.timeoutText)).removeSession timer.sessionId

/-- A timer whose callback is gone does nothing. -/
def invokeTimer (timer : RestTimer) (s : RestService B) : RestService B :=
  if timer.kind ∈ s.timerInvokers then s.onTimer timer else s

/-- The timers that are due are called, and then removed. -/
def onTimerTick (timeTick : Nat) (s : RestService B) : RestService B :=
  let due := s.timers.filter (fun timer => timer.timeOutTick ≤ timeTick)
  (due.map (·.timerId)).foldl (fun s timerId => s.removeTimer timerId)
    (due.foldl (fun s timer => s.invokeTimer timer) s)

end RestService

/-- What happens to the service: requests of clients, in two steps where
another node is asked, responses, and ticks of the clock. -/
inductive RestEvent
  | answer (reply : Option RestReply)
  | request (kind : RestKind) (sessionId peerNodeId : Bytes) (curTick : Nat)
  | broadcast (request : Nat) (haveActiveChannel : Bool)
  | response (msg : RspMessage)
  | tick (timeTick : Nat)

def RestService.step {B : Bloom} (env : RestEnv) (s : RestService B) : RestEvent → Option (RestService B)
  | .answer reply => some (s.answerRequest reply)
  | .request kind sessionId peerNodeId curTick => some (s.openRequest kind sessionId peerNodeId curTick)
  | .broadcast request haveActiveChannel =>
    if request ∈ s.handling then some (s.broadcastRequest request haveActiveChannel) else none
  | .response msg => some (s.onCallRspHandler env msg)
  | .tick timeTick => some (s.onTimerTick timeTick)

end DbcNode
