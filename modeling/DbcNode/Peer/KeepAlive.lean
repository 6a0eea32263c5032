import DbcNode.Channel.SendQueue
import DbcNode.Peer.LoggedIn

namespace DbcNode

def lostShakeHandCountMax : Nat := 3

/-- A heartbeat: `shake_hand_req` or `shake_hand_resp`. -/
def shakeHandMsg (conf : NodeConf) {name : Bytes} (registered : MsgType.Registered ⟨name, emptyBody⟩) : Message :=
  ⟨name, .typed ⟨name, emptyBody⟩ registered ⟨conf.netFlag, name, none, none, none, none⟩ ()⟩

theorem shakeHandReq_registered : MsgType.Registered ⟨shakeHandReqName, emptyBody⟩ := rfl

theorem shakeHandResp_registered : MsgType.Registered ⟨shakeHandRespName, emptyBody⟩ := rfl

theorem verResp_registered : MsgType.Registered ⟨verRespName, verRespBody⟩ := rfl

/-- One end of a connection: its handler, the messages of its channel that
are not sent to the end (the first one is on its way), the counter and the
timer of the heartbeats, whether an error has been reported, and whether it
was the timer that reported it. -/
structure Pulse (B : Bloom) where
  handler : Handler B
  sendQueue : List Message
  lostShakeHandCount : Nat
  shakeHandTimer : Bool
  failed : Bool
  timedOut : Bool

namespace Pulse
variable {B : Bloom}

/-- `write` of the channel, and what it puts on the wire. -/
def write (msg : Message) (p : Pulse B) : Pulse B × List Message :=
  if p.sendQueue.length > maxSendQueueMsgCount then (p, [])
  else if p.sendQueue ≠ [] then ({ p with sendQueue := p.sendQueue ++ [msg] }, [])
  else ({ p with handler := p.handler.onWritten msg, sendQueue := [msg] }, [msg])

def startShakeHandTimer (p : Pulse B) : Pulse B :=
  { p with shakeHandTimer := true, handler := { p.handler with hasMessage := false } }

def clientAfterMsgSent (msgName : Bytes) (p : Pulse B) : Pulse B :=
  if msgName = verReqName then p
  else if msgName = shakeHandReqName then p
  else { p with lostShakeHandCount := 0 }

def serverAfterMsgSent (msgName : Bytes) (p : Pulse B) : Pulse B :=
  if msgName = verRespName then startShakeHandTimer { p with handler := p.handler.onAfterMsgSent msgName }
  else { p with lostShakeHandCount := 0 }

def afterMsgSent (msgName : Bytes) (p : Pulse B) : Pulse B :=
  match p.handler.type with
  | .client => p.clientAfterMsgSent msgName
  | .server => p.serverAfterMsgSent msgName

/-- `on_write` of the channel when all of the first message is sent: the
next one follows. -/
def sent (p : Pulse B) : Pulse B × List Message :=
  match p.sendQueue with
  | [] => (p, [])
  | [msg] => ({ p.afterMsgSent msg.name with sendQueue := [] }, [])
  | msg :: next :: rest =>
    let done := p.afterMsgSent msg.name
    ({ done with handler := done.handler.onWritten next, sendQueue := next :: rest }, [next])

/-- `on_read` with one message, and what `on_after_msg_received` does with
counter and timer. -/
def receive (conf : NodeConf) (msg : Message) (p : Pulse B) : Pulse B × List Message :=
  match p.handler.onAfterMsgReceived conf msg with
  | none => ({ p with failed := true }, [])
  | some _ =>
    let heard := { p with handler := (p.handler.onMessage conf msg).2 }
    match p.handler.type with
    | .client =>
      if msg.name = verRespName then (heard.startShakeHandTimer, [])
      else ({ heard with lostShakeHandCount := 0 }, [])
    | .server =>
      if msg.name = verReqName then (heard, [])
      else if msg.name = shakeHandReqName then
        let (answered, put) := heard.write (shakeHandMsg conf shakeHandResp_registered)
        ({ answered with lostShakeHandCount := 0 }, put)
      else ({ heard with lostShakeHandCount := 0 }, [])

/-- `on_shake_hand_timer_expired` of a client, which only sends. -/
def clientTick (conf : NodeConf) (p : Pulse B) : Pulse B × List Message :=
  let asked := if p.handler.loginSuccess = true ∧ p.handler.hasMessage = false then
    p.write (shakeHandMsg conf shakeHandReq_registered) else (p, [])
  ({ asked.1 with handler := { asked.1.handler with hasMessage := false } }, asked.2)

/-- `on_shake_hand_timer_expired` of a server, which only counts. -/
def serverTick (p : Pulse B) : Pulse B :=
  let counted := { p with lostShakeHandCount := p.lostShakeHandCount + 1 }
  if counted.lostShakeHandCount ≥ lostShakeHandCountMax then
    { counted with shakeHandTimer := false, failed := true, timedOut := true }
  else counted

end Pulse

/-- A connection: its ends, what is on the wire from the client and from the
server, and whether the timer of the client has gone off since the one of
the server has. -/
structure Connection (B : Bloom) where
  client : Pulse B
  server : Pulse B
  up : List Message
  down : List Message
  beat : Bool

inductive PulseEvent
  | clientWrites (msg : Message)
  | serverWrites (msg : Message)
  | clientSent
  | serverSent
  | clientReceives
  | serverReceives
  | clientTick
  | serverTick

namespace Connection
variable {B : Bloom}

/-- One of the ends does something; a channel with an error is closed. -/
def step (clientConf serverConf : NodeConf) (s : Connection B) : PulseEvent → Option (Connection B)
  | .clientWrites msg =>
    if s.client.failed then none
    else some { s with client := (s.client.write msg).1, up := s.up ++ (s.client.write msg).2 }
  | .serverWrites msg =>
    if s.server.failed then none
    else some { s with server := (s.server.write msg).1, down := s.down ++ (s.server.write msg).2 }
  | .clientSent =>
    if s.client.failed ∨ s.client.sendQueue = [] then none
    else some { s with client := s.client.sent.1, up := s.up ++ s.client.sent.2 }
  | .serverSent =>
    if s.server.failed ∨ s.server.sendQueue = [] then none
    else some { s with server := s.server.sent.1, down := s.down ++ s.server.sent.2 }
  | .clientReceives =>
    match s.down with
    | [] => none
    | msg :: rest =>
      if s.client.failed then none
      else some { s with
        client := (s.client.receive clientConf msg).1, down := rest, up :=
          s.up ++ (s.client.receive clientConf msg).2 }
  | .serverReceives =>
    match s.up with
    | [] => none
    | msg :: rest =>
      if s.server.failed then none
      else some { s with
        server := (s.server.receive serverConf msg).1, up := rest, down :=
          s.down ++ (s.server.receive serverConf msg).2 }
  | .clientTick =>
    if s.client.failed ∨ s.client.shakeHandTimer = false then none
    else some { s with
      client := (s.client.clientTick clientConf).1, up := s.up ++ (s.client.clientTick clientConf).2, beat := true }
  | .serverTick =>
    if s.server.failed ∨ s.server.shakeHandTimer = false then none
    else some { s with server := s.server.serverTick, beat := false }

/-- What an event does, and what it tells of the connection that it happens
in. -/
inductive Moves (clientConf serverConf : NodeConf) (s : Connection B) : PulseEvent → Connection B → Prop
  | clientWrites (msg : Message) : Moves clientConf serverConf s (.clientWrites msg)
      { s with client := (s.client.write msg).1, up := s.up ++ (s.client.write msg).2 }
  | serverWrites (msg : Message) : Moves clientConf serverConf s (.serverWrites msg)
      { s with server := (s.server.write msg).1, down := s.down ++ (s.server.write msg).2 }
  | clientSent {first : Message} {rest : List Message} (queued : s.client.sendQueue = first :: rest) :
      Moves clientConf serverConf s .clientSent
        { s with client := s.client.sent.1, up := s.up ++ s.client.sent.2 }
  | serverSent {first : Message} {rest : List Message} (running : s.server.failed = false)
      (queued : s.server.sendQueue = first :: rest) :
      Moves clientConf serverConf s .serverSent
        { s with server := s.server.sent.1, down := s.down ++ s.server.sent.2 }
  | clientReceives {msg : Message} {rest : List Message} (wire : s.down = msg :: rest) :
      Moves clientConf serverConf s .clientReceives
        { s with
          client := (s.client.receive clientConf msg).1, down := rest,
          up := s.up ++ (s.client.receive clientConf msg).2 }
  | serverReceives {msg : Message} {rest : List Message} (running : s.server.failed = false)
      (wire : s.up = msg :: rest) :
      Moves clientConf serverConf s .serverReceives
        { s with
          server := (s.server.receive serverConf msg).1, up := rest,
          down := s.down ++ (s.server.receive serverConf msg).2 }
  | clientTick (on : s.client.shakeHandTimer = true) : Moves clientConf serverConf s .clientTick
      { s with
        client := (s.client.clientTick clientConf).1, up := s.up ++ (s.client.clientTick clientConf).2,
          beat := true }
  | serverTick (running : s.server.failed = false) :
      Moves clientConf serverConf s .serverTick { s with server := s.server.serverTick, beat := false }

theorem moves_of_step {clientConf serverConf : NodeConf} {s t : Connection B} {event : PulseEvent}
    (ran : s.step clientConf serverConf event = some t) : Moves clientConf serverConf s event t := by
  cases event <;> simp only [step] at ran
  case clientWrites msg =>
    split at ran
    · cases ran
    · cases ran
      exact .clientWrites msg
  case serverWrites msg =>
    split at ran
    · cases ran
    · cases ran
      exact .serverWrites msg
  case clientSent =>
    split at ran
    · cases ran
    · rename_i busy
      cases ran
      obtain ⟨first, rest, queued⟩ := List.exists_cons_of_ne_nil fun none => busy (Or.inr none)
      exact .clientSent queued
  case serverSent =>
    split at ran
    · cases ran
    · rename_i busy
      cases ran
      obtain ⟨first, rest, queued⟩ := List.exists_cons_of_ne_nil fun none => busy (Or.inr none)
      exact .serverSent (by simpa using fun failed => busy (Or.inl failed)) queued
  case clientReceives =>
    split at ran
    · cases ran
    · rename_i msg rest wire
      split at ran
      · cases ran
      · cases ran
        exact .clientReceives wire
  case serverReceives =>
    split at ran
    · cases ran
    · rename_i msg rest wire
      split at ran
      · cases ran
      · rename_i running
        cases ran
        exact .serverReceives (Bool.not_eq_true _ ▸ running) wire
  case clientTick =>
    split at ran
    · cases ran
    · rename_i running
      cases ran
      exact .clientTick (by simpa using fun off => running (Or.inr off))
  case serverTick =>
    split at ran
    · cases ran
    · rename_i busy
      cases ran
      exact .serverTick (by simpa using fun failed => busy (Or.inl failed))

/-- Nothing is on its way. -/
def Still (s : Connection B) : Prop := s.up = [] ∧ s.client.sendQueue = [] ∧ s.down = [] ∧ s.server.sendQueue = []

/-- The services write no login messages and no heartbeats. -/
def Named : PulseEvent → Prop
  | .clientWrites msg => msg.name ∉ [verReqName, verRespName, shakeHandReqName, shakeHandRespName]
  | .serverWrites msg => msg.name ∉ [verReqName, verRespName, shakeHandReqName, shakeHandRespName]
  | _ => True

/-- What is sent arrives before the timer of the server goes off next, and
between two times that it goes off the timer of the client does, too. -/
def Timely (s : Connection B) (event : PulseEvent) : Prop :=
  Named event ∧ (event = .serverTick → s.Still ∧ s.beat = true)

/-- The server has sent its `ver_resp`, which is on the wire. -/
structure LoggedIn (s : Connection B) (resp : Message) : Prop where
  client : s.client.handler.type = .client ∧ s.client.sendQueue = [] ∧ s.client.shakeHandTimer = false
  server : s.server.handler.type = .server ∧ s.server.handler.loginSuccess = true ∧ s.server.sendQueue = [] ∧
    s.server.lostShakeHandCount = 0 ∧ s.server.timedOut = false
  wire : s.up = [] ∧ s.down = [resp]

end Connection

namespace Handler
variable {B : Bloom}

@[simp] theorem setHasMessage_login (h : Handler B) (msgName : Bytes) :
    (h.setHasMessage msgName).loginSuccess = h.loginSuccess ∧ (h.setHasMessage msgName).type = h.type := by
  rw [setHasMessage]
  split
  · exact ⟨rfl, rfl⟩
  · exact ⟨rfl, rfl⟩

theorem onWritten_login (h : Handler B) (msg : Message) :
    (h.onWritten msg).loginSuccess = h.loginSuccess ∧ (h.onWritten msg).type = h.type := by
  rw [onWritten]
  split
  · exact setHasMessage_login h msg.name
  · exact setHasMessage_login _ msg.name

theorem onMessage_login {conf : NodeConf} {msg : Message} {h heard : Handler B}
    (passed : h.onAfterMsgReceived conf msg = some heard) :
    (h.onMessage conf msg).2.loginSuccess = heard.loginSuccess := by
  rw [onMessage, passed]
  dsimp only
  split
  · exact (setHasMessage_login heard msg.name).1
  split
  · rfl
  split
  · rfl
  split
  · exact (setHasMessage_login _ msg.name).1
  · exact (setHasMessage_login _ msg.name).1

end Handler

namespace Pulse
variable {B : Bloom} {p : Pulse B} {msg : Message} {conf : NodeConf}

/-- After a `write` something is on its way; it is on the wire unless
something was on its way before. -/
theorem write_cases (p : Pulse B) (msg : Message) : ∃ handler queue put,
    p.write msg = ({ p with handler, sendQueue := queue }, put) ∧ queue ≠ [] ∧ (put = [] → p.sendQueue ≠ []) ∧
      (∀ m ∈ put ++ queue, m ∈ p.sendQueue ∨ m = msg) ∧
      handler.loginSuccess = p.handler.loginSuccess ∧ handler.type = p.handler.type := by
  rw [write]
  split
  · rename_i full
    have some : p.sendQueue ≠ [] := by
      intro empty
      rw [empty] at full
      cases full
    exact ⟨p.handler, p.sendQueue, [], rfl, some, fun _ => some, fun m member => Or.inl member, rfl, rfl⟩
  split
  · rename_i some
    refine ⟨p.handler, p.sendQueue ++ [msg], [], rfl, by simp, fun _ => some, fun m member => ?_, rfl, rfl⟩
    simpa using member
  · refine ⟨p.handler.onWritten msg, [msg], [msg], rfl, by simp, fun none => (List.cons_ne_nil _ _ none).elim,
      fun m member => ?_, (Handler.onWritten_login _ _).1, (Handler.onWritten_login _ _).2⟩
    exact Or.inr (by simpa using member)

/-- When a message is sent to its end, the next one is put on the wire. -/
theorem sent_cases {first : Message} {rest : List Message} (queued : p.sendQueue = first :: rest) : ∃ handler put,
    p.sent = ({ p.afterMsgSent first.name with handler, sendQueue := rest }, put) ∧
      (rest = [] → put = [] ∧ handler = (p.afterMsgSent first.name).handler) ∧ (put = [] → rest = []) ∧
      (∀ m ∈ put, m ∈ rest) ∧ handler.loginSuccess = (p.afterMsgSent first.name).handler.loginSuccess ∧
      handler.type = (p.afterMsgSent first.name).handler.type := by
  rw [sent, queued]
  cases rest with
  | nil =>
    exact ⟨(p.afterMsgSent first.name).handler, [], rfl, fun _ => ⟨rfl, rfl⟩, fun _ => rfl,
      List.forall_mem_nil _, rfl, rfl⟩
  | cons next rest =>
    refine ⟨(p.afterMsgSent first.name).handler.onWritten next, [next], rfl,
      fun none => (List.cons_ne_nil _ _ none).elim, fun none => (List.cons_ne_nil _ _ none).elim,
        fun m member => ?_,
      (Handler.onWritten_login _ _).1, (Handler.onWritten_login _ _).2⟩
    rw [List.mem_singleton.mp member]
    exact List.mem_cons_self

theorem clientAfterMsgSent_handler (client : p.handler.type = .client) (msgName : Bytes) :
    (p.afterMsgSent msgName).handler = p.handler ∧ (p.afterMsgSent msgName).shakeHandTimer = p.shakeHandTimer := by
  rw [afterMsgSent, client]
  dsimp only
  rw [clientAfterMsgSent]
  split
  · exact ⟨rfl, rfl⟩
  split
  · exact ⟨rfl, rfl⟩
  · exact ⟨rfl, rfl⟩

theorem serverAfterMsgSent_eq (server : p.handler.type = .server) {msgName : Bytes}
    (other : msgName ≠ verRespName) :
    p.afterMsgSent msgName = { p with lostShakeHandCount := 0 } := by
  rw [afterMsgSent, server]
  dsimp only
  rw [serverAfterMsgSent, if_neg other]

theorem serverTick_cases (p : Pulse B) :
    3 ≤ p.lostShakeHandCount + 1 ∧ p.serverTick =
        { p with
          lostShakeHandCount := p.lostShakeHandCount + 1, shakeHandTimer := false, failed :=
            true, timedOut := true } ∨
      p.lostShakeHandCount + 1 < 3 ∧ p.serverTick = { p with lostShakeHandCount := p.lostShakeHandCount + 1 } := by
  by_cases late : 3 ≤ p.lostShakeHandCount + 1
  · exact Or.inl ⟨late, if_pos late⟩
  · exact Or.inr ⟨Nat.lt_of_not_le late, if_neg late⟩

/-- What a client does with a message: nothing is sent, and once its timer
runs it is logged in. -/
theorem clientReceive_cases (client : p.handler.type = .client) (conf : NodeConf) (msg : Message)
    (timer : p.shakeHandTimer = true → p.handler.loginSuccess = true) : ∃ q,
    p.receive conf msg = (q, []) ∧ q.sendQueue = p.sendQueue ∧ q.handler.type = .client ∧
      (q.shakeHandTimer = true → q.handler.loginSuccess = true) := by
  rw [receive]
  cases passed : p.handler.onAfterMsgReceived conf msg with
  | none => exact ⟨_, rfl, rfl, client, timer⟩
  | some heard =>
    have type := (Handler.onMessage_keeps conf msg p.handler).type
    obtain ⟨_, _, logged⟩ := Handler.onAfterMsgReceived_cases passed
    have login : (p.handler.onMessage conf msg).2.loginSuccess = true := by
      rw [Handler.onMessage_login passed]
      rcases logged with login | ⟨server, _⟩
      · exact login
      · rw [client] at server
        cases server
    simp only [client]
    split
    · exact ⟨_, rfl, rfl, type.trans client, fun _ => login⟩
    · exact ⟨_, rfl, rfl, type.trans client, fun _ => login⟩

/-- What a server does with a message other than a login request: unless it
fails, it counts from zero again. -/
theorem serverReceive_cases (server : p.handler.type = .server) (login : p.handler.loginSuccess = true)
    (other : msg.name ≠ verReqName) (conf : NodeConf) : ∃ q put,
    p.receive conf msg = (q, put) ∧ q.timedOut = p.timedOut ∧
      (q.failed = true ∨ q.lostShakeHandCount = 0) ∧ q.handler.type = .server ∧ q.handler.loginSuccess = true ∧
      ∀ m ∈ put ++ q.sendQueue, m ∈ p.sendQueue ∨ m.name = shakeHandRespName := by
  rw [receive]
  cases passed : p.handler.onAfterMsgReceived conf msg with
  | none => exact ⟨_, _, rfl, rfl, Or.inl rfl, server, login, fun m member => Or.inl member⟩
  | some heard =>
    have keeps := Handler.onMessage_keeps conf msg p.handler
    have type := keeps.type.trans server
    have still := (keeps.server server).trans login
    simp only [server, if_neg other]
    split
    · obtain ⟨handler, queue, put, wrote, _, _, member, login', type'⟩ :=
        write_cases { p with handler := (p.handler.onMessage conf msg).2 }
          (shakeHandMsg conf shakeHandResp_registered)
      rw [wrote]
      refine ⟨_, _, rfl, rfl, Or.inr rfl, type'.trans type, login'.trans still, fun m inside => ?_⟩
      rcases member m inside with old | rfl
      · exact Or.inl old
      · exact Or.inr rfl
    · exact ⟨_, _, rfl, rfl, Or.inr rfl, type, still, fun m member => Or.inl member⟩

end Pulse

namespace Connection
variable {B : Bloom} {clientConf serverConf : NodeConf} {s t : Connection B} {event : PulseEvent}

/-- The ends are what they are, and on the way are no login messages that
the counter ignores. -/
structure Sound (s : Connection B) : Prop where
  client : s.client.handler.type = .client ∧ (s.client.shakeHandTimer = true → s.client.handler.loginSuccess = true)
  server : s.server.handler.type = .server ∧ s.server.handler.loginSuccess = true
  requests : ∀ m ∈ s.up ++ s.client.sendQueue, m.name ≠ verReqName
  responses : ∀ m ∈ s.server.sendQueue, m.name ≠ verRespName

theorem LoggedIn.sound {resp : Message} (logged : s.LoggedIn resp) : s.Sound := by
  obtain ⟨⟨client, queue, timer⟩, ⟨server, login, queue', _⟩, up, _⟩ := logged
  refine ⟨⟨client, fun on => ?_⟩, ⟨server, login⟩, ?_, ?_⟩
  · rw [timer] at on
    cases on
  · rw [up, queue]
    exact List.forall_mem_nil _
  · rw [queue']
    exact List.forall_mem_nil _

theorem Sound.clientPuts (sound : s.Sound) {q : Pulse B} {put : List Message} (msg : Message) {beat : Bool}
    (type : q.handler.type = .client) (timer : q.shakeHandTimer = true → q.handler.loginSuccess = true)
    (member : ∀ m ∈ put ++ q.sendQueue, m ∈ s.client.sendQueue ∨ m = msg) (other : msg.name ≠ verReqName) :
    Sound { s with client := q, up := s.up ++ put, beat } := by
  refine ⟨⟨type, timer⟩, sound.server, fun m inside => ?_, sound.responses⟩
  rw [List.append_assoc] at inside
  rcases List.mem_append.mp inside with old | fresh
  · exact sound.requests m (List.mem_append_left _ old)
  · rcases member m fresh with queued | rfl
    · exact sound.requests m (List.mem_append_right _ queued)
    · exact other

/-- What `clientTick` does: it sends a heartbeat, or the client had a
message. -/
theorem Sound.clientTick_cases (sound : s.Sound) (on : s.client.shakeHandTimer = true) :
    (∃ handler queue put, s.client.clientTick clientConf = ({ s.client with handler, sendQueue := queue }, put) ∧
        queue ≠ [] ∧ (put = [] → s.client.sendQueue ≠ []) ∧
        (∀ m ∈ put ++ queue, m ∈ s.client.sendQueue ∨ m = shakeHandMsg clientConf shakeHandReq_registered) ∧
        handler.loginSuccess = true ∧ handler.type = .client) ∨
      s.client.handler.hasMessage = true ∧
        s.client.clientTick clientConf =
          ({ s.client with handler := { s.client.handler with hasMessage := false } }, []) := by
  have login := sound.client.2 on
  simp only [Pulse.clientTick]
  split
  · obtain ⟨handler, queue, put, wrote, some, new, member, login', type⟩ :=
      s.client.write_cases (shakeHandMsg clientConf shakeHandReq_registered)
    rw [wrote]
    exact Or.inl ⟨{ handler with hasMessage := false }, queue, put, rfl, some, new, member, login'.trans login,
      type.trans sound.client.1⟩
  · rename_i idle
    refine Or.inr ⟨?_, rfl⟩
    by_contra without
    exact idle ⟨login, Bool.not_eq_true _ ▸ without⟩

/-- The server has something new on its way, which is no login response. -/
theorem Sound.serverPuts (sound : s.Sound) {q : Pulse B} {down : List Message} {beat : Bool}
    (type : q.handler.type = .server) (login : q.handler.loginSuccess = true)
    (others : ∀ m ∈ q.sendQueue, m.name ≠ verRespName) : Sound { s with server := q, down, beat } :=
  ⟨sound.client, ⟨type, login⟩, sound.requests, others⟩

theorem Sound.clientWrites (sound : s.Sound) {msg : Message} (named : Named (.clientWrites msg)) :
    Sound { s with client := (s.client.write msg).1, up := s.up ++ (s.client.write msg).2 } := by
  obtain ⟨handler, queue, put, wrote, _, _, member, login, type⟩ := s.client.write_cases msg
  have other : msg.name ≠ verReqName := fun same => named (by rw [same]; exact List.mem_cons_self)
  rw [wrote]
  exact sound.clientPuts _ (type.trans sound.client.1) (fun on => login.trans (sound.client.2 on)) member other

theorem Sound.serverWrites (sound : s.Sound) {msg : Message} (named : Named (.serverWrites msg)) :
    Sound { s with server := (s.server.write msg).1, down := s.down ++ (s.server.write msg).2 } := by
  obtain ⟨handler, queue, put, wrote, _, _, member, login, type⟩ := s.server.write_cases msg
  have other : msg.name ≠ verRespName := fun same =>
    named (by rw [same]; exact List.mem_cons_of_mem _ List.mem_cons_self)
  rw [wrote]
  refine sound.serverPuts (type.trans sound.server.1) (login.trans sound.server.2) fun m inside => ?_
  rcases member m (List.mem_append_right _ inside) with old | rfl
  · exact sound.responses m old
  · exact other

theorem Sound.clientSent (sound : s.Sound) {first : Message} {rest : List Message}
    (queued : s.client.sendQueue = first :: rest) :
    Sound { s with client := s.client.sent.1, up := s.up ++ s.client.sent.2 } := by
  obtain ⟨handler, put, sent, _, _, member, login, type⟩ := Pulse.sent_cases queued
  obtain ⟨same, timer⟩ := Pulse.clientAfterMsgSent_handler sound.client.1 first.name
  rw [same] at login type
  rw [sent]
  refine sound.clientPuts first (type.trans sound.client.1)
    (fun on => login.trans (sound.client.2 (timer ▸ on))) (fun m inside => Or.inl ?_)
    (sound.requests first (List.mem_append_right _ (by simp [queued])))
  rw [queued]
  exact List.mem_cons_of_mem _ ((List.mem_append.mp inside).elim (member m) id)

theorem Sound.serverSent (sound : s.Sound) {first : Message} {rest : List Message}
    (queued : s.server.sendQueue = first :: rest) :
    Sound { s with server := s.server.sent.1, down := s.down ++ s.server.sent.2 } := by
  obtain ⟨handler, put, sent, _, _, _, login, type⟩ := Pulse.sent_cases queued
  rw [Pulse.serverAfterMsgSent_eq sound.server.1 (sound.responses first (by simp [queued]))] at sent login type
  rw [sent]
  refine sound.serverPuts (type.trans sound.server.1) (login.trans sound.server.2) fun m inside => ?_
  exact sound.responses m (queued ▸ List.mem_cons_of_mem _ inside)

theorem Sound.clientReceives (sound : s.Sound) (msg : Message) (rest : List Message) :
    Sound { s with
      client := (s.client.receive clientConf msg).1, down := rest,
      up := s.up ++ (s.client.receive clientConf msg).2 } := by
  obtain ⟨q, received, queue, type, timer⟩ := Pulse.clientReceive_cases sound.client.1 clientConf msg sound.client.2
  rw [received]
  refine ⟨⟨type, timer⟩, sound.server, ?_, sound.responses⟩
  rw [List.append_nil, queue]
  exact sound.requests

theorem Sound.serverReceives (sound : s.Sound) {msg : Message} {rest : List Message} (wire : s.up = msg :: rest) :
    Sound { s with
      server := (s.server.receive serverConf msg).1, up := rest,
      down := s.down ++ (s.server.receive serverConf msg).2 } := by
  obtain ⟨q, put, received, _, _, type, login, member⟩ := Pulse.serverReceive_cases sound.server.1 sound.server.2
    (sound.requests msg (by simp [wire])) serverConf
  rw [received]
  refine ⟨sound.client, ⟨type, login⟩, fun m inside => ?_, fun m inside => ?_⟩
  · refine sound.requests m ?_
    rw [wire]
    exact List.mem_cons_of_mem _ inside
  · rcases member m (List.mem_append_right _ inside) with old | name
    · exact sound.responses m old
    · rw [name]
      decide

theorem Sound.clientTick (sound : s.Sound) (on : s.client.shakeHandTimer = true) :
    Sound { s with
      client := (s.client.clientTick clientConf).1, up := s.up ++ (s.client.clientTick clientConf).2, beat :=
        true } := by
  rcases sound.clientTick_cases on with ⟨handler, queue, put, tick, _, _, member, login, type⟩ | ⟨_, tick⟩
  · have apart : shakeHandReqName ≠ verReqName := by decide
    rw [tick]
    exact sound.clientPuts _ type (fun _ => login) member apart
  · rw [tick]
    refine ⟨sound.client, sound.server, ?_, sound.responses⟩
    rw [List.append_nil]
    exact sound.requests

theorem Sound.serverTick (sound : s.Sound) : Sound { s with server := s.server.serverTick, beat := false } := by
  rcases s.server.serverTick_cases with ⟨_, tick⟩ | ⟨_, tick⟩
  · rw [tick]
    exact sound.serverPuts sound.server.1 sound.server.2 sound.responses
  · rw [tick]
    exact sound.serverPuts sound.server.1 sound.server.2 sound.responses

theorem Sound.step (sound : s.Sound) (named : Named event) (ran : s.step clientConf serverConf event = some t) :
    t.Sound := by
  cases moves_of_step ran with
  | clientWrites msg => exact sound.clientWrites named
  | serverWrites msg => exact sound.serverWrites named
  | clientSent queued => exact sound.clientSent queued
  | serverSent _ queued => exact sound.serverSent queued
  | clientReceives wire => exact sound.clientReceives _ _
  | serverReceives _ wire => exact sound.serverReceives wire
  | clientTick on => exact sound.clientTick on
  | serverTick => exact sound.serverTick

/-- What an event does to the counter of a server that has not failed. -/
inductive Counted (s t : Connection B) : PulseEvent → Prop
  | same {event : PulseEvent} (other : event ≠ .serverTick ∧ event ≠ .serverSent ∧ event ≠ .serverReceives)
      (kept : t.server.lostShakeHandCount = s.server.lostShakeHandCount ∧ t.server.timedOut = s.server.timedOut ∧
        t.server.failed = s.server.failed) : Counted s t event
  | zero {event : PulseEvent} (traffic : event = .serverSent ∨ event = .serverReceives)
      (reset : t.server.failed = true ∨ t.server.lostShakeHandCount = 0) (running : s.server.failed = false)
      (kept : t.server.timedOut = s.server.timedOut) : Counted s t event
  | tick (counted : t.server.lostShakeHandCount = s.server.lostShakeHandCount + 1)
    (running : s.server.failed = false)
      (outcome : (3 ≤ t.server.lostShakeHandCount ∧ t.server.failed = true ∧ t.server.timedOut = true) ∨
        (t.server.lostShakeHandCount < 3 ∧ t.server.failed = false ∧ t.server.timedOut = s.server.timedOut)) :
      Counted s t .serverTick

theorem Sound.counted (sound : s.Sound) (ran : s.step clientConf serverConf event = some t) :
    Counted s t event := by
  cases moves_of_step ran with
  | clientWrites msg => exact .same (by simp) ⟨rfl, rfl, rfl⟩
  | serverWrites msg =>
    obtain ⟨handler, queue, put, wrote, _⟩ := s.server.write_cases msg
    rw [wrote]
    exact .same (by simp) ⟨rfl, rfl, rfl⟩
  | clientSent => exact .same (by simp) ⟨rfl, rfl, rfl⟩
  | @serverSent first rest running queued =>
    obtain ⟨handler, put, sent, _⟩ := Pulse.sent_cases queued
    rw [Pulse.serverAfterMsgSent_eq sound.server.1 (sound.responses first (by simp [queued]))] at sent
    rw [sent]
    exact .zero (Or.inl rfl) (Or.inr rfl) running rfl
  | clientReceives => exact .same (by simp) ⟨rfl, rfl, rfl⟩
  | @serverReceives msg rest running wire =>
    obtain ⟨q, put, received, inTime, outcome, _⟩ := Pulse.serverReceive_cases sound.server.1 sound.server.2
      (sound.requests msg (by simp [wire])) serverConf
    rw [received]
    exact .zero (Or.inr rfl) outcome running inTime
  | clientTick => exact .same (by simp) ⟨rfl, rfl, rfl⟩
  | serverTick running =>
    rcases s.server.serverTick_cases with ⟨late, tick⟩ | ⟨early, tick⟩
    · rw [tick]
      exact .tick rfl running (Or.inl ⟨late, rfl, rfl⟩)
    · rw [tick]
      exact .tick rfl running (Or.inr ⟨early, running, rfl⟩)

/-- How often the timer of the server has gone off since the server has
received or sent something. -/
def silence : List PulseEvent → Nat
  | [] => 0
  | .serverTick :: earlier => silence earlier + 1
  | .serverSent :: _ => 0
  | .serverReceives :: _ => 0
  | _ :: earlier => silence earlier

theorem silence_other (earlier : List PulseEvent)
    (other : event ≠ .serverTick ∧ event ≠ .serverSent ∧ event ≠ .serverReceives) :
    silence (event :: earlier) = silence earlier := by
  obtain ⟨tick, sent, received⟩ := other
  cases event with
  | serverTick => exact (tick rfl).elim
  | serverSent => exact (sent rfl).elim
  | serverReceives => exact (received rfl).elim
  | _ => rfl

/-- The counter and the past agree. -/
structure Recorded (trace : List PulseEvent) (s : Connection B) : Prop where
  sound : s.Sound
  running : s.server.failed = false →
    s.server.lostShakeHandCount = silence trace ∧ silence trace < 3 ∧ s.server.timedOut = false
  stopped : s.server.failed = true → (s.server.timedOut = true ↔ 3 ≤ silence trace)

theorem Recorded.step {trace : List PulseEvent} (recorded : Recorded trace s) (named : Named event)
    (ran : s.step clientConf serverConf event = some t) : Recorded (event :: trace) t := by
  refine ⟨recorded.sound.step named ran, ?_, ?_⟩
  · intro fine
    cases recorded.sound.counted ran with
    | same other kept =>
      rw [silence_other trace other, kept.1, kept.2.1]
      exact recorded.running (kept.2.2 ▸ fine)
    | zero traffic reset running kept =>
      have none : silence (event :: trace) = 0 := by rcases traffic with rfl | rfl <;> rfl
      rcases reset with failed | zero
      · rw [failed] at fine
        cases fine
      · rw [none, zero, kept]
        exact ⟨rfl, by omega, (recorded.running running).2.2⟩
    | tick counted running outcome =>
      obtain ⟨count, _, inTime⟩ := recorded.running running
      rcases outcome with ⟨_, failed, _⟩ | ⟨early, _, kept⟩
      · rw [failed] at fine
        cases fine
      · rw [silence, kept]
        exact ⟨by omega, by omega, inTime⟩
  · intro failed
    cases recorded.sound.counted ran with
    | same other kept =>
      rw [silence_other trace other, kept.2.1]
      exact recorded.stopped (kept.2.2 ▸ failed)
    | zero traffic reset running kept =>
      have none : silence (event :: trace) = 0 := by rcases traffic with rfl | rfl <;> rfl
      rw [none, kept, (recorded.running running).2.2]
      simp
    | tick counted running outcome =>
      obtain ⟨count, _, _⟩ := recorded.running running
      rcases outcome with ⟨late, _, timedOut⟩ | ⟨_, fine, _⟩
      · rw [silence, timedOut]
        exact iff_of_true rfl (by omega)
      · rw [fine] at failed
        cases failed

/-- The timer of the server takes a connection for dead exactly when it has
gone off three times with nothing received and nothing sent to its end in
between. -/
theorem timedOut_iff {resp : Message} (logged : s.LoggedIn resp) (fresh : s.server.failed = false)
    {trace : List PulseEvent}
    (run : Run (Connection.step clientConf serverConf) (fun _ => Named) s trace t) :
    t.server.timedOut = true ↔ 3 ≤ silence trace := by
  have zero := logged.server.2.2.2.1
  have inTime := logged.server.2.2.2.2
  have first : Recorded [] s := by
    refine ⟨logged.sound, fun _ => ⟨zero, by decide, inTime⟩, fun failed => ?_⟩
    rw [fresh] at failed
    cases failed
  have recorded := run.history (P := Recorded) first fun recorded named ran => recorded.step named ran
  cases outcome : t.server.failed with
  | true => exact recorded.stopped outcome
  | false =>
    obtain ⟨_, early, late⟩ := recorded.running outcome
    rw [late]
    exact iff_of_false Bool.false_ne_true (by omega)

/-- Nothing that the server waits for is on its way. -/
def Quiet (s : Connection B) : Prop := s.up = [] ∧ s.client.sendQueue = [] ∧ s.server.sendQueue = []

/-- What the counter of the server says while the server has not failed. -/
structure Counts (s : Connection B) : Prop where
  below : s.server.lostShakeHandCount ≤ 2
  arrived : s.server.sendQueue = [] → 1 ≤ s.server.lostShakeHandCount → s.down = []
  sending : s.up = [] → s.client.sendQueue ≠ [] → s.server.lostShakeHandCount = 0
  beat : s.Quiet → s.beat = true → s.server.lostShakeHandCount ≤ 1
  armed : s.Quiet → s.beat = true → 1 ≤ s.server.lostShakeHandCount → s.client.handler.hasMessage = false
  last : s.Quiet → s.server.lostShakeHandCount = 2 → s.client.handler.hasMessage = false

theorem Counts.of_zero (zero : s.server.lostShakeHandCount = 0) : s.Counts where
  below := by omega
  arrived _ some := by omega
  sending _ _ := zero
  beat _ _ := by omega
  armed _ _ some := by omega
  last _ two := by omega

/-- The client has something on its way afterwards. -/
theorem Counts.clientPuts (counts : s.Counts) {q : Pulse B} {put : List Message} {beat : Bool}
    (some : q.sendQueue ≠ []) (new : put = [] → s.client.sendQueue ≠ []) :
    Counts { s with client := q, up := s.up ++ put, beat } := by
  refine ⟨counts.below, counts.arrived, fun empty _ => ?_, fun quiet => (some quiet.2.1).elim,
    fun quiet => (some quiet.2.1).elim, fun quiet => (some quiet.2.1).elim⟩
  obtain ⟨up, none⟩ := List.append_eq_nil_iff.mp empty
  exact counts.sending up (new none)

/-- The last message of the client is sent to its end: once it is off the
wire, the server counts from zero. -/
theorem Counts.clientEmpties (counts : s.Counts) (busy : s.client.sendQueue ≠ []) {q : Pulse B}
    (empty : q.sendQueue = []) : Counts { s with client := q, up := s.up } := by
  refine ⟨counts.below, counts.arrived, fun _ some => (some empty).elim, fun quiet _ => ?_, fun quiet _ some => ?_,
    fun quiet two => ?_⟩
  · exact (counts.sending quiet.1 busy).le.trans (Nat.zero_le 1)
  · have none := counts.sending quiet.1 busy
    have some' : 1 ≤ s.server.lostShakeHandCount := some
    omega
  · have none := counts.sending quiet.1 busy
    have two' : s.server.lostShakeHandCount = 2 := two
    omega

/-- A message that a client receives had been sent after the last tick of
the server. -/
theorem Counts.clientReceives (counts : s.Counts) {msg : Message} {rest : List Message}
    (wire : s.down = msg :: rest) {q : Pulse B} (same : q.sendQueue = s.client.sendQueue) :
    Counts { s with client := q, down := rest } := by
  have zero : s.server.sendQueue = [] → s.server.lostShakeHandCount = 0 := by
    intro empty
    by_contra some
    have none := counts.arrived empty (by omega)
    rw [wire] at none
    cases none
  refine ⟨counts.below, fun empty some => ?_, fun up busy => ?_, fun quiet _ => ?_, fun quiet _ some => ?_,
    fun quiet two => ?_⟩
  · have none := zero empty
    have some' : 1 ≤ s.server.lostShakeHandCount := some
    omega
  · exact counts.sending up (same ▸ busy)
  · exact (zero quiet.2.2).le.trans (Nat.zero_le 1)
  · have none := zero quiet.2.2
    have some' : 1 ≤ s.server.lostShakeHandCount := some
    omega
  · have none := zero quiet.2.2
    have two' : s.server.lostShakeHandCount = 2 := two
    omega

theorem Counts.clientTick (counts : s.Counts) (sound : s.Sound) (on : s.client.shakeHandTimer = true) :
    Counts { s with
      client := (s.client.clientTick clientConf).1, up := s.up ++ (s.client.clientTick clientConf).2, beat :=
        true } := by
  rcases sound.clientTick_cases on with ⟨handler, queue, put, tick, some, new, _⟩ | ⟨message, tick⟩
  · rw [tick]
    exact counts.clientPuts some new
  · rw [tick]
    refine ⟨counts.below, counts.arrived, fun up busy => ?_, fun quiet _ => ?_, fun _ _ _ => rfl, fun _ _ => rfl⟩
    · exact counts.sending ((List.append_nil _).symm.trans up) busy
    · -- with two ticks counted and nothing on its way the client would have had no message
      have quiet' : s.Quiet := ⟨(List.append_nil _).symm.trans quiet.1, quiet.2⟩
      have below := counts.below
      by_contra two
      have count : ¬ s.server.lostShakeHandCount ≤ 1 := two
      have without := counts.last quiet' (by omega)
      rw [message] at without
      cases without

theorem Counts.step (counts : s.Counts) (sound : s.Sound) (timely : s.Timely event)
    (ran : s.step clientConf serverConf event = some t) :
    t.server.failed = true ∧ t.server.timedOut = s.server.timedOut ∨ t.Counts := by
  have counted := sound.counted ran
  cases moves_of_step ran with
  | clientWrites msg =>
    obtain ⟨handler, queue, put, wrote, some, new, _⟩ := s.client.write_cases msg
    rw [wrote]
    exact Or.inr (counts.clientPuts some new)
  | serverWrites msg =>
    obtain ⟨handler, queue, put, wrote, some, _⟩ := s.server.write_cases msg
    rw [wrote]
    exact Or.inr ⟨counts.below, fun empty => (some empty).elim, counts.sending, fun quiet => (some quiet.2.2).elim,
      fun quiet => (some quiet.2.2).elim, fun quiet => (some quiet.2.2).elim⟩
  | @clientSent first rest queued =>
    obtain ⟨handler, put, sent, last, next, _⟩ := Pulse.sent_cases queued
    rw [sent]
    by_cases done : rest = []
    · obtain ⟨rfl, rfl⟩ := last done
      rw [List.append_nil]
      exact Or.inr (counts.clientEmpties (by simp [queued]) done)
    · exact Or.inr (counts.clientPuts done fun none => (done (next none)).elim)
  | serverSent =>
    cases counted with
    | same other => exact (other.2.1 rfl).elim
    | zero _ reset _ kept => exact reset.imp (fun failed => ⟨failed, kept⟩) Counts.of_zero
  | @clientReceives msg rest wire =>
    obtain ⟨q, received, queue, _⟩ := Pulse.clientReceive_cases sound.client.1 clientConf msg sound.client.2
    rw [received, List.append_nil]
    exact Or.inr (counts.clientReceives wire queue)
  | serverReceives =>
    cases counted with
    | same other => exact (other.2.2 rfl).elim
    | zero _ reset _ kept => exact reset.imp (fun failed => ⟨failed, kept⟩) Counts.of_zero
  | clientTick on => exact Or.inr (counts.clientTick sound on)
  | serverTick =>
    obtain ⟨⟨up, clientQueue, down, serverQueue⟩, beat⟩ := timely.2 rfl
    have quiet : s.Quiet := ⟨up, clientQueue, serverQueue⟩
    have one := counts.beat quiet beat
    obtain ⟨_, tick⟩ := s.server.serverTick_cases.resolve_left fun late => by omega
    rw [tick]
    refine Or.inr ⟨by simp only; omega, fun _ _ => down, fun _ some => (some clientQueue).elim, fun _ on => ?_,
      fun _ on => ?_, fun _ two => ?_⟩
    · cases on
    · cases on
    · have second : s.server.lostShakeHandCount + 1 = 2 := two
      exact counts.armed quiet beat (by omega)

/-- As long as what is sent arrives before the next tick of the server, and
the client ticks between two of them, the timer of the server never takes
the connection for dead, in whatever order the rest happens. -/
theorem keepAlive {resp : Message} (logged : s.LoggedIn resp) {trace : List PulseEvent}
    (run : Run (Connection.step clientConf serverConf) Timely s trace t) : t.server.timedOut = false := by
  have zero := logged.server.2.2.2.1
  have inTime := logged.server.2.2.2.2
  have held := run.invariant
    (P := fun s => s.Sound ∧ s.server.timedOut = false ∧ (s.server.failed = false → s.Counts))
    ⟨logged.sound, inTime, fun _ => Counts.of_zero zero⟩ ?_
  · exact held.2.1
  · intro s t event held timely ran
    obtain ⟨sound, inTime, counts⟩ := held
    refine ⟨sound.step timely.1 ran, ?_⟩
    cases moved : sound.counted ran with
    | same other kept =>
      refine ⟨kept.2.1.trans inTime, fun fine => ?_⟩
      exact ((counts (kept.2.2 ▸ fine)).step sound timely ran).resolve_left fun failed => by
        rw [fine] at failed
        cases failed.1
    | zero traffic reset running kept =>
      exact ⟨kept.trans inTime, fun fine => ((counts running).step sound timely ran).resolve_left fun failed => by
        rw [fine] at failed
        cases failed.1⟩
    | tick counted running outcome =>
      rcases (counts running).step sound timely ran with ⟨_, kept⟩ | after
      · refine ⟨kept.trans inTime, fun fine => ?_⟩
        exact ((counts running).step sound timely ran).resolve_left fun failed => by
          rw [fine] at failed
          cases failed.1
      · have below := after.below
        rcases outcome with ⟨late, _⟩ | ⟨_, _, kept⟩
        · omega
        · exact ⟨kept.trans inTime, fun _ => after⟩

/-- A connection whose server has just logged in. -/
def opened : Connection Bloom.blank where
  client := ⟨Handler.fresh .client, [], 0, false, false, false⟩
  server := ⟨{ Handler.fresh .server with loginSuccess := true, recvVerReq := true }, [], 0, true, false, false⟩
  up := []
  down := [⟨verRespName,
    .typed ⟨verRespName, verRespBody⟩ verResp_registered ⟨0, verRespName, none, none, none, none⟩
      (str "a", 0, 0, ())⟩]
  beat := true

theorem opened_loggedIn : ∃ resp, opened.LoggedIn resp := ⟨_, ⟨rfl, rfl, rfl⟩, ⟨rfl, rfl, rfl, rfl, rfl⟩, rfl, rfl⟩

/-- A test for the runs without messages of the services. -/
def onTime (s : Connection B) : PulseEvent → Bool
  | .clientWrites _ => false
  | .serverWrites _ => false
  | .serverTick =>
    s.up.isEmpty ∧ s.client.sendQueue.isEmpty ∧ s.down.isEmpty ∧ s.server.sendQueue.isEmpty ∧ s.beat = true
  | _ => true

theorem timely_of_onTime (s : Connection B) (event : PulseEvent) (fine : s.onTime event = true) :
    s.Timely event := by
  cases event with
  | clientWrites msg => cases fine
  | serverWrites msg => cases fine
  | serverTick =>
    obtain ⟨up, clientQueue, down, serverQueue, beat⟩ := of_decide_eq_true fine
    exact ⟨trivial, fun _ => ⟨⟨List.isEmpty_iff.mp up, List.isEmpty_iff.mp clientQueue, List.isEmpty_iff.mp down,
      List.isEmpty_iff.mp serverQueue⟩, beat⟩⟩
  | _ => exact ⟨trivial, fun other => by cases other⟩

/-- Four ticks of the server, with heartbeats between them. -/
theorem keepAlive_heartbeats :
    ∃ trace t, Run (Connection.step NodeConf.lone NodeConf.lone) Timely opened trace t ∧ t.server.timedOut = false ∧
      t.server.lostShakeHandCount = 1 := by
  let beat : List PulseEvent :=
    [.serverTick, .clientTick, .serverReceives, .clientSent, .clientReceives, .serverSent]
  have facts : (runAll (guarded (Connection.step NodeConf.lone NodeConf.lone) onTime) opened
      (.clientReceives :: beat ++ beat ++ beat ++ [.serverTick])).any
        (fun t => t.server.lostShakeHandCount = 1) = true := by
    decide +kernel
  obtain ⟨t, ran, one⟩ := (Option.any_eq_true _ _).mp facts
  obtain ⟨resp, logged⟩ := opened_loggedIn
  have run := Run.of_guarded timely_of_onTime _ .start ran
  exact ⟨_, t, run, keepAlive logged run, of_decide_eq_true one⟩

/-- A client that does nothing. -/
theorem timedOut_silent :
    ∃ trace t, Run (Connection.step NodeConf.lone NodeConf.lone) (fun _ => Named) opened trace t ∧
      t.server.timedOut = true := by
  have facts : (runAll (Connection.step NodeConf.lone NodeConf.lone) opened
      [.clientReceives, .serverTick, .serverTick, .serverTick]).isSome = true := by decide +kernel
  obtain ⟨t, ran⟩ := Option.isSome_iff_exists.mp facts
  obtain ⟨resp, logged⟩ := opened_loggedIn
  have named : ∀ event, event = .clientReceives ∨ event = .serverTick → Named event := by
    rintro event (rfl | rfl)
    · trivial
    · trivial
  obtain ⟨first, one, ran⟩ := Option.bind_eq_some_iff.mp ran
  obtain ⟨second, two, ran⟩ := Option.bind_eq_some_iff.mp ran
  obtain ⟨third, three, ran⟩ := Option.bind_eq_some_iff.mp ran
  obtain ⟨fourth, four, same⟩ := Option.bind_eq_some_iff.mp ran
  cases same
  have run : Run (Connection.step NodeConf.lone NodeConf.lone) (fun _ => Named) opened
      [.serverTick, .serverTick, .serverTick, .clientReceives] t :=
    .next (.next (.next (.next .start (named _ (Or.inl rfl)) one) (named _ (Or.inr rfl)) two)
      (named _ (Or.inr rfl)) three) (named _ (Or.inr rfl)) four
  exact ⟨_, _, run, (timedOut_iff logged rfl run).mpr (by decide)⟩

end Connection

end DbcNode
