import DbcNode.Peer.LoggedIn

namespace DbcNode

namespace Session
variable {B : Bloom} {conf : NodeConf}

/-- What a read on a channel does to its handler. -/
theorem step_read_keeps {s t : Session B} {input : ByteBuf} (ready : Ready s)
    (ran : s.step conf (.read input) = some t) :
    s.line.handler.Keeps t.line.handler ∧
      (s.line.handler.type = .client → s.line.handler.loginSuccess = false →
        (∀ msg, firstMessage conf (matrixFraming.cut (s.line.decoder.pending ++ input.data)).1 = some msg →
          msg.name ≠ verRespName) → t.line.handler = s.line.handler) := by
  obtain ⟨opened, rfl⟩ := step_read ran
  obtain ⟨frames, part, fed⟩ := ready opened
  by_cases none : input.data = []
  · rw [Line.onRead_empty conf s.line none]
    exact ⟨.refl _, fun _ _ _ => rfl⟩
  rcases fed.onRead conf none with ⟨_, l', call, handler⟩ | ⟨_, l', call, handler, _⟩
  · rw [call]
    refine ⟨?_, fun _ _ _ => handler⟩
    rw [handler]
    exact .refl _
  · rw [call]
    refine ⟨?_, fun client out other => ?_⟩
    · rw [handler]
      exact Handler.readFrames_keeps conf _ s.line.handler
    · exact handler.trans (Handler.client_waits client out other)

end Session

namespace Handler
variable {B : Bloom}

/-- What comes from outside logs a server in once its response is sent, and
publishes nothing. -/
theorem outside_cases (h : Handler B) (event : Outside) :
    (h.outside event).type = h.type ∧ (h.outside event).published = h.published ∧
      ((h.outside event).loginSuccess = h.loginSuccess ∨
        (h.type = .server ∧ event = .sent verRespName ∧ (h.outside event).loginSuccess = true)) := by
  cases event with
  | sent msgName =>
    rw [outside, onAfterMsgSent]
    split
    · exact ⟨rfl, rfl, Or.inl rfl⟩
    · rename_i server
      split
      · rename_i response
        exact ⟨rfl, rfl, Or.inr ⟨server, by rw [response], rfl⟩⟩
      · exact ⟨rfl, rfl, Or.inl rfl⟩
  | written msg =>
    rw [outside, onWritten, setHasMessage, setHasMessage]
    split
    · split
      · exact ⟨rfl, rfl, Or.inl rfl⟩
      · exact ⟨rfl, rfl, Or.inl rfl⟩
    · split
      · exact ⟨rfl, rfl, Or.inl rfl⟩
      · exact ⟨rfl, rfl, Or.inl rfl⟩
  | identified nodeId => exact ⟨rfl, rfl, Or.inl rfl⟩
  | shakeHandTimer => exact ⟨rfl, rfl, Or.inl rfl⟩

end Handler

namespace Hub
variable {B : Bloom}

/-- The handler of a channel. -/
def handler (hub : Hub B) (sid : SocketId) : Handler B := (hub.sessions sid).line.handler

/-- A client that has not logged in gets a login response, which logs it in
before anyone has looked at its signature. -/
def LogsIn (conf : NodeConf) (sid : SocketId) (hub : Hub B) : HubEvent → Prop
  | .line other (.read input) => other = sid ∧ sid.type = .client ∧ (hub.handler sid).loginSuccess = false ∧
      ∃ msg, firstMessage conf
        (matrixFraming.cut ((hub.sessions sid).line.decoder.pending ++ input.data)).1 = some msg ∧
        msg.name = verRespName
  | _ => False

/-- A login request received on the channel has passed `verify_sign`. -/
def Vouched (sid : SocketId) (hub : Hub B) : Prop :=
  ∃ msg ∈ (hub.handler sid).published, msg.name = verReqName ∧ (sid, msg) ∈ hub.verified

/-- What is known of a channel, and of the messages and responses on it. -/
structure Sworn (sid : SocketId) (hub : Hub B) : Prop where
  ready : (hub.sessions sid).Ready
  type : (hub.handler sid).type = sid.type
  queued : ∀ msg, (sid, msg) ∈ hub.queue → msg ∈ (hub.handler sid).published
  replied : (sid, .verResp) ∈ hub.service.net.written → hub.Vouched sid
  logged : (hub.handler sid).loginSuccess = true → sid.type = .server ∧ hub.Vouched sid
  silent : (hub.handler sid).loginSuccess = false →
    ∀ msg ∈ (hub.handler sid).published, msg.name = verReqName ∧ sid.type = .server

theorem start_sworn (env : PeerEnv) (sid : SocketId) : (start env : Hub B).Sworn sid := by
  refine ⟨fun _ => ⟨[], [], Session.start_fed sid.type⟩, rfl, ?_, ?_, ?_, ?_⟩
  · intro msg member
    cases member
  · intro member
    cases member
  · intro wrong
    cases wrong
  · intro _ msg member
    cases member

theorem setSession_other {sid other : SocketId} (different : other ≠ sid) (t : Session B) (hub : Hub B) :
    (hub.setSession other t).sessions sid = hub.sessions sid := if_neg (Ne.symm different)

theorem setSession_self (sid : SocketId) (t : Session B) (hub : Hub B) : (hub.setSession sid t).sessions sid = t :=
  if_pos rfl

/-- A change of other channels only. -/
theorem Sworn.other {sid other : SocketId} {hub : Hub B} (sworn : hub.Sworn sid) (different : other ≠ sid)
    (t : Session B) : (hub.setSession other t).Sworn sid := by
  have same : (hub.setSession other t).handler sid = hub.handler sid := by
    rw [handler, setSession_other different, handler]
  refine ⟨by rw [setSession_other different]; exact sworn.ready, by rw [same]; exact sworn.type, ?_, ?_, ?_, ?_⟩
  · rw [same]
    intro msg member
    rcases List.mem_append.mp member with old | new
    · exact sworn.queued msg old
    · obtain ⟨_, _, equal⟩ := List.mem_map.mp new
      exact (different (Prod.mk.inj equal).1).elim
  · rw [Vouched, same]
    exact sworn.replied
  · rw [Vouched, same]
    exact sworn.logged
  · rw [same]
    exact sworn.silent

/-- A change of the channel itself: its handler publishes more, and what it
publishes or whether it logs in is as it should be. -/
theorem Sworn.own {sid : SocketId} {hub : Hub B} (sworn : hub.Sworn sid) {t : Session B} (ready : t.Ready)
    (type : t.line.handler.type = (hub.handler sid).type)
    (grows : (hub.handler sid).published <+: t.line.handler.published)
    (logged : t.line.handler.loginSuccess = true → sid.type = .server ∧ hub.Vouched sid)
    (silent : t.line.handler.loginSuccess = false →
      ∀ msg ∈ t.line.handler.published, msg.name = verReqName ∧ sid.type = .server) :
    (hub.setSession sid t).Sworn sid := by
  have same : (hub.setSession sid t).handler sid = t.line.handler := by rw [handler, setSession_self]
  have vouched : hub.Vouched sid → (hub.setSession sid t).Vouched sid := by
    rintro ⟨msg, received, rest⟩
    exact ⟨msg, by rw [same]; exact grows.subset received, rest⟩
  refine ⟨by rw [setSession_self]; exact ready, by rw [same, type]; exact sworn.type, ?_, ?_, ?_, ?_⟩
  · rw [same]
    intro msg member
    rcases List.mem_append.mp member with old | new
    · exact grows.subset (sworn.queued msg old)
    · obtain ⟨_, inside, equal⟩ := List.mem_map.mp new
      cases equal
      exact List.drop_subset _ _ inside
  · exact fun member => vouched (sworn.replied member)
  · rw [same]
    exact fun in_ => ⟨(logged in_).1, vouched (logged in_).2⟩
  · rw [same]
    exact silent

variable {env : PeerEnv} {conf : NodeConf} {sid : SocketId} {hub next : Hub B}

theorem Sworn.read {t : Session B} {input : ByteBuf} (sworn : hub.Sworn sid)
    (free : ¬ LogsIn conf sid hub (.line sid (.read input)))
    (ran : (hub.sessions sid).step conf (.read input) = some t) : (hub.setSession sid t).Sworn sid := by
  obtain ⟨keeps, waits⟩ := Session.step_read_keeps sworn.ready ran
  have type := sworn.type
  refine sworn.own (sworn.ready.step ran) keeps.type keeps.grows ?_ ?_
  · intro logged
    cases side : sid.type with
    | server =>
      have before := keeps.server (sworn.type.trans side)
      rw [logged] at before
      exact ⟨rfl, (sworn.logged before.symm).2⟩
    | client =>
      have out : (hub.handler sid).loginSuccess = false := by
        by_contra in_
        have server := (sworn.logged (Bool.not_eq_false _ ▸ in_)).1
        rw [side] at server
        cases server
      have same := waits (sworn.type.trans side) out
        (fun msg first name => free ⟨rfl, side, out, msg, first, name⟩)
      rw [same] at logged
      rw [handler, logged] at out
      cases out
  · intro out msg member
    obtain ⟨before, told⟩ := keeps.silent out
    rcases told msg member with old | ⟨name, server⟩
    · exact sworn.silent before msg old
    · exact ⟨name, type ▸ server⟩

theorem Sworn.outside {t : Session B} {event : Handler.Outside} (sworn : hub.Sworn sid)
    (sendable : hub.Sendable sid (.outside event)) (ran : (hub.sessions sid).step conf (.outside event) = some t) :
    (hub.setSession sid t).Sworn sid := by
  have ready := sworn.ready.step ran
  obtain ⟨_, rfl⟩ := Session.step_outside ran
  obtain ⟨type, published, login⟩ := (hub.handler sid).outside_cases event
  refine sworn.own ready type (by rw [← published]; exact List.prefix_refl _) ?_ ?_
  · intro logged
    rcases login with same | ⟨server, rfl, _⟩
    · exact sworn.logged (same.symm.trans logged)
    · exact ⟨sworn.type ▸ server, sworn.replied (sendable rfl)⟩
  · intro out msg member
    rcases login with same | ⟨_, _, in_⟩
    · exact sworn.silent (same.symm.trans out) msg (published ▸ member)
    · exact absurd (out.symm.trans in_) (by decide)

/-- The service handles a message, or something else happens to it. -/
theorem Sworn.served {service : Service} {queue verified : List (SocketId × Message)} (sworn : hub.Sworn sid)
    (queued : queue ⊆ hub.queue) (passed : hub.verified ⊆ verified)
    (written : (sid, .verResp) ∈ service.net.written → (sid, .verResp) ∈ hub.service.net.written ∨
      ∃ msg ∈ (hub.handler sid).published, msg.name = verReqName ∧ (sid, msg) ∈ verified) :
    ({ hub with service := service, queue := queue, verified := verified } : Hub B).Sworn sid := by
  have vouched : hub.Vouched sid →
      ({ hub with service := service, queue := queue, verified := verified } : Hub B).Vouched sid := by
    rintro ⟨msg, received, name, before⟩
    exact ⟨msg, received, name, passed before⟩
  refine ⟨sworn.ready, sworn.type, fun msg member => sworn.queued msg (queued member), ?_, ?_, sworn.silent⟩
  · intro member
    rcases written member with old | new
    · exact vouched (sworn.replied old)
    · exact new
  · intro in_
    exact ⟨(sworn.logged in_).1, vouched (sworn.logged in_).2⟩

theorem verified_subset (verified : List (SocketId × Message)) (passes : Bool) (entry : SocketId × Message) :
    verified ⊆ if passes then verified ++ [entry] else verified := by
  split
  · exact List.subset_append_left _ _
  · exact fun _ member => member

theorem Sworn.serve {other : SocketId} {msg : Message} {rest : List (SocketId × Message)} (sworn : hub.Sworn sid)
    (queue : hub.queue = (other, msg) :: rest) : ({ hub with queue := rest }.serve env other msg).Sworn sid := by
  have fewer : rest ⊆ hub.queue := by
    rw [queue]
    exact List.subset_cons_self _ _
  have popped : ({ hub with queue := rest } : Hub B).Sworn sid := sworn.served fewer (fun _ member => member) Or.inl
  rw [Hub.serve]
  split
  · exact popped
  rename_i m _
  split
  · rename_i request
    refine sworn.served fewer (verified_subset _ _ _) ?_
    intro member
    rcases Service.onVerReq_written member with old | ⟨rfl, verifies⟩
    · exact Or.inl old
    · refine Or.inr ⟨msg, sworn.queued msg (by rw [queue]; exact List.mem_cons_self), request, ?_⟩
      simp only [verifies, if_true]
      exact List.mem_append_right _ List.mem_cons_self
  split
  · refine sworn.served fewer (verified_subset _ _ _) ?_
    exact fun member => Or.inl ((Service.onVerResp_mute env other m hub.service).written sid member)
  · exact popped

/-- Something happens to the service that is no login and no restart. -/
theorem Sworn.peer {service : Service} {event : PeerEvent} (sworn : hub.Sworn sid)
    (ran : hub.service.step env event = some service) (other : ∀ sid m, event ≠ .verReq sid m)
    (running : ∀ connects, event ≠ .restart connects) : ({ hub with service := service } : Hub B).Sworn sid :=
  sworn.served (fun _ member => member) (fun _ member => member)
    (fun member => Or.inl ((Service.step_mute ran other running).written sid member))

theorem Sworn.step {event : HubEvent} (sworn : hub.Sworn sid) (free : ¬ LogsIn conf sid hub event)
    (ran : hub.step env conf event = some next) : next.Sworn sid := by
  cases event with
  | line other event =>
    simp only [Hub.step, Option.bind_eq_bind, Option.pure_def] at ran
    obtain ⟨_, guarded, ran⟩ := Option.bind_eq_some_iff.mp ran
    obtain ⟨t, stepped, ran⟩ := Option.bind_eq_some_iff.mp ran
    cases ran
    by_cases same : other = sid
    · subst same
      cases event with
      | read input => exact sworn.read free stepped
      | outside event =>
        have sendable : hub.Sendable other (.outside event) := by
          by_contra not
          simp [guard, not] at guarded
        exact sworn.outside sendable stepped
    · exact sworn.other same t
  | serve =>
    rw [Hub.step] at ran
    split at ran
    · cases ran
    · rename_i other msg rest queue
      cases ran
      exact sworn.serve queue
  | peer event =>
    rw [Hub.step.eq_def] at ran
    dsimp only at ran
    split at ran
    · rename_i same
      cases same
    · rename_i same
      cases same
    · cases ran
    · cases ran
    · rename_i connects same
      cases same
      obtain ⟨service, restarted, rfl⟩ := Option.map_eq_some_iff.mp ran
      cases restarted
      have fresh : (start env : Hub B).Sworn sid := start_sworn env sid
      exact fresh.served (fun _ member => member) (fun _ member => member)
        (fun member => (Service.init_silent env connects hub.service.clock hub.service.db sid member).elim)
    · rename_i event' notReq _ running same
      cases same
      obtain ⟨service, stepped, rfl⟩ := Option.map_eq_some_iff.mp ran
      exact sworn.peer stepped (fun sid m equal => notReq sid m equal)
        (fun connects equal => running connects equal)

/-- A channel on which no response logged a client in: its handler has
logged in only after its login message had passed `verify_sign`, and before
that it has published nothing but its login message. -/
theorem login_verified {trace : List HubEvent}
    (run : Run (Hub.step env conf) (fun hub event => ¬ LogsIn conf sid hub event) (start env : Hub B) trace hub) :
    ((hub.handler sid).loginSuccess = true →
      ∃ msg ∈ (hub.handler sid).published, msg.name = sid.type.loginName ∧ (sid, msg) ∈ hub.verified) ∧
    ((hub.handler sid).loginSuccess = false →
      ∀ msg ∈ (hub.handler sid).published, msg.name = sid.type.loginName) := by
  have sworn : hub.Sworn sid := run.invariant (P := Sworn sid) (start_sworn env sid)
    (fun sworn free ran => sworn.step free ran)
  refine ⟨?_, ?_⟩
  · intro logged
    obtain ⟨server, msg, received, name, passed⟩ := sworn.logged logged
    exact ⟨msg, received, by rw [server]; exact name, passed⟩
  · intro out msg member
    obtain ⟨name, server⟩ := sworn.silent out msg member
    rw [server]
    exact name

/-- The condition is about the channels that this node has opened. -/
theorem server_free (conf : NodeConf) {sid : SocketId} (server : sid.type = .server) (hub : Hub B)
    (event : HubEvent) :
    ¬ LogsIn conf sid hub event := by
  cases event with
  | line other event =>
    cases event with
    | read input =>
      rintro ⟨_, client, _⟩
      rw [server] at client
      cases client
    | outside event => exact fun wrong => wrong
  | serve => exact fun wrong => wrong
  | peer event => exact fun wrong => wrong

end Hub

/-- A node that is told its own id as the peer service is. -/
def PeerEnv.conf (env : PeerEnv) : NodeConf := ⟨env.nodeId, 0, ⟨id, some⟩⟩

/-- A signed login request of node 2, in the binary protocol. -/
def signedRequest : Bytes :=
  let address : Bytes := [11, 0, 1, 0, 0, 0, 0, 6, 0, 2, 0, 0, 127]
  Packet.bytes 0 .binary ([8, 0, 1, 0, 0, 0, 0, 11, 0, 2, 0, 0, 0, 7] ++ str "ver_req" ++
    [11, 0, 3, 0, 0, 0, 1, 5, 13, 0, 255, 11, 11, 0, 0, 0, 1, 0, 0, 0, 4] ++ str "sign" ++ [0, 0, 0, 2,
      5, 2, 127] ++
    [11, 0, 1, 0, 0, 0, 1, 2, 8, 0, 2, 0, 0, 0, 0, 8, 0, 3, 0, 0, 0, 0, 10, 0, 4, 0, 0, 0, 0, 0, 0, 0, 0] ++
    [12, 0, 5] ++ address ++ [12, 0, 6] ++ address ++ [10, 0, 7, 0, 0, 0, 0, 0, 0, 0, 0, 127])

namespace Hub

/-- A peer connects, its signed request is checked, and the response is
sent. -/
theorem login_verified_server :
    ∃ trace, ∃ hub : Hub Bloom.blank, Run (Hub.step PeerEnv.lone PeerEnv.lone.conf)
        (fun hub event => ¬ LogsIn PeerEnv.lone.conf ⟨.server, 1⟩ hub event) (start PeerEnv.lone) trace hub ∧
      (hub.handler ⟨.server, 1⟩).loginSuccess = true ∧
      ∃ msg ∈ (hub.handler ⟨.server, 1⟩).published, msg.name = verReqName ∧ (⟨.server, 1⟩, msg) ∈ hub.verified := by
  have facts : (runAll (Hub.step PeerEnv.lone PeerEnv.lone.conf) (start PeerEnv.lone : Hub Bloom.blank)
      [.peer (.accept ⟨.v4 9 9 9 9, 5000⟩ ⟨.v4 7 7 7 7, 10001⟩),
        .line ⟨.server, 1⟩ (.read (.holding signedRequest)), .serve,
        .line ⟨.server, 1⟩ (.outside (.sent verRespName))]).any
      (fun hub => (hub.handler ⟨.server, 1⟩).loginSuccess) = true := by decide +kernel
  obtain ⟨hub, ran, logged⟩ := (Option.any_eq_true _ _).mp facts
  have run := Run.of_runAll (server_free PeerEnv.lone.conf (show SocketId.type ⟨.server, 1⟩ = .server from rfl))
    _ .start ran
  exact ⟨_, hub, run, logged, (login_verified run).1 logged⟩

/-- This node connects to a peer, whose response has no signature. The
handler logs in, and the service refuses the response later. -/
theorem unsigned_response_logs_in :
    ∃ trace, ∃ hub :
    Hub Bloom.blank, Reaches (Hub.step PeerEnv.lone PeerEnv.lone.conf) (start PeerEnv.lone) trace hub ∧
      (hub.handler ⟨.client, 1⟩).loginSuccess = true ∧ hub.queue = [] ∧ ∀ entry, entry ∉ hub.verified := by
  have facts : (runAll (Hub.step PeerEnv.lone PeerEnv.lone.conf) (start PeerEnv.lone : Hub Bloom.blank)
      [.peer (.checkTimer (fun _ => true) (fun _ => [])), .peer (.connect ⟨.client, 1⟩ ⟨.v4 7 7 7 7, 40000⟩),
        .peer (.connectNotify ⟨.client, 1⟩), .line ⟨.client, 1⟩ (.read (.holding loginFrame)), .serve]).any
      (fun hub => (hub.handler ⟨.client, 1⟩).loginSuccess ∧ hub.queue.isEmpty ∧ hub.verified.isEmpty) = true := by
    decide +kernel
  obtain ⟨hub, ran, holds⟩ := (Option.any_eq_true _ _).mp facts
  obtain ⟨logged, empty, none⟩ := of_decide_eq_true holds
  refine ⟨_, hub, Reaches.of_runAll _ .start ran, logged, List.isEmpty_iff.mp empty, ?_⟩
  rw [List.isEmpty_iff.mp none]
  exact fun _ => List.not_mem_nil

end Hub

end DbcNode
