import DbcNode.Channel.Sessions
import DbcNode.Peer.Replies

namespace DbcNode

namespace Handler
variable {B : Bloom}

/-- What the messages of a channel do to its handler: it publishes more, a
server is not logged in by them, and before the login only a login request
is published. -/
structure Keeps (h heard : Handler B) : Prop where
  type : heard.type = h.type
  grows : h.published <+: heard.published
  server : h.type = .server → heard.loginSuccess = h.loginSuccess
  silent : heard.loginSuccess = false → h.loginSuccess = false ∧
    ∀ msg ∈ heard.published, msg ∈ h.published ∨ (msg.name = verReqName ∧ h.type = .server)

namespace Keeps

theorem refl (h : Handler B) : Keeps h h :=
    ⟨rfl, List.prefix_refl _, fun _ => rfl, fun out => ⟨out, fun _ => Or.inl⟩⟩

theorem trans {a b c : Handler B} (first : Keeps a b) (second : Keeps b c) : Keeps a c := by
  refine ⟨second.type.trans first.type, first.grows.trans second.grows, ?_, ?_⟩
  · intro server
    rw [second.server (first.type.trans server), first.server server]
  · intro out
    obtain ⟨middle, later⟩ := second.silent out
    obtain ⟨start, earlier⟩ := first.silent middle
    refine ⟨start, ?_⟩
    intro msg member
    rcases later msg member with old | ⟨name, server⟩
    · exact earlier msg old
    · exact Or.inr ⟨name, first.type ▸ server⟩

/-- A change of the other fields. -/
theorem of_eq {h heard : Handler B} (type : heard.type = h.type) (published : heard.published = h.published)
    (login : heard.loginSuccess = h.loginSuccess) : Keeps h heard := by
  refine ⟨type, by rw [published], fun _ => login, ?_⟩
  intro out
  refine ⟨login ▸ out, ?_⟩
  rw [published]
  exact fun _ => Or.inl

theorem setHasMessage (h : Handler B) (msgName : Bytes) : Keeps h (h.setHasMessage msgName) := by
  rw [Handler.setHasMessage]
  split
  · exact refl h
  · exact of_eq rfl rfl rfl

end Keeps

/-- A handler that lets a message pass is logged in afterwards, or it is a
server and the message is its login request. -/
theorem onAfterMsgReceived_cases {conf : NodeConf} {msg : Message} {h heard : Handler B}
    (passed : h.onAfterMsgReceived conf msg = some heard) :
    (heard.type = h.type ∧ heard.published = h.published) ∧
      (h.type = .server → heard.loginSuccess = h.loginSuccess) ∧
        (heard.loginSuccess = true ∨ (h.type = .server ∧ msg.name = verReqName)) := by
  rw [onAfterMsgReceived] at passed
  split at passed
  · rename_i client
    rw [clientAfterMsgReceived] at passed
    split at passed
    · cases passed
    rename_i waits
    split at passed
    · split at passed
      · cases passed
      · cases passed
        refine ⟨⟨rfl, rfl⟩, ?_, Or.inl rfl⟩
        intro server
        rw [client] at server
        cases server
    · rename_i other
      cases passed
      refine ⟨⟨rfl, rfl⟩, fun _ => rfl, Or.inl ?_⟩
      by_contra out
      exact waits ⟨Bool.not_eq_true _ ▸ out, other⟩
  · rename_i server
    rw [serverAfterMsgReceived] at passed
    split at passed
    · cases passed
    split at passed
    · cases passed
    rename_i waits
    split at passed
    · rename_i request
      split at passed
      · cases passed
      split at passed
      · cases passed
      · cases passed
        exact ⟨⟨rfl, rfl⟩, fun _ => rfl, Or.inr ⟨server, request⟩⟩
    · rename_i other
      have logged : h.loginSuccess = true := by
        by_contra out
        exact waits ⟨Bool.not_eq_true _ ▸ out, other⟩
      split at passed
      · cases passed
        exact ⟨⟨rfl, rfl⟩, fun _ => rfl, Or.inl logged⟩
      · cases passed
        exact ⟨⟨rfl, rfl⟩, fun _ => rfl, Or.inl logged⟩

theorem onMessage_keeps (conf : NodeConf) (msg : Message) (h : Handler B) : Keeps h (h.onMessage conf msg).2 := by
  rw [onMessage]
  cases passed : h.onAfterMsgReceived conf msg with
  | none => exact .refl h
  | some heard =>
    obtain ⟨⟨type, published⟩, server, logged⟩ := onAfterMsgReceived_cases passed
    have first : Keeps h heard := by
      refine ⟨type, by rw [published], server, ?_⟩
      intro out
      rcases logged with in_ | ⟨isServer, _⟩
      · rw [in_] at out
        cases out
      · refine ⟨server isServer ▸ out, ?_⟩
        rw [published]
        exact fun _ => Or.inl
    dsimp only
    split
    · exact first.trans (.setHasMessage heard msg.name)
    split
    · exact first
    split
    · exact first
    split
    · refine Keeps.trans ?_ (.setHasMessage _ msg.name)
      exact first.trans (.of_eq rfl rfl rfl)
    · refine Keeps.trans ?_ (.setHasMessage _ msg.name)
      refine ⟨type, ?_, server, ?_⟩
      · rw [← published]
        exact List.prefix_append _ _
      · intro out
        rcases logged with in_ | ⟨isServer, request⟩
        · rw [in_] at out
          cases out
        · refine ⟨server isServer ▸ out, ?_⟩
          intro other member
          rcases List.mem_append.mp member with old | new
          · exact Or.inl (published ▸ old)
          · rw [List.mem_singleton.mp new]
            exact Or.inr ⟨request, isServer⟩

theorem onFrame_keeps (conf : NodeConf) (frame : Bytes) (h : Handler B) : Keeps h (h.onFrame conf frame).2 := by
  rw [onFrame]
  split
  · rename_i result _
    rw [onDecoded.eq_def]
    split
    · exact onMessage_keeps conf _ h
    · exact .refl h
    · exact .refl h
    · exact .refl h
    · exact .refl h
  · exact .refl h

theorem readFrames_keeps (conf : NodeConf) (frames : List Bytes) (h : Handler B) :
    Keeps h (readFrames conf frames h).2.1 := by
  induction frames generalizing h with
  | nil => exact .refl h
  | cons frame rest ih =>
    have first := onFrame_keeps conf frame h
    rw [readFrames]
    rcases outcome : h.onFrame conf frame with ⟨e | ⟨_ | status⟩, heard⟩
    · rw [outcome] at first
      exact first
    · rw [outcome] at first
      exact first.trans (ih heard)
    · rw [outcome] at first
      exact first

end Handler

/-- The first message that the handler of a new channel sees: the ones that
are not known are passed over. -/
def firstMessage (conf : NodeConf) : List Bytes → Option Message
  | [] => none
  | frame :: rest =>
    match decoded conf frame with
    | .ok (.success, msg) => msg
    | .ok (.unknownMsg, _) => firstMessage conf rest
    | .ok (.needMoreData, _) => firstMessage conf rest
    | _ => none

/-- A client that has not logged in stays as it is unless it gets a login
response. -/
theorem Handler.client_waits {B : Bloom} {conf : NodeConf} {frames : List Bytes} {h : Handler B}
    (client : h.type = .client) (out : h.loginSuccess = false)
    (other : ∀ msg, firstMessage conf frames = some msg → msg.name ≠ verRespName) :
    (readFrames conf frames h).2.1 = h := by
  induction frames with
  | nil => rfl
  | cons frame rest ih =>
    rw [firstMessage] at other
    rw [readFrames, onFrame]
    split at other
    · rename_i msg outcome
      rw [outcome]
      cases msg with
      | none => rfl
      | some msg =>
        have name := other msg rfl
        have refused : h.onAfterMsgReceived conf msg = none := by
          rw [onAfterMsgReceived, client, clientAfterMsgReceived]
          exact if_pos ⟨out, name⟩
        simp only [onDecoded, onMessage, refused]
    · rename_i outcome
      rw [outcome]
      exact ih other
    · rename_i outcome
      rw [outcome]
      exact ih other
    · rename_i failed unknown waiting
      cases outcome : decoded conf frame with
      | error e => rfl
      | ok result =>
        obtain ⟨status, msg⟩ := result
        cases status with
        | success => exact (failed msg outcome).elim
        | needMoreData => exact (waiting msg outcome).elim
        | unknownMsg => exact (unknown msg outcome).elim
        | error => rfl

end DbcNode
