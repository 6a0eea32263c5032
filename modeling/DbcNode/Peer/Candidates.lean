import DbcNode.Peer.Handlers

namespace DbcNode

namespace Service

def endpoints (s : Service) : List Endpoint := s.candidates.map (·.tcpEp)

theorem endpoints_eq_of_states {s t : Service} (same : t.states = s.states) : t.endpoints = s.endpoints := by
  have firsts := congrArg (List.map Prod.fst) same
  simp only [states, List.map_map] at firsts
  exact firsts

@[simp] theorem updatePeerCandidateState_endpoints (ep : Endpoint) (state : NetState) (s : Service) :
    (s.updatePeerCandidateState ep state).endpoints = s.endpoints := amend_map_key (by intro; rfl) s.candidates

theorem onVerReq_frame (env : PeerEnv) (sid : SocketId) (m : Login) (s : Service) :
    (s.onVerReq env sid m).endpoints = s.endpoints ∧ (s.onVerReq env sid m).db = s.db := by
  rcases s.onVerReq_cases env sid m with same | ⟨_, _, stopped⟩ | ⟨_, ch, _, joined⟩
  · rw [same]
    exact ⟨rfl, rfl⟩
  · rw [stopped]
    exact ⟨rfl, rfl⟩
  · exact ⟨endpoints_eq_of_states joined.states, joined.db⟩

theorem onVerResp_frame (env : PeerEnv) (sid : SocketId) (m : Login) (s : Service) :
    (s.onVerResp env sid m).endpoints = s.endpoints ∧ (s.onVerResp env sid m).db = s.db := by
  obtain ⟨states, _, _, db⟩ := s.named_frame sid m
  have named := endpoints_eq_of_states states
  rcases s.onVerResp_cases env sid m with
    same | ⟨_, _, ch, _, ⟨_, full⟩ | ⟨_, _, stopped⟩ | ⟨_, _, joined⟩⟩
  · rw [same]
    exact ⟨rfl, rfl⟩
  · rw [full]
    exact ⟨(updatePeerCandidateState_endpoints ch.remoteAddr .available (s.named sid m)).trans named, db⟩
  · rw [stopped]
    exact ⟨named, db⟩
  · exact ⟨endpoints_eq_of_states joined.states, joined.db⟩

theorem onClientTcpConnectNotify_frame (connector : Connector) (s : Service) :
    (s.onClientTcpConnectNotify connector).endpoints = s.endpoints ∧
      (s.onClientTcpConnectNotify connector).db = s.db := by
  rw [onClientTcpConnectNotify]
  split
  · exact ⟨rfl, rfl⟩
  have failed := updatePeerCandidateState_endpoints connector.connectAddr .failed s
  cases connector.phase with
  | connected => exact ⟨rfl, rfl⟩
  | connecting => exact ⟨failed, rfl⟩
  | failed => exact ⟨failed, rfl⟩

/-- Moving a candidate to the end loses none and doubles none. -/
theorem moveToTail_endpoints {f : Candidate → Candidate} (kept : ∀ c, (f c).tcpEp = c.tcpEp) (ep : Endpoint)
    (s : Service) : (s.moveToTail ep f).endpoints.Perm s.endpoints := by
  rw [moveToTail]
  split
  · exact .refl _
  rename_i c found
  obtain ⟨same, before, after, whole, none⟩ := List.find?_eq_some_iff_append.mp found
  have erased : s.candidates.eraseP (·.tcpEp = ep) = before ++ after := by
    rw [whole, List.eraseP_append_right]
    · simp only [List.eraseP_cons, same, cond_true]
    · intro b member
      simpa using none b member
  simp only [endpoints, removePeerCandidate, erased]
  rw [whole]
  simp only [List.map_append, List.map_cons, List.map_nil, kept]
  rw [List.append_assoc]
  exact (List.perm_append_comm).append_left _

theorem onTcpChannelError_frame (sid : SocketId) (ep : Endpoint) (s : Service) :
    (s.onTcpChannelError sid ep).endpoints.Perm s.endpoints ∧ (s.onTcpChannelError sid ep).db = s.db := by
  change (s.failCandidate ep).endpoints.Perm s.endpoints ∧ (s.failCandidate ep).db = s.db
  rw [failCandidate]
  split
  · exact ⟨.refl _, rfl⟩
  split
  · exact ⟨.refl _, rfl⟩
  exact ⟨moveToTail_endpoints (by intro; rfl) ep s, (Quiet.moveToTail (by intro; simp) ep s).db⟩

theorem connectLoop_endpoints (env : PeerEnv) (peerNodes : List PeerNode) (connects : Endpoint → Bool) (clock : Int)
    (newConnCnt : Nat) (net : Network) (candidates : List Candidate) :
    (connectLoop env peerNodes connects clock newConnCnt net candidates).2.map (·.tcpEp) =
      candidates.map (·.tcpEp) := by
  induction candidates generalizing newConnCnt net with
  | nil => rfl
  | cons c rest ih =>
    rw [connectLoop]
    split
    · rfl
    split
    · split
      · simp [ih]
      split
      · simp [ih]
      · simp [ih]
    · simp [ih]

theorem connectAvailable_endpoints (env : PeerEnv) (peerNodes : List PeerNode) (connects : Endpoint → Bool)
    (left : Nat) (net : Network) (candidates : List Candidate) :
    (connectAvailable env peerNodes connects left net candidates).2.map (·.tcpEp) = candidates.map (·.tcpEp) := by
  induction candidates generalizing left net with
  | nil => rfl
  | cons c rest ih =>
    rw [connectAvailable]
    split
    · simp [ih]
    · simp [ih]

theorem replaceNode_frame {env : PeerEnv} {connects : Endpoint → Bool} {draw : Nat} {node : PeerNode}
    {s t : Service} (ran : s.replaceNode env connects draw node = some t) :
    t.endpoints.Perm s.endpoints ∧ t.db = s.db := by
  rw [replaceNode] at ran
  split at ran
  · cases ran
    exact ⟨.refl _, rfl⟩
  split at ran
  · cases ran
  simp only at ran
  cases ran
  rw [updatePeerCandidateState_endpoints]
  exact ⟨moveToTail_endpoints (f := fun c => { c with netSt := .available }) (fun _ => rfl) _ s,
    (Quiet.moveToTail (by intro; simp) _ s).db⟩

theorem onTimerDynamicAdjustNetwork_frame {env : PeerEnv} {connects : Endpoint → Bool} {leave join : Nat}
    {s t : Service} (ran : s.onTimerDynamicAdjustNetwork env connects leave join = some t) :
    t.endpoints.Perm s.endpoints ∧ t.db = s.db := by
  rw [onTimerDynamicAdjustNetwork] at ran
  simp only at ran
  split at ran
  · cases ran
    exact ⟨.of_eq (connectAvailable_endpoints env s.peerNodes connects _ s.net s.candidates), rfl⟩
  split at ran
  · cases ran
    exact ⟨.refl _, rfl⟩
  split at ran
  · cases ran
    exact ⟨.refl _, rfl⟩
  exact (replaceNode_frame ran :)

theorem takeAvailable_perm (count : Nat) (candidates : List Candidate) :
    ((takeAvailable count candidates).1 ++ (takeAvailable count candidates).2).Perm candidates := by
  induction candidates generalizing count with
  | nil => exact .refl _
  | cons c rest ih =>
    rw [takeAvailable]
    split
    · rw [List.append_nil]
    split
    · exact List.perm_middle.trans ((ih (count + 1)).cons c)
    · exact (ih count).cons c

theorem broadcastPeerNodes_perm (env : PeerEnv) (s : Service) :
    (s.broadcastPeerNodes env).candidates.Perm s.candidates := takeAvailable_perm _ s.candidates

end Service

theorem DbCandidate.candidate_address {env : PeerEnv} {record : DbCandidate} {c : Candidate}
    (read : record.candidate env = some c) : env.fromText record.ip = some c.tcpEp.address := by
  rw [DbCandidate.candidate, DbCandidate.address] at read
  split at read
  · cases read
  rename_i address parsed
  simp only at read
  split at read
  · cases read
    exact parsed
  · cases read

/-- A list of endpoints without doubles that fits into the table. -/
structure Tidy (endpoints : List Endpoint) : Prop where
  distinct : endpoints.Nodup
  bounded : endpoints.length ≤ maxPeerCandidatesCount

namespace Tidy
variable {l l' : List Endpoint}

theorem perm (tidy : Tidy l) (same : l'.Perm l) : Tidy l' :=
  ⟨same.nodup_iff.mpr tidy.distinct, same.length_eq ▸ tidy.bounded⟩

theorem sublist (tidy : Tidy l) (part : l'.Sublist l) : Tidy l' :=
  ⟨tidy.distinct.sublist part, part.length_le.trans tidy.bounded⟩

theorem concat (tidy : Tidy l) (room : l.length < maxPeerCandidatesCount) {ep : Endpoint} (fresh : ep ∉ l) :
    Tidy (l ++ [ep]) := by
  refine ⟨List.nodup_append.mpr ⟨tidy.distinct, List.nodup_singleton ep, ?_⟩, ?_⟩
  · intro a member b last equal
    rw [List.mem_singleton.mp last] at equal
    exact fresh (equal ▸ member)
  · rw [List.length_append, List.length_singleton]
    exact room

end Tidy

/-- The database holds what was saved: every record stands under the text of
its address, and there are no more of them than candidates fit into the
table. -/
structure Saved (env : PeerEnv) (db : OrdMap Bytes DbCandidate) : Prop where
  bounded : db.entries.length ≤ maxPeerCandidatesCount
  texts : ∀ entry ∈ db.entries, entry.2.ip = entry.1 ∧ ∃ address, entry.1 = env.toText address

namespace Saved
variable {env : PeerEnv}

theorem empty : Saved env OrdMap.empty :=
  ⟨Nat.zero_le _, fun _ member => (List.not_mem_nil member).elim⟩

theorem filter {db : OrdMap Bytes DbCandidate} (saved : Saved env db) (p : Bytes × DbCandidate → Bool) :
    Saved env (db.filter p) :=
  ⟨(List.length_filter_le p db.entries).trans saved.bounded,
    fun entry member => saved.texts entry (List.mem_filter.mp member).1⟩

/-- Each candidate adds a record at most, under its own address. -/
theorem foldl (candidates : List Candidate) (db : OrdMap Bytes DbCandidate)
    (texts : ∀ entry ∈ db.entries, entry.2.ip = entry.1 ∧ ∃ address, entry.1 = env.toText address) :
    let db' := candidates.foldl (fun db c =>
      db.insert (env.toText c.tcpEp.address) (c.record env)) db
    db'.entries.length ≤ db.entries.length + candidates.length ∧
      ∀ entry ∈ db'.entries, entry.2.ip = entry.1 ∧ ∃ address, entry.1 = env.toText address := by
  induction candidates generalizing db with
  | nil => exact ⟨Nat.le_refl _, texts⟩
  | cons c rest ih =>
    have longer := OrdMap.insertIn_length_le (env.toText c.tcpEp.address) (c.record env) db.entries
    obtain ⟨bounded, kept⟩ := ih (db.insert (env.toText c.tcpEp.address) (c.record env)) (by
      intro entry member
      rcases OrdMap.mem_insertIn_total member with same | old
      · rw [same]
        exact ⟨rfl, c.tcpEp.address, rfl⟩
      · exact texts entry old)
    refine ⟨bounded.trans ?_, kept⟩
    rw [OrdMap.insert_entries, List.length_cons]
    omega

/-- Different records have different addresses. -/
theorem tidy {db : OrdMap Bytes DbCandidate} (saved : Saved env db) :
    Tidy ((db.entries.filterMap (fun entry => entry.2.candidate env)).map (·.tcpEp)) := by
  constructor
  · rw [List.Nodup, List.pairwise_map, List.pairwise_filterMap]
    refine db.sorted.imp_of_mem ?_
    intro a b first second less c found d found' equal
    obtain ⟨sameA, address, textA⟩ := saved.texts a first
    obtain ⟨sameB, address', textB⟩ := saved.texts b second
    have readA := DbCandidate.candidate_address found
    have readB := DbCandidate.candidate_address found'
    rw [sameA, textA, env.fromText_toText, Option.some.injEq] at readA
    rw [sameB, textB, env.fromText_toText, Option.some.injEq] at readB
    rw [textA, textB, readA, readB, equal] at less
    exact Std.Irrefl.irrefl _ less
  · rw [List.length_map]
    exact (List.length_filterMap_le _ _).trans saved.bounded

end Saved

end DbcNode
