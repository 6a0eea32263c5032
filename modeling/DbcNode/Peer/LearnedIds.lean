import DbcNode.Peer.CandidateList

namespace DbcNode

/-- The endpoint that an entry names, if its address can be read. -/
def PeerInfo.endpoint (env : PeerEnv) (info : PeerInfo) : Option Endpoint :=
  (env.fromTextV4 info.ip).map fun address => ⟨address, info.port⟩

/-- `info` is the first entry of a list to name a public endpoint, and
announces a node id. -/
structure Announced (env : PeerEnv) (infos : List PeerInfo) (ep : Endpoint) (before : List PeerInfo)
    (info : PeerInfo) (after : List PeerInfo) : Prop where
  split : infos = before ++ info :: after
  endpoint : info.endpoint env = some ep
  outside : isRfc1918 ep = false
  first : ∀ other ∈ before, other.endpoint env ≠ some ep
  named : info.peerNodeId ≠ []

namespace Service

/-- Afterwards the candidates that a list announces have node ids, those
announced where they had none before. -/
def IdsKept (env : PeerEnv) (infos : List PeerInfo) (s t : Service) : Prop :=
  ∀ ep before info after, Announced env infos ep before info after → ∀ c, t.getPeerCandidate ep = some c →
    c.nodeId ≠ [] ∧
      ((∀ old, s.getPeerCandidate ep = some old → old.nodeId = []) → c.nodeId = info.peerNodeId)

/-- The endpoints of a list that are new to a table. -/
def newEndpoints (env : PeerEnv) : List Endpoint → List PeerInfo → List Endpoint
  | _, [] => []
  | known, info :: rest =>
    match info.endpoint env with
    | none => newEndpoints env known rest
    | some ep =>
      if isRfc1918 ep ∨ ep ∈ known then newEndpoints env known rest else ep :: newEndpoints env (known ++ [ep]) rest

/-- The first node id that entries announce for an endpoint. -/
def laterId (env : PeerEnv) (ep : Endpoint) (infos : List PeerInfo) : Option Bytes :=
  (infos.find? fun info => info.endpoint env = some ep ∧ info.peerNodeId ≠ []).map (·.peerNodeId)

/-- The message is dropped before its list is looked at. -/
def DropsList (env : PeerEnv) (nonce : Bytes) (s : Service) : Prop :=
  maxPeerCandidatesCount ≤ s.candidates.length ∨ env.checkId nonce = false

/-- Every announced endpoint that is new, and that there is room for, is
announced once more with the same id. -/
def NewIdsRepeated (env : PeerEnv) (infos : List PeerInfo) (s : Service) : Prop :=
  ∀ ep before info after, Announced env infos ep before info after → s.getPeerCandidate ep = none →
    s.candidates.length + (newEndpoints env s.endpoints before).length < maxPeerCandidatesCount →
    laterId env ep after = some info.peerNodeId

/-- The node id that the table has for an endpoint. -/
def idOf (s : Service) (ep : Endpoint) : Option Bytes := (s.getPeerCandidate ep).map (·.nodeId)

section Table
variable {s t : Service} {ep other : Endpoint} {id : Bytes}

theorem idsKept_iff {env : PeerEnv} {infos : List PeerInfo} : IdsKept env infos s t ↔
    ∀ ep before info after, Announced env infos ep before info after → ∀ id, t.idOf ep = some id →
      id ≠ [] ∧ ((s.idOf ep = none ∨ s.idOf ep = some []) → id = info.peerNodeId) := by
  have blank : ∀ ep, (∀ old, s.getPeerCandidate ep = some old → old.nodeId = []) ↔
      s.idOf ep = none ∨ s.idOf ep = some [] := by
    intro ep
    rw [idOf]
    cases s.getPeerCandidate ep with
    | none => simp
    | some old => simp
  simp only [IdsKept, blank]
  refine forall_congr' fun ep => forall_congr' fun before => forall_congr' fun info => forall_congr' fun after =>
    forall_congr' fun announced => ?_
  constructor
  · intro kept id found
    obtain ⟨c, here, rfl⟩ := Option.map_eq_some_iff.mp found
    exact kept c here
  · intro kept c here
    exact kept c.nodeId (Option.map_eq_some_iff.mpr ⟨c, here, rfl⟩)

theorem idOf_eq_none : s.idOf ep = none ↔ s.getPeerCandidate ep = none := Option.map_eq_none_iff

theorem mem_endpoints : ep ∈ s.endpoints ↔ s.idOf ep ≠ none := by
  rw [Ne, idOf_eq_none, getPeerCandidate, List.find?_eq_none, endpoints, List.mem_map]
  simp

theorem idOf_amendCandidate : (s.amendCandidate ep fun c => { c with nodeId := id }).idOf other =
    if other = ep then (s.idOf ep).map fun _ => id else s.idOf other := by
  simp only [idOf, getPeerCandidate, amendCandidate]
  induction s.candidates with
  | nil => simp [amend]
  | cons c rest ih =>
    rw [amend]
    by_cases here : c.tcpEp = ep
    · by_cases same : other = ep
      · simp [here, same]
      · have apart : ¬ ep = other := fun equal => same equal.symm
        simp [here, same, apart]
    · by_cases same : other = ep
      · subst same
        simpa [here] using ih
      · by_cases atOther : c.tcpEp = other
        · simp [same, atOther]
        · simpa [here, same, atOther] using ih

theorem addPeerCandidate_room (ns : NetState) (ntype : PeerNodeType)
    (room : s.candidates.length < maxPeerCandidatesCount) (fresh : s.idOf ep = none) :
    (s.addPeerCandidate ep ns ntype id).endpoints = s.endpoints ++ [ep] ∧
      ∀ other, (s.addPeerCandidate ep ns ntype id).idOf other = if other = ep then some id else s.idOf other := by
  have absent := idOf_eq_none.mp fresh
  have ran : s.addPeerCandidate ep ns ntype id =
      { s with candidates := s.candidates ++ [⟨ep, ntype, id, ns, 0, s.clock, 0⟩] } := by
    rw [addPeerCandidate, if_neg (by omega), absent]
  rw [ran]
  refine ⟨by rw [endpoints, List.map_append]; rfl, ?_⟩
  intro other
  split
  · rename_i same
    rw [same, idOf, getPeerCandidate, List.find?_append]
    rw [getPeerCandidate] at absent
    simp [absent]
  · rename_i apart
    have behind : ¬ ep = other := fun equal => apart equal.symm
    simp [idOf, getPeerCandidate, List.find?_append, behind]

theorem addPeerCandidate_full (ns : NetState) (ntype : PeerNodeType)
    (full : maxPeerCandidatesCount ≤ s.candidates.length) :
    s.addPeerCandidate ep ns ntype id = s := by
  rw [addPeerCandidate, if_pos full]

theorem endpoints_length (s : Service) : s.endpoints.length = s.candidates.length := by
  rw [endpoints, List.length_map]

end Table

section Entries
variable {env : PeerEnv} {s t : Service} {info : PeerInfo} {ep other : Endpoint} {id : Bytes}
  {infos before after : List PeerInfo}

/-- What an entry does to the table: nothing, a new candidate without an id,
or an id for a candidate that has none. -/
theorem learnPeer_cases (ran : learnPeer env s info = some t) : ∃ ep, info.endpoint env = some ep ∧
    ((t = s ∧ (isRfc1918 ep = true ∨ (s.idOf ep = none ∧ maxPeerCandidatesCount ≤ s.candidates.length) ∨
        (s.idOf ep = some [] ∧ info.peerNodeId = []) ∨ ∃ id, id ≠ [] ∧ s.idOf ep = some id)) ∨
      (isRfc1918 ep = false ∧ s.idOf ep = none ∧ s.candidates.length < maxPeerCandidatesCount ∧
        t.endpoints = s.endpoints ++ [ep] ∧
        ∀ other, t.idOf other = if other = ep then some [] else s.idOf other) ∨
      (isRfc1918 ep = false ∧ s.idOf ep = some [] ∧ info.peerNodeId ≠ [] ∧ t.endpoints = s.endpoints ∧
        ∀ other, t.idOf other = if other = ep then some info.peerNodeId else s.idOf other)) := by
  simp only [learnPeer, Option.bind_eq_bind, Option.pure_def] at ran
  obtain ⟨address, read, ran⟩ := Option.bind_eq_some_iff.mp ran
  refine ⟨⟨address, info.port⟩, by rw [PeerInfo.endpoint, read]; rfl, ?_⟩
  split at ran
  · rename_i inside
    cases ran
    exact Or.inl ⟨rfl, Or.inl inside⟩
  rename_i outside
  rw [Bool.not_eq_true] at outside
  split at ran
  · rename_i absent
    have fresh := idOf_eq_none.mpr absent
    cases ran
    by_cases room : s.candidates.length < maxPeerCandidatesCount
    · exact Or.inr (Or.inl ⟨outside, fresh, room, addPeerCandidate_room .idle .normal room fresh⟩)
    · have full : maxPeerCandidatesCount ≤ s.candidates.length := by omega
      exact Or.inl ⟨addPeerCandidate_full .idle .normal full, Or.inr (Or.inl ⟨fresh, full⟩)⟩
  · rename_i c here
    have known : s.idOf ⟨address, info.port⟩ = some c.nodeId := by rw [idOf, here]; rfl
    split at ran
    · rename_i gains
      cases ran
      refine Or.inr
        (Or.inr ⟨outside, by rw [known, gains.1], gains.2, amend_map_key (by intro; rfl) s.candidates, ?_⟩)
      intro other
      rw [idOf_amendCandidate, known]
      rfl
    · rename_i keeps
      cases ran
      refine Or.inl ⟨rfl, Or.inr (Or.inr ?_)⟩
      by_cases blank : c.nodeId = []
      · exact Or.inl ⟨by rw [known, blank], by_contra fun named => keeps ⟨blank, named⟩⟩
      · exact Or.inr ⟨c.nodeId, blank, known⟩

theorem learnPeer_isSome : (learnPeer env s info).isSome ↔ (info.endpoint env).isSome := by
  simp only [learnPeer, PeerInfo.endpoint, Option.bind_eq_bind, Option.pure_def, Option.isSome_map]
  cases env.fromTextV4 info.ip with
  | none => rfl
  | some address =>
    refine iff_of_true ?_ rfl
    simp only [Option.bind_some]
    split
    · rfl
    · split
      · rfl
      · split
        · rfl
        · rfl

/-- An id stays, an entry of another endpoint changes nothing, and the table
stays full. -/
theorem learnPeer_kept (ran : learnPeer env s info = some t) (known : s.idOf ep = some id) (named : id ≠ []) :
    t.idOf ep = some id := by
  obtain ⟨key, _, ⟨rfl, _⟩ | ⟨_, fresh, _, _, ids⟩ | ⟨_, blank, _, _, ids⟩⟩ := learnPeer_cases ran
  · exact known
  · rw [ids, if_neg, known]
    rintro rfl
    rw [known] at fresh
    cases fresh
  · rw [ids, if_neg, known]
    rintro rfl
    rw [known] at blank
    cases blank
    exact named rfl

theorem learnPeer_apart (ran : learnPeer env s info = some t) (apart : info.endpoint env ≠ some ep) :
    t.idOf ep = s.idOf ep := by
  obtain ⟨key, named, ⟨rfl, _⟩ | ⟨_, _, _, _, ids⟩ | ⟨_, _, _, _, ids⟩⟩ := learnPeer_cases ran
  · rfl
  · rw [ids, if_neg]
    rintro rfl
    exact apart named
  · rw [ids, if_neg]
    rintro rfl
    exact apart named

theorem learnPeer_full (ran : learnPeer env s info = some t) (full : maxPeerCandidatesCount ≤ s.candidates.length)
    (fresh : s.idOf ep = none) : maxPeerCandidatesCount ≤ t.candidates.length ∧ t.idOf ep = none := by
  obtain ⟨key, _, ⟨rfl, _⟩ | ⟨_, _, room, _⟩ | ⟨_, blank, _, same, ids⟩⟩ := learnPeer_cases ran
  · exact ⟨full, fresh⟩
  · omega
  · refine ⟨by rw [← endpoints_length, same, endpoints_length]; exact full, ?_⟩
    rw [ids, if_neg, fresh]
    rintro rfl
    rw [fresh] at blank
    cases blank

/-- What an entry names for a candidate without an id is its id from then
on. -/
theorem learnPeer_blank (ran : learnPeer env s info = some t) (blank : s.idOf ep = some [])
    (outside : isRfc1918 ep = false) :
    t.idOf ep = some (if info.endpoint env = some ep then info.peerNodeId else []) := by
  by_cases here : info.endpoint env = some ep
  · rw [if_pos here]
    obtain ⟨key, named, ⟨rfl, inside | ⟨fresh, _⟩ | ⟨_, unnamed⟩ | ⟨id, kept, known⟩⟩ | ⟨_, fresh, _⟩ | ⟨_, _,
      _, _, ids⟩⟩ :=
      learnPeer_cases ran
    all_goals
      rw [here] at named
      cases named
    · rw [outside] at inside
      cases inside
    · rw [blank] at fresh
      cases fresh
    · rw [unnamed, blank]
    · rw [blank] at known
      cases known
      exact absurd rfl kept
    · rw [blank] at fresh
      cases fresh
    · rw [ids, if_pos rfl]
  · rw [if_neg here, learnPeer_apart ran here, blank]

theorem learnPeers_kept (ran : infos.foldlM (learnPeer env) s = some t) (known : s.idOf ep = some id)
    (named : id ≠ []) :
    t.idOf ep = some id := by
  induction infos generalizing s with
  | nil =>
    cases ran
    exact known
  | cons info rest ih =>
    rw [List.foldlM_cons] at ran
    obtain ⟨middle, head, later⟩ := Option.bind_eq_some_iff.mp ran
    exact ih later (learnPeer_kept head known named)

theorem learnPeers_apart (ran : infos.foldlM (learnPeer env) s = some t)
    (apart : ∀ info ∈ infos, info.endpoint env ≠ some ep) : t.idOf ep = s.idOf ep := by
  induction infos generalizing s with
  | nil =>
    cases ran
    rfl
  | cons info rest ih =>
    rw [List.foldlM_cons] at ran
    obtain ⟨middle, head, later⟩ := Option.bind_eq_some_iff.mp ran
    obtain ⟨here, behind⟩ := List.forall_mem_cons.mp apart
    rw [ih later behind, learnPeer_apart head here]

theorem learnPeers_full (ran : infos.foldlM (learnPeer env) s = some t)
    (full : maxPeerCandidatesCount ≤ s.candidates.length) (fresh : s.idOf ep = none) : t.idOf ep = none := by
  induction infos generalizing s with
  | nil =>
    cases ran
    exact fresh
  | cons info rest ih =>
    rw [List.foldlM_cons] at ran
    obtain ⟨middle, head, later⟩ := Option.bind_eq_some_iff.mp ran
    obtain ⟨still, absent⟩ := learnPeer_full head full fresh
    exact ih later still absent

/-- A candidate without an id gets the first one that is announced. -/
theorem learnPeers_blank (ran : infos.foldlM (learnPeer env) s = some t) (blank : s.idOf ep = some [])
    (outside : isRfc1918 ep = false) : t.idOf ep = some ((laterId env ep infos).getD []) := by
  induction infos generalizing s with
  | nil =>
    cases ran
    exact blank
  | cons info rest ih =>
    rw [List.foldlM_cons] at ran
    obtain ⟨middle, head, later⟩ := Option.bind_eq_some_iff.mp ran
    have next := learnPeer_blank head blank outside
    by_cases gains : info.endpoint env = some ep ∧ info.peerNodeId ≠ []
    · rw [if_pos gains.1] at next
      rw [learnPeers_kept later next gains.2, laterId, List.find?_cons_of_pos (by simpa using gains)]
      rfl
    · have still : middle.idOf ep = some [] := by
        rw [next]
        split
        · rename_i here
          exact congrArg some (by_contra fun named => gains ⟨here, named⟩)
        · rfl
      rw [ih later still, laterId, laterId, List.find?_cons_of_neg (by simpa using gains)]

/-- The table grows by what is new, up to its limit. -/
theorem learnPeers_length (ran : infos.foldlM (learnPeer env) s = some t)
    (bounded : s.candidates.length ≤ maxPeerCandidatesCount) :
    t.candidates.length =
      min maxPeerCandidatesCount (s.candidates.length + (newEndpoints env s.endpoints infos).length) := by
  induction infos generalizing s with
  | nil =>
    cases ran
    rw [newEndpoints, List.length_nil]
    omega
  | cons info rest ih =>
    rw [List.foldlM_cons] at ran
    obtain ⟨middle, head, later⟩ := Option.bind_eq_some_iff.mp ran
    obtain ⟨ep, named, ⟨rfl, why⟩ | ⟨outside, fresh, room, longer, _⟩ | ⟨_, blank, _, same, _⟩⟩ :=
      learnPeer_cases head
    · rw [ih later bounded, newEndpoints, named]
      dsimp only
      split
      · rfl
      · rename_i unknown
        rw [not_or, mem_endpoints, not_not] at unknown
        obtain ⟨outside, fresh⟩ := unknown
        rcases why with inside | ⟨_, full⟩ | ⟨known, _⟩ | ⟨id, _, known⟩
        · exact absurd inside outside
        · omega
        · rw [fresh] at known
          cases known
        · rw [fresh] at known
          cases known
    · have unknown : ¬ (isRfc1918 ep = true ∨ ep ∈ s.endpoints) := by
        rw [not_or, mem_endpoints, not_not]
        exact ⟨by rw [outside]; exact Bool.false_ne_true, fresh⟩
      have one : middle.candidates.length = s.candidates.length + 1 := by
        rw [← endpoints_length, longer, List.length_append, endpoints_length, List.length_singleton]
      rw [ih later (by omega), newEndpoints, named]
      dsimp only
      rw [if_neg unknown, longer, one, List.length_cons]
      omega
    · have known : isRfc1918 ep = true ∨ ep ∈ s.endpoints := by
        rw [mem_endpoints, blank]
        exact Or.inr nofun
      have equal : middle.candidates.length = s.candidates.length := by
        rw [← endpoints_length, same, endpoints_length]
      rw [ih later (by omega), newEndpoints, named]
      dsimp only
      rw [if_pos known, same, equal]

theorem learnPeers_isSome : (infos.foldlM (learnPeer env) s).isSome ↔
    ∀ info ∈ infos, (info.endpoint env).isSome := by
  induction infos generalizing s with
  | nil => simp
  | cons info rest ih =>
    rw [List.foldlM_cons, List.forall_mem_cons, ← learnPeer_isSome (s := s)]
    cases learnPeer env s info with
    | none => simp
    | some middle => simpa using ih

/-- An endpoint that is new gets a candidate without an id, while there is
room. -/
theorem learnPeer_new (ran : learnPeer env s info = some t) (named : info.endpoint env = some ep)
    (outside : isRfc1918 ep = false) (fresh : s.idOf ep = none)
    (room : s.candidates.length < maxPeerCandidatesCount) : t.idOf ep = some [] := by
  obtain ⟨key, keyed, ⟨_, inside | ⟨_, full⟩ | ⟨known, _⟩ | ⟨_, _, known⟩⟩ | ⟨_, _, _, _, ids⟩ | ⟨_, blank, _⟩⟩ :=
    learnPeer_cases ran
  all_goals
    rw [named] at keyed
    cases keyed
  · rw [outside] at inside
    cases inside
  · omega
  · rw [fresh] at known
    cases known
  · rw [fresh] at known
    cases known
  · rw [ids, if_pos rfl]
  · rw [fresh] at blank
    cases blank

/-- One entry among several, from the table before the list to the one after
it. -/
theorem learnPeers_announced (announced : Announced env infos ep before info after)
    (ran : infos.foldlM (learnPeer env) s = some t) (room : s.candidates.length < maxPeerCandidatesCount) :
    (∀ id, t.idOf ep = some id → id ≠ [] ∧ ((s.idOf ep = none ∨ s.idOf ep = some []) → id = info.peerNodeId)) ↔
      (s.idOf ep = none →
        s.candidates.length + (newEndpoints env s.endpoints before).length < maxPeerCandidatesCount →
        laterId env ep after = some info.peerNodeId) := by
  rw [announced.split, List.foldlM_append] at ran
  obtain ⟨middle, early, ran⟩ := Option.bind_eq_some_iff.mp ran
  rw [List.foldlM_cons] at ran
  obtain ⟨learned, head, late⟩ := Option.bind_eq_some_iff.mp ran
  have same := learnPeers_apart early announced.first
  have count := learnPeers_length early room.le
  cases known : s.idOf ep with
  | some id =>
    refine iff_of_true ?_ nofun
    intro found last
    by_cases blank : id = []
    · rw [known, blank] at same
      have next := learnPeer_blank head same announced.outside
      rw [if_pos announced.endpoint] at next
      rw [learnPeers_kept late next announced.named] at last
      cases last
      exact ⟨announced.named, fun _ => rfl⟩
    · rw [known] at same
      rw [learnPeers_kept late (learnPeer_kept head same blank) blank] at last
      cases last
      exact ⟨blank, fun none => absurd none (by simp [blank])⟩
  | none =>
    rw [known] at same
    by_cases fits : s.candidates.length + (newEndpoints env s.endpoints before).length < maxPeerCandidatesCount
    · have next := learnPeer_new head announced.endpoint announced.outside same (by omega)
      rw [learnPeers_blank late next announced.outside]
      constructor
      · intro kept _ _
        obtain ⟨named, equal⟩ := kept _ rfl
        cases later : laterId env ep after with
        | none =>
          rw [later] at named
          exact absurd rfl named
        | some id =>
          rw [later] at equal
          rw [← equal (Or.inl rfl)]
          rfl
      · intro repeated id last
        rw [repeated rfl fits] at last
        cases last
        exact ⟨announced.named, fun _ => rfl⟩
    · have full : maxPeerCandidatesCount ≤ middle.candidates.length := by omega
      obtain ⟨still, absent⟩ := learnPeer_full head full same
      have missing := learnPeers_full late still absent
      refine iff_of_true ?_ fun _ fit => absurd fit fits
      intro id last
      rw [missing] at last
      cases last

end Entries

/-- The entry of a list of one is learnt with its id. -/
theorem learnSender_kept {env : PeerEnv} {s t : Service} {info : PeerInfo} (ran : s.learnSender env info = some t) :
    IdsKept env [info] s t := by
  intro ep before entry after announced c found
  obtain ⟨rfl, rfl, rfl⟩ : before = [] ∧ entry = info ∧ after = [] := by
    have split := announced.split
    cases before with
    | nil =>
      cases split
      exact ⟨rfl, rfl, rfl⟩
    | cons first rest => simp at split
  simp only [learnSender, Option.bind_eq_bind, Option.pure_def] at ran
  obtain ⟨address, read, ran⟩ := Option.bind_eq_some_iff.mp ran
  have here : (⟨address, entry.port⟩ : Endpoint) = ep := by
    have named := announced.endpoint
    rw [PeerInfo.endpoint, read] at named
    exact Option.some.inj named
  rw [here, if_neg (by rw [announced.outside]; exact Bool.false_ne_true)] at ran
  cases ran
  have id : idOf ((s.addPeerCandidate ep .available .normal entry.peerNodeId).amendCandidate ep
      fun c => { c with nodeId := entry.peerNodeId }) ep = some c.nodeId := by
    rw [idOf, found]
    rfl
  rw [idOf_amendCandidate, if_pos rfl] at id
  obtain ⟨_, _, learnt⟩ := Option.map_eq_some_iff.mp id
  rw [← learnt]
  exact ⟨announced.named, fun _ => rfl⟩

/-- The handler of a list that is not dropped: one entry takes the first
way, several the second. -/
theorem onBroadcastPeerNodes_isSome {env : PeerEnv} {nonce : Bytes} {infos : List PeerInfo} {s : Service}
    (handled : ¬ DropsList env nonce s) :
    (s.onBroadcastPeerNodes env nonce infos).isSome ↔ ∀ info ∈ infos, (info.endpoint env).isSome := by
  obtain ⟨room, nonced⟩ := not_or.mp handled
  unfold onBroadcastPeerNodes
  rw [if_neg room, if_neg nonced]
  split
  · rename_i info
    rw [List.forall_mem_singleton, learnSender, PeerInfo.endpoint, Option.isSome_map]
    cases env.fromTextV4 info.ip with
    | none => rfl
    | some address =>
      simp only [Option.bind_eq_bind, Option.bind_some, Option.pure_def, Option.isSome_some, iff_true]
      split
      · rfl
      · rfl
  · exact learnPeers_isSome

/-- A list of peers leaves its node ids in the table exactly when its
addresses can be read, so that the handler returns, and it is the list of
one peer or each new endpoint is in it twice; and a list that is dropped,
when no candidate it announces lacks an id. -/
theorem learned_ids_kept_iff (env : PeerEnv) (nonce : Bytes) (infos : List PeerInfo) (s : Service) :
    (∃ t, s.onBroadcastPeerNodes env nonce infos = some t ∧ IdsKept env infos s t) ↔
      (DropsList env nonce s → ∀ ep before info after, Announced env infos ep before info after →
        ∀ c, s.getPeerCandidate ep = some c → c.nodeId ≠ []) ∧
      (¬ DropsList env nonce s →
        (∀ info ∈ infos, (info.endpoint env).isSome) ∧ (infos.length = 1 ∨ NewIdsRepeated env infos s)) := by
  by_cases drops : DropsList env nonce s
  · have ran : s.onBroadcastPeerNodes env nonce infos = some s := by
      unfold onBroadcastPeerNodes
      split
      · rfl
      · rename_i room
        rw [if_pos (drops.resolve_left room)]
    simp only [ran, drops, true_imp_iff, not_true_eq_false, false_imp_iff, and_true, Option.some.injEq,
      exists_eq_left']
    refine forall_congr' fun ep => forall_congr' fun before => forall_congr' fun info => forall_congr' fun after =>
      forall_congr' fun _ => forall_congr' fun c => forall_congr' fun here => ?_
    constructor
    · exact And.left
    · exact fun named => ⟨named, fun blank => absurd (blank c here) named⟩
  · have handled := not_or.mp drops
    have reads : (s.onBroadcastPeerNodes env nonce infos).isSome ↔ ∀ info ∈ infos, (info.endpoint env).isSome :=
      onBroadcastPeerNodes_isSome drops
    simp only [drops, false_imp_iff, not_false_eq_true, true_imp_iff, true_and, ← reads]
    cases ran : s.onBroadcastPeerNodes env nonce infos with
    | none => simp
    | some t =>
      simp only [Option.some.injEq, exists_eq_left', Option.isSome_some, true_and]
      by_cases one : ∃ info, infos = [info]
      · obtain ⟨info, rfl⟩ := one
        rw [onBroadcastPeerNodes, if_neg handled.1, if_neg handled.2] at ran
        exact iff_of_true (learnSender_kept ran) (Or.inl rfl)
      · have many : ¬ infos.length = 1 := fun length => one (List.length_eq_one_iff.mp length)
        have learned : infos.foldlM (learnPeer env) s = some t := by
          unfold onBroadcastPeerNodes at ran
          rw [if_neg handled.1, if_neg handled.2] at ran
          split at ran
          · rename_i info
            exact absurd rfl many
          · exact ran
        simp only [many, false_or, idsKept_iff, NewIdsRepeated, ← idOf_eq_none]
        refine forall_congr' fun ep => forall_congr' fun before => forall_congr' fun info =>
          forall_congr' fun after =>
          forall_congr' fun announced => ?_
        exact learnPeers_announced announced learned (Nat.not_le.mp handled.1)

/-- Two entries for new endpoints. -/
def twoPeers : List PeerInfo :=
    [⟨[2], Address.plain (.v4 8 8 8 8), 10001⟩, ⟨[3], Address.plain (.v4 8 8 4 4), 10001⟩]

/-- The candidates that come of them have no ids. -/
theorem ids_of_two_lost : ¬ ∃ t, (first PeerEnv.lone).onBroadcastPeerNodes PeerEnv.lone [1] twoPeers = some t ∧
    IdsKept PeerEnv.lone twoPeers (first PeerEnv.lone) t := by
  rintro ⟨t, ran, kept⟩
  have announced : Announced PeerEnv.lone twoPeers ⟨.v4 8 8 8 8, 10001⟩ [] ⟨[2], Address.plain (.v4 8 8 8 8), 10001⟩
      [⟨[3], Address.plain (.v4 8 8 4 4), 10001⟩] := ⟨rfl, by decide, by decide, nofun, by decide⟩
  have lost : ((first PeerEnv.lone).onBroadcastPeerNodes PeerEnv.lone [1] twoPeers).any (fun t =>
      (t.getPeerCandidate ⟨.v4 8 8 8 8, 10001⟩).any fun c => decide (c.nodeId = [])) = true := by
    decide +kernel
  obtain ⟨u, ran', here⟩ := (Option.any_eq_true _ _).mp lost
  obtain rfl : u = t := Option.some.inj (ran'.symm.trans ran)
  obtain ⟨c, found, blank⟩ := (Option.any_eq_true _ _).mp here
  exact (kept _ _ _ _ announced c found).1 (of_decide_eq_true blank)

end Service

end DbcNode
