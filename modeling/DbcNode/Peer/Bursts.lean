import DbcNode.Peer.CandidateList

namespace DbcNode

/-- What a run of the timer does to one candidate. `attempt` is the outcome
of `start_connect`, where it is called for the candidate. -/
structure Round where
  before : Candidate
  after : Candidate
  attempt : Option Bool

def Round.tried (r : Round) : Bool := r.attempt.isSome

def Round.started (r : Round) : Bool := r.attempt = some true

/-- A candidate is tried only while nobody is connected to it, and what
becomes of it is the outcome. -/
def Round.Sound (env : PeerEnv) (peerNodes : List PeerNode) (connects : Endpoint → Bool) (r : Round) : Prop :=
  r.after.tcpEp = r.before.tcpEp ∧
  match r.attempt with
  | some started =>
    (Service.existPeerNode peerNodes r.before.nodeId = false ∧
      Service.existPeerNodeAt env peerNodes r.before.tcpEp = false ∧ r.before.nodeId ≠ env.nodeId) ∧
        started = connects r.before.tcpEp ∧
      r.after.netSt = (if started then .inUse else .failed) ∧ r.after.reconnCnt = r.before.reconnCnt + 1
  | none => r.after.reconnCnt = r.before.reconnCnt ∨ r.after.reconnCnt = 0

namespace Service

/-- The candidate is one to connect to. -/
def Triable (env : PeerEnv) (peerNodes : List PeerNode) (c : Candidate) : Prop :=
  (c.netSt = .idle ∨ (c.netSt = .failed ∧ c.reconnCnt < maxReconnectTimes)) ∧
  existPeerNode peerNodes c.nodeId = false ∧ existPeerNodeAt env peerNodes c.tcpEp = false ∧ c.nodeId ≠ env.nodeId

instance (env : PeerEnv) (peerNodes : List PeerNode) : DecidablePred (Triable env peerNodes) :=
  fun _ => inferInstanceAs (Decidable (_ ∧ _))

/-- The rounds of the connecting loop over a list, after `newConnCnt`
attempts. -/
structure LoopRounds (env : PeerEnv) (peerNodes : List PeerNode) (connects : Endpoint → Bool) (newConnCnt : Nat)
    (net : Network) (candidates : List Candidate) (outcome : Network × List Candidate) (rounds : List Round) :
    Prop where
  before : rounds.map (·.before) = candidates
  after : rounds.map (·.after) = outcome.2
  sound : ∀ r ∈ rounds, r.Sound env peerNodes connects
  tried : (rounds.filter Round.tried).map (·.before) =
    (candidates.filter (Triable env peerNodes)).take (maxPeerCandidatePerCheck + 1 - newConnCnt)
  calls : outcome.1.curIdx = net.curIdx + (rounds.filter Round.tried).length
  connectors : outcome.1.connectors.map (·.connectAddr) =
    net.connectors.map (·.connectAddr) ++ (rounds.filter Round.started).map (·.before.tcpEp)

namespace LoopRounds
variable {env : PeerEnv} {peerNodes : List PeerNode} {connects : Endpoint → Bool} {newConnCnt : Nat}
  {net : Network} {c d : Candidate} {rest : List Candidate} {outcome : Network × List Candidate}
  {rounds : List Round}

/-- A candidate that is passed over. -/
theorem pass (loop : LoopRounds env peerNodes connects newConnCnt net rest outcome rounds)
    (kept : d.tcpEp = c.tcpEp) (count : d.reconnCnt = c.reconnCnt ∨ d.reconnCnt = 0)
    (apart : ¬ Triable env peerNodes c) :
    LoopRounds env peerNodes connects newConnCnt net (c :: rest) (outcome.1, d :: outcome.2)
      (⟨c, d, none⟩ :: rounds) where
  before := by rw [List.map_cons, loop.before]
  after := by rw [List.map_cons, loop.after]
  sound := by
    intro r member
    rcases List.mem_cons.mp member with rfl | later
    · exact ⟨kept, count⟩
    · exact loop.sound r later
  tried := by
    have skipped : (c :: rest).filter (Triable env peerNodes) = rest.filter (Triable env peerNodes) :=
      List.filter_cons_of_neg (by simpa using apart)
    rw [skipped, ← loop.tried]
    rfl
  calls := loop.calls
  connectors := loop.connectors

/-- A candidate that is tried. -/
theorem attempt {started : Bool} (outcomeIs : started = connects c.tcpEp)
    (loop : LoopRounds env peerNodes connects (newConnCnt + 1)
      (net.startConnect c.tcpEp started).2 rest outcome rounds)
    (kept : d.tcpEp = c.tcpEp) (state : d.netSt = if started then .inUse else .failed)
    (count : d.reconnCnt = c.reconnCnt + 1) (room : newConnCnt ≤ maxPeerCandidatePerCheck)
    (triable : Triable env peerNodes c) :
    LoopRounds env peerNodes connects newConnCnt net (c :: rest) (outcome.1, d :: outcome.2)
      (⟨c, d, some started⟩ :: rounds) where
  before := by rw [List.map_cons, loop.before]
  after := by rw [List.map_cons, loop.after]
  sound := by
    intro r member
    rcases List.mem_cons.mp member with rfl | later
    · exact ⟨kept, triable.2, outcomeIs, state, count⟩
    · exact loop.sound r later
  tried := by
    have left : maxPeerCandidatePerCheck + 1 - newConnCnt =
      (maxPeerCandidatePerCheck + 1 - (newConnCnt + 1)) + 1 := by
      omega
    have taken : (c :: rest).filter (Triable env peerNodes) = c :: rest.filter (Triable env peerNodes) :=
      List.filter_cons_of_pos (by simpa using triable)
    rw [taken, left, List.take_succ_cons, ← loop.tried]
    rfl
  calls := by
    have index : (net.startConnect c.tcpEp started).2.curIdx = net.curIdx + 1 := by
      cases started <;> rfl
    rw [loop.calls, index, List.filter_cons_of_pos rfl, List.length_cons]
    omega
  connectors := by
    rw [loop.connectors]
    cases started with
    | false => rfl
    | true =>
      rw [List.filter_cons_of_pos rfl, List.map_cons, Network.startConnect, if_pos rfl, List.map_append,
        List.append_assoc]
      rfl

/-- The loop has broken off. -/
theorem broken (full : maxPeerCandidatePerCheck < newConnCnt) (candidates : List Candidate) :
    LoopRounds env peerNodes connects newConnCnt net candidates (net, candidates)
      (candidates.map fun c => ⟨c, c, none⟩) where
  before := by rw [List.map_map]; exact List.map_id candidates
  after := by rw [List.map_map]; exact List.map_id candidates
  sound := by
    intro r member
    obtain ⟨c, _, rfl⟩ := List.mem_map.mp member
    exact ⟨rfl, Or.inl rfl⟩
  tried := by
    have left : maxPeerCandidatePerCheck + 1 - newConnCnt = 0 := by omega
    rw [left, List.take_zero, List.filter_map, List.map_map]
    simp [Function.comp_def, Round.tried]
  calls := by simp [List.filter_map, Function.comp_def, Round.tried]
  connectors := by simp [List.filter_map, Function.comp_def, Round.started]

end LoopRounds

theorem connectLoop_rounds (env : PeerEnv) (peerNodes : List PeerNode) (connects : Endpoint → Bool) (clock : Int)
    (newConnCnt : Nat) (net : Network) (candidates : List Candidate) :
    ∃ rounds, LoopRounds env peerNodes connects newConnCnt net candidates
      (connectLoop env peerNodes connects clock newConnCnt net candidates) rounds := by
  induction candidates generalizing newConnCnt net with
  | nil =>
    rw [connectLoop]
    exact ⟨[], rfl, rfl, List.forall_mem_nil _, List.take_nil.symm, (Nat.add_zero _).symm, (List.append_nil _).symm⟩
  | cons c rest ih =>
    rw [connectLoop]
    split
    · rename_i full
      exact ⟨_, .broken full _⟩
    rename_i room
    split
    · rename_i wanted
      split
      · rename_i connected
        obtain ⟨rounds, loop⟩ := ih newConnCnt net
        refine ⟨_, loop.pass (d := { c with reconnCnt := 0 }) rfl (Or.inr rfl) ?_⟩
        rintro ⟨_, unnamed, unplaced, _⟩
        rcases connected with named | placed
        · exact absurd named (by simp [unnamed])
        · exact absurd placed (by simp [unplaced])
      rename_i apart
      split
      · rename_i own
        obtain ⟨rounds, loop⟩ := ih newConnCnt net
        exact ⟨_, loop.pass (d := { c with netSt := .zombie }) rfl
          (Or.inl rfl) fun triable => triable.2.2.2 own.symm⟩
      · rename_i other
        have begins : net.startConnect c.tcpEp (connects c.tcpEp) =
            (connects c.tcpEp, (net.startConnect c.tcpEp (connects c.tcpEp)).2) := by
          cases connects c.tcpEp <;> rfl
        obtain ⟨rounds, loop⟩ := ih (newConnCnt + 1) (net.startConnect c.tcpEp (connects c.tcpEp)).2
        have triable : Triable env peerNodes c := by
          rw [not_or, Bool.not_eq_true, Bool.not_eq_true] at apart
          exact ⟨wanted, apart.1, apart.2, fun own => other own.symm⟩
        rw [begins]
        exact ⟨_, loop.attempt rfl rfl rfl rfl (by omega) triable⟩
    · rename_i unwanted
      obtain ⟨rounds, loop⟩ := ih newConnCnt net
      exact ⟨_, loop.pass rfl (Or.inl rfl) fun triable => unwanted triable.1⟩

/-- New seeds follow the candidates of `s`. -/
def Seeded (s t : Service) : Prop :=
  ∃ seeds : List Candidate, t.candidates = s.candidates ++ seeds ∧
    ∀ c ∈ seeds, c.nodeType = .seed ∧ c.netSt = .idle ∧ c.reconnCnt = 0

namespace Seeded
variable {r s t : Service}

theorem refl (s : Service) : Seeded s s := ⟨[], (List.append_nil _).symm, nofun⟩

theorem trans (first : Seeded r s) (second : Seeded s t) : Seeded r t := by
  obtain ⟨early, here, earlySeeds⟩ := first
  obtain ⟨late, there, lateSeeds⟩ := second
  refine ⟨early ++ late, by rw [there, here, List.append_assoc], ?_⟩
  intro c member
  rcases List.mem_append.mp member with inEarly | inLate
  · exact earlySeeds c inEarly
  · exact lateSeeds c inLate

theorem addSeeds (seeds : List Endpoint) (s : Service) : Seeded s (addSeeds seeds s) := by
  rw [Service.addSeeds]
  induction seeds generalizing s with
  | nil => exact refl s
  | cons ep rest ih =>
    have added : Seeded s (s.addPeerCandidate ep .idle .seed []) := by
      rw [addPeerCandidate]
      split
      · exact refl s
      split
      · exact refl s
      · refine ⟨_, rfl, ?_⟩
        intro c member
        rw [List.mem_singleton.mp member]
        exact ⟨rfl, rfl, rfl⟩
    exact added.trans (ih _)

theorem addDnsSeeds (resolve : Bytes → List Endpoint) (s : Service) : Seeded s (s.addDnsSeeds resolve) := by
  rw [Service.addDnsSeeds]
  split
  · exact refl s
  · rename_i rest _
    have popped : Seeded s { s with dnsSeeds := rest } := refl s
    exact popped.trans (addSeeds _ _)

theorem replenish (env : PeerEnv) (resolve : Bytes → List Endpoint) (s : Service) :
    Seeded s.dropFailed (s.replenish env resolve) := by
  rw [Service.replenish]
  have dns : Seeded s.dropFailed (if s.dropFailed.getMaybeAvailablePeerCandidatesCount < minPeerCandidatesCount then
      s.dropFailed.addDnsSeeds resolve else s.dropFailed) := by
    split
    · exact addDnsSeeds resolve _
    · exact refl _
  generalize (if s.dropFailed.getMaybeAvailablePeerCandidatesCount < minPeerCandidatesCount then
      s.dropFailed.addDnsSeeds resolve else s.dropFailed) = middle at dns
  split
  · exact dns.trans (addSeeds env.ipSeeds middle)
  · exact dns

end Seeded

/-- The rounds of a run of `on_timer_check_peer_candidates` from `s` to `t`:
the candidates that have failed too often are gone, seeds may have come, and
the connection manager was asked for a connection in the rounds that tried,
and made one where it started. -/
structure CheckRounds (env : PeerEnv) (connects : Endpoint → Bool) (s t : Service)
    (rounds : List Round) : Prop where
  before : ∃ seeds, rounds.map (·.before) =
      s.candidates.filter (fun c => ¬ (c.netSt = .failed ∧ maxReconnectTimes ≤ c.reconnCnt)) ++ seeds ∧
    ∀ c ∈ seeds, c.nodeType = .seed ∧ c.netSt = .idle ∧ c.reconnCnt = 0
  after : rounds.map (·.after) = t.candidates
  sound : ∀ r ∈ rounds, r.Sound env s.peerNodes connects
  calls : t.net.curIdx = s.net.curIdx + (rounds.filter Round.tried).length
  connectors : t.net.connectors.map (·.connectAddr) =
    s.net.connectors.map (·.connectAddr) ++ (rounds.filter Round.started).map (·.before.tcpEp)

/-- The candidates to connect to, once the failed ones are dropped and seeds
have come. -/
def triables (env : PeerEnv) (resolve : Bytes → List Endpoint) (s : Service) : List Candidate :=
  (s.replenish env resolve).candidates.filter (Triable env s.peerNodes)

section Timer
variable {env : PeerEnv} {connects : Endpoint → Bool} {s t : Service} {rounds : List Round}

theorem checkRounds (env : PeerEnv) (connects : Endpoint → Bool) (resolve : Bytes → List Endpoint) (s : Service) :
    ∃ rounds, CheckRounds env connects s (s.onTimerCheckPeerCandidates env connects resolve) rounds ∧
      (rounds.filter Round.tried).map (·.before) =
        (triables env resolve s).take (maxPeerCandidatePerCheck + 1) := by
  have quiet := Quiet.replenish env resolve s
  obtain ⟨seeds, whole, fresh⟩ := Seeded.replenish env resolve s
  obtain ⟨rounds, loop⟩ := connectLoop_rounds env (s.replenish env resolve).peerNodes connects
    (s.replenish env resolve).clock 0 (s.replenish env resolve).net (s.replenish env resolve).candidates
  refine ⟨rounds, ⟨⟨seeds, loop.before.trans whole, fresh⟩, loop.after, ?_, ?_, ?_⟩, ?_⟩
  · rw [← quiet.peerNodes]
    exact loop.sound
  · rw [← quiet.net]
    exact loop.calls
  · rw [← quiet.net]
    exact loop.connectors
  · rw [triables, ← quiet.peerNodes]
    exact loop.tried

/-- A connection starts where it is tried and can be made. -/
theorem CheckRounds.started (run : CheckRounds env connects s t rounds) :
    (rounds.filter Round.started).length =
      (((rounds.filter Round.tried).map (·.before)).filter fun c => connects c.tcpEp).length := by
  rw [List.filter_map, List.length_map, List.filter_filter]
  congr 1
  refine List.filter_congr ?_
  intro r member
  have sound := (run.sound r member).2
  unfold Round.started Round.tried
  cases outcome : r.attempt with
  | none => simp
  | some started =>
    rw [outcome] at sound
    simp [sound.2.1]

/-- Other rounds between the same states have tried and started as many. -/
theorem CheckRounds.counts {others : List Round} (run : CheckRounds env connects s t rounds)
    (other : CheckRounds env connects s t others) :
    (rounds.filter Round.tried).length = (others.filter Round.tried).length ∧
      (rounds.filter Round.started).length = (others.filter Round.started).length := by
  constructor
  · have calls := run.calls
    have same := other.calls
    omega
  · have made := congrArg List.length run.connectors
    have same := congrArg List.length other.connectors
    rw [List.length_append, List.length_map, List.length_map, List.length_map] at made same
    omega

end Timer

/-- A run of the timer drops, tries and counts as it should. It starts no
more connections than it may exactly when there are no more candidates to
try, or one too many is tried and one of them fails; it tries to start no
more exactly when there are no more. -/
theorem bursts_bounded_iff (env : PeerEnv) (connects : Endpoint → Bool) (resolve : Bytes → List Endpoint)
    (s : Service) :
    ((∃ rounds, CheckRounds env connects s (s.onTimerCheckPeerCandidates env connects resolve) rounds ∧
        (rounds.filter Round.started).length ≤ maxPeerCandidatePerCheck) ↔
      (triables env resolve s).length ≤ maxPeerCandidatePerCheck ∨
        ∃ c ∈ (triables env resolve s).take (maxPeerCandidatePerCheck + 1), connects c.tcpEp = false) ∧
    ((∃ rounds, CheckRounds env connects s (s.onTimerCheckPeerCandidates env connects resolve) rounds ∧
        (rounds.filter Round.tried).length ≤ maxPeerCandidatePerCheck) ↔
      (triables env resolve s).length ≤ maxPeerCandidatePerCheck) := by
  obtain ⟨rounds, run, tried⟩ := checkRounds env connects resolve s
  have triedCount : (rounds.filter Round.tried).length =
      ((triables env resolve s).take (maxPeerCandidatePerCheck + 1)).length := by
    rw [← tried, List.length_map]
  have startedCount := run.started
  rw [tried] at startedCount
  constructor
  · constructor
    · rintro ⟨others, other, bounded⟩
      rw [← (run.counts other).2, startedCount] at bounded
      by_contra escapes
      push Not at escapes
      have all : ((triables env resolve s).take (maxPeerCandidatePerCheck + 1)).filter (fun c => connects c.tcpEp) =
          (triables env resolve s).take (maxPeerCandidatePerCheck + 1) := by
        refine List.filter_eq_self.mpr fun c member => ?_
        exact Bool.not_eq_false _ ▸ escapes.2 c member
      rw [all, List.length_take] at bounded
      omega
    · intro condition
      refine ⟨rounds, run, ?_⟩
      rw [startedCount]
      rcases condition with few | ⟨c, member, fails⟩
      · have part := List.length_filter_le (fun c => connects c.tcpEp)
          ((triables env resolve s).take (maxPeerCandidatePerCheck + 1))
        rw [List.length_take] at part
        omega
      · have fewer : (((triables env resolve s).take (maxPeerCandidatePerCheck + 1)).filter
            (fun c => connects c.tcpEp)).length < ((triables env resolve s).take
              (maxPeerCandidatePerCheck + 1)).length :=
          List.length_filter_lt_length_iff_exists.mpr ⟨c, member, by simp [fails]⟩
        rw [List.length_take] at fewer
        omega
  · constructor
    · rintro ⟨others, other, bounded⟩
      rw [← (run.counts other).1, triedCount, List.length_take] at bounded
      omega
    · intro few
      refine ⟨rounds, run, ?_⟩
      rw [triedCount, List.length_take]
      omega

/-- A node with seventeen candidates that it has not tried. -/
def crowded : Service :=
  { first PeerEnv.lone with
    candidates := (List.range 17).map fun i => ⟨⟨.v4 8 8 4 (UInt8.ofNat i), 10001⟩, .normal, [], .idle, 0, 0, 0⟩ }

/-- It connects to all of them at once. -/
theorem seventeen_connections : ¬ ∃ rounds,
    CheckRounds PeerEnv.lone (fun _ => true) crowded
      (crowded.onTimerCheckPeerCandidates PeerEnv.lone (fun _ => true) fun _ => []) rounds ∧
      (rounds.filter Round.started).length ≤ maxPeerCandidatePerCheck := by
  rintro ⟨rounds, run, bounded⟩
  have made := congrArg List.length run.connectors
  have many : (crowded.onTimerCheckPeerCandidates PeerEnv.lone (fun _ => true)
      fun _ => []).net.connectors.length = 17 := by
    decide +kernel
  have none : crowded.net.connectors = [] := rfl
  rw [List.length_append, List.length_map, List.length_map, List.length_map, many, none, List.length_nil] at made
  rw [maxPeerCandidatePerCheck] at bounded
  omega

end Service

end DbcNode
