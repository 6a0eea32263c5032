import DbcNode.Lib.Fills
import DbcNode.Peer.CandidateList

namespace DbcNode

/-- The candidate can be loaded again: every address can, so it takes a port
and a node id. -/
def Candidate.Valid (c : Candidate) : Prop := c.tcpEp.port ≠ 0 ∧ c.nodeId ≠ []

instance : DecidablePred Candidate.Valid := fun _ => inferInstanceAs (Decidable (_ ∧ _))

/-- What the database keeps of a candidate. -/
def Candidate.kept (c : Candidate) : Endpoint × Bytes × PeerNodeType × Nat × Int :=
  (c.tcpEp, c.nodeId, c.nodeType, c.score, c.lastConnTm)

namespace Service

/-- The candidates after a save and a load. -/
def reloaded (env : PeerEnv) (written : Bool) (s : Service) : List Candidate :=
  ((s.savePeerCandidates env written).loadPeerCandidatesFromDb env).candidates

/-- A save and a load restore the valid candidates, and nothing else. -/
def RoundTrips (env : PeerEnv) (written : Bool) (s : Service) : Prop :=
  ((s.reloaded env written).map (·.kept)).Perm ((s.candidates.filter (·.Valid)).map (·.kept))

variable {env : PeerEnv} {s : Service}

theorem record_candidate (c : Candidate) : (c.record env).candidate env =
    if c.Valid then some { c with netSt := .idle, reconnCnt := 0 } else none := by
  rw [DbCandidate.candidate, DbCandidate.address, Candidate.record]
  dsimp only
  rw [env.fromText_toText]
  dsimp only
  by_cases valid : c.Valid
  · rw [if_pos ⟨rfl, valid⟩, if_pos valid]
    rfl
  · rw [if_neg (fun all => valid all.2), if_neg valid]
    rfl

/-- What is restored of a list that was written: the valid ones among the
last candidates with each address. -/
theorem mem_reloaded (filled : s.candidates ≠ []) {c : Candidate} : c ∈ s.reloaded env true ↔
    ∃ d ∈ lasts (fun d => env.toText d.tcpEp.address) s.candidates,
      d.Valid ∧ { d with netSt := .idle, reconnCnt := 0 } = c := by
  rw [reloaded, savePeerCandidates, if_neg filled, if_pos rfl, loadPeerCandidatesFromDb, List.mem_filterMap]
  constructor
  · rintro ⟨⟨text, record⟩, member, read⟩
    have found := OrdMap.find_eq_some.mpr member
    rcases (OrdMap.find_foldl_insert s.candidates OrdMap.empty).mp found with ⟨d, last, _, rfl⟩ | ⟨nothing, _⟩
    · rw [record_candidate] at read
      split at read
      · rename_i valid
        exact ⟨d, last, valid, Option.some.inj read⟩
      · cases read
    · cases nothing
  · rintro ⟨d, last, valid, rfl⟩
    refine ⟨(env.toText d.tcpEp.address, d.record env), ?_, by rw [record_candidate, if_pos valid]⟩
    exact OrdMap.find_eq_some.mp ((OrdMap.find_foldl_insert s.candidates OrdMap.empty).mpr
      (Or.inl ⟨d, last, rfl, rfl⟩))

theorem kept_nodup {l : List Candidate} (distinct : (l.map (·.tcpEp)).Nodup) : (l.map (·.kept)).Nodup := by
  rw [List.Nodup, List.pairwise_map] at distinct ⊢
  exact distinct.imp fun apart same => apart (congrArg Prod.fst same)

theorem reloaded_nodup (tidy : Tidy s.endpoints) (filled : s.candidates ≠ []) :
    ((s.reloaded env true).map (·.tcpEp)).Nodup := by
  have listed : Listed env { s with db := OrdMap.empty } := ⟨tidy, Saved.empty⟩
  have saved := (listed.savePeerCandidates true).saved
  rw [savePeerCandidates, if_neg filled] at saved
  rw [reloaded, savePeerCandidates, if_neg filled]
  exact saved.tidy.distinct

/-- Of a list that was written, everything valid is restored exactly where
no candidate follows with the address of a valid one. -/
theorem written_round_trip (tidy : Tidy s.endpoints) (filled : s.candidates ≠ []) : RoundTrips env true s ↔
    s.candidates.Pairwise fun c d => c.Valid → c.tcpEp.address ≠ d.tcpEp.address := by
  have distinct := tidy.distinct
  have texts : (s.candidates.Pairwise fun c d => c.Valid → c.tcpEp.address ≠ d.tcpEp.address) ↔
      s.candidates.Pairwise fun c d => c.Valid → env.toText c.tcpEp.address ≠ env.toText d.tcpEp.address := by
    have apart : ∀ a b, a ≠ b ↔ env.toText a ≠ env.toText b := by
      intro a b
      refine not_congr ⟨congrArg _, fun same => ?_⟩
      have read := congrArg env.fromText same
      rw [env.fromText_toText, env.fromText_toText] at read
      exact Option.some.inj read
    simp only [← apart]
  have whole : s.candidates.Nodup := List.Nodup.of_map _ distinct
  rw [texts, ← forall_mem_lasts_iff whole Candidate.Valid]
  rw [RoundTrips, List.perm_ext_iff_of_nodup (kept_nodup (reloaded_nodup tidy filled))
    (kept_nodup (distinct.sublist (List.filter_sublist.map _)))]
  have restored : ∀ x, x ∈ (s.reloaded env true).map (·.kept) ↔
      ∃ d ∈ lasts (fun d => env.toText d.tcpEp.address) s.candidates, d.Valid ∧ d.kept = x := by
    intro x
    simp only [List.mem_map, mem_reloaded filled]
    constructor
    · rintro ⟨c, ⟨d, last, valid, rfl⟩, rfl⟩
      exact ⟨d, last, valid, rfl⟩
    · rintro ⟨d, last, valid, rfl⟩
      exact ⟨_, ⟨d, last, valid, rfl⟩, rfl⟩
  have valids : ∀ x, x ∈ (s.candidates.filter (·.Valid)).map (·.kept) ↔ ∃ d ∈ s.candidates, d.Valid ∧
    d.kept = x := by
    intro x
    simp only [List.mem_map, List.mem_filter, decide_eq_true_eq, and_assoc]
  simp only [restored, valids]
  constructor
  · intro same c member valid
    obtain ⟨d, last, _, equal⟩ := (same c.kept).mpr ⟨c, member, valid, rfl⟩
    have one : d = c :=
      List.inj_on_of_nodup_map distinct ((lasts_sublist _).subset last) member (congrArg Prod.fst equal)
    exact one ▸ last
  · intro all x
    constructor
    · rintro ⟨d, last, valid, rfl⟩
      exact ⟨d, (lasts_sublist _).subset last, valid, rfl⟩
    · rintro ⟨d, member, valid, rfl⟩
      exact ⟨d, all d member valid, valid, rfl⟩

/-- A save and a load restore the valid candidates of a list and nothing
else exactly when the list is written, or nothing of it is valid; no valid
candidate is followed by one with the same address; and, for the empty list,
which is not saved, no record is left over. -/
theorem round_trip_iff (written : Bool) (tidy : Tidy s.endpoints) : RoundTrips env written s ↔
    (s.candidates = [] → ∀ entry ∈ s.db.entries, entry.2.candidate env = none) ∧
    (s.candidates ≠ [] → written = true ∨ ∀ c ∈ s.candidates, ¬ c.Valid) ∧
    s.candidates.Pairwise fun c d => c.Valid → c.tcpEp.address ≠ d.tcpEp.address := by
  by_cases empty : s.candidates = []
  · have loads : s.reloaded env written = s.db.entries.filterMap (fun entry => entry.2.candidate env) := by
      rw [reloaded, savePeerCandidates, if_pos empty, loadPeerCandidatesFromDb]
    simp [RoundTrips, loads, empty]
  · simp only [empty, false_imp_iff, true_and, ne_eq, not_false_eq_true, true_imp_iff]
    cases written with
    | true => simpa using written_round_trip tidy empty
    | false =>
      have loads : s.reloaded env false = [] := by
        rw [reloaded, savePeerCandidates, if_neg empty]
        rfl
      have lost : RoundTrips env false s ↔ ∀ c ∈ s.candidates, ¬ c.Valid := by
        simp [RoundTrips, loads]
      rw [lost]
      constructor
      · intro invalid
        refine ⟨Or.inr invalid, ?_⟩
        exact List.pairwise_of_forall_mem_list fun c member _ _ valid => absurd valid (invalid c member)
      · rintro ⟨failed | invalid, _⟩
        · cases failed
        · exact invalid

/-- Two ports of one host. -/
def neighbours : Service :=
  { first PeerEnv.lone with
    candidates := [⟨⟨.v4 8 8 8 8, 10001⟩, .normal, [2], .available, 0, 5, 0⟩,
      ⟨⟨.v4 8 8 8 8, 10002⟩, .normal, [3], .available, 0, 6, 0⟩] }

/-- Only the second one comes back. -/
theorem neighbour_lost : ¬ RoundTrips PeerEnv.lone true neighbours := by
  intro same
  have few : (neighbours.reloaded PeerEnv.lone true).length = 1 := by decide +kernel
  have length := same.length_eq
  rw [List.length_map, List.length_map, few] at length
  exact absurd length (by decide)

/-- Two hosts, one of them with a second port whose node has not told its id
yet. -/
def scattered : Service :=
  { first PeerEnv.lone with
    candidates := [⟨⟨.v4 8 8 8 8, 10002⟩, .normal, [], .idle, 2, 0, 0⟩,
      ⟨⟨.v4 8 8 8 8, 10001⟩, .normal, [2], .available, 0, 5, 0⟩,
      ⟨⟨.v4 9 9 9 9, 10001⟩, .normal, [3], .failed, 1, 6, 0⟩] }

/-- The two that are valid come back. -/
theorem round_trip_scattered : RoundTrips PeerEnv.lone true scattered ∧
    (scattered.reloaded PeerEnv.lone true).map (·.nodeId) = [[2], [3]] := by
  refine ⟨(round_trip_iff true ⟨by decide, by decide⟩).mpr ⟨nofun, fun _ => Or.inl rfl, ?_⟩, by decide +kernel⟩
  decide +kernel

end Service

end DbcNode
