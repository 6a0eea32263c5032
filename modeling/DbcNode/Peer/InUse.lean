import DbcNode.Peer.CandidateList
import DbcNode.Peer.Sockets

namespace DbcNode

namespace Service
variable {s : Service} {ep : Endpoint}

theorem mem_states_of_getPeerCandidate {c : Candidate} (found : s.getPeerCandidate ep = some c) :
    c ∈ s.candidates ∧ c.tcpEp = ep :=
  ⟨List.mem_of_find?_eq_some found, by simpa using List.find?_some found⟩

/-- With distinct endpoints an endpoint has one state. -/
theorem state_of_getPeerCandidate (distinct : s.endpoints.Nodup) {c : Candidate} {state : NetState}
    (found : s.getPeerCandidate ep = some c) (member : (ep, state) ∈ s.states) : c.netSt = state := by
  obtain ⟨d, present, same⟩ := List.mem_map.mp member
  obtain ⟨present', same'⟩ := mem_states_of_getPeerCandidate found
  obtain ⟨at', state'⟩ := Prod.mk.inj same
  have equal : c = d := List.inj_on_of_nodup_map distinct present' present (same'.trans at'.symm)
  rw [equal]
  exact state'

theorem no_state_of_getPeerCandidate {state : NetState} (absent : s.getPeerCandidate ep = none) :
    (ep, state) ∉ s.states := by
  intro member
  obtain ⟨d, present, same⟩ := List.mem_map.mp member
  have different := List.find?_eq_none.mp absent d present
  simp only [decide_eq_true_eq] at different
  exact different (Prod.mk.inj same).1

theorem mem_updatePeerCandidateState (distinct : s.endpoints.Nodup) {state : NetState} {entry : Endpoint × NetState}
    (member : entry ∈ (s.updatePeerCandidateState ep state).states) :
    (entry ∈ s.states ∧ entry.1 ≠ ep) ∨ entry = (ep, state) := by
  obtain ⟨c, present, rfl⟩ := List.mem_map.mp member
  rcases mem_amend_distinct distinct present with ⟨old, other⟩ | ⟨d, old, same, rfl⟩
  · exact Or.inl ⟨List.mem_map_of_mem old, other⟩
  · exact Or.inr (congrArg (·, state) same)

/-- After its candidate was moved to the end in another state, an endpoint
is not in use. -/
theorem moveToTail_not_inUse (ep : Endpoint) (distinct : s.endpoints.Nodup) {f : Candidate → Candidate}
    (state : ∀ c, (f c).netSt ≠ .inUse) : (ep, NetState.inUse) ∉ (s.moveToTail ep f).states := by
  rw [moveToTail]
  split
  · rename_i absent
    exact no_state_of_getPeerCandidate absent
  rename_i c found
  obtain ⟨_, same⟩ := mem_states_of_getPeerCandidate found
  obtain ⟨own, before, after, whole, none⟩ := List.find?_eq_some_iff_append.mp found
  have erased : s.candidates.eraseP (·.tcpEp = ep) = before ++ after := by
    rw [whole, List.eraseP_append_right]
    · simp only [List.eraseP_cons, own, cond_true]
    · intro b member
      simpa using none b member
  have fresh : ep ∉ (before ++ after).map (·.tcpEp) := by
    rw [endpoints, whole, List.map_append, List.map_cons, List.nodup_middle, List.nodup_cons, same] at distinct
    rw [List.map_append]
    exact distinct.1
  intro member
  simp only [states, removePeerCandidate, erased] at member
  rw [List.map_append] at member
  rcases List.mem_append.mp member with old | new
  · obtain ⟨d, present, equal⟩ := List.mem_map.mp old
    exact fresh (List.mem_map.mpr ⟨d, present, (Prod.mk.inj equal).1⟩)
  · exact state c (Prod.mk.inj (List.mem_singleton.mp new)).2.symm

theorem failCandidate_not_inUse (distinct : s.endpoints.Nodup) :
    (ep, NetState.inUse) ∉ (s.failCandidate ep).states := by
  rw [failCandidate]
  split
  · rename_i absent
    exact no_state_of_getPeerCandidate absent
  rename_i c found
  split
  · rename_i released
    intro member
    rw [state_of_getPeerCandidate distinct found member] at released
    rcases released with zombie | available
    · cases zombie
    · cases available
  · exact moveToTail_not_inUse ep distinct (by intro; simp)

end Service

namespace Network

/-- A change of the network that gives up no endpoint. -/
structure Grows (old new : Network) : Prop extends Evolves old new where
  carries : ∀ ep, old.Carries ep → new.Carries ep

namespace Grows

theorem refl (net : Network) : Grows net net := ⟨.refl net, fun _ carries => carries⟩

theorem trans {a b c : Network} (first : Grows a b) (second : Grows b c) : Grows a c :=
  ⟨first.toEvolves.trans second.toEvolves, fun ep carries => second.carries ep (first.carries ep carries)⟩

theorem wired {a b : Network} (wired : Wired a b) : Grows b a :=
    ⟨.wired wired, fun _ carries => carries.wired wired⟩

theorem startConnect (net : Network) (ep : Endpoint) (starts : Bool) : Grows net (net.startConnect ep starts).2 :=
  ⟨.startConnect net ep starts, fun _ carries => carries.startConnect ep starts⟩

end Grows

end Network

namespace Service

/-- What a connecting loop does: the network grows, and a candidate that is
in use afterwards was so before or is being connected. -/
structure Connects (net : Network) (candidates : List Candidate) (result : Network × List Candidate) : Prop where
  grows : net.Grows result.1
  inUse : ∀ c ∈ result.2, c.netSt = .inUse →
    (c.tcpEp, NetState.inUse) ∈ candidates.map (fun c => (c.tcpEp, c.netSt)) ∨
    result.1.Carries c.tcpEp

namespace Connects

theorem nil (net : Network) : Connects net [] (net, []) :=
    ⟨.refl net, fun _ member => (List.not_mem_nil member).elim⟩

theorem same (net : Network) (candidates : List Candidate) : Connects net candidates (net, candidates) :=
  ⟨.refl net, fun c member state => Or.inl (List.mem_map.mpr ⟨c, member, by rw [state]⟩)⟩

/-- One candidate of the loop and the rest of it. -/
theorem cons {net middle : Network} {rest : List Candidate} {result : Network × List Candidate}
    (first : net.Grows middle) (later : Connects middle rest result) {c d : Candidate}
    (kept : d.netSt = .inUse → (c.netSt = .inUse ∧ d.tcpEp = c.tcpEp) ∨ middle.Carries d.tcpEp) :
    Connects net (c :: rest) (result.1, d :: result.2) := by
  refine ⟨first.trans later.grows, ?_⟩
  intro e member state
  rcases List.mem_cons.mp member with rfl | tail
  · rcases kept state with ⟨before, equal⟩ | carries
    · refine Or.inl (List.mem_cons.mpr (Or.inl ?_))
      change (e.tcpEp, NetState.inUse) = (c.tcpEp, c.netSt)
      rw [before, equal]
    · exact Or.inr (later.grows.carries _ carries)
  · exact (later.inUse e tail state).imp_left (List.mem_cons_of_mem _)

end Connects

theorem connectLoop_connects (env : PeerEnv) (peerNodes : List PeerNode) (connects : Endpoint → Bool) (clock : Int)
    (newConnCnt : Nat) (net : Network) (candidates : List Candidate) :
    Connects net candidates (connectLoop env peerNodes connects clock newConnCnt net candidates) := by
  induction candidates generalizing newConnCnt net with
  | nil => exact .nil net
  | cons c rest ih =>
    rw [connectLoop]
    split
    · exact .same net (c :: rest)
    split
    · rename_i free
      have idle : c.netSt ≠ .inUse := by
        rcases free with isIdle | ⟨failed, _⟩
        · rw [isIdle]
          simp
        · rw [failed]
          simp
      split
      · exact .cons (.refl net) (ih newConnCnt net) (fun state => (idle state).elim)
      split
      · exact .cons (.refl net) (ih newConnCnt net) (fun state => by cases state)
      · have carried :
          (if (net.startConnect c.tcpEp (connects c.tcpEp)).1 = true then NetState.inUse else .failed) = .inUse →
            (net.startConnect c.tcpEp (connects c.tcpEp)).2.Carries c.tcpEp := by
          intro state
          split at state
          · rename_i started
            exact .started started
          · cases state
        exact .cons (.startConnect net c.tcpEp (connects c.tcpEp)) (ih (newConnCnt + 1) _)
          (fun state => Or.inr (carried state))
    · exact .cons (.refl net) (ih newConnCnt net) (fun state => Or.inl ⟨state, rfl⟩)

theorem startConnect_grows (env : PeerEnv) (peerNodes : List PeerNode) (ep : Endpoint) (starts : Bool)
    (net : Network) :
    net.Grows (startConnect env peerNodes ep starts net).2 ∧
      ((startConnect env peerNodes ep starts net).1 = true →
        (startConnect env peerNodes ep starts net).2.Carries ep) := by
  rw [startConnect]
  split
  · refine ⟨.refl net, ?_⟩
    intro wrong
    cases wrong
  · exact ⟨.startConnect net ep starts, .started⟩

theorem connectAvailable_connects (env : PeerEnv) (peerNodes : List PeerNode) (connects : Endpoint → Bool)
    (left : Nat) (net : Network) (candidates : List Candidate) :
    Connects net candidates (connectAvailable env peerNodes connects left net candidates) := by
  induction candidates generalizing left net with
  | nil => exact .nil net
  | cons c rest ih =>
    rw [connectAvailable]
    split
    · obtain ⟨grows, carried⟩ := startConnect_grows env peerNodes c.tcpEp (connects c.tcpEp) net
      have used : (if (startConnect env peerNodes c.tcpEp (connects c.tcpEp) net).1 = true then NetState.inUse
          else .failed) = .inUse →
            (startConnect env peerNodes c.tcpEp (connects c.tcpEp) net).2.Carries c.tcpEp := by
        intro state
        split at state
        · rename_i started
          exact carried started
        · cases state
      exact .cons grows (ih (left - 1) _) (fun state => Or.inr (used state))
    · exact .cons (.refl net) (ih left net) (fun state => Or.inl ⟨state, rfl⟩)

end Service

end DbcNode
