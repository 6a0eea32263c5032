import DbcNode.Lan.Creation
import DbcNode.Lan.Hearsay

namespace DbcNode.OwnHistory
variable {h next : OwnHistory} {event : GroupEvent} {name : Bytes}

instance (h : OwnHistory) (id : Bytes) (w : LanWorld) : (c : LanCall) → Decidable (h.OrderlyCall id w c)
  | .createNetworkServer networkName ipCidr wallet =>
    inferInstanceAs (Decidable
      (((h.group.nodes id).createNetworkServer w networkName ipCidr wallet).isOk → h.takers networkName = []))
  | .moveTimer timer =>
    inferInstanceAs (Decidable ((h.group.nodes id).Calls timer →
      if ((h.group.nodes id).moveNetwork w timer.name id).isOk then
        h.holder timer.name = none ∨ h.holder timer.name = some id
      else h.holder timer.name = none → h.group.hopeBesides timer.name id))
  | .resumeTimer =>
    inferInstanceAs (Decidable (∀ entry ∈ (h.group.nodes id).networks.entries, entry.2.machineId = [] →
      ((h.group.nodes id).moveNetwork w entry.1 id).isOk → h.holder entry.1 = none))
  | .exit =>
    inferInstanceAs (Decidable (∀ entry ∈ (h.group.nodes id).networks.entries, (h.group.nodes id).leaves entry.2 →
      (((h.group.nodes id).candidates id).take 3).any fun other => other ≠ id && other ∈ h.group.ids))
  | .deleteNetwork networkName wallet =>
    inferInstanceAs (Decidable (¬ (h.group.nodes id).removes (.deleteNetwork networkName wallet)))
  | .clearNext => inferInstanceAs (Decidable (¬ (h.group.nodes id).removes .clearNext))
  | .endTimer timerId =>
    inferInstanceAs (Decidable (timerId ∈ (h.group.nodes id).ranOut →
      ∀ timer ∈ (h.group.nodes id).timers.find? (·.id = timerId), h.group.waits timer.name id →
        h.holder timer.name = none → h.group.hopeBesides timer.name id))
  | .createNetworkClient _ | .joinRequest _ _ | .leaveRequest _ _ | .init | .machineExit | .machineTimer
  | .networkTimer => isTrue trivial

instance (h : OwnHistory) (id : Bytes) (message : LanMessage) (tag : Bytes → Nat) :
    Decidable (h.OrderlyMessage id message tag) := inferInstanceAs (Decidable (_ ∧ _))

instance (h : OwnHistory) : (event : GroupEvent) → Decidable (h.Orderly event)
  | .call id w c => inferInstanceAs (Decidable (h.OrderlyCall id w c))
  | .deliver id _ _ k => inferInstanceAs (Decidable
      (∀ message ∈ h.group.sent[k]?, ∀ tag ∈ h.tags[k]?, h.OrderlyMessage id message tag))

@[simp] theorem start_group (group : LanGroup) : (start group).group = group := rfl

theorem owned_start {group : LanGroup} (begins : group.Begins) : (start group).Owned := by
  have blank : ∀ id ∈ group.ids, ∀ name, (group.nodes id).ownerOf name = none := by
    intro id member name
    rw [LanNode.ownerOf, begins.empty id member]
    rfl
  have unseen : ∀ name id, (start group).view name id = none := by
    intro name id
    unfold view
    split
    · rename_i member
      rw [start_group, blank id member]
      rfl
    · rfl
  refine ⟨begins.named, begins.own, ?_, ?_, ?_, ?_, ?_, ?_, ?_, ?_, ?_, ?_, ?_, ?_⟩
  · intro id member
    refine ⟨?_, ?_, ?_, ?_, ?_⟩
    · intro timer waiting
      rw [start_group, (begins.idle id member).1] at waiting
      cases waiting
    · intro name timer found
      rw [start_group, begins.unset id member] at found
      cases found
    · intro name timer found
      rw [start_group, begins.unset id member] at found
      cases found
    · intro timer waiting
      rw [start_group, (begins.idle id member).1] at waiting
      cases waiting
    · intro id ended
      rw [start_group, (begins.idle _ member).2] at ended
      cases ended
  · intro id member name info found
    rw [start_group, begins.empty id member] at found
    cases found
  · intro id member name info found
    rw [start_group, begins.empty id member] at found
    cases found
  · intro name id taken
    cases taken
  · intro name
    refine ⟨?_, ?_, fun _ => le_rfl, ?_⟩
    · intro id
      change (start group).view name id = _ ↔ (none : Option Bytes) = some id
      rw [unseen]
      simp
    · intro id held
      cases held
    · intro id owner record
      change (start group).view name id = _ at record
      rw [unseen] at record
      cases record
  · exact (congrArg List.length begins.unsent).symm
  · intro k message tag _ tagged
    cases tagged
  · intro name two
    exact absurd two (by simp [start])
  · intro id k handled
    rw [start_group, begins.unhandled] at handled
    cases handled
  · intro id k sender name owner tag handled
    rw [start_group, begins.unhandled] at handled
    cases handled
  · intro name taken
    exact absurd rfl taken
  · intro message sent
    rw [start_group, begins.unsent] at sent
    cases sent

theorem Owned.step (owned : h.Owned) (orderly : h.Orderly event) (ran : h.step event = some next) : next.Owned := by
  obtain ⟨group, moved, rfl⟩ := Option.map_eq_some_iff.mp ran
  rcases LanGroup.step_cases moved with
    ⟨id, w, c, rfl, member, rfl⟩ | ⟨id, w, addr, k, message, rfl, member, sent, rfl⟩
  · exact owned.turn (owned.call member orderly)
  · have short : k < h.tags.length := by
      rw [owned.tagged]
      exact (List.getElem?_eq_some_iff.mp sent).1
    have tagged := List.getElem?_eq_getElem short
    exact owned.turn (owned.deliver member sent tagged (orderly message sent _ tagged))

theorem view_of_find {id : Bytes} {info : NetworkInfo} (member : id ∈ h.group.ids)
    (found : (h.group.nodes id).networks.find name = some info) :
    h.view name id = some (if info.machineId = [] then none else some info.machineId) := by
  rw [view, if_pos member, LanNode.ownerOf, found]
  rfl

/-- Only who is in charge runs the DHCP server. -/
theorem Owned.serves_claims {id : Bytes} (owned : h.Owned) (member : id ∈ h.group.ids)
    (serves : h.group.serves name id) :
    h.holder name = some id := by
  obtain ⟨info, found, server⟩ := serves
  refine (owned.claims_iff member).mp (claims_of_find found ?_)
  rw [owned.own id member]
  exact owned.flags id member name info found server

theorem Owned.one_server (owned : h.Owned) : h.group.OneServer := by
  intro name first firstMember second secondMember serves also
  have held := owned.serves_claims firstMember serves
  rw [owned.serves_claims secondMember also] at held
  exact (Option.some.inj held).symm

/-- Once a hand-over is done the network is in somebody's charge. -/
theorem Owned.held (owned : h.Owned) (done : h.group.MovesDone name) (taken : h.takers name ≠ []) :
    ∃ p, h.holder name = some p := by
  cases free : h.holder name with
  | some p => exact ⟨p, rfl⟩
  | none =>
    obtain ⟨id, member, hope⟩ := owned.hope name taken free
    rcases LanGroup.hope_iff.mp hope with waits | awaits
    · rw [done.2 id member] at waits
      cases waits
    · obtain ⟨k, machineId, newMachineId, queue, sent, candidate, unhandled⟩ := LanGroup.awaits_iff.mp awaits
      have clean := owned.clean _ (List.mem_of_getElem? sent)
      have other : id ≠ machineId := by
        rintro rfl
        exact clean.2 (List.mem_of_mem_take candidate)
      exact absurd (done.1 k _ machineId sent (if_pos rfl) id member other) unhandled

/-- Once a hand-over is done every node with a record knows of the last
take-over. -/
theorem Owned.newest {id p : Bytes} {info : NetworkInfo} (owned : h.Owned) (done : h.group.MovesDone name)
    (held : h.holder name = some p) (member : id ∈ h.group.ids)
    (found : (h.group.nodes id).networks.find name = some info) :
    h.term name id = (h.takers name).length := by
  obtain ⟨last, own⟩ := (owned.sound name).last p held
  change (h.takers name).getLast? = some p at last
  change h.term name p = (h.takers name).length at own
  have bound : h.term name id ≤ (h.takers name).length := (owned.sound name).bound id
  by_cases two : 2 ≤ (h.takers name).length
  · -- the last take-over was acknowledged, and everybody has handled that
    obtain ⟨k, owner, tag, sent, tagged, number⟩ := owned.acks name two
    by_cases same : owner = id
    · obtain ⟨_, said⟩ := owned.told k _ tag sent tagged name (List.mem_singleton_self name)
      rw [number, show (h.takers name).length = (h.ledger name).takers.length from rfl, Ledger.taker_length] at said
      change (h.takers name).getLast? = some owner at said
      rw [last, same] at said
      cases said
      exact own
    · have handled := done.1 k _ owner sent (if_pos rfl) id member (Ne.symm same)
      have learnt := owned.learnt id k owner name owner tag handled sent tagged same
      omega
  · have known := Ledger.taker_bounds ((owned.sound name).seen id _ (view_of_find member found))
    change 0 < h.term name id ∧ _ at known
    omega

theorem Owned.same_owner (owned : h.Owned) (done : h.group.MovesDone name) : h.group.SameOwner name := by
  intro first firstMember second secondMember info other found known
  have taken : h.takers name ≠ [] := by
    intro none
    have bounds := Ledger.taker_bounds ((owned.sound name).seen first _ (view_of_find firstMember found))
    change 0 < h.term name first ∧ h.term name first ≤ (h.takers name).length at bounds
    rw [none] at bounds
    exact absurd (bounds.1.trans_le bounds.2) (Nat.lt_irrefl 0)
  obtain ⟨p, held⟩ := owned.held done taken
  have owner : ∀ {id : Bytes} {info : NetworkInfo}, id ∈ h.group.ids →
      (h.group.nodes id).networks.find name = some info → info.machineId = p := by
    intro id info member found
    have agrees := (owned.sound name).agrees held (owned.newest done held member found) (view_of_find member found)
    split at agrees
    · cases agrees
    · exact Option.some.inj agrees
  rw [owner firstMember found, owner secondMember known]

/-- In every orderly run at most one node runs the DHCP server of a network,
and once a hand-over is done all nodes have the same owner in their
records. -/
theorem one_dhcp_owner {group : LanGroup} {trace : List GroupEvent} (begins : group.Begins)
    (run : Run step Orderly (start group) trace h) :
    h.group.OneServer ∧ ∀ name, h.group.MovesDone name → h.group.SameOwner name := by
  have owned : h.Owned := run.invariant (owned_start begins) fun owned orderly ran => owned.step orderly ran
  exact ⟨owned.one_server, fun _ done => owned.same_owner done⟩

/-- Node `a` makes a network and knows of `b`; it exits, and `b` takes the
network over, which hears of that twice and so has started two timers. -/
def handsOver : List GroupEvent :=
  [.call (str "a") (.fine 1 [7]) (.createNetworkServer (str "network") (str "10.0.0.0/24") (str "wallet")),
    .deliver (str "b") (.fine 2 []) (str "a") 0, .call (str "b") (.fine 3 []) .machineTimer,
    .deliver (str "a") (.fine 4 []) (str "b") 1, .call (str "a") (.fine 5 []) .exit,
    .deliver (str "b") (.fine 6 []) (str "a") 2, .deliver (str "b") (.fine 6 []) (str "a") 2,
    .call (str "b") (.fine 7 []) (.moveTimer ⟨0, str "network", 1000⟩), .call (str "b") (.fine 7 []) (.endTimer 0),
    .call (str "b") (.fine 8 []) (.moveTimer ⟨1, str "network", 1000⟩), .call (str "b") (.fine 8 []) (.endTimer 1),
    .deliver (str "a") (.fine 9 []) (str "b") 3]

/-- Who has sent which of the messages that move a network. -/
def movers (g : LanGroup) (name : Bytes) : List (Option Bytes) := g.sent.map (LanMessage.mover name)

theorem mover_of_sent {g : LanGroup} {k : Nat} {message : LanMessage} {sender : Bytes}
    (sent : g.sent[k]? = some message) (moves : message.mover name = some sender) :
    (movers g name)[k]? = some (some sender) := by
  rw [movers, List.getElem?_map, sent, Option.map_some, moves]

instance (g : LanGroup) (name id : Bytes) : Decidable (g.serves name id) :=
  decidable_of_iff (((g.nodes id).networks.find name).any (·.nativeFlags.dhcpServer) = true)
    (Option.any_eq_true _ _)

theorem one_dhcp_owner_two : ∃ h, (LanGroup.fresh [str "a", str "b"]).Begins ∧
    Run step Orderly (start (.fresh [str "a", str "b"])) handsOver.reverse h ∧
    h.group.MovesDone (str "network") ∧ h.group.OneServer ∧ h.group.SameOwner (str "network") ∧
    h.group.serves (str "network") (str "b") ∧ (h.group.nodes (str "a")).ownerOf (str "network") =
      some (str "b") := by
  have outcome : (runAll (guarded step fun h event => decide (h.Orderly event)) (start (.fresh [str "a", str "b"]))
      handsOver).any (fun h => decide (h.group.ids = [str "a", str "b"] ∧
        movers h.group (str "network") = [none, none, some (str "a"), some (str "b"), none] ∧
        (str "b", 2) ∈ h.group.handled ∧ (str "a", 3) ∈ h.group.handled ∧
        h.group.waits (str "network") (str "a") = false ∧ h.group.waits (str "network") (str "b") = false ∧
        h.group.serves (str "network") (str "b") ∧
        (h.group.nodes (str "a")).ownerOf (str "network") = some (str "b"))) = true := by decide +kernel
  obtain ⟨h, ran, facts⟩ := (Option.any_eq_true _ _).mp outcome
  obtain ⟨ids, moves, moved, acked, idle, rests, serves, owner⟩ := of_decide_eq_true facts
  have begins : (LanGroup.fresh [str "a", str "b"]).Begins := LanGroup.begins_fresh (by decide)
  have run : Run step Orderly _ (handsOver.reverse ++ []) h :=
    Run.of_guarded (fun _ _ => of_decide_eq_true) handsOver .start ran
  rw [List.append_nil] at run
  have done : h.group.MovesDone (str "network") := by
    refine ⟨fun k message sender sent mover id member other => ?_, fun id member => ?_⟩
    · have known := mover_of_sent sent mover
      rw [moves] at known
      rw [ids] at member
      simp only [List.mem_cons, List.not_mem_nil, or_false] at member
      match k, known with
      | 2, known =>
        cases known
        rcases member with rfl | rfl
        · exact absurd rfl other
        · exact moved
      | 3, known =>
        cases known
        rcases member with rfl | rfl
        · exact acked
        · exact absurd rfl other
      | 4, known | _ + 5, known => cases known
    · rw [ids] at member
      simp only [List.mem_cons, List.not_mem_nil, or_false] at member
      rcases member with rfl | rfl
      · exact idle
      · exact rests
  obtain ⟨single, same⟩ := one_dhcp_owner begins run
  exact ⟨h, begins, run, done, single, same _ done, serves, owner⟩

/-- Node `a` knows of two others and exits; the timers of both candidates
run before the acknowledgement of the first one reaches the second. -/
def bothTakeOver : List GroupEvent :=
  [.call (str "a") (.fine 1 [7]) (.createNetworkServer (str "network") (str "10.0.0.0/24") (str "wallet")),
    .deliver (str "b") (.fine 2 []) (str "a") 0, .deliver (str "c") (.fine 2 []) (str "a") 0,
    .call (str "b") (.fine 3 []) .machineTimer, .deliver (str "a") (.fine 4 []) (str "b") 1,
    .call (str "c") (.fine 5 []) .machineTimer, .deliver (str "a") (.fine 6 []) (str "c") 2,
    .call (str "a") (.fine 7 []) .exit, .deliver (str "b") (.fine 8 []) (str "a") 3,
    .deliver (str "c") (.fine 8 []) (str "a") 3, .call (str "c") (.fine 9 []) (.moveTimer ⟨0, str "network", 1000⟩),
    .call (str "b") (.fine 38 []) (.moveTimer ⟨0, str "network", 30000⟩)]

theorem two_dhcp_owners : ∃ trace h, (LanGroup.fresh [str "a", str "b", str "c"]).Begins ∧
    Reaches step (start (.fresh [str "a", str "b", str "c"])) trace h ∧ ¬ h.group.OneServer := by
  have outcome : (runAll step (start (.fresh [str "a", str "b", str "c"])) bothTakeOver).any
      (fun h => decide (h.group.ids = [str "a", str "b", str "c"] ∧ h.group.serves (str "network") (str "b") ∧
        h.group.serves (str "network") (str "c"))) = true := by decide +kernel
  obtain ⟨h, ran, facts⟩ := (Option.any_eq_true _ _).mp outcome
  obtain ⟨ids, first, second⟩ := of_decide_eq_true facts
  refine ⟨_, h, LanGroup.begins_fresh (by decide), Reaches.of_runAll _ .start ran, fun single => ?_⟩
  have same := single (str "network") (str "b") (by simp [ids]) (str "c") (by simp [ids]) first second
  exact absurd same (by decide)

end DbcNode.OwnHistory
