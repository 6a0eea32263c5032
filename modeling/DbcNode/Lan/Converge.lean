import DbcNode.Lan.Creation

namespace DbcNode

/-- A message of a group in which networks are only made, listed and
joined. -/
def LanMessage.Calm : LanMessage → Prop
  | .networkDelete .. | .networkMove .. | .networkMoveAck .. => False
  | .machineInfo .. | .machineExit .. | .networkCreate .. | .networkQuery .. | .networkList .. | .networkJoin ..
  | .networkLeave .. => True

theorem LanMessage.Idle.calm {message : LanMessage} (idle : message.Idle) : message.Calm := by
  cases message <;> first | exact idle | trivial

namespace LanGroup
variable {g next : LanGroup} {event : GroupEvent}

/-- In a calm group the owner of a network is the node that made it, and who
made it or has heard of it has it. -/
structure Placed (g : LanGroup) : Prop where
  uniform : g.Uniform
  named : [] ∉ g.ids
  owners : ∀ id ∈ g.ids, ∀ name info, (g.nodes id).networks.find name = some info →
    g.Origin name info.machineId info.data.terms
  lists : ∀ machineId networks, .networkList machineId networks ∈ g.sent → ∀ network ∈ networks,
    g.Origin network.1.networkName machineId network.1.terms
  makers : ∀ name machineId terms, g.Origin name machineId terms →
    machineId ∈ g.ids ∧ ((g.nodes machineId).networks.find name).isSome
  heard : ∀ id k, (id, k) ∈ g.handled → ∃ message, g.sent[k]? = some message ∧ ∀ machineId network,
    message = .networkCreate machineId network → ((g.nodes id).networks.find network.networkName).isSome
  calm : ∀ message ∈ g.sent, message.Calm
  idle : ∀ id ∈ g.ids, (g.nodes id).timers = []

/-- A step of a node by which no network goes or changes its owner. -/
structure Stays (g : LanGroup) (id : Bytes) (done : LanSent) : Prop where
  passes : g.Passes id done
  keeps : ∀ name, ((g.nodes id).networks.find name).isSome → (done.1.networks.find name).isSome
  owners : ∀ name info, done.1.networks.find name = some info →
    (∃ old, (g.nodes id).networks.find name = some old ∧ info.core = old.core) ∨
      g.Origin name info.machineId info.data.terms
  lists : ∀ message ∈ done.2, (∃ machineId networks, message = .networkList machineId networks) →
    message ∈ (g.nodes id).sendNetworkListRequest
  calm : ∀ message ∈ done.2, message.Calm
  idle : done.1.timers = []

theorem isSome_update {id other name : Bytes} {done : LanSent}
    (keeps : ∀ name, ((g.nodes id).networks.find name).isSome → (done.1.networks.find name).isSome)
    (present : ((g.nodes other).networks.find name).isSome) :
    (((g.update id done).nodes other).networks.find name).isSome := by
  by_cases same : other = id
  · subst same
    rw [update_self]
    exact keeps name present
  · rw [update_other same]
    exact present

/-- What was handled is in the list of messages, which only grows. -/
theorem heard_update {id other : Bytes} {done : LanSent} {k : Nat}
    (keeps : ∀ name, ((g.nodes id).networks.find name).isSome → (done.1.networks.find name).isSome)
    (heard : ∃ message, g.sent[k]? = some message ∧ ∀ machineId network,
      message = .networkCreate machineId network → ((g.nodes other).networks.find network.networkName).isSome) :
    ∃ message, (g.update id done).sent[k]? = some message ∧ ∀ machineId network,
      message = .networkCreate machineId network →
        (((g.update id done).nodes other).networks.find network.networkName).isSome := by
  obtain ⟨message, sent, there⟩ := heard
  refine ⟨message, ?_, fun machineId network same => isSome_update keeps (there machineId network same)⟩
  exact List.getElem?_append_left (List.getElem?_eq_some_iff.mp sent).1 ▸ sent

theorem Placed.stays {id : Bytes} {done : LanSent} (placed : g.Placed) (member : id ∈ g.ids)
    (stays : g.Stays id done) : (g.update id done).Placed := by
  refine ⟨placed.uniform.passes member stays.passes, placed.named, ?_, ?_, ?_, ?_, ?_, ?_⟩
  · intro other inside name info found
    by_cases same : other = id
    · subst same
      rw [update_self] at found
      rcases stays.owners name info found with ⟨old, present, core⟩ | origin
      · obtain ⟨owner, terms⟩ := Prod.mk.inj core
        have origin := placed.owners other inside name old present
        rw [← owner, ← terms] at origin
        exact origin.mono
      · exact origin.mono
    · rw [update_other same] at found
      exact (placed.owners other inside name info found).mono
  · intro machineId networks sent network inside
    rcases List.mem_append.mp sent with before | new
    · exact (placed.lists machineId networks before network inside).mono
    · obtain ⟨rfl, name, info, found, data, own⟩ := lists_own (stays.lists _ new ⟨_, _, rfl⟩) inside
      have origin := placed.owners id member name info found
      have key := (placed.uniform.records id member name info found).1
      rw [own] at origin
      rw [data, show info.data.networkName = name from key]
      exact origin.mono
  · intro name machineId terms origin
    obtain ⟨inside, present⟩ := placed.makers name machineId terms (stays.passes.origin origin)
    exact ⟨inside, isSome_update stays.keeps present⟩
  · intro other k handled
    exact heard_update stays.keeps (placed.heard other k handled)
  · intro message sent
    rcases List.mem_append.mp sent with before | new
    · exact placed.calm message before
    · exact stays.calm message new
  · intro other inside
    by_cases same : other = id
    · subst same
      rw [update_self]
      exact stays.idle
    · rw [update_other same]
      exact placed.idle other inside

theorem Placed.rests {id : Bytes} (placed : g.Placed) (member : id ∈ g.ids) : g.Stays id (g.nodes id, []) := by
  refine ⟨placed.uniform.idle member, fun _ present => present, ?_, ?_, ?_, placed.idle id member⟩
  · exact fun name info found => Or.inl ⟨info, found, rfl⟩
  · intro message sent
    cases sent
  · intro message sent
    cases sent

theorem Placed.owned {id name : Bytes} {info : NetworkInfo} (placed : g.Placed) (member : id ∈ g.ids)
    (found : (g.nodes id).networks.find name = some info) : info.machineId ≠ [] := by
  intro vacant
  have inside := (placed.makers _ _ _ (placed.owners id member name info found)).1
  rw [vacant] at inside
  exact placed.named inside

/-- No network is without an owner, so there is none to resume. -/
theorem Placed.resume {id : Bytes} {w : LanWorld} (placed : g.Placed) (member : id ∈ g.ids) :
    (g.nodes id).call w .resumeTimer = (g.nodes id, []) := by
  have none : (g.nodes id).networks.entries.filter (·.2.machineId = []) = [] := by
    refine List.filter_eq_nil_iff.mpr fun entry inside vacant => ?_
    exact placed.owned member (OrdMap.find_eq_some.mpr inside) (of_decide_eq_true vacant)
  rw [LanNode.call, LanNode.onMulticastNetworkResumeTaskTimer, none]
  rfl

theorem Placed.call {id : Bytes} {w : LanWorld} {c : LanCall} (placed : g.Placed) (member : id ∈ g.ids)
    (keeps : ¬ (g.nodes id).removes c) (stays : c ≠ .exit)
    (other : ∀ networkName ipCidr wallet, c ≠ .createNetworkServer networkName ipCidr wallet) :
    g.Stays id ((g.nodes id).call w c) := by
  by_cases resumes : c = .resumeTimer
  · rw [resumes, placed.resume member]
    exact placed.rests member
  · have unwaited : ∀ timer, timer ∉ (g.nodes id).timers := by
      rw [placed.idle id member]
      exact fun _ => List.not_mem_nil
    have records : ∀ name, ((g.nodes id).call w c).1.networks.find name = (g.nodes id).networks.find name ∨
        ∃ info flags, (g.nodes id).networks.find name = some info ∧
          ((g.nodes id).call w c).1.networks.find name = some { info with nativeFlags := flags } := by
      intro name
      have record := LanNode.call_record (g.nodes id) w c name
      generalize ((g.nodes id).call w c).1.networks.find name = after at record
      cases record with
      | same => exact Or.inl rfl
      | made => exact absurd rfl (other _ _ _)
      | attached found => exact Or.inr ⟨_, _, found, rfl⟩
      | removed removes => exact absurd removes keeps
      | left => exact absurd rfl stays
      | moved called => exact absurd called.1 (unwaited _)
      | resumed => exact absurd rfl resumes
    refine ⟨placed.uniform.call member other, ?_, ?_, ?_, ?_, ?_⟩
    · intro name present
      rcases records name with same | ⟨info, flags, _, after⟩
      · rw [same]
        exact present
      · rw [after]
        rfl
    · intro name info found
      rcases records name with same | ⟨old, flags, present, after⟩
      · exact Or.inl ⟨info, same.symm.trans found, rfl⟩
      · rw [after] at found
        cases found
        exact Or.inl ⟨old, present, rfl⟩
    · rintro message sent ⟨machineId, networks, rfl⟩
      have kind := LanNode.call_sends sent
      cases kind with
      | listed list => exact list
      | announces takes =>
        rcases takes with resume | ⟨timer, called, _⟩
        · exact absurd resume resumes
        · exact absurd called.1 (unwaited timer)
      | idle idle => exact idle.elim
    · intro message sent
      have kind := LanNode.call_sends sent
      cases kind with
      | created => exact trivial
      | listed list =>
        rw [LanNode.mem_sendNetworkListRequest list]
        trivial
      | announces takes =>
        rcases takes with resume | ⟨timer, called, _⟩
        · exact absurd resume resumes
        · exact absurd called.1 (unwaited timer)
      | deleted removes => exact absurd removes keeps
      | moves => exact absurd rfl stays
      | idle idle => exact idle.calm
    · exact List.eq_nil_iff_forall_not_mem.mpr fun timer inside => unwaited timer (LanNode.call_timers inside)

theorem Placed.receive {id : Bytes} {message : LanMessage} (placed : g.Placed) (member : id ∈ g.ids)
    (sent : message ∈ g.sent) (w : LanWorld) (addr : Bytes) :
    g.Stays id ((g.nodes id).onMulticastReceive w addr message) := by
  have calm := placed.calm message sent
  refine ⟨placed.uniform.receive member sent w addr, ?_, ?_, ?_, ?_, ?_⟩
  · intro name present
    have record := LanNode.receive_record (g.nodes id) w addr message name
    generalize ((g.nodes id).onMulticastReceive w addr message).1.networks.find name = after at record
    cases record with
    | same => exact present
    | dropped => exact calm.elim
    | told | acked | moved | used => rfl
  · intro name info found
    have record := LanNode.receive_record (g.nodes id) w addr message name
    rw [found] at record
    generalize outcome : some info = after at record
    cases record with
    | same => exact Or.inl ⟨info, outcome.symm, rfl⟩
    | told tells other named =>
      cases outcome
      rw [LanNode.told_machineId, LanNode.told_data, NetworkData.info_data, ← named]
      refine Or.inr ?_
      rcases tells with create | ⟨networks, list, inside⟩
      · rw [create] at sent
        exact ⟨_, sent, rfl, rfl⟩
      · rw [list] at sent
        exact placed.lists _ _ sent _ inside
    | dropped => cases outcome
    | acked => exact calm.elim
    | moved => exact calm.elim
    | used old =>
      cases outcome
      exact Or.inl ⟨_, old, rfl⟩
  · intro answer answered _
    rcases LanNode.receive_sends answered with listed | ⟨_, _, _, rfl, _⟩
    · exact listed
    · exact calm.elim
  · intro answer answered
    rcases LanNode.receive_sends answered with listed | ⟨_, _, _, rfl, _⟩
    · rw [LanNode.mem_sendNetworkListRequest listed]
      trivial
    · exact calm.elim
  · refine List.eq_nil_iff_forall_not_mem.mpr fun timer inside => ?_
    rcases LanNode.receive_timers inside with before | ⟨_, _, _, rfl⟩
    · rw [placed.idle id member] at before
      cases before
    · exact calm

theorem Placed.create {id : Bytes} {info : NetworkInfo} {networkName ipCidr wallet : Bytes} (placed : g.Placed)
    (member : id ∈ g.ids) (unknown : ∀ machineId terms, ¬ g.Origin networkName machineId terms)
    (new : (g.nodes id).Made networkName ipCidr wallet info) :
    (g.update id ((g.nodes id).put networkName info,
      [.networkCreate (g.nodes id).machineId info.data])).Placed := by
  have own := placed.uniform.own id member
  have keeps : ∀ name, ((g.nodes id).networks.find name).isSome →
      (((g.nodes id).put networkName info).networks.find name).isSome := by
    intro name present
    rw [LanNode.find_put]
    split
    · rfl
    · exact present
  refine ⟨placed.uniform.create member unknown new, placed.named, ?_, ?_, ?_, ?_, ?_, ?_⟩
  · intro other inside name record found
    by_cases same : other = id
    · subst same
      rw [update_self, LanNode.find_put] at found
      split at found
      · rename_i itself
        cases found
        rw [itself, new.machineId]
        exact ⟨info.data, List.mem_append_right _ (List.mem_singleton_self _), new.networkId, rfl⟩
      · exact (placed.owners other inside name record found).mono
    · rw [update_other same] at found
      exact (placed.owners other inside name record found).mono
  · intro machineId networks sent network inside
    rcases List.mem_append.mp sent with before | made
    · exact (placed.lists machineId networks before network inside).mono
    · cases List.mem_singleton.mp made
  · rintro name machineId terms ⟨network, sent, named, same⟩
    rcases List.mem_append.mp sent with before | made
    · obtain ⟨inside, present⟩ := placed.makers name machineId terms ⟨network, before, named, same⟩
      exact ⟨inside, isSome_update keeps present⟩
    · cases List.mem_singleton.mp made
      refine ⟨by rw [own]; exact member, ?_⟩
      rw [own, update_self, LanNode.find_put, if_pos (named.symm.trans new.networkId)]
      rfl
  · intro other k handled
    exact heard_update keeps (placed.heard other k handled)
  · intro message sent
    rcases List.mem_append.mp sent with before | made
    · exact placed.calm message before
    · rw [List.mem_singleton.mp made]
      trivial
  · intro other inside
    by_cases same : other = id
    · subst same
      rw [update_self]
      exact placed.idle other inside
    · rw [update_other same]
      exact placed.idle other inside

/-- Who handles a `network create` has the network afterwards: it is told of
it, or has made it. -/
theorem Placed.hears {id : Bytes} {message : LanMessage} {machineId : Bytes} {network : NetworkData} {k : Nat}
    (placed : g.Placed) (member : id ∈ g.ids) (sent : g.sent[k]? = some message)
    (create : message = .networkCreate machineId network) (w : LanWorld) (addr : Bytes) :
    (((g.nodes id).onMulticastReceive w addr message).1.networks.find network.networkName).isSome := by
  subst create
  rw [LanNode.find_receive_create, LanNode.retold]
  split
  · rename_i own
    rw [placed.uniform.own id member] at own
    subst own
    exact (placed.makers _ _ _ ⟨network, List.mem_of_getElem? sent, rfl, rfl⟩).2
  · simp [LanNode.lastNamed]

theorem Placed.step (placed : g.Placed) (calm : g.Calm event) (ran : g.step event = some next) : next.Placed := by
  rcases step_cases ran with ⟨id, w, c, rfl, member, rfl⟩ | ⟨id, w, addr, k, message, rfl, member, sent, rfl⟩
  · obtain ⟨keeps, stays, once⟩ := calm
    by_cases creates : ∃ networkName ipCidr wallet, c = .createNetworkServer networkName ipCidr wallet
    · obtain ⟨networkName, ipCidr, wallet, rfl⟩ := creates
      rcases LanNode.create_cases (g.nodes id) w networkName ipCidr wallet with
        refused | ⟨accepted, _, info, new, made⟩
      · rw [refused]
        exact placed.stays member (placed.rests member)
      · rw [made]
        exact placed.create member (fun _ _ => unannounced (once accepted)) new
    · exact placed.stays member (placed.call member keeps stays fun networkName ipCidr wallet same =>
        creates ⟨networkName, ipCidr, wallet, same⟩)
  · have stays := placed.receive member (List.mem_of_getElem? sent) w addr
    have after := placed.stays member stays
    refine ⟨after.uniform.handled, after.named, after.owners, after.lists, after.makers, ?_, after.calm, after.idle⟩
    intro other j handled
    rcases List.mem_cons.mp handled with now | before
    · obtain ⟨rfl, rfl⟩ := Prod.mk.inj now
      refine ⟨message, List.getElem?_append_left (List.getElem?_eq_some_iff.mp sent).1 ▸ sent, ?_⟩
      intro machineId network create
      change (((g.update other _).nodes other).networks.find network.networkName).isSome
      rw [update_self]
      exact placed.hears member sent create w addr
    · exact after.heard other j before

theorem Begins.placed (begins : g.Begins) : g.Placed := by
  refine ⟨begins.uniform, begins.named, ?_, ?_, ?_, ?_, ?_, fun id member => (begins.idle id member).1⟩
  · intro id member name info found
    rw [begins.empty id member] at found
    cases found
  · intro machineId networks sent
    rw [begins.unsent] at sent
    cases sent
  · rintro name machineId terms ⟨network, sent, _⟩
    rw [begins.unsent] at sent
    cases sent
  · intro id k handled
    rw [begins.unhandled] at handled
    cases handled
  · intro message sent
    rw [begins.unsent] at sent
    cases sent

theorem Placed.converged (placed : g.Placed) (handled : g.CreatesHandled) : g.Converged := by
  -- every node has a network that one node has
  have spread : ∀ {name : Bytes} {first second : Bytes} {info : NetworkInfo}, first ∈ g.ids → second ∈ g.ids →
      (g.nodes first).networks.find name = some info →
      ((g.nodes second).networks.find name).map NetworkInfo.core = some info.core := by
    intro name first second info firstMember secondMember found
    have origin := placed.owners first firstMember name info found
    obtain ⟨network, sent, named, _⟩ := placed.owners first firstMember name info found
    have present : ((g.nodes second).networks.find name).isSome := by
      by_cases maker : second = info.machineId
      · rw [maker]
        exact (placed.makers _ _ _ origin).2
      · obtain ⟨k, inRange, at_k⟩ := List.mem_iff_getElem.mp sent
        have atK : g.sent[k]? = some (.networkCreate info.machineId network) := by
          rw [List.getElem?_eq_getElem inRange, at_k]
        obtain ⟨message, heardAt, there⟩ := placed.heard second k (handled k _ _ atK second secondMember maker)
        rw [atK] at heardAt
        rw [← named]
        exact there info.machineId network (Option.some.inj heardAt).symm
    obtain ⟨other, known⟩ := Option.isSome_iff_exists.mp present
    obtain ⟨owner, terms⟩ := placed.uniform.once (placed.owners second secondMember name other known) origin
    rw [known, Option.map_some, NetworkInfo.core, NetworkInfo.core, owner, terms]
  intro name first firstMember second secondMember
  cases found : (g.nodes first).networks.find name with
  | some info => exact (spread firstMember secondMember found).symm
  | none =>
    cases known : (g.nodes second).networks.find name with
    | none => rfl
    | some info =>
      have back := spread secondMember firstMember known
      rw [found] at back
      cases back

/-- In every run in which a network is made only under a name that no node
has announced yet, no `network create` or `network list` changes the wallet
of a network that a node has; and if none is deleted, cleared or given up
either, then all nodes have the same networks with the same owner and terms
once every `network create` has been handled by all other nodes. -/
theorem creation_converges {first : LanGroup} {trace : List GroupEvent} (begins : first.Begins)
    (run : Run step Once first trace g) :
    g.WalletsKept ∧ (Run step Calm first trace g → g.CreatesHandled → g.Converged) := by
  constructor
  · have uniform : g.Uniform := run.invariant begins.uniform fun uniform once ran => uniform.step once ran
    exact uniform.walletsKept
  · intro calm handled
    have placed : g.Placed := calm.invariant begins.placed fun placed calm ran => placed.step calm ran
    exact placed.converged handled

/-- Who has sent what. -/
def makers (g : LanGroup) : List Bytes :=
  g.sent.map fun
    | .networkCreate machineId _ => machineId
    | _ => []

theorem maker_of_sent {k : Nat} {machineId : Bytes} {network : NetworkData}
    (sent : g.sent[k]? = some (.networkCreate machineId network)) : g.makers[k]? = some machineId := by
  rw [makers, List.getElem?_map, sent]
  rfl

/-- Node `a` makes a network and `b` hears of it. -/
def oneMaker : List GroupEvent :=
  [.call (str "a") (.fine 1 [7]) (.createNetworkServer (str "network") (str "10.0.0.0/24") (str "wallet")),
    .deliver (str "b") (.fine 2 []) (str "a") 0]

theorem creation_converges_two : ∃ g, (fresh [str "a", str "b"]).Begins ∧
    Run step Once (fresh [str "a", str "b"]) oneMaker.reverse g ∧
    Run step Calm (fresh [str "a", str "b"]) oneMaker.reverse g ∧ g.CreatesHandled ∧ g.Converged ∧
    ((g.nodes (str "b")).networks.find (str "network")).map (·.machineId) = some (str "a") := by
  have outcome :
    (runAll (guarded step fun g event => decide (g.Calm event)) (fresh [str "a", str "b"]) oneMaker).any
      (fun g => decide (g.ids = [str "a", str "b"] ∧ g.makers = [str "a"] ∧ g.handled = [(str "b", 0)] ∧
        ((g.nodes (str "b")).networks.find (str "network")).map (·.machineId) = some (str "a"))) =
          true := by decide +kernel
  obtain ⟨g, ran, facts⟩ := (Option.any_eq_true _ _).mp outcome
  obtain ⟨ids, makers, handled, owner⟩ := of_decide_eq_true facts
  have begins : (fresh [str "a", str "b"]).Begins := begins_fresh (by decide)
  have calm : Run step Calm _ (oneMaker.reverse ++ []) g :=
    Run.of_guarded (fun _ _ => of_decide_eq_true) oneMaker .start ran
  have once : Run step Once (fresh [str "a", str "b"]) (oneMaker.reverse ++ []) g := by
    refine Run.of_guarded (fun g event calm => ?_) oneMaker .start ran
    exact Calm.once (of_decide_eq_true calm)
  rw [List.append_nil] at calm once
  have all : g.CreatesHandled := by
    intro k machineId network sent id member other
    have maker := maker_of_sent sent
    rw [makers] at maker
    rw [ids] at member
    rw [handled]
    match k, maker with
    | 0, maker =>
      cases maker
      simp only [List.mem_cons, List.not_mem_nil, or_false] at member
      rcases member with rfl | rfl
      · exact absurd rfl other
      · exact List.mem_singleton_self _
  exact ⟨g, begins, once, calm, all, (creation_converges begins once).2 calm all, owner⟩

/-- Two nodes make a network of one name at the same time, and each ends up
with the other's. -/
def twoMakers : List GroupEvent :=
  [.call (str "a") (.fine 1 [7]) (.createNetworkServer (str "network") (str "10.0.0.0/24") (str "alice")),
    .call (str "b") (.fine 1 [8]) (.createNetworkServer (str "network") (str "10.1.0.0/24") (str "bob")),
    .deliver (str "b") (.fine 2 []) (str "a") 0, .deliver (str "a") (.fine 2 []) (str "b") 1]

theorem creation_diverges : ∃ trace g, (fresh [str "a", str "b"]).Begins ∧
    Reaches step (fresh [str "a", str "b"]) trace g ∧ g.CreatesHandled ∧ ¬ g.Converged := by
  have outcome : (runAll step (fresh [str "a", str "b"]) twoMakers).any
      (fun g => decide (g.ids = [str "a", str "b"] ∧ g.makers = [str "a", str "b"] ∧
        g.handled = [(str "a", 1), (str "b", 0)] ∧
        ((g.nodes (str "a")).networks.find (str "network")).map NetworkInfo.core ≠
          ((g.nodes (str "b")).networks.find (str "network")).map NetworkInfo.core)) = true := by decide +kernel
  obtain ⟨g, ran, facts⟩ := (Option.any_eq_true _ _).mp outcome
  obtain ⟨ids, makers, handled, apart⟩ := of_decide_eq_true facts
  refine ⟨_, g, begins_fresh (by decide), Reaches.of_runAll _ .start ran, ?_, fun converged => ?_⟩
  · intro k machineId network sent id member other
    have maker := maker_of_sent sent
    rw [makers] at maker
    rw [ids] at member
    simp only [List.mem_cons, List.not_mem_nil, or_false] at member
    rw [handled]
    match k, maker with
    | 0, maker =>
      cases maker
      rcases member with rfl | rfl
      · exact absurd rfl other
      · simp
    | 1, maker =>
      cases maker
      rcases member with rfl | rfl
      · simp
      · exact absurd rfl other
  · exact apart (converged _ _ (by simp [ids]) _ (by simp [ids]))

end LanGroup

end DbcNode
