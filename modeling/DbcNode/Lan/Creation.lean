import DbcNode.Lan.Receives
import DbcNode.Lan.Timers

namespace DbcNode

/-- What a network is made with and keeps. -/
structure NetworkTerms where
  rentWallet : Bytes
  vxlanVni : Bytes
  ipCidr : Bytes
  deriving DecidableEq

def NetworkData.terms (network : NetworkData) : NetworkTerms :=
    ⟨network.rentWallet, network.vxlanVni, network.ipCidr⟩

/-- What the nodes are to agree on. -/
def NetworkInfo.core (info : NetworkInfo) : Bytes × NetworkTerms := (info.machineId, info.data.terms)

@[simp] theorem NetworkInfo.taken_data (info : NetworkInfo) (machineId : Bytes) :
    (info.taken machineId).data = info.data :=
  rfl

theorem LanNode.told_data (s : LanNode) (info : NetworkInfo) : (s.told info).data = info.data := by
  unfold LanNode.told
  split <;> rfl

theorem NetworkData.info_data (network : NetworkData) (machineId : Bytes) (members : List Bytes) (now : Int) :
    (network.info machineId members now).data = network := rfl

namespace LanGroup
variable {g next : LanGroup} {event : GroupEvent} {name machineId : Bytes} {terms : NetworkTerms}

/-- A node has announced the network as made by it with these terms. -/
def Origin (g : LanGroup) (name machineId : Bytes) (terms : NetworkTerms) : Prop :=
  ∃ network, .networkCreate machineId network ∈ g.sent ∧ network.networkName = name ∧ network.terms = terms

/-- Whether a node has announced a network of the name as its own. -/
def announced (g : LanGroup) (name : Bytes) : Bool :=
  g.sent.any fun
    | .networkCreate _ network => network.networkName = name
    | _ => false

/-- A network is made only if no node has announced one of the name. -/
def Once (g : LanGroup) : GroupEvent → Prop
  | .call id w (.createNetworkServer networkName ipCidr wallet) =>
    ((g.nodes id).createNetworkServer w networkName ipCidr wallet).isOk → g.announced networkName = false
  | _ => True

/-- Besides, no network is deleted, cleared or given up. -/
def Calm (g : LanGroup) : GroupEvent → Prop
  | .call id w c => ¬ (g.nodes id).removes c ∧ c ≠ .exit ∧ g.Once (.call id w c)
  | .deliver .. => True

theorem unannounced (none : g.announced name = false) : ¬ g.Origin name machineId terms := by
  rintro ⟨network, sent, named, _⟩
  have no := List.any_eq_false.mp none _ sent
  simp only [named, decide_true, not_true_eq_false] at no

theorem Calm.once (calm : g.Calm event) : g.Once event := by
  cases event with
  | call id w c => exact calm.2.2
  | deliver => exact trivial

instance (g : LanGroup) : (event : GroupEvent) → Decidable (g.Once event)
  | .call id w (.createNetworkServer networkName ipCidr wallet) => inferInstanceAs (Decidable
      (((g.nodes id).createNetworkServer w networkName ipCidr wallet).isOk = true →
        g.announced networkName = false))
  | .deliver .. | .call _ _ (.createNetworkClient ..) | .call _ _ (.deleteNetwork ..) | .call _ _ (.joinRequest ..)
  | .call _ _ (.leaveRequest ..) | .call _ _ .init | .call _ _ .exit | .call _ _ .machineExit
    | .call _ _ .machineTimer
  | .call _ _ .networkTimer | .call _ _ .clearNext | .call _ _ (.moveTimer ..) | .call _ _ (.endTimer ..)
  | .call _ _ .resumeTimer => inferInstanceAs (Decidable True)

instance (g : LanGroup) : (event : GroupEvent) → Decidable (g.Calm event)
  | .call id w c => inferInstanceAs (Decidable (¬ (g.nodes id).removes c ∧ c ≠ .exit ∧ g.Once (.call id w c)))
  | .deliver .. => inferInstanceAs (Decidable True)

/-- Every other node has handled each `network create`. -/
def CreatesHandled (g : LanGroup) : Prop :=
  ∀ k machineId network, g.sent[k]? = some (.networkCreate machineId network) →
    ∀ id ∈ g.ids, id ≠ machineId → (id, k) ∈ g.handled

/-- All nodes have the same networks, with the same owner and terms. -/
def Converged (g : LanGroup) : Prop :=
  ∀ name, ∀ first ∈ g.ids, ∀ second ∈ g.ids,
    ((g.nodes first).networks.find name).map NetworkInfo.core =
      ((g.nodes second).networks.find name).map NetworkInfo.core

/-- No `network create` or `network list` that may still arrive changes a
wallet. -/
def WalletsKept (g : LanGroup) : Prop :=
  ∀ id ∈ g.ids, ∀ message ∈ g.sent, (∃ machineId network, message = .networkCreate machineId network) ∨
      (∃ machineId networks, message = .networkList machineId networks) →
    ∀ w addr name before after, (g.nodes id).networks.find name = some before →
      ((g.nodes id).onMulticastReceive w addr message).1.networks.find name = some after →
      after.rentWallet = before.rentWallet

/-- All that is known and told of a network comes from one announcement. -/
structure Uniform (g : LanGroup) : Prop where
  own : ∀ id ∈ g.ids, (g.nodes id).machineId = id
  once : ∀ {name first second terms others}, g.Origin name first terms → g.Origin name second others →
    first = second ∧ terms = others
  records : ∀ id ∈ g.ids, ∀ name info, (g.nodes id).networks.find name = some info →
    info.networkId = name ∧ ∃ machineId, g.Origin name machineId info.data.terms
  lists : ∀ machineId networks, .networkList machineId networks ∈ g.sent → ∀ network ∈ networks,
    ∃ origin, g.Origin network.1.networkName origin network.1.terms

theorem Origin.mono {done : LanSent} {id : Bytes} (origin : g.Origin name machineId terms) :
    (g.update id done).Origin name machineId terms := by
  obtain ⟨network, sent, facts⟩ := origin
  exact ⟨network, List.mem_append_left _ sent, facts⟩

/-- A step that announces no new network. -/
structure Passes (g : LanGroup) (id : Bytes) (done : LanSent) : Prop where
  own : done.1.machineId = id
  records : ∀ name info, done.1.networks.find name = some info →
    (∃ old, (g.nodes id).networks.find name = some old ∧ info.data.networkName = old.data.networkName ∧
      info.data.terms = old.data.terms) ∨
    info.networkId = name ∧ ∃ machineId, g.Origin name machineId info.data.terms
  silent : ∀ machineId network, .networkCreate machineId network ∉ done.2
  lists : ∀ machineId networks, .networkList machineId networks ∈ done.2 → ∀ network ∈ networks,
    ∃ name info, (g.nodes id).networks.find name = some info ∧ network.1 = info.data

theorem Passes.origin {id : Bytes} {done : LanSent} (passes : g.Passes id done)
    (origin : (g.update id done).Origin name machineId terms) : g.Origin name machineId terms := by
  obtain ⟨network, sent, facts⟩ := origin
  rcases List.mem_append.mp sent with before | new
  · exact ⟨network, before, facts⟩
  · exact absurd new (passes.silent _ _)

theorem Uniform.passes {id : Bytes} {done : LanSent} (uniform : g.Uniform) (member : id ∈ g.ids)
    (passes : g.Passes id done) : (g.update id done).Uniform := by
  refine ⟨?_, ?_, ?_, ?_⟩
  · intro other inside
    by_cases same : other = id
    · subst same
      rw [update_self]
      exact passes.own
    · rw [update_other same]
      exact uniform.own other inside
  · intro name first second terms others origin another
    exact uniform.once (passes.origin origin) (passes.origin another)
  · intro other inside name info found
    by_cases same : other = id
    · subst same
      rw [update_self] at found
      rcases passes.records name info found with ⟨old, present, named, same⟩ | ⟨named, machineId, origin⟩
      · obtain ⟨key, machineId, origin⟩ := uniform.records other inside name old present
        rw [← same] at origin
        exact ⟨Eq.trans named key, machineId, origin.mono⟩
      · exact ⟨named, machineId, origin.mono⟩
    · rw [update_other same] at found
      obtain ⟨key, machineId, origin⟩ := uniform.records other inside name info found
      exact ⟨key, machineId, origin.mono⟩
  · intro machineId networks sent network inside
    rcases List.mem_append.mp sent with before | new
    · obtain ⟨origin, made⟩ := uniform.lists machineId networks before network inside
      exact ⟨origin, made.mono⟩
    · obtain ⟨name, info, found, data⟩ := passes.lists machineId networks new network inside
      obtain ⟨key, origin, made⟩ := uniform.records id member name info found
      rw [data]
      change info.networkId = name at key
      exact ⟨origin, by rw [show info.data.networkName = name from key]; exact made.mono⟩

theorem announces_lists {s after : LanNode} {networks : List (NetworkData × List Bytes)}
    (announced : s.Announces after (.networkList machineId networks)) : s.ListsOwn after networks := by
  cases announced with
  | listed own => exact own

theorem lists_own {s : LanNode} {networks : List (NetworkData × List Bytes)} {network : NetworkData × List Bytes}
    (sent : .networkList machineId networks ∈ s.sendNetworkListRequest) (inside : network ∈ networks) :
    machineId = s.machineId ∧ ∃ name info, s.networks.find name = some info ∧ network.1 = info.data ∧
      info.machineId = s.machineId := by
  cases LanNode.mem_sendNetworkListRequest sent
  exact ⟨rfl, LanNode.mem_listed inside⟩

/-- Handling a message passes on what was announced. -/
theorem Uniform.receive {id : Bytes} {message : LanMessage} (uniform : g.Uniform) (member : id ∈ g.ids)
    (sent : message ∈ g.sent) (w : LanWorld) (addr : Bytes) :
    g.Passes id ((g.nodes id).onMulticastReceive w addr message) := by
  refine ⟨?_, ?_, ?_, ?_⟩
  · rw [LanNode.receive_machineId]
    exact uniform.own id member
  · intro name info found
    have record := LanNode.receive_record (g.nodes id) w addr message name
    rw [found] at record
    generalize outcome : some info = after at record
    cases record with
    | same => exact Or.inl ⟨info, outcome.symm, rfl, rfl⟩
    | told tells other named =>
      cases outcome
      refine Or.inr ⟨?_, ?_⟩
      · change (LanNode.told _ _).data.networkName = name
        rw [LanNode.told_data]
        exact named
      · rw [LanNode.told_data, NetworkData.info_data, ← named]
        rcases tells with create | ⟨networks, list, inside⟩
        · rw [create] at sent
          exact ⟨_, _, sent, rfl, rfl⟩
        · rw [list] at sent
          exact uniform.lists _ _ sent _ inside
    | dropped => cases outcome
    | acked old =>
      cases outcome
      exact Or.inl ⟨_, old, rfl, rfl⟩
    | moved old =>
      cases outcome
      exact Or.inl ⟨_, old, rfl, rfl⟩
    | used old =>
      cases outcome
      exact Or.inl ⟨_, old, rfl, rfl⟩
  · intro machineId network answered
    rcases LanNode.receive_sends answered with listed | ⟨_, _, _, _, acked | ⟨_, moved⟩⟩
    · cases LanNode.mem_sendNetworkListRequest listed
    · cases acked
    · cases (LanNode.mem_sendNetworkMoveRequest moved).2
  · intro machineId networks answered network inside
    rcases LanNode.receive_sends answered with listed | ⟨_, _, _, _, acked | ⟨_, moved⟩⟩
    · obtain ⟨_, name, info, found, data, _⟩ := lists_own listed inside
      exact ⟨name, info, found, data⟩
    · cases acked
    · cases (LanNode.mem_sendNetworkMoveRequest moved).2

/-- A call that makes no network passes on what was announced. -/
theorem Uniform.call {id : Bytes} {w : LanWorld} {c : LanCall} (uniform : g.Uniform) (member : id ∈ g.ids)
    (other : ∀ networkName ipCidr wallet, c ≠ .createNetworkServer networkName ipCidr wallet) :
    g.Passes id ((g.nodes id).call w c) := by
  refine ⟨?_, ?_, ?_, ?_⟩
  · rw [LanNode.call_machineId]
    exact uniform.own id member
  · intro name info found
    have record := LanNode.call_record (g.nodes id) w c name
    rw [found] at record
    generalize outcome : some info = after at record
    cases record with
    | same => exact Or.inl ⟨info, outcome.symm, rfl, rfl⟩
    | made => exact absurd rfl (other _ _ _)
    | removed => cases outcome
    | left old leaves =>
      cases outcome
      rw [LanNode.left_data]
      exact Or.inl ⟨_, old, rfl, rfl⟩
    | attached old | moved _ _ _ old | resumed _ old =>
      cases outcome
      exact Or.inl ⟨_, old, rfl, rfl⟩
  · intro machineId network sent
    have kind := LanNode.call_sends sent
    cases kind with
    | created => exact other _ _ _ rfl
    | listed list => cases LanNode.mem_sendNetworkListRequest list
    | announces _ announced => cases announced
    | idle idle => exact idle
  · intro machineId networks sent network inside
    have kind := LanNode.call_sends sent
    cases kind with
    | listed list =>
      obtain ⟨_, name, info, found, data, _⟩ := lists_own list inside
      exact ⟨name, info, found, data⟩
    | announces _ announced =>
      obtain ⟨name, info, found, data, _⟩ := announces_lists announced network inside
      exact ⟨name, info, found, data⟩
    | idle idle => exact idle.elim

theorem Uniform.idle {id : Bytes} (uniform : g.Uniform) (member : id ∈ g.ids) : g.Passes id (g.nodes id, []) := by
  refine ⟨uniform.own id member, fun name info found => Or.inl ⟨info, found, rfl, rfl⟩, ?_, ?_⟩
  · exact fun _ _ => List.not_mem_nil
  · intro machineId networks sent
    cases sent

theorem Uniform.create {id : Bytes} {info : NetworkInfo} {networkName ipCidr wallet : Bytes} (uniform : g.Uniform)
    (member : id ∈ g.ids) (unknown : ∀ machineId terms, ¬ g.Origin networkName machineId terms)
    (new : (g.nodes id).Made networkName ipCidr wallet info) :
    (g.update id ((g.nodes id).put networkName info,
      [.networkCreate (g.nodes id).machineId info.data])).Uniform := by
  have origin :
    (g.update id ((g.nodes id).put networkName info, [.networkCreate (g.nodes id).machineId info.data])).Origin
      networkName (g.nodes id).machineId info.data.terms :=
    ⟨info.data, List.mem_append_right _ (List.mem_singleton_self _), new.networkId, rfl⟩
  have cases : ∀ {name machineId terms},
      (g.update id ((g.nodes id).put networkName info, [.networkCreate (g.nodes id).machineId info.data])).Origin
        name machineId terms → g.Origin name machineId terms ∨
        name = networkName ∧ machineId = (g.nodes id).machineId ∧ terms = info.data.terms := by
    rintro name machineId terms ⟨network, sent, rfl, rfl⟩
    rcases List.mem_append.mp sent with before | made
    · exact Or.inl ⟨network, before, rfl, rfl⟩
    · cases List.mem_singleton.mp made
      exact Or.inr ⟨new.networkId, rfl, rfl⟩
  refine ⟨?_, ?_, ?_, ?_⟩
  · intro other inside
    by_cases same : other = id
    · subst same
      rw [update_self]
      exact uniform.own other inside
    · rw [update_other same]
      exact uniform.own other inside
  · intro name first second terms others one another
    rcases cases one with old | ⟨rfl, rfl, rfl⟩
    · rcases cases another with older | ⟨rfl, _⟩
      · exact uniform.once old older
      · exact absurd old (unknown _ _)
    · rcases cases another with old | ⟨_, rfl, rfl⟩
      · exact absurd old (unknown _ _)
      · exact ⟨rfl, rfl⟩
  · intro other inside name record found
    by_cases same : other = id
    · subst same
      rw [update_self, LanNode.find_put] at found
      split at found
      · rename_i itself
        cases found
        rw [itself]
        exact ⟨new.networkId, _, origin⟩
      · obtain ⟨key, machineId, made⟩ := uniform.records other inside name record found
        exact ⟨key, machineId, made.mono⟩
    · rw [update_other same] at found
      obtain ⟨key, machineId, made⟩ := uniform.records other inside name record found
      exact ⟨key, machineId, made.mono⟩
  · intro machineId networks sent network inside
    rcases List.mem_append.mp sent with before | made
    · obtain ⟨maker, made⟩ := uniform.lists machineId networks before network inside
      exact ⟨maker, made.mono⟩
    · cases List.mem_singleton.mp made

theorem Uniform.handled {handled : List (Bytes × Nat)} (uniform : g.Uniform) :
    Uniform { g with handled := handled } :=
  ⟨uniform.own, uniform.once, uniform.records, uniform.lists⟩

theorem Uniform.step (uniform : g.Uniform) (once : g.Once event) (ran : g.step event = some next) :
    next.Uniform := by
  rcases step_cases ran with ⟨id, w, c, rfl, member, rfl⟩ | ⟨id, w, addr, k, message, rfl, member, sent, rfl⟩
  · by_cases creates : ∃ networkName ipCidr wallet, c = .createNetworkServer networkName ipCidr wallet
    · obtain ⟨networkName, ipCidr, wallet, rfl⟩ := creates
      rcases LanNode.create_cases (g.nodes id) w networkName ipCidr wallet with
        refused | ⟨accepted, _, info, new, made⟩
      · rw [refused]
        exact uniform.passes member (uniform.idle member)
      · rw [made]
        exact uniform.create member (fun _ _ => unannounced (once accepted)) new
    · exact uniform.passes member (uniform.call member fun networkName ipCidr wallet same =>
        creates ⟨networkName, ipCidr, wallet, same⟩)
  · exact (uniform.passes member (uniform.receive member (List.mem_of_getElem? sent) w addr)).handled

theorem Uniform.walletsKept (uniform : g.Uniform) : g.WalletsKept := by
  intro id member message sent _ w addr name before after found changed
  rcases (uniform.receive member sent w addr).records name after changed with
    ⟨old, present, _, same⟩ | ⟨_, machineId, told⟩
  · rw [found] at present
    cases present
    exact congrArg NetworkTerms.rentWallet same
  · obtain ⟨_, maker, made⟩ := uniform.records id member name before found
    exact congrArg NetworkTerms.rentWallet (uniform.once told made).2

theorem Begins.uniform (begins : g.Begins) : g.Uniform := by
  refine ⟨begins.own, ?_, ?_, ?_⟩
  · rintro _ _ _ _ _ ⟨network, sent, _⟩
    rw [begins.unsent] at sent
    cases sent
  · intro id member name info found
    rw [begins.empty id member] at found
    cases found
  · intro machineId networks sent
    rw [begins.unsent] at sent
    cases sent

end LanGroup

end DbcNode
