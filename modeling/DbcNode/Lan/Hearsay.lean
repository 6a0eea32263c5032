import DbcNode.Lan.Takeovers

namespace DbcNode

namespace LanNode
variable {s : LanNode} {name : Bytes}

/-- Of a network that another node tells of, the record names that node. -/
theorem retold_owner {now : Int} {machineId : Bytes} {networks : List (NetworkData × List Bytes)}
    (other : machineId ≠ s.machineId) (inside : name ∈ networks.map (·.1.networkName)) :
    (s.retold now machineId networks name).map (·.machineId) = some machineId := by
  obtain ⟨network, member, named⟩ := List.mem_map.mp inside
  unfold retold
  rw [if_neg other]
  cases last : lastNamed networks name with
  | none =>
    have none : networks.filter (·.1.networkName = name) = [] := List.getLast?_eq_none_iff.mp last
    exact absurd (List.mem_filter.mpr ⟨member, decide_eq_true named⟩) (none ▸ List.not_mem_nil)
  | some network =>
    rw [Option.map_some, Option.some_or, Option.map_some, told_machineId]
    rfl

/-- A message about the owner of a network changes the record so, if there
is one. -/
theorem receive_owner {message : LanMessage} (w : LanWorld) (addr : Bytes) (other : message.owner.1 ≠ s.machineId)
    (named : name ≠ []) (inside : name ∈ message.owner.2) :
    (s.onMulticastReceive w addr message).1.ownerOf name = some message.owner.1 ∨
      (s.onMulticastReceive w addr message).1.ownerOf name = none ∧ s.ownerOf name = none := by
  cases message with
  | networkCreate machineId network =>
    refine Or.inl ?_
    rw [ownerOf, find_receive_create]
    exact retold_owner other inside
  | networkList machineId networks =>
    refine Or.inl ?_
    rw [ownerOf, find_receive_list]
    exact retold_owner other inside
  | networkMoveAck machineId networkName newMachineId =>
    have same := List.mem_singleton.mp inside
    subst same
    rw [ownerOf, ownerOf, onMulticastReceive, removeMoveTimer_networks, find_moveNetworkAck,
      if_pos ⟨rfl, named, other⟩]
    cases s.networks.find name with
    | none => exact Or.inr ⟨rfl, rfl⟩
    | some info => exact Or.inl rfl
  | machineInfo | machineExit | networkDelete | networkQuery | networkMove | networkJoin | networkLeave =>
      cases inside

end LanNode

namespace OwnHistory
variable {h : OwnHistory} {id addr name : Bytes} {w : LanWorld} {k : Nat} {message : LanMessage} {tag : Bytes → Nat}

theorem heard_eq (sent : h.group.sent[k]? = some message) (tagged : h.tags[k]? = some tag) (id : Bytes)
    (w : LanWorld) (addr name : Bytes) : h.heard name (.deliver id w addr k) =
      if message.owner.1 ≠ id ∧ name ∈ message.owner.2 then some (tag name) else none := by
  rw [heard, sent, tagged]

theorem taker_mem {term : Nat} {owner : Bytes} (said : (h.ledger name).taker term = some owner) :
    owner ∈ h.takers name := by
  unfold Ledger.taker at said
  split at said
  · cases said
  · exact List.mem_of_getElem? said

/-- A message changes the owner of a network only where it tells of it. -/
theorem Owned.receive_same (owned : h.Owned) (member : id ∈ h.group.ids) (sent : h.group.sent[k]? = some message)
    (deaf : ¬ (message.owner.1 ≠ id ∧ name ∈ message.owner.2)) :
    ((h.group.nodes id).onMulticastReceive w addr message).1.ownerOf name = (h.group.nodes id).ownerOf name := by
  have own := owned.own id member
  have clean := owned.clean message (List.mem_of_getElem? sent)
  have record := LanNode.receive_record (h.group.nodes id) w addr message name
  generalize outcome : ((h.group.nodes id).onMulticastReceive w addr message).1.networks.find name = after at record
  cases record with
  | same => exact ownerOf_congr outcome
  | told tells other named =>
    rw [own] at other
    refine absurd ?_ deaf
    rcases tells with rfl | ⟨networks, rfl, listed⟩
    · exact ⟨other, List.mem_singleton.mpr named.symm⟩
    · exact ⟨other, List.mem_map.mpr ⟨_, listed, named⟩⟩
  | dropped => cases clean
  | acked found other =>
    rw [own] at other
    exact absurd ⟨other, List.mem_singleton_self name⟩ deaf
  | moved found =>
    have empty : (h.group.nodes id).machineId = [] := clean.1
    rw [own] at empty
    exact absurd (empty ▸ member) owned.named
  | used found => rw [LanNode.ownerOf, LanNode.ownerOf, outcome, found, Option.map_some, Option.map_some]

/-- What a message that comes in order does to the charge of a network. -/
theorem Owned.receive_fate (owned : h.Owned) (member : id ∈ h.group.ids) (sent : h.group.sent[k]? = some message)
    (tagged : h.tags[k]? = some tag) (orderly : h.OrderlyMessage id message tag) (name : Bytes) :
    h.Fate (.deliver id w addr k) ((h.group.nodes id).onMulticastReceive w addr message).1 name := by
  have hears := heard_eq sent tagged id w addr name
  by_cases heard : message.owner.1 ≠ id ∧ name ∈ message.owner.2
  · rw [if_pos heard] at hears
    obtain ⟨other, inside⟩ := heard
    obtain ⟨named, said⟩ := owned.told k message tag sent tagged name inside
    have nonempty : message.owner.1 ≠ [] := by
      intro empty
      exact owned.named (empty ▸ owned.members name _ (taker_mem said))
    refine .hears hears other nonempty (orderly.1 other name inside) said ?_
    exact LanNode.receive_owner w addr (by rw [owned.own id member]; exact other) named inside
  · rw [if_neg heard] at hears
    exact .keeps hears rfl (owned.receive_same member sent heard)

/-- No message makes a node the owner. -/
theorem Owned.receive_gains (owned : h.Owned) (member : id ∈ h.group.ids) (sent : h.group.sent[k]? = some message)
    (tagged : h.tags[k]? = some tag) (name : Bytes) :
    h.gains id ((h.group.nodes id).onMulticastReceive w addr message).1 name = false := by
  have own := owned.own id member
  have machine := LanNode.receive_machineId (h.group.nodes id) w addr message
  by_cases heard : message.owner.1 ≠ id ∧ name ∈ message.owner.2
  · obtain ⟨other, inside⟩ := heard
    obtain ⟨named, _⟩ := owned.told k message tag sent tagged name inside
    have apart : ((h.group.nodes id).onMulticastReceive w addr message).1.claims name = false := by
      rw [LanNode.claims, machine, own]
      rcases LanNode.receive_owner (s := h.group.nodes id) w addr (by rw [own]; exact other) named inside with
        told | ⟨none, _⟩
      · simp [told, other]
      · simp [none]
    rw [gains, apart]
    rfl
  · exact not_gains machine.symm (owned.receive_same member sent heard)

/-- A node goes on owning what it owned when messages come in order. -/
theorem Owned.receive_claims (owned : h.Owned) (member : id ∈ h.group.ids) (sent : h.group.sent[k]? = some message)
    (tagged : h.tags[k]? = some tag) (orderly : h.OrderlyMessage id message tag)
    (claims : (h.group.nodes id).claims name = true) :
    ((h.group.nodes id).onMulticastReceive w addr message).1.claims name = true := by
  have machine := LanNode.receive_machineId (h.group.nodes id) w addr message
  by_cases heard : message.owner.1 ≠ id ∧ name ∈ message.owner.2
  · obtain ⟨other, inside⟩ := heard
    obtain ⟨_, said⟩ := owned.told k message tag sent tagged name inside
    have deaf := (owned.sound name).deaf other (orderly.1 other name inside) said
    exact absurd ((owned.claims_iff member).mp claims) deaf
  · rw [LanNode.claims, machine, owned.receive_same member sent heard]
    exact claims

theorem Owned.receive_keyed {info : NetworkInfo} (owned : h.Owned) (member : id ∈ h.group.ids)
    (sent : h.group.sent[k]? = some message) (tagged : h.tags[k]? = some tag)
    (found : ((h.group.nodes id).onMulticastReceive w addr message).1.networks.find name = some info) :
    info.networkId = name ∧ name ≠ [] := by
  have record := LanNode.receive_record (h.group.nodes id) w addr message name
  rw [found] at record
  generalize outcome : some info = after at record
  cases record with
  | same => exact owned.keyed id member name info outcome.symm
  | @told _ machineId network now tells other named =>
    cases outcome
    rw [LanNode.told_networkId]
    have inside : name ∈ message.owner.2 := by
      rcases tells with rfl | ⟨networks, rfl, listed⟩
      · exact List.mem_singleton.mpr named.symm
      · exact List.mem_map.mpr ⟨network, listed, named⟩
    exact ⟨named, (owned.told k message tag sent tagged name inside).1⟩
  | dropped => cases outcome
  | @acked _ _ before old | @moved _ _ before old | @used _ before _ _ old =>
    cases outcome
    exact owned.keyed id member name before old

theorem Owned.receive_flags {info : NetworkInfo} (owned : h.Owned) (member : id ∈ h.group.ids)
    (found : ((h.group.nodes id).onMulticastReceive w addr message).1.networks.find name = some info)
    (server : info.nativeFlags.dhcpServer = true) : info.machineId = id := by
  have record := LanNode.receive_record (h.group.nodes id) w addr message name
  rw [found] at record
  generalize outcome : some info = after at record
  cases record with
  | same => exact owned.flags id member name info outcome.symm server
  | told =>
    cases outcome
    rw [LanNode.told_dhcpServer] at server
    cases server
  | dropped => cases outcome
  | acked =>
    cases outcome
    cases server
  | moved =>
    cases outcome
    exact owned.own id member
  | @used _ before _ _ old =>
    cases outcome
    exact owned.flags id member name before old server

/-- The answer to a message lists own networks. -/
theorem Owned.receive_lists {answer : LanMessage} (owned : h.Owned) (member : id ∈ h.group.ids)
    (sent : h.group.sent[k]? = some message)
    (answers : answer ∈ ((h.group.nodes id).onMulticastReceive w addr message).2) :
    answer = .networkList id (h.group.nodes id).listed := by
  have own := owned.own id member
  rcases LanNode.receive_sends answers with listed | ⟨machineId, networkName, queue, rfl, _⟩
  · rw [LanNode.mem_sendNetworkListRequest listed, own]
  · have empty : (h.group.nodes id).machineId = [] := (owned.clean _ (List.mem_of_getElem? sent)).1
    rw [own] at empty
    exact absurd (empty ▸ member) owned.named

/-- The candidates other than the node that handles the message go on. -/
theorem hope_other {other : Bytes} {done : LanSent} (apart : other ≠ id) (hope : h.group.hope name other = true) :
    LanGroup.hope { h.group.update id done with handled := (id, k) :: h.group.handled } name other = true := by
  refine LanGroup.hope_update hope (LanGroup.waits_update_other apart) fun j unhandled handled => ?_
  rcases List.mem_cons.mp handled with same | before
  · exact apart (congrArg Prod.fst same)
  · exact unhandled before

/-- While a network is in nobody's charge, somebody may still take it over
after a message. -/
theorem Owned.receive_hope (owned : h.Owned) (member : id ∈ h.group.ids) (sent : h.group.sent[k]? = some message)
    (orderly : h.OrderlyMessage id message tag) (taken : h.takers name ≠ []) (free : h.holder name = none) :
    ∃ other ∈ h.group.ids,
      LanGroup.hope { h.group.update id ((h.group.nodes id).onMulticastReceive w addr message) with
      handled := (id, k) :: h.group.handled } name other = true := by
  obtain ⟨other, inside, hope⟩ := owned.hope name taken free
  by_cases same : other = id
  · subst same
    rcases LanGroup.hope_iff.mp hope with waits | awaits
    · by_cases stops : name ∈ message.stops
      · -- the message stops the timer of this candidate
        obtain ⟨another, there, apart, still⟩ := LanGroup.hopeBesides_iff.mp (orderly.2 name stops waits free)
        exact ⟨another, there, hope_other apart still⟩
      · refine ⟨other, inside, LanGroup.hope_iff.mpr (Or.inl ?_)⟩
        rw [LanGroup.waits_update_self]
        exact (owned.timed other inside).receive_waits_other w addr waits stops
    · obtain ⟨j, machineId, newMachineId, queue, moved, candidate, unhandled⟩ := LanGroup.awaits_iff.mp awaits
      refine ⟨other, inside, LanGroup.hope_iff.mpr ?_⟩
      by_cases this : j = k
      · -- the message is the one that makes it a candidate
        subst this
        rw [sent] at moved
        cases moved
        refine Or.inl ?_
        rw [LanGroup.waits_update_self]
        rw [← owned.own other inside] at candidate
        exact (owned.timed other inside).receive_waits w addr candidate
      · refine Or.inr (LanGroup.awaits_iff.mpr ⟨j, machineId, newMachineId, queue, ?_, candidate, ?_⟩)
        · exact List.getElem?_append_left (List.getElem?_eq_some_iff.mp moved).1 ▸ moved
        · intro handled
          rcases List.mem_cons.mp handled with same | before
          · exact this (congrArg Prod.snd same)
          · exact unhandled before
  · exact ⟨other, inside, hope_other same hope⟩

/-- A message that comes in order. -/
theorem Owned.deliver (owned : h.Owned) (member : id ∈ h.group.ids) (sent : h.group.sent[k]? = some message)
    (tagged : h.tags[k]? = some tag) (orderly : h.OrderlyMessage id message tag) :
    h.Turn (.deliver id w addr k) ((h.group.nodes id).onMulticastReceive w addr message)
      ((id, k) :: h.group.handled) where
  member := member
  own := (LanNode.receive_machineId _ w addr message).trans (owned.own id member)
  timed := (owned.timed id member).receive w addr message
  keyed _ _ found := owned.receive_keyed member sent tagged found
  flags _ _ found server := owned.receive_flags member found server
  fate := owned.receive_fate member sent tagged orderly
  tells answer answers name inside := by
    rw [owned.receive_lists member sent answers] at inside ⊢
    refine ⟨rfl, owned.receive_claims member sent tagged orderly ?_⟩
    exact owned.lists_own member
      (fun network there => (LanNode.mem_listed there).imp fun _ ⟨info, found, data, mine⟩ => ⟨info, found, data,
        Or.inl mine⟩)
      rfl (fun _ claims => claims) inside
  acks name gains _ := by
    change h.gains id _ name = true at gains
    rw [owned.receive_gains member sent tagged name] at gains
    cases gains
  clean answer answers := by
    rw [owned.receive_lists member sent answers]
    trivial
  newly other j handled := by
    rcases List.mem_cons.mp handled with same | before
    · cases same
      exact Or.inr ⟨w, addr, rfl, (List.getElem?_eq_some_iff.mp sent).1⟩
    · exact Or.inl before
  hope name taken gains free := by
    refine owned.receive_hope member sent orderly taken ?_
    rcases free with goes | free
    · cases goes
    · exact free

end OwnHistory

end DbcNode
