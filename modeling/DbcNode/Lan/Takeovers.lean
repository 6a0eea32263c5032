import DbcNode.Lan.Handover

namespace DbcNode

namespace LanGroup
variable {g : LanGroup} {name id : Bytes}

theorem awaits_iff : g.awaits name id = true ↔ ∃ (k : Nat) (machineId newMachineId : Bytes) (queue : List Bytes),
    g.sent[k]? = some (.networkMove machineId name newMachineId queue) ∧ id ∈ queue.take 3 ∧
      (id, k) ∉ g.handled := by
  unfold awaits
  rw [List.any_eq_true]
  constructor
  · rintro ⟨⟨message, k⟩, inside, moves⟩
    have sent := List.mem_zipIdx_iff_getElem?.mp inside
    cases message with
    | networkMove machineId networkName newMachineId queue =>
      obtain ⟨rfl, candidate, unhandled⟩ := of_decide_eq_true moves
      exact ⟨k, machineId, newMachineId, queue, sent, candidate, unhandled⟩
    | machineInfo | machineExit | networkCreate | networkDelete | networkQuery | networkList | networkMoveAck
    | networkJoin | networkLeave => cases moves
  · rintro ⟨k, machineId, newMachineId, queue, sent, candidate, unhandled⟩
    exact ⟨(_, k), List.mem_zipIdx_iff_getElem?.mpr sent, decide_eq_true ⟨rfl, candidate, unhandled⟩⟩

theorem hope_iff : g.hope name id = true ↔ g.waits name id = true ∨ g.awaits name id = true := by
  rw [hope, Bool.or_eq_true]

theorem hopeBesides_iff : g.hopeBesides name id = true ↔ ∃ other ∈ g.ids, other ≠ id ∧
    g.hope name other = true := by
  simp [hopeBesides]

/-- A node goes on hoping while its timers run and the messages it awaits
are unhandled. -/
theorem hope_update {other : Bytes} {done : LanSent} {handled : List (Bytes × Nat)}
    (hope : g.hope name other = true)
    (timers : g.waits name other = true → waits { g.update id done with handled := handled } name other = true)
    (still : ∀ k, (other, k) ∉ g.handled → (other, k) ∉ handled) :
    LanGroup.hope { g.update id done with handled := handled } name other = true := by
  rw [hope_iff] at hope ⊢
  rcases hope with waiting | awaiting
  · exact Or.inl (timers waiting)
  · refine Or.inr (awaits_iff.mpr ?_)
    obtain ⟨k, machineId, newMachineId, queue, sent, candidate, unhandled⟩ := awaits_iff.mp awaiting
    refine ⟨k, machineId, newMachineId, queue, ?_, candidate, still k unhandled⟩
    exact List.getElem?_append_left (List.getElem?_eq_some_iff.mp sent).1 ▸ sent

theorem waits_update_other {other : Bytes} {done : LanSent} {handled : List (Bytes × Nat)} (different : other ≠ id)
    (waiting : g.waits name other = true) :
    waits { g.update id done with handled := handled } name other = true := by
  unfold waits at waiting ⊢
  dsimp only
  rw [update_other different]
  exact waiting

theorem waits_update_self {done : LanSent} {handled : List (Bytes × Nat)} :
    waits { g.update id done with handled := handled } name id = done.1.waitsFor name := by
  unfold waits
  dsimp only
  rw [update_self]

end LanGroup

namespace OwnHistory
variable {h : OwnHistory} {id name : Bytes} {w : LanWorld} {c : LanCall}

theorem OrderlyCall.stays (orderly : h.OrderlyCall id w c) : ¬ (h.group.nodes id).removes c := by
  cases c with
  | deleteNetwork | clearNext => exact orderly
  | createNetworkServer | createNetworkClient | joinRequest | leaveRequest | init | exit | machineExit
    | machineTimer
  | networkTimer | moveTimer | endTimer | resumeTimer => exact Bool.false_ne_true

theorem Owned.call_keyed (owned : h.Owned) (member : id ∈ h.group.ids) {info : NetworkInfo}
    (found : ((h.group.nodes id).call w c).1.networks.find name = some info) :
    info.networkId = name ∧ name ≠ [] := by
  have record := LanNode.call_record (h.group.nodes id) w c name
  rw [found] at record
  generalize outcome : some info = after at record
  cases record with
  | same => exact owned.keyed id member name info outcome.symm
  | made named _ new =>
    cases outcome
    exact ⟨new.networkId, named⟩
  | removed => cases outcome
  | @left before old leaves =>
    cases outcome
    have same : ((h.group.nodes id).left before).networkId = before.networkId := congrArg NetworkData.networkName
      (LanNode.left_data (h.group.nodes id) before)
    rw [same]
    exact owned.keyed id member name before old
  | @attached before old | @moved _ before _ _ _ old | @resumed before _ old =>
    cases outcome
    exact owned.keyed id member name before old

theorem Owned.call_flags (owned : h.Owned) (member : id ∈ h.group.ids) {info : NetworkInfo}
    (found : ((h.group.nodes id).call w c).1.networks.find name = some info)
    (server : info.nativeFlags.dhcpServer = true) :
    info.machineId = id := by
  have own := owned.own id member
  have record := LanNode.call_record (h.group.nodes id) w c name
  rw [found] at record
  generalize outcome : some info = after at record
  cases record with
  | same => exact owned.flags id member name info outcome.symm server
  | made _ _ new =>
    cases outcome
    rw [new.machineId, own]
  | removed => cases outcome
  | left old leaves =>
    cases outcome
    rw [LanNode.left, if_pos leaves] at server
    cases server
  | @attached before old =>
    cases outcome
    exact owned.flags id member name before old server
  | moved | resumed =>
    cases outcome
    exact own

theorem claims_of_find {s : LanNode} {info : NetworkInfo} (found : s.networks.find name = some info)
    (own : info.machineId = s.machineId) : s.claims name = true := by
  rw [LanNode.claims, LanNode.ownerOf, found, Option.map_some, own]
  exact decide_eq_true rfl

/-- What a call that is in order does to the charge of a network. -/
theorem Owned.call_fate (owned : h.Owned) (member : id ∈ h.group.ids) (orderly : h.OrderlyCall id w c)
    (name : Bytes) :
    h.Fate (.call id w c) ((h.group.nodes id).call w c).1 name := by
  have own := owned.own id member
  have machine := LanNode.call_machineId (h.group.nodes id) w c
  by_cases goes : h.leaves name (.call id w c)
  · -- the node gives the network up
    cases c with
    | exit =>
      obtain ⟨info, found, leaves⟩ := (Option.any_eq_true _ _).mp goes
      have mine : info.machineId = (h.group.nodes id).machineId := (of_decide_eq_true leaves).1
      refine .leaves rfl goes (claims_of_find found mine) ?_
      change ((h.group.nodes id).exit.1.networks.find name).map (·.machineId) = some []
      rw [LanNode.find_exit, found, Option.map_some, Option.map_some, LanNode.left, if_pos leaves]
    | createNetworkServer | createNetworkClient | deleteNetwork | joinRequest | leaveRequest | init | machineExit
    | machineTimer | networkTimer | clearNext | moveTimer | endTimer | resumeTimer => cases goes
  · have stays : h.leaves name (.call id w c) = false := Bool.not_eq_true _ ▸ goes
    have record := LanNode.call_record (h.group.nodes id) w c name
    have keeps : ∀ {info : NetworkInfo}, ((h.group.nodes id).call w c).1.networks.find name = some info →
        (∃ old, (h.group.nodes id).networks.find name = some old ∧ old.machineId = info.machineId) →
        h.Fate (.call id w c) ((h.group.nodes id).call w c).1 name := by
      rintro info found ⟨old, before, same⟩
      refine .keeps rfl stays ?_
      change ((h.group.nodes id).call w c).1.ownerOf name = (h.group.nodes id).ownerOf name
      rw [LanNode.ownerOf, LanNode.ownerOf, found, before, Option.map_some, Option.map_some, same]
    have gains : ∀ {info : NetworkInfo}, ((h.group.nodes id).call w c).1.networks.find name = some info →
        info.machineId = (h.group.nodes id).machineId → h.holder name = none →
        h.Fate (.call id w c) ((h.group.nodes id).call w c).1 name := fun found mine free =>
      .gains rfl free (claims_of_find found (mine.trans machine.symm))
    generalize outcome : ((h.group.nodes id).call w c).1.networks.find name = after at record
    cases record with
    | same =>
      refine .keeps rfl stays ?_
      change ((h.group.nodes id).call w c).1.ownerOf name = (h.group.nodes id).ownerOf name
      rw [LanNode.ownerOf, outcome, LanNode.ownerOf]
    | @made ipCidr wallet info named fresh new =>
      -- a new network has had no owner
      rcases LanNode.create_cases (h.group.nodes id) w name ipCidr wallet with refused | ⟨accepted, _⟩
      · rw [refused, fresh] at outcome
        cases outcome
      · refine gains outcome new.machineId ?_
        have untaken := orderly accepted
        cases held : h.holder name with
        | none => rfl
        | some p =>
          have last := ((owned.sound name).last p held).1
          change (h.takers name).getLast? = some p at last
          rw [untaken] at last
          cases last
    | attached old => exact keeps outcome ⟨_, old, rfl⟩
    | removed removes => exact absurd removes orderly.stays
    | left old leaves =>
      refine absurd ?_ goes
      rw [OwnHistory.leaves, old, Option.any_some]
      exact leaves
    | moved called named able old =>
      subst named
      rw [own] at able
      have free := orderly called
      rw [if_pos able] at free
      rcases free with free | held
      · exact gains outcome rfl free
      · have claimed : (h.group.nodes id).claims _ = true := (owned.claims_iff member).mpr held
        obtain ⟨info, found, mine⟩ := claims_record claimed
        rw [old] at found
        cases found
        exact keeps outcome ⟨_, old, mine⟩
    | resumed able old vacant =>
      rw [own] at able
      exact gains outcome rfl (orderly _ (OrdMap.find_eq_some.mp old) vacant able)

/-- A node goes on owning what it owned, unless it exits. -/
theorem call_claims {s : LanNode} (claims : s.claims name = true) (stays : ¬ s.removes c) (runs : c ≠ .exit) :
    (s.call w c).1.claims name = true := by
  obtain ⟨info, found, own⟩ := claims_record claims
  have machine := LanNode.call_machineId s w c
  have record := LanNode.call_record s w c name
  generalize outcome : (s.call w c).1.networks.find name = after at record
  cases record with
  | same => exact claims_of_find (outcome.trans found) (own.trans machine.symm)
  | made _ fresh =>
    rw [fresh] at found
    cases found
  | attached old =>
    rw [old] at found
    cases found
    exact claims_of_find outcome (own.trans machine.symm)
  | removed removes => exact absurd removes stays
  | left => exact absurd rfl runs
  | moved | resumed => exact claims_of_find outcome machine.symm

/-- The networks that a node lists are its own after the call too. -/
theorem Owned.lists_own {next : LanNode} {networks : List (NetworkData × List Bytes)} (owned : h.Owned)
    (member : id ∈ h.group.ids) (lists : (h.group.nodes id).ListsOwn next networks)
    (same : next.machineId = (h.group.nodes id).machineId)
    (kept : ∀ name, (h.group.nodes id).claims name = true → next.claims name = true)
    (inside : name ∈ networks.map (·.1.networkName)) : next.claims name = true := by
  obtain ⟨network, listed, rfl⟩ := List.mem_map.mp inside
  obtain ⟨key, info, found, data, own⟩ := lists network listed
  have named : network.1.networkName = key := by
    rw [data]
    exact (owned.keyed id member key info found).1
  rw [named]
  rcases own with mine | taken
  · exact kept key (claims_of_find found mine)
  · exact claims_of_find taken same.symm

/-- A call tells of no network that is not the node's own then. -/
theorem Owned.call_tells {message : LanMessage} (owned : h.Owned) (member : id ∈ h.group.ids)
    (orderly : h.OrderlyCall id w c) (sent : message ∈ ((h.group.nodes id).call w c).2)
    (inside : name ∈ message.owner.2) :
    message.owner.1 = id ∧ ((h.group.nodes id).call w c).1.claims name = true := by
  have own := owned.own id member
  have machine := LanNode.call_machineId (h.group.nodes id) w c
  have kept : c ≠ .exit → ∀ name, (h.group.nodes id).claims name = true →
      ((h.group.nodes id).call w c).1.claims name = true := fun runs name claims =>
    call_claims claims orderly.stays runs
  cases LanNode.call_sends sent with
  | created fresh new found =>
    refine ⟨own, ?_⟩
    rw [List.mem_singleton.mp inside]
    have named : (NetworkInfo.data _).networkName = _ := new.networkId
    rw [named]
    exact claims_of_find found (new.machineId.trans machine.symm)
  | listed listed =>
    rw [LanNode.mem_sendNetworkListRequest listed] at inside ⊢
    refine ⟨own, owned.lists_own member (fun network there => ?_) machine (kept nofun) inside⟩
    obtain ⟨key, info, found, data, mine⟩ := LanNode.mem_listed there
    exact ⟨key, info, found, data, Or.inl mine⟩
  | announces takes announced =>
    have runs : c ≠ .exit := by
      rcases takes with rfl | ⟨timer, _, rfl⟩
      · nofun
      · nofun
    cases announced with
    | listed lists => exact ⟨own, owned.lists_own member lists machine (kept runs) inside⟩
    | acked found taken =>
      refine ⟨own, ?_⟩
      rw [List.mem_singleton.mp inside]
      exact claims_of_find taken machine.symm
  | deleted | moves => cases inside
  | idle idle =>
    cases message with
    | machineInfo | machineExit | networkQuery | networkJoin | networkLeave => cases inside
    | networkCreate | networkDelete | networkList | networkMove | networkMoveAck => cases idle

theorem mem_topInsert {num : Nat} {mm : List (Int × Bytes)} {first : Int} {text : Bytes} {entry : Int × Bytes}
    (inside : entry ∈ LanNode.topInsert num mm first text) : entry = (first, text) ∨ entry ∈ mm := by
  have whole : entry ∈ mm.takeWhile (·.1 ≤ first) ++ (first, text) :: mm.dropWhile (·.1 ≤ first) := by
    unfold LanNode.topInsert at inside
    dsimp only at inside
    split at inside
    · exact List.mem_of_mem_drop inside
    · exact inside
  rcases List.mem_append.mp whole with before | here
  · exact Or.inr ((List.takeWhile_sublist _).subset before)
  · rcases List.mem_cons.mp here with new | after
    · exact Or.inl new
    · exact Or.inr ((List.dropWhile_sublist _).subset after)

/-- A node is not a candidate for its own networks. -/
theorem not_mem_candidates (s : LanNode) (oldMachineId : Bytes) : s.machineId ∉ s.candidates oldMachineId := by
  have each : ∀ (entries : List (Bytes × LanMachineInfo)) (mm : List (Int × Bytes)) (entry : Int × Bytes),
      entry ∈ entries.foldl (fun mm entry => LanNode.topInsert 3 mm entry.2.curTime entry.1) mm →
      entry ∈ mm ∨ ∃ node ∈ entries, node.1 = entry.2 := by
    intro entries
    induction entries with
    | nil => exact fun _ _ inside => Or.inl inside
    | cons node entries ih =>
      intro mm entry inside
      rcases ih _ entry inside with before | ⟨other, later, same⟩
      · rcases mem_topInsert before with rfl | old
        · exact Or.inr ⟨node, List.mem_cons_self, rfl⟩
        · exact Or.inl old
      · exact Or.inr ⟨other, List.mem_cons_of_mem _ later, same⟩
  intro inside
  obtain ⟨entry, there, named⟩ := List.mem_map.mp inside
  rcases each _ [] entry (List.mem_reverse.mp there) with none | ⟨node, eligible, same⟩
  · cases none
  · obtain ⟨_, conditions⟩ := List.mem_filter.mp eligible
    exact (of_decide_eq_true conditions).2.2 (same.trans named)

theorem OrderlyCall.clean {message : LanMessage} (orderly : h.OrderlyCall id w c)
    (sent : message ∈ ((h.group.nodes id).call w c).2) : message.Clean := by
  cases LanNode.call_sends sent with
  | created => trivial
  | moves => exact ⟨rfl, not_mem_candidates _ _⟩
  | listed listed =>
    rw [LanNode.mem_sendNetworkListRequest listed]
    trivial
  | announces _ announced =>
    cases announced with
    | listed | acked => trivial
  | deleted removes => exact absurd removes orderly.stays
  | idle idle =>
    cases message with
    | machineInfo | machineExit | networkQuery | networkJoin | networkLeave => trivial
    | networkCreate | networkDelete | networkList | networkMove | networkMoveAck => cases idle

theorem ownerOf_congr {s next : LanNode} (same : next.networks.find name = s.networks.find name) :
    next.ownerOf name = s.ownerOf name := by
  rw [LanNode.ownerOf, same, LanNode.ownerOf]

/-- A node comes to own a network only where its record changes to name
it. -/
theorem not_gains {s : LanNode} (own : (h.group.nodes id).machineId = s.machineId)
    (same : s.ownerOf name = (h.group.nodes id).ownerOf name) : h.gains id s name = false := by
  rw [gains, LanNode.claims, LanNode.claims, same, own]
  simp

/-- Whoever takes over a network that had an owner before acknowledges
it. -/
theorem Owned.call_acks (owned : h.Owned) (member : id ∈ h.group.ids) (orderly : h.OrderlyCall id w c)
    (gains : h.gains id ((h.group.nodes id).call w c).1 name = true) (taken : h.takers name ≠ []) :
    .networkMoveAck id name id ∈ ((h.group.nodes id).call w c).2 := by
  have own := owned.own id member
  have named : (h.group.nodes id).machineId ≠ [] := by
    rw [own]
    rintro rfl
    exact owned.named member
  have machine := LanNode.call_machineId (h.group.nodes id) w c
  have changes : ((h.group.nodes id).call w c).1.ownerOf name ≠ (h.group.nodes id).ownerOf name := by
    intro same
    rw [not_gains machine.symm same] at gains
    cases gains
  have record := LanNode.call_record (h.group.nodes id) w c name
  generalize outcome : ((h.group.nodes id).call w c).1.networks.find name = after at record
  cases record with
  | same => exact absurd (ownerOf_congr outcome) changes
  | @made ipCidr wallet info _ fresh =>
    rcases LanNode.create_cases (h.group.nodes id) w name ipCidr wallet with refused | ⟨accepted, _⟩
    · rw [refused] at changes
      exact absurd rfl changes
    · exact absurd (orderly accepted) taken
  | attached old =>
    refine absurd ?_ changes
    rw [LanNode.ownerOf, LanNode.ownerOf, outcome, old, Option.map_some, Option.map_some]
  | removed removes => exact absurd removes orderly.stays
  | @left info old leaves =>
    have claims := (Bool.and_eq_true_iff.mp gains).1
    obtain ⟨info, found, mine⟩ := claims_record claims
    rw [outcome] at found
    cases found
    rw [LanNode.left, if_pos leaves, machine] at mine
    exact absurd mine.symm named
  | @moved timer info called same =>
    have ran : (((h.group.nodes id).call w (.moveTimer timer)).1.networks =
        ((h.group.nodes id).takeOver w timer.name).1.networks) ∧
        ((h.group.nodes id).call w (.moveTimer timer)).2 = ((h.group.nodes id).takeOver w timer.name).2 := by
      rw [LanNode.call, if_pos ⟨called.1, called.2.1⟩, LanNode.onTimerTick, if_pos called.2.2]
      exact ⟨rfl, rfl⟩
    rcases LanNode.takeOver_acked (s := h.group.nodes id) named w timer.name name with kept | acked
    · refine absurd (ownerOf_congr ?_) changes
      rw [ran.1]
      exact kept
    · rw [ran.2]
      rw [own] at acked
      exact acked
  | resumed =>
    rcases (LanNode.each_acked w (((h.group.nodes id).networks.entries.filter (·.2.machineId = [])).map (·.1))
      (h.group.nodes id, []) named name).1 with kept | acked
    · exact absurd (ownerOf_congr kept) changes
    · rw [own] at acked
      exact acked

/-- Who gives a network up tells the candidates. -/
theorem mem_exit_move {s : LanNode} {info : NetworkInfo} (found : s.networks.find name = some info)
    (leaves : s.leaves info) (some : s.candidates s.machineId ≠ []) :
    .networkMove s.machineId name [] (s.candidates s.machineId) ∈ s.exit.2 := by
  have own : info.machineId = s.machineId := (of_decide_eq_true leaves).1
  refine List.mem_flatMap.mpr ⟨(name, info), List.mem_filter.mpr ⟨OrdMap.find_eq_some.mp found, leaves⟩, ?_⟩
  dsimp only
  rw [own, LanNode.sendNetworkMoveRequest]
  split
  · rename_i none
    exact absurd none some
  · exact List.mem_singleton_self _

/-- A node that exits leaves a candidate that has yet to hear of it. -/
theorem Owned.exit_hope (owned : h.Owned) (member : id ∈ h.group.ids) (orderly : h.OrderlyCall id w .exit)
    (goes : h.leaves name (.call id w .exit) = true) :
    ∃ other ∈ h.group.ids, (h.group.update id (h.group.nodes id).exit).hope name other = true := by
  have own := owned.own id member
  obtain ⟨info, found, leaves⟩ := (Option.any_eq_true _ _).mp goes
  obtain ⟨other, candidate, apart⟩ :=
    List.any_eq_true.mp (orderly (name, info) (OrdMap.find_eq_some.mp found) leaves)
  obtain ⟨_, inside⟩ := Bool.and_eq_true_iff.mp apart
  have some : (h.group.nodes id).candidates (h.group.nodes id).machineId ≠ [] := by
    intro none
    rw [own] at none
    rw [none] at candidate
    cases candidate
  obtain ⟨k, short, same⟩ := List.mem_iff_getElem.mp (mem_exit_move found leaves some)
  rw [own] at same
  refine ⟨other, of_decide_eq_true inside, LanGroup.hope_iff.mpr (Or.inr (LanGroup.awaits_iff.mpr ?_))⟩
  refine ⟨h.group.sent.length + k, id, [], (h.group.nodes id).candidates id, ?_, candidate, ?_⟩
  · change (h.group.sent ++ (h.group.nodes id).exit.2)[h.group.sent.length + k]? = _
    rw [List.getElem?_append_right (by omega), Nat.add_sub_cancel_left, List.getElem?_eq_getElem short, same]
  · intro handled
    have old := owned.known other _ handled
    omega

theorem moveTimer_claims {s : LanNode} {timer : MoveTimer} (called : s.Calls timer)
    (able : (s.moveNetwork w timer.name s.machineId).isOk) :
    (s.call w (.moveTimer timer)).1.claims timer.name = true := by
  rcases LanNode.takeOver_cases s w timer.name with ⟨next, info, _, _, _, rfl, taken⟩ | ⟨unable, _⟩
  · have found : (s.call w (.moveTimer timer)).1.networks.find timer.name = some (info.taken s.machineId) := by
      rw [LanNode.call, if_pos ⟨called.1, called.2.1⟩, LanNode.onTimerTick, if_pos called.2.2]
      change (s.takeOver w timer.name).1.networks.find timer.name = _
      rw [taken, LanNode.find_put, if_pos rfl]
    exact claims_of_find found (LanNode.call_machineId s w _).symm
  · exact absurd able (by rw [unable]; simp)

/-- While a network is in nobody's charge, somebody may still take it over
after a call. -/
theorem Owned.call_hope (owned : h.Owned) (member : id ∈ h.group.ids) (orderly : h.OrderlyCall id w c)
    (taken : h.takers name ≠ []) (gains : h.gains id ((h.group.nodes id).call w c).1 name = false)
    (free : h.leaves name (.call id w c) = true ∨ h.holder name = none) :
    ∃ other ∈ h.group.ids, (h.group.update id ((h.group.nodes id).call w c)).hope name other = true := by
  by_cases goes : h.leaves name (.call id w c) = true
  · cases c with
    | exit => exact owned.exit_hope member orderly goes
    | createNetworkServer | createNetworkClient | deleteNetwork | joinRequest | leaveRequest | init | machineExit
    | machineTimer | networkTimer | clearNext | moveTimer | endTimer | resumeTimer => cases goes
  · have vacant : h.holder name = none := free.resolve_left goes
    have besides : h.group.hopeBesides name id = true →
        ∃ other ∈ h.group.ids, (h.group.update id ((h.group.nodes id).call w c)).hope name other = true := by
      intro another
      obtain ⟨other, inside, apart, hope⟩ := LanGroup.hopeBesides_iff.mp another
      exact ⟨other, inside,
        LanGroup.hope_update hope (LanGroup.waits_update_other apart) fun _ unhandled => unhandled⟩
    by_cases running : ∃ timer, c = .moveTimer timer ∧ (h.group.nodes id).Calls timer ∧ timer.name = name
    · -- the candidate fails, and the order asks for another one
      obtain ⟨timer, rfl, called, rfl⟩ := running
      have another := orderly called
      split at another
      · rename_i able
        have own := owned.own id member
        have claims := moveTimer_claims (w := w) called (by rw [own]; exact able)
        have before : (h.group.nodes id).claims timer.name = false := by
          rw [← Bool.not_eq_true, owned.claims_iff member, vacant]
          simp
        rw [OwnHistory.gains, claims, before] at gains
        cases gains
      · exact besides (another vacant)
    by_cases ending : h.group.waits name id = true ∧ ∃ timerId, c = .endTimer timerId ∧
        timerId ∈ (h.group.nodes id).ranOut ∧ ∃ timer ∈ (h.group.nodes id).timers, timer.id = timerId ∧
          timer.name = name
    · -- with the timer that has run out goes the callback of the others
      obtain ⟨waits, timerId, rfl, ranOut, timer, inside, same, rfl⟩ := ending
      obtain ⟨first, found⟩ := Option.isSome_iff_exists.mp
        (List.find?_isSome.mpr ⟨timer, inside, decide_eq_true same⟩ :
          ((h.group.nodes id).timers.find? (·.id = timerId)).isSome)
      have first_id : first.id = timerId := by simpa using List.find?_some found
      have named :=
        (owned.timed id member).apart first (List.mem_of_find?_eq_some found) timer inside
          (first_id.trans same.symm)
      have another := orderly ranOut first found
      rw [named] at another
      exact besides (another waits vacant)
    · obtain ⟨other, inside, hope⟩ := owned.hope name taken vacant
      refine ⟨other, inside, LanGroup.hope_update hope (fun waits => ?_) fun _ unhandled => unhandled⟩
      by_cases same : other = id
      · subst same
        rw [LanGroup.waits_update_self]
        have called := (LanNode.waitsFor_iff.mp waits).2
        refine (owned.timed other member).call_waits waits ?_ ?_
        · rintro timer rfl waiting due rfl
          exact running ⟨timer, rfl, ⟨waiting, due, called⟩, rfl⟩
        · rintro timerId rfl ranOut timer waiting same named
          exact ending ⟨waits, timerId, rfl, ranOut, timer, waiting, same, named⟩
      · exact LanGroup.waits_update_other same waits

/-- A call that is in order. -/
theorem Owned.call (owned : h.Owned) (member : id ∈ h.group.ids) (orderly : h.OrderlyCall id w c) :
    h.Turn (.call id w c) ((h.group.nodes id).call w c) h.group.handled where
  member := member
  own := (LanNode.call_machineId _ w c).trans (owned.own id member)
  timed := (owned.timed id member).call w c
  keyed _ _ found := owned.call_keyed member found
  flags _ _ found server := owned.call_flags member found server
  fate := owned.call_fate member orderly
  tells _ sent _ inside := owned.call_tells member orderly sent inside
  acks _ gains taken := owned.call_acks member orderly gains taken
  clean _ sent := orderly.clean sent
  newly _ _ handled := Or.inl handled
  hope _ taken gains free := owned.call_hope member orderly taken gains free

end OwnHistory

end DbcNode
