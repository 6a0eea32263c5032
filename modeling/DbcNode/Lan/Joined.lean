import DbcNode.Lan.Steps
import DbcNode.Lib.Runs

namespace DbcNode

/-- A node with the tasks, by network, whose last `network join` or
`network leave` that the node has handled is the one or the other. A
`network delete` ends the joins. -/
structure MemberHistory where
  node : LanNode
  joined : List (Bytes × Bytes)
  left : List (Bytes × Bytes)

/-- The members of a network are right: a task that has joined is there
once, and one that has left is not. -/
structure RightMembers (joined left : List (Bytes × Bytes)) (name : Bytes) (members : List Bytes) : Prop where
  joined : ∀ taskId, (name, taskId) ∈ joined → members.count taskId = 1
  left : ∀ taskId, (name, taskId) ∈ left → taskId ∉ members

namespace LanNode
variable {s : LanNode} {w : LanWorld} {name : Bytes}

/-- The members of a network that the node has. -/
def membersOf (s : LanNode) (name : Bytes) : Option (List Bytes) := (s.getNetwork name).map (·.members)

theorem membersOf_eq (s : LanNode) (name : Bytes) :
    s.membersOf name = if name = [] then none else (s.networks.find name).map (·.members) := by
  unfold membersOf getNetwork
  split <;> rfl

theorem membersOf_congr {next : LanNode} (same : next.networks.find name = s.networks.find name) :
    next.membersOf name = s.membersOf name := by
  rw [membersOf_eq, membersOf_eq, same]

theorem told_members (s : LanNode) (info : NetworkInfo) : (s.told info).members = info.members := by
  unfold told
  split <;> rfl

/-- A call leaves the members of a network as they are, unless the network
goes or is new. -/
theorem call_members (s : LanNode) (w : LanWorld) (c : LanCall) (name : Bytes) :
    (s.call w c).1.membersOf name = s.membersOf name ∨ (s.call w c).1.membersOf name = none ∨
      ∃ ipCidr wallet, c = .createNetworkServer name ipCidr wallet ∧ (s.call w c).1.membersOf name = some [] := by
  rw [membersOf_eq, membersOf_eq]
  by_cases named : name = []
  · simp [named]
  · simp only [named, if_false]
    have record := call_record s w c name
    generalize (s.call w c).1.networks.find name = after at record
    cases record with
    | same => exact Or.inl rfl
    | made _ fresh new =>
      refine Or.inr (Or.inr ⟨_, _, rfl, ?_⟩)
      rw [Option.map_some, new.members]
    | removed => exact Or.inr (Or.inl rfl)
    | left found leaves =>
      rw [found]
      refine Or.inl (congrArg some ?_)
      unfold LanNode.left
      split <;> rfl
    | attached found | moved _ _ _ found | resumed _ found =>
      rw [found]
      exact Or.inl rfl

theorem membersOf_retold {next : LanNode} {now : Int} {machineId : Bytes}
    {networks : List (NetworkData × List Bytes)}
    (heard : next.networks.find name = s.retold now machineId networks name) (named : name ≠ []) :
    next.membersOf name = if machineId = s.machineId then s.membersOf name
      else ((lastNamed networks name).map (·.2)).or (s.membersOf name) := by
  rw [membersOf_eq, membersOf_eq, if_neg named, if_neg named, heard, retold]
  split
  · rfl
  · cases lastNamed networks name with
    | none => rfl
    | some network => exact congrArg some (told_members s _)

theorem membersOf_edited {next : LanNode} {other : Bytes} {f : NetworkInfo → NetworkInfo}
    (edited : next.networks.find name =
      if name = other ∧ other ≠ [] then (s.networks.find other).map f else s.networks.find name) :
    next.membersOf name =
      if name = other then (s.getNetwork name).map (fun info => (f info).members) else s.membersOf name := by
  by_cases same : name = other
  · subst same
    rw [membersOf_eq, edited, if_pos rfl, getNetwork]
    by_cases named : name = []
    · simp [named]
    · simp [named, Function.comp_def]
  · rw [if_neg same]
    exact membersOf_congr (by rw [edited, if_neg (fun both => same both.1)])

end LanNode

namespace MemberHistory
variable {h next : MemberHistory} {event : LanWorld × LanInput}

def start (node : LanNode) : MemberHistory := ⟨node, [], []⟩

def step (h : MemberHistory) (event : LanWorld × LanInput) : Option MemberHistory :=
  let next := (h.node.react event.1 event.2).1
  match event.2 with
  | .receive _ (.networkJoin _ networkName taskId) =>
    some ⟨next, (networkName, taskId) :: h.joined, h.left.filter (· ≠ (networkName, taskId))⟩
  | .receive _ (.networkLeave _ networkName taskId) =>
    some ⟨next, h.joined.filter (· ≠ (networkName, taskId)), (networkName, taskId) :: h.left⟩
  | .receive _ (.networkDelete _ networkName) => some ⟨next, h.joined.filter (·.1 ≠ networkName), h.left⟩
  | _ => some { h with node := next }

def Faithful (h : MemberHistory) : Prop :=
  ∀ name members, h.node.membersOf name = some members → RightMembers h.joined h.left name members

/-- What a message of another node tells of the members agrees with what was
heard of the tasks that have joined and left. -/
def Fits (h : MemberHistory) (machineId : Bytes) (networks : List (NetworkData × List Bytes)) : Prop :=
  machineId = h.node.machineId ∨
    (∀ task ∈ h.joined, task.1 ≠ [] → (LanNode.lastNamed networks task.1).all (·.2.count task.2 = 1)) ∧
    (∀ task ∈ h.left, task.1 ≠ [] → (LanNode.lastNamed networks task.1).all (task.2 ∉ ·.2))

/-- A task joins only where it is no member, a message about a network has
the members that are known, and a network is made only where no task has
joined it. -/
def Fair (h : MemberHistory) (event : LanWorld × LanInput) : Prop :=
  match event.2 with
  | .receive _ (.networkJoin _ networkName taskId) => (h.node.membersOf networkName).all (taskId ∉ ·)
  | .receive _ (.networkCreate machineId network) => h.Fits machineId [(network, [])]
  | .receive _ (.networkList machineId networks) => h.Fits machineId networks
  | .call (.createNetworkServer networkName ipCidr wallet) =>
    (h.node.createNetworkServer event.1 networkName ipCidr wallet).isOk → ∀ task ∈ h.joined, task.1 ≠ networkName
  | _ => True

instance (h : MemberHistory) (machineId : Bytes) (networks : List (NetworkData × List Bytes)) :
    Decidable (h.Fits machineId networks) := inferInstanceAs (Decidable (_ ∨ _ ∧ _))

instance (h : MemberHistory) : (event : LanWorld × LanInput) → Decidable (h.Fair event)
  | (_, .receive _ (.networkJoin _ networkName taskId)) =>
    inferInstanceAs (Decidable ((h.node.membersOf networkName).all (taskId ∉ ·) = true))
  | (_, .receive _ (.networkCreate machineId network)) =>
      inferInstanceAs (Decidable (h.Fits machineId [(network, [])]))
  | (_, .receive _ (.networkList machineId networks)) => inferInstanceAs (Decidable (h.Fits machineId networks))
  | (w, .call (.createNetworkServer networkName ipCidr wallet)) => inferInstanceAs (Decidable
      ((h.node.createNetworkServer w networkName ipCidr wallet).isOk = true → ∀ task ∈ h.joined,
        task.1 ≠ networkName))
  | (_, .call (.createNetworkClient ..)) | (_, .call (.deleteNetwork ..)) | (_, .call (.joinRequest ..))
  | (_, .call (.leaveRequest ..)) | (_, .call .init) | (_, .call .exit) | (_, .call .machineExit)
  | (_, .call .machineTimer) | (_, .call .networkTimer) | (_, .call .clearNext) | (_, .call (.moveTimer ..))
  | (_, .call (.endTimer ..)) | (_, .call .resumeTimer)
  | (_, .receive _ (.machineInfo ..)) | (_, .receive _ (.machineExit ..)) | (_, .receive _ (.networkDelete ..))
  | (_, .receive _ (.networkQuery ..)) | (_, .receive _ (.networkMove ..)) | (_, .receive _ (.networkMoveAck ..))
  | (_, .receive _ (.networkLeave ..)) => inferInstanceAs (Decidable True)

theorem Faithful.same (faithful : h.Faithful) {node : LanNode}
    (same : ∀ name, node.membersOf name = h.node.membersOf name) :
    Faithful { h with node := node } :=
  fun name members found => faithful name members ((same name).symm.trans found)

theorem Faithful.retold {node : LanNode} {now : Int} {machineId : Bytes}
    {networks : List (NetworkData × List Bytes)} (faithful : h.Faithful)
    (heard : ∀ name, node.networks.find name = h.node.retold now machineId networks name)
    (fits : h.Fits machineId networks) : Faithful { h with node := node } := by
  intro name members found
  by_cases named : name = []
  · change node.membersOf name = some members at found
    rw [LanNode.membersOf_eq, if_pos named] at found
    cases found
  · change node.membersOf name = some members at found
    rw [LanNode.membersOf_retold (heard name) named] at found
    rcases fits with own | ⟨joined, left⟩
    · rw [if_pos own] at found
      exact faithful name members found
    · split at found
      · exact faithful name members found
      · cases last : LanNode.lastNamed networks name with
        | none =>
          rw [last] at found
          exact faithful name members found
        | some network =>
          rw [last] at found
          cases found
          constructor
          · intro taskId member
            have fitting := joined _ member named
            rw [last] at fitting
            exact of_decide_eq_true fitting
          · intro taskId member
            have fitting := left _ member named
            rw [last] at fitting
            exact of_decide_eq_true fitting

theorem Fits.of_faithful {node : LanNode} {now : Int} {machineId : Bytes}
    {networks : List (NetworkData × List Bytes)}
    (heard : ∀ name, node.networks.find name = h.node.retold now machineId networks name)
    (after : Faithful { h with node := node }) : h.Fits machineId networks := by
  by_cases own : machineId = h.node.machineId
  · exact Or.inl own
  · have known : ∀ {name : Bytes} {network : NetworkData × List Bytes}, name ≠ [] →
        LanNode.lastNamed networks name = some network → RightMembers h.joined h.left name network.2 := by
      intro name network named last
      refine after name network.2 ?_
      change node.membersOf name = some network.2
      rw [LanNode.membersOf_retold (heard name) named, if_neg own, last]
      rfl
    refine Or.inr ⟨fun task member named => ?_, fun task member named => ?_⟩
    · cases last : LanNode.lastNamed networks task.1 with
      | none => rfl
      | some network => exact decide_eq_true ((known named last).joined task.2 member)
    · cases last : LanNode.lastNamed networks task.1 with
      | none => rfl
      | some network => exact decide_eq_true ((known named last).left task.2 member)

theorem Faithful.call {w : LanWorld} {c : LanCall} (faithful : h.Faithful) (fair : h.Fair (w, .call c)) :
    Faithful { h with node := (h.node.call w c).1 } := by
  intro name members found
  change (h.node.call w c).1.membersOf name = some members at found
  rcases LanNode.call_members h.node w c name with same | gone | ⟨ipCidr, wallet, rfl, new⟩
  · exact faithful name members (same.symm.trans found)
  · rw [gone] at found
    cases found
  · cases made : h.node.createNetworkServer w name ipCidr wallet with
    | error text =>
      have refused : h.node.call w (.createNetworkServer name ipCidr wallet) = (h.node, []) := by
        rw [LanNode.call, made]
        rfl
      rw [refused] at found
      exact faithful name members found
    | ok done =>
      rw [new] at found
      cases found
      refine ⟨fun taskId member => ?_, fun taskId member => List.not_mem_nil⟩
      have accepted : (h.node.createNetworkServer w name ipCidr wallet).isOk = true := by
        rw [made]
        rfl
      exact absurd rfl (fair accepted _ member)

/-- A network of its own that a node makes has no members. -/
theorem Faithful.fair_call {w : LanWorld} {c : LanCall} (after : Faithful { h with node := (h.node.call w c).1 }) :
    h.Fair (w, .call c) := by
  cases c with
  | createNetworkServer networkName ipCidr wallet =>
    intro accepted task member same
    cases made : h.node.createNetworkServer w networkName ipCidr wallet with
    | error text =>
      rw [made] at accepted
      cases accepted
    | ok done =>
      obtain ⟨node, sent⟩ := done
      obtain ⟨named, _, _, info, new, rfl, _⟩ := LanNode.createNetworkServer_ok made
      have ran : (h.node.call w (.createNetworkServer networkName ipCidr wallet)).1 =
        h.node.put networkName info := by
        rw [LanNode.call, made]
        rfl
      have fresh : (h.node.put networkName info).membersOf networkName = some [] := by
        rw [LanNode.membersOf_eq, if_neg named, LanNode.find_put, if_pos rfl, Option.map_some, new.members]
      rw [ran] at after
      have once := (after networkName [] fresh).joined task.2 (by rw [← same]; exact member)
      cases once
  | createNetworkClient | deleteNetwork | joinRequest | leaveRequest | init | exit | machineExit | machineTimer
  | networkTimer | clearNext | moveTimer | endTimer | resumeTimer => exact trivial

theorem membersOf_join (s : LanNode) (now : Int) (networkName taskId name : Bytes) :
    (s.joinNetwork now networkName taskId).membersOf name =
      if name = networkName then (s.membersOf name).map (· ++ [taskId]) else s.membersOf name := by
  rw [LanNode.membersOf_edited (LanNode.find_joinNetwork s now networkName taskId name), LanNode.membersOf,
    Option.map_map]
  rfl

theorem membersOf_leave (s : LanNode) (now : Int) (networkName taskId name : Bytes) :
    (s.leaveNetwork now networkName taskId).membersOf name =
      if name = networkName then (s.membersOf name).map (·.filter (· ≠ taskId)) else s.membersOf name := by
  rw [LanNode.membersOf_edited (LanNode.find_leaveNetwork s now networkName taskId name), LanNode.membersOf,
    Option.map_map]
  rfl

/-- A message that says nothing of members. -/
theorem Faithful.received {w : LanWorld} {addr : Bytes} {message : LanMessage} (faithful : h.Faithful)
    (same : ∀ name, (h.node.onMulticastReceive w addr message).1.networks.find name = h.node.networks.find name ∨
      ∃ info, h.node.networks.find name = some info ∧
        ((h.node.onMulticastReceive w addr message).1.networks.find name).map (·.members) = some info.members) :
    Faithful { h with node := (h.node.onMulticastReceive w addr message).1 } := by
  refine faithful.same fun name => ?_
  rcases same name with kept | ⟨info, found, members⟩
  · exact LanNode.membersOf_congr kept
  · rw [LanNode.membersOf_eq, LanNode.membersOf_eq, members, found]
    rfl

theorem Faithful.join {now : Int} {networkName taskId : Bytes} (faithful : h.Faithful)
    (fresh : (h.node.membersOf networkName).all (taskId ∉ ·)) :
    Faithful ⟨h.node.joinNetwork now networkName taskId, (networkName, taskId) :: h.joined,
      h.left.filter (· ≠ (networkName, taskId))⟩ := by
  intro name members found
  change (h.node.joinNetwork now networkName taskId).membersOf name = some members at found
  rw [membersOf_join] at found
  split at found
  · rename_i same
    subst same
    obtain ⟨before, known, rfl⟩ := Option.map_eq_some_iff.mp found
    rw [known] at fresh
    have absent : taskId ∉ before := of_decide_eq_true fresh
    obtain ⟨joined, left⟩ := faithful name before known
    constructor
    · intro other member
      by_cases same : other = taskId
      · rw [same, List.count_append, List.count_eq_zero.mpr absent, List.count_singleton_self]
      · have earlier : (name, other) ∈ h.joined := by simpa [same] using member
        rw [List.count_append, joined other earlier, List.count_eq_zero.mpr (by simp [same])]
    · intro other member
      obtain ⟨earlier, different⟩ := List.mem_filter.mp member
      have apart : other ≠ taskId := by simpa using different
      simp [left other earlier, apart]
  · rename_i apart
    obtain ⟨joined, left⟩ := faithful name members found
    constructor
    · intro other member
      exact joined other (by simpa [apart] using member)
    · intro other member
      exact left other (List.mem_filter.mp member).1

theorem Faithful.fresh {now : Int} {networkName taskId : Bytes}
    (after : Faithful ⟨h.node.joinNetwork now networkName taskId, (networkName, taskId) :: h.joined,
      h.left.filter (· ≠ (networkName, taskId))⟩) : (h.node.membersOf networkName).all (taskId ∉ ·) := by
  cases known : h.node.membersOf networkName with
  | none => rfl
  | some before =>
    have found : (h.node.joinNetwork now networkName taskId).membersOf networkName = some (before ++ [taskId]) := by
      rw [membersOf_join, if_pos rfl, known]
      rfl
    have once := (after networkName _ found).joined taskId List.mem_cons_self
    rw [List.count_append, List.count_singleton_self] at once
    have absent : taskId ∉ before := List.count_eq_zero.mp (by omega)
    exact decide_eq_true absent

theorem Faithful.leave {now : Int} {networkName taskId : Bytes} (faithful : h.Faithful) :
    Faithful ⟨h.node.leaveNetwork now networkName taskId, h.joined.filter (· ≠ (networkName, taskId)),
      (networkName, taskId) :: h.left⟩ := by
  intro name members found
  change (h.node.leaveNetwork now networkName taskId).membersOf name = some members at found
  rw [membersOf_leave] at found
  split at found
  · rename_i same
    subst same
    obtain ⟨before, known, rfl⟩ := Option.map_eq_some_iff.mp found
    obtain ⟨joined, left⟩ := faithful name before known
    constructor
    · intro other member
      obtain ⟨earlier, different⟩ := List.mem_filter.mp member
      have apart : other ≠ taskId := by simpa using different
      rw [List.count_filter (by simp [apart]), joined other earlier]
    · intro other member inside
      obtain ⟨there, different⟩ := List.mem_filter.mp inside
      have apart : other ≠ taskId := of_decide_eq_true different
      exact left other (by simpa [apart] using member) there
  · rename_i apart
    obtain ⟨joined, left⟩ := faithful name members found
    constructor
    · intro other member
      exact joined other (List.mem_filter.mp member).1
    · intro other member
      exact left other (by simpa [apart] using member)

theorem Faithful.drop {networkName : Bytes} (faithful : h.Faithful) :
    Faithful ⟨h.node.drop networkName, h.joined.filter (·.1 ≠ networkName), h.left⟩ := by
  intro name members found
  change (h.node.drop networkName).membersOf name = some members at found
  rw [LanNode.membersOf_eq, LanNode.find_drop] at found
  split at found
  · cases found
  · rename_i named
    split at found
    · cases found
    · have before : h.node.membersOf name = some members := by
        rw [LanNode.membersOf_eq, if_neg named]
        exact found
      obtain ⟨joined, left⟩ := faithful name members before
      exact ⟨fun taskId member => joined taskId (List.mem_filter.mp member).1, left⟩

/-- The step of a message, in both directions. -/
theorem Faithful.receive_iff {w : LanWorld} {addr : Bytes} {message : LanMessage} (faithful : h.Faithful)
    (ran : h.step (w, .receive addr message) = some next) : next.Faithful ↔ h.Fair (w, .receive addr message) := by
  cases message with
  | machineInfo =>
    cases ran
    refine ⟨fun _ => trivial, fun _ => faithful.received fun name => Or.inl ?_⟩
    simp only [LanNode.onMulticastReceive, LanNode.addLanNode]
    split <;> rfl
  | machineExit =>
    cases ran
    refine ⟨fun _ => trivial, fun _ => faithful.received fun name => Or.inl ?_⟩
    simp only [LanNode.onMulticastReceive, LanNode.deleteLanNode]
    split <;> rfl
  | networkQuery =>
    cases ran
    refine ⟨fun _ => trivial, fun _ => faithful.received fun name => Or.inl ?_⟩
    rw [LanNode.onMulticastReceive]
    split <;> rfl
  | networkMove machineId networkName newMachineId queue =>
    cases ran
    refine ⟨fun _ => trivial, fun _ => faithful.received fun name => ?_⟩
    rcases LanNode.find_receive_move h.node w addr machineId networkName newMachineId queue name with
      kept | ⟨_, rfl, info, found, taken⟩
    · exact Or.inl kept
    · exact Or.inr ⟨info, found, by rw [taken]; rfl⟩
  | networkMoveAck machineId networkName newMachineId =>
    cases ran
    refine ⟨fun _ => trivial, fun _ => faithful.received fun name => ?_⟩
    rw [LanNode.onMulticastReceive, LanNode.removeMoveTimer_networks, LanNode.find_moveNetworkAck]
    split
    · rename_i applies
      obtain ⟨rfl, _⟩ := applies
      cases found : h.node.networks.find name with
      | none => exact Or.inl rfl
      | some info => exact Or.inr ⟨info, rfl, rfl⟩
    · exact Or.inl rfl
  | networkCreate machineId network =>
    cases ran
    have heard := fun name => LanNode.find_receive_create h.node w addr machineId network name
    exact ⟨fun after => Fits.of_faithful heard after, fun fits => faithful.retold heard fits⟩
  | networkList machineId networks =>
    cases ran
    have heard := fun name => LanNode.find_receive_list h.node w addr machineId networks name
    exact ⟨fun after => Fits.of_faithful heard after, fun fits => faithful.retold heard fits⟩
  | networkDelete machineId networkName =>
    cases ran
    exact ⟨fun _ => trivial, fun _ => faithful.drop⟩
  | networkJoin machineId networkName taskId =>
    cases ran
    exact ⟨fun after => after.fresh, fun fresh => faithful.join fresh⟩
  | networkLeave machineId networkName taskId =>
    cases ran
    exact ⟨fun _ => trivial, fun _ => faithful.leave⟩

theorem Faithful.step_iff (faithful : h.Faithful) (ran : h.step event = some next) :
    next.Faithful ↔ h.Fair event := by
  obtain ⟨w, input⟩ := event
  cases input with
  | call c =>
    cases ran
    exact ⟨fun after => after.fair_call, fun fair => faithful.call fair⟩
  | receive addr message => exact faithful.receive_iff ran

/-- In every run whose joins are new, whose messages about networks have the
members that are known, and in which no network is made anew that tasks have
joined, a task that has joined is a member once and one that has left is
not; and from each state of such a run the next step keeps this exactly
where it is such a step too. -/
theorem members_not_lost {node : LanNode} {trace : List (LanWorld × LanInput)}
    (run : Run step Fair (start node) trace h) :
    h.Faithful ∧ ∀ event next, h.step event = some next → (next.Faithful ↔ h.Fair event) := by
  have first : (start node).Faithful := fun name members _ => ⟨nofun, nofun⟩
  have faithful : h.Faithful := run.invariant first fun faithful fair ran => (faithful.step_iff ran).mpr fair
  exact ⟨faithful, fun event next ran => faithful.step_iff ran⟩

/-- A network of another node, which a task joins. -/
def oneJoin : List (LanWorld × LanInput) :=
  [(.fine 1 [], .receive (str "b") (.networkCreate (str "b") ⟨str "network", [], [], [], [], [], [], [], [], 0⟩)),
    (.fine 2 [], .receive (str "b") (.networkJoin (str "b") (str "network") (str "task")))]

/-- The owner then lists the network with the task. -/
def listedJoin : List (LanWorld × LanInput) :=
  oneJoin ++ [(.fine 3 [], .receive (str "b") (.networkList (str "b")
    [(⟨str "network", [], [], [], [], [], [], [], [], 2⟩, [str "task"])]))]

theorem members_not_lost_one : ∃ h, Run step Fair (start (.fresh (str "a"))) listedJoin.reverse h ∧
    (str "network", str "task") ∈ h.joined ∧ h.node.membersOf (str "network") = some [str "task"] ∧ h.Faithful := by
  have outcome :
    (runAll (guarded step fun h event => decide (h.Fair event)) (start (.fresh (str "a"))) listedJoin).any
      (fun h => decide ((str "network", str "task") ∈ h.joined ∧ h.node.membersOf (str "network") =
        some [str "task"])) =
      true := by decide +kernel
  obtain ⟨h, ran, facts⟩ := (Option.any_eq_true _ _).mp outcome
  obtain ⟨joined, members⟩ := of_decide_eq_true facts
  have run : Run step Fair _ (listedJoin.reverse ++ []) h :=
    Run.of_guarded (fun _ _ => of_decide_eq_true) listedJoin .start ran
  rw [List.append_nil] at run
  exact ⟨h, run, joined, members, (members_not_lost run).1⟩

/-- The same `network create` once more, and the task is no member. -/
theorem member_lost : ∃ trace h, Reaches step (start (.fresh (str "a"))) trace h ∧
    (str "network", str "task") ∈ h.joined ∧ h.node.membersOf (str "network") = some [] ∧ ¬ h.Faithful := by
  have outcome : (runAll step (start (.fresh (str "a"))) (oneJoin ++ oneJoin.take 1)).any
      (fun h => decide ((str "network", str "task") ∈ h.joined ∧ h.node.membersOf (str "network") = some [])) =
        true := by
    decide +kernel
  obtain ⟨h, ran, facts⟩ := (Option.any_eq_true _ _).mp outcome
  obtain ⟨joined, members⟩ := of_decide_eq_true facts
  refine ⟨_, h, Reaches.of_runAll _ .start ran, joined, members, fun faithful => ?_⟩
  have once := (faithful _ _ members).joined _ joined
  cases once

end MemberHistory

end DbcNode
