import DbcNode.Lan.Records

namespace DbcNode

/-- What happens to a node: a call of its own, or a message of any node. -/
inductive LanInput
  | call (c : LanCall)
  | receive (addr : Bytes) (message : LanMessage)
  deriving DecidableEq

def LanNode.react (s : LanNode) (w : LanWorld) : LanInput → LanSent
  | .call c => s.call w c
  | .receive addr message => s.onMulticastReceive w addr message

/-- Whether the next turn of the clearing takes a network out of the
table. -/
def LanNode.clears (s : LanNode) : Bool :=
  match s.clearing with
  | .empties (network :: _) => (s.deleteNetwork network.1 network.2).isOk
  | .expireds (networkName :: _) => (s.networks.find networkName).isSome
  | _ => false

/-- Whether a call takes a network out of the table. -/
def LanNode.removes (s : LanNode) : LanCall → Bool
  | .deleteNetwork networkName wallet => (s.deleteNetwork networkName wallet).isOk
  | .clearNext => s.clears
  | .createNetworkServer .. | .createNetworkClient .. | .joinRequest .. | .leaveRequest .. | .init | .exit
    | .machineExit
  | .machineTimer | .networkTimer | .moveTimer .. | .endTimer .. | .resumeTimer => false

/-- The tick of the service calls the callback for a timer that is due. -/
def LanNode.Calls (s : LanNode) (timer : MoveTimer) : Prop :=
  timer ∈ s.timers ∧ timer.id ∉ s.ranOut ∧ timer.name ∈ s.moveInvokers

instance (s : LanNode) (timer : MoveTimer) : Decidable (s.Calls timer) := inferInstanceAs (Decidable (_ ∧ _ ∧ _))

/-- The network that `ClearExpiredNetwork` has collected and comes to
next. -/
def LanNode.expiring (s : LanNode) : Option Bytes :=
  match s.clearing with
  | .expireds (networkName :: _) => some networkName
  | _ => none

/-- What a call can do to the record of a network. -/
inductive CallStep (s : LanNode) (w : LanWorld) (name : Bytes) : LanCall → Option NetworkInfo → Prop
  | same (c : LanCall) : CallStep s w name c (s.networks.find name)
  | made {ipCidr wallet : Bytes} {info : NetworkInfo} (named : name ≠ []) (fresh : s.networks.find name = none)
      (new : s.Made name ipCidr wallet info) :
        CallStep s w name (.createNetworkServer name ipCidr wallet) (some info)
  | attached {info : NetworkInfo} (found : s.networks.find name = some info) :
      CallStep s w name (.createNetworkClient name)
        (some { info with nativeFlags := { info.nativeFlags with device := true } })
  | removed {c : LanCall} {info : NetworkInfo} (removes : s.removes c) (found : s.networks.find name = some info)
      (unused : info.members = [] ∨ c = .clearNext ∧ s.expiring = some name) : CallStep s w name c none
  | left {info : NetworkInfo} (found : s.networks.find name = some info) (leaves : s.leaves info) :
      CallStep s w name .exit (some (s.left info))
  | moved {timer : MoveTimer} {info : NetworkInfo} (called : s.Calls timer) (named : timer.name = name)
      (able : (s.moveNetwork w name s.machineId).isOk) (found : s.networks.find name = some info) :
      CallStep s w name (.moveTimer timer) (some (info.taken s.machineId))
  | resumed {info : NetworkInfo} (able : (s.moveNetwork w name s.machineId).isOk)
      (found : s.networks.find name = some info) (vacant : info.machineId = []) :
        CallStep s w name .resumeTimer (some (info.taken s.machineId))

namespace LanNode
variable {s next : LanNode} {w : LanWorld} {name : Bytes}

/-- Nothing but the records of these networks has changed, and they are the
node's now. -/
structure TakesOver (s : LanNode) (w : LanWorld) (next : LanNode) (names : List Bytes) : Prop where
  edits : s.Edits next
  records : ∀ name, next.networks.find name = s.networks.find name ∨
    name ∈ names ∧ (s.moveNetwork w name s.machineId).isOk ∧ ∃ info, s.networks.find name = some info ∧
      next.networks.find name = some (info.taken s.machineId)

theorem TakesOver.none (s : LanNode) (w : LanWorld) : s.TakesOver w s [] := ⟨.refl s, fun _ => Or.inl rfl⟩

theorem TakesOver.machineId {names : List Bytes} (gained : s.TakesOver w next names) :
    next.machineId = s.machineId :=
  gained.edits.machineId

theorem TakesOver.takeOver (s : LanNode) (w : LanWorld) (name : Bytes) :
    s.TakesOver w (s.takeOver w name).1 [name] := by
  rcases takeOver_cases s w name with ⟨next, info, able, _, found, rfl, ran⟩ | ⟨_, ran⟩
  · rw [ran]
    refine ⟨.put _ _ _, fun other => ?_⟩
    rw [find_put]
    split
    · rename_i same
      rw [same]
      exact Or.inr ⟨List.mem_singleton_self name, able, info, found, rfl⟩
    · exact Or.inl rfl
  · rw [ran]
    exact ⟨.refl s, fun _ => Or.inl rfl⟩

theorem TakesOver.trans {last : LanNode} {names more : List Bytes} (first : s.TakesOver w next names)
    (second : next.TakesOver w last more) : s.TakesOver w last (names ++ more) := by
  refine ⟨first.edits.trans second.edits, fun name => ?_⟩
  rcases second.records name with same | ⟨member, able, info, found, taken⟩
  · rcases first.records name with kept | ⟨member, able, info, found, taken⟩
    · exact Or.inl (same.trans kept)
    · exact Or.inr ⟨List.mem_append_left _ member, able, info, found, same.trans taken⟩
  · refine Or.inr ⟨List.mem_append_right _ member, ?_⟩
    rw [first.machineId] at taken
    rcases first.records name with kept | ⟨_, before, old, present, again⟩
    · rw [moveNetwork_isOk_congr first.edits.isSameHost kept] at able
      exact ⟨able, info, kept.symm.trans found, taken⟩
    · rw [again] at found
      cases found
      exact ⟨before, old, present, taken⟩

theorem TakesOver.each (w : LanWorld) (names : List Bytes) (done : LanSent) :
    done.1.TakesOver w (names.foldl (fun done networkName =>
      let next := done.1.takeOver w networkName
      (next.1, done.2 ++ next.2)) done).1 names := by
  induction names generalizing done with
  | nil => exact .none done.1 w
  | cons name names ih =>
    have later := ih ((done.1.takeOver w name).1, done.2 ++ (done.1.takeOver w name).2)
    exact (TakesOver.takeOver done.1 w name).trans later

theorem TakesOver.resume (s : LanNode) (w : LanWorld) :
    s.TakesOver w (s.onMulticastNetworkResumeTaskTimer w).1
      ((s.networks.entries.filter (·.2.machineId = [])).map (·.1)) :=
  .each w _ (s, [])

theorem toOption_getD {ε α : Type} (result : Except ε α) (a : α) :
    result.toOption.getD a = a ∨ ∃ b, result = .ok b ∧ result.toOption.getD a = b := by
  cases result with
  | error e => exact Or.inl rfl
  | ok b => exact Or.inr ⟨b, rfl, rfl⟩

/-- A turn of the clearing takes at most one network out. -/
theorem clearNext_record (s : LanNode) (w : LanWorld) (name : Bytes) :
    CallStep s w name .clearNext ((s.clearNext w.now).1.networks.find name) := by
  cases clearing : s.clearing with
  | idle =>
    rw [clearNext, clearing]
    exact .same _
  | empties networks =>
    cases networks with
    | nil =>
      rw [clearNext, clearing]
      exact .same _
    | cons network rest =>
      rw [clearNext, clearing]
      dsimp only
      rcases toOption_getD (s.deleteNetwork network.1 network.2) (s, []) with refused | ⟨⟨next, sent⟩, deleted, ran⟩
      · rw [refused]
        exact .same _
      · obtain ⟨info, found, unused, rfl, _⟩ := deleteNetwork_ok deleted
        rw [ran, find_drop]
        split
        · rename_i same
          subst same
          refine .removed ?_ found (Or.inl unused)
          rw [removes, clears, clearing]
          dsimp only
          rw [deleted]
          rfl
        · exact .same _
  | expireds networks =>
    cases networks with
    | nil =>
      rw [clearNext, clearing]
      exact .same _
    | cons networkName rest =>
      rw [clearNext, clearing]
      change CallStep s w name _ ((s.drop networkName).networks.find name)
      rw [find_drop]
      split
      · rename_i same
        subst same
        cases found : s.networks.find name with
        | none =>
          rw [← found]
          exact .same _
        | some info =>
          refine .removed ?_ found (Or.inr ⟨rfl, by rw [expiring, clearing]⟩)
          rw [removes, clears, clearing]
          dsimp only
          rw [found]
          rfl
      · exact .same _

theorem createNetworkServer_record (s : LanNode) (w : LanWorld) (networkName ipCidr wallet name : Bytes) :
    CallStep s w name (.createNetworkServer networkName ipCidr wallet)
      ((s.call w (.createNetworkServer networkName ipCidr wallet)).1.networks.find name) := by
  rcases toOption_getD (s.createNetworkServer w networkName ipCidr wallet) (s, []) with
    refused | ⟨⟨next, sent⟩, made, ran⟩
  · rw [call, refused]
    exact .same _
  · obtain ⟨named, fresh, _, info, new, rfl, _⟩ := createNetworkServer_ok made
    rw [call, ran, find_put]
    split
    · rename_i same
      subst same
      exact .made named fresh new
    · exact .same _

theorem createNetworkClient_record (s : LanNode) (w : LanWorld) (networkName name : Bytes) :
    CallStep s w name (.createNetworkClient networkName)
      ((s.call w (.createNetworkClient networkName)).1.networks.find name) := by
  rcases toOption_getD (s.createNetworkClient w networkName) s with refused | ⟨next, made, ran⟩
  · rw [call, refused]
    exact .same _
  · rw [call, ran]
    rcases createNetworkClient_ok made with same | ⟨info, found, rfl⟩
    · rw [same]
      exact .same _
    · rw [find_put]
      split
      · rename_i same
        subst same
        exact .attached found
      · exact .same _

theorem deleteNetwork_record (s : LanNode) (w : LanWorld) (networkName wallet name : Bytes) :
    CallStep s w name (.deleteNetwork networkName wallet)
      ((s.call w (.deleteNetwork networkName wallet)).1.networks.find name) := by
  rcases toOption_getD (s.deleteNetwork networkName wallet) (s, []) with refused | ⟨⟨next, sent⟩, deleted, ran⟩
  · rw [call, refused]
    exact .same _
  · obtain ⟨info, found, unused, rfl, _⟩ := deleteNetwork_ok deleted
    rw [call, ran, find_drop]
    split
    · rename_i same
      subst same
      exact .removed (by rw [removes, deleted]; rfl) found (Or.inl unused)
    · exact .same _

theorem exit_record (s : LanNode) (w : LanWorld) (name : Bytes) :
    CallStep s w name .exit ((s.call w .exit).1.networks.find name) := by
  rw [call, find_exit]
  cases found : s.networks.find name with
  | none =>
    rw [Option.map_none, ← found]
    exact .same _
  | some info =>
    by_cases leaves : s.leaves info
    · exact .left found leaves
    · rw [Option.map_some, LanNode.left, if_neg leaves, ← found]
      exact .same _

/-- A timer whose callback is called takes its own network over, and no
other. -/
theorem moveTimer_record (s : LanNode) (w : LanWorld) (timer : MoveTimer) (name : Bytes) :
    CallStep s w name (.moveTimer timer) ((s.call w (.moveTimer timer)).1.networks.find name) := by
  rw [call]
  split
  · rename_i due
    rw [onTimerTick]
    dsimp only
    split
    · rename_i called
      change CallStep s w name _ ((s.takeOver w timer.name).1.networks.find name)
      rcases (TakesOver.takeOver s w timer.name).records name with same | ⟨member, able, info, found, taken⟩
      · rw [same]
        exact .same _
      · rw [taken]
        exact .moved ⟨due.1, due.2, called⟩ (List.mem_singleton.mp member).symm able found
    · exact .same _
  · exact .same _

theorem endTimer_record (s : LanNode) (w : LanWorld) (timerId : Nat) (name : Bytes) :
    CallStep s w name (.endTimer timerId) ((s.call w (.endTimer timerId)).1.networks.find name) := by
  rw [call]
  split
  · rw [show (s.endTimer timerId).networks = s.networks from removeTimer_networks s timerId]
    exact .same _
  · exact .same _

theorem resumeTimer_record (s : LanNode) (w : LanWorld) (name : Bytes) :
    CallStep s w name .resumeTimer ((s.call w .resumeTimer).1.networks.find name) := by
  rcases (TakesOver.resume s w).records name with same | ⟨member, able, info, found, taken⟩
  · rw [call, same]
    exact .same _
  · obtain ⟨entry, inside, rfl⟩ := List.mem_map.mp member
    obtain ⟨present, vacant⟩ := List.mem_filter.mp inside
    have there := OrdMap.find_eq_some.mpr present
    rw [found] at there
    cases there
    rw [call, taken]
    exact .resumed able found (of_decide_eq_true vacant)

/-- What a call does to each record, one lemma for each call that does
anything. -/
theorem call_record (s : LanNode) (w : LanWorld) (c : LanCall) (name : Bytes) :
    CallStep s w name c ((s.call w c).1.networks.find name) := by
  cases c with
  | createNetworkServer networkName ipCidr wallet =>
    exact createNetworkServer_record s w networkName ipCidr wallet name
  | createNetworkClient networkName => exact createNetworkClient_record s w networkName name
  | deleteNetwork networkName wallet => exact deleteNetwork_record s w networkName wallet name
  | joinRequest | leaveRequest | init | machineExit | machineTimer => exact .same _
  | exit => exact exit_record s w name
  | networkTimer =>
    rw [call, onMulticastNetworkTaskTimer]
    split <;> exact .same _
  | clearNext => exact clearNext_record s w name
  | moveTimer timer => exact moveTimer_record s w timer name
  | endTimer timerId => exact endTimer_record s w timerId name
  | resumeTimer => exact resumeTimer_record s w name

/-- Of two networks with one name in a message the later one counts. -/
def lastNamed (networks : List (NetworkData × List Bytes)) (name : Bytes) : Option (NetworkData × List Bytes) :=
  (networks.filter (·.1.networkName = name)).getLast?

/-- The record of a network after a message that tells of these. -/
def retold (s : LanNode) (now : Int) (machineId : Bytes) (networks : List (NetworkData × List Bytes))
    (name : Bytes) :
    Option NetworkInfo :=
  if machineId = s.machineId then s.networks.find name
  else ((lastNamed networks name).map fun network => s.told (network.1.info machineId network.2 now)).or
    (s.networks.find name)

theorem onListed_told (s : LanNode) (now : Int) (machineId : Bytes) (network : NetworkData × List Bytes) :
    (s.onListed now machineId network).told = s.told := by
  have same : (s.onListed now machineId network).isSameHost = s.isSameHost := by
    rw [onListed, addNetworkFromMulticast_eq]
    unfold removeMoveTimer removeTimer
    split <;> split <;> (try split) <;> rfl
  funext info
  unfold told
  rw [same]

theorem find_listEach (now : Int) (machineId : Bytes) (networks : List (NetworkData × List Bytes)) (s : LanNode)
    (name : Bytes) : (networks.foldl (fun s network => s.onListed now machineId network) s).networks.find name =
      s.retold now machineId networks name := by
  induction networks generalizing s with
  | nil => simp [retold, lastNamed]
  | cons network networks ih =>
    rw [List.foldl_cons, ih]
    unfold retold
    rw [onListed_machineId, onListed_told, find_onListed]
    by_cases own : machineId = s.machineId
    · simp [own]
    · simp only [own, if_false, ne_eq, not_false_eq_true, true_and]
      by_cases same : name = network.1.networkName
      · have filtered : lastNamed (network :: networks) name = (lastNamed networks name).or (some network) := by
          rw [lastNamed, List.filter_cons_of_pos (by simp [same]), List.getLast?_cons, lastNamed]
          cases (networks.filter _).getLast? <;> rfl
        rw [if_pos same, filtered]
        cases lastNamed networks name <;> rfl
      · have filtered : lastNamed (network :: networks) name = lastNamed networks name := by
          rw [lastNamed, List.filter_cons_of_neg (by simp [Ne.symm same]), lastNamed]
        rw [if_neg same, filtered]

theorem find_receive_create (s : LanNode) (w : LanWorld) (addr machineId : Bytes) (network : NetworkData)
    (name : Bytes) : (s.onMulticastReceive w addr (.networkCreate machineId network)).1.networks.find name =
      s.retold w.now machineId [(network, [])] name := by
  change (s.addNetworkFromMulticast _).networks.find name = _
  rw [find_addNetworkFromMulticast, retold, lastNamed]
  change (if machineId ≠ s.machineId ∧ name = network.networkName then _ else _) = _
  by_cases own : machineId = s.machineId
  · simp [own]
  · by_cases same : name = network.networkName
    · simp [own, same]
    · simp [own, same, Ne.symm same]

theorem find_receive_list (s : LanNode) (w : LanWorld) (addr machineId : Bytes)
    (networks : List (NetworkData × List Bytes)) (name : Bytes) :
    (s.onMulticastReceive w addr (.networkList machineId networks)).1.networks.find name =
      s.retold w.now machineId networks name :=
  find_listEach w.now machineId networks s name

theorem retold_isSome {now : Int} {machineId : Bytes} {networks : List (NetworkData × List Bytes)}
    (present : (s.networks.find name).isSome) : (s.retold now machineId networks name).isSome := by
  unfold retold
  split
  · exact present
  · cases lastNamed networks name with
    | none => exact present
    | some network => rfl

theorem find_moveNetworkAck (s : LanNode) (name newMachineId other : Bytes) :
    (s.moveNetworkAck name newMachineId).networks.find other =
      if other = name ∧ name ≠ [] ∧ newMachineId ≠ s.machineId then
        (s.networks.find name).map fun info =>
          { info with machineId := newMachineId, nativeFlags := { info.nativeFlags with dhcpServer := false } }
      else s.networks.find other := by
  unfold moveNetworkAck
  split
  · rename_i missing
    split
    · rename_i applies
      obtain ⟨rfl, named, _⟩ := applies
      simp only [getNetwork, named, if_false] at missing
      rw [missing, Option.map_none]
    · rfl
  · rename_i info found
    obtain ⟨named, found⟩ := getNetwork_eq_some.mp found
    by_cases own : newMachineId = s.machineId
    · simp [own]
    · by_cases same : other = name
      · simp [own, same, named, found]
      · simp [own, same]

/-- A change to the record of one network, where there is one. -/
theorem find_edited (f : NetworkInfo → NetworkInfo) (s : LanNode) (name other : Bytes) :
    (match s.getNetwork name with | none => s | some info => s.put name (f info)).networks.find other =
      if other = name ∧ name ≠ [] then (s.networks.find name).map f else s.networks.find other := by
  split
  · rename_i missing
    split
    · rename_i applies
      obtain ⟨rfl, named⟩ := applies
      simp only [getNetwork, named, if_false] at missing
      rw [missing, Option.map_none]
    · rfl
  · rename_i info found
    obtain ⟨named, found⟩ := getNetwork_eq_some.mp found
    by_cases same : other = name
    · simp [same, named, found]
    · simp [same]

theorem find_joinNetwork (s : LanNode) (now : Int) (name taskId other : Bytes) :
    (s.joinNetwork now name taskId).networks.find other =
      if other = name ∧ name ≠ [] then
        (s.networks.find name).map fun info => { info with members := info.members ++ [taskId], lastUseTime := now }
      else s.networks.find other :=
  find_edited _ s name other

theorem find_leaveNetwork (s : LanNode) (now : Int) (name taskId other : Bytes) :
    (s.leaveNetwork now name taskId).networks.find other =
      if other = name ∧ name ≠ [] then
        (s.networks.find name).map fun info =>
          { info with members := info.members.filter (· ≠ taskId), lastUseTime := now }
      else s.networks.find other :=
  find_edited _ s name other

/-- A `network move` starts timers; one of an earlier version can make the
node the owner. -/
theorem find_receive_move (s : LanNode) (w : LanWorld) (addr machineId name newMachineId : Bytes)
    (queue : List Bytes) (other : Bytes) :
    (s.onMulticastReceive w addr (.networkMove machineId name newMachineId queue)).1.networks.find other =
        s.networks.find other ∨
      newMachineId = s.machineId ∧ other = name ∧ ∃ info, s.networks.find name = some info ∧
        (s.onMulticastReceive w addr (.networkMove machineId name newMachineId queue)).1.networks.find other =
          some (info.taken s.machineId) := by
  change ((queue.zipIdx.foldl (onCandidate name)
    (s.onMoveTo w machineId name newMachineId).1).networks.find other = _) ∨
    _ ∧ _ ∧ ∃ info, _ ∧
      (queue.zipIdx.foldl (onCandidate name) (s.onMoveTo w machineId name newMachineId).1).networks.find other = _
  rw [(onCandidates_networks name queue.zipIdx _).1]
  unfold onMoveTo
  split
  · rename_i own
    split
    · rename_i done moved
      obtain ⟨next, sent⟩ := done
      obtain ⟨_, _, info, found, rfl, _⟩ := moveNetwork_ok moved
      rw [find_put]
      split
      · rename_i same
        exact Or.inr ⟨own, same, info, found, rfl⟩
      · exact Or.inl rfl
    · exact Or.inl rfl
  · exact Or.inl rfl

end LanNode

end DbcNode
