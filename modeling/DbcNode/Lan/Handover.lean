import DbcNode.Lan.Receives
import DbcNode.Lan.Timers
import DbcNode.Lib.Ledger

namespace DbcNode

/-- The owner in the record of a network. -/
def LanNode.ownerOf (s : LanNode) (name : Bytes) : Option Bytes := (s.networks.find name).map (·.machineId)

/-- The node has itself as the owner in its record. -/
def LanNode.claims (s : LanNode) (name : Bytes) : Bool := s.ownerOf name = some s.machineId

/-- Whom a message tells to be the owner of which networks. -/
def LanMessage.owner : LanMessage → Bytes × List Bytes
  | .networkCreate machineId network => (machineId, [network.networkName])
  | .networkList machineId networks => (machineId, networks.map (·.1.networkName))
  | .networkMoveAck _ networkName newMachineId => (newMachineId, [networkName])
  | _ => ([], [])

/-- The sender of a message that moves a network or acknowledges it. -/
def LanMessage.mover (name : Bytes) : LanMessage → Option Bytes
  | .networkMove machineId networkName _ _ => if networkName = name then some machineId else none
  | .networkMoveAck machineId networkName _ => if networkName = name then some machineId else none
  | _ => none

def GroupEvent.node : GroupEvent → Bytes
  | .call id _ _ => id
  | .deliver id _ _ _ => id

namespace LanGroup

/-- A candidate timer of the node for the network has yet to run, and there
is a callback for it. -/
def waits (g : LanGroup) (name id : Bytes) : Bool := (g.nodes id).waitsFor name

/-- The node has yet to handle a `network move` that makes it a
candidate. -/
def awaits (g : LanGroup) (name id : Bytes) : Bool :=
  g.sent.zipIdx.any fun
    | (.networkMove _ networkName _ queue, k) => networkName = name ∧ id ∈ queue.take 3 ∧ (id, k) ∉ g.handled
    | _ => false

/-- The node may still take the network over. -/
def hope (g : LanGroup) (name id : Bytes) : Bool := g.waits name id || g.awaits name id

/-- Another node may still take the network over. -/
def hopeBesides (g : LanGroup) (name id : Bytes) : Bool := g.ids.any fun other => other ≠ id && g.hope name other

/-- The node runs the DHCP server of the network. -/
def serves (g : LanGroup) (name id : Bytes) : Prop :=
  ∃ info, (g.nodes id).networks.find name = some info ∧ info.nativeFlags.dhcpServer = true

def OneServer (g : LanGroup) : Prop :=
  ∀ name, ∀ first ∈ g.ids, ∀ second ∈ g.ids, g.serves name first → g.serves name second → first = second

/-- Each `network move` and acknowledgement of the network was handled by
every other node, and every candidate timer for it has run or was
stopped. -/
def MovesDone (g : LanGroup) (name : Bytes) : Prop :=
  (∀ k message sender, g.sent[k]? = some message → message.mover name = some sender →
    ∀ id ∈ g.ids, id ≠ sender → (id, k) ∈ g.handled) ∧
  ∀ id ∈ g.ids, g.waits name id = false

def SameOwner (g : LanGroup) (name : Bytes) : Prop :=
  ∀ first ∈ g.ids, ∀ second ∈ g.ids, ∀ info other, (g.nodes first).networks.find name = some info →
    (g.nodes second).networks.find name = some other → info.machineId = other.machineId

end LanGroup

/-- A group with the nodes that have taken each network over, the one in
whose charge it is, the number of the take-over that the record of each node
is from, and for each message the numbers that its sender knew. -/
structure OwnHistory where
  group : LanGroup
  takers : Bytes → List Bytes
  holder : Bytes → Option Bytes
  term : Bytes → Bytes → Nat
  tags : List (Bytes → Nat)

namespace OwnHistory

def start (group : LanGroup) : OwnHistory := ⟨group, fun _ => [], fun _ => none, fun _ _ => 0, []⟩

/-- The number of the take-over that a message of another node tells of. -/
def heard (h : OwnHistory) (name : Bytes) : GroupEvent → Option Nat
  | .call .. => none
  | .deliver id _ _ k =>
    match h.group.sent[k]?, h.tags[k]? with
    | some message, some tag =>
      if message.owner.1 ≠ id ∧ name ∈ message.owner.2 then some (tag name) else none
    | _, _ => none

/-- The node gives the network up. -/
def leaves (h : OwnHistory) (name : Bytes) : GroupEvent → Bool
  | .call id _ .exit => ((h.group.nodes id).networks.find name).any (h.group.nodes id).leaves
  | _ => false

/-- The node comes to own the network. -/
def gains (h : OwnHistory) (id : Bytes) (next : LanNode) (name : Bytes) : Bool :=
  next.claims name && !(h.group.nodes id).claims name

def advance (h : OwnHistory) (event : GroupEvent) (group : LanGroup) : OwnHistory :=
  let gains := h.gains event.node (group.nodes event.node)
  let term := fun name =>
    if gains name then (h.takers name).length + 1 else (h.heard name event).getD (h.term name event.node)
  { group := group
    takers := fun name => if gains name then h.takers name ++ [event.node] else h.takers name
    holder := fun name =>
      if gains name then some event.node else if h.leaves name event then none else h.holder name
    term := fun name => Function.update (h.term name) event.node (term name)
    tags := h.tags ++ List.replicate (group.sent.length - h.group.sent.length) term }

def step (h : OwnHistory) (event : GroupEvent) : Option OwnHistory := (h.group.step event).map (h.advance event)

/-- A call keeps the order: a network is made under a new name, a timer
takes a network over only where it is in no other node's charge, whoever
gives it up, fails to take it over or loses the callback for it leaves
another candidate, and no network is removed. -/
def OrderlyCall (h : OwnHistory) (id : Bytes) (w : LanWorld) : LanCall → Prop
  | .createNetworkServer networkName ipCidr wallet =>
    ((h.group.nodes id).createNetworkServer w networkName ipCidr wallet).isOk → h.takers networkName = []
  | .moveTimer timer =>
    (h.group.nodes id).Calls timer →
      if ((h.group.nodes id).moveNetwork w timer.name id).isOk then
        h.holder timer.name = none ∨ h.holder timer.name = some id
      else h.holder timer.name = none → h.group.hopeBesides timer.name id
  | .resumeTimer => ∀ entry ∈ (h.group.nodes id).networks.entries, entry.2.machineId = [] →
      ((h.group.nodes id).moveNetwork w entry.1 id).isOk → h.holder entry.1 = none
  | .exit => ∀ entry ∈ (h.group.nodes id).networks.entries, (h.group.nodes id).leaves entry.2 →
      (((h.group.nodes id).candidates id).take 3).any fun other => other ≠ id && other ∈ h.group.ids
  | .endTimer timerId => timerId ∈ (h.group.nodes id).ranOut →
      ∀ timer ∈ (h.group.nodes id).timers.find? (·.id = timerId), h.group.waits timer.name id →
        h.holder timer.name = none → h.group.hopeBesides timer.name id
  | .deleteNetwork networkName wallet => ¬ (h.group.nodes id).removes (.deleteNetwork networkName wallet)
  | .clearNext => ¬ (h.group.nodes id).removes .clearNext
  | .createNetworkClient .. | .joinRequest .. | .leaveRequest .. | .init | .machineExit | .machineTimer
  | .networkTimer => True

/-- A message is handled in order: it tells of no earlier take-over than the
node knows of, and while a network is in nobody's charge it does not stop
the last candidate. -/
def OrderlyMessage (h : OwnHistory) (id : Bytes) (message : LanMessage) (tag : Bytes → Nat) : Prop :=
  (message.owner.1 ≠ id → ∀ name ∈ message.owner.2, h.term name id ≤ tag name) ∧
    ∀ name ∈ message.stops, h.group.waits name id → h.holder name = none → h.group.hopeBesides name id

def Orderly (h : OwnHistory) : GroupEvent → Prop
  | .call id w c => h.OrderlyCall id w c
  | .deliver id _ _ k => ∀ message ∈ h.group.sent[k]?, ∀ tag ∈ h.tags[k]?, h.OrderlyMessage id message tag

end OwnHistory

/-- No network is deleted, and a `network move` is not one of an earlier
version and names other nodes than its sender as the candidates. -/
def LanMessage.Clean : LanMessage → Prop
  | .networkDelete .. => False
  | .networkMove machineId _ newMachineId queue => newMachineId = [] ∧ machineId ∉ queue
  | .machineInfo .. | .machineExit .. | .networkCreate .. | .networkQuery .. | .networkList .. | .networkMoveAck ..
  | .networkJoin .. | .networkLeave .. => True

namespace OwnHistory
variable {h : OwnHistory} {event : GroupEvent} {name : Bytes}

/-- What the record of a node says about the owner of a network. -/
def view (h : OwnHistory) (name id : Bytes) : Option (Option Bytes) :=
  if id ∈ h.group.ids then
    ((h.group.nodes id).ownerOf name).map fun owner => if owner = [] then none else some owner
  else none

def ledger (h : OwnHistory) (name : Bytes) : Ledger Bytes :=
    ⟨h.takers name, h.holder name, h.term name, h.view name⟩

structure Owned (h : OwnHistory) : Prop where
  named : [] ∉ h.group.ids
  own : ∀ id ∈ h.group.ids, (h.group.nodes id).machineId = id
  timed : ∀ id ∈ h.group.ids, (h.group.nodes id).Timed
  keyed : ∀ id ∈ h.group.ids, ∀ name info, (h.group.nodes id).networks.find name = some info →
    info.networkId = name ∧ name ≠ []
  flags : ∀ id ∈ h.group.ids, ∀ name info, (h.group.nodes id).networks.find name = some info →
    info.nativeFlags.dhcpServer = true → info.machineId = id
  members : ∀ name, ∀ id ∈ h.takers name, id ∈ h.group.ids
  sound : ∀ name, (h.ledger name).Sound
  tagged : h.tags.length = h.group.sent.length
  told : ∀ (k : Nat) (message : LanMessage) (tag : Bytes → Nat), h.group.sent[k]? = some message →
    h.tags[k]? = some tag →
    ∀ name ∈ message.owner.2, name ≠ [] ∧ (h.ledger name).taker (tag name) = some message.owner.1
  acks : ∀ name, 2 ≤ (h.takers name).length → ∃ (k : Nat) (owner : Bytes) (tag : Bytes → Nat),
    h.group.sent[k]? = some (.networkMoveAck owner name owner) ∧ h.tags[k]? = some tag ∧
      tag name = (h.takers name).length
  known : ∀ id k, (id, k) ∈ h.group.handled → k < h.group.sent.length
  learnt : ∀ (id : Bytes) (k : Nat) (sender name owner : Bytes) (tag : Bytes → Nat), (id, k) ∈ h.group.handled →
    h.group.sent[k]? = some (.networkMoveAck sender name owner) → h.tags[k]? = some tag → owner ≠ id →
    tag name ≤ h.term name id
  hope : ∀ name, h.takers name ≠ [] → h.holder name = none → ∃ id ∈ h.group.ids, h.group.hope name id
  clean : ∀ message ∈ h.group.sent, message.Clean

/-- What a step of a node does to the charge of one network. -/
inductive Fate (h : OwnHistory) (event : GroupEvent) (next : LanNode) (name : Bytes) : Prop
  | keeps (deaf : h.heard name event = none) (stays : h.leaves name event = false)
      (same : next.ownerOf name = (h.group.nodes event.node).ownerOf name)
  | gains (deaf : h.heard name event = none) (free : h.holder name = none) (claims : next.claims name)
  | leaves (deaf : h.heard name event = none) (goes : h.leaves name event = true)
      (claimed : (h.group.nodes event.node).claims name) (vacant : next.ownerOf name = some [])
  | hears {owner : Bytes} {term : Nat} (heard : h.heard name event = some term) (other : owner ≠ event.node)
      (named : owner ≠ []) (later : h.term name event.node ≤ term) (said : (h.ledger name).taker term = some owner)
      (record : next.ownerOf name = some owner ∨
        next.ownerOf name = none ∧ (h.group.nodes event.node).ownerOf name = none)

/-- A step of a node and what it has to keep. -/
structure Turn (h : OwnHistory) (event : GroupEvent) (done : LanSent) (handled : List (Bytes × Nat)) : Prop where
  member : event.node ∈ h.group.ids
  own : done.1.machineId = event.node
  timed : done.1.Timed
  keyed : ∀ name info, done.1.networks.find name = some info → info.networkId = name ∧ name ≠ []
  flags : ∀ name info, done.1.networks.find name = some info → info.nativeFlags.dhcpServer = true →
    info.machineId = event.node
  fate : ∀ name, h.Fate event done.1 name
  tells : ∀ message ∈ done.2, ∀ name ∈ message.owner.2, message.owner.1 = event.node ∧ done.1.claims name
  acks : ∀ name, h.gains event.node done.1 name → h.takers name ≠ [] →
    .networkMoveAck event.node name event.node ∈ done.2
  clean : ∀ message ∈ done.2, message.Clean
  newly : ∀ id k, (id, k) ∈ handled → (id, k) ∈ h.group.handled ∨
    ∃ w addr, event = .deliver id w addr k ∧ k < h.group.sent.length
  hope : ∀ name, h.takers name ≠ [] → h.gains event.node done.1 name = false →
    h.leaves name event = true ∨ h.holder name = none →
    ∃ id ∈ h.group.ids, LanGroup.hope { h.group.update event.node done with handled := handled } name id

/-- The history after a step of a node. -/
def after (h : OwnHistory) (event : GroupEvent) (done : LanSent) (handled : List (Bytes × Nat)) : OwnHistory :=
  h.advance event { h.group.update event.node done with handled := handled }

variable {done : LanSent} {handled : List (Bytes × Nat)}

@[simp] theorem after_group : (h.after event done handled).group =
    { h.group.update event.node done with handled := handled } := rfl

@[simp] theorem after_takers : (h.after event done handled).takers name =
    if h.gains event.node done.1 name then h.takers name ++ [event.node] else h.takers name := by
  simp [after, advance]

@[simp] theorem after_holder : (h.after event done handled).holder name =
    if h.gains event.node done.1 name then some event.node
    else if h.leaves name event then none else h.holder name := by
  simp [after, advance]

/-- What the node knows of the take-over of a network after the step. -/
def termAfter (h : OwnHistory) (event : GroupEvent) (done : LanSent) (name : Bytes) : Nat :=
  if h.gains event.node done.1 name then (h.takers name).length + 1
  else (h.heard name event).getD (h.term name event.node)

@[simp] theorem after_term : (h.after event done handled).term name =
    Function.update (h.term name) event.node (h.termAfter event done name) := by
  simp [after, advance, termAfter]

@[simp] theorem after_tags : (h.after event done handled).tags =
    h.tags ++ List.replicate done.2.length (h.termAfter event done) := by
  have same : ∀ name, (if h.gains event.node done.1 name then (h.takers name).length + 1
      else (h.heard name event).getD (h.term name event.node)) = h.termAfter event done name := fun _ => rfl
  simp [after, advance, same, LanGroup.update]

theorem view_other {id : Bytes} (different : id ≠ event.node) :
    (h.after event done handled).view name id = h.view name id := by
  unfold view
  rw [after_group]
  dsimp only
  rw [LanGroup.update_other different]
  rfl

theorem view_self (member : event.node ∈ h.group.ids) : (h.after event done handled).view name event.node =
    (done.1.ownerOf name).map fun owner => if owner = [] then none else some owner := by
  unfold view
  rw [after_group]
  dsimp only
  rw [LanGroup.update_self]
  exact if_pos member

theorem view_eq_update {seen : Option (Option Bytes)} (member : event.node ∈ h.group.ids)
    (now : (done.1.ownerOf name).map (fun owner => if owner = [] then none else some owner) = seen) :
    (h.after event done handled).view name = Function.update (h.view name) event.node seen := by
  funext id
  by_cases same : id = event.node
  · subst same
    rw [view_self member, now, Function.update_self]
  · rw [view_other same, Function.update_of_ne same]

/-- A node that has itself as the owner holds the network. -/
theorem Owned.claims_iff {id : Bytes} (owned : h.Owned) (member : id ∈ h.group.ids) :
    (h.group.nodes id).claims name = true ↔ h.holder name = some id := by
  have own := (owned.sound name).own id
  change h.view name id = some (some id) ↔ h.holder name = some id at own
  rw [← own, view, if_pos member, LanNode.claims, owned.own id member, decide_eq_true_iff]
  have named : id ≠ [] := by
    rintro rfl
    exact owned.named member
  cases (h.group.nodes id).ownerOf name with
  | none => simp
  | some owner =>
    by_cases vacant : owner = []
    · simp [vacant, named.symm]
    · simp [vacant]

/-- The ledger after a step, of what the node sees now. -/
theorem after_ledger {seen : Bytes → Option (Option Bytes)} (view : (h.after event done handled).view name = seen) :
    (h.after event done handled).ledger name =
      ⟨if h.gains event.node done.1 name then h.takers name ++ [event.node] else h.takers name,
        if h.gains event.node done.1 name then some event.node
        else if h.leaves name event then none else h.holder name,
        Function.update (h.term name) event.node (h.termAfter event done name), seen⟩ := by
  rw [ledger, after_takers, after_holder, after_term, view]

/-- The charge of a network goes on when the node sees the owner that it saw
before. -/
theorem Owned.acts_keeps (owned : h.Owned) (turn : h.Turn event done handled) (deaf : h.heard name event = none)
    (stays : h.leaves name event = false) (same : done.1.ownerOf name = (h.group.nodes event.node).ownerOf name) :
    (h.ledger name).Acts event.node ((h.after event done handled).ledger name) := by
  have member := turn.member
  have gains : h.gains event.node done.1 name = false := by
    rw [gains, LanNode.claims, LanNode.claims, same, turn.own, owned.own _ member]
    simp
  have seen : (h.after event done handled).view name = h.view name := by
    rw [view_eq_update member rfl, same]
    funext id
    by_cases here : id = event.node
    · subst here
      rw [Function.update_self, view, if_pos member]
    · rw [Function.update_of_ne here]
  have unchanged : (h.after event done handled).ledger name = h.ledger name := by
    rw [after_ledger seen, ledger, termAfter, gains, deaf, stays]
    simp
  rw [unchanged]
  exact .keep

theorem Owned.acts_gains (owned : h.Owned) (turn : h.Turn event done handled) (free : h.holder name = none)
    (claims : done.1.claims name = true) :
    (h.ledger name).Acts event.node ((h.after event done handled).ledger name) := by
  have member := turn.member
  have named : event.node ≠ [] := fun empty => owned.named (empty ▸ member)
  have gains : h.gains event.node done.1 name = true := by
    have before : (h.group.nodes event.node).claims name = false := by
      rw [← Bool.not_eq_true, owned.claims_iff member, free]
      simp
    rw [gains, claims, before]
    rfl
  have mine : done.1.ownerOf name = some event.node := by
    rw [← turn.own]
    exact of_decide_eq_true claims
  have seen : (h.after event done handled).view name =
      Function.update (h.view name) event.node (some (some event.node)) :=
    view_eq_update member (by rw [mine, Option.map_some, if_neg named])
  rw [after_ledger seen, termAfter, gains]
  simp only [if_true]
  exact .gain free

theorem Owned.acts_leaves (owned : h.Owned) (turn : h.Turn event done handled) (deaf : h.heard name event = none)
    (goes : h.leaves name event = true) (claimed : (h.group.nodes event.node).claims name = true)
    (vacant : done.1.ownerOf name = some []) :
    (h.ledger name).Acts event.node ((h.after event done handled).ledger name) := by
  have member := turn.member
  have gains : h.gains event.node done.1 name = false := by
    rw [gains, claimed]
    simp
  have seen : (h.after event done handled).view name = Function.update (h.view name) event.node (some none) :=
    view_eq_update member (by simp [vacant])
  have changed : (h.after event done handled).ledger name =
      ⟨h.takers name, none, h.term name, Function.update (h.view name) event.node (some none)⟩ := by
    rw [after_ledger seen, termAfter, gains, deaf, goes]
    simp
  rw [changed]
  exact .leave (((owned.sound name).own event.node).mpr ((owned.claims_iff member).mp claimed))

/-- A node that hears of a later owner sees that one, if it knows the
network at all. -/
theorem acts_hears (turn : h.Turn event done handled) {owner : Bytes} {term : Nat}
    (heard : h.heard name event = some term) (other : owner ≠ event.node) (nonempty : owner ≠ [])
    (later : h.term name event.node ≤ term) (said : (h.ledger name).taker term = some owner)
    (record : done.1.ownerOf name = some owner ∨
      done.1.ownerOf name = none ∧ (h.group.nodes event.node).ownerOf name = none) :
    (h.ledger name).Acts event.node ((h.after event done handled).ledger name) := by
  have member := turn.member
  have goes : h.leaves name event = false := by
    cases event with
    | call => cases heard
    | deliver => rfl
  have gains : h.gains event.node done.1 name = false := by
    have apart : done.1.claims name = false := by
      rw [LanNode.claims, turn.own]
      rcases record with told | ⟨none, _⟩
      · simp [told, other]
      · simp [none]
    rw [gains, apart]
    rfl
  have changed : (h.after event done handled).ledger name =
      ⟨h.takers name, h.holder name, Function.update (h.term name) event.node term,
        Function.update (h.view name) event.node
          ((done.1.ownerOf name).map fun owner => if owner = [] then none else some owner)⟩ := by
    rw [after_ledger (view_eq_update member rfl), termAfter, gains, heard, goes]
    simp
  rw [changed]
  refine .hear other later said ?_
  rcases record with told | ⟨none, before⟩
  · exact Or.inl (by simp [told, nonempty])
  · refine Or.inr ⟨by simp [none], ?_⟩
    change h.view name event.node = Option.none
    rw [view, if_pos member, before]
    rfl

/-- The charge of a network goes on as the ledger allows. -/
theorem Owned.acts (owned : h.Owned) (turn : h.Turn event done handled) (name : Bytes) :
    (h.ledger name).Acts event.node ((h.after event done handled).ledger name) := by
  cases turn.fate name with
  | keeps deaf stays same => exact owned.acts_keeps turn deaf stays same
  | gains deaf free claims => exact owned.acts_gains turn free claims
  | leaves deaf goes claimed vacant => exact owned.acts_leaves turn deaf goes claimed vacant
  | hears heard other named later said record => exact acts_hears turn heard other named later said record

theorem sent_after {k : Nat} {message : LanMessage} (sent : h.group.sent[k]? = some message) :
    (h.after event done handled).group.sent[k]? = some message := by
  change (h.group.sent ++ done.2)[k]? = some message
  rw [List.getElem?_append_left (List.getElem?_eq_some_iff.mp sent).1]
  exact sent

theorem tag_after {k : Nat} {tag : Bytes → Nat} (known : h.tags[k]? = some tag) :
    (h.after event done handled).tags[k]? = some tag := by
  rw [after_tags, List.getElem?_append_left (List.getElem?_eq_some_iff.mp known).1]
  exact known

/-- A message and its tag are old, or both are new. -/
theorem Owned.sent_cases {k : Nat} {message : LanMessage} {tag : Bytes → Nat} (owned : h.Owned)
    (sent : (h.after event done handled).group.sent[k]? = some message)
    (known : (h.after event done handled).tags[k]? = some tag) :
    h.group.sent[k]? = some message ∧ h.tags[k]? = some tag ∨ message ∈ done.2 ∧ tag = h.termAfter event done := by
  change (h.group.sent ++ done.2)[k]? = some message at sent
  rw [after_tags] at known
  by_cases old : k < h.group.sent.length
  · rw [List.getElem?_append_left old] at sent
    rw [List.getElem?_append_left (by rw [owned.tagged]; exact old)] at known
    exact Or.inl ⟨sent, known⟩
  · rw [List.getElem?_append_right (by omega)] at sent
    rw [List.getElem?_append_right (by rw [owned.tagged]; omega)] at known
    refine Or.inr ⟨List.mem_of_getElem? sent, ?_⟩
    exact List.eq_of_mem_replicate (List.mem_of_getElem? known)

theorem Owned.term_mono (owned : h.Owned) (turn : h.Turn event done handled) (name id : Bytes) :
    h.term name id ≤ (h.after event done handled).term name id :=
  (owned.acts turn name).term_le (owned.sound name) id

theorem after_nodes {P : LanNode → Bytes → Prop} (old : ∀ id ∈ h.group.ids, P (h.group.nodes id) id)
    (new : P done.1 event.node) : ∀ id ∈ h.group.ids, P ((h.after event done handled).group.nodes id) id := by
  intro id member
  rw [after_group]
  dsimp only
  by_cases same : id = event.node
  · subst same
    rw [LanGroup.update_self]
    exact new
  · rw [LanGroup.update_other same]
    exact old id member

theorem claims_record {s : LanNode} (claims : s.claims name) :
    ∃ info, s.networks.find name = some info ∧ info.machineId = s.machineId :=
  Option.map_eq_some_iff.mp (of_decide_eq_true claims)

theorem Owned.turn_sound (owned : h.Owned) (turn : h.Turn event done handled) (name : Bytes) :
    ((h.after event done handled).ledger name).Sound :=
  (owned.sound name).acts (owned.acts turn name)

/-- Only a member of the group takes a network over. -/
theorem Owned.turn_members (owned : h.Owned) (turn : h.Turn event done handled) {id : Bytes}
    (taken : id ∈ (h.after event done handled).takers name) : id ∈ h.group.ids := by
  rw [after_takers] at taken
  split at taken
  · rcases List.mem_append.mp taken with before | new
    · exact owned.members name id before
    · rw [List.mem_singleton.mp new]
      exact turn.member
  · exact owned.members name id taken

/-- What a message says of the owners of networks is what the ledger says
for its tag. -/
theorem Owned.turn_told (owned : h.Owned) (turn : h.Turn event done handled) {k : Nat}
    {message : LanMessage} {tag : Bytes → Nat}
    (sent : (h.after event done handled).group.sent[k]? = some message)
    (known : (h.after event done handled).tags[k]? = some tag) (inside : name ∈ message.owner.2) :
    name ≠ [] ∧ ((h.after event done handled).ledger name).taker (tag name) = some message.owner.1 := by
  rcases owned.sent_cases sent known with ⟨before, tagged⟩ | ⟨new, rfl⟩
  · obtain ⟨named, said⟩ := owned.told k message tag before tagged name inside
    exact ⟨named, Ledger.taker_mono (owned.acts turn name).takers said⟩
  · -- the sender has itself as the owner, so the take-over it knows of is its own
    obtain ⟨sender, claims⟩ := turn.tells message new name inside
    obtain ⟨info, found, mine⟩ := claims_record claims
    refine ⟨(turn.keyed name info found).2, ?_⟩
    have nonempty : event.node ≠ [] := by
      intro empty
      exact owned.named (empty ▸ turn.member)
    have record : (h.after event done handled).view name event.node = some (some event.node) := by
      rw [view_self turn.member, LanNode.ownerOf, found, Option.map_some, mine, turn.own, Option.map_some,
        if_neg nonempty]
    have seen := (owned.turn_sound turn name).seen event.node (some event.node) record
    rw [sender]
    change ((h.after event done handled).ledger name).taker
      ((h.after event done handled).term name event.node) = _ at seen
    rw [after_term, Function.update_self] at seen
    exact seen

/-- The last take-over of a network, unless it is the first one, was told to
the group. -/
theorem Owned.turn_acks (owned : h.Owned) (turn : h.Turn event done handled)
    (two : 2 ≤ ((h.after event done handled).takers name).length) :
    ∃ (k : Nat) (owner : Bytes) (tag : Bytes → Nat),
      (h.after event done handled).group.sent[k]? = some (.networkMoveAck owner name owner) ∧
      (h.after event done handled).tags[k]? = some tag ∧
        tag name = ((h.after event done handled).takers name).length := by
  by_cases gains : h.gains event.node done.1 name
  · have length : ((h.after event done handled).takers name).length = (h.takers name).length + 1 := by
      rw [after_takers, if_pos gains, List.length_append, List.length_singleton]
    rw [length] at two ⊢
    have some : h.takers name ≠ [] := by
      intro empty
      rw [empty] at two
      exact absurd two (by decide)
    obtain ⟨k, short, same⟩ := List.mem_iff_getElem.mp (turn.acks name gains some)
    refine ⟨h.group.sent.length + k, event.node, h.termAfter event done, ?_, ?_, ?_⟩
    · change (h.group.sent ++ done.2)[h.group.sent.length + k]? = _
      rw [List.getElem?_append_right (by omega), Nat.add_sub_cancel_left, List.getElem?_eq_getElem short, same]
    · rw [after_tags, List.getElem?_append_right (by rw [owned.tagged]; omega), owned.tagged,
        Nat.add_sub_cancel_left, List.getElem?_replicate, if_pos short]
    · rw [termAfter, if_pos gains]
  · have same : (h.after event done handled).takers name = h.takers name := by
      rw [after_takers, if_neg gains]
    rw [same] at two ⊢
    obtain ⟨k, owner, tag, sent, known, number⟩ := owned.acks name two
    exact ⟨k, owner, tag, sent_after sent, tag_after known, number⟩

theorem Owned.turn_known (owned : h.Owned) (turn : h.Turn event done handled) {id : Bytes} {k : Nat}
    (inside : (id, k) ∈ handled) : k < (h.after event done handled).group.sent.length := by
  change k < (h.group.sent ++ done.2).length
  rw [List.length_append]
  rcases turn.newly id k inside with before | ⟨_, _, _, short⟩
  · have short := owned.known id k before
    omega
  · omega

/-- Who has handled the news of a take-over knows of it, or of a later
one. -/
theorem Owned.turn_learnt (owned : h.Owned) (turn : h.Turn event done handled) {id sender owner : Bytes} {k : Nat}
    {tag : Bytes → Nat} (inside : (id, k) ∈ handled)
    (sent : (h.after event done handled).group.sent[k]? = some (.networkMoveAck sender name owner))
    (known : (h.after event done handled).tags[k]? = some tag) (other : owner ≠ id) :
    tag name ≤ (h.after event done handled).term name id := by
  have earlier : k < h.group.sent.length → h.group.sent[k]? = some (.networkMoveAck sender name owner) := by
    intro short
    change (h.group.sent ++ done.2)[k]? = _ at sent
    rwa [List.getElem?_append_left short] at sent
  have tagged : k < h.group.sent.length → h.tags[k]? = some tag := by
    intro short
    rwa [after_tags, List.getElem?_append_left (by rw [owned.tagged]; exact short)] at known
  rcases turn.newly id k inside with before | ⟨w, addr, rfl, short⟩
  · have short := owned.known id k before
    exact (owned.learnt id k sender name owner tag before (earlier short) (tagged short) other).trans
      (owned.term_mono turn name id)
  · have heard : h.heard name (.deliver id w addr k) = some (tag name) := by
      simp [OwnHistory.heard, earlier short, tagged short, LanMessage.owner, other]
    have said := (owned.told k _ tag (earlier short) (tagged short) name (List.mem_singleton_self name)).2
    have bounded : tag name ≤ (h.takers name).length := (Ledger.taker_bounds said).2
    have itself : (h.after (.deliver id w addr k) done handled).term name id =
        h.termAfter (.deliver id w addr k) done name := by
      rw [after_term]
      exact Function.update_self _ _ _
    rw [itself, termAfter, heard]
    split
    · omega
    · exact le_rfl

/-- A network that was taken over and has no holder will be taken over
again. -/
theorem Turn.hoped (turn : h.Turn event done handled) (some : (h.after event done handled).takers name ≠ [])
    (free : (h.after event done handled).holder name = none) :
    ∃ id ∈ h.group.ids, LanGroup.hope { h.group.update event.node done with handled := handled } name id := by
  rw [after_takers] at some
  rw [after_holder] at free
  by_cases gains : h.gains event.node done.1 name
  · rw [if_pos gains] at free
    cases free
  · rw [if_neg gains] at some free
    refine turn.hope name some (Bool.not_eq_true _ ▸ gains) ?_
    split at free
    · rename_i goes
      exact Or.inl goes
    · exact Or.inr free

theorem Owned.turn (owned : h.Owned) (turn : h.Turn event done handled) : (h.after event done handled).Owned where
  named := owned.named
  own := after_nodes (P := fun s id => s.machineId = id) owned.own turn.own
  timed := after_nodes (P := fun s _ => s.Timed) owned.timed turn.timed
  keyed := after_nodes (P := fun s _ => ∀ name info, s.networks.find name = some info →
    info.networkId = name ∧ name ≠ []) owned.keyed turn.keyed
  flags := after_nodes (P := fun s id => ∀ name info, s.networks.find name = some info →
    info.nativeFlags.dhcpServer = true → info.machineId = id) owned.flags turn.flags
  members _ _ taken := owned.turn_members turn taken
  sound := owned.turn_sound turn
  tagged := by
    rw [after_tags, List.length_append, List.length_replicate, owned.tagged]
    exact List.length_append.symm
  told _ _ _ sent known _ inside := owned.turn_told turn sent known inside
  acks _ two := owned.turn_acks turn two
  known _ _ inside := owned.turn_known turn inside
  learnt _ _ _ _ _ _ inside sent known other := owned.turn_learnt turn inside sent known other
  hope _ some free := turn.hoped some free
  clean message sent := by
    rcases List.mem_append.mp sent with before | new
    · exact owned.clean message before
    · exact turn.clean message new

end OwnHistory

end DbcNode
