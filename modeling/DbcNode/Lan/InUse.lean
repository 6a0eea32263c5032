import DbcNode.Lan.Steps
import DbcNode.Lib.Runs

namespace DbcNode

/-- A node with the networks that had members when the table last had
them. -/
structure UseHistory where
  node : LanNode
  used : List Bytes

namespace LanNode
variable {s : LanNode} {w : LanWorld} {name : Bytes}

/-- The networks with members. -/
def inUse (s : LanNode) : List Bytes := (s.networks.entries.filter (·.2.members ≠ [])).map (·.1)

theorem mem_inUse : name ∈ s.inUse ↔ ∃ info, s.networks.find name = some info ∧ info.members ≠ [] := by
  constructor
  · intro member
    obtain ⟨entry, inside, rfl⟩ := List.mem_map.mp member
    obtain ⟨present, used⟩ := List.mem_filter.mp inside
    exact ⟨entry.2, OrdMap.find_eq_some.mpr present, of_decide_eq_true used⟩
  · rintro ⟨info, found, used⟩
    exact List.mem_map.mpr
      ⟨(name, info), List.mem_filter.mpr ⟨OrdMap.find_eq_some.mp found, decide_eq_true used⟩, rfl⟩

/-- The message is not a `network delete` for a network with members, and
nor does the clearing of the expired networks come to one that has got
members since it was collected. -/
def Spares (s : LanNode) : LanInput → Prop
  | .receive _ (.networkDelete _ networkName) => networkName ∉ s.inUse
  | .call .clearNext => ∀ networkName ∈ s.expiring, networkName ∉ s.inUse
  | _ => True

instance (s : LanNode) : (input : LanInput) → Decidable (s.Spares input)
  | .receive _ (.networkDelete _ networkName) => inferInstanceAs (Decidable (networkName ∉ s.inUse))
  | .call .clearNext => inferInstanceAs (Decidable (∀ networkName ∈ s.expiring, networkName ∉ s.inUse))
  | .call (.createNetworkServer ..) | .call (.createNetworkClient ..) | .call (.deleteNetwork ..)
    | .call (.joinRequest ..)
  | .call (.leaveRequest ..) | .call .init | .call .exit | .call .machineExit | .call .machineTimer
    | .call .networkTimer
  | .call (.moveTimer ..) | .call (.endTimer ..) | .call .resumeTimer | .receive _ (.machineInfo ..)
    | .receive _ (.machineExit ..) | .receive _ (.networkCreate ..)
  | .receive _ (.networkQuery ..) | .receive _ (.networkList ..) | .receive _ (.networkMove ..)
  | .receive _ (.networkMoveAck ..) | .receive _ (.networkJoin ..) | .receive _ (.networkLeave ..) =>
    inferInstanceAs (Decidable True)

theorem call_keeps (w : LanWorld) {c : LanCall} (spares : s.Spares (.call c)) (used : name ∈ s.inUse) :
    ((s.call w c).1.networks.find name).isSome := by
  obtain ⟨info, found, members⟩ := mem_inUse.mp used
  have present : (s.networks.find name).isSome := by
    rw [found]
    rfl
  cases step : (s.call w c).1.networks.find name with
  | some after => rfl
  | none =>
    have record := call_record s w c name
    rw [step] at record
    generalize outcome : (none : Option NetworkInfo) = after at record
    cases record with
    | same => simp [← outcome] at present
    | removed _ old unused =>
      rw [found] at old
      cases old
      rcases unused with unused | ⟨rfl, expiring⟩
      · exact absurd unused members
      · exact absurd used (spares name expiring)
    | made | attached | left | moved | resumed => cases outcome

theorem edited_isSome {f : NetworkInfo → NetworkInfo} {other : Bytes} {p : Prop} [Decidable p]
    (same : p → name = other) (present : (s.networks.find name).isSome) :
    (if p then (s.networks.find other).map f else s.networks.find name).isSome := by
  split
  · rename_i applies
    rw [← same applies, Option.isSome_map]
    exact present
  · exact present

theorem receive_keeps (w : LanWorld) (addr : Bytes) {message : LanMessage}
    (spares : s.Spares (.receive addr message)) (used : name ∈ s.inUse) :
    ((s.onMulticastReceive w addr message).1.networks.find name).isSome := by
  obtain ⟨info, found, members⟩ := mem_inUse.mp used
  have present : (s.networks.find name).isSome := by
    rw [found]
    rfl
  cases message with
  | machineInfo =>
    simp only [onMulticastReceive, addLanNode]
    split <;> exact present
  | machineExit =>
    simp only [onMulticastReceive, deleteLanNode]
    split <;> exact present
  | networkCreate machineId network =>
    rw [find_receive_create]
    exact retold_isSome present
  | networkDelete _ networkName =>
    have other : name ≠ networkName := by
      rintro rfl
      exact spares used
    rw [onMulticastReceive, deleteNetworkFromMulticast, find_drop, if_neg other]
    exact present
  | networkQuery =>
    rw [onMulticastReceive]
    split <;> exact present
  | networkList machineId networks =>
    rw [find_receive_list]
    exact retold_isSome present
  | networkMove machineId networkName newMachineId queue =>
    rcases find_receive_move s w addr machineId networkName newMachineId queue name with same | ⟨_, _, _, _, taken⟩
    · rw [same]
      exact present
    · rw [taken]
      rfl
  | networkMoveAck _ networkName newMachineId =>
    rw [onMulticastReceive, removeMoveTimer_networks, find_moveNetworkAck]
    exact edited_isSome And.left present
  | networkJoin _ networkName taskId =>
    rw [onMulticastReceive, find_joinNetwork]
    exact edited_isSome And.left present
  | networkLeave _ networkName taskId =>
    rw [onMulticastReceive, find_leaveNetwork]
    exact edited_isSome And.left present

end LanNode

namespace UseHistory
variable {h next : UseHistory} {event : LanWorld × LanInput}

def start (node : LanNode) : UseHistory := ⟨node, node.inUse⟩

/-- A network that has gone stays on the list until the table has it
again. -/
def step (h : UseHistory) (event : LanWorld × LanInput) : Option UseHistory :=
  let next := (h.node.react event.1 event.2).1
  some ⟨next, next.inUse ++ h.used.filter fun name => (next.networks.find name).isNone⟩

/-- The table has every network that had members. -/
def Held (h : UseHistory) : Prop := ∀ name ∈ h.used, (h.node.networks.find name).isSome

/-- What is on the list is in the table with members. -/
def Live (h : UseHistory) : Prop := ∀ name, name ∈ h.used ↔ name ∈ h.node.inUse

def Spares (h : UseHistory) (event : LanWorld × LanInput) : Prop := h.node.Spares event.2

instance (h : UseHistory) (event : LanWorld × LanInput) : Decidable (h.Spares event) :=
  inferInstanceAs (Decidable (h.node.Spares event.2))

theorem Live.held (live : h.Live) : h.Held := by
  intro name member
  obtain ⟨info, found, _⟩ := LanNode.mem_inUse.mp ((live name).mp member)
  rw [found]
  rfl

theorem Live.step (live : h.Live) (spares : h.Spares event) (ran : h.step event = some next) : next.Live := by
  cases ran
  intro name
  rw [List.mem_append]
  refine ⟨?_, Or.inl⟩
  rintro (inside | gone)
  · exact inside
  · obtain ⟨before, missing⟩ := List.mem_filter.mp gone
    have used := (live name).mp before
    have kept : ((h.node.react event.1 event.2).1.networks.find name).isSome := by
      obtain ⟨w, input⟩ := event
      cases input with
      | call c => exact LanNode.call_keeps w spares used
      | receive addr message => exact LanNode.receive_keeps w addr spares used
    rw [Option.isNone_iff_eq_none] at missing
    rw [missing] at kept
    cases kept

/-- A step that is not spared loses a network that had members. -/
theorem Held.spares (live : h.Live) (held : next.Held) (ran : h.step event = some next) : h.Spares event := by
  cases ran
  obtain ⟨w, input⟩ := event
  cases input with
  | call c =>
    by_cases clears : c = .clearNext
    · subst clears
      intro networkName expiring used
      have gone : ((h.node.react w (.call .clearNext)).1.networks.find networkName) = none := by
        change (h.node.clearNext w.now).1.networks.find networkName = none
        rw [LanNode.expiring] at expiring
        split at expiring
        · rename_i clearing
          cases expiring
          rw [LanNode.clearNext, clearing]
          change (h.node.drop networkName).networks.find networkName = none
          rw [LanNode.find_drop, if_pos rfl]
        · cases expiring
      have kept := held networkName
        (List.mem_append_right _ (List.mem_filter.mpr ⟨(live networkName).mpr used, by simp [gone]⟩))
      simp only [gone] at kept
      cases kept
    · cases c with
      | clearNext => exact absurd rfl clears
      | _ => exact trivial
  | receive addr message =>
    cases message with
    | networkDelete machineId networkName =>
      intro used
      have gone : ((h.node.react w (.receive addr (.networkDelete machineId networkName))).1.networks.find
        networkName) =
          none := by
        change (h.node.drop networkName).networks.find networkName = none
        rw [LanNode.find_drop, if_pos rfl]
      have kept := held networkName
        (List.mem_append_right _ (List.mem_filter.mpr ⟨(live networkName).mpr used, by simp [gone]⟩))
      simp only [gone] at kept
      cases kept
    | machineInfo | machineExit | networkCreate | networkQuery | networkList | networkMove | networkMoveAck
      | networkJoin
    | networkLeave => exact trivial

/-- In every run in which no `network delete` arrives for a network with
members, and none is cleared that has got members since it was found to be
expired, each network that had members is in the table until it has none;
and from each state of such a run the next step keeps this exactly where it
is no such message and no such turn. -/
theorem used_networks_kept {node : LanNode} {trace : List (LanWorld × LanInput)}
    (run : Run step Spares (start node) trace h) :
    h.Held ∧ ∀ event next, h.step event = some next → (next.Held ↔ h.Spares event) := by
  have live : h.Live := run.invariant (fun _ => Iff.rfl) fun live spares ran => live.step spares ran
  refine ⟨live.held, fun event next ran => ⟨fun held => held.spares live ran, fun spares => ?_⟩⟩
  exact (live.step spares ran).held

/-- A message of node `b` that it has made a network. -/
def created (name : Bytes) : LanInput :=
  .receive (str "b") (.networkCreate (str "b") ⟨name, [], [], [], [], [], [], [], [], 0⟩)

/-- A network of another node that a task joins. -/
def joined : List (LanWorld × LanInput) :=
  [(.fine 1 [], created (str "network")),
    (.fine 2 [], .receive (str "b") (.networkJoin (str "b") (str "network") (str "task")))]

/-- Another one that nobody uses, and three days later the timer that clears
it. -/
def cleared : List (LanWorld × LanInput) :=
  joined ++ [(.fine 3 [], created (str "unused")), (.fine 259300 [], .call .networkTimer),
    (.fine 259300 [], .call .clearNext), (.fine 259300 [], .call .clearNext)]

theorem used_networks_kept_one : ∃ h, Run step Spares (start (.fresh (str "a"))) cleared.reverse h ∧
    str "network" ∈ h.used ∧ (h.node.networks.find (str "network")).isSome ∧
    (h.node.networks.find (str "unused")).isNone := by
  have outcome :
    (runAll (guarded step fun h event => decide (h.Spares event)) (start (.fresh (str "a"))) cleared).any
      (fun h => decide (str "network" ∈ h.used ∧ (h.node.networks.find (str "unused")).isNone)) = true := by
        decide +kernel
  obtain ⟨h, ran, facts⟩ := (Option.any_eq_true _ _).mp outcome
  obtain ⟨used, gone⟩ := of_decide_eq_true facts
  have run : Run step Spares _ (cleared.reverse ++ []) h :=
    Run.of_guarded (fun _ _ => of_decide_eq_true) cleared .start ran
  rw [List.append_nil] at run
  exact ⟨h, run, used, (used_networks_kept run).1 _ used, gone⟩

/-- A run after which a task uses a network that is not there. -/
theorem lost_of_runAll (inputs : List (LanWorld × LanInput))
    (outcome : (runAll step (start (.fresh (str "a"))) inputs).any (fun h =>
      decide (str "network" ∈ h.used ∧ (h.node.networks.find (str "network")).isNone)) = true) :
    ∃ trace h, Reaches step (start (.fresh (str "a"))) trace h ∧ ¬ h.Held := by
  obtain ⟨h, ran, lost⟩ := (Option.any_eq_true _ _).mp outcome
  obtain ⟨used, missing⟩ := of_decide_eq_true lost
  refine ⟨_, h, Reaches.of_runAll _ .start ran, fun held => ?_⟩
  have present := held _ used
  rw [Option.isNone_iff_eq_none] at missing
  rw [missing] at present
  cases present

/-- A task joins a network that has been found to be expired and is not
deleted yet. -/
def joinedLate : List (LanWorld × LanInput) :=
  [(.fine 1 [], created (str "network")), (.fine 259300 [], .call .networkTimer),
    (.fine 259300 [], .call .clearNext),
    (.fine 259300 [], .receive (str "b") (.networkJoin (str "b") (str "network") (str "task"))),
    (.fine 259300 [], .call .clearNext)]

theorem late_network_cleared : ∃ trace h, Reaches step (start (.fresh (str "a"))) trace h ∧ ¬ h.Held :=
  lost_of_runAll joinedLate (by decide +kernel)

/-- Any node's `network delete` takes the network away from under the
task. -/
theorem used_network_deleted : ∃ trace h, Reaches step (start (.fresh (str "a"))) trace h ∧ ¬ h.Held :=
  lost_of_runAll (joined ++ [(.fine 3 [], .receive (str "c") (.networkDelete (str "c") (str "network")))])
    (by decide +kernel)

end UseHistory

end DbcNode
