import DbcNode.Lan.Receives

namespace DbcNode

/-- The networks whose candidate timer a message stops. -/
def LanMessage.stops : LanMessage → List Bytes
  | .networkList _ networks => networks.map (·.1.networkName)
  | .networkMoveAck _ networkName _ => [networkName]
  | _ => []

namespace LanNode
variable {s next : LanNode} {w : LanWorld} {addr name : Bytes} {message : LanMessage} {timer : MoveTimer}

/-- The node waits as a candidate for the network: a timer for it has yet to
run, and there is a callback for the name. -/
def waitsFor (s : LanNode) (name : Bytes) : Bool :=
  s.timers.any (fun timer => timer.name = name ∧ timer.id ∉ s.ranOut) && decide (name ∈ s.moveInvokers)

theorem waitsFor_iff : s.waitsFor name = true ↔
    (∃ timer ∈ s.timers, timer.name = name ∧ timer.id ∉ s.ranOut) ∧ name ∈ s.moveInvokers := by
  simp [waitsFor]

/-- The id that is kept under the name of a network is that of a timer for
it, if the timer is still in the queue, and no id is given out twice. -/
structure Timed (s : LanNode) : Prop where
  below : ∀ timer ∈ s.timers, timer.id < s.nextTimerId
  known : ∀ name id, s.moveTimerId.find name = some id → id < s.nextTimerId
  named : ∀ name id, s.moveTimerId.find name = some id → ∀ timer ∈ s.timers, timer.id = id → timer.name = name
  apart : ∀ timer ∈ s.timers, ∀ other ∈ s.timers, timer.id = other.id → timer.name = other.name
  ended : ∀ id ∈ s.ranOut, id < s.nextTimerId

theorem Timed.edits (timed : s.Timed) (edits : s.Edits next) : next.Timed := by
  obtain ⟨_, _, rfl⟩ := edits
  exact ⟨timed.below, timed.known, timed.named, timed.apart, timed.ended⟩

theorem Edits.waitsFor (edits : s.Edits next) : next.waitsFor name = s.waitsFor name := by
  obtain ⟨_, _, rfl⟩ := edits
  rfl

/-- Fewer timers and fewer ids. -/
theorem Timed.fewer (timed : s.Timed) (timers : ∀ timer ∈ next.timers, timer ∈ s.timers)
    (ids : ∀ name id, next.moveTimerId.find name = some id → s.moveTimerId.find name = some id)
    (ended : ∀ id ∈ next.ranOut, id < s.nextTimerId) (counter : next.nextTimerId = s.nextTimerId) : next.Timed := by
  refine ⟨?_, ?_, ?_, ?_, ?_⟩
  · intro timer member
    rw [counter]
    exact timed.below timer (timers timer member)
  · intro name id found
    rw [counter]
    exact timed.known name id (ids name id found)
  · intro name id found timer member same
    exact timed.named name id (ids name id found) timer (timers timer member) same
  · intro timer member other inside same
    exact timed.apart timer (timers timer member) other (timers other inside) same
  · intro id member
    rw [counter]
    exact ended id member

theorem find_erase_some {α : Type} {m : OrdMap Bytes α} {key other : Bytes} {a : α}
    (found : (m.erase key).find other = some a) : m.find other = some a := by
  rw [OrdMap.find_erase] at found
  split at found
  · cases found
  · exact found

theorem Timed.addMoveTimer (timed : s.Timed) (name : Bytes) (i : Nat) : (s.addMoveTimer name i).Timed := by
  unfold LanNode.addMoveTimer
  split
  · exact timed
  · refine ⟨?_, ?_, ?_, ?_, fun id member => Nat.lt_succ_of_lt (timed.ended id member)⟩
    · intro timer member
      rcases List.mem_append.mp member with old | new
      · have below := timed.below timer old
        exact Nat.lt_succ_of_lt below
      · rw [List.mem_singleton.mp new]
        exact Nat.lt_succ_self _
    · intro other id found
      rw [OrdMap.find_insert] at found
      split at found
      · cases found
        exact Nat.lt_succ_self _
      · exact Nat.lt_succ_of_lt (timed.known other id found)
    · intro other id found timer member same
      rw [OrdMap.find_insert] at found
      split at found
      · rename_i itself
        cases found
        rcases List.mem_append.mp member with old | new
        · have below := timed.below timer old
          omega
        · rw [List.mem_singleton.mp new, itself]
      · have below := timed.known other id found
        rcases List.mem_append.mp member with old | new
        · exact timed.named other id found timer old same
        · rw [List.mem_singleton.mp new] at same
          change s.nextTimerId = id at same
          omega
    · intro timer member other inside same
      rcases List.mem_append.mp member with old | new
      · have below := timed.below timer old
        rcases List.mem_append.mp inside with before | after
        · exact timed.apart timer old other before same
        · rw [List.mem_singleton.mp after] at same
          change timer.id = s.nextTimerId at same
          omega
      · rw [List.mem_singleton.mp new] at same ⊢
        rcases List.mem_append.mp inside with before | after
        · have below := timed.below other before
          change s.nextTimerId = other.id at same
          omega
        · rw [List.mem_singleton.mp after]

theorem addMoveTimer_timers (s : LanNode) (name : Bytes) (i : Nat) :
    ∃ more, (s.addMoveTimer name i).timers = s.timers ++ more ∧ ∀ timer ∈ more, timer.name = name := by
  unfold addMoveTimer
  split
  · exact ⟨[], (List.append_nil _).symm, nofun⟩
  · refine ⟨_, rfl, fun timer member => ?_⟩
    rw [List.mem_singleton.mp member]

theorem addMoveTimer_waits_mono (waits : s.waitsFor name = true) (networkName : Bytes) (i : Nat) :
    (s.addMoveTimer networkName i).waitsFor name = true := by
  obtain ⟨⟨timer, member, named, fresh⟩, called⟩ := waitsFor_iff.mp waits
  unfold addMoveTimer
  split
  · exact waits
  · exact waitsFor_iff.mpr ⟨⟨timer, List.mem_append_left _ member, named, fresh⟩, List.mem_cons_of_mem _ called⟩

/-- With a new timer the node waits, whatever was left of earlier ones. -/
theorem Timed.addMoveTimer_waits (timed : s.Timed) (name : Bytes) {i : Nat} (early : i < 3) :
    (s.addMoveTimer name i).waitsFor name = true := by
  obtain ⟨delay, known⟩ : ∃ delay, moveDelays[i]? = some delay := ⟨_, List.getElem?_eq_getElem early⟩
  have fresh : s.nextTimerId ∉ s.ranOut := fun member => absurd (timed.ended _ member) (Nat.lt_irrefl _)
  rw [LanNode.addMoveTimer, known]
  exact waitsFor_iff.mpr ⟨⟨_, List.mem_append_right _ (List.mem_singleton_self _), rfl, fresh⟩, List.mem_cons_self⟩

@[simp] theorem removeTimer_moveTimerId (s : LanNode) (id : Nat) :
    (s.removeTimer id).moveTimerId = s.moveTimerId := by
  unfold removeTimer
  split <;> rfl

@[simp] theorem removeTimer_ranOut (s : LanNode) (id : Nat) : (s.removeTimer id).ranOut = s.ranOut := by
  unfold removeTimer
  split <;> rfl

@[simp] theorem removeTimer_nextTimerId (s : LanNode) (id : Nat) :
    (s.removeTimer id).nextTimerId = s.nextTimerId := by
  unfold removeTimer
  split <;> rfl

theorem removeTimer_subset (s : LanNode) (id : Nat) (member : timer ∈ (s.removeTimer id).timers) :
    timer ∈ s.timers := by
  unfold removeTimer at member
  split at member
  · exact member
  · exact List.mem_of_mem_eraseP member

/-- The candidates for other networks go on waiting. -/
theorem removeTimer_waits {id : Nat} (waits : s.waitsFor name = true)
    (other : ∀ timer ∈ s.timers, timer.id = id → timer.name ≠ name) : (s.removeTimer id).waitsFor name = true := by
  unfold removeTimer
  split
  · exact waits
  · rename_i gone found
    have inside := List.mem_of_find?_eq_some found
    have same : gone.id = id := by simpa using List.find?_some found
    obtain ⟨⟨timer, member, named, fresh⟩, called⟩ := waitsFor_iff.mp waits
    refine waitsFor_iff.mpr ⟨⟨timer, ?_, named, fresh⟩, ?_⟩
    · refine (List.mem_eraseP_of_neg ?_).mpr member
      rw [decide_eq_true_iff]
      exact fun wrong => other timer member wrong named
    · dsimp only
      split
      · exact called
      · exact List.mem_filter.mpr ⟨called, decide_eq_true (other gone inside same).symm⟩

theorem removeMoveTimer_subset (s : LanNode) (name : Bytes) (member : timer ∈ (s.removeMoveTimer name).timers) :
    timer ∈ s.timers := by
  unfold removeMoveTimer at member
  split at member
  · exact member
  · exact removeTimer_subset s _ member

theorem Timed.removeMoveTimer (timed : s.Timed) (name : Bytes) : (s.removeMoveTimer name).Timed := by
  unfold LanNode.removeMoveTimer
  split
  · exact timed
  · rename_i id _
    refine timed.fewer (fun timer member => removeTimer_subset s id member)
      (fun other id found => find_erase_some found) ?_ (removeTimer_nextTimerId s id)
    intro ended member
    rw [show ended ∈ (s.removeTimer id).ranOut ↔ ended ∈ s.ranOut by rw [removeTimer_ranOut]] at member
    exact timed.ended ended member

theorem Timed.removeMoveTimer_waits {other : Bytes} (timed : s.Timed) (waits : s.waitsFor other = true)
    (different : other ≠ name) : (s.removeMoveTimer name).waitsFor other = true := by
  unfold LanNode.removeMoveTimer
  split
  · exact waits
  · rename_i id found
    have kept := removeTimer_waits waits fun timer member same => by
      rw [timed.named name id found timer member same]
      exact different.symm
    exact kept

theorem onCandidate_timers (networkName : Bytes) (s : LanNode) (candidate : Bytes × Nat) :
    ∃ more, (onCandidate networkName s candidate).timers = s.timers ++ more ∧ ∀ timer ∈ more, timer.name =
      networkName := by
  unfold onCandidate
  split
  · exact addMoveTimer_timers s networkName candidate.2
  · exact ⟨[], (List.append_nil _).symm, nofun⟩

theorem Timed.onCandidate (timed : s.Timed) (networkName : Bytes) (candidate : Bytes × Nat) :
    (LanNode.onCandidate networkName s candidate).Timed := by
  unfold LanNode.onCandidate
  split
  · exact timed.addMoveTimer _ _
  · exact timed

theorem onCandidates_timers (networkName : Bytes) (queue : List (Bytes × Nat)) (s : LanNode) :
    ∃ more, (queue.foldl (onCandidate networkName) s).timers = s.timers ++ more ∧
      ∀ timer ∈ more, timer.name = networkName := by
  induction queue generalizing s with
  | nil => exact ⟨[], (List.append_nil _).symm, nofun⟩
  | cons candidate queue ih =>
    obtain ⟨first, added, firstNamed⟩ := onCandidate_timers networkName s candidate
    obtain ⟨rest, later, restNamed⟩ := ih (onCandidate networkName s candidate)
    refine ⟨first ++ rest, ?_, fun timer member => ?_⟩
    · rw [List.foldl_cons, later, added, List.append_assoc]
    · rcases List.mem_append.mp member with before | after
      · exact firstNamed timer before
      · exact restNamed timer after

theorem onCandidates_waits_mono (networkName : Bytes) (queue : List (Bytes × Nat))
    (waits : s.waitsFor name = true) : (queue.foldl (onCandidate networkName) s).waitsFor name = true := by
  induction queue generalizing s with
  | nil => exact waits
  | cons candidate queue ih =>
    refine ih ?_
    unfold onCandidate
    split
    · exact addMoveTimer_waits_mono waits networkName candidate.2
    · exact waits

/-- A node that stands among the first three waits. -/
theorem Timed.onCandidates_waits (timed : s.Timed) {networkName : Bytes} {queue : List (Bytes × Nat)} {i : Nat}
    (member : (s.machineId, i) ∈ queue) (early : i < 3) :
    (queue.foldl (LanNode.onCandidate networkName) s).waitsFor networkName = true := by
  induction queue generalizing s with
  | nil => cases member
  | cons candidate queue ih =>
    rw [List.foldl_cons]
    rcases List.mem_cons.mp member with rfl | later
    · refine onCandidates_waits_mono networkName queue ?_
      rw [LanNode.onCandidate, if_pos rfl]
      exact timed.addMoveTimer_waits networkName early
    · have same := (onCandidates_networks networkName [candidate] s).2
      exact ih (timed.onCandidate networkName candidate)
        (by rw [show (LanNode.onCandidate networkName s candidate).machineId = s.machineId from same]; exact later)

theorem mem_zipIdx_take {queue : List Bytes} {id : Bytes} (member : id ∈ queue.take 3) :
    ∃ i, (id, i) ∈ queue.zipIdx ∧ i < 3 := by
  obtain ⟨i, short, rfl⟩ := List.mem_iff_getElem.mp member
  rw [List.length_take] at short
  refine ⟨i, ?_, by omega⟩
  rw [List.getElem_take, List.mem_zipIdx_iff_getElem?]
  exact List.getElem?_eq_getElem (by omega)

theorem Timed.onCandidates (timed : s.Timed) (networkName : Bytes) (queue : List (Bytes × Nat)) :
    (queue.foldl (LanNode.onCandidate networkName) s).Timed := by
  induction queue generalizing s with
  | nil => exact timed
  | cons candidate queue ih => exact ih (timed.onCandidate networkName candidate)

theorem Timed.onListed (timed : s.Timed) (now : Int) (machineId : Bytes) (network : NetworkData × List Bytes) :
    (s.onListed now machineId network).Timed :=
  (timed.edits (Edits.addNetworkFromMulticast s _)).removeMoveTimer _

theorem Timed.listEach (timed : s.Timed) (now : Int) (machineId : Bytes)
    (networks : List (NetworkData × List Bytes)) :
    (networks.foldl (fun s network => s.onListed now machineId network) s).Timed := by
  induction networks generalizing s with
  | nil => exact timed
  | cons network networks ih => exact ih (timed.onListed now machineId network)

theorem listEach_subset {now : Int} {machineId : Bytes} {networks : List (NetworkData × List Bytes)} {s : LanNode}
    (member : timer ∈ (networks.foldl (fun s network => s.onListed now machineId network) s).timers) :
    timer ∈ s.timers := by
  induction networks generalizing s with
  | nil => exact member
  | cons network networks ih =>
    have before := removeMoveTimer_subset _ _ (ih member)
    rwa [(Edits.addNetworkFromMulticast s _).timers] at before

theorem Timed.listEach_waits (timed : s.Timed) {now : Int} {machineId : Bytes}
    {networks : List (NetworkData × List Bytes)} (waits : s.waitsFor name = true)
    (other : ∀ network ∈ networks, network.1.networkName ≠ name) :
    (networks.foldl (fun s network => s.onListed now machineId network) s).waitsFor name = true := by
  induction networks generalizing s with
  | nil => exact waits
  | cons network networks ih =>
    refine ih (timed.onListed now machineId network) ?_ fun later inside =>
      other later (List.mem_cons_of_mem _ inside)
    have edits := Edits.addNetworkFromMulticast s (network.1.info machineId network.2 now)
    refine (timed.edits edits).removeMoveTimer_waits ?_ (other network List.mem_cons_self).symm
    rw [edits.waitsFor]
    exact waits

theorem takeOver_edits (s : LanNode) (w : LanWorld) (name : Bytes) : s.Edits (s.takeOver w name).1 :=
  (TakesOver.takeOver s w name).edits

/-- What the tick does to the timers: the one that was due has run out. -/
theorem onTimerTick_cases (s : LanNode) (w : LanWorld) (timer : MoveTimer) :
    ∃ done, s.Edits done ∧ ∃ ids, (∀ name id, ids.find name = some id → s.moveTimerId.find name = some id) ∧
      (s.onTimerTick w timer).1 = { done with moveTimerId := ids, ranOut := timer.id :: s.ranOut } := by
  rw [onTimerTick]
  dsimp only
  split
  · have edits := takeOver_edits s w timer.name
    refine ⟨_, edits, (s.takeOver w timer.name).1.moveTimerId.erase timer.name, fun name id found => ?_, ?_⟩
    · have earlier := find_erase_some found
      obtain ⟨_, _, edited⟩ := edits
      rwa [edited] at earlier
    · obtain ⟨_, _, edited⟩ := edits
      rw [onMulticastNetworkMoveTaskTimer]
      dsimp only
      rw [edited]
  · exact ⟨s, .refl s, s.moveTimerId, fun _ _ found => found, rfl⟩

/-- No call starts a timer. -/
theorem call_timers {c : LanCall} (member : timer ∈ (s.call w c).1.timers) : timer ∈ s.timers := by
  by_cases move : ∃ due, c = .moveTimer due
  · obtain ⟨due, rfl⟩ := move
    rw [call] at member
    split at member
    · obtain ⟨done, edits, ids, _, ran⟩ := onTimerTick_cases s w due
      rw [ran] at member
      rw [← edits.timers]
      exact member
    · exact member
  by_cases ends : ∃ timerId, c = .endTimer timerId
  · obtain ⟨timerId, rfl⟩ := ends
    rw [call] at member
    split at member
    · exact removeTimer_subset s timerId member
    · exact member
  by_cases machine : c = .machineTimer
  · rw [machine] at member
    exact member
  · rwa [(Edits.call machine (fun timer same => move ⟨timer, same⟩)
      (fun timerId same => ends ⟨timerId, same⟩)).timers]
      at member

theorem Timed.call (timed : s.Timed) (w : LanWorld) (c : LanCall) : (s.call w c).1.Timed := by
  by_cases move : ∃ due, c = .moveTimer due
  · obtain ⟨due, rfl⟩ := move
    refine timed.fewer (fun timer member => call_timers member) ?_ ?_ ?_ <;> rw [LanNode.call] <;> split
    · obtain ⟨done, edits, ids, kept, ran⟩ := onTimerTick_cases s w due
      rw [ran]
      exact kept
    · exact fun _ _ found => found
    · rename_i waited
      obtain ⟨done, edits, ids, kept, ran⟩ := onTimerTick_cases s w due
      rw [ran]
      intro id member
      rcases List.mem_cons.mp member with rfl | before
      · exact timed.below due waited.1
      · exact timed.ended id before
    · exact timed.ended
    · obtain ⟨done, ⟨_, _, rfl⟩, ids, kept, ran⟩ := onTimerTick_cases s w due
      rw [ran]
    · rfl
  by_cases ends : ∃ timerId, c = .endTimer timerId
  · obtain ⟨timerId, rfl⟩ := ends
    rw [LanNode.call]
    split
    · refine timed.fewer (fun timer member => removeTimer_subset s timerId member) (fun name id found => ?_)
        (fun id member => timed.ended id (List.mem_filter.mp member).1) (removeTimer_nextTimerId s timerId)
      rwa [show (s.endTimer timerId).moveTimerId = s.moveTimerId from removeTimer_moveTimerId s timerId] at found
    · exact timed
  by_cases machine : c = .machineTimer
  · rw [machine]
    exact ⟨timed.below, timed.known, timed.named, timed.apart, timed.ended⟩
  · exact timed.edits
      (Edits.call machine (fun timer same => move ⟨timer, same⟩) (fun timerId same => ends ⟨timerId, same⟩))

/-- A node goes on waiting while no timer for the network runs and none that
has run out is removed. -/
theorem Timed.call_waits (timed : s.Timed) {c : LanCall} (waits : s.waitsFor name = true)
    (running : ∀ timer, c = .moveTimer timer → timer ∈ s.timers → timer.id ∉ s.ranOut → timer.name ≠ name)
    (ending : ∀ timerId, c = .endTimer timerId → timerId ∈ s.ranOut → ∀ timer ∈ s.timers, timer.id = timerId →
      timer.name ≠ name) :
    (s.call w c).1.waitsFor name = true := by
  by_cases move : ∃ due, c = .moveTimer due
  · obtain ⟨due, rfl⟩ := move
    rw [LanNode.call]
    split
    · rename_i waited
      obtain ⟨done, edits, ids, _, ran⟩ := onTimerTick_cases s w due
      obtain ⟨⟨timer, member, named, fresh⟩, called⟩ := waitsFor_iff.mp waits
      obtain ⟨_, _, rfl⟩ := edits
      rw [ran]
      refine waitsFor_iff.mpr ⟨⟨timer, member, named, fun wrong => ?_⟩, called⟩
      rcases List.mem_cons.mp wrong with same | before
      · exact running due rfl waited.1 waited.2 ((timed.apart timer member due waited.1 same).symm.trans named)
      · exact fresh before
    · exact waits
  by_cases ends : ∃ timerId, c = .endTimer timerId
  · obtain ⟨timerId, rfl⟩ := ends
    rw [LanNode.call]
    split
    · rename_i ranOut
      have kept := removeTimer_waits waits (ending timerId rfl ranOut)
      obtain ⟨⟨timer, member, named, fresh⟩, called⟩ := waitsFor_iff.mp kept
      rw [removeTimer_ranOut] at fresh
      exact waitsFor_iff.mpr ⟨⟨timer, member, named, fun wrong => fresh (List.mem_filter.mp wrong).1⟩, called⟩
    · exact waits
  by_cases machine : c = .machineTimer
  · rw [machine]
    exact waits
  · rw [(Edits.call machine (fun timer same => move ⟨timer, same⟩)
      (fun timerId same => ends ⟨timerId, same⟩)).waitsFor]
    exact waits

theorem Timed.receive (timed : s.Timed) (w : LanWorld) (addr : Bytes) (message : LanMessage) :
    (s.onMulticastReceive w addr message).1.Timed := by
  cases message with
  | machineInfo =>
    simp only [onMulticastReceive, addLanNode]
    split
    · exact timed
    · exact ⟨timed.below, timed.known, timed.named, timed.apart, timed.ended⟩
  | machineExit =>
    simp only [onMulticastReceive, deleteLanNode]
    split
    · exact timed
    · exact ⟨timed.below, timed.known, timed.named, timed.apart, timed.ended⟩
  | networkQuery =>
    rw [onMulticastReceive]
    split <;> exact timed
  | networkCreate machineId network => exact timed.edits (Edits.addNetworkFromMulticast s _)
  | networkDelete _ networkName => exact timed.edits (Edits.drop s networkName)
  | networkList machineId networks => exact timed.listEach w.now machineId networks
  | networkMove machineId networkName newMachineId queue =>
    exact (timed.edits (onMoveTo_edits s w machineId networkName newMachineId)).onCandidates _ _
  | networkMoveAck _ networkName newMachineId =>
    exact (timed.edits (moveNetworkAck_edits s networkName newMachineId)).removeMoveTimer _
  | networkJoin => exact timed.edits (Edits.one _ _ fun _ => .put _ _ _)
  | networkLeave => exact timed.edits (Edits.one _ _ fun _ => .put _ _ _)

/-- Only a `network move` starts a timer. -/
theorem receive_timers (member : timer ∈ (s.onMulticastReceive w addr message).1.timers) :
    timer ∈ s.timers ∨ ∃ machineId newMachineId queue, message =
      .networkMove machineId timer.name newMachineId queue := by
  cases message with
  | machineInfo =>
    simp only [onMulticastReceive, addLanNode] at member
    split at member <;> exact Or.inl member
  | machineExit =>
    simp only [onMulticastReceive, deleteLanNode] at member
    split at member <;> exact Or.inl member
  | networkQuery =>
    rw [onMulticastReceive] at member
    split at member <;> exact Or.inl member
  | networkCreate machineId network =>
    rw [onMulticastReceive, (Edits.addNetworkFromMulticast s _).timers] at member
    exact Or.inl member
  | networkDelete => exact Or.inl member
  | networkList machineId networks => exact Or.inl (listEach_subset member)
  | networkMove machineId networkName newMachineId queue =>
    obtain ⟨more, added, named⟩ := onCandidates_timers networkName queue.zipIdx
      (s.onMoveTo w machineId networkName newMachineId).1
    rw [onMulticastReceive, added, (onMoveTo_edits s w machineId networkName newMachineId).timers] at member
    rcases List.mem_append.mp member with before | new
    · exact Or.inl before
    · exact Or.inr ⟨machineId, newMachineId, queue, by rw [named timer new]⟩
  | networkMoveAck _ networkName newMachineId =>
    have before := removeMoveTimer_subset _ _ member
    rw [(moveNetworkAck_edits s networkName newMachineId).timers] at before
    exact Or.inl before
  | networkJoin _ networkName taskId =>
    have edits : s.Edits (s.joinNetwork w.now networkName taskId) := Edits.one _ _ fun _ => .put _ _ _
    rw [onMulticastReceive, edits.timers] at member
    exact Or.inl member
  | networkLeave _ networkName taskId =>
    have edits : s.Edits (s.leaveNetwork w.now networkName taskId) := Edits.one _ _ fun _ => .put _ _ _
    rw [onMulticastReceive, edits.timers] at member
    exact Or.inl member

/-- The node goes on waiting for the networks that a message does not
stop. -/
theorem Timed.receive_waits_other (timed : s.Timed) (w : LanWorld) (addr : Bytes) (waits : s.waitsFor name = true)
    (other : name ∉ message.stops) : (s.onMulticastReceive w addr message).1.waitsFor name = true := by
  cases message with
  | machineInfo =>
    simp only [onMulticastReceive, addLanNode]
    split <;> exact waits
  | machineExit =>
    simp only [onMulticastReceive, deleteLanNode]
    split <;> exact waits
  | networkQuery =>
    rw [onMulticastReceive]
    split <;> exact waits
  | networkCreate machineId network =>
    rw [onMulticastReceive, (Edits.addNetworkFromMulticast s _).waitsFor]
    exact waits
  | networkDelete => exact waits
  | networkList machineId networks =>
    refine timed.listEach_waits waits fun network inside same => other ?_
    rw [← same]
    exact List.mem_map_of_mem inside
  | networkMove machineId networkName newMachineId queue =>
    refine onCandidates_waits_mono networkName _ ?_
    rw [(onMoveTo_edits s w machineId networkName newMachineId).waitsFor]
    exact waits
  | networkMoveAck _ networkName newMachineId =>
    have edits := moveNetworkAck_edits s networkName newMachineId
    refine (timed.edits edits).removeMoveTimer_waits ?_ fun same => other ?_
    · rw [edits.waitsFor]
      exact waits
    · rw [same]
      exact List.mem_singleton_self networkName
  | networkJoin _ networkName taskId =>
    have edits : s.Edits (s.joinNetwork w.now networkName taskId) := Edits.one _ _ fun _ => .put _ _ _
    rw [onMulticastReceive, edits.waitsFor]
    exact waits
  | networkLeave _ networkName taskId =>
    have edits : s.Edits (s.leaveNetwork w.now networkName taskId) := Edits.one _ _ fun _ => .put _ _ _
    rw [onMulticastReceive, edits.waitsFor]
    exact waits

/-- A candidate waits. -/
theorem Timed.receive_waits (timed : s.Timed) {machineId newMachineId : Bytes} {queue : List Bytes} (w : LanWorld)
    (addr : Bytes) (candidate : s.machineId ∈ queue.take 3) :
    (s.onMulticastReceive w addr (.networkMove machineId name newMachineId queue)).1.waitsFor name = true := by
  obtain ⟨i, inside, early⟩ := mem_zipIdx_take candidate
  have edits := onMoveTo_edits s w machineId name newMachineId
  exact (timed.edits edits).onCandidates_waits (by rw [edits.machineId]; exact inside) early

end LanNode

end DbcNode
