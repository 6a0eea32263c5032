import DbcNode.Task.ChainClient
import DbcNode.Task.Owners

namespace DbcNode

/-- The answers to the three queries of a round. -/
structure ChainAnswers where
  machineInfo : List ChainAnswer
  rentOrder : List ChainAnswer
  block : List ChainAnswer

/-- What the queries of a round give. -/
structure ChainFacts where
  machineStatus : MachineStatus
  curRenter : Bytes
  curRentEnd : Int
  curBlock : Int

namespace ChainAnswers
variable (answers : ChainAnswers)

def facts : Except (Stop Bytes) ChainFacts := do
  let (curRenter, curRentEnd) ← ChainAnswer.requestCurRenter answers.rentOrder
  let curBlock ← ChainAnswer.requestCurBlock answers.block
  .ok ⟨ChainAnswer.requestMachineStatus answers.machineInfo, curRenter, curRentEnd, curBlock⟩

/-- An answer says that the machine is being verified or is free. -/
def StatusNotRented : Prop := ∃ text, ChainAnswer.textOf (str "machineStatus") answers.machineInfo = some text ∧
  (text ∈ ChainAnswer.verifyTexts ∨ text ∈ ChainAnswer.onlineTexts)

/-- An answer says that another wallet rents the machine. -/
def RentedByOther (wallet : Bytes) : Prop :=
  ∃ renter, ChainAnswer.textOf (str "renter") answers.rentOrder = some renter ∧ renter ≠ wallet

def ShowsNotRented (wallet : Bytes) : Prop := answers.StatusNotRented ∨ answers.RentedByOther wallet

end ChainAnswers

/-- A call of `delete_task` or `close_task` for a task of a wallet. -/
structure PruneAct where
  wallet : Bytes
  taskId : Bytes
  deletes : Bool
  deriving DecidableEq

def isCheckTask (taskId : Bytes) : Bool := holdsText taskId (str "vm_check_")

/-- What becomes of a task for the status of the machine alone, where
something does: whether it is deleted. -/
def statusCall : MachineStatus → (check : Bool) → Option Bool
  | .verify, check => if check then none else some false
  | .online, check => some check
  | .rented, check => if check then some true else none
  | .unknown, _ => none

/-- The blocks of ten days. -/
def gracePeriod : Int := 120 * 24 * 10

/-- The sum is one of 64 bits. -/
def reserveEnd (rentEnd : Int) : Int := Int.bmod (rentEnd + gracePeriod) (2 ^ 64)

namespace Host

def rentEndOf (wallet : Bytes) (h : Host) : Int := ((h.walletRentTasks.find wallet).map (·.rentEnd)).getD 0

/-- `setRentEnd` and `WalletRentTaskManager::update`. -/
def setRentEnd (wallet : Bytes) (rentEnd : Int) (h : Host) : Host :=
  match h.walletRentTasks.find wallet with
  | none => h
  | some rent => { h with walletRentTasks := h.walletRentTasks.insert wallet { rent with rentEnd := rentEnd } }

end Host

/-- The node in the middle of a round, and what was called so far. -/
structure Sweep where
  host : Host
  acts : List PruneAct

namespace Sweep
variable (worlds : Nat → World)

def call (wallet taskId : Bytes) (deletes : Bool) (s : Sweep) : Sweep where
  host :=
    if deletes then s.host.destroyTask (worlds s.acts.length) taskId
    else s.host.closeTask (worlds s.acts.length) taskId
  acts := s.acts ++ [⟨wallet, taskId, deletes⟩]

/-- A loop over tasks of a wallet. -/
def each (wallet : Bytes) (pick : Bytes → Option Bool) (taskIds : List Bytes) (s : Sweep) : Sweep :=
  taskIds.foldl (fun s taskId => match pick taskId with
    | none => s
    | some deletes => s.call worlds wallet taskId deletes) s

def byStatus (machineStatus : MachineStatus) (wallet : Bytes) (s : Sweep) : Sweep :=
  s.each worlds wallet (fun taskId => statusCall machineStatus (isCheckTask taskId)) (s.host.taskIdsOf wallet)

/-- The tasks of a wallet that does not rent the machine are stopped, and
after the grace period they are deleted. The one that does may have paid for
longer. -/
def byRenter (facts : ChainFacts) (wallet : Bytes) (s : Sweep) : Sweep :=
  if wallet ≠ facts.curRenter then
    let closed := s.each worlds wallet (fun _ => some false) (s.host.taskIdsOf wallet)
    if 0 < facts.curBlock ∧ reserveEnd (closed.host.rentEndOf wallet) < facts.curBlock then
      closed.each worlds wallet (fun _ => some true) (closed.host.taskIdsOf wallet)
    else closed
  else if s.host.rentEndOf wallet < facts.curRentEnd then
    { s with host := s.host.setRentEnd wallet facts.curRentEnd }
  else s

def pruneWallet (facts : ChainFacts) (s : Sweep) (wallet : Bytes) : Sweep :=
  let s := s.byStatus worlds facts.machineStatus wallet
  if facts.machineStatus = .online ∨ facts.machineStatus = .rented then s.byRenter worlds facts wallet else s

end Sweep

namespace Host
variable (worlds : Nat → World)

/-- A round of `prune_task_thread_func`. A query that fails an assertion
ends the process. -/
def pruneTasks (answers : ChainAnswers) (h : Host) : Except (Stop Bytes) Sweep :=
  if ChainAnswer.requestMachineStatus answers.machineInfo = .unknown then .ok ⟨h, []⟩
  else do
    let facts ← answers.facts
    .ok (h.walletRentTasks.keys.foldl (Sweep.pruneWallet worlds facts) ⟨h, []⟩)

/-- What a round calls. -/
def pruneActs (answers : ChainAnswers) (h : Host) : List PruneAct :=
  match pruneTasks worlds answers h with
  | .ok sweep => sweep.acts
  | .error _ => []

/-- No task is stopped or deleted but on an answer of this round that says
that its wallet does not rent the machine, and only a check task is deleted
before the grace period is over. -/
structure PruneJustified (answers : ChainAnswers) (h : Host) : Prop where
  shown : ∀ act ∈ pruneActs worlds answers h, answers.ShowsNotRented act.wallet
  overdue : ∀ act ∈ pruneActs worlds answers h, act.deletes = true → isCheckTask act.taskId = false →
    ∃ rent block, h.walletRentTasks.find act.wallet = some rent ∧
      ChainAnswer.blockNumber answers.block = .ok (some block) ∧ rent.rentEnd + gracePeriod < block

/-- The ends of the rents are numbers of 64 bits. -/
def RentEndsFit (h : Host) : Prop :=
  ∀ wallet rent, h.walletRentTasks.find wallet = some rent → -2 ^ 63 ≤ rent.rentEnd ∧ rent.rentEnd < 2 ^ 63

/-- The answers are enough to say who does not rent the machine: an answer
has a status other than rented, or every wallet with tasks is told apart
from a renter that is known or is the one that is taken for the renter,
without check tasks. And no rent that is compared with the block ends past
the numbers of 64 bits. -/
structure AnswersSuffice (answers : ChainAnswers) (facts : ChainFacts) (h : Host) : Prop where
  shown : answers.StatusNotRented ∨ ∀ wallet, h.taskIdsOf wallet ≠ [] → answers.RentedByOther wallet ∨
    facts.machineStatus = .rented ∧ wallet = facts.curRenter ∧ ∀ taskId ∈ h.taskIdsOf wallet,
      isCheckTask taskId = false
  fits : facts.machineStatus ≠ .verify → 0 < facts.curBlock →
    ∀ wallet rent, h.walletRentTasks.find wallet = some rent →
    wallet ≠ facts.curRenter → (∃ taskId ∈ rent.taskIds, isCheckTask taskId = false) →
      rent.rentEnd + gracePeriod < 2 ^ 63

end Host

namespace Host
variable {h : Host} {w : World} {taskId wallet other : Bytes} {rent : WalletRentTask}

/-- The rent of a wallet after a call for a task: nothing but that task can
be missing. -/
def Lessened (taskId : Bytes) (rent left : WalletRentTask) : Prop :=
  left.rentEnd = rent.rentEnd ∧ left.taskIds ⊆ rent.taskIds ∧
    ∀ other ∈ rent.taskIds, other ≠ taskId → other ∈ left.taskIds

theorem delRentTask_find (taskId : Bytes) (found : h.walletRentTasks.find wallet = some rent) :
    ∃ left, (h.delRentTask taskId).walletRentTasks.find wallet = some left ∧ Lessened taskId rent left := by
  unfold delRentTask
  split
  · exact ⟨rent, found, rfl, fun _ member => member, fun _ member _ => member⟩
  · rename_i owner owned first
    by_cases same : wallet = owner
    · subst same
      have member := OrdMap.find_eq_some.mpr (List.mem_of_find?_eq_some first)
      have equal : owned = rent := Option.some.inj (member.symm.trans found)
      subst equal
      exact ⟨_, OrdMap.find_insert_self _ _ _, rfl, List.erase_subset, fun other member different =>
        (List.mem_erase_of_ne different).mpr member⟩
    · rw [OrdMap.find_insert_ne same]
      exact ⟨rent, found, rfl, fun _ member => member, fun _ member _ => member⟩

/-- A task of one wallet is not taken from a wallet behind it. -/
theorem delRentTask_find_behind (found : h.walletRentTasks.find wallet = some rent) (listed : taskId ∈ rent.taskIds)
    (behind : wallet < other) : (h.delRentTask taskId).walletRentTasks.find other =
      h.walletRentTasks.find other := by
  unfold delRentTask
  split
  · rfl
  · rename_i owner owned first
    refine OrdMap.find_insert_ne (fun same => ?_) _ _
    subst same
    obtain ⟨_, before, after, split, none⟩ := List.find?_eq_some_iff_append.mp first
    have inside := OrdMap.find_eq_some.mp found
    have sorted := h.walletRentTasks.sorted
    rw [split] at inside sorted
    rcases List.mem_append.mp inside with early | late
    · simpa [listed] using none _ early
    · rcases List.mem_cons.mp late with same | later
      · cases same
        exact Std.Asymm.asymm _ _ behind behind
      · have ahead : other < wallet := (List.pairwise_cons.mp (List.pairwise_append.mp sorted).2.1).1 _ later
        exact Std.Asymm.asymm _ _ behind ahead

theorem destroyTask_rents (known : (h.taskInfos.find taskId).isSome) :
    (h.destroyTask w taskId).walletRentTasks = (h.delRentTask taskId).walletRentTasks := by
  have stopped := destroyAndUndefineDomain_only w taskId (h := h)
  obtain ⟨info, found⟩ := Option.isSome_iff_exists.mp known
  have same := (stopped.info (by simp)).trans found
  unfold destroyTask
  dsimp only
  rw [same]
  dsimp only
  have rents : ∀ k : Host, k.walletRentTasks = h.walletRentTasks →
      (k.delRentTask taskId).walletRentTasks = (h.delRentTask taskId).walletRentTasks := by
    intro k equal
    unfold delRentTask
    rw [equal]
    split
    · exact equal
    · rfl
  refine rents _ ?_
  rw [(delIptable_only taskId _).rents (by simp), (removeIptableFromSystem_only taskId _).rents (by simp),
    (delSnapshots_only taskId _).rents (by simp), (delDisks_only taskId _).rents (by simp),
    (delGpus_only taskId _).rents (by simp), (delInfo_only taskId _).rents (by simp), stopped.rents (by simp)]

theorem destroyTask_rents_unknown (unknown : h.taskInfos.find taskId = none) :
    (h.destroyTask w taskId).walletRentTasks = h.walletRentTasks := by
  have stopped := destroyAndUndefineDomain_only w taskId (h := h)
  have same := (stopped.info (by simp)).trans unknown
  unfold destroyTask
  dsimp only
  rw [same]
  exact stopped.rents (by simp)

end Host

namespace Sweep
variable {worlds : Nat → World} {s : Sweep} {wallet other taskId : Bytes} {rent : WalletRentTask} {deletes : Bool}

/-- Which tasks of a list are known are tasks of the wallet. -/
def Held (wallet : Bytes) (taskIds : List Bytes) (s : Sweep) : Prop :=
  ∀ taskId ∈ taskIds, (s.host.taskInfos.find taskId).isSome →
    ∃ rent, s.host.walletRentTasks.find wallet = some rent ∧ taskId ∈ rent.taskIds

theorem Held.of_find (found : s.host.walletRentTasks.find wallet = some rent) : Held wallet rent.taskIds s :=
  fun _ member _ => ⟨rent, found, member⟩

/-- What a call leaves of the rent of its wallet. -/
theorem call_find (worlds : Nat → World) (owner taskId : Bytes) (deletes : Bool)
    (found : s.host.walletRentTasks.find wallet = some rent) :
    ∃ left, (s.call worlds owner taskId deletes).host.walletRentTasks.find wallet = some left ∧
      Host.Lessened taskId rent left ∧ (deletes = false → left = rent) := by
  cases deletes with
  | false =>
    have same : (s.call worlds owner taskId false).host.walletRentTasks = s.host.walletRentTasks :=
      (Host.closeTask_only _ taskId s.host).rents (by simp)
    exact ⟨rent, same ▸ found, ⟨rfl, fun _ member => member, fun _ member _ => member⟩, fun _ => rfl⟩
  | true =>
    rcases Option.eq_none_or_eq_some (s.host.taskInfos.find taskId) with unknown | ⟨info, known⟩
    · have same : (s.call worlds owner taskId true).host.walletRentTasks = s.host.walletRentTasks :=
        Host.destroyTask_rents_unknown unknown
      exact ⟨rent, same ▸ found, ⟨rfl, fun _ member => member, fun _ member _ => member⟩,
        fun wrong => (by cases wrong)⟩
    · have same : (s.call worlds owner taskId true).host.walletRentTasks =
        (s.host.delRentTask taskId).walletRentTasks :=
        Host.destroyTask_rents (by rw [known]; rfl)
      obtain ⟨left, has, less⟩ := Host.delRentTask_find taskId found
      exact ⟨left, same ▸ has, less, fun wrong => (by cases wrong)⟩

theorem call_held {rest : List Bytes} (held : Held wallet (taskId :: rest) s) :
    Held wallet rest (s.call worlds wallet taskId deletes) := by
  intro other member known
  have before : (s.host.taskInfos.find other).isSome ∧ (deletes = true → other ≠ taskId) := by
    cases deletes with
    | false =>
      refine ⟨?_, fun wrong => (by cases wrong)⟩
      exact (Host.closeTask_only _ taskId s.host).known (by simp) ▸ known
    | true =>
      have different : other ≠ taskId := by
        rintro rfl
        have gone : ((s.host.destroyTask (worlds s.acts.length) other).taskInfos.find other).isSome := known
        rw [Host.destroyTask_unknown] at gone
        cases gone
      have spared : Host.Part.known other ∉ Host.destroyParts taskId := by
        simp [Host.destroyParts, Host.recordParts, different]
      exact ⟨(Host.destroyTask_only _ taskId s.host).known spared ▸ known, fun _ => different⟩
  obtain ⟨rent, found, listed⟩ := held other (List.mem_cons_of_mem _ member) before.1
  obtain ⟨left, has, less, kept⟩ := call_find worlds wallet taskId deletes found
  refine ⟨left, has, ?_⟩
  cases deletes with
  | false => exact kept rfl ▸ listed
  | true => exact less.2.2 other listed (before.2 rfl)

theorem call_behind {rest : List Bytes} (held : Held wallet (taskId :: rest) s) (behind : wallet < other) :
    (s.call worlds wallet taskId deletes).host.walletRentTasks.find other = s.host.walletRentTasks.find other := by
  cases deletes with
  | false => exact congrArg (·.find other) ((Host.closeTask_only _ taskId s.host).rents (by simp))
  | true =>
    rcases Option.eq_none_or_eq_some (s.host.taskInfos.find taskId) with unknown | ⟨info, known⟩
    · exact congrArg (·.find other) (Host.destroyTask_rents_unknown unknown)
    · have isKnown : (s.host.taskInfos.find taskId).isSome := by rw [known]; rfl
      obtain ⟨rent, found, listed⟩ := held taskId List.mem_cons_self isKnown
      exact (congrArg (·.find other) (Host.destroyTask_rents isKnown)).trans
        (Host.delRentTask_find_behind found listed behind)

section Each
variable {pick : Bytes → Option Bool} {taskIds : List Bytes}

theorem each_cons (first : Bytes) : s.each worlds wallet pick (first :: taskIds) =
    (match pick first with
      | none => s
      | some deletes => s.call worlds wallet first deletes).each worlds wallet pick taskIds := rfl

theorem each_acts : (s.each worlds wallet pick taskIds).acts =
    s.acts ++ taskIds.filterMap (fun taskId => (pick taskId).map (fun deletes => ⟨wallet, taskId, deletes⟩)) := by
  induction taskIds generalizing s with
  | nil => exact (List.append_nil _).symm
  | cons first rest ih =>
    rw [each_cons, ih]
    cases picked : pick first with
    | none => rw [List.filterMap_cons_none (by rw [picked]; rfl)]
    | some deletes =>
      rw [List.filterMap_cons_some (by rw [picked]; rfl)]
      exact List.append_assoc _ _ _

theorem each_behind (worlds : Nat → World) (pick : Bytes → Option Bool) (held : Held wallet taskIds s)
    (behind : wallet < other) :
    (s.each worlds wallet pick taskIds).host.walletRentTasks.find other = s.host.walletRentTasks.find other := by
  induction taskIds generalizing s with
  | nil => rfl
  | cons first rest ih =>
    rw [each_cons]
    cases pick first with
    | none => exact ih (fun taskId member => held taskId (List.mem_cons_of_mem _ member))
    | some deletes => exact (ih (call_held held)).trans (call_behind held behind)

/-- A loop over tasks of a wallet takes only those from it that it
deletes. -/
theorem each_find (worlds : Nat → World) (pick : Bytes → Option Bool) (taskIds : List Bytes)
    (found : s.host.walletRentTasks.find wallet = some rent) :
    ∃ left, (s.each worlds wallet pick taskIds).host.walletRentTasks.find wallet = some left ∧
      left.rentEnd = rent.rentEnd ∧ left.taskIds ⊆ rent.taskIds ∧
      ∀ taskId ∈ rent.taskIds, pick taskId ≠ some true → taskId ∈ left.taskIds := by
  induction taskIds generalizing s rent with
  | nil => exact ⟨rent, found, rfl, fun _ member => member, fun _ member _ => member⟩
  | cons first rest ih =>
    rw [each_cons]
    cases picked : pick first with
    | none => exact ih found
    | some deletes =>
      obtain ⟨middle, has, ⟨sameEnd, fewer, spared⟩, kept⟩ :=
        call_find worlds wallet first deletes found
      obtain ⟨left, last, lastEnd, lastFewer, lastSpared⟩ := ih has
      refine ⟨left, last, lastEnd.trans sameEnd, fun _ member => fewer (lastFewer member),
        fun taskId member unpicked => ?_⟩
      refine lastSpared taskId ?_ unpicked
      by_cases same : taskId = first
      · subst same
        have stays : deletes = false := by
          cases deletes with
          | false => rfl
          | true => exact (unpicked picked).elim
        exact kept stays ▸ member
      · exact spared taskId member same

end Each

end Sweep

/-- What a round calls for a rent: for the status of the machine, or for a
renter that is another wallet. -/
def ChainFacts.Calls (facts : ChainFacts) (rent : WalletRentTask) (act : PruneAct) : Prop :=
  act.taskId ∈ rent.taskIds ∧ (statusCall facts.machineStatus (isCheckTask act.taskId) = some act.deletes ∨
    (facts.machineStatus = .online ∨ facts.machineStatus = .rented) ∧ act.wallet ≠ facts.curRenter ∧
      (act.deletes = true → 0 < facts.curBlock ∧ reserveEnd rent.rentEnd < facts.curBlock))

namespace Sweep
variable {worlds : Nat → World} {s : Sweep} {wallet other : Bytes} {rent : WalletRentTask} {facts : ChainFacts}
    {act : PruneAct}

theorem mem_each {pick : Bytes → Option Bool} {taskIds : List Bytes} :
    act ∈ (s.each worlds wallet pick taskIds).acts ↔
    act ∈ s.acts ∨ act.wallet = wallet ∧ act.taskId ∈ taskIds ∧ pick act.taskId = some act.deletes := by
  rw [each_acts, List.mem_append, List.mem_filterMap]
  refine or_congr_right ⟨?_, ?_⟩
  · rintro ⟨taskId, member, made⟩
    obtain ⟨deletes, picked, rfl⟩ := Option.map_eq_some_iff.mp made
    exact ⟨rfl, member, picked⟩
  · rintro ⟨rfl, member, picked⟩
    exact ⟨act.taskId, member, by rw [picked]; rfl⟩

theorem mem_byStatus (found : s.host.walletRentTasks.find wallet = some rent) (machineStatus : MachineStatus) :
    act ∈ (s.byStatus worlds machineStatus wallet).acts ↔
      act ∈ s.acts ∨ act.wallet = wallet ∧ act.taskId ∈ rent.taskIds ∧
      statusCall machineStatus (isCheckTask act.taskId) = some act.deletes := by
  rw [byStatus, mem_each, Host.taskIdsOf_eq found]

theorem rentEndOf_eq {h : Host} (found : h.walletRentTasks.find wallet = some rent) :
    h.rentEndOf wallet = rent.rentEnd := by
  rw [Host.rentEndOf, found]
  rfl

theorem mem_byRenter (found : s.host.walletRentTasks.find wallet = some rent) :
    act ∈ (s.byRenter worlds facts wallet).acts ↔ act ∈ s.acts ∨ act.wallet = wallet ∧ act.taskId ∈ rent.taskIds ∧
      wallet ≠ facts.curRenter ∧
        (act.deletes = true → 0 < facts.curBlock ∧ reserveEnd rent.rentEnd < facts.curBlock) := by
  obtain ⟨left, has, sameEnd, fewer, spared⟩ :=
    each_find worlds (fun _ => some false) (s.host.taskIdsOf wallet) found
  have whole : ∀ taskId, taskId ∈ left.taskIds ↔ taskId ∈ rent.taskIds :=
    fun taskId => ⟨fun member => fewer member, fun member => spared taskId member (by simp)⟩
  unfold byRenter
  extract_lets closed
  split
  · rename_i different
    have closes : act ∈ closed.acts ↔
        act ∈ s.acts ∨ act.wallet = wallet ∧ act.taskId ∈ rent.taskIds ∧ act.deletes = false := by
      rw [mem_each, Host.taskIdsOf_eq found, Option.some_inj, @eq_comm _ false]
    rw [rentEndOf_eq has, sameEnd]
    split
    · rename_i late
      rw [mem_each, closes, Host.taskIdsOf_eq has, whole, Option.some_inj, or_assoc]
      refine or_congr_right ⟨?_, ?_⟩
      · rintro (⟨own, member, _⟩ | ⟨own, member, _⟩)
        · exact ⟨own, member, different, fun _ => late⟩
        · exact ⟨own, member, different, fun _ => late⟩
      · rintro ⟨own, member, _⟩
        cases deletes : act.deletes with
        | false => exact Or.inl ⟨own, member, rfl⟩
        | true => exact Or.inr ⟨own, member, rfl⟩
    · rename_i early
      rw [closes]
      refine or_congr_right ⟨?_, ?_⟩
      · rintro ⟨own, member, stays⟩
        exact ⟨own, member, different, fun deletes => (by rw [stays] at deletes; cases deletes)⟩
      · rintro ⟨own, member, _, late⟩
        cases deletes : act.deletes with
        | false => exact ⟨own, member, rfl⟩
        | true => exact (early (late deletes)).elim
  · rename_i same
    have nothing : ∀ k : Sweep, k.acts = s.acts → (act ∈ k.acts ↔ act ∈ s.acts ∨ act.wallet = wallet ∧
        act.taskId ∈ rent.taskIds ∧ wallet ≠ facts.curRenter ∧
        (act.deletes = true → 0 < facts.curBlock ∧ reserveEnd rent.rentEnd < facts.curBlock)) := by
      intro k acts
      rw [acts]
      refine ⟨Or.inl, ?_⟩
      rintro (before | ⟨_, _, different, _⟩)
      · exact before
      · exact (same different).elim
    split
    · exact nothing _ rfl
    · exact nothing _ rfl

theorem setRentEnd_behind {h : Host} (rentEnd : Int) (behind : wallet < other) :
    (h.setRentEnd wallet rentEnd).walletRentTasks.find other = h.walletRentTasks.find other := by
  unfold Host.setRentEnd
  split
  · rfl
  · refine OrdMap.find_insert_ne (fun same => ?_) _ _
    subst same
    exact Std.Asymm.asymm _ _ behind behind

theorem byRenter_behind (found : s.host.walletRentTasks.find wallet = some rent) (behind : wallet < other) :
    (s.byRenter worlds facts wallet).host.walletRentTasks.find other = s.host.walletRentTasks.find other := by
  obtain ⟨left, has, _⟩ := each_find worlds (fun _ => some false) (s.host.taskIdsOf wallet) found
  have closes := each_behind worlds (fun _ => some false) (Host.taskIdsOf_eq found ▸ Held.of_find found) behind
  unfold byRenter
  extract_lets closed
  split
  · split
    · exact (each_behind worlds _ (Host.taskIdsOf_eq has ▸ Held.of_find has) behind).trans closes
    · exact closes
  · split
    · exact setRentEnd_behind _ behind
    · rfl

/-- What is called for a wallet when its turn comes. A check task may be
gone before the renter is looked at. -/
structure Turn (facts : ChainFacts) (wallet : Bytes) (rent : WalletRentTask) (s t : Sweep) : Prop where
  calls : ∀ act ∈ t.acts, act ∈ s.acts ∨ act.wallet = wallet ∧ facts.Calls rent act
  called : ∀ act, act.wallet = wallet → facts.Calls rent act → (isCheckTask act.taskId = true →
    statusCall facts.machineStatus (isCheckTask act.taskId) = some act.deletes) → act ∈ t.acts
  before : ∀ act ∈ s.acts, act ∈ t.acts
  behind : ∀ other, wallet < other → t.host.walletRentTasks.find other = s.host.walletRentTasks.find other

theorem statusCall_true {machineStatus : MachineStatus} {check : Bool}
    (deleted : statusCall machineStatus check = some true) :
    check = true := by
  cases machineStatus <;> cases check <;> simp_all [statusCall]

theorem pruneWallet_turn (found : s.host.walletRentTasks.find wallet = some rent) :
    Turn facts wallet rent s (s.pruneWallet worlds facts wallet) := by
  have status := fun act => @mem_byStatus worlds s wallet rent act found facts.machineStatus
  have first : ∀ other, wallet < other →
    (s.byStatus worlds facts.machineStatus wallet).host.walletRentTasks.find other =
      s.host.walletRentTasks.find other :=
    fun other behind => each_behind worlds _ (Host.taskIdsOf_eq found ▸ Held.of_find found) behind
  obtain ⟨left, has, sameEnd, fewer, spared⟩ := each_find worlds
    (fun taskId => statusCall facts.machineStatus (isCheckTask taskId)) (s.host.taskIdsOf wallet) found
  have renter := fun act => @mem_byRenter worlds _ wallet left facts act has
  unfold pruneWallet
  extract_lets middle
  split
  · rename_i settled
    refine ⟨fun act member => ?_, fun act own ⟨listed, why⟩ checked => ?_, fun act member => ?_,
      fun other behind => ?_⟩
    · rcases (renter act).mp member with early | ⟨own, listed, different, late⟩
      · rcases (status act).mp early with before | ⟨own, listed, why⟩
        · exact Or.inl before
        · exact Or.inr ⟨own, listed, Or.inl why⟩
      · exact Or.inr ⟨own, fewer listed, Or.inr ⟨settled, own ▸ different, sameEnd ▸ late⟩⟩
    · refine (renter act).mpr ?_
      rcases why with why | ⟨_, different, late⟩
      · exact Or.inl ((status act).mpr (Or.inr ⟨own, listed, why⟩))
      · cases check : isCheckTask act.taskId with
        | true => exact Or.inl ((status act).mpr (Or.inr ⟨own, listed, checked check⟩))
        | false =>
          have stays : act.taskId ∈ left.taskIds := by
            refine spared _ listed (fun deleted => ?_)
            rw [statusCall_true deleted] at check
            cases check
          exact Or.inr ⟨own, stays, own ▸ different, sameEnd ▸ late⟩
    · exact (renter act).mpr (Or.inl ((status act).mpr (Or.inl member)))
    · exact (byRenter_behind has behind).trans (first other behind)
  · rename_i unsettled
    refine ⟨fun act member => ?_, fun act own ⟨listed, why⟩ checked => ?_, fun act member => ?_, first⟩
    · rcases (status act).mp member with before | ⟨own, listed, why⟩
      · exact Or.inl before
      · exact Or.inr ⟨own, listed, Or.inl why⟩
    · rcases why with why | ⟨settled, _⟩
      · exact (status act).mpr (Or.inr ⟨own, listed, why⟩)
      · exact (unsettled settled).elim
    · exact (status act).mpr (Or.inl member)

/-- What is called while some wallets have their turns. -/
structure Turns (facts : ChainFacts) (wallets : List Bytes) (s t : Sweep) : Prop where
  calls : ∀ act ∈ t.acts, act ∈ s.acts ∨ act.wallet ∈ wallets ∧
    ∃ rent, s.host.walletRentTasks.find act.wallet = some rent ∧ facts.Calls rent act
  called : ∀ act rent, act.wallet ∈ wallets → s.host.walletRentTasks.find act.wallet = some rent →
    facts.Calls rent act →
    (isCheckTask act.taskId = true → statusCall facts.machineStatus (isCheckTask act.taskId) = some act.deletes) →
    act ∈ t.acts
  before : ∀ act ∈ s.acts, act ∈ t.acts

/-- When wallets take their turns in order, each finds its rent as it
was. -/
theorem pruneWallets_turns {wallets : List Bytes} (sorted : wallets.Pairwise (· < ·))
    (rented : ∀ wallet ∈ wallets, ∃ rent, s.host.walletRentTasks.find wallet = some rent) :
    Turns facts wallets s (wallets.foldl (pruneWallet worlds facts) s) := by
  induction wallets generalizing s with
  | nil => exact ⟨fun act member => Or.inl member, fun act rent wrong => (by cases wrong), fun act member => member⟩
  | cons wallet rest ih =>
    obtain ⟨ahead, tail⟩ := List.pairwise_cons.mp sorted
    obtain ⟨rent, found⟩ := rented wallet List.mem_cons_self
    have turn : Turn facts wallet rent s (s.pruneWallet worlds facts wallet) := pruneWallet_turn found
    have later : Turns facts rest (s.pruneWallet worlds facts wallet) _ := ih tail (fun other member => by
      obtain ⟨rent, found⟩ := rented other (List.mem_cons_of_mem _ member)
      exact ⟨rent, (turn.behind other (ahead other member)).trans found⟩)
    refine ⟨fun act member => ?_, fun act owned listed has calls checked => ?_, fun act member => ?_⟩
    · rcases later.calls act member with early | ⟨listed, owned, has, calls⟩
      · rcases turn.calls act early with before | ⟨own, calls⟩
        · exact Or.inl before
        · subst own
          exact Or.inr ⟨List.mem_cons_self, rent, found, calls⟩
      · exact Or.inr ⟨List.mem_cons_of_mem _ listed, owned, (turn.behind _ (ahead _ listed)).symm.trans has, calls⟩
    · rcases List.mem_cons.mp listed with own | listed
      · have same : owned = rent := Option.some.inj (has.symm.trans (own ▸ found))
        subst same
        exact later.before act (turn.called act own calls checked)
      · exact later.called act owned listed ((turn.behind _ (ahead _ listed)).trans has) calls checked
    · exact later.before act (turn.before act member)

end Sweep

end DbcNode
