import DbcNode.Task.Prune

namespace DbcNode

namespace Host

namespace SameTask
variable {taskId : Bytes} {h k l : Host}

theorem refl (h : Host) : SameTask taskId h h := ⟨fun _ _ => rfl, rfl⟩

theorem trans (first : SameTask taskId h k) (second : SameTask taskId k l) : SameTask taskId h l :=
  ⟨fun part own => (second.1 part own).trans (first.1 part own), second.2.trans first.2⟩

theorem of_only {parts : Set Part} (only : Only parts h k) {other : Bytes} (within : Within other parts)
    (different : taskId ≠ other) (events : .events ∉ parts) : SameTask taskId h k :=
  ⟨fun part own => only part (within.other own different), congrArg _ (only.events events)⟩

end SameTask

theorem closeTask_sameTask (w : World) {taskId other : Bytes} (h : Host) (different : taskId ≠ other) :
    SameTask taskId h (h.closeTask w other) :=
  .of_only (closeTask_only w other h) (closeParts_within other) different (by simp)

theorem destroyTask_sameTask (w : World) {taskId other : Bytes} (h : Host) (different : taskId ≠ other) :
    SameTask taskId h (h.destroyTask w other) :=
  .of_only (destroyTask_only w other h) (destroyParts_within other) different (by simp [destroyParts, recordParts])

theorem setRentEnd_sameTask (wallet : Bytes) (rentEnd : Int) {taskId : Bytes} (h : Host) :
    SameTask taskId h (h.setRentEnd wallet rentEnd) := by
  unfold setRentEnd
  split
  · exact .refl h
  · refine ⟨fun part own => rents_only h _ part (fun member => ?_), rfl⟩
    rw [Set.mem_singleton_iff.mp member] at own
    cases own

end Host

namespace Sweep
variable {worlds : Nat → World} {s t u : Sweep} {wallet taskId : Bytes} {facts : ChainFacts}

/-- Calls were added, and what was not called for is as before. -/
structure Grows (taskId : Bytes) (s t : Sweep) : Prop where
  acts : s.acts <+: t.acts
  same : (∀ act ∈ t.acts, act.taskId ≠ taskId) → Host.SameTask taskId s.host t.host

namespace Grows

theorem refl (s : Sweep) : Grows taskId s s := ⟨List.prefix_rfl, fun _ => .refl s.host⟩

theorem trans (first : Grows taskId s t) (second : Grows taskId t u) : Grows taskId s u :=
  ⟨first.acts.trans second.acts, fun unnamed =>
    (first.same (fun act member => unnamed act (second.acts.subset member))).trans (second.same unnamed)⟩

theorem call (other : Bytes) (deletes : Bool) (s : Sweep) :
    Grows taskId s (s.call worlds wallet other deletes) := by
  refine ⟨List.prefix_append _ _, fun unnamed => ?_⟩
  have different : other ≠ taskId := unnamed ⟨wallet, other, deletes⟩ (List.mem_append_right _ List.mem_cons_self)
  cases deletes with
  | false => exact Host.closeTask_sameTask _ s.host different.symm
  | true => exact Host.destroyTask_sameTask _ s.host different.symm

theorem each (pick : Bytes → Option Bool) (taskIds : List Bytes) (s : Sweep) :
    Grows taskId s (s.each worlds wallet pick taskIds) := by
  induction taskIds generalizing s with
  | nil => exact .refl s
  | cons first rest ih =>
    rw [each_cons]
    cases pick first with
    | none => exact ih s
    | some deletes => exact (call first deletes s).trans (ih _)

theorem pruneWallet (s : Sweep) : Grows taskId s (s.pruneWallet worlds facts wallet) := by
  have status : Grows taskId s (s.byStatus worlds facts.machineStatus wallet) := each _ _ s
  unfold Sweep.pruneWallet
  extract_lets middle
  split
  · refine status.trans ?_
    unfold byRenter
    extract_lets closed
    have closes : Grows taskId middle closed := each _ _ middle
    split
    · split
      · exact closes.trans (each _ _ closed)
      · exact closes
    · split
      · exact ⟨List.prefix_rfl, fun _ => Host.setRentEnd_sameTask _ _ _⟩
      · exact .refl middle
  · exact status

theorem pruneWallets (wallets : List Bytes) (s : Sweep) :
    Grows taskId s (wallets.foldl (Sweep.pruneWallet worlds facts) s) := by
  induction wallets generalizing s with
  | nil => exact .refl s
  | cons wallet rest ih => exact (pruneWallet s).trans (ih _)

end Grows

end Sweep

namespace Host
variable {worlds : Nat → World} {answers : ChainAnswers} {facts : ChainFacts} {h : Host}

theorem pruneTasks_ok (ran : answers.facts = .ok facts) : pruneTasks worlds answers h =
    .ok (h.walletRentTasks.keys.foldl (Sweep.pruneWallet worlds facts) ⟨h, []⟩) := by
  rw [pruneTasks, if_neg (ChainAnswer.requestMachineStatus_ne_unknown _), ran]
  rfl

theorem pruneTasks_error {stop : Stop Bytes} (ran : answers.facts = .error stop) :
    pruneTasks worlds answers h = .error stop := by
  rw [pruneTasks, if_neg (ChainAnswer.requestMachineStatus_ne_unknown _), ran]
  rfl

/-- A task that a round calls for neither way keeps its records and its
domain. -/
theorem pruneTasks_spares {sweep : Sweep} (ran : pruneTasks worlds answers h = .ok sweep) {taskId : Bytes}
    (unnamed : ∀ act ∈ sweep.acts, act.taskId ≠ taskId) : SameTask taskId h sweep.host := by
  rcases queried : answers.facts with stop | facts
  · rw [pruneTasks_error queried] at ran
    cases ran
  · rw [pruneTasks_ok queried] at ran
    cases ran
    exact (Sweep.Grows.pruneWallets _ ⟨h, []⟩).same unnamed

theorem pruneActs_turns (ran : answers.facts = .ok facts) :
    Sweep.Turns facts h.walletRentTasks.keys ⟨h, []⟩ ⟨h, pruneActs worlds answers h⟩ := by
  have turns : Sweep.Turns facts h.walletRentTasks.keys ⟨h, []⟩
      (h.walletRentTasks.keys.foldl (Sweep.pruneWallet worlds facts) ⟨h, []⟩) :=
    Sweep.pruneWallets_turns (List.pairwise_map.mpr h.walletRentTasks.sorted)
      (fun wallet member => OrdMap.mem_keys.mp member)
  have acts : pruneActs worlds answers h =
    (h.walletRentTasks.keys.foldl (Sweep.pruneWallet worlds facts) ⟨h, []⟩).acts := by
    rw [pruneActs, pruneTasks_ok ran]
  rw [acts]
  exact ⟨turns.calls, turns.called, turns.before⟩

theorem facts_renter (ran : answers.facts = .ok facts) :
    facts.machineStatus = ChainAnswer.requestMachineStatus answers.machineInfo ∧
    facts.curRenter = (ChainAnswer.textOf (str "renter") answers.rentOrder).getD [] ∧
    ChainAnswer.requestCurBlock answers.block = .ok facts.curBlock := by
  unfold ChainAnswers.facts at ran
  rcases renter : ChainAnswer.requestCurRenter answers.rentOrder with stop | ⟨curRenter, curRentEnd⟩
  · rw [renter] at ran
    cases ran
  · rcases block : ChainAnswer.requestCurBlock answers.block with stop | curBlock
    · rw [renter, block] at ran
      cases ran
    · rw [renter, block] at ran
      cases ran
      exact ⟨rfl, ChainAnswer.requestCurRenter_eq renter, rfl⟩

theorem statusNotRented_of_verify (ran : answers.facts = .ok facts) (verify : facts.machineStatus = .verify) :
    answers.StatusNotRented := by
  obtain ⟨text, found, listed⟩ := ChainAnswer.requestMachineStatus_verify ((facts_renter ran).1.symm.trans verify)
  exact ⟨text, found, Or.inl listed⟩

theorem reserveEnd_eq {rentEnd : Int} (low : -2 ^ 63 ≤ rentEnd) (fits : rentEnd + gracePeriod < 2 ^ 63) :
    reserveEnd rentEnd = rentEnd + gracePeriod := by
  unfold reserveEnd gracePeriod Int.bmod at *
  extract_lets rest
  split <;> omega

theorem reserveEnd_neg {rentEnd : Int} (high : rentEnd < 2 ^ 63) (past : 2 ^ 63 ≤ rentEnd + gracePeriod) :
    reserveEnd rentEnd < 0 := by
  unfold reserveEnd gracePeriod Int.bmod at *
  extract_lets rest
  split <;> omega

theorem exists_rent {wallet taskId : Bytes} (listed : taskId ∈ h.taskIdsOf wallet) :
    ∃ rent, h.walletRentTasks.find wallet = some rent ∧ taskId ∈ rent.taskIds := by
  rcases Option.eq_none_or_eq_some (h.walletRentTasks.find wallet) with missing | ⟨rent, found⟩
  · rw [taskIdsOf, missing] at listed
    cases listed
  · exact ⟨rent, found, taskIdsOf_eq found ▸ listed⟩

/-- What is called on answers that suffice is called with reason. -/
theorem AnswersSuffice.justified (ran : answers.facts = .ok facts) (suffice : AnswersSuffice answers facts h)
    (fit : h.RentEndsFit) : PruneJustified worlds answers h := by
  have turns := @pruneActs_turns worlds answers facts h ran
  have called : ∀ act ∈ pruneActs worlds answers h,
      ∃ rent, h.walletRentTasks.find act.wallet = some rent ∧ facts.Calls rent act := by
    intro act member
    rcases turns.calls act member with wrong | ⟨_, rent, found, calls⟩
    · cases wrong
    · exact ⟨rent, found, calls⟩
  refine ⟨fun act member => ?_, fun act member deletes check => ?_⟩
  · obtain ⟨rent, found, listed, why⟩ := called act member
    rcases suffice.shown with status | renters
    · exact Or.inl status
    · have listed : act.taskId ∈ h.taskIdsOf act.wallet := taskIdsOf_eq found ▸ listed
      rcases renters act.wallet (List.ne_nil_of_mem listed) with other | ⟨rented, own, checks⟩
      · exact Or.inr other
      · rcases why with why | ⟨_, different, _⟩
        · rw [rented, checks _ listed] at why
          cases why
        · exact (different own).elim
  · obtain ⟨rent, found, listed, why⟩ := called act member
    rcases why with why | ⟨settled, different, late⟩
    · rw [deletes] at why
      rw [Sweep.statusCall_true why] at check
      cases check
    · obtain ⟨positive, past⟩ := late deletes
      have notVerify : facts.machineStatus ≠ .verify := by
        rintro verify
        rw [verify] at settled
        rcases settled with wrong | wrong <;> cases wrong
      have fits := suffice.fits notVerify positive act.wallet rent found different ⟨act.taskId, listed, check⟩
      rw [reserveEnd_eq (fit act.wallet rent found).1 fits] at past
      exact ⟨rent, facts.curBlock, found, ChainAnswer.blockNumber_of_pos (facts_renter ran).2.2 positive, past⟩

theorem facts_status (ran : answers.facts = .ok facts) : facts.machineStatus ≠ .unknown :=
  fun unknown => ChainAnswer.requestMachineStatus_ne_unknown _ ((facts_renter ran).1.symm.trans unknown)

/-- A task that is no check task is called because of the renter, or the end
of its time. -/
theorem acts_by_renter (worlds : Nat → World) (ran : answers.facts = .ok facts) {wallet : Bytes}
    {rent : WalletRentTask} {taskId : Bytes} (deletes : Bool) (found : h.walletRentTasks.find wallet = some rent)
    (listed : taskId ∈ rent.taskIds) (check : isCheckTask taskId = false)
    (notVerify : facts.machineStatus ≠ .verify) (different : wallet ≠ facts.curRenter)
    (late : deletes = true → 0 < facts.curBlock ∧ reserveEnd rent.rentEnd < facts.curBlock) :
    ⟨wallet, taskId, deletes⟩ ∈ pruneActs worlds answers h := by
  have turns := @pruneActs_turns worlds answers facts h ran
  have settled : facts.machineStatus = .online ∨ facts.machineStatus = .rented := by
    cases status : facts.machineStatus with
    | unknown => exact absurd status (facts_status ran)
    | verify => exact absurd status notVerify
    | online => exact Or.inl rfl
    | rented => exact Or.inr rfl
  refine turns.called _ rent (OrdMap.mem_keys.mpr ⟨rent, found⟩) found
    ⟨listed, Or.inr ⟨settled, different, late⟩⟩ (fun isCheck => ?_)
  rw [check] at isCheck
  cases isCheck

/-- A task is called because of the status of the machine. -/
theorem acts_by_status (worlds : Nat → World) (ran : answers.facts = .ok facts) {wallet taskId : Bytes}
    {deletes : Bool} (listed : taskId ∈ h.taskIdsOf wallet)
    (why : statusCall facts.machineStatus (isCheckTask taskId) = some deletes) :
    ⟨wallet, taskId, deletes⟩ ∈ pruneActs worlds answers h := by
  have turns := @pruneActs_turns worlds answers facts h ran
  obtain ⟨rent, found, listed⟩ := exists_rent listed
  exact turns.called _ rent (OrdMap.mem_keys.mpr ⟨rent, found⟩) found ⟨listed, Or.inl why⟩ (fun _ => why)

/-- A wallet whose tasks the answers do not show to be without a renter rents
the machine, and has no check task. -/
theorem PruneJustified.rents (ran : answers.facts = .ok facts) (justified : PruneJustified worlds answers h)
    (shown : ¬ answers.StatusNotRented) {wallet : Bytes} (some : h.taskIdsOf wallet ≠ [])
    (unshown : ¬ answers.ShowsNotRented wallet) : facts.machineStatus = .rented ∧ wallet = facts.curRenter ∧
      ∀ taskId ∈ h.taskIdsOf wallet, isCheckTask taskId = false := by
  obtain ⟨taskId, listed⟩ := List.exists_mem_of_ne_nil _ some
  have notVerify : facts.machineStatus ≠ .verify := fun verify => shown (statusNotRented_of_verify ran verify)
  cases status : facts.machineStatus with
  | unknown => exact absurd status (facts_status ran)
  | verify => exact absurd status notVerify
  | online =>
    exact absurd (justified.shown _ (acts_by_status worlds ran listed (by rw [status, statusCall]))) unshown
  | rented =>
    have plain : ∀ taskId ∈ h.taskIdsOf wallet, isCheckTask taskId = false := by
      intro taskId listed
      cases check : isCheckTask taskId with
      | false => rfl
      | true =>
        have act := acts_by_status worlds ran listed (show _ = Option.some true by rw [status, check]; rfl)
        exact absurd (justified.shown _ act) unshown
    refine ⟨rfl, ?_, plain⟩
    by_contra different
    obtain ⟨rent, found, owned⟩ := exists_rent listed
    have act := acts_by_renter worlds ran false found owned (plain taskId listed) notVerify different
      (fun deletes => by cases deletes)
    exact unshown (justified.shown _ act)

/-- Where all that is called is called with reason, the answers suffice. -/
theorem PruneJustified.suffice (ran : answers.facts = .ok facts) (justified : PruneJustified worlds answers h)
    (fit : h.RentEndsFit) : AnswersSuffice answers facts h := by
  refine ⟨?_, fun notVerify positive wallet rent found different ⟨taskId, listed, check⟩ => ?_⟩
  · by_cases shown : answers.StatusNotRented
    · exact Or.inl shown
    · refine Or.inr (fun wallet some => ?_)
      by_cases known : answers.RentedByOther wallet
      · exact Or.inl known
      · exact Or.inr (justified.rents ran shown some fun shows => shows.elim shown known)
  · by_contra past
    have negative := reserveEnd_neg (fit wallet rent found).2 (by omega)
    have late : 0 < facts.curBlock ∧ reserveEnd rent.rentEnd < facts.curBlock := ⟨positive, by omega⟩
    have member := acts_by_renter worlds ran true found listed check notVerify different (fun _ => late)
    obtain ⟨other, block, has, obtained, past⟩ := justified.overdue _ member rfl check
    have same : other = rent := Option.some.inj (has.symm.trans found)
    have below := ChainAnswer.blockNumber_lt obtained
    rw [same] at past
    omega

/-- A round stops and deletes with reason just where the answers to its
queries suffice, or one of the queries ends the process. A query that fails
is taken for the answer of a machine that is free. -/
theorem prune_justified_iff (fit : h.RentEndsFit) : PruneJustified worlds answers h ↔
    ∀ facts, answers.facts = .ok facts → AnswersSuffice answers facts h := by
  refine ⟨fun justified facts ran => justified.suffice ran fit, fun suffice => ?_⟩
  rcases queried : answers.facts with stop | facts
  · have nothing : pruneActs worlds answers h = [] := by rw [pruneActs, pruneTasks_error queried]
    refine ⟨fun act member => ?_, fun act member => ?_⟩
    · rw [nothing] at member
      cases member
    · rw [nothing] at member
      cases member
  · exact AnswersSuffice.justified queried (suffice facts queried) fit

/-- The answers while a wallet rents the machine, long after block 100. -/
def answersRented (renter : Bytes) : ChainAnswers :=
  let result := fun members : List (Bytes × Json) =>
    [ChainAnswer.lost, .body (.object [(str "result", .object members)])]
  ⟨result [(str "machineStatus", .string (str "rented"))],
    result [(str "renter", .string renter), (str "rentEnd", .int 50000)],
    result [(str "block", .object [(str "header", .object [(str "number", .string (str "0x9c40"))])])]⟩

/-- The task of the renter is left alone. The one of a wallet whose rent and
grace period are over is stopped and deleted. -/
theorem renter_spared : ∃ trace h, Reaches (nodeStep .small) Host.empty trace h ∧
    h.taskIdsOf (str "wallet") = [str "task"] ∧
    pruneActs (fun _ => .calm (str "task")) (answersRented (str "wallet")) h =
      [⟨str "other", str "neighbour", false⟩, ⟨str "other", str "neighbour", true⟩] ∧
    PruneJustified (fun _ => .calm (str "task")) (answersRented (str "wallet")) h := by
  have reached : (runAll (nodeStep .small) Host.empty (neighbours.map .host)).any (fun h =>
      h.walletRentTasks.entries = [(str "other", ⟨str "other", [str "neighbour"], 100⟩),
        (str "wallet", ⟨str "wallet", [str "task"], 100⟩)] ∧
      pruneActs (fun _ => .calm (str "task")) (answersRented (str "wallet")) h =
        [⟨str "other", str "neighbour", false⟩, ⟨str "other", str "neighbour", true⟩]) = true := by decide +kernel
  obtain ⟨h, ran, holds⟩ := (Option.any_eq_true _ _).mp reached
  obtain ⟨entries, acts⟩ := of_decide_eq_true holds
  have only : ∀ wallet rent, h.walletRentTasks.find wallet = some rent →
      (wallet = str "other" ∧ rent = ⟨str "other", [str "neighbour"], 100⟩) ∨
        wallet = str "wallet" ∧ rent = ⟨str "wallet", [str "task"], 100⟩ := by
    intro wallet rent found
    have member := OrdMap.find_eq_some.mp found
    rw [entries] at member
    rcases List.mem_cons.mp member with first | rest
    · exact Or.inl (Prod.mk.inj first)
    · exact Or.inr (Prod.mk.inj (List.mem_singleton.mp rest))
  have own : h.walletRentTasks.find (str "wallet") = some ⟨str "wallet", [str "task"], 100⟩ := by
    rw [OrdMap.find_eq_some, entries]
    exact List.mem_cons_of_mem _ (List.mem_singleton_self _)
  have fit : h.RentEndsFit := by
    intro wallet rent found
    rcases only wallet rent found with ⟨_, rfl⟩ | ⟨_, rfl⟩ <;> decide
  refine ⟨_, h, Reaches.of_runAll _ .start ran, taskIdsOf_eq own, acts,
    (prune_justified_iff fit).mpr (fun facts queried => ?_)⟩
  have given : (answersRented (str "wallet")).facts = .ok ⟨.rented, str "wallet", 50000, 40000⟩ := by rfl
  have same : facts = ⟨.rented, str "wallet", 50000, 40000⟩ := Except.ok.inj (queried.symm.trans given)
  subst same
  refine ⟨Or.inr (fun wallet some => ?_), fun _ _ wallet rent found different _ => ?_⟩
  · obtain ⟨taskId, listed⟩ := List.exists_mem_of_ne_nil _ some
    obtain ⟨rent, found, _⟩ := exists_rent listed
    rcases only wallet rent found with ⟨rfl, _⟩ | ⟨rfl, _⟩
    · exact Or.inl ⟨str "wallet", rfl, by decide⟩
    · refine Or.inr ⟨rfl, rfl, fun taskId listed => ?_⟩
      rw [taskIdsOf_eq own] at listed
      rw [List.mem_singleton.mp listed]
      decide
  · rcases only wallet rent found with ⟨_, rfl⟩ | ⟨rfl, _⟩
    · decide
    · exact (different rfl).elim

/-- While no address of the chain answers, the task that runs is stopped. -/
theorem closed_in_silence : ∃ trace h sweep, Reaches (nodeStep .small) Host.empty trace h ∧
    h.getDomainStatus (str "task") = .running ∧
    pruneTasks (fun _ => .calm (str "task")) ⟨[.lost], [.lost], [.lost]⟩ h = .ok sweep ∧
    sweep.host.getDomainStatus (str "task") = .shutoff ∧
    ¬ PruneJustified (fun _ => .calm (str "task")) ⟨[.lost], [.lost], [.lost]⟩ h := by
  have reached : (runAll (nodeStep .small) Host.empty ((oneRuns (str "task")).map .host)).any (fun h =>
      (pruneTasks (fun _ => .calm (str "task")) ⟨[.lost], [.lost], [.lost]⟩ h).toOption.any (fun sweep =>
        h.getDomainStatus (str "task") = .running ∧ sweep.host.getDomainStatus (str "task") = .shutoff ∧
          ⟨str "wallet", str "task", false⟩ ∈ sweep.acts)) = true := by decide +kernel
  obtain ⟨h, ran, holds⟩ := (Option.any_eq_true _ _).mp reached
  rcases pruned : pruneTasks (fun _ => .calm (str "task")) ⟨[.lost], [.lost], [.lost]⟩ h with stop | sweep
  · rw [pruned] at holds
    cases holds
  · rw [pruned] at holds
    obtain ⟨runs, stops, called⟩ := of_decide_eq_true holds
    refine ⟨_, h, sweep, Reaches.of_runAll _ .start ran, runs, pruned, stops, fun justified => ?_⟩
    have member : ⟨str "wallet", str "task", false⟩ ∈
        pruneActs (fun _ => .calm (str "task")) ⟨[.lost], [.lost], [.lost]⟩ h := by
      rw [pruneActs, pruned]
      exact called
    rcases justified.shown _ member with ⟨text, found, _⟩ | ⟨renter, found, _⟩
    · cases found
    · cases found

end Host

end DbcNode
