import DbcNode.Task.Deleted
import DbcNode.Task.Events
import DbcNode.Task.Persisted

namespace DbcNode.Host

/-- The tasks in memory are those in the lists of the wallets, each one in
one list and once. -/
structure OneOwner (h : Host) : Prop where
  listed : ∀ taskId, (h.taskInfos.find taskId).isSome → ∃ wallet, taskId ∈ h.taskIdsOf wallet
  single : ∀ taskId wallet other, taskId ∈ h.taskIdsOf wallet → taskId ∈ h.taskIdsOf other → wallet = other
  once : ∀ wallet, (h.taskIdsOf wallet).Nodup
  known : ∀ wallet taskId, taskId ∈ h.taskIdsOf wallet → (h.taskInfos.find taskId).isSome

/-- No manager and no wallet has a task after it is deleted, whether it had
a record or not. -/
def LeavesNoTrace (h : Host) : Prop := ∀ w taskId, Gone taskId (h.destroyTask w taskId) ∧
  ∀ wallet, taskId ∉ (h.destroyTask w taskId).taskIdsOf wallet

theorem Only.rents {parts : Set Part} {h k : Host} (only : Only parts h k) (outside : Part.rents ∉ parts) :
    k.walletRentTasks = h.walletRentTasks := only _ outside

section Rents
variable {taskId wallet : Bytes} {h k : Host}

theorem taskIdsOf_congr (rents : k.walletRentTasks = h.walletRentTasks) (wallet : Bytes) :
    k.taskIdsOf wallet = h.taskIdsOf wallet := by
  rw [taskIdsOf, rents]
  rfl

theorem addRentTask_taskIds (rentEnd : Int) (other : Bytes) :
    (h.addRentTask wallet taskId rentEnd).taskIdsOf other =
    if other = wallet then h.taskIdsOf wallet ++ [taskId] else h.taskIdsOf other := by
  unfold addRentTask
  rw [taskIdsOf, OrdMap.find_insert]
  split <;> rfl

theorem taskIdsOf_eq {rent : WalletRentTask} (found : h.walletRentTasks.find wallet = some rent) :
    h.taskIdsOf wallet = rent.taskIds := by
  rw [taskIdsOf, found]
  rfl

/-- Where one wallet at most has a task, no wallet has it afterwards. -/
theorem delRentTask_taskIds (single : ∀ wallet other, taskId ∈ h.taskIdsOf wallet → taskId ∈ h.taskIdsOf other →
    wallet = other)
    (wallet : Bytes) : (h.delRentTask taskId).taskIdsOf wallet = (h.taskIdsOf wallet).erase taskId := by
  unfold delRentTask
  split
  · rename_i nowhere
    refine (List.erase_of_not_mem (fun listed => ?_)).symm
    rcases Option.eq_none_or_eq_some (h.walletRentTasks.find wallet) with missing | ⟨rent, found⟩
    · rw [taskIdsOf, missing] at listed
      cases listed
    · rw [taskIdsOf_eq found] at listed
      have none := List.find?_eq_none.mp nowhere _ (OrdMap.find_eq_some.mp found)
      exact none (decide_eq_true listed)
  · rename_i owner rent first
    have found : h.walletRentTasks.find owner = some rent :=
      OrdMap.find_eq_some.mpr (List.mem_of_find?_eq_some first)
    have has : taskId ∈ h.taskIdsOf owner := by
      have passed := List.find?_some first
      rw [taskIdsOf_eq found]
      exact of_decide_eq_true passed
    by_cases same : wallet = owner
    · subst same
      rw [taskIdsOf_eq found, taskIdsOf, OrdMap.find_insert_self]
      rfl
    · rw [taskIdsOf, OrdMap.find_insert_ne same, ← taskIdsOf]
      exact (List.erase_of_not_mem (fun listed => same (single _ _ listed has))).symm

end Rents

/-- The same tasks in memory, and the same lists. -/
structure SameOwners (h k : Host) : Prop where
  known : ∀ taskId, (k.taskInfos.find taskId).isSome = (h.taskInfos.find taskId).isSome
  rents : k.walletRentTasks = h.walletRentTasks

theorem SameOwners.of_only {parts : Set Part} {h k : Host} (only : Only parts h k)
    (known : ∀ taskId, .known taskId ∉ parts) (rents : .rents ∉ parts) : SameOwners h k :=
      ⟨fun taskId => only.known (known taskId), only.rents rents⟩

namespace OneOwner
variable {h k : Host} {taskId : Bytes}

theorem frame (owner : OneOwner h) (same : SameOwners h k) : OneOwner k := by
  have lists : ∀ wallet, k.taskIdsOf wallet = h.taskIdsOf wallet := taskIdsOf_congr same.rents
  refine ⟨fun taskId known => ?_, fun taskId wallet other => ?_, fun wallet => ?_, fun wallet taskId => ?_⟩
  · obtain ⟨wallet, member⟩ := owner.listed taskId (same.known taskId ▸ known)
    exact ⟨wallet, lists wallet ▸ member⟩
  · rw [lists, lists]
    exact owner.single taskId wallet other
  · rw [lists]
    exact owner.once wallet
  · rw [lists, same.known]
    exact owner.known wallet taskId

/-- A task that is new goes to the end of one list. -/
theorem add (owner : OneOwner h) (fresh : h.taskInfos.find taskId = none) {wallet : Bytes}
    (known : ∀ other, (k.taskInfos.find other).isSome = ((h.taskInfos.find other).isSome || other = taskId))
    (lists : ∀ other, k.taskIdsOf other =
      if other = wallet then h.taskIdsOf wallet ++ [taskId] else h.taskIdsOf other) :
    OneOwner k := by
  have unlisted : ∀ other, taskId ∉ h.taskIdsOf other := by
    intro other member
    have known := owner.known other taskId member
    rw [fresh] at known
    cases known
  have mem : ∀ name other, name ∈ k.taskIdsOf other ↔ name ∈ h.taskIdsOf other ∨ other = wallet ∧
    name = taskId := by
    intro name other
    rw [lists]
    split
    · rename_i same
      simp [same]
    · rename_i different
      simp [different]
  refine ⟨fun name found => ?_, fun name one other first second => ?_, fun other => ?_, fun other name member => ?_⟩
  · rw [known, Bool.or_eq_true, decide_eq_true_iff] at found
    rcases found with before | rfl
    · obtain ⟨other, member⟩ := owner.listed name before
      exact ⟨other, (mem _ _).mpr (Or.inl member)⟩
    · exact ⟨wallet, (mem _ _).mpr (Or.inr ⟨rfl, rfl⟩)⟩
  · rcases (mem _ _).mp first with old | ⟨here, rfl⟩
    · rcases (mem _ _).mp second with again | ⟨there, rfl⟩
      · exact owner.single name one other old again
      · exact (unlisted one old).elim
    · rcases (mem _ _).mp second with again | ⟨there, _⟩
      · exact (unlisted other again).elim
      · exact here.trans there.symm
  · rw [lists]
    split
    · refine List.nodup_append.mpr ⟨owner.once wallet, List.nodup_singleton taskId, ?_⟩
      intro name member last isLast
      rw [List.mem_singleton.mp isLast]
      exact fun same => unlisted wallet (same ▸ member)
    · exact owner.once other
  · rw [known, Bool.or_eq_true, decide_eq_true_iff]
    exact ((mem _ _).mp member).imp (owner.known other name) (fun new => new.2)

/-- A task that is deleted leaves the list that it was in. -/
theorem del (owner : OneOwner h)
    (known : ∀ other, (k.taskInfos.find other).isSome = ((h.taskInfos.find other).isSome && other ≠ taskId))
    (lists : ∀ wallet, k.taskIdsOf wallet = (h.taskIdsOf wallet).erase taskId) : OneOwner k := by
  have mem : ∀ name wallet, name ∈ k.taskIdsOf wallet ↔ name ≠ taskId ∧ name ∈ h.taskIdsOf wallet := by
    intro name wallet
    rw [lists]
    exact (owner.once wallet).mem_erase_iff
  refine ⟨fun name found => ?_, fun name one other first second => ?_, fun wallet => ?_,
    fun wallet name member => ?_⟩
  · rw [known, Bool.and_eq_true, decide_eq_true_iff] at found
    obtain ⟨wallet, member⟩ := owner.listed name found.1
    exact ⟨wallet, (mem _ _).mpr ⟨found.2, member⟩⟩
  · exact owner.single name one other ((mem _ _).mp first).2 ((mem _ _).mp second).2
  · rw [lists]
    exact (owner.once wallet).erase taskId
  · obtain ⟨different, before⟩ := (mem _ _).mp member
    rw [known, Bool.and_eq_true, decide_eq_true_iff]
    exact ⟨owner.known wallet name before, different⟩

end OneOwner

/-- What holds between restarts: every task is stored, and what is not known
is gone. -/
structure Tidy (h : Host) : Prop where
  owner : OneOwner h
  stored : AllStored (fun _ => ()) h
  gone : ∀ taskId, h.taskInfos.find taskId = none → Gone taskId h

section Destroy
variable {w : World} {taskId : Bytes} {h : Host}

theorem destroyTask_known (other : Bytes) : ((h.destroyTask w taskId).taskInfos.find other).isSome =
    ((h.taskInfos.find other).isSome && other ≠ taskId) := by
  by_cases same : other = taskId
  · subst same
    simp [destroyTask_unknown]
  · have outside : Part.known other ∉ destroyParts taskId := (destroyParts_within taskId).other rfl same
    simp [(destroyTask_only w taskId h).known outside, same]

theorem OneOwner.destroyTask_taskIds (owner : OneOwner h) (wallet : Bytes) :
    (h.destroyTask w taskId).taskIdsOf wallet = (h.taskIdsOf wallet).erase taskId := by
  rcases Option.eq_none_or_eq_some (h.taskInfos.find taskId) with unknown | ⟨info, found⟩
  · have unlisted : taskId ∉ h.taskIdsOf wallet := by
      intro member
      have known := owner.known wallet taskId member
      rw [unknown] at known
      cases known
    have rents := (destroyAndUndefineDomain_only w taskId (h := h)).rents (by simp)
    rw [destroyTask_eq_of_unknown w taskId h unknown, List.erase_of_not_mem unlisted, taskIdsOf_congr rents]
  · have known : (h.taskInfos.find taskId).isSome := by simp [found]
    rw [destroyTask_eq w taskId h known]
    generalize before : (((((((h.destroyAndUndefineDomain w taskId).delInfo taskId).delGpus taskId).delDisks
      taskId).delSnapshots taskId).removeIptableFromSystem taskId).delIptable taskId) = k
    have rents : k.walletRentTasks = h.walletRentTasks := by
      rw [← before, (delIptable_only taskId _).rents (by simp),
        (removeIptableFromSystem_only taskId _).rents (by simp),
        (delSnapshots_only taskId _).rents (by simp), (delDisks_only taskId _).rents (by simp),
        (delGpus_only taskId _).rents (by simp), (delInfo_only taskId _).rents (by simp),
        (destroyAndUndefineDomain_only w taskId).rents (by simp)]
    have lists := taskIdsOf_congr rents
    rw [delRentTask_taskIds (by simpa only [lists] using owner.single taskId), lists]

/-- Deleting a task, known or not, leaves no trace of it. -/
theorem Tidy.leavesNoTrace (tidy : Tidy h) : LeavesNoTrace h := by
  intro w taskId
  refine ⟨?_, fun wallet => ?_⟩
  · rcases Option.eq_none_or_eq_some (h.taskInfos.find taskId) with unknown | ⟨info, found⟩
    · rw [destroyTask_eq_of_unknown w taskId h unknown]
      exact (tidy.gone taskId unknown).frame (destroyAndUndefineDomain_only w taskId) (by simp) (by simp) (by simp)
        (by simp) (by simp)
    · exact Gone.destroyed (by simp [found])
  · rw [tidy.owner.destroyTask_taskIds]
    exact (tidy.owner.once wallet).not_mem_erase

end Destroy

namespace Tidy
variable {hw : Hardware} {w : World} {parts : Set Part} {h k : Host}

theorem same (tidy : Tidy h) (same : SameOwners h k) (stored : AllStored (fun _ => ()) k)
    (gone : ∀ taskId, Gone taskId h → Gone taskId k) : Tidy k where
  owner := tidy.owner.frame same
  stored := stored
  gone taskId unknown := by
    have before : h.taskInfos.find taskId = none := by
      rw [← Option.not_isSome_iff_eq_none, ← same.known, unknown]
      exact Bool.false_ne_true
    exact gone taskId (tidy.gone taskId before)

theorem frame (tidy : Tidy h) (only : Only parts h k) (outside : ∀ part ∈ parts, part.owner = none)
    (rents : .rents ∉ parts) :
    Tidy k := by
  have spared : ∀ {part : Part} {taskId : Bytes}, part.owner = some taskId → part ∉ parts := by
    intro part taskId own member
    rw [outside part member] at own
    cases own
  refine tidy.same (.of_only only (fun _ => spared rfl) rents) (tidy.stored.frame only (fun _ => spared rfl)) ?_
  exact fun taskId gone => gone.frame only (spared rfl) (spared rfl) (spared rfl) (spared rfl) (spared rfl)

theorem destroyTask (tidy : Tidy h) (taskId : Bytes) : Tidy (h.destroyTask w taskId) where
  owner := tidy.owner.del destroyTask_known tidy.owner.destroyTask_taskIds
  stored := by
    refine tidy.stored.own taskId (destroyTask_only w taskId h) (destroyParts_within taskId) ?_
    rw [recordOf, destroyTask_unknown]
    exact .of_none _
  gone other unknown := by
    by_cases same : other = taskId
    · exact same ▸ (tidy.leavesNoTrace w taskId).1
    · have outside : Part.info other ∉ destroyParts taskId := (destroyParts_within taskId).other rfl same
      have before : h.taskInfos.find other = none := by
        rw [← (destroyTask_only w taskId h).info outside]
        exact unknown
      exact (tidy.gone other before).other (destroyTask_only w taskId h) taskId (destroyParts_within taskId) same

theorem addTask (tidy : Tidy h) (wallet root : Bytes) (rentEnd : Int) (params : CreateTaskParams)
    (fresh : h.taskInfos.find params.taskId = none) : Tidy (h.addTask w wallet rentEnd params root) := by
  have only := addTask_only w h wallet rentEnd params root
  have record := addTask_record w h wallet rentEnd params root
  have known : ∀ other, ((h.addTask w wallet rentEnd params root).taskInfos.find other).isSome =
      ((h.taskInfos.find other).isSome || other = params.taskId) := by
    intro other
    by_cases same : other = params.taskId
    · have found : (h.addTask w wallet rentEnd params root).taskInfos.find params.taskId = _ :=
        congrArg Prod.fst record
      simp [same, found]
    · have outside : Part.known other ∉ createParts params.taskId :=
        (createParts_within params.taskId).other rfl same
      simp [only.known outside, same]
  have lists : ∀ other, (h.addTask w wallet rentEnd params root).taskIdsOf other =
      if other = wallet then h.taskIdsOf wallet ++ [params.taskId] else h.taskIdsOf other := by
    intro other
    rw [Host.addTask, taskIdsOf_congr ((pushTaskEvent_only _ _).rents (by simp)), addRentTask_taskIds]
    have before : ((((h.addInfo (CreateTaskParams.info params w.time root)).addDisks w params).addGpus params.taskId
        params.gpus)).walletRentTasks = h.walletRentTasks := by
      rw [(addGpus_only params.taskId _ _).rents (by simp), (addDisks_only w _ params).rents (by simp),
        (addInfo_only h _).rents (by simp)]
    rw [taskIdsOf_congr before, taskIdsOf_congr before]
  refine ⟨tidy.owner.add fresh known lists, ?_, fun other unknown => ?_⟩
  · refine tidy.stored.own params.taskId only (createParts_within params.taskId) ?_
    rw [record]
    exact fun info found => (by cases Option.some.inj found; rfl)
  · have still : (h.taskInfos.find other).isSome = false ∧ other ≠ params.taskId := by
      have none := known other
      rw [unknown] at none
      simpa using none.symm
    exact (tidy.gone other (Option.not_isSome_iff_eq_none.mp (by simp [still.1]))).other only params.taskId
      (createParts_within params.taskId) still.2

theorem node (tidy : Tidy h) {event : HostEvent} (outside : event ≠ .process)
    (fresh : ∀ wallet additional rentEnd role, event = .create wallet additional rentEnd role →
      h.taskInfos.find w.newTaskId = none)
    (ran : h.step hw (w, event) = some k) : Tidy k := by
  have stored : AllStored (fun _ => ()) k := tidy.stored.step (LoginFree.kept (fun _ _ _ => rfl) _ _) ran
  have others : (∀ taskId, OtherTask taskId h (w, event)) → ∀ taskId, Gone taskId h → Gone taskId k :=
    fun other taskId gone => gone.step (other taskId) ran
  cases event with
  | create wallet additional rentEnd role =>
    rcases step_create ran with rfl | ⟨params, root, parsed, rfl⟩
    · exact tidy
    · refine tidy.addTask wallet root rentEnd params ?_
      rw [(parseCreateParams_ok parsed).1]
      exact fresh wallet additional rentEnd role rfl
  | request wallet request =>
    have only : Only (requestParts request) h k := by
      rw [← step_request ran]
      exact execute_confined hw w wallet request h
    refine tidy.same (.of_only only (fun _ => notMem_requestParts rfl request)
      (notMem_requestParts rfl request)) stored ?_
    exact others (fun _ => trivial)
  | process => exact (outside rfl).elim
  | destroy taskId =>
    cases ran
    exact tidy.destroyTask taskId
  | deleteImage additional =>
    rw [← survives_some ran]
    exact tidy.frame (deleteImage_confined w additional h) (by simp [Part.owner]) (by simp)
  | close taskId =>
    have only : Only {.state taskId, .info taskId, .nat} h k := Option.some.inj ran ▸ closeTask_only w taskId h
    exact tidy.same (.of_only only (by simp) (by simp)) stored (others (fun _ => trivial))
  | uploaded taskId snapshotName =>
    have only : Only {.snapshots taskId} h k :=
      survives_some ran ▸ setSnapshotStatus_confined taskId snapshotName .none h
    exact tidy.same (.of_only only (by simp) (by simp)) stored (others (fun _ => trivial))
  | domainChanges taskId state =>
    exact tidy.same (.of_only (domainChanges_only ran) (by simp) (by simp)) stored (others (fun _ => trivial))
  | fileAppears path backing => exact tidy.frame (fileAppears_only ran) (by simp [Part.owner]) (by simp)

/-- A change of what belongs to a task that is known. -/
theorem own (tidy : Tidy h) {taskId : Bytes} (known : (h.taskInfos.find taskId).isSome) (only : Only parts h k)
    (within : Within taskId parts) (spared : .known taskId ∉ parts) (rents : .rents ∉ parts)
    (stored : Stored (fun _ => ()) (recordOf taskId k)) : Tidy k := by
  have knowing : ∀ other, Part.known other ∉ parts := by
    intro other
    by_cases same : other = taskId
    · exact same ▸ spared
    · exact within.other rfl same
  refine tidy.same (.of_only only knowing rents) (tidy.stored.own taskId only within stored) (fun other gone => ?_)
  refine gone.other only taskId within ?_
  rintro rfl
  rw [gone.unknown] at known
  cases known

theorem setInfo (tidy : Tidy h) (taskId : Bytes) (change : TaskInfo → TaskInfo) :
    Tidy (h.setInfo taskId change) := by
  rcases Option.eq_none_or_eq_some (h.taskInfos.find taskId) with unknown | ⟨info, found⟩
  · simp only [Host.setInfo, unknown]
    exact tidy
  · have known : (h.taskInfos.find taskId).isSome := by simp [found]
    refine tidy.own known (setInfo_only taskId h change) (by simp [Within, Part.owner]) (by simp) (by simp) ?_
    rw [setInfo_record]
    exact (tidy.stored taskId).map change (fun _ _ => rfl)

theorem updateInfo (tidy : Tidy h) (taskId : Bytes) (change : TaskInfo → TaskInfo) :
    Tidy (h.updateInfo taskId change) := by
  rcases Option.eq_none_or_eq_some (h.taskInfos.find taskId) with unknown | ⟨info, found⟩
  · rw [updateInfo_unknown unknown]
    exact tidy
  · have known : (h.taskInfos.find taskId).isSome := by simp [found]
    refine tidy.own known (updateInfo_only taskId h change) (by simp [Within, Part.owner]) (by simp) (by simp) ?_
    rw [updateInfo_record found]
    exact fun _ _ => rfl

theorem launchTask (tidy : Tidy h) (taskId : Bytes) : Tidy (h.launchTask w taskId) := by
  have started : Tidy (h.startDomain w taskId).2 := by
    have only := startDomain_only w taskId (h := h)
    refine tidy.same (.of_only only (by simp) (by simp)) (tidy.stored.frame only (by simp)) (fun other gone => ?_)
    exact gone.frame only (by simp) (by simp) (by simp) (by simp) (by simp)
  unfold Host.launchTask
  split
  · exact tidy
  · split
    · rename_i result
      rwa [result] at started
    · rename_i result
      rw [result] at started
      exact (started.setInfo taskId _).frame (addIptableToSystem_only taskId _) (by simp [Part.owner]) (by simp)

theorem restoreTask (tidy : Tidy h) (taskId : Bytes) : Tidy (h.restoreTask w taskId) := by
  unfold Host.restoreTask
  split
  · exact tidy
  · exact (tidy.setInfo taskId _).launchTask taskId

theorem initRootBackfile (taskId : Bytes) : Prog.Keeps Tidy (initRootBackfile taskId) := by
  intro h tidy
  unfold Host.initRootBackfile
  split
  · exact tidy
  · split
    · exact tidy
    · split
      · exact tidy
      · exact tidy.updateInfo taskId _

theorem forTasks {call : Bytes → Call Unit} (keeps : ∀ taskId, Prog.Keeps Tidy (call taskId))
    (taskIds : List Bytes) :
    Prog.Keeps Tidy (forTasks call taskIds) := by
  induction taskIds with
  | nil => exact .pure ()
  | cons taskId rest ih => exact (keeps taskId).bind (fun _ => ih)

theorem initTasksStatus (worlds : Bytes → World) : Prog.Keeps Tidy (initTasksStatus worlds) := by
  refine Prog.Keeps.bind (fun _ tidy => tidy) (fun taskIds => ?_)
  refine Prog.Keeps.bind (forTasks initRootBackfile taskIds) (fun _ => ?_)
  refine Prog.Keeps.bind (fun _ tidy => tidy) (fun running => ?_)
  refine Prog.Keeps.bind (forTasks (fun taskId => .update (fun _ tidy => tidy.restoreTask taskId)) running)
    (fun _ => ?_)
  exact forTasks (fun taskId => .update (fun _ tidy => tidy.setInfo taskId _)) taskIds

/-- A restart that finds the domain of every task brings each of them
back. -/
theorem loaded (tidy : Tidy h) (present : ∀ taskId ∈ h.taskInfos.keys, h.isExistDomain taskId)
    (virtualSize : Bytes → Bytes → Int) :
    Tidy (((({ h with events := [] } : Host).initInfos).initDisks virtualSize).initGpus) := by
  set k := ((({ h with events := [] } : Host).initInfos).initDisks virtualSize).initGpus
  have infos : ∀ taskId, k.taskInfos.find taskId = (h.taskDb.find taskId).bind (fun _ => h.reloaded taskId) :=
    fun taskId => OrdMap.find_filterMap h.taskDb _ taskId
  have none : ∀ taskId, h.taskInfos.find taskId = none → h.taskDb.find taskId = none ∧
    k.taskInfos.find taskId = none := by
    intro taskId unknown
    have missing : h.taskDb.find taskId = Option.none := congrArg Prod.snd (tidy.gone taskId unknown).record
    exact ⟨missing, by rw [infos, missing]; rfl⟩
  have known : ∀ taskId, (k.taskInfos.find taskId).isSome = (h.taskInfos.find taskId).isSome := by
    intro taskId
    rcases Option.eq_none_or_eq_some (h.taskInfos.find taskId) with unknown | ⟨info, found⟩
    · rw [(none taskId unknown).2, unknown]
    · obtain ⟨db, has, _⟩ := Option.map_eq_some_iff.mp (tidy.stored taskId info found)
      have has : h.taskDb.find taskId = some db := has
      obtain ⟨domain, defined⟩ := Option.isSome_iff_exists.mp (present taskId (OrdMap.mem_keys.mpr ⟨info, found⟩))
      rw [infos, has, found, Option.bind_some, reloaded, has, defined]
      rfl
  refine tidy.same ⟨known, rfl⟩ (fun taskId info found => ?_) (fun taskId gone => ?_)
  · have found : k.taskInfos.find taskId = some info := found
    rw [infos] at found
    obtain ⟨db, has, _⟩ := Option.bind_eq_some_iff.mp found
    exact Option.map_eq_some_iff.mpr ⟨db, has, rfl⟩
  · obtain ⟨missing, unknown⟩ := none taskId gone.unknown
    exact ⟨Prod.ext unknown missing, OrdMap.find_filterMap_none unknown, OrdMap.find_filterMap_none unknown,
      OrdMap.find_filterMap_none gone.snapshots, gone.iptable⟩

theorem empty : Tidy Host.empty where
  owner := ⟨fun _ known => (by cases known), fun _ _ _ listed => (by cases listed), fun _ => .nil,
    fun _ _ listed => (by cases listed)⟩
  stored := .empty
  gone _ _ := ⟨rfl, rfl, rfl, rfl, rfl⟩

end Tidy

/-- The record of a task that is in memory is in the database. -/
abbrev StoredOwn (taskId : Bytes) (h : Host) : Prop := Stored (fun _ => ()) (recordOf taskId h)

namespace StoredOwn
variable {w : World} {parts : Set Part} {taskId : Bytes} {h k : Host}

theorem frame (stored : StoredOwn taskId h) (only : Only parts h k) (info : .info taskId ∉ parts) :
    StoredOwn taskId k := by
  rw [StoredOwn, only.record taskId info]
  exact stored

theorem setInfo (stored : StoredOwn taskId h) (change : TaskInfo → TaskInfo) :
    StoredOwn taskId (h.setInfo taskId change) := by
  rw [StoredOwn, setInfo_record]
  exact stored.map change (fun _ _ => rfl)

theorem settle (stored : StoredOwn taskId h) (pending status : TaskStatus) :
    StoredOwn taskId (h.settle taskId pending status) := stored.setInfo _

theorem restarted (stored : StoredOwn taskId h) (done : Bool) : StoredOwn taskId (h.restarted taskId done) := by
  unfold Host.restarted
  split
  · exact (stored.settle _ _).frame (addIptableToSystem_only taskId _) (by simp)
  · exact stored.settle _ _

theorem beginCreateTask (stored : StoredOwn taskId h) (biosMode : Bytes) :
    StoredOwn taskId (beginCreateTask w taskId biosMode h).2 := by
  unfold Host.beginCreateTask
  split
  · exact stored
  · rename_i info _
    have created := stored.frame (createDomain_confined w taskId info h) (by simp)
    split
    · exact stored.settle _ _
    · split
      all_goals
        rename_i same
        rw [same] at created
      · exact created
      · exact created.settle _ _
      · split
        · exact created.settle _ _
        · exact created

theorem beginStartTask (stored : StoredOwn taskId h) : StoredOwn taskId (beginStartTask w taskId h).2 := by
  unfold Host.beginStartTask
  split
  · exact stored
  · have started := stored.frame (startDomain_only w taskId) (by simp)
    split
    all_goals
      rename_i same
      rw [same] at started
    · exact started.settle _ _
    · split
      · exact started
      · exact (started.settle _ _).frame (addIptableToSystem_only taskId _) (by simp)

theorem beginStop (stored : StoredOwn taskId h) (pending failed : TaskStatus) :
    StoredOwn taskId (beginStop w taskId pending failed h).2 := by
  unfold Host.beginStop
  split
  · exact stored
  · have stopped := stored.frame (destroyDomain_only w taskId) (by simp)
    split
    all_goals
      rename_i same
      rw [same] at stopped
    · exact stopped.settle _ _
    · have closed := (stopped.settle pending .shutoff).frame (removeIptableFromSystem_only taskId _) (by simp)
      dsimp only
      split <;> exact closed

theorem beginForceReboot (stored : StoredOwn taskId h) : StoredOwn taskId (beginForceReboot w taskId h).2 := by
  have started := stored.frame (startDomain_only w taskId) (by simp)
  have stopped := stored.frame (destroyDomain_only w taskId) (by simp)
  unfold Host.beginForceReboot
  split
  · exact stored
  · split
    · exact started.restarted _
    · split
      all_goals
        rename_i same
        rw [same] at stopped
      · exact stopped.restarted false
      · exact stopped

theorem beginJob (stored : StoredOwn taskId h) {job : TaskJob} {next : Option EventStage}
    (ran : beginJob w taskId job h = (.ok next, k)) : StoredOwn taskId k := by
  have whole : ∀ job, (do
      processJob w taskId job
      pure (none : Option EventStage)) h = (.ok next, k) → StoredOwn taskId k := by
    intro job ran
    rcases Prog.bind_cases ran with ⟨_, l, worked, ended⟩ | ⟨_, _, failed⟩
    · cases ended
      exact stored.ended (Ended.processJob worked) (fun _ _ _ _ _ _ => rfl)
    · cases failed
  have result : (Host.beginJob w taskId job h).2 = k := congrArg Prod.snd ran
  cases job with
  | createTask biosMode => exact result ▸ stored.beginCreateTask biosMode
  | startTask => exact result ▸ stored.beginStartTask
  | shutdownTask | powerOffTask => exact result ▸ stored.beginStop _ _
  | forceRebootTask => exact result ▸ stored.beginForceReboot
  | addDisk sizeK mountDir =>
    exact result ▸ stored.frame (beginAddDisk_confined w taskId sizeK mountDir h) (by simp [jobParts])
  | _ => exact whole _ ran

theorem addressed (stored : StoredOwn taskId h) (info : TaskInfo) (job : TaskJob) :
    StoredOwn taskId (h.addressed w taskId info job) := by
  have opened := stored.frame (openNetwork_only w taskId h info) (by simp)
  unfold Host.addressed
  split
  all_goals
    rename_i same
    rw [same] at opened
  · exact opened.settle _ _
  · have added := opened.frame (addIptableToSystem_only taskId _) (by simp)
    refine StoredOwn.settle ?_ _ _
    unfold setLogin
    split <;> exact added.setInfo _
  · exact opened.settle _ _
  · exact (opened.settle _ _).frame (addIptableToSystem_only taskId _) (by simp)

end StoredOwn

namespace Gone
variable {w : World} {taskId : Bytes} {h k : Host}

/-- A setter has nothing to change. -/
theorem setInfo (gone : Gone taskId h) (change : TaskInfo → TaskInfo) : Gone taskId (h.setInfo taskId change) := by
  have same : h.setInfo taskId change = h := by
    rw [Host.setInfo, gone.unknown]
  rwa [same]

theorem restarted (gone : Gone taskId h) (done : Bool) : Gone taskId (h.restarted taskId done) := by
  have settled : ∀ status, Gone taskId (h.settle taskId .restarting status) := fun status => gone.setInfo _
  unfold Host.restarted
  split
  · exact (settled _).frame (addIptableToSystem_only taskId _) (by simp) (by simp) (by simp) (by simp) (by simp)
  · exact settled _

/-- The first stage of an event of a task that is gone. -/
theorem beginJob (gone : Gone taskId h) {job : TaskJob} {next : Option EventStage}
    (ran : beginJob w taskId job h = (.ok next, k)) : Gone taskId k := by
  have unknown := gone.unknown
  have whole : ∀ job, (do
      Host.processJob w taskId job
      pure (none : Option EventStage)) h = (.ok next, k) → Gone taskId k := by
    intro job ran
    rcases Prog.bind_cases ran with ⟨_, l, worked, ended⟩ | ⟨_, _, failed⟩
    · cases ended
      have kept := gone.processJob (w := w) (congrArg Prod.fst worked)
      rwa [worked] at kept
    · cases failed
  cases job with
  | createTask biosMode =>
    simp only [Host.beginJob, beginCreateTask, unknown] at ran
    cases ran
    exact gone
  | startTask =>
    simp only [Host.beginJob, beginStartTask, unknown] at ran
    cases ran
    exact gone
  | shutdownTask | powerOffTask =>
    simp only [Host.beginJob, beginStop, unknown] at ran
    cases ran
    exact gone
  | forceRebootTask =>
    simp only [Host.beginJob, beginForceReboot, unknown] at ran
    cases ran
    exact gone
  | addDisk sizeK mountDir =>
    have none : h.listDisks taskId = .empty := by
      rw [listDisks, gone.disks]
      rfl
    simp only [Host.beginJob, beginAddDisk, nextDiskName, none] at ran
    cases ran
  | _ => exact whole _ ran

/-- No address comes, and the domain is stopped again. -/
theorem addressed (gone : Gone taskId h) (info : TaskInfo) (job : TaskJob)
    (none : ¬ (w.defaultRouteIp ≠ [] ∧ w.domainLocalIp ≠ [])) : Gone taskId (h.addressed w taskId info job) := by
  have failed : h.openNetwork w taskId info = (false, (h.destroyDomain w taskId).2) := by
    rw [openNetwork, createTaskIptable, if_neg none]
  have stopped := gone.frame (destroyDomain_only w taskId) (by simp) (by simp) (by simp) (by simp) (by simp)
  unfold Host.addressed
  rw [failed]
  cases job <;> exact stopped.setInfo _

end Gone

/-- The event is about to make a record of its task: the rules of a task
that has got its address, its root file, or a new disk. -/
def StageRecords (w : World) (ongoing : OngoingEvent) : Prop :=
  match ongoing.stage with
  | .addressing _ => w.defaultRouteIp ≠ [] ∧ w.domainLocalIp ≠ []
  | .rootLookup _ | .attached _ => True
  | _ => False

instance (w : World) : (ongoing : OngoingEvent) → Decidable (StageRecords w ongoing)
  | ⟨_, .addressing _⟩ => inferInstanceAs (Decidable (w.defaultRouteIp ≠ [] ∧ w.domainLocalIp ≠ []))
  | ⟨_, .rootLookup _⟩ | ⟨_, .attached _⟩ => isTrue trivial
  | ⟨_, .taken⟩ | ⟨_, .asleep⟩ | ⟨_, .recreating _⟩ => isFalse id

namespace Tidy
variable {w : World} {taskId : Bytes} {h k : Host}

theorem beginJob (tidy : Tidy h) {job : TaskJob} {next : Option EventStage}
    (ran : beginJob w taskId job h = (.ok next, k)) : Tidy k := by
  by_cases deletes : job = .deleteTask
  · subst deletes
    have result : processDeleteTask w taskId h = k := congrArg Prod.snd ran
    rw [← result, processDeleteTask]
    split
    · exact tidy
    · exact tidy.destroyTask taskId
  · have only : Only (jobParts taskId job) h k := by
      have confined := beginJob_confined w taskId job h
      rwa [ran] at confined
    have within := jobParts_within taskId job
    have known : ∀ other, Part.known other ∉ jobParts taskId job := by
      intro other
      by_cases own : other = taskId
      · exact own ▸ notMem_jobParts_known deletes
      · exact within.other rfl own
    have owners : SameOwners h k :=
      ⟨fun other => only.known (known other), only.rents (by cases job <;> simp_all [jobParts])⟩
    refine tidy.same owners (tidy.stored.own taskId only within (StoredOwn.beginJob (tidy.stored taskId) ran))
      (fun other gone => ?_)
    by_cases own : other = taskId
    · subst own
      exact gone.beginJob ran
    · exact gone.other only taskId within own

/-- A stage that makes no record of a task which is not known. -/
theorem processStage (tidy : Tidy h) {event : TaskEvent} {stage : EventStage} {next : Option EventStage}
    (known : StageRecords w ⟨event, stage⟩ → (h.taskInfos.find event.taskId).isSome)
    (ran : processStage w event stage h = (.ok next, k)) : Tidy k := by
  have only : Only (stageParts event.taskId event.job stage) h k := by
    have confined := processStage_confined w event stage h
    rwa [ran] at confined
  have within := stageParts_within event.taskId event.job stage
  -- the stages that are about the record of a task leave the tasks that are known
  have change : .known event.taskId ∉ stageParts event.taskId event.job stage →
      .rents ∉ stageParts event.taskId event.job stage → StoredOwn event.taskId k →
      (Gone event.taskId h → Gone event.taskId k) → Tidy k := by
    intro spared rents stored own
    have owners : SameOwners h k := by
      refine .of_only only (fun other => ?_) rents
      by_cases same : other = event.taskId
      · exact same ▸ spared
      · exact within.other rfl same
    refine tidy.same owners (tidy.stored.own event.taskId only within stored) (fun other gone => ?_)
    by_cases same : other = event.taskId
    · exact same ▸ own (same ▸ gone)
    · exact gone.other only event.taskId within same
  have stored : StoredOwn event.taskId h := tidy.stored event.taskId
  have missing : ∀ {P : Prop}, (h.taskInfos.find event.taskId).isSome → Gone event.taskId h → P := by
    intro P present gone
    rw [gone.unknown] at present
    cases present
  cases stage with
  | taken => exact tidy.beginJob ran
  | asleep =>
    cases ran
    refine change (by simp [stageParts, jobParts]) (by simp [stageParts, jobParts]) ?_ (fun gone => ?_)
    · exact (stored.frame (startDomain_only w event.taskId) (by simp)).restarted _
    · exact (gone.frame (startDomain_only w event.taskId) (by simp) (by simp) (by simp) (by simp)
        (by simp)).restarted _
  | addressing info =>
    cases ran
    refine change (by simp [stageParts]) (by simp [stageParts]) (stored.addressed info event.job) (fun gone => ?_)
    by_cases found : w.defaultRouteIp ≠ [] ∧ w.domainLocalIp ≠ []
    · exact missing (known found) gone
    · exact gone.addressed info event.job found
  | recreating info =>
    cases ran
    have only := recreateDomain_only w event.taskId h
    refine change (by simp [stageParts]) (by simp [stageParts]) (stored.frame only (by simp)) (fun gone => ?_)
    exact gone.frame only (by simp) (by simp) (by simp) (by simp) (by simp)
  | rootLookup info =>
    obtain ⟨old, found⟩ := Option.isSome_iff_exists.mp (known trivial)
    unfold Host.processStage at ran
    dsimp only at ran
    split at ran
    · cases ran
    · cases ran
      exact updateInfo_known found (fun _ => _) ▸ tidy.updateInfo event.taskId _
  | attached disk =>
    cases ran
    refine change (by simp [stageParts]) (by simp [stageParts]) ?_ (missing (known trivial))
    exact stored.frame (addDiskInfo_only event.taskId h disk) (by simp)

end Tidy

end DbcNode.Host

namespace DbcNode

/-- What happens to a node and its event thread, where the node is started
again from time to time. An event that is worked off when the node stops is
not gone on with. -/
inductive ManagerEvent
  | thread (event : ThreadEvent)
  | restart (worlds : Bytes → World) (virtualSize : Bytes → Bytes → Int)

namespace TaskThread

def nodeStep (hw : Hardware) (t : TaskThread) : ManagerEvent → Option TaskThread
  | .thread event => t.step hw event
  | .restart worlds virtualSize => (Host.survives (Host.init worlds virtualSize t.host)).map idle

/-- A new task has an id of its own; an event that makes a record of its
task finds the task still known; and a restart finds the domain of every
task. -/
def Restorable (t : TaskThread) : ManagerEvent → Prop
  | .thread (.node (w, .create _ _ _ _)) => t.host.taskInfos.find w.newTaskId = none
  | .thread (.work w) => ∀ ongoing ∈ t.ongoing, Host.StageRecords w ongoing →
      (t.host.taskInfos.find ongoing.event.taskId).isSome
  | .thread _ => True
  | .restart _ _ => ∀ taskId ∈ t.host.taskInfos.keys, t.host.isExistDomain taskId

instance (t : TaskThread) : (event : ManagerEvent) → Decidable (Restorable t event)
  | .thread (.node (w, .create _ _ _ _)) => inferInstanceAs (Decidable (t.host.taskInfos.find w.newTaskId = none))
  | .thread (.work w) => inferInstanceAs (Decidable (∀ ongoing ∈ t.ongoing, Host.StageRecords w ongoing →
      (t.host.taskInfos.find ongoing.event.taskId).isSome = true))
  | .thread (.node (_, .request _ _)) | .thread (.node (_, .deleteImage _)) | .thread (.node (_, .process))
  | .thread (.node (_, .close _)) | .thread (.node (_, .destroy _)) | .thread (.node (_, .uploaded _ _))
  | .thread (.node (_, .domainChanges _ _)) | .thread (.node (_, .fileAppears _ _)) | .thread .take
  | .thread (.retry _) => isTrue trivial
  | .restart _ _ =>
      inferInstanceAs (Decidable (∀ taskId ∈ t.host.taskInfos.keys, t.host.isExistDomain taskId = true))

theorem on_host (h : Host) (ongoing : Option OngoingEvent) : (on h ongoing).host = h := by
  cases ongoing <;> rfl

theorem tidy_moves {hw : Hardware} {t u : TaskThread} {event : ThreadEvent} (tidy : t.host.Tidy)
    (restorable : Restorable t (.thread event)) (moves : Moves hw t event u) : u.host.Tidy := by
  cases moves with
  | node outside ran =>
    rw [on_host]
    refine tidy.node outside (fun wallet additional rentEnd role same => ?_) ran
    subst same
    exact restorable
  | takes free queue => exact tidy.frame (Host.dequeue_only _) (by simp [Host.Part.owner]) (by simp)
  | waits present ran => exact tidy.processStage (restorable _ present) ran
  | @ends w now h present ran =>
    have worked : h.Tidy := tidy.processStage (restorable now present) ran
    exact worked.frame (Host.updateRunningTasks_only h) (by simp [Host.Part.owner]) (by simp)
  | @retries w event info h present up stopped =>
    have only := Host.destroyDomain_only w event.taskId (h := t.host)
    rw [stopped] at only
    refine tidy.same (.of_only only (by simp) (by simp)) (tidy.stored.frame only (by simp)) (fun other gone => ?_)
    exact gone.frame only (by simp) (by simp) (by simp) (by simp) (by simp)

theorem tidy_nodeStep {hw : Hardware} {t u : TaskThread} {event : ManagerEvent} (tidy : t.host.Tidy)
    (restorable : Restorable t event) (ran : t.nodeStep hw event = some u) : u.host.Tidy := by
  cases event with
  | thread event => exact tidy_moves tidy restorable (.of_step ran)
  | restart worlds virtualSize =>
    obtain ⟨h, restarted, rfl⟩ := Option.map_eq_some_iff.mp ran
    have after := Host.Tidy.initTasksStatus worlds _ (tidy.loaded restorable virtualSize)
    exact Host.survives_some restarted ▸ after

/-- A task runs, and the node stops while a second one waits for its
address. Both are there again after the restart. -/
def stoppedWhileCreating : List ManagerEvent :=
  (created (str "task") ++ [ofNode (.calm (str "two"))
    (.create (str "wallet") (some (smallTask "20002" "5902" "0")) 100
    .walletRenter), .take, .work (.calm (str "two"))]).map .thread ++ [.restart .calm (fun _ _ => 0)]

/-- A check task is deleted while it waits for its address. Then it gets
rules that no deletion takes away again. -/
theorem rules_of_nothing : ∃ trace t, Reaches (nodeStep .small) (idle Host.empty) trace t ∧
    t.host.taskInfos.find (str "vm_check_1") = none ∧ ¬ t.host.LeavesNoTrace := by
  have facts : (runAll (nodeStep .small) (idle Host.empty)
      (((created (str "vm_check_1")).take 4 ++ [ofNode (.calm (str "vm_check_1")) (.destroy (str "vm_check_1")),
        .work (.calm (str "vm_check_1"))]).map .thread)).any
      (fun t => t.host.taskInfos.find (str "vm_check_1") = none ∧
        ((t.host.destroyTask (.calm []) (str "vm_check_1")).taskIptables.find (str "vm_check_1")).isSome) =
          true := by
    decide +kernel
  obtain ⟨t, ran, holds⟩ := (Option.any_eq_true _ _).mp facts
  obtain ⟨unknown, left⟩ := of_decide_eq_true holds
  refine ⟨_, t, Reaches.of_runAll _ .start ran, unknown, fun leaves => ?_⟩
  rw [(leaves (.calm []) (str "vm_check_1")).1.iptable] at left
  cases left

end TaskThread

end DbcNode

namespace DbcNode.Host

/-- The records of a task, its domain and what waits for it in the queue are
as before. -/
def SameTask (taskId : Bytes) (h k : Host) : Prop :=
  (∀ part : Part, part.owner = some taskId → part.read k = part.read h) ∧
    k.events.filter (fun event => event.taskId = taskId) = h.events.filter (fun event => event.taskId = taskId)

/-- The request ends with an error and changes nothing. -/
def Refused (hw : Hardware) (w : World) (wallet : Bytes) (request : TaskRequest) (h : Host) : Prop :=
  ∃ error, execute hw w wallet request h = (.error (.thrown error), h)

/-- Nobody but the wallet of a task can do anything with it. -/
def Isolated (hw : Hardware) (wallet : Bytes) (request : TaskRequest) (h : Host) : Prop :=
  request.taskId ∉ h.taskIdsOf wallet → ∀ w, Refused hw w wallet request h

section Requests
variable (hw : Hardware) (w : World) {wallet taskId other : Bytes} {h : Host}

/-- Only the list of tasks is made for a wallet. -/
theorem execute_any_wallet {operation : TaskOperation} (handled : operation ≠ .list) (stranger : Bytes) :
    execute hw w stranger ⟨taskId, operation⟩ = execute hw w wallet ⟨taskId, operation⟩ := by
  cases operation with
  | list => exact (handled rfl).elim
  | _ => rfl

/-- Any wallet can delete a task that there is. -/
theorem delete_any_wallet (known : (h.taskInfos.find taskId).isSome) (defined : h.isExistDomain taskId = true)
    (stranger : Bytes) : execute hw w stranger ⟨taskId, .delete⟩ h =
      (.ok (.message (str "ok")), (h.setTaskStatus taskId .deleting).pushTaskEvent ⟨taskId, .deleteTask⟩) := by
  obtain ⟨info, found⟩ := Option.isSome_iff_exists.mp known
  have existing : existingTask taskId h = (.ok info, h) := by
    rw [existingTask, found]
    exact if_pos defined
  have deleted : deleteTask taskId h =
      (.ok (str "ok"), (h.setTaskStatus taskId .deleting).pushTaskEvent ⟨taskId, .deleteTask⟩) := by
    rw [deleteTask, Prog.bind_ok existing]
    rfl
  exact Prog.bind_ok deleted

/-- The snapshots of a task are listed for everybody. -/
theorem listSnapshot_answers (stranger : Bytes) :
    ∃ reply, execute hw w stranger ⟨taskId, .listSnapshot []⟩ h = (.ok reply, h) := ⟨_, rfl⟩

theorem notMem_requestParts_other {operation : TaskOperation} {part : Part} (handled : operation ≠ .list)
    (part_other : part.owner = some other) (different : other ≠ taskId) :
    part ∉ requestParts ⟨taskId, operation⟩ := by
  intro member
  cases operation with
  | list => exact handled rfl
  | _ =>
    cases part <;> simp [requestParts, Part.owner] at member part_other <;>
      exact different (part_other.symm.trans member)

/-- A request is about the task that it names and no other. -/
theorem execute_sameTask {operation : TaskOperation} (handled : operation ≠ .list) (different : other ≠ taskId) :
    SameTask other h (execute hw w wallet ⟨taskId, operation⟩ h).2 := by
  refine ⟨fun part part_other => ?_, ?_⟩
  · exact execute_confined hw w wallet ⟨taskId, operation⟩ h part
      (notMem_requestParts_other handled part_other different)
  · rcases execute_mayQueue hw w wallet ⟨taskId, operation⟩ h with same | ⟨job, _, more⟩
    · rw [same]
    · have apart : ¬ taskId = other := fun same => different same.symm
      rw [more, List.filter_append, List.filter_cons_of_neg (by simpa using apart), List.filter_nil,
        List.append_nil]

end Requests

/-- A wallet and a task are kept apart just where the task is one of the
wallet's, since no operation asks whose it is: each does for a stranger what
it does for the owner, and deletion is kept from nobody. A wallet that names
its own tasks leaves those of others alone. -/
theorem isolated_iff_own {hw : Hardware} {wallet taskId : Bytes} {h : Host} :
    ((∀ operation, operation ≠ .list → Isolated hw wallet ⟨taskId, operation⟩ h) ↔ taskId ∈ h.taskIdsOf wallet) ∧
    (∀ (w : World) (stranger : Bytes) (operation : TaskOperation), operation ≠ .list →
      execute hw w stranger ⟨taskId, operation⟩ h = execute hw w wallet ⟨taskId, operation⟩ h) ∧
    ((h.taskInfos.find taskId).isSome → h.isExistDomain taskId = true →
      (Isolated hw wallet ⟨taskId, .delete⟩ h ↔ taskId ∈ h.taskIdsOf wallet)) ∧
    (taskId ∈ h.taskIdsOf wallet → ∀ (w : World) (operation : TaskOperation) (other : Bytes), operation ≠ .list →
      other ∉ h.taskIdsOf wallet → SameTask other h (execute hw w wallet ⟨taskId, operation⟩ h).2) := by
  refine ⟨⟨fun isolated => ?_, fun own _ _ strange => (strange own).elim⟩,
    fun w stranger operation handled => ?_,
    fun known defined => ⟨fun isolated => ?_, fun own strange => (strange own).elim⟩,
    fun own w operation other handled strange => ?_⟩
  · by_contra strange
    obtain ⟨error, refused⟩ := isolated (.listSnapshot []) (fun same => by cases same) strange (.calm taskId)
    obtain ⟨reply, answers⟩ := @listSnapshot_answers hw (.calm taskId) taskId h wallet
    rw [answers] at refused
    cases refused
  · rw [execute_any_wallet hw w handled stranger]
  · by_contra strange
    obtain ⟨error, refused⟩ := isolated strange (.calm taskId)
    rw [delete_any_wallet hw (.calm taskId) known defined wallet] at refused
    cases refused
  · exact execute_sameTask hw w handled (fun same => strange (same ▸ own))

/-- A second wallet has a task made beside the one that runs. -/
def neighbours : List (World × HostEvent) := oneRuns (str "task") ++
  [.create (str "other") (some (smallTask "20002" "5902" "0")) 100 .walletRenter, .process].map
    (fun event => (.calm (str "neighbour"), event))

/-- Each of two wallets has a task that runs, and one of them asks something
of its own. -/
theorem isolated_own_task : ∃ trace h, Reaches (nodeStep .small) Host.empty trace h ∧
    h.taskIdsOf (str "wallet") = [str "task"] ∧ h.taskIdsOf (str "other") = [str "neighbour"] ∧
    h.getDomainStatus (str "neighbour") = .running ∧ Isolated .small (str "wallet") ⟨str "task", .delete⟩ h ∧
    ∀ (w : World) (operation : TaskOperation), operation ≠ .list →
      SameTask (str "neighbour") h (execute .small w (str "wallet") ⟨str "task", operation⟩ h).2 := by
  have facts : (runAll (nodeStep .small) Host.empty (neighbours.map .host)).any
      (fun h => h.taskIdsOf (str "wallet") = [str "task"] ∧ h.taskIdsOf (str "other") = [str "neighbour"] ∧
        h.getDomainStatus (str "neighbour") = .running) = true := by decide +kernel
  obtain ⟨h, ran, holds⟩ := (Option.any_eq_true _ _).mp facts
  obtain ⟨listed, neighbour, runs⟩ := of_decide_eq_true holds
  have own : str "task" ∈ h.taskIdsOf (str "wallet") := by simp [listed]
  have strange : str "neighbour" ∉ h.taskIdsOf (str "wallet") := by
    rw [listed]
    decide
  obtain ⟨isolated, _, _, apart⟩ := @isolated_iff_own .small (str "wallet") (str "task") h
  exact ⟨_, h, Reaches.of_runAll _ .start ran, listed, neighbour, runs,
    isolated.mpr own .delete (fun same => by cases same),
    fun w operation handled => apart own w operation (str "neighbour") handled strange⟩

/-- A task runs, and a wallet without tasks deletes it. -/
theorem stranger_deletes : ∃ trace h, Reaches (nodeStep .small) Host.empty trace h ∧
    h.taskIdsOf (str "other") = [] ∧ h.getDomainStatus (str "task") = .running ∧
    ¬ Isolated .small (str "other") ⟨str "task", .delete⟩ h := by
  have facts : (runAll (nodeStep .small) Host.empty ((oneRuns (str "task")).map .host)).any
      (fun h => h.taskIdsOf (str "other") = [] ∧ h.getDomainStatus (str "task") = .running ∧
        (h.taskInfos.find (str "task")).isSome ∧ h.isExistDomain (str "task") = true) = true := by decide +kernel
  obtain ⟨h, ran, holds⟩ := (Option.any_eq_true _ _).mp facts
  obtain ⟨none_listed, runs, known, defined⟩ := of_decide_eq_true holds
  refine ⟨_, h, Reaches.of_runAll _ .start ran, none_listed, runs, fun isolated => ?_⟩
  have strange : str "task" ∉ h.taskIdsOf (str "other") := by
    rw [none_listed]
    exact List.not_mem_nil
  obtain ⟨error, refused⟩ := isolated strange (.calm (str "task"))
  rw [delete_any_wallet .small (.calm (str "task")) known defined (str "other")] at refused
  cases refused

end DbcNode.Host
