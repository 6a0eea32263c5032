import DbcNode.Lib.Bytes
import DbcNode.Lib.OrdMap
import DbcNode.Lib.Runs

namespace DbcNode

/-- `node_service_info`. -/
structure ServiceInfo where
  serviceList : List Bytes
  name : Bytes
  timeStamp : Int
  kvs : OrdMap Bytes Bytes

def maxChangeSetSize : Nat := 48

/-- `ServiceInfoManager`. The tables hold pointers, and `none` is the null
that `operator[]` makes for a missing key. -/
structure ServiceInfoManager where
  serviceInfos : OrdMap Bytes (Option ServiceInfo)
  change : OrdMap Bytes (Option ServiceInfo)
  nodeidList : List Bytes

inductive ServiceInfoCall
  | add (nodeId : Bytes) (serviceInfo : ServiceInfo)
  | addAll (serviceInfos : OrdMap Bytes ServiceInfo)
  | update (nodeId key value : Bytes)
  | updateTimeStamp (nodeId : Bytes) (now : Int)
  | removeUnlivedNodes (sec now : Int)
  | resetChangeSet
  | getChangeSet

namespace ServiceInfoManager

def empty : ServiceInfoManager := ⟨.empty, .empty, []⟩

/-- No result is a null pointer that is read through. -/
def add (m : ServiceInfoManager) (nodeId : Bytes) (serviceInfo : ServiceInfo) : Option ServiceInfoManager :=
  match m.serviceInfos.find nodeId with
  | none =>
    some { m with
      serviceInfos := m.serviceInfos.insert nodeId (some serviceInfo), nodeidList := m.nodeidList ++ [nodeId] }
  | some none => none
  | some (some old) =>
    if serviceInfo.timeStamp > old.timeStamp then
      some { m with serviceInfos := m.serviceInfos.insert nodeId (some serviceInfo) }
    else some m

def addEach (m : ServiceInfoManager) (items : List (Bytes × ServiceInfo)) : Option ServiceInfoManager :=
  items.foldlM (fun m item => m.add item.1 item.2) m

/-- A change in place of a stored info. -/
def edit (m : ServiceInfoManager) (nodeId : Bytes) (f : ServiceInfo → ServiceInfo) : Option ServiceInfoManager :=
  match m.serviceInfos.find nodeId with
  | none => some m
  | some none => none
  | some (some info) => some { m with serviceInfos := m.serviceInfos.insert nodeId (some (f info)) }

def update (m : ServiceInfoManager) (nodeId key value : Bytes) : Option ServiceInfoManager :=
  m.edit nodeId fun info => { info with kvs := info.kvs.insert key value }

def updateTimeStamp (m : ServiceInfoManager) (nodeId : Bytes) (now : Int) : Option ServiceInfoManager :=
  m.edit nodeId fun info => { info with timeStamp := now }

def drop (m : ServiceInfoManager) (nodeId : Bytes) : ServiceInfoManager :=
  { m with serviceInfos := m.serviceInfos.erase nodeId, nodeidList := m.nodeidList.filter (· ≠ nodeId) }

/-- The body of the loop of `remove_unlived_nodes`. -/
def removeIfUnlived (timeThreshold : Int) (m : ServiceInfoManager) (entry : Bytes × Option ServiceInfo) :
    Option ServiceInfoManager :=
  match entry.2 with
  | none => none
  | some info => if info.timeStamp < timeThreshold then some (m.drop entry.1) else some m

def removeUnlivedNodes (m : ServiceInfoManager) (sec now : Int) : Option ServiceInfoManager :=
  m.serviceInfos.entries.foldlM (removeIfUnlived (now - sec)) m

/-- `m_service_infos[node_id]`, which makes a null where the key is
missing. -/
def subscript (m : ServiceInfoManager) (nodeId : Bytes) : Option ServiceInfo × ServiceInfoManager :=
  match m.serviceInfos.find nodeId with
  | some info => (info, m)
  | none => (none, { m with serviceInfos := m.serviceInfos.insert nodeId none })

/-- The first node of the list goes to its end and into the change set. -/
def rotate (m : ServiceInfoManager) : ServiceInfoManager :=
  match m.nodeidList with
  | [] => m
  | nodeId :: rest =>
    let (info, m) := m.subscript nodeId
    { m with nodeidList := rest ++ [nodeId], change := m.change.insert nodeId info }

def getChangeSet (m : ServiceInfoManager) : ServiceInfoManager :=
  rotate^[min m.nodeidList.length maxChangeSetSize] { m with change := .empty }

def step (m : ServiceInfoManager) : ServiceInfoCall → Option ServiceInfoManager
  | .add nodeId serviceInfo => m.add nodeId serviceInfo
  | .addAll serviceInfos => m.addEach serviceInfos.entries
  | .update nodeId key value => m.update nodeId key value
  | .updateTimeStamp nodeId now => m.updateTimeStamp nodeId now
  | .removeUnlivedNodes sec now => m.removeUnlivedNodes sec now
  | .resetChangeSet => some { m with change := .empty }
  | .getChangeSet => some m.getChangeSet

/-- The list enumerates the nodes of the table, and no pointer of the table
is null. -/
structure Listed (m : ServiceInfoManager) : Prop where
  distinct : m.nodeidList.Nodup
  exact : ∀ nodeId, nodeId ∈ m.nodeidList ↔ nodeId ∈ m.serviceInfos.keys
  filled : ∀ nodeId, m.serviceInfos.find nodeId ≠ some none

variable {m next : ServiceInfoManager} {nodeId : Bytes}

theorem Listed.empty : ServiceInfoManager.empty.Listed := by
  refine ⟨List.nodup_nil, ?_, ?_⟩
  · intro nodeId
    simp [ServiceInfoManager.empty, OrdMap.keys, OrdMap.empty]
  · intro nodeId
    simp [ServiceInfoManager.empty]

theorem Listed.found (listed : m.Listed) (member : nodeId ∈ m.nodeidList) :
    ∃ info, m.serviceInfos.find nodeId = some (some info) := by
  obtain ⟨value, found⟩ := OrdMap.mem_keys.mp ((listed.exact nodeId).mp member)
  cases value with
  | none => exact absurd found (listed.filled nodeId)
  | some info => exact ⟨info, found⟩

theorem mem_keys_insert {α : Type} (table : OrdMap Bytes α) (key other : Bytes) (value : α) :
    other ∈ (table.insert key value).keys ↔ other = key ∨ other ∈ table.keys := by
  rw [OrdMap.mem_keys, OrdMap.mem_keys, OrdMap.find_insert]
  by_cases same : other = key
  · simp [same]
  · simp [same]

/-- An info in the place of another one. -/
theorem Listed.replace (listed : m.Listed) (known : nodeId ∈ m.serviceInfos.keys) (info : ServiceInfo) :
    Listed { m with serviceInfos := m.serviceInfos.insert nodeId (some info) } := by
  refine ⟨listed.distinct, ?_, ?_⟩
  · intro other
    rw [listed.exact other, mem_keys_insert]
    constructor
    · exact Or.inr
    · rintro (rfl | member)
      · exact known
      · exact member
  · intro other
    simp only [OrdMap.find_insert]
    split
    · simp
    · exact listed.filled other

theorem Listed.add (listed : m.Listed) (nodeId : Bytes) (serviceInfo : ServiceInfo) :
    ∃ next, m.add nodeId serviceInfo = some next ∧ next.Listed := by
  unfold ServiceInfoManager.add
  split
  · rename_i missing
    have absent : nodeId ∉ m.serviceInfos.keys := by
      rw [OrdMap.mem_keys, missing]
      simp
    refine ⟨_, rfl, ?_, ?_, ?_⟩
    · refine List.nodup_append.mpr ⟨listed.distinct, List.nodup_singleton nodeId, ?_⟩
      intro other member new isNew same
      rw [List.mem_singleton] at isNew
      rw [same, isNew] at member
      exact absent ((listed.exact nodeId).mp member)
    · intro other
      rw [mem_keys_insert, List.mem_append, List.mem_singleton, listed.exact other]
      exact or_comm
    · intro other
      simp only [OrdMap.find_insert]
      split
      · simp
      · exact listed.filled other
  · rename_i null
    exact absurd null (listed.filled nodeId)
  · rename_i old found
    split
    · exact ⟨_, rfl, listed.replace (OrdMap.mem_keys.mpr ⟨_, found⟩) serviceInfo⟩
    · exact ⟨m, rfl, listed⟩

theorem Listed.addEach (items : List (Bytes × ServiceInfo)) {m : ServiceInfoManager} (listed : m.Listed) :
    ∃ next, m.addEach items = some next ∧ next.Listed := by
  induction items generalizing m with
  | nil => exact ⟨m, rfl, listed⟩
  | cons item items ih =>
    obtain ⟨middle, added, after⟩ := listed.add item.1 item.2
    obtain ⟨next, rest, done⟩ := ih after
    refine ⟨next, ?_, done⟩
    rw [ServiceInfoManager.addEach, List.foldlM_cons, added]
    exact rest

theorem Listed.edit (listed : m.Listed) (nodeId : Bytes) (f : ServiceInfo → ServiceInfo) :
    ∃ next, m.edit nodeId f = some next ∧ next.Listed ∧ next.nodeidList = m.nodeidList := by
  unfold ServiceInfoManager.edit
  split
  · exact ⟨m, rfl, listed, rfl⟩
  · rename_i null
    exact absurd null (listed.filled nodeId)
  · rename_i info found
    exact ⟨_, rfl, listed.replace (OrdMap.mem_keys.mpr ⟨_, found⟩) (f info), rfl⟩

theorem Listed.drop (listed : m.Listed) (nodeId : Bytes) : (m.drop nodeId).Listed := by
  refine ⟨listed.distinct.filter _, ?_, ?_⟩
  · intro other
    simp only [ServiceInfoManager.drop, List.mem_filter, listed.exact other, OrdMap.mem_keys, OrdMap.find_erase]
    by_cases same : other = nodeId
    · simp [same]
    · simp [same]
  · intro other
    simp only [ServiceInfoManager.drop, OrdMap.find_erase]
    split
    · simp
    · exact listed.filled other

theorem Listed.removeEach {timeThreshold : Int} (entries : List (Bytes × Option ServiceInfo))
    (filled : ∀ entry ∈ entries, entry.2 ≠ none) {m : ServiceInfoManager} (listed : m.Listed) :
    ∃ next, entries.foldlM (removeIfUnlived timeThreshold) m = some next ∧ next.Listed ∧
      next.nodeidList.Sublist m.nodeidList := by
  induction entries generalizing m with
  | nil => exact ⟨m, rfl, listed, List.Sublist.refl _⟩
  | cons entry entries ih =>
    have later := fun other member => filled other (List.mem_cons_of_mem entry member)
    obtain ⟨nodeId, value⟩ := entry
    cases value with
    | none => exact absurd rfl (filled (nodeId, none) List.mem_cons_self)
    | some info =>
      rw [List.foldlM_cons]
      by_cases unlived : info.timeStamp < timeThreshold
      · have dropped : removeIfUnlived timeThreshold m (nodeId, some info) = some (m.drop nodeId) := if_pos unlived
        obtain ⟨next, rest, done, fewer⟩ := ih later (listed.drop nodeId)
        rw [dropped]
        exact ⟨next, rest, done, fewer.trans List.filter_sublist⟩
      · have kept : removeIfUnlived timeThreshold m (nodeId, some info) = some m := if_neg unlived
        rw [kept]
        exact ih later listed

theorem Listed.removeUnlivedNodes (listed : m.Listed) (sec now : Int) :
    ∃ next, m.removeUnlivedNodes sec now = some next ∧ next.Listed ∧ next.nodeidList.Sublist m.nodeidList := by
  refine listed.removeEach m.serviceInfos.entries ?_
  rintro ⟨nodeId, value⟩ member null
  have found := OrdMap.find_eq_some.mpr member
  rw [show value = none from null] at found
  exact listed.filled nodeId found

/-- The manager after the first `k` nodes of the list have gone to its
end. -/
structure Turned (m : ServiceInfoManager) (k : Nat) (next : ServiceInfoManager) : Prop where
  list : next.nodeidList = m.nodeidList.drop k ++ m.nodeidList.take k
  infos : next.serviceInfos = m.serviceInfos
  change : ∀ nodeId, next.change.find nodeId =
    if nodeId ∈ m.nodeidList.take k then m.serviceInfos.find nodeId else m.change.find nodeId

theorem Turned.rotate (listed : m.Listed) {k : Nat} (turned : m.Turned k next) (more : k < m.nodeidList.length) :
    m.Turned (k + 1) next.rotate := by
  obtain ⟨nodeId, atK⟩ : ∃ nodeId, m.nodeidList[k]? = some nodeId := ⟨_, List.getElem?_eq_getElem more⟩
  have taken : m.nodeidList.take (k + 1) = m.nodeidList.take k ++ [nodeId] := by
    rw [List.take_add_one, atK, Option.toList_some]
  have front : next.nodeidList = nodeId :: (m.nodeidList.drop (k + 1) ++ m.nodeidList.take k) := by
    rw [turned.list, ← List.cons_append, ← List.getElem_cons_drop more]
    congr
    rw [List.getElem?_eq_getElem more] at atK
    exact Option.some.inj atK
  obtain ⟨info, found⟩ := listed.found (List.mem_of_getElem? atK)
  have rotated : next.rotate = { next with
      nodeidList := m.nodeidList.drop (k + 1) ++ m.nodeidList.take k ++ [nodeId],
      change := next.change.insert nodeId (some info) } := by
    simp only [ServiceInfoManager.rotate, front, subscript, turned.infos, found]
  rw [rotated]
  refine ⟨?_, turned.infos, ?_⟩
  · rw [taken, List.append_assoc]
  · intro other
    rw [OrdMap.find_insert, turned.change, taken]
    by_cases same : other = nodeId
    · simp [same, found]
    · simp [same]

theorem Turned.iterate (listed : m.Listed) {k : Nat} (within : k ≤ m.nodeidList.length) :
    m.Turned k (ServiceInfoManager.rotate^[k] m) := by
  induction k with
  | zero => exact ⟨by simp, rfl, by simp⟩
  | succ k ih =>
    rw [Function.iterate_succ_apply']
    exact (ih (by omega)).rotate listed within

theorem Listed.cleared (listed : m.Listed) : Listed { m with change := .empty } :=
  ⟨listed.distinct, listed.exact, listed.filled⟩

/-- The change set has the first nodes of the list with what is stored for
them, and these nodes go to the end of the list. -/
theorem Listed.getChangeSet (listed : m.Listed) :
    Turned { m with change := .empty } (min m.nodeidList.length maxChangeSetSize) m.getChangeSet :=
  Turned.iterate listed.cleared (min_le_left _ _)

theorem Turned.listed (listed : m.Listed) {k : Nat} (turned : m.Turned k next) : next.Listed := by
  have permuted : next.nodeidList.Perm m.nodeidList := by
    rw [turned.list]
    exact List.perm_append_comm.trans (by rw [List.take_append_drop])
  refine ⟨permuted.nodup_iff.mpr listed.distinct, ?_, ?_⟩
  · intro nodeId
    rw [permuted.mem_iff, turned.infos]
    exact listed.exact nodeId
  · intro nodeId
    rw [turned.infos]
    exact listed.filled nodeId

theorem Listed.step (listed : m.Listed) (call : ServiceInfoCall) : ∃ next, m.step call = some next ∧
    next.Listed := by
  cases call with
  | add nodeId serviceInfo => exact listed.add nodeId serviceInfo
  | addAll serviceInfos => exact listed.addEach serviceInfos.entries
  | update nodeId key value =>
    obtain ⟨next, ran, after, _⟩ := listed.edit nodeId _
    exact ⟨next, ran, after⟩
  | updateTimeStamp nodeId now =>
    obtain ⟨next, ran, after, _⟩ := listed.edit nodeId _
    exact ⟨next, ran, after⟩
  | removeUnlivedNodes sec now =>
    obtain ⟨next, ran, after, _⟩ := listed.removeUnlivedNodes sec now
    exact ⟨next, ran, after⟩
  | resetChangeSet => exact ⟨_, rfl, listed.cleared⟩
  | getChangeSet => exact ⟨_, rfl, listed.getChangeSet.listed listed.cleared⟩

end ServiceInfoManager

end DbcNode
