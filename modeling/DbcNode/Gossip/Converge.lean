import DbcNode.Gossip.ServiceInfos
import DbcNode.Lib.Latest

namespace DbcNode

theorem idxOf_le_of_sublist {α : Type} [BEq α] [LawfulBEq α] {short long : List α} {a : α}
    (sublist : short.Sublist long) (distinct : long.Nodup) (member : a ∈ short) : short.idxOf a ≤ long.idxOf a := by
  induction sublist with
  | slnil => cases member
  | @cons short long head sublist ih =>
    obtain ⟨fresh, distinct⟩ := List.nodup_cons.mp distinct
    have other : head ≠ a := by
      rintro rfl
      exact fresh (sublist.subset member)
    rw [List.idxOf_cons_ne _ other]
    exact le_trans (ih distinct member) (Nat.le_succ _)
  | @cons_cons short long head sublist ih =>
    by_cases same : head = a
    · rw [same, List.idxOf_cons_self]
      exact Nat.zero_le _
    · rw [List.idxOf_cons_ne _ same, List.idxOf_cons_ne _ same]
      have later := (List.mem_cons.mp member).resolve_left fun equal => same equal.symm
      exact Nat.succ_le_succ (ih (List.nodup_cons.mp distinct).2 later)

/-- An element that is not among the first `k` is `k` places further up once
these have gone to the end. -/
theorem idxOf_turned {α : Type} [BEq α] [LawfulBEq α] {l : List α} {a : α} {k : Nat} (member : a ∈ l)
    (later : a ∉ l.take k) : (l.drop k ++ l.take k).idxOf a + k = l.idxOf a := by
  have parts : a ∈ l.take k ∨ a ∈ l.drop k := by
    rw [← List.mem_append, List.take_append_drop]
    exact member
  have inDrop := parts.resolve_left later
  have short : k ≤ l.length := by
    by_contra beyond
    rw [List.drop_eq_nil_of_le (by omega)] at inDrop
    cases inDrop
  have whole : l.idxOf a = (l.take k ++ l.drop k).idxOf a := by rw [List.take_append_drop]
  rw [whole, List.idxOf_append_of_notMem later, List.idxOf_append_of_mem inDrop, List.length_take,
    min_eq_left short]
  omega

namespace ServiceInfoCall

def adds : ServiceInfoCall → Bool
  | .add _ _ | .addAll _ => true
  | _ => false

def turns : ServiceInfoCall → Bool
  | .getChangeSet => true
  | _ => false

/-- The infos that a call brings in. -/
def updates : ServiceInfoCall → List (Bytes × ServiceInfo)
  | .add nodeId serviceInfo => [(nodeId, serviceInfo)]
  | .addAll serviceInfos => serviceInfos.entries
  | _ => []

end ServiceInfoCall

namespace ServiceInfoManager
variable {m next last : ServiceInfoManager} {nodeId : Bytes} {call : ServiceInfoCall}

/-- The change sets that the calls of a run return. -/
def changeSets (m : ServiceInfoManager) : List ServiceInfoCall → List (OrdMap Bytes (Option ServiceInfo))
  | [] => []
  | call :: rest =>
    match m.step call with
    | none => []
    | some next => (if call.turns then [next.change] else []) ++ next.changeSets rest

theorem Listed.runAll (calls : List ServiceInfoCall) {m : ServiceInfoManager} (listed : m.Listed) :
    ∃ last, DbcNode.runAll ServiceInfoManager.step m calls = some last ∧ last.Listed := by
  induction calls generalizing m with
  | nil => exact ⟨m, rfl, listed⟩
  | cons call calls ih =>
    obtain ⟨next, ran, after⟩ := listed.step call
    obtain ⟨last, rest, done⟩ := ih after
    exact ⟨last, by rw [DbcNode.runAll, ran]; exact rest, done⟩

theorem Listed.change_keys (listed : m.Listed) :
    nodeId ∈ m.getChangeSet.change.keys ↔
      nodeId ∈ m.nodeidList.take (min m.nodeidList.length maxChangeSetSize) := by
  rw [OrdMap.mem_keys, listed.getChangeSet.change]
  split
  · rename_i member
    obtain ⟨info, found⟩ := listed.found (List.mem_of_mem_take member)
    exact ⟨fun _ => member, fun _ => ⟨_, found⟩⟩
  · rename_i member
    simp [member]

/-- No pointer of a change set is null. -/
theorem Listed.change_filled (listed : m.Listed) (nodeId : Bytes) :
    m.getChangeSet.change.find nodeId ≠ some none := by
  rw [listed.getChangeSet.change]
  split
  · exact listed.filled nodeId
  · simp

/-- A call that neither adds nor turns only takes nodes out of the list. -/
theorem Listed.step_sublist (listed : m.Listed) (ran : m.step call = some next) (still : call.adds = false)
    (same : call.turns = false) : next.nodeidList.Sublist m.nodeidList := by
  have edited : ∀ nodeId f, m.edit nodeId f = some next → next.nodeidList.Sublist m.nodeidList := by
    intro nodeId f ran
    obtain ⟨result, done, _, list⟩ := listed.edit nodeId f
    rw [ran] at done
    cases done
    rw [list]
  cases call with
  | add | addAll => cases still
  | getChangeSet => cases same
  | update nodeId key value => exact edited nodeId _ ran
  | updateTimeStamp nodeId now => exact edited nodeId _ ran
  | removeUnlivedNodes sec now =>
    obtain ⟨result, done, _, fewer⟩ := listed.removeUnlivedNodes sec now
    rw [show m.removeUnlivedNodes sec now = some next from ran] at done
    cases done
    exact fewer
  | resetChangeSet =>
    cases ran
    exact List.Sublist.refl _

theorem Listed.step_subset (listed : m.Listed) (ran : m.step call = some next) (still : call.adds = false) :
    next.nodeidList ⊆ m.nodeidList := by
  cases turning : call.turns with
  | false => exact (listed.step_sublist ran still turning).subset
  | true =>
    cases call with
    | getChangeSet =>
      cases ran
      rw [listed.getChangeSet.list]
      intro nodeId member
      rcases List.mem_append.mp member with dropped | taken
      · exact List.mem_of_mem_drop dropped
      · exact List.mem_of_mem_take taken
    | _ => cases turning

theorem runAll_subset {calls : List ServiceInfoCall} (still : ∀ call ∈ calls, call.adds = false)
    {m : ServiceInfoManager} (listed : m.Listed) (ran : runAll step m calls = some last) :
    last.nodeidList ⊆ m.nodeidList := by
  induction calls generalizing m with
  | nil =>
    cases ran
    exact fun _ member => member
  | cons call calls ih =>
    obtain ⟨next, first, rest⟩ := Option.bind_eq_some_iff.mp ran
    obtain ⟨result, done, after⟩ := listed.step call
    rw [first] at done
    cases done
    have later := ih (fun other member => still other (List.mem_cons_of_mem call member)) after rest
    exact fun nodeId member => listed.step_subset first (still call List.mem_cons_self) (later member)

/-- The nodes ahead of one that stays get fewer by a whole change set with
each turn of the list, until its own turn comes. -/
theorem returned_in_time {calls : List ServiceInfoCall} (still : ∀ call ∈ calls, call.adds = false)
    {m : ServiceInfoManager} (listed : m.Listed) (ran : runAll step m calls = some last)
    (stays : nodeId ∈ last.nodeidList)
    (ahead : m.nodeidList.idxOf nodeId < maxChangeSetSize * calls.countP ServiceInfoCall.turns) :
    ∃ changed ∈ m.changeSets calls, nodeId ∈ changed.keys := by
  induction calls generalizing m with
  | nil => exact absurd ahead (Nat.not_lt_zero _)
  | cons call calls ih =>
    obtain ⟨next, first, rest⟩ := Option.bind_eq_some_iff.mp ran
    obtain ⟨result, done, after⟩ := listed.step call
    rw [first] at done
    cases done
    have later := fun other member => still other (List.mem_cons_of_mem call member)
    have here : nodeId ∈ next.nodeidList := runAll_subset later after rest stays
    have before : nodeId ∈ m.nodeidList := listed.step_subset first (still call List.mem_cons_self) here
    rw [changeSets, first]
    cases turning : call.turns with
    | false =>
      rw [List.countP_cons_of_neg (by rw [turning]; simp)] at ahead
      have fewer := idxOf_le_of_sublist (listed.step_sublist first (still call List.mem_cons_self) turning)
        listed.distinct here
      obtain ⟨changed, member, found⟩ := ih later after rest (lt_of_le_of_lt fewer ahead)
      exact ⟨changed, by simpa using member, found⟩
    | true =>
      rw [List.countP_cons_of_pos turning] at ahead
      obtain rfl : call = .getChangeSet := by
        cases call <;> first | rfl | cases turning
      cases first
      by_cases turn : nodeId ∈ m.nodeidList.take (min m.nodeidList.length maxChangeSetSize)
      · exact ⟨m.getChangeSet.change, by simp, listed.change_keys.mpr turn⟩
      · have place := idxOf_turned before turn
        have full : min m.nodeidList.length maxChangeSetSize = maxChangeSetSize := by
          refine min_eq_right (le_of_not_gt fun short => turn ?_)
          rw [min_eq_left short.le, List.take_length]
          exact before
        have list : m.getChangeSet.nodeidList =
            m.nodeidList.drop maxChangeSetSize ++ m.nodeidList.take maxChangeSetSize := by
          have turned := listed.getChangeSet.list
          rw [full] at turned
          exact turned
        rw [full, ← list] at place
        obtain ⟨changed, member, found⟩ := ih later after rest (by rw [Nat.mul_add] at ahead; omega)
        exact ⟨changed, List.mem_append_right _ member, found⟩

/-- The node's info, if there is one. -/
def lookup (m : ServiceInfoManager) (nodeId : Bytes) : Option ServiceInfo := (m.serviceInfos.find nodeId).join

theorem Listed.find_eq (listed : m.Listed) (nodeId : Bytes) :
    m.serviceInfos.find nodeId = (m.lookup nodeId).map some := by
  unfold lookup
  cases found : m.serviceInfos.find nodeId with
  | none => rfl
  | some value =>
    cases value with
    | none => exact absurd found (listed.filled nodeId)
    | some info => rfl

/-- The timestamp decides which info stays. -/
theorem add_lookup {serviceInfo : ServiceInfo} (added : m.add nodeId serviceInfo = some next) (other : Bytes) :
    next.lookup other =
      if other = nodeId then Latest.keep ServiceInfo.timeStamp (m.lookup other) serviceInfo
      else m.lookup other := by
  unfold add at added
  split at added
  · rename_i missing
    cases added
    simp only [lookup, OrdMap.find_insert]
    by_cases same : other = nodeId
    · simp [same, missing, Latest.keep]
    · simp [same]
  · cases added
  · rename_i old found
    split at added
    · rename_i newer
      cases added
      simp only [lookup, OrdMap.find_insert]
      by_cases same : other = nodeId
      · simp [same, found, Latest.keep, newer]
      · simp [same]
    · rename_i older
      cases added
      by_cases same : other = nodeId
      · simp [same, lookup, found, Latest.keep, older]
      · simp [same]

/-- The infos of one node among some updates. -/
def ofNode (nodeId : Bytes) (items : List (Bytes × ServiceInfo)) : List ServiceInfo :=
  (items.filter (·.1 = nodeId)).map (·.2)

theorem addEach_lookup {items : List (Bytes × ServiceInfo)} {m : ServiceInfoManager}
    (added : m.addEach items = some next) (nodeId : Bytes) :
    next.lookup nodeId = (ofNode nodeId items).foldl (Latest.keep ServiceInfo.timeStamp) (m.lookup nodeId) := by
  induction items generalizing m with
  | nil =>
    cases added
    rfl
  | cons item items ih =>
    rw [addEach, List.foldlM_cons] at added
    obtain ⟨middle, first, rest⟩ := Option.bind_eq_some_iff.mp added
    rw [ih rest, add_lookup first]
    by_cases same : item.1 = nodeId
    · simp [ofNode, same]
    · simp [ofNode, same, Ne.symm same]

/-- A run of additions is one addition of all that they bring. -/
theorem runAll_adds {calls : List ServiceInfoCall} (adding : ∀ call ∈ calls, call.adds = true)
    (m : ServiceInfoManager) :
    runAll step m calls = m.addEach (calls.flatMap ServiceInfoCall.updates) := by
  induction calls generalizing m with
  | nil => rfl
  | cons call calls ih =>
    have first : m.step call = m.addEach call.updates := by
      have adds := adding call List.mem_cons_self
      cases call with
      | add nodeId serviceInfo => simp [step, addEach, ServiceInfoCall.updates]
      | addAll serviceInfos => rfl
      | _ => cases adds
    rw [runAll, first, List.flatMap_cons, addEach, addEach, List.foldlM_append]
    exact congrArg _
      (funext fun next => ih (fun other member => adding other (List.mem_cons_of_mem call member)) next)

theorem merged_same {first second : List ServiceInfoCall} (listed : m.Listed)
    (adding : ∀ call ∈ first ++ second, call.adds = true)
    (same : ∀ item, item ∈ first.flatMap ServiceInfoCall.updates ↔ item ∈ second.flatMap ServiceInfoCall.updates)
    (distinct : ∀ a ∈ first.flatMap ServiceInfoCall.updates, ∀ b ∈ first.flatMap ServiceInfoCall.updates,
      a.1 = b.1 → a.2.timeStamp = b.2.timeStamp → a = b)
    {one two : ServiceInfoManager} (ranOne : runAll step m first = some one)
    (ranTwo : runAll step m second = some two) :
    one.serviceInfos = two.serviceInfos := by
  obtain ⟨one', doneOne, listedOne⟩ := listed.runAll first
  obtain ⟨two', doneTwo, listedTwo⟩ := listed.runAll second
  rw [ranOne] at doneOne
  rw [ranTwo] at doneTwo
  cases doneOne
  cases doneTwo
  rw [runAll_adds fun call member => adding call (List.mem_append_left _ member)] at ranOne
  rw [runAll_adds fun call member => adding call (List.mem_append_right _ member)] at ranTwo
  refine OrdMap.ext_find fun nodeId => ?_
  rw [listedOne.find_eq, listedTwo.find_eq, addEach_lookup ranOne, addEach_lookup ranTwo]
  congr 1
  refine Latest.foldl_same _ ?_ ?_
  · intro info
    simp only [ofNode, List.mem_map, List.mem_filter, same]
  · intro a memberA b memberB stamps
    simp only [ofNode, List.mem_map, List.mem_filter, decide_eq_true_eq] at memberA memberB
    obtain ⟨itemA, ⟨listedA, nodeA⟩, rfl⟩ := memberA
    obtain ⟨itemB, ⟨listedB, nodeB⟩, rfl⟩ := memberB
    rw [distinct itemA listedA itemB listedB (nodeA.trans nodeB.symm) stamps]

/-- Turning the list keeps every node. -/
theorem Listed.turnings (listed : m.Listed) (count : Nat)
    (ran : DbcNode.runAll ServiceInfoManager.step m (List.replicate count .getChangeSet) = some last) :
    last.serviceInfos = m.serviceInfos := by
  induction count generalizing m with
  | zero =>
    cases ran
    rfl
  | succ count ih =>
    have turned := listed.getChangeSet
    exact (ih (turned.listed listed.cleared) ran).trans turned.infos

/-- In every state that the calls can reach: no call reads through a null
pointer; the list enumerates the nodes of the table without duplicates; a
change set has no null and turns return every node that stays within the
calls that its place in the list asks for; and the table after a merge
depends neither on order nor on repetition. -/
theorem infos_converge {trace : List ServiceInfoCall} (run : Reaches step empty trace m) :
    (∀ call, ∃ next, m.step call = some next) ∧
    (m.nodeidList.Nodup ∧ ∀ nodeId, nodeId ∈ m.nodeidList ↔ nodeId ∈ m.serviceInfos.keys) ∧
    (∀ nodeId, m.getChangeSet.change.find nodeId ≠ some none) ∧
    (∀ calls last, (∀ call ∈ calls, call.adds = false) → runAll step m calls = some last →
      (m.serviceInfos.keys.length + 47) / 48 ≤ calls.countP ServiceInfoCall.turns →
      ∀ nodeId ∈ last.serviceInfos.keys, ∃ changed ∈ m.changeSets calls, nodeId ∈ changed.keys) ∧
    (∀ nodeId ∈ m.serviceInfos.keys,
      ∃ changed ∈ m.changeSets (List.replicate ((m.serviceInfos.keys.length + 47) / 48) .getChangeSet),
        nodeId ∈ changed.keys) ∧
    (∀ first second one two, (∀ call ∈ first ++ second, call.adds = true) →
      (∀ item, item ∈ first.flatMap ServiceInfoCall.updates ↔ item ∈ second.flatMap ServiceInfoCall.updates) →
      (∀ a ∈ first.flatMap ServiceInfoCall.updates, ∀ b ∈ first.flatMap ServiceInfoCall.updates,
        a.1 = b.1 → a.2.timeStamp = b.2.timeStamp → a = b) →
      runAll step m first = some one → runAll step m second = some two → one.serviceInfos = two.serviceInfos) := by
  have listed : m.Listed := run.invariant Listed.empty fun {s t event} listed _ ran => by
    obtain ⟨next, done, after⟩ := listed.step event
    rw [ran] at done
    cases done
    exact after
  have size : m.nodeidList.length = m.serviceInfos.keys.length := by
    refine List.Perm.length_eq ((List.perm_ext_iff_of_nodup listed.distinct ?_).mpr listed.exact)
    exact (List.pairwise_map.mpr m.serviceInfos.sorted).imp fun less => (List.lt_irrefl _ <| · ▸ less)
  have covered : ∀ calls last, (∀ call ∈ calls, call.adds = false) → runAll step m calls = some last →
      (m.serviceInfos.keys.length + 47) / 48 ≤ calls.countP ServiceInfoCall.turns →
      ∀ nodeId ∈ last.serviceInfos.keys, ∃ changed ∈ m.changeSets calls, nodeId ∈ changed.keys := by
    intro calls last still ran enough nodeId stored
    obtain ⟨result, done, after⟩ := listed.runAll calls
    rw [ran] at done
    cases done
    have stays := (after.exact nodeId).mpr stored
    have place := List.idxOf_lt_length_of_mem (runAll_subset still listed ran stays)
    refine returned_in_time still listed ran stays ?_
    simp only [maxChangeSetSize]
    omega
  refine ⟨?_, ⟨listed.distinct, listed.exact⟩, listed.change_filled, covered, ?_, ?_⟩
  · intro call
    obtain ⟨next, ran, _⟩ := listed.step call
    exact ⟨next, ran⟩
  · intro nodeId stored
    obtain ⟨last, ran, _⟩ := listed.runAll (List.replicate ((m.serviceInfos.keys.length + 47) / 48) .getChangeSet)
    refine covered _ last ?_ ran ?_ nodeId (by rw [listed.turnings _ ran]; exact stored)
    · intro call member
      rw [List.eq_of_mem_replicate member]
      rfl
    · rw [List.countP_replicate]
      simp [ServiceInfoCall.turns]
  · intro first second one two adding same distinct ranOne ranTwo
    exact merged_same listed adding same distinct ranOne ranTwo

def told (timeStamp : Int) : ServiceInfo := ⟨[], [], timeStamp, .empty⟩

/-- Three nodes are told of and turned, and then one of them has been silent
too long. -/
def gossip : List ServiceInfoCall :=
  [.add [1] (told 5), .add [2] (told 1), .add [3] (told 9), .getChangeSet, .removeUnlivedNodes 7 10]

/-- What two neighbours tell. -/
def neighbours : OrdMap Bytes ServiceInfo × (Bytes × ServiceInfo) :=
  ((OrdMap.empty.insert [1] (told 8)).insert [2] (told 11), ([1], told 12))

/-- The news of the one come twice, before and after those of the other. -/
def newsTwice : List ServiceInfoCall :=
  [.addAll neighbours.1, .add neighbours.2.1 neighbours.2.2, .addAll neighbours.1]

def newsOnce : List ServiceInfoCall := [.add neighbours.2.1 neighbours.2.2, .addAll neighbours.1]

theorem infos_converge_three : ∃ trace m one two, Reaches step empty trace m ∧ m.nodeidList = [[1], [3]] ∧
    (∀ nodeId, nodeId ∈ m.nodeidList ↔ nodeId ∈ m.serviceInfos.keys) ∧
    (∃ changed ∈ m.changeSets [.getChangeSet], [3] ∈ changed.keys) ∧
    runAll step m newsOnce = some one ∧ runAll step m newsTwice = some two ∧ one.serviceInfos =
      two.serviceInfos := by
  have facts : (runAll step empty gossip).any (fun m => m.nodeidList = [[1], [3]] ∧
    m.serviceInfos.keys.length = 2) =
      true := by decide +kernel
  obtain ⟨m, ran, holds⟩ := (Option.any_eq_true _ _).mp facts
  obtain ⟨enumerated, two⟩ := of_decide_eq_true holds
  have run : Reaches step empty (gossip.reverse ++ []) m := Reaches.of_runAll gossip .start ran
  obtain ⟨defined, ⟨_, exact⟩, _, _, turned, merged⟩ := infos_converge run
  have stored : [3] ∈ m.serviceInfos.keys := (exact [3]).mp (by simp [enumerated])
  have changed := turned [3] stored
  rw [two] at changed
  obtain ⟨last, done, listed⟩ := Listed.empty.runAll gossip
  rw [ran] at done
  cases done
  obtain ⟨one, ranOne, _⟩ := listed.runAll newsOnce
  obtain ⟨other, ranTwice, _⟩ := listed.runAll newsTwice
  refine ⟨_, m, one, other, run, enumerated, exact, changed, ranOne, ranTwice, ?_⟩
  have news : ∀ item, item ∈ newsOnce.flatMap ServiceInfoCall.updates ↔
      item = neighbours.2 ∨ item ∈ neighbours.1.entries := by
    simp [newsOnce, ServiceInfoCall.updates]
  refine merged newsOnce newsTwice one other ?_ (fun item => ?_) ?_ ranOne ranTwice
  · simp [newsOnce, newsTwice, ServiceInfoCall.adds]
  · rw [news]
    simp only [newsTwice, ServiceInfoCall.updates, List.flatMap_cons, List.flatMap_nil, List.mem_append,
      List.mem_singleton, List.not_mem_nil, or_false]
    tauto
  · intro a fromA b fromB _ stamps
    have items : neighbours.1.entries = [([1], told 8), ([2], told 11)] := rfl
    simp only [news, items, List.mem_cons, List.not_mem_nil, or_false] at fromA fromB
    rcases fromA with rfl | rfl | rfl <;> rcases fromB with rfl | rfl | rfl <;> first | rfl | cases stamps

end ServiceInfoManager

end DbcNode
