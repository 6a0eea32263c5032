import DbcNode.Lan.Stored

namespace DbcNode

namespace LanStore
open LanNode (find_put find_drop)
variable {d e : LanStore} {w : LanWorld} {name ipCidr wallet : Bytes} {info kept : NetworkInfo}

/-- The table here is the table of the node. -/
theorem createNetworkServer_node (d : LanStore) (w : LanWorld) (name ipCidr wallet : Bytes) :
    (d.createNetworkServer w name ipCidr wallet).node =
      (d.node.createNetworkServer w name ipCidr wallet).toOption.elim d.node (·.1) := by
  unfold createNetworkServer
  cases made : d.node.createNetworkServer w name ipCidr wallet with
  | error _ => rfl
  | ok done =>
    obtain ⟨next, sent⟩ := done
    obtain ⟨-, -, -, info, -, rfl, -⟩ := LanNode.createNetworkServer_ok made
    dsimp only
    rw [find_put, if_pos rfl]
    rfl

theorem createNetworkClient_node (d : LanStore) (succeeds : w.updateNetworkDb = true) (name : Bytes) :
    (d.createNetworkClient w name).node = (d.node.createNetworkClient w name).toOption.getD d.node := by
  unfold createNetworkClient LanNode.createNetworkClient
  cases d.node.getNetwork name with
  | none => rfl
  | some info =>
    dsimp only
    split
    · rfl
    · split
      · rfl
      · cases w.createVxlanDevice name <;> rfl

/-- What is done with the record of another node. -/
def keep (d : LanStore) (info : NetworkInfo) : LanStore :=
  match d.node.getNetwork info.networkId with
  | some old =>
    if { info with lastUpdateTime := old.lastUpdateTime } = old then
      d.put info.networkId { old with lastUpdateTime := info.lastUpdateTime }
    else (d.updateNetworkDb info).put info.networkId info
  | none => (d.updateNetworkDb info).put info.networkId info

theorem keep_node (d : LanStore) (info : NetworkInfo) : (d.keep info).node = d.node.keep info := by
  unfold keep LanNode.keep
  cases d.node.getNetwork info.networkId with
  | none => rfl
  | some old =>
    dsimp only
    split <;> rfl

theorem addNetworkFromMulticast_node (d : LanStore) (info : NetworkInfo) :
    (d.addNetworkFromMulticast info).node = d.node.addNetworkFromMulticast info := by
  unfold addNetworkFromMulticast LanNode.addNetworkFromMulticast
  split
  · rfl
  · exact keep_node d (d.node.told info)

theorem deleteNetwork_node (d : LanStore) (name wallet : Bytes) :
    (d.deleteNetwork name wallet).node = (d.node.deleteNetwork name wallet).toOption.elim d.node (·.1) := by
  unfold deleteNetwork
  cases d.node.deleteNetwork name wallet <;> rfl

theorem moveNetwork_node (d : LanStore) (w : LanWorld) (name newMachineId : Bytes) :
    (d.moveNetwork w name newMachineId).node =
      (d.node.moveNetwork w name newMachineId).toOption.elim d.node (·.1) := by
  unfold moveNetwork LanNode.moveNetwork
  cases d.node.getNetwork name with
  | none => rfl
  | some info =>
    dsimp only
    split
    · rfl
    · cases d.node.serveNetwork w name info <;> rfl

theorem moveNetworkAck_node (d : LanStore) (name newMachineId : Bytes) :
    (d.moveNetworkAck name newMachineId).node = d.node.moveNetworkAck name newMachineId := by
  unfold moveNetworkAck LanNode.moveNetworkAck
  cases d.node.getNetwork name with
  | none => rfl
  | some info =>
    dsimp only
    split <;> rfl

theorem joinNetwork_node (d : LanStore) (now : Int) (name taskId : Bytes) :
    (d.joinNetwork now name taskId).node = d.node.joinNetwork now name taskId := by
  unfold joinNetwork LanNode.joinNetwork
  cases d.node.getNetwork name <;> rfl

theorem leaveNetwork_node (d : LanStore) (now : Int) (name taskId : Bytes) :
    (d.leaveNetwork now name taskId).node = d.node.leaveNetwork now name taskId := by
  unfold leaveNetwork LanNode.leaveNetwork
  cases d.node.getNetwork name <;> rfl

/-- What the operations keep: each record is under its id, and there is none
without one. -/
structure Sound (d : LanStore) : Prop where
  same : ∀ name, (d.db.find name).map lasting = (d.node.networks.find name).map lasting
  keyed : ∀ name info, d.node.networks.find name = some info → info.networkId = name
  named : d.node.networks.find [] = none

theorem Sound.start (node : LanNode) : (start node).Sound :=
  ⟨fun _ => rfl, fun _ _ wrong => by (cases wrong), rfl⟩

theorem networkId_of_lasting (same : lasting kept = lasting info) : kept.networkId = info.networkId :=
  (congrArg NetworkInfo.networkId same : (lasting kept).networkId = (lasting info).networkId)

theorem Sound.keyedDb (sound : d.Sound) (found : d.db.find name = some kept) :
    kept.networkId = name ∧ name ≠ [] := by
  have same := sound.same name
  rw [found] at same
  obtain ⟨info, there, lasts⟩ := Option.map_eq_some_iff.mp same.symm
  refine ⟨(networkId_of_lasting lasts.symm).trans (sound.keyed name info there), ?_⟩
  rintro rfl
  rw [sound.named] at there
  cases there

/-- A record with its name as its id is stored under it and kept. -/
theorem Sound.change (sound : d.Sound) (id : info.networkId = name) (named : name ≠ [])
    {db : OrdMap Bytes NetworkInfo} {node : LanNode} (table : node.networks = d.node.networks.insert name info)
    (stored : lasting kept = lasting info) (base : db = d.db.insert kept.networkId kept) : Sound ⟨node, db⟩ := by
  have key : kept.networkId = name := (networkId_of_lasting stored).trans id
  refine ⟨fun other => ?_, fun other found there => ?_, ?_⟩
  · dsimp only
    rw [base, table, OrdMap.find_insert, OrdMap.find_insert, key]
    by_cases here : other = name
    · rw [if_pos here, if_pos here]
      exact congrArg some stored
    · rw [if_neg here, if_neg here]
      exact sound.same other
  · dsimp only at there
    rw [table, OrdMap.find_insert] at there
    by_cases here : other = name
    · rw [if_pos here] at there
      cases there
      exact id.trans here.symm
    · rw [if_neg here] at there
      exact sound.keyed other found there
  · dsimp only
    rw [table, OrdMap.find_insert, if_neg named.symm]
    exact sound.named

/-- The record of the table only gets a new time. -/
theorem Sound.touch (sound : d.Sound) (found : d.node.networks.find name = some info)
    (same : lasting kept = lasting info) :
    Sound { d with node := d.node.put name kept } := by
  refine ⟨fun other => ?_, fun other record there => ?_, ?_⟩
  · dsimp only
    rw [find_put]
    by_cases here : other = name
    · rw [if_pos here, here, sound.same name, found]
      exact congrArg some same.symm
    · rw [if_neg here]
      exact sound.same other
  · dsimp only at there
    rw [find_put] at there
    by_cases here : other = name
    · rw [if_pos here] at there
      cases there
      rw [here, ← sound.keyed name info found]
      exact networkId_of_lasting same
    · rw [if_neg here] at there
      exact sound.keyed other record there
  · dsimp only
    rw [find_put, if_neg ?_]
    · exact sound.named
    · rintro rfl
      rw [sound.named] at found
      cases found

theorem Sound.drop (sound : d.Sound) (name : Bytes) : Sound ⟨d.node.drop name, d.db.erase name⟩ := by
  refine ⟨fun other => ?_, fun other info there => ?_, ?_⟩
  · dsimp only
    rw [find_drop, OrdMap.find_erase]
    split
    · rfl
    · exact sound.same other
  · dsimp only at there
    rw [find_drop] at there
    split at there
    · cases there
    · exact sound.keyed other info there
  · dsimp only
    rw [find_drop]
    split
    · rfl
    · exact sound.named

/-- Nothing without an id is loaded. -/
theorem load_nil (now : Int) (db : OrdMap Bytes NetworkInfo) : (loadNetworkInfoFromDb now db).find [] = none := by
  refine Option.eq_none_iff_forall_ne_some.mpr (fun info found => ?_)
  unfold loadNetworkInfoFromDb at found
  rcases (OrdMap.find_foldl_insert _ _).mp found with ⟨entry, member, empty, -⟩ | ⟨wrong, -⟩
  · obtain ⟨-, named⟩ := List.mem_filter.mp ((lasts_sublist _).subset member)
    exact absurd empty (of_decide_eq_true named)
  · cases wrong

/-- Records under their ids are loaded as they are, with a new time. -/
theorem load_eq {db : OrdMap Bytes NetworkInfo}
    (keyed : ∀ name kept, db.find name = some kept → kept.networkId = name ∧ name ≠ []) (now : Int) :
    loadNetworkInfoFromDb now db = db.filterMap (fun _ kept => some { kept with lastUpdateTime := now }) := by
  have each (entry : Bytes × NetworkInfo) (member : entry ∈ db.entries) : entry.2.networkId = entry.1 ∧
    entry.1 ≠ [] :=
    keyed entry.1 entry.2 (OrdMap.find_eq_some.mpr member)
  have all : db.entries.filter (·.2.networkId ≠ []) = db.entries := by
    refine List.filter_eq_self.mpr (fun entry member => decide_eq_true ?_)
    rw [(each entry member).1]
    exact (each entry member).2
  have mapped : (db.filterMap (fun _ kept => some { kept with lastUpdateTime := now })).entries =
      db.entries.map (fun entry => (entry.1, { entry.2 with lastUpdateTime := now })) := by
    change List.filterMap (fun entry => some (entry.1, { entry.2 with lastUpdateTime := now })) db.entries = _
    rw [List.filterMap_eq_map']
  refine OrdMap.ext ?_
  have fold : loadNetworkInfoFromDb now db =
      (db.entries.map (fun entry => (entry.1, { entry.2 with lastUpdateTime := now }))).foldl
        (fun networks entry => networks.insert entry.1 entry.2) .empty := by
    unfold loadNetworkInfoFromDb
    rw [all, List.foldl_map]
    refine List.foldl_ext _ _ _ (fun networks entry member => ?_)
    rw [(each entry member).1]
  rw [fold, ← mapped]
  exact OrdMap.foldl_insert_entries (OrdMap.sorted _)

theorem Sound.load_find (sound : d.Sound) (now : Int) (name : Bytes) :
    (loadNetworkInfoFromDb now d.db).find name =
      (d.db.find name).map (fun kept => { kept with lastUpdateTime := now }) := by
  rw [load_eq (fun _ _ found => sound.keyedDb found), OrdMap.find_filterMap]
  cases d.db.find name <;> rfl

theorem Sound.persisted (sound : d.Sound) : d.Persisted := by
  refine ⟨sound.same, fun now name => ?_⟩
  rw [sound.load_find, ← sound.same name, Option.map_map]
  rfl

theorem Sound.restart (sound : d.Sound) (now : Int) :
    Sound { d with node := { d.node with networks := loadNetworkInfoFromDb now d.db } } := by
  refine ⟨fun name => ?_, fun name info found => ?_, load_nil now d.db⟩
  · dsimp only
    rw [sound.load_find, Option.map_map]
    rfl
  · dsimp only at found
    rw [sound.load_find] at found
    obtain ⟨kept, there, rfl⟩ := Option.map_eq_some_iff.mp found
    exact (sound.keyedDb there).1

theorem Sound.createNetworkServer (sound : d.Sound) : (d.createNetworkServer w name ipCidr wallet).Sound := by
  unfold LanStore.createNetworkServer
  cases made : d.node.createNetworkServer w name ipCidr wallet with
  | error _ => exact sound
  | ok done =>
    obtain ⟨next, sent⟩ := done
    obtain ⟨named, -, -, info, like, rfl, -⟩ := LanNode.createNetworkServer_ok made
    dsimp only
    rw [find_put, if_pos rfl]
    exact sound.change like.networkId named rfl rfl rfl

/-- A client that does not come to make its device changes nothing. -/
theorem createNetworkClient_safe (safe : d.Safe (.createNetworkClient w name)) :
    d.createNetworkClient w name = d := by
  change d.node.clientCreatesDevice name = false ∨ (w.createVxlanDevice name).isOk = false at safe
  unfold LanNode.clientCreatesDevice at safe
  unfold createNetworkClient
  cases found : d.node.getNetwork name with
  | none => rfl
  | some info =>
    rw [found] at safe
    dsimp only
    by_cases has : info.nativeFlags.device ∨ d.node.isSameHost info.machineId
    · rw [if_pos has]
    · rw [if_neg has]
      by_cases invalid : info.bridgeName = [] ∨ info.vxlanName = [] ∨ info.vxlanVni = []
      · rw [if_pos invalid]
      · rw [if_neg invalid]
        rcases safe with quiet | fails
        · exact (of_decide_eq_false quiet ⟨has, invalid⟩).elim
        · cases answer : w.createVxlanDevice name with
          | error _ => rfl
          | ok _ =>
            rw [answer] at fails
            cases fails

/-- One that does leaves the database a record without the flag. -/
theorem createNetworkClient_stale (sound : d.Sound) (makes : ¬ d.Safe (.createNetworkClient w name)) :
    ¬ (d.createNetworkClient w name).Persisted := by
  obtain ⟨comes, makes⟩ := not_or.mp makes
  obtain ⟨info, got, both⟩ := (Option.any_eq_true _ _).mp ((Bool.not_eq_false _).mp comes)
  obtain ⟨has, valid⟩ := of_decide_eq_true both
  obtain ⟨-, found⟩ := LanNode.getNetwork_eq_some.mp got
  have device : info.nativeFlags.device = false := (Bool.not_eq_true _).mp (fun yes => has (.inl yes))
  unfold createNetworkClient
  rw [got]
  dsimp only
  rw [if_neg has, if_neg valid]
  cases answer : w.createVxlanDevice name with
  | error _ =>
    rw [answer] at makes
    exact (makes rfl).elim
  | ok _ =>
    intro persisted
    have same := persisted.same name
    dsimp only [put, updateNetworkDb] at same
    rw [find_put, if_pos rfl, sound.keyed name info found, OrdMap.find_insert_self] at same
    have flags := congrArg (fun info : Option NetworkInfo => info.map (·.nativeFlags.device)) same
    change some info.nativeFlags.device = some true at flags
    rw [device] at flags
    cases flags

theorem Sound.addNetworkFromMulticast (sound : d.Sound)
    (named : info.machineId = d.node.machineId ∨ info.networkId ≠ []) : (d.addNetworkFromMulticast info).Sound := by
  unfold LanStore.addNetworkFromMulticast
  by_cases own : info.machineId = d.node.machineId
  · rw [if_pos own]
    exact sound
  · have id := d.node.told_networkId info
    have filled : info.networkId ≠ [] := named.resolve_left own
    rw [if_neg own]
    dsimp only
    cases got : d.node.getNetwork (d.node.told info).networkId with
    | none => exact sound.change id filled (by rw [id]; rfl) rfl rfl
    | some old =>
      dsimp only
      split
      · rename_i same
        rw [id] at got ⊢
        exact sound.touch (LanNode.getNetwork_eq_some.mp got).2 rfl
      · exact sound.change id filled (by rw [id]; rfl) rfl rfl

/-- A record without a name is not there after a restart. -/
theorem addNetworkFromMulticast_nameless (other : info.machineId ≠ d.node.machineId)
    (nameless : info.networkId = []) :
    ¬ (d.addNetworkFromMulticast info).Persisted := by
  intro persisted
  have restored := persisted.restored 0 []
  rw [load_nil, addNetworkFromMulticast_node, LanNode.find_addNetworkFromMulticast,
    if_pos ⟨other, nameless.symm⟩] at restored
  cases restored

theorem Sound.deleteNetwork (sound : d.Sound) (name wallet : Bytes) : (d.deleteNetwork name wallet).Sound := by
  unfold LanStore.deleteNetwork
  cases deleted : d.node.deleteNetwork name wallet with
  | error _ => exact sound
  | ok done =>
    obtain ⟨next, sent⟩ := done
    obtain ⟨info, -, -, rfl, -⟩ := LanNode.deleteNetwork_ok deleted
    exact sound.drop name

theorem Sound.deleteNetworkFromMulticast (sound : d.Sound) (name : Bytes) :
    (d.deleteNetworkFromMulticast name).Sound := by
  unfold LanStore.deleteNetworkFromMulticast
  cases d.node.networks.find name with
  | none => exact sound
  | some _ => exact sound.drop name

/-- A record of the table is changed and stored. -/
theorem Sound.edit (sound : d.Sound) (got : d.node.getNetwork name = some info)
    (id : kept.networkId = info.networkId) : (d.change name kept).Sound := by
  obtain ⟨named, found⟩ := LanNode.getNetwork_eq_some.mp got
  exact Sound.change sound (id.trans (sound.keyed name info found)) named rfl rfl rfl

theorem Sound.moveNetwork (sound : d.Sound) (w : LanWorld) (name newMachineId : Bytes) :
    (d.moveNetwork w name newMachineId).Sound := by
  unfold LanStore.moveNetwork
  cases got : d.node.getNetwork name with
  | none => exact sound
  | some info =>
    dsimp only
    split
    · exact sound
    · split
      · exact sound
      · exact sound.edit got rfl

theorem Sound.moveNetworkAck (sound : d.Sound) (name newMachineId : Bytes) :
    (d.moveNetworkAck name newMachineId).Sound := by
  unfold LanStore.moveNetworkAck
  cases got : d.node.getNetwork name with
  | none => exact sound
  | some info =>
    dsimp only
    split
    · exact sound
    · exact sound.edit got rfl

theorem Sound.joinNetwork (sound : d.Sound) (now : Int) (name taskId : Bytes) :
    (d.joinNetwork now name taskId).Sound := by
  unfold LanStore.joinNetwork
  cases got : d.node.getNetwork name with
  | none => exact sound
  | some info => exact sound.edit got rfl

theorem Sound.leaveNetwork (sound : d.Sound) (now : Int) (name taskId : Bytes) :
    (d.leaveNetwork now name taskId).Sound := by
  unfold LanStore.leaveNetwork
  cases got : d.node.getNetwork name with
  | none => exact sound
  | some info => exact sound.edit got rfl

theorem Sound.step (sound : d.Sound) {event : StoreEvent} (safe : d.Safe event) (ran : d.step event = some e) :
    e.Sound := by
  cases event with
  | createNetworkServer w name ipCidr wallet =>
    unfold LanStore.step at ran
    dsimp only at ran
    split at ran <;> cases ran
    exact sound.createNetworkServer
  | createNetworkClient w name =>
    unfold LanStore.step at ran
    dsimp only at ran
    split at ran <;> cases ran
    rw [createNetworkClient_safe safe]
    exact sound
  | addNetworkFromMulticast r =>
    cases ran
    exact sound.addNetworkFromMulticast safe
  | deleteNetwork name wallet =>
    cases ran
    exact sound.deleteNetwork name wallet
  | deleteNetworkFromMulticast name =>
    cases ran
    exact sound.deleteNetworkFromMulticast name
  | moveNetwork w name newMachineId =>
    cases ran
    exact sound.moveNetwork w name newMachineId
  | moveNetworkAck name newMachineId =>
    cases ran
    exact sound.moveNetworkAck name newMachineId
  | joinNetwork now name taskId =>
    cases ran
    exact sound.joinNetwork now name taskId
  | leaveNetwork now name taskId =>
    cases ran
    exact sound.leaveNetwork now name taskId
  | lanNodes known =>
    cases ran
    exact ⟨sound.same, sound.keyed, sound.named⟩
  | restart now =>
    cases ran
    exact sound.restart now

/-- From a sound state the table is persisted just after the events that are
safe. -/
theorem Sound.step_iff (sound : d.Sound) {event : StoreEvent} (ran : d.step event = some e) :
    e.Persisted ↔ d.Safe event := by
  refine ⟨fun persisted => ?_, fun safe => (sound.step safe ran).persisted⟩
  cases event with
  | createNetworkClient w name =>
    by_contra makes
    unfold LanStore.step at ran
    dsimp only at ran
    split at ran <;> cases ran
    exact createNetworkClient_stale sound makes persisted
  | addNetworkFromMulticast r =>
    by_contra nameless
    obtain ⟨other, empty⟩ := not_or.mp nameless
    cases ran
    exact addNetworkFromMulticast_nameless other (not_not.mp empty) persisted
  | _ => trivial

/-- As long as the events are safe the database has the table after each of
them, and loses it with one that is not. -/
theorem persisted_while_safe {node : LanNode} {trace : List StoreEvent} (run : Run step Safe (start node) trace d) :
    d.Persisted ∧ ∀ event e, d.step event = some e → (e.Persisted ↔ d.Safe event) := by
  have sound : d.Sound := run.invariant (Sound.start node) (fun sound safe ran => sound.step safe ran)
  exact ⟨sound.persisted, fun event e ran => sound.step_iff ran⟩

section Example

/-- A network is heard of, joined, taken over and there after a restart. -/
theorem persisted_after_move : ∃ d : LanStore, d.Persisted ∧
    (d.node.networks.find (str "abcdef")).map (·.nativeFlags) = some ⟨true, true⟩ := by
  have ran : (runAll (guarded step (fun d event => decide (d.Safe event))) (start (.fresh (str "b")))
      [.addNetworkFromMulticast ⟨LanNode.toldNetwork, str "a", [], 7⟩, .joinNetwork 8 (str "abcdef") (str "t"),
        .moveNetwork (.fine 9 []) (str "abcdef") (str "b"), .restart 10]).any
      (fun d => (d.node.networks.find (str "abcdef")).map (·.nativeFlags) = some ⟨true, true⟩) = true := by
        decide +kernel
  obtain ⟨d, reached, flags⟩ := (Option.any_eq_true _ _).mp ran
  have run : Run step Safe (start (.fresh (str "b"))) _ d :=
    Run.of_guarded (fun _ _ test => of_decide_eq_true test) _ .start reached
  exact ⟨d, (persisted_while_safe run).1, of_decide_eq_true flags⟩

/-- A client makes its device, and the database does not know of it. -/
theorem device_not_persisted : ¬ ∀ (node : LanNode) trace (d : LanStore), Reaches step (start node) trace d →
    d.Persisted := by
  intro persisted
  have ran : (runAll step (start (.fresh (str "b")))
    [.addNetworkFromMulticast ⟨LanNode.toldNetwork, str "a", [], 7⟩,
      .createNetworkClient (.fine 8 []) (str "abcdef")]).any (fun d =>
        (d.node.networks.find (str "abcdef")).map (·.nativeFlags) = some ⟨true, false⟩ ∧
          (d.db.find (str "abcdef")).map (·.nativeFlags) = some ⟨false, false⟩) = true := by decide +kernel
  obtain ⟨d, reached, both⟩ := (Option.any_eq_true _ _).mp ran
  obtain ⟨table, stored⟩ := of_decide_eq_true both
  have same := (persisted _ _ d (Reaches.of_runAll _ .start reached)).same (str "abcdef")
  have flags := congrArg (Option.map (fun info : NetworkInfo => info.nativeFlags)) same
  rw [Option.map_map, Option.map_map] at flags
  have wrong := stored.symm.trans (flags.trans table)
  cases wrong

end Example

end LanStore

end DbcNode
