import DbcNode.Lan.Steps

namespace DbcNode

/-- A message that tells neither of a network nor of its owner. -/
def LanMessage.Idle : LanMessage → Prop
  | .machineInfo .. | .machineExit .. | .networkQuery .. | .networkJoin .. | .networkLeave .. => True
  | .networkCreate .. | .networkDelete .. | .networkList .. | .networkMove .. | .networkMoveAck .. => False

namespace LanNode
variable {s next last : LanNode} {w : LanWorld} {name : Bytes} {names : List Bytes} {message : LanMessage}

/-- The networks that a node lists are its own, before or after it has taken
some over. -/
def ListsOwn (s next : LanNode) (networks : List (NetworkData × List Bytes)) : Prop :=
  ∀ network ∈ networks, ∃ name info, s.networks.find name = some info ∧ network.1 = info.data ∧
    (info.machineId = s.machineId ∨ next.networks.find name = some (info.taken s.machineId))

/-- What a node sends when it takes networks over. -/
inductive Announces (s next : LanNode) : LanMessage → Prop
  | listed {networks : List (NetworkData × List Bytes)} (own : s.ListsOwn next networks) :
      Announces s next (.networkList s.machineId networks)
  | acked {name : Bytes} {info : NetworkInfo} (found : s.networks.find name = some info)
      (taken : next.networks.find name = some (info.taken s.machineId)) :
      Announces s next (.networkMoveAck s.machineId name s.machineId)

/-- What a call can send. -/
inductive Sends (s : LanNode) (w : LanWorld) (next : LanNode) : LanCall → LanMessage → Prop
  | created {name ipCidr wallet : Bytes} {info : NetworkInfo} (fresh : s.networks.find name = none)
      (new : s.Made name ipCidr wallet info) (found : next.networks.find name = some info) :
      Sends s w next (.createNetworkServer name ipCidr wallet) (.networkCreate s.machineId info.data)
  | listed {message : LanMessage} (sent : message ∈ s.sendNetworkListRequest) : Sends s w next .networkTimer message
  | announces {c : LanCall} {message : LanMessage} (takes : c = .resumeTimer ∨ ∃ timer, s.Calls timer ∧
    c = .moveTimer timer)
      (announced : s.Announces next message) : Sends s w next c message
  | deleted {c : LanCall} {name : Bytes} (removes : s.removes c) :
    Sends s w next c (.networkDelete s.machineId name)
  | moves {name : Bytes} {info : NetworkInfo} (found : s.networks.find name = some info) (leaves : s.leaves info)
      (some : s.candidates s.machineId ≠ []) :
      Sends s w next .exit (.networkMove s.machineId name [] (s.candidates s.machineId))
  | idle {c : LanCall} {message : LanMessage} (idle : message.Idle) : Sends s w next c message

theorem mem_sendNetworkListRequest (sent : message ∈ s.sendNetworkListRequest) :
    message = .networkList s.machineId s.listed := by
  unfold sendNetworkListRequest at sent
  split at sent
  · cases sent
  · exact List.mem_singleton.mp sent

theorem mem_listed {network : NetworkData × List Bytes} (member : network ∈ s.listed) :
    ∃ name info, s.networks.find name = some info ∧ network.1 = info.data ∧ info.machineId = s.machineId := by
  obtain ⟨info, inside, rfl⟩ := List.mem_map.mp member
  obtain ⟨present, own⟩ := List.mem_filter.mp inside
  obtain ⟨entry, there, rfl⟩ := List.mem_map.mp present
  exact ⟨entry.1, entry.2, OrdMap.find_eq_some.mpr there, rfl, (of_decide_eq_true own).2⟩

theorem Announces.list (s next : LanNode) (sent : message ∈ s.sendNetworkListRequest) :
    s.Announces next message := by
  rw [mem_sendNetworkListRequest sent]
  refine .listed fun network member => ?_
  obtain ⟨name, info, found, data, own⟩ := mem_listed member
  exact ⟨name, info, found, data, Or.inl own⟩

theorem mem_sendNetworkMoveAckRequest {machineId : Bytes}
    (sent : message ∈ s.sendNetworkMoveAckRequest name machineId) :
    message = .networkMoveAck s.machineId name machineId := by
  unfold sendNetworkMoveAckRequest at sent
  split at sent
  · exact List.mem_singleton.mp sent
  · cases sent

/-- What was taken over stays so. -/
theorem TakesOver.keeps {info : NetworkInfo} (gained : next.TakesOver w last names)
    (own : next.machineId = s.machineId) (taken : next.networks.find name = some (info.taken s.machineId)) :
    last.networks.find name = some (info.taken s.machineId) := by
  rcases gained.records name with same | ⟨_, _, before, found, again⟩
  · exact same.trans taken
  · rw [taken] at found
    cases found
    rw [again, own]
    rfl

theorem Announces.later (own : next.machineId = s.machineId) (announced : s.Announces next message)
    (gained : next.TakesOver w last names) : s.Announces last message := by
  cases announced with
  | listed lists =>
    refine .listed fun network member => ?_
    obtain ⟨name, info, found, data, was | taken⟩ := lists network member
    · exact ⟨name, info, found, data, Or.inl was⟩
    · exact ⟨name, info, found, data, Or.inr (gained.keeps own taken)⟩
  | acked found taken => exact .acked found (gained.keeps own taken)

theorem Announces.earlier {more : List Bytes} (gained : s.TakesOver w next names)
    (later : next.TakesOver w last more) (announced : next.Announces last message) : s.Announces last message := by
  have before : ∀ {name : Bytes} {info : NetworkInfo}, next.networks.find name = some info →
      ∃ old, s.networks.find name = some old ∧ info.data = old.data ∧
        info.taken s.machineId = old.taken s.machineId ∧
        (info = old ∨ last.networks.find name = some (old.taken s.machineId)) := by
    intro name info found
    rcases gained.records name with same | ⟨_, _, old, present, taken⟩
    · exact ⟨info, same.symm.trans found, rfl, rfl, Or.inl rfl⟩
    · have kept := later.keeps gained.machineId taken
      rw [found] at taken
      cases taken
      exact ⟨old, present, rfl, rfl, Or.inr kept⟩
  cases announced with
  | listed lists =>
    rw [gained.machineId]
    refine .listed fun network member => ?_
    obtain ⟨name, info, found, data, own⟩ := lists network member
    obtain ⟨old, present, same, whole, origin⟩ := before found
    refine ⟨name, old, present, data.trans same, ?_⟩
    rw [gained.machineId] at own
    rcases origin with rfl | taken
    · exact own
    · exact Or.inr taken
  | acked found taken =>
    rw [gained.machineId] at taken ⊢
    obtain ⟨old, present, _, whole, _⟩ := before found
    rw [whole] at taken
    exact .acked present taken

theorem Announces.takeOver (sent : message ∈ (s.takeOver w name).2) :
    s.Announces (s.takeOver w name).1 message := by
  rcases takeOver_cases s w name with ⟨next, info, _, _, found, rfl, ran⟩ | ⟨_, ran⟩
  · rw [ran] at sent ⊢
    rcases List.mem_append.mp sent with acked | listed
    · rw [mem_sendNetworkMoveAckRequest acked]
      exact .acked found (by rw [find_put, if_pos rfl])
    · have gained := TakesOver.takeOver s w name
      rw [ran] at gained
      exact Announces.earlier gained (.none _ w)
        (.list (s.put name (info.taken s.machineId)) (s.put name (info.taken s.machineId)) listed)
  · rw [ran] at sent
    cases sent

theorem Announces.each (w : LanWorld) (names : List Bytes) (done : LanSent)
    (sent : message ∈ (names.foldl (fun done networkName =>
      let next := done.1.takeOver w networkName
      (next.1, done.2 ++ next.2)) done).2) :
    message ∈ done.2 ∨ done.1.Announces (names.foldl (fun done networkName =>
      let next := done.1.takeOver w networkName
      (next.1, done.2 ++ next.2)) done).1 message := by
  induction names generalizing done with
  | nil => exact Or.inl sent
  | cons name names ih =>
    have first := TakesOver.takeOver done.1 w name
    have later := TakesOver.each w names ((done.1.takeOver w name).1, done.2 ++ (done.1.takeOver w name).2)
    rcases ih _ sent with before | after
    · rcases List.mem_append.mp before with old | new
      · exact Or.inl old
      · exact Or.inr ((Announces.takeOver new).later first.machineId later)
    · exact Or.inr (after.earlier first later)

/-- What is taken over is acknowledged. -/
theorem takeOver_acked (named : s.machineId ≠ []) (w : LanWorld) (name other : Bytes) :
    (s.takeOver w name).1.networks.find other = s.networks.find other ∨
      .networkMoveAck s.machineId other s.machineId ∈ (s.takeOver w name).2 := by
  rcases takeOver_cases s w name with ⟨next, info, _, nonempty, _, rfl, ran⟩ | ⟨_, ran⟩
  · rw [ran]
    by_cases same : other = name
    · subst same
      refine Or.inr (List.mem_append_left _ ?_)
      rw [sendNetworkMoveAckRequest, if_pos ⟨nonempty, named⟩]
      exact List.mem_singleton_self _
    · refine Or.inl ?_
      rw [find_put, if_neg same]
  · rw [ran]
    exact Or.inl rfl

theorem each_acked (w : LanWorld) (names : List Bytes) (done : LanSent) (named : done.1.machineId ≠ [])
    (other : Bytes) : ((names.foldl (fun done networkName =>
      let next := done.1.takeOver w networkName
      (next.1, done.2 ++ next.2)) done).1.networks.find other = done.1.networks.find other ∨
      .networkMoveAck done.1.machineId other done.1.machineId ∈ (names.foldl (fun done networkName =>
        let next := done.1.takeOver w networkName
        (next.1, done.2 ++ next.2)) done).2) ∧
      ∀ message ∈ done.2, message ∈ (names.foldl (fun done networkName =>
        let next := done.1.takeOver w networkName
        (next.1, done.2 ++ next.2)) done).2 := by
  induction names generalizing done with
  | nil => exact ⟨Or.inl rfl, fun _ sent => sent⟩
  | cons name names ih =>
    have own := (TakesOver.takeOver done.1 w name).machineId
    obtain ⟨later, kept⟩ :=
      ih ((done.1.takeOver w name).1, done.2 ++ (done.1.takeOver w name).2) (by rw [own]; exact named)
    refine ⟨?_, fun message sent => kept message (List.mem_append_left _ sent)⟩
    rw [List.foldl_cons]
    rcases later with same | acked
    · rcases takeOver_acked named w name other with before | acked
      · exact Or.inl (same.trans before)
      · exact Or.inr (kept _ (List.mem_append_right _ acked))
    · rw [own] at acked
      exact Or.inr acked

/-- A turn of the clearing tells of the network that it has deleted. -/
theorem clearNext_sends {now : Int} (sent : message ∈ (s.clearNext now).2) :
    s.clears ∧ ∃ name, message = .networkDelete s.machineId name := by
  unfold clearNext at sent
  split at sent
  · cases sent
  · cases sent
  · rename_i network rest clearing
    rcases toOption_getD (s.deleteNetwork network.1 network.2) (s, []) with refused | ⟨⟨next, _⟩, deleted, ran⟩
    · dsimp only at sent
      rw [refused] at sent
      cases sent
    · obtain ⟨_, _, _, rfl, rfl⟩ := deleteNetwork_ok deleted
      dsimp only at sent
      rw [ran] at sent
      refine ⟨?_, _, List.mem_singleton.mp sent⟩
      rw [clears, clearing]
      dsimp only
      rw [deleted]
      rfl
  · cases sent
  · cases sent

theorem mem_sendNetworkMoveRequest {oldMachineId : Bytes}
    (sent : message ∈ s.sendNetworkMoveRequest name oldMachineId) :
    s.candidates oldMachineId ≠ [] ∧ message = .networkMove s.machineId name [] (s.candidates oldMachineId) := by
  unfold sendNetworkMoveRequest at sent
  split at sent
  · cases sent
  · rename_i some
    exact ⟨some, List.mem_singleton.mp sent⟩

theorem mem_exit (sent : message ∈ s.exit.2) : ∃ name info, s.networks.find name = some info ∧ s.leaves info ∧
    s.candidates s.machineId ≠ [] ∧ message = .networkMove s.machineId name [] (s.candidates s.machineId) := by
  obtain ⟨entry, inside, moved⟩ := List.mem_flatMap.mp sent
  obtain ⟨present, leaves⟩ := List.mem_filter.mp inside
  have own : entry.2.machineId = s.machineId := (of_decide_eq_true leaves).1
  rw [own] at moved
  exact ⟨entry.1, entry.2, OrdMap.find_eq_some.mpr present, leaves, mem_sendNetworkMoveRequest moved⟩

theorem createNetworkServer_sends {networkName ipCidr wallet : Bytes}
    (sent : message ∈ (s.call w (.createNetworkServer networkName ipCidr wallet)).2) :
    Sends s w (s.call w (.createNetworkServer networkName ipCidr wallet)).1
      (.createNetworkServer networkName ipCidr wallet) message := by
  rcases toOption_getD (s.createNetworkServer w networkName ipCidr wallet) (s, []) with
    refused | ⟨⟨next, _⟩, made, ran⟩
  · rw [call, refused] at sent
    cases sent
  · obtain ⟨_, fresh, _, info, new, rfl, rfl⟩ := createNetworkServer_ok made
    rw [call, ran] at sent ⊢
    rw [List.mem_singleton.mp sent]
    exact .created fresh new (by rw [find_put, if_pos rfl])

/-- A timer that takes a network over tells of it. -/
theorem moveTimer_sends {timer : MoveTimer} (sent : message ∈ (s.call w (.moveTimer timer)).2) :
    Sends s w (s.call w (.moveTimer timer)).1 (.moveTimer timer) message := by
  rw [call] at sent ⊢
  split
  · rename_i due
    rw [if_pos due] at sent
    rw [onTimerTick] at sent ⊢
    dsimp only at sent ⊢
    split
    · rename_i called
      rw [if_pos called] at sent
      refine .announces (Or.inr ⟨timer, ⟨due.1, due.2, called⟩, rfl⟩) ?_
      cases Announces.takeOver sent with
      | listed own => exact .listed own
      | acked found taken => exact .acked found taken
    · rename_i silent
      rw [if_neg silent] at sent
      cases sent
  · rename_i missing
    rw [if_neg missing] at sent
    cases sent

theorem call_sends {c : LanCall} (sent : message ∈ (s.call w c).2) : Sends s w (s.call w c).1 c message := by
  cases c with
  | createNetworkServer networkName ipCidr wallet => exact createNetworkServer_sends sent
  | createNetworkClient => cases sent
  | deleteNetwork networkName wallet =>
    rcases toOption_getD (s.deleteNetwork networkName wallet) (s, []) with refused | ⟨⟨next, _⟩, deleted, ran⟩
    · rw [call, refused] at sent
      cases sent
    · obtain ⟨_, _, _, rfl, rfl⟩ := deleteNetwork_ok deleted
      rw [call, ran] at sent
      rw [List.mem_singleton.mp sent]
      exact .deleted (by rw [removes, deleted]; rfl)
  | joinRequest =>
    simp only [call, sendNetworkJoinRequest] at sent
    split at sent
    · rw [List.mem_singleton.mp sent]
      exact .idle trivial
    · cases sent
  | leaveRequest =>
    simp only [call, sendNetworkLeaveRequest] at sent
    split at sent
    · rw [List.mem_singleton.mp sent]
      exact .idle trivial
    · cases sent
  | init =>
    simp only [call, sendNetworkQueryRequest] at sent
    split at sent
    · cases sent
    · rw [List.mem_singleton.mp sent]
      exact .idle trivial
  | exit =>
    obtain ⟨name, info, found, leaves, some, rfl⟩ := mem_exit sent
    exact .moves found leaves some
  | machineExit | machineTimer =>
    rw [List.mem_singleton.mp sent]
    exact .idle trivial
  | networkTimer =>
    rw [call, onMulticastNetworkTaskTimer] at sent
    split at sent
    · exact .listed sent
    · cases sent
  | clearNext =>
    obtain ⟨clears, name, rfl⟩ := clearNext_sends sent
    exact .deleted clears
  | moveTimer timer => exact moveTimer_sends sent
  | endTimer => cases sent
  | resumeTimer =>
    rcases Announces.each w _ (s, []) sent with before | announced
    · cases before
    · exact .announces (Or.inl rfl) announced

/-- A network is made: either nothing happens, or the record and the message
are there. -/
theorem create_cases (s : LanNode) (w : LanWorld) (networkName ipCidr wallet : Bytes) :
    s.call w (.createNetworkServer networkName ipCidr wallet) = (s, []) ∨
      (s.createNetworkServer w networkName ipCidr wallet).isOk ∧ s.networks.find networkName = none ∧
      ∃ info, s.Made networkName ipCidr wallet info ∧
        s.call w (.createNetworkServer networkName ipCidr wallet) =
          (s.put networkName info, [.networkCreate s.machineId info.data]) := by
  cases made : s.createNetworkServer w networkName ipCidr wallet with
  | error text =>
    refine Or.inl ?_
    rw [LanNode.call, made]
    rfl
  | ok done =>
    obtain ⟨after, sent⟩ := done
    obtain ⟨_, fresh, _, info, new, rfl, rfl⟩ := createNetworkServer_ok made
    refine Or.inr ⟨rfl, fresh, info, new, ?_⟩
    rw [LanNode.call, made]
    rfl

theorem left_data (s : LanNode) (info : NetworkInfo) : (s.left info).data = info.data := by
  unfold LanNode.left
  split <;> rfl

end LanNode

end DbcNode
