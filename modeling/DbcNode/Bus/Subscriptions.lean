import DbcNode.Bus.Topics

namespace DbcNode

/-- The names of the two types end differently, so no topic makes up for
it. -/
theorem msgType_inj {topic other : Bytes} {functionType otherType : FunctionType}
    (same : msgType topic functionType = msgType other otherType) : topic = other ∧ functionType = otherType := by
  have types : functionType = otherType := by
    have third : (msgType topic functionType).reverse[2]? = (msgType other otherType).reverse[2]? := by rw [same]
    simp only [msgType, List.reverse_append] at third
    cases functionType with
    | nullary =>
      cases otherType with
      | nullary => rfl
      | message =>
        rw [List.getElem?_append_left (by decide), List.getElem?_append_left (by decide)] at third
        exact absurd third (by decide)
    | message =>
      cases otherType with
      | nullary =>
        rw [List.getElem?_append_left (by decide), List.getElem?_append_left (by decide)] at third
        exact absurd third (by decide)
      | message => rfl
  subst types
  exact ⟨List.append_cancel_right same, rfl⟩

theorem msgType_eq_iff {topic other : Bytes} {functionType otherType : FunctionType} :
    msgType topic functionType = msgType other otherType ↔ topic = other ∧ functionType = otherType := by
  constructor
  · exact msgType_inj
  · rintro ⟨rfl, rfl⟩
    rfl

namespace BusHistory
variable {s next : BusHistory} {event : BusEvent}

/-- The registry has an entry for each current subscription, in their
order. -/
def Agrees (s : BusHistory) : Prop := s.bus.registry = s.current.map Subscription.entry

theorem mapM_cast (functionType : FunctionType) (subs : List Subscription)
    (typed : ∀ sub ∈ subs, sub.functionType = functionType) :
    (subs.map Subscription.entry).mapM (fun entry =>
      if entry.2.functionType = functionType then some entry.2.owner else none) = some (subs.map (·.owner)) := by
  induction subs with
  | nil => rfl
  | cons sub subs ih =>
    have rest := ih fun other member => typed other (List.mem_cons_of_mem sub member)
    rw [List.map_cons, List.mapM_cons, rest]
    simp [Subscription.entry, typed sub List.mem_cons_self]

theorem filter_entry (topic : Bytes) (functionType : FunctionType) (subs : List Subscription) :
    (subs.map Subscription.entry).filter (·.1 = msgType topic functionType) =
      (subs.filter fun sub => sub.topic = topic ∧ sub.functionType = functionType).map Subscription.entry := by
  rw [List.filter_map]
  congr 1
  refine List.filter_congr fun sub _ => ?_
  simp only [Function.comp_apply, Subscription.entry, msgType_eq_iff]

theorem Agrees.exact (agrees : s.Agrees) : s.Exact := by
  intro topic functionType
  rw [TopicBus.publish, agrees, filter_entry, subscribers]
  refine mapM_cast functionType _ fun sub member => ?_
  have matching := (List.mem_filter.mp member).2
  simp only [decide_eq_true_eq] at matching
  exact matching.2

theorem mem_subscribers {topic : Bytes} {functionType : FunctionType} {owner : Nat} :
    owner ∈ s.subscribers topic functionType ↔ ⟨owner, topic, functionType⟩ ∈ s.current := by
  simp only [subscribers, List.mem_map, List.mem_filter, decide_eq_true_eq]
  constructor
  · rintro ⟨⟨owner, topic, functionType⟩, ⟨member, rfl, rfl⟩, rfl⟩
    exact member
  · intro member
    exact ⟨_, ⟨member, rfl, rfl⟩, rfl⟩

theorem Idle.current {owner : Nat} {topic : Bytes} (idle : s.Idle owner topic) :
    ⟨owner, topic, .message⟩ ∉ s.current ∧ ∀ other, ⟨other, topic, .nullary⟩ ∉ s.current := by
  refine ⟨fun member => idle.1 (mem_subscribers.mpr member), fun other member => ?_⟩
  have there := mem_subscribers.mpr member
  rw [idle.2] at there
  cases there

/-- Erasing a key whose callbacks have nothing current keeps the
registry. -/
theorem Agrees.unsubscribe_nullary (agrees : s.Agrees) {topic : Bytes}
    (free : ∀ other, ⟨other, topic, .nullary⟩ ∉ s.current) :
    (s.bus.unsubscribe topic .nullary).registry = s.bus.registry := by
  refine List.filter_eq_self.mpr fun entry member => ?_
  rw [agrees] at member
  obtain ⟨sub, listed, rfl⟩ := List.mem_map.mp member
  refine decide_eq_true fun same => ?_
  obtain ⟨topics, types⟩ := msgType_inj same
  obtain ⟨owner, place, functionType⟩ := sub
  cases topics
  cases types
  exact free owner listed

theorem Agrees.unsubscribe_each (topics : List Bytes) {s : BusHistory} (agrees : s.Agrees)
    (free : ∀ topic ∈ topics, ∀ other, ⟨other, topic, .nullary⟩ ∉ s.current) :
    (topics.foldl (fun bus msgname => bus.unsubscribe msgname .nullary) s.bus).registry = s.bus.registry := by
  induction topics generalizing s with
  | nil => rfl
  | cons topic topics ih =>
    have same := agrees.unsubscribe_nullary (free topic List.mem_cons_self)
    have after : Agrees ⟨s.bus.unsubscribe topic .nullary, s.current⟩ := same.trans agrees
    exact (ih after fun other member => free other (List.mem_cons_of_mem topic member)).trans same

theorem filter_not_ends (none : ∀ sub ∈ s.current, s.bus.ends sub event = false) :
    s.current.filter (!s.bus.ends · event) = s.current := by
  refine List.filter_eq_self.mpr fun sub member => ?_
  rw [none sub member]
  rfl

theorem setInvokers_registry (owner : Nat) (topics : List Bytes) (bus : TopicBus) :
    (bus.setInvokers owner topics).registry = bus.registry := rfl

/-- A call that begins a subscription begins the same one on the bus. -/
theorem Agrees.begin (agrees : s.Agrees) {owner : Nat} {topic : Bytes} {functionType : FunctionType}
    {bus : TopicBus} (same : bus.registry = s.bus.registry) :
    Agrees ⟨bus.subscribe owner topic functionType, s.current ++ [⟨owner, topic, functionType⟩]⟩ := by
  change bus.registry ++ [_] = _
  rw [same, agrees, List.map_append]
  rfl

theorem Agrees.step (agrees : s.Agrees) (harmless : s.Harmless event) (ran : s.step event = some next) :
    next.Agrees := by
  cases ran
  cases event with
  | subscribe owner topic functionType =>
    rw [filter_not_ends fun _ _ => rfl]
    exact agrees.begin rfl
  | unsubscribe owner topic functionType =>
    change (s.bus.registry.filter _) = (s.current.filter _ ++ []).map _
    rw [agrees, List.append_nil, List.filter_map]
    congr 1
    refine List.filter_congr fun sub member => ?_
    obtain ⟨other, place, type⟩ := sub
    simp only [Function.comp_apply, Subscription.entry, TopicBus.ends, ne_eq, msgType_eq_iff, Subscription.mk.injEq]
    by_cases same : place = topic ∧ type = functionType
    · obtain ⟨rfl, rfl⟩ := same
      simp [harmless other (mem_subscribers.mpr member)]
    · simp [same]
  | regMsgHandle owner msgname handle =>
    rw [filter_not_ends fun _ _ => rfl]
    cases handle with
    | false =>
      change s.bus.registry = (s.current ++ []).map _
      rw [List.append_nil]
      exact agrees
    | true => exact agrees.begin (setInvokers_registry _ _ _)
  | unregMsgHandle owner msgname =>
    obtain ⟨message, nullary⟩ := Idle.current harmless
    have kept := agrees.unsubscribe_nullary nullary
    change (s.bus.unsubscribe msgname .nullary).registry = (s.current.filter _ ++ []).map _
    rw [kept, List.append_nil, filter_not_ends]
    · exact agrees
    · intro sub member
      refine decide_eq_false fun same => message ?_
      rw [← same]
      exact member
  | removeAllMsgHandle owner =>
    have kept := agrees.unsubscribe_each (s.bus.msgInvokers owner) fun topic member =>
      (Idle.current (harmless topic member)).2
    change (List.foldl (fun bus msgname => bus.unsubscribe msgname .nullary) s.bus _).registry =
      (s.current.filter _ ++ []).map _
    rw [kept, List.append_nil, filter_not_ends]
    · exact agrees
    · intro sub member
      refine decide_eq_false fun ended => ?_
      obtain ⟨other, topic, functionType⟩ := sub
      obtain ⟨rfl, rfl, registered⟩ := ended
      exact (Idle.current (harmless topic registered)).1 member

/-- What goes wrong where a call is not harmless: to unsubscribe is to do it
for everybody. -/
theorem publish_unsubscribed (bus : TopicBus) (topic : Bytes) (functionType : FunctionType) :
    (bus.unsubscribe topic functionType).publish topic functionType = some [] := by
  have nothing : (bus.unsubscribe topic functionType).registry.filter (·.1 = msgType topic functionType) = [] := by
    refine List.filter_eq_nil_iff.mpr fun entry member => ?_
    simpa using (List.mem_filter.mp member).2
  rw [TopicBus.publish, nothing]
  rfl

theorem publish_unsubscribe_other (bus : TopicBus) {topic other : Bytes} {functionType otherType : FunctionType}
    (different : ¬ (topic = other ∧ functionType = otherType)) :
    (bus.unsubscribe other otherType).publish topic functionType = bus.publish topic functionType := by
  rw [TopicBus.publish, TopicBus.publish, TopicBus.unsubscribe, List.filter_filter]
  congr 1
  refine List.filter_congr fun entry _ => ?_
  by_cases same : entry.1 = msgType topic functionType
  · simp [same, msgType_eq_iff, different]
  · simp [same]

theorem publish_each_message (topics : List Bytes) (bus : TopicBus) (topic : Bytes) :
    (topics.foldl (fun bus msgname => bus.unsubscribe msgname .nullary) bus).publish topic .message =
      bus.publish topic .message := by
  induction topics generalizing bus with
  | nil => rfl
  | cons first topics ih => exact (ih _).trans (publish_unsubscribe_other bus (by simp))

theorem publish_each_nullary {topics : List Bytes} {topic : Bytes} (member : topic ∈ topics) (bus : TopicBus) :
    (topics.foldl (fun bus msgname => bus.unsubscribe msgname .nullary) bus).publish topic .nullary = some [] := by
  induction topics using List.reverseRecOn with
  | nil => cases member
  | append_singleton topics last ih =>
    rw [List.foldl_append, List.foldl_cons, List.foldl_nil]
    by_cases same : topic = last
    · rw [same]
      exact publish_unsubscribed _ _ _
    · have earlier : topic ∈ topics := by simpa [same] using member
      rw [publish_unsubscribe_other _ (by simp [same])]
      exact ih earlier

theorem mem_current_of_not_ends {sub : Subscription} (ran : s.step event = some next) (member : sub ∈ s.current)
    (stays : s.bus.ends sub event = false) : sub ∈ next.current := by
  cases ran
  refine List.mem_append_left _ (List.mem_filter.mpr ⟨member, ?_⟩)
  rw [stays]
  rfl

theorem not_mem_current_of_ends {sub : Subscription} (ran : s.step event = some next)
    (ended : s.bus.ends sub event = true) :
    sub ∉ next.current := by
  cases ran
  intro member
  rcases List.mem_append.mp member with kept | begun
  · have stays := (List.mem_filter.mp kept).2
    rw [ended] at stays
    cases stays
  · cases event with
    | subscribe | regMsgHandle => cases ended
    | unsubscribe | unregMsgHandle | removeAllMsgHandle => cases begun

/-- Where the callbacks without arguments of a topic are erased and its
other ones are not, and the owner's message handler has ended, there was
none of either. -/
theorem idle_of_exact {owner : Nat} {topic : Bytes} (agrees : s.Agrees) (exact : next.Exact)
    (ran : s.step event = some next) (nullary : next.bus.publish topic .nullary = some [])
    (message : next.bus.publish topic .message = s.bus.publish topic .message)
    (kept : ∀ other, s.bus.ends ⟨other, topic, .nullary⟩ event = false)
    (ended : s.bus.ends ⟨owner, topic, .message⟩ event = true) : s.Idle owner topic := by
  constructor
  · have same : s.subscribers topic .message = next.subscribers topic .message := by
      rw [exact, agrees.exact] at message
      exact (Option.some.inj message).symm
    rw [same, mem_subscribers]
    exact not_mem_current_of_ends ran ended
  · refine List.eq_nil_iff_forall_not_mem.mpr fun other member => ?_
    have there := mem_subscribers.mpr (mem_current_of_not_ends ran (mem_subscribers.mp member) (kept other))
    rw [exact] at nullary
    rw [Option.some.inj nullary] at there
    cases there

theorem Exact.harmless (agrees : s.Agrees) (exact : next.Exact) (ran : s.step event = some next) :
    s.Harmless event := by
  cases event with
  | subscribe | regMsgHandle => exact trivial
  | unsubscribe owner topic functionType =>
    intro other member
    by_contra different
    have there := mem_subscribers.mpr (mem_current_of_not_ends ran (mem_subscribers.mp member)
      (decide_eq_false fun same => different (congrArg Subscription.owner same)))
    have nothing : next.bus.publish topic functionType = some [] := by
      cases ran
      exact publish_unsubscribed s.bus topic functionType
    rw [exact] at nothing
    rw [Option.some.inj nothing] at there
    cases there
  | unregMsgHandle owner msgname =>
    refine idle_of_exact agrees exact ran ?_ ?_ (fun other => by simp [TopicBus.ends]) (by simp [TopicBus.ends])
    · cases ran
      exact publish_unsubscribed _ _ _
    · cases ran
      exact publish_unsubscribe_other _ (by simp)
  | removeAllMsgHandle owner =>
    intro msgname registered
    refine idle_of_exact agrees exact ran ?_ ?_ (fun other => by simp [TopicBus.ends])
      (by simp [TopicBus.ends, registered])
    · cases ran
      exact publish_each_nullary registered s.bus
    · cases ran
      exact publish_each_message _ s.bus msgname

/-- A publication reaches exactly the callbacks of the current subscriptions
in every run whose calls to unsubscribe are harmless; and from each of its
states the next call keeps this exactly where it is harmless too. -/
theorem publish_exact {trace : List BusEvent} (run : Run step Harmless start trace s) :
    s.Exact ∧ ∀ event next, s.step event = some next → (next.Exact ↔ s.Harmless event) := by
  have agrees : s.Agrees :=
    run.invariant (show start.Agrees from rfl) fun agrees harmless ran => agrees.step harmless ran
  refine ⟨agrees.exact, fun event next ran => ⟨fun exact => exact.harmless agrees ran, fun harmless => ?_⟩⟩
  exact (agrees.step harmless ran).exact

/-- Two modules with a handler each for one topic, one of which has none for
another. -/
theorem publish_exact_two : ∃ s, Run step Harmless start [.unregMsgHandle 1 [7], .regMsgHandle 2 [5] true,
    .regMsgHandle 1 [5] true] s ∧ s.bus.publish [5] .message = some [1, 2] := by
  have run : Run step Harmless start [.unregMsgHandle 1 [7], .regMsgHandle 2 [5] true,
    .regMsgHandle 1 [5] true] _ :=
    .next (.next (.next .start trivial rfl) trivial rfl) (by constructor <;> decide) rfl
  exact ⟨_, run, (publish_exact run).1 [5] .message⟩

/-- A module that has unregistered its handler is still called. -/
theorem called_after_unreg : ∃ trace s, Reaches step start trace s ∧ s.subscribers [5] .message = [2] ∧
    s.bus.publish [5] .message = some [1, 2] := by
  have run : Reaches step start [.unregMsgHandle 1 [5], .regMsgHandle 2 [5] true, .regMsgHandle 1 [5] true] _ :=
    .next (.next (.next .start trivial rfl) trivial rfl) trivial rfl
  exact ⟨_, _, run, by decide, by decide⟩

end BusHistory

end DbcNode
