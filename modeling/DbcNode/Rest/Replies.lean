import DbcNode.Lib.Runs
import DbcNode.Rest.Service

namespace DbcNode

namespace RestService
variable {B : Bloom}

/-- No request is replied to twice, and neither the session nor the timer of
one that has been replied to is there any more. -/
structure RepliesOnce (s : RestService B) : Prop where
  once : s.replied.Nodup
  closed : ∀ request sessionId timerId, (request, sessionId, timerId) ∈ s.opened → request ∈ s.replied →
    (∀ session, s.sessions.find sessionId = some session → session.request ≠ request) ∧
    ∀ timer ∈ s.timers, timer.timerId ≠ timerId

/-- Where a handler broadcasts, there is an active channel. -/
def Broadcasts (_ : RestService B) : RestEvent → Prop
  | .broadcast _ haveActiveChannel => haveActiveChannel = true
  | _ => True

instance (s : RestService B) : (event : RestEvent) → Decidable (Broadcasts s event)
  | .broadcast _ haveActiveChannel => inferInstanceAs (Decidable (haveActiveChannel = true))
  | .answer _ | .request _ _ _ _ | .response _ | .tick _ => isTrue trivial

/-- What holds of the service, but for the timers that are being called:
every session is of a request that waits, and every timer of a session. -/
structure Orderly (called : List Nat) (s : RestService B) : Prop where
  once : s.replied.Nodup
  known : ∀ request, request ∈ s.replied ∨ request ∈ s.handling → request < s.arrived
  opened : ∀ entry ∈ s.opened, entry.1 < s.arrived ∧ entry.2.2 ≤ s.timerAllocId
  requests : (s.opened.map (·.1)).Nodup
  timerIds : (s.opened.map (·.2.2)).Nodup
  session : ∀ sessionId session, s.sessions.find sessionId = some session →
    (session.request, sessionId, session.timerId) ∈ s.opened ∧ session.request ∉ s.replied
  timer : ∀ timer ∈ s.timers, timer.timerId ∉ called →
    ∃ session, s.sessions.find timer.sessionId = some session ∧ session.timerId = timer.timerId
  alloc : ∀ timer ∈ s.timers, timer.timerId ≤ s.timerAllocId
  timers : (s.timers.map (·.timerId)).Nodup

section Fields
variable (request : Nat) (reply : RestReply) (timerId : Nat) (sessionId : Bytes) (s : RestService B)

@[simp] theorem writeReply_replied : (s.writeReply request reply).replied = request :: s.replied := rfl

theorem removeTimer_timers :
    (s.removeTimer timerId).timers = s.timers.eraseP (fun timer => timer.timerId = timerId) := by
  unfold removeTimer
  split
  · rename_i none
    exact (List.eraseP_of_forall_not (fun timer member => List.find?_eq_none.mp none timer member)).symm
  · rfl

/-- Apart from the timers and their callbacks, everything stays. -/
theorem removeTimer_eq : s.removeTimer timerId = { s with
    timers := (s.removeTimer timerId).timers, timerInvokers := (s.removeTimer timerId).timerInvokers } := by
  unfold removeTimer
  split <;> rfl

theorem removeTimer_removeSession :
    (s.removeTimer timerId).removeSession sessionId = (s.removeSession sessionId).removeTimer timerId := by
  unfold removeTimer removeSession
  dsimp only
  split <;> rfl

theorem removeTimer_writeReply :
    (s.removeTimer timerId).writeReply request reply = (s.writeReply request reply).removeTimer timerId := by
  unfold removeTimer writeReply
  dsimp only
  split <;> rfl

end Fields

namespace Orderly
variable {called : List Nat} {env : RestEnv} {request : Nat} {sessionId : Bytes} {session : RestSession}
    {s t : RestService B}

/-- Two entries of one request, or of one timer, are the same. -/
theorem entry_unique (orderly : Orderly called s) {entry other : Nat × Bytes × Nat} (first : entry ∈ s.opened)
    (second : other ∈ s.opened) (same : entry.1 = other.1 ∨ entry.2.2 = other.2.2) : entry = other := by
  rcases same with request | timer
  · exact List.inj_on_of_nodup_map orderly.requests first second request
  · exact List.inj_on_of_nodup_map orderly.timerIds first second timer

theorem repliesOnce (orderly : Orderly [] s) : RepliesOnce s where
  once := orderly.once
  closed request sessionId timerId entry replied := by
    constructor
    · intro session found same
      exact (orderly.session sessionId session found).2 (same ▸ replied)
    · intro timer member same
      obtain ⟨session, found, own⟩ := orderly.timer timer member (by simp)
      obtain ⟨opened, waits⟩ := orderly.session _ session found
      have equal := orderly.entry_unique opened entry (Or.inr (own.trans same))
      cases equal
      exact waits replied

/-- A reply to a request that no session holds. -/
theorem writeReply (orderly : Orderly called s) (known : request < s.arrived) (fresh : request ∉ s.replied)
    (free : ∀ sessionId session, s.sessions.find sessionId = some session → session.request ≠ request)
    (reply : RestReply) :
    Orderly called (s.writeReply request reply) where
  once := List.nodup_cons.mpr ⟨fresh, orderly.once⟩
  known other member := by
    rcases member with replied | handled
    · rcases List.mem_cons.mp replied with rfl | before
      · exact known
      · exact orderly.known other (Or.inl before)
    · exact orderly.known other (Or.inr handled)
  opened := orderly.opened
  requests := orderly.requests
  timerIds := orderly.timerIds
  session sessionId session found := by
    obtain ⟨entry, waits⟩ := orderly.session sessionId session found
    refine ⟨entry, fun replied => ?_⟩
    rcases List.mem_cons.mp replied with same | before
    · exact free sessionId session found same
    · exact waits before
  timer := orderly.timer
  alloc := orderly.alloc
  timers := orderly.timers

/-- The session of a timer that is being called may go. -/
theorem removeSession (orderly : Orderly called s) (found : s.sessions.find sessionId = some session) :
    Orderly (session.timerId :: called) (s.removeSession sessionId) where
  once := orderly.once
  known := orderly.known
  opened := orderly.opened
  requests := orderly.requests
  timerIds := orderly.timerIds
  session other rest still := by
    unfold RestService.removeSession at still
    rw [OrdMap.find_erase] at still
    split at still
    · cases still
    · exact orderly.session other rest still
  timer timer member outside := by
    simp only [List.mem_cons, not_or] at outside
    obtain ⟨own, has, same⟩ := orderly.timer timer member outside.2
    refine ⟨own, ?_, same⟩
    unfold RestService.removeSession
    rw [OrdMap.find_erase, if_neg]
    · exact has
    · intro equal
      rw [equal, found] at has
      cases Option.some.inj has
      exact outside.1 same.symm
  alloc := orderly.alloc
  timers := orderly.timers

/-- No other session holds the request of one. -/
theorem removeSession_free (orderly : Orderly called s) (found : s.sessions.find sessionId = some session)
    (other : Bytes) (rest : RestSession) (still : (s.removeSession sessionId).sessions.find other = some rest) :
    rest.request ≠ session.request := by
  intro same
  unfold RestService.removeSession at still
  rw [OrdMap.find_erase] at still
  split at still
  · cases still
  · rename_i different
    have entry := (orderly.session other rest still).1
    have equal := orderly.entry_unique entry (orderly.session sessionId session found).1 (Or.inl same)
    exact different (congrArg (fun opened => opened.2.1) equal)

theorem removeTimer (orderly : Orderly called s) (timerId : Nat) : Orderly called (s.removeTimer timerId) := by
  have timers := removeTimer_timers timerId s
  rw [removeTimer_eq] at timers ⊢
  generalize (s.removeTimer timerId).timerInvokers = invokers
  generalize (s.removeTimer timerId).timers = rest at timers ⊢
  have timers : rest = s.timers.eraseP (fun timer => timer.timerId = timerId) := timers
  have sub : rest.Sublist s.timers := timers ▸ List.eraseP_sublist
  exact {
    once := orderly.once
    known := orderly.known
    opened := orderly.opened
    requests := orderly.requests
    timerIds := orderly.timerIds
    session := orderly.session
    timer := fun timer member => orderly.timer timer (sub.subset member)
    alloc := fun timer member => orderly.alloc timer (sub.subset member)
    timers := (sub.map _).nodup orderly.timers }

/-- A timer that has been called is out of the way once it is removed. -/
theorem removeTimer_called {timerId : Nat} (orderly : Orderly (timerId :: called) s) :
    Orderly called (s.removeTimer timerId) := by
  have removed := orderly.removeTimer timerId
  refine { removed with timer := fun timer member outside => removed.timer timer member ?_ }
  have others : timer.timerId ∈ (s.timers.map (·.timerId)).erase timerId := by
    rw [removeTimer_timers] at member
    rw [List.erase_eq_eraseP', List.eraseP_map]
    exact List.mem_map_of_mem member
  simp only [List.mem_cons, not_or]
  exact ⟨(orderly.timers.mem_erase_iff.mp others).1, outside⟩

/-- A session that is answered, with the timer that it has. -/
theorem answer (orderly : Orderly called s) (found : s.sessions.find sessionId = some session) (reply : RestReply) :
    Orderly (session.timerId :: called) ((s.writeReply session.request reply).removeSession sessionId) := by
  obtain ⟨entry, waits⟩ := orderly.session sessionId session found
  have known : session.request < s.arrived := (orderly.opened _ entry).1
  have removed := orderly.removeSession found
  exact removed.writeReply known waits (orderly.removeSession_free found) reply

theorem onTimer (orderly : Orderly called s) {timer : RestTimer} (member : timer ∈ s.timers)
    (outside : timer.timerId ∉ called) :
    Orderly (timer.timerId :: called) (s.onTimer timer) := by
  obtain ⟨session, found, own⟩ := orderly.timer timer member outside
  unfold RestService.onTimer
  rw [found, ← own]
  exact orderly.answer found _

theorem weaken (orderly : Orderly called s) {more : List Nat} (inside : called ⊆ more) : Orderly more s :=
  { orderly with
    timer := fun timer member outside => orderly.timer timer member (fun inner => outside (inside inner)) }

theorem invokeTimer (orderly : Orderly called s) {timer : RestTimer} (member : timer ∈ s.timers)
    (outside : timer.timerId ∉ called) : Orderly (timer.timerId :: called) (s.invokeTimer timer) := by
  unfold RestService.invokeTimer
  split
  · exact orderly.onTimer member outside
  · exact orderly.weaken (List.subset_cons_self _ _)

end Orderly

theorem invokeTimer_timers (timer : RestTimer) (s : RestService B) : (s.invokeTimer timer).timers = s.timers := by
  unfold invokeTimer onTimer
  split
  · split <;> rfl
  · rfl

namespace Orderly
variable {called : List Nat} {env : RestEnv} {request : Nat} {s t : RestService B}

/-- The timers that are due are called one after the other. -/
theorem invokeTimers (orderly : Orderly called s) {due : List RestTimer} (members : ∀ timer ∈ due, timer ∈ s.timers)
    (outside : ∀ timer ∈ due, timer.timerId ∉ called) (distinct : (due.map (·.timerId)).Nodup) :
    Orderly ((due.map (·.timerId)).reverse ++ called) (due.foldl (fun s timer => s.invokeTimer timer) s) := by
  induction due generalizing s called with
  | nil => exact orderly
  | cons timer rest ih =>
    obtain ⟨new, later⟩ := List.nodup_cons.mp distinct
    have invoked := orderly.invokeTimer (members timer List.mem_cons_self) (outside timer List.mem_cons_self)
    rw [List.map_cons, List.reverse_cons, List.append_assoc, List.singleton_append]
    refine ih invoked (fun other member => ?_) (fun other member => ?_) later
    · rw [invokeTimer_timers]
      exact members other (List.mem_cons_of_mem _ member)
    · simp only [List.mem_cons, not_or]
      exact ⟨fun same => new (List.mem_map.mpr ⟨other, member, same⟩),
        outside other (List.mem_cons_of_mem _ member)⟩

/-- And then they are removed. -/
theorem removeTimers {timerIds : List Nat} (orderly : Orderly timerIds s) :
    Orderly [] (timerIds.foldl (fun s timerId => s.removeTimer timerId) s) := by
  induction timerIds generalizing s with
  | nil => exact orderly
  | cons timerId rest ih => exact ih orderly.removeTimer_called

theorem onTimerTick (orderly : Orderly [] s) (timeTick : Nat) : Orderly [] (s.onTimerTick timeTick) := by
  unfold RestService.onTimerTick
  extract_lets due
  have sub : due.Sublist s.timers := List.filter_sublist
  have members : ∀ timer ∈ due, timer ∈ s.timers := fun timer member => sub.subset member
  have invoked := orderly.invokeTimers members (fun _ _ => List.not_mem_nil) ((sub.map _).nodup orderly.timers)
  rw [List.append_nil] at invoked
  exact (invoked.weaken (fun timerId member => List.mem_reverse.mp member)).removeTimers

theorem release (orderly : Orderly called s) (known : request < s.arrived) :
    Orderly called (s.release request) := by
  unfold RestService.release
  split
  · exact orderly
  · rename_i alone
    simp only [not_or, List.any_eq_true, not_exists, not_and, decide_eq_true_iff] at alone
    obtain ⟨fresh, _, free⟩ := alone
    refine orderly.writeReply known fresh (fun sessionId session found => ?_) _
    exact free session (List.mem_map.mpr ⟨(sessionId, session), OrdMap.find_eq_some.mp found, rfl⟩)

/-- The filter of nonces is on its own. -/
theorem look (orderly : Orderly called s) (filter : NonceFilter B) :
    Orderly called { s with nonceFilter := filter } :=
  { orderly with }

theorem onCallRspHandler (orderly : Orderly [] s) (msg : RspMessage) : Orderly [] (s.onCallRspHandler env msg) := by
  unfold RestService.onCallRspHandler
  split
  · exact orderly
  · rename_i session found
    obtain ⟨passes, filter⟩ := checkRspHeader env msg s.nonceFilter
    have looks := orderly.look filter
    dsimp only
    split
    · exact looks
    · split
      · exact looks
      · rw [removeTimer_removeSession]
        have answered := (looks.answer found (rspReply env msg)).removeTimer_called
        exact answered.release (answered.known _ (Or.inl (by rw [removeTimer_eq]; exact List.mem_cons_self)))

theorem arrive (orderly : Orderly called s) : Orderly called { s with arrived := s.arrived + 1 } :=
  { orderly with
    known := fun request member => Nat.lt_succ_of_lt (orderly.known request member)
    opened := fun entry member =>
      ⟨Nat.lt_succ_of_lt (orderly.opened entry member).1, (orderly.opened entry member).2⟩ }

/-- Nothing is known yet of a request that arrives. -/
theorem arrived_free (orderly : Orderly called s) : s.arrived ∉ s.replied ∧
    ∀ sessionId session, s.sessions.find sessionId = some session → session.request ≠ s.arrived := by
  refine ⟨fun replied => (orderly.known _ (Or.inl replied)).ne rfl, fun sessionId session found same => ?_⟩
  have before := (orderly.opened _ (orderly.session sessionId session found).1).1
  omega

theorem answerRequest (orderly : Orderly called s) (reply : Option RestReply) :
    Orderly called (s.answerRequest reply) := by
  unfold RestService.answerRequest
  dsimp only
  split
  · exact orderly.arrive.writeReply (Nat.lt_succ_self _) orderly.arrived_free.1 orderly.arrived_free.2 _
  · exact orderly.arrive.release (Nat.lt_succ_self _)

/-- A new timer is not of a session yet. -/
theorem addTimer (orderly : Orderly called s) {kind : RestKind} {sessionId : Bytes} {curTick timerId : Nat}
    (added : s.addTimer kind sessionId curTick = some (timerId, t)) : timerId = s.timerAllocId + 1 ∧
      Orderly (timerId :: called) t ∧ t.arrived = s.arrived ∧ t.replied = s.replied ∧ t.sessions = s.sessions ∧
      t.timerAllocId = timerId ∧ t.opened = s.opened ∧ ∀ timer ∈ t.timers, timer.timerId = timerId →
      timer.sessionId = sessionId := by
  unfold RestService.addTimer at added
  split at added
  · cases added
  · cases added
    refine ⟨rfl, ?_, rfl, rfl, rfl, rfl, rfl, fun timer member same => ?_⟩
    · exact { orderly with
        opened := fun entry member =>
          ⟨(orderly.opened entry member).1, Nat.le_succ_of_le (orderly.opened entry member).2⟩
        timer := fun timer member outside => by
          simp only [List.mem_cons, not_or] at outside
          rcases List.mem_append.mp member with before | new
          · exact orderly.timer timer before outside.2
          · rw [List.mem_singleton.mp new] at outside
            exact (outside.1 rfl).elim
        alloc := fun timer member => by
          rcases List.mem_append.mp member with before | new
          · exact Nat.le_succ_of_le (orderly.alloc timer before)
          · rw [List.mem_singleton.mp new]
        timers := by
          rw [List.map_append]
          refine List.nodup_append.mpr ⟨orderly.timers, List.nodup_singleton _, ?_⟩
          intro old oldMember new newMember
          obtain ⟨timer, before, rfl⟩ := List.mem_map.mp oldMember
          rw [List.map_singleton, List.mem_singleton] at newMember
          have bound := orderly.alloc timer before
          have different : timer.timerId ≠ s.timerAllocId + 1 := by omega
          rw [newMember]
          exact different }
    · rcases List.mem_append.mp member with before | new
      · have bound := orderly.alloc timer before
        omega
      · rw [List.mem_singleton.mp new]

/-- A session of the new timer. -/
theorem createRequestSession {timerId : Nat} (orderly : Orderly [timerId] s) {sessionId peerNodeId : Bytes}
    (made : s.createRequestSession timerId request sessionId peerNodeId = some t) (known : request < s.arrived)
    (fresh : request ∉ s.replied) (own : ∀ timer ∈ s.timers, timer.timerId = timerId → timer.sessionId = sessionId)
    (before : ∀ entry ∈ s.opened, entry.1 < request ∧ entry.2.2 < timerId) (alloc : timerId ≤ s.timerAllocId) :
    Orderly [] t ∧ t.arrived = s.arrived := by
  unfold RestService.createRequestSession at made
  split at made
  · cases made
  · rename_i room
    cases made
    have free : s.sessions.find sessionId = none := by
      rw [not_or, Option.not_isSome_iff_eq_none] at room
      exact room.2
    refine ⟨{ orderly with
      opened := fun entry member => ?_
      requests := List.nodup_cons.mpr ⟨fun member => ?_, orderly.requests⟩
      timerIds := List.nodup_cons.mpr ⟨fun member => ?_, orderly.timerIds⟩
      session := fun other session found => ?_
      timer := fun timer member _ => ?_ }, rfl⟩
    · rcases List.mem_cons.mp member with rfl | old
      · exact ⟨known, alloc⟩
      · exact orderly.opened entry old
    · obtain ⟨entry, old, same⟩ := List.mem_map.mp member
      exact (before entry old).1.ne same
    · obtain ⟨entry, old, same⟩ := List.mem_map.mp member
      exact (before entry old).2.ne same
    · rw [OrdMap.find_insert] at found
      split at found
      · rename_i same
        cases Option.some.inj found
        exact ⟨same ▸ List.mem_cons_self, fresh⟩
      · obtain ⟨entry, waits⟩ := orderly.session other session found
        exact ⟨List.mem_cons_of_mem _ entry, waits⟩
    · by_cases same : timer.timerId = timerId
      · refine ⟨⟨timerId, request, peerNodeId⟩, ?_, same.symm⟩
        rw [own timer member same]
        exact OrdMap.find_insert_self _ _ _
      · obtain ⟨session, found, mine⟩ := orderly.timer timer member (by simpa using same)
        refine ⟨session, ?_, mine⟩
        rw [OrdMap.find_insert_ne]
        · exact found
        · intro equal
          rw [equal, free] at found
          cases found

theorem handle (orderly : Orderly called s) (known : request < s.arrived) :
    Orderly called { s with handling := request :: s.handling } := by
  refine { orderly with known := fun other member => ?_ }
  rcases member with replied | handled
  · exact orderly.known other (Or.inl replied)
  · rcases List.mem_cons.mp handled with rfl | before
    · exact known
    · exact orderly.known other (Or.inr before)

theorem openRequest (orderly : Orderly [] s) (kind : RestKind) (sessionId peerNodeId : Bytes) (curTick : Nat) :
    Orderly [] (s.openRequest kind sessionId peerNodeId curTick) := by
  have arrives := orderly.arrive
  obtain ⟨fresh, free⟩ := orderly.arrived_free
  unfold RestService.openRequest
  dsimp only
  split
  · exact arrives.writeReply (Nat.lt_succ_self _) fresh free _
  · rename_i timerId t added
    obtain ⟨new, timed, arrived, replied, sessions, alloc, opened, own⟩ := arrives.addTimer added
    have known : s.arrived < t.arrived := by
      rw [arrived]
      exact Nat.lt_succ_self _
    split
    · rw [removeTimer_writeReply]
      refine (timed.writeReply known ?_ ?_ _).removeTimer_called
      · rw [replied]
        exact fresh
      · rw [sessions]
        exact free
    · rename_i u made
      have before : ∀ entry ∈ t.opened, entry.1 < s.arrived ∧ entry.2.2 < timerId := by
        intro entry member
        have bound := orderly.opened entry (opened ▸ member)
        have new : timerId = s.timerAllocId + 1 := new
        exact ⟨bound.1, by omega⟩
      obtain ⟨made, same⟩ := timed.createRequestSession made known (replied ▸ fresh) own before alloc.ge
      exact made.handle (same ▸ known)

theorem broadcastRequest (orderly : Orderly called s) (handled : request ∈ s.handling) :
    Orderly called (s.broadcastRequest request true) := by
  have ended : Orderly called { s with handling := s.handling.erase request } :=
    { orderly with known := fun other member => orderly.known other (member.imp_right List.mem_of_mem_erase) }
  exact ended.release (orderly.known request (Or.inr handled))

theorem step (orderly : Orderly [] s) {event : RestEvent} (broadcasts : Broadcasts s event)
    (ran : s.step env event = some t) :
    Orderly [] t := by
  cases event with
  | answer reply =>
    cases ran
    exact orderly.answerRequest reply
  | request kind sessionId peerNodeId curTick =>
    cases ran
    exact orderly.openRequest kind sessionId peerNodeId curTick
  | broadcast request haveActiveChannel =>
    have active : haveActiveChannel = true := broadcasts
    subst active
    simp only [RestService.step] at ran
    split at ran
    · rename_i handled
      cases ran
      exact orderly.broadcastRequest handled
    · cases ran
  | response msg =>
    cases ran
    exact orderly.onCallRspHandler msg
  | tick timeTick =>
    cases ran
    exact orderly.onTimerTick timeTick

theorem empty : Orderly [] (RestService.empty : RestService B) where
  once := .nil
  known request member := by rcases member with replied | handled <;> contradiction
  opened entry member := by contradiction
  requests := .nil
  timerIds := .nil
  session sessionId session found := by cases found
  timer timer member := by contradiction
  alloc timer member := by contradiction
  timers := .nil

end Orderly

/-- Where every broadcast finds an active channel, no request is replied to
twice, and none that has been replied to keeps its session or its timer. -/
theorem replies_once {env : RestEnv} {trace : List RestEvent} {s : RestService B}
    (run : Run (step env) Broadcasts RestService.empty trace s) : RepliesOnce s :=
  (run.invariant Orderly.empty (fun orderly broadcasts ran => orderly.step broadcasts ran)).repliesOnce

/-- Keys with which every signature is good and every text is its own
cipher. -/
def openEnv : RestEnv where
  privKey := str "key"
  checkId id := id ≠ []
  verifySign _ _ _ := true
  decryptData data _ _ := .message data
  parses _ := true

/-- A good response in a session. -/
def goodRsp (sessionId : Bytes) : RspMessage where
  kind := .listTask
  nonce := str "nonce"
  sessionId := sessionId
  extenInfo := (OrdMap.empty.insert (str "pub_key") (str "key")).insert (str "sign") (str "sign")
  data := str "data"

/-- The same response comes twice, and then the time runs out. -/
theorem response_once : ∃ trace s, Run (step openEnv) Broadcasts (RestService.empty : RestService .blank) trace s ∧
    s.replied = [0] ∧ s.timerAllocId = 1 ∧ RepliesOnce s := by
  have facts : (runAll (guarded (step openEnv) (fun s event => decide (Broadcasts s event)))
      (RestService.empty : RestService .blank)
      [.request .listTask (str "session") (str "peer") 0, .broadcast 0 true, .response (goodRsp (str "session")),
        .response (goodRsp (str "session")), .tick 1000]).any
      (fun s => s.replied = [0] ∧ s.timerAllocId = 1) = true := by decide +kernel
  obtain ⟨s, ran, holds⟩ := (Option.any_eq_true _ _).mp facts
  obtain ⟨replied, timed⟩ := of_decide_eq_true holds
  have run := Run.of_guarded (fun s event => of_decide_eq_true) _ .start ran
  exact ⟨_, s, run, replied, timed, replies_once run⟩

/-- A node without a channel tells so, and half a minute later that the time
has run out. -/
theorem replied_twice : ∃ trace s, Reaches (step openEnv) (RestService.empty : RestService .blank) trace s ∧
    s.replied = [0, 0] ∧ ¬ RepliesOnce s := by
  have facts : (runAll (step openEnv) (RestService.empty : RestService .blank)
      [.request .listTask (str "session") (str "peer") 0, .broadcast 0 false, .tick 300]).any
      (fun s => s.replied = [0, 0]) = true := by decide +kernel
  obtain ⟨s, ran, holds⟩ := (Option.any_eq_true _ _).mp facts
  have replied := of_decide_eq_true holds
  refine ⟨_, s, Reaches.of_runAll _ .start ran, replied, fun once => ?_⟩
  have distinct := once.once
  rw [replied] at distinct
  exact absurd distinct (by decide)

end RestService

end DbcNode
