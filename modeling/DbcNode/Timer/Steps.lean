import DbcNode.Timer.Tracks

namespace DbcNode

namespace TimerHistory
open TimerModule
variable {s next : TimerHistory}

structure Sound (s : TimerHistory) : Prop where
  kept : s.Kept
  phase : s.Phase

theorem not_mem_ids {m : TimerModule} {timerId : Nat} : m.find timerId = none ↔
    timerId ∉ m.timerQueue.map (·.timerId) := by
  rw [find_none_iff, List.mem_map]
  constructor
  · rintro apart ⟨timer, member, same⟩
    exact apart timer member same
  · intro absent timer member same
    exact absent ⟨timer, member, same⟩

/-- A step that leaves the timers, their records and their callbacks
alone. -/
theorem Phase.frame (phase : s.Phase) (loop : next.timers.loop = s.timers.loop)
    (queue : next.timers.timerQueue = s.timers.timerQueue) (clock : s.timers.curTick ≤ next.timers.curTick)
    (alloc : next.timers.timerAllocId = s.timers.timerAllocId) (records : next.records = s.records)
    (invokers : next.timers.timerInvokers = s.timers.timerInvokers) : next.Phase := by
  have same : ∀ timer P, s.Follows timer P → next.Follows timer P := by
    intro timer P follows
    exact follows.frame (by rw [records]) (by rw [invokers])
  cases phase with
  | idle none settled =>
    refine .idle (loop.trans none) fun timer member => ?_
    rw [queue] at member
    exact ⟨(settled timer member).1, same timer _ (settled timer member).2⟩
  | looping under list past settled ahead out known =>
    refine .looping (loop.trans under) (queue.trans list) (past.trans clock)
      (fun timer member => same timer _ (settled timer member))
      (fun timer member => same timer _ (ahead timer member)) ?_ (by rw [alloc]; exact known)
    rw [queue]
    exact out
  | calling under list past settled called ahead out known =>
    refine .calling (loop.trans under) (queue.trans list) (past.trans clock)
      (fun timer member => same timer _ (settled timer member))
      (same _ _ called) (fun timer member => same timer _ (ahead timer member)) ?_ (by rw [alloc]; exact known)
    rw [queue]
    exact out

theorem Sound.clockTicks (sound : s.Sound) (sent : Bool) (ran : s.step (.clockTicks sent) = some next) :
    next.Sound := by
  simp only [step, TimerModule.step, Option.map_some, note, Option.some.injEq] at ran
  subst ran
  obtain ⟨kept, phase⟩ := sound
  refine ⟨⟨⟨kept.distinct.ids, kept.distinct.names⟩, kept.fresh, ?_, kept.gone, kept.late⟩,
    phase.frame rfl rfl (Nat.le_succ _) rfl rfl rfl⟩
  intro tick member
  have early := kept.clock tick
  simp only at member ⊢
  split at member
  · rcases List.mem_append.mp member with before | last
    · have bound := early before
      omega
    · rw [List.mem_singleton.mp last]
  · have bound := early member
    omega

theorem fresh_tracks {timer : CoreTimer} {r : TimerRecord} (period : timer.periodAsTick = r.period)
    (times : timer.repeatTimes = r.times) (first : timer.timeOutTick = r.first) : Tracks timer r [] [] := by
  refine ⟨period, ⟨0, Served.start _ _ _, times, fun _ => ?_⟩, ?_⟩
  · rw [first, Nat.zero_mul, Nat.add_zero]
  · simp [dueTicks, callsAt]

/-- A step that only puts a new timer at the end of the queue, with its
record. -/
structure Inserts (s next : TimerHistory) (timer : CoreTimer) (r : TimerRecord) : Prop where
  queue : next.timers.timerQueue = s.timers.timerQueue ++ [timer]
  id : timer.timerId = s.timers.timerAllocId + 1
  alloc : next.timers.timerAllocId = s.timers.timerAllocId + 1
  loop : next.timers.loop = s.timers.loop
  curTick : next.timers.curTick = s.timers.curTick
  ticks : next.timers.ticks = s.timers.ticks
  record : next.records = Function.update s.records timer.timerId (some r)
  own : next.timers.timerInvokers timer.name = r.own
  invokers : ∀ other ∈ s.timers.timerQueue, next.timers.timerInvokers other.name = s.timers.timerInvokers other.name
  name : ∀ other ∈ s.timers.timerQueue, other.name ≠ timer.name
  period : timer.periodAsTick = r.period
  positive : 0 < timer.periodAsTick
  times : timer.repeatTimes = r.times
  more : 0 < timer.repeatTimes
  first : timer.timeOutTick = r.first
  later : s.timers.curTick ≤ timer.timeOutTick
  heard : r.ticks = s.timers.loop.toList.map (·.timeTick)
  untold : r.calls = [] ∧ r.removed = false ∧ r.late = false

namespace Inserts
variable {timer : CoreTimer} {r : TimerRecord}

/-- The other timers have other ids and other names. -/
theorem others (inserts : Inserts s next timer r) (sound : s.Sound) {other : CoreTimer}
    (member : other ∈ s.timers.timerQueue) {P : TimerRecord → Prop} (follows : s.Follows other P) :
    next.Follows other P := by
  have bound := sound.phase.allocated sound.kept other member
  have id := inserts.id
  refine follows.frame ?_ (inserts.invokers other member)
  rw [inserts.record]
  exact Function.update_of_ne (by omega) _ _

theorem record_self (inserts : Inserts s next timer r) : next.records timer.timerId = some r := by
  rw [inserts.record]
  exact Function.update_self _ _ _

theorem kept (inserts : Inserts s next timer r) (sound : s.Sound) : next.Kept := by
  obtain ⟨kept, phase⟩ := sound
  have allocated := phase.allocated kept
  have id := inserts.id
  refine ⟨⟨?_, ?_⟩, ?_, ?_, ?_, ?_⟩
  · rw [inserts.queue, List.map_append, List.map_singleton]
    refine List.nodup_append.mpr ⟨kept.distinct.ids, List.nodup_singleton _, ?_⟩
    intro old member new isNew same
    obtain ⟨other, listed, rfl⟩ := List.mem_map.mp member
    have bound := allocated other listed
    rw [List.mem_singleton] at isNew
    omega
  · rw [inserts.queue, List.map_append, List.map_singleton]
    refine List.nodup_append.mpr ⟨kept.distinct.names, List.nodup_singleton _, ?_⟩
    intro old member new isNew same
    obtain ⟨other, listed, rfl⟩ := List.mem_map.mp member
    rw [List.mem_singleton] at isNew
    exact inserts.name other listed (same.trans isNew)
  · intro timerId above
    rw [inserts.alloc] at above
    rw [inserts.record, Function.update_of_ne (by omega)]
    exact kept.fresh timerId (by omega)
  · rw [inserts.ticks, inserts.curTick]
    exact kept.clock
  · intro timerId record found missing there
    rw [not_mem_ids, inserts.queue, List.map_append, List.mem_append, not_or, List.map_singleton,
      List.mem_singleton] at missing
    rw [inserts.record, Function.update_of_ne missing.2] at found
    exact kept.gone timerId record found (not_mem_ids.mpr missing.1) there
  · intro timerId record found
    rw [inserts.record] at found
    by_cases new : timerId = timer.timerId
    · rw [new, Function.update_self] at found
      cases found
      exact inserts.untold.2.2
    · rw [Function.update_of_ne new] at found
      exact kept.late timerId record found

theorem sound (timer : CoreTimer) (r : TimerRecord) (inserts : Inserts s next timer r) (sound : s.Sound)
    (canCall : s.timers.canCall = true) :
    next.Sound := by
  refine ⟨inserts.kept sound, ?_⟩
  have tracks : Tracks timer r [] r.calls := by
    rw [inserts.untold.1]
    exact fresh_tracks inserts.period inserts.times inserts.first
  have others : ∀ {other P}, other ∈ s.timers.timerQueue → s.Follows other P → next.Follows other P :=
    fun member follows => inserts.others sound member follows
  cases sound.phase with
  | idle none settled =>
    refine .idle (inserts.loop.trans none) fun other member => ?_
    rw [inserts.queue] at member
    rcases List.mem_append.mp member with old | new
    · exact ⟨(settled other old).1, others old (settled other old).2⟩
    · rw [List.mem_singleton.mp new]
      have heard : r.ticks = [] := by rw [inserts.heard, none]; rfl
      refine ⟨inserts.more, r, inserts.record_self, inserts.untold.2.1, inserts.own, ?_⟩
      rw [Settled, heard]
      exact tracks
  | looping loop => simp [TimerModule.canCall, loop] at canCall
  | @calling tick removing done rest current loop queue past settled called ahead out known =>
    have within : ∀ other ∈ done ++ current :: rest, other ∈ s.timers.timerQueue := by
      rw [queue]
      exact fun _ member => member
    have heard : r.ticks = [tick] := by rw [inserts.heard, loop]; rfl
    have later := inserts.later
    have positive := inserts.positive
    have list : next.timers.timerQueue = done ++ current :: (rest ++ [timer]) := by
      rw [inserts.queue, queue, List.append_assoc, List.cons_append]
    refine .calling (inserts.loop.trans loop) list (by rw [inserts.curTick]; exact past)
      (fun other member => others (within other (List.mem_append_left _ member)) (settled other member))
      (others (within current (by simp)) called) ?_ ?_ ?_
    · intro other member
      rcases List.mem_append.mp member with old | new
      · exact others (within other (by simp [old])) (ahead other old)
      · rw [List.mem_singleton.mp new]
        exact ⟨r, inserts.record_self, inserts.untold.2.1, inserts.own, inserts.more, fun _ _ => by omega, [],
          heard, tracks⟩
    · intro other member
      rw [inserts.queue] at member
      rcases List.mem_append.mp member with old | new
      · exact out other old
      · rw [List.mem_singleton.mp new]
        have more := inserts.more
        constructor
        · intro listed
          have bound := known _ listed
          rw [inserts.id] at bound
          omega
        · intro zero
          omega
    · intro timerId listed
      rw [inserts.alloc]
      exact (known timerId listed).trans (Nat.le_succ _)

end Inserts

theorem Sound.addTimer (sound : s.Sound) {name sessionId : Bytes} {delay period repeatTimes : Nat}
    {handle : Option Nat} (apart : s.Apart (.addTimer name delay period repeatTimes sessionId handle))
    (ran : s.step (.addTimer name delay period repeatTimes sessionId handle) = some next) : next.Sound := by
  simp only [step, TimerModule.step] at ran
  by_cases canCall : s.timers.canCall = true
  swap
  · simp [canCall] at ran
  rw [if_pos canCall, Option.map_some, Option.some.injEq] at ran
  subst ran
  by_cases accepted : s.timers.accepts period repeatTimes = true
  swap
  · simp only [TimerModule.addTimer, note, accepted]
    exact sound
  obtain ⟨names, nothing⟩ := apart accepted
  have proper := (of_decide_eq_true accepted).1
  simp only [TimerModule.addTimer, note, accepted, if_true]
  refine Inserts.sound (s.timers.makeTimer name delay period repeatTimes sessionId) ⟨handle,
    s.timers.curTick + ticksOf delay, ticksOf period, repeatTimes, s.timers.loop.toList.map (·.timeTick), [],
      false, false⟩
    ?_ sound canCall
  refine ⟨rfl, rfl, rfl, rfl, rfl, rfl, rfl, ?_, ?_, names, rfl, ?_, rfl, ?_, rfl, ?_, rfl, rfl, rfl, rfl⟩
  · simp only [makeTimer]
    split
    · rename_i null
      rw [nothing null, null]
    · exact Function.update_self _ _ _
  · intro other member
    simp only
    split
    · rfl
    · exact Function.update_of_ne (names other member) _ _
  · simp only [makeTimer, ticksOf, defaultTimerInterval] at proper ⊢
    omega
  · simp only [makeTimer]
    omega
  · simp only [makeTimer]
    omega

theorem edit_other {timerId other : Nat} (different : other ≠ timerId) (f : TimerRecord → TimerRecord)
    (records : Nat → Option TimerRecord) : edit timerId f records other = records other :=
  Function.update_of_ne different _ _

theorem edit_self (timerId : Nat) (f : TimerRecord → TimerRecord) (records : Nat → Option TimerRecord) :
    edit timerId f records timerId = (records timerId).map f := Function.update_self _ _ _

/-- What is known of the timers apart from their calls stays so without one
of them. -/
theorem Kept.removeTimer (kept : s.Kept) (timerId : Nat) :
    Kept ⟨s.timers.removeTimer timerId, edit timerId TimerRecord.remove s.records⟩ := by
  obtain ⟨_, curTick, ticks, alloc⟩ := s.timers.removeTimer_loop timerId
  refine ⟨kept.distinct.removeTimer timerId, ?_, ?_, ?_, ?_⟩
  · intro other above
    simp only [alloc] at above
    by_cases same : other = timerId
    · rw [same] at above ⊢
      simp only [edit_self, kept.fresh timerId above, Option.map_none]
    · simp only [edit_other same]
      exact kept.fresh other above
  · simp only [ticks, curTick]
    exact kept.clock
  · intro other r found missing there
    by_cases same : other = timerId
    · simp only [same, edit_self] at found
      obtain ⟨old, _, rfl⟩ := Option.map_eq_some_iff.mp found
      cases there
    · simp only [edit_other same] at found
      refine kept.gone other r found (find_none_iff.mpr fun timer member equal => ?_) there
      refine find_none_iff.mp missing timer ?_ equal
      simp only [removeTimer_queue kept.distinct timerId]
      exact List.mem_filter.mpr ⟨member, decide_eq_true (by rw [equal]; exact same)⟩
  · intro other r found
    by_cases same : other = timerId
    · simp only [same, edit_self] at found
      obtain ⟨old, known, rfl⟩ := Option.map_eq_some_iff.mp found
      exact kept.late timerId old known
    · simp only [edit_other same] at found
      exact kept.late other r found

theorem Sound.removeTimer (sound : s.Sound) {timerId : Nat} (apart : s.Apart (.removeTimer timerId))
    (ran : s.step (.removeTimer timerId) = some next) : next.Sound := by
  simp only [step, TimerModule.step] at ran
  by_cases canCall : s.timers.canCall = true
  swap
  · simp [canCall] at ran
  rw [if_pos canCall, Option.map_some, Option.some.injEq] at ran
  subst ran
  obtain ⟨kept, phase⟩ := sound
  have queue := removeTimer_queue kept.distinct timerId
  obtain ⟨loop, curTick, _, alloc⟩ := s.timers.removeTimer_loop timerId
  have stays : ∀ timer ∈ s.timers.timerQueue, timer.timerId ≠ timerId → ∀ {P}, s.Follows timer P →
      Follows ⟨s.timers.removeTimer timerId, edit timerId TimerRecord.remove s.records⟩ timer P :=
    fun timer member other P follows =>
      follows.frame (edit_other other _ _) (removeTimer_invokers kept.distinct member other)
  refine ⟨kept.removeTimer timerId, ?_⟩
  cases phase with
  | idle none settled =>
    refine .idle (loop.trans none) fun timer member => ?_
    simp only [queue, List.mem_filter, decide_eq_true_eq] at member
    exact ⟨(settled timer member.1).1, stays timer member.1 member.2 (settled timer member.1).2⟩
  | looping under => simp [TimerModule.canCall, under] at canCall
  | @calling tick removing done rest current under list past settled called ahead out known =>
    have within : ∀ timer ∈ done ++ current :: rest, timer ∈ s.timers.timerQueue := by
      rw [list]
      exact fun _ member => member
    have other : current.timerId ≠ timerId := by
      have position := apart _ under
      simpa using position
    have split : (s.timers.removeTimer timerId).timerQueue =
        done.filter (·.timerId ≠ timerId) ++ current :: rest.filter (·.timerId ≠ timerId) := by
      rw [queue, list, List.filter_append, List.filter_cons_of_pos (by simpa using other)]
    refine .calling (loop.trans under) split (by simp only [curTick]; exact past) ?_
      (stays current (within current (by simp)) other called) ?_ ?_ ?_
    · intro timer member
      obtain ⟨listed, different⟩ := List.mem_filter.mp member
      exact stays timer (within timer (List.mem_append_left _ listed)) (of_decide_eq_true different)
        (settled timer listed)
    · intro timer member
      obtain ⟨listed, different⟩ := List.mem_filter.mp member
      exact stays timer (within timer (by simp [listed])) (of_decide_eq_true different) (ahead timer listed)
    · intro timer member
      simp only [queue] at member
      exact out timer (List.mem_of_mem_filter member)
    · simp only [alloc]
      exact known

theorem Sound.removeAllTimer (sound : s.Sound) (apart : s.Apart .removeAllTimer)
    (ran : s.step .removeAllTimer = some next) : next.Sound := by
  have idle : s.timers.loop = none := apart
  simp only [step, TimerModule.step, TimerModule.canCall, idle, if_true, Option.map_some, Option.some.injEq] at ran
  subst ran
  obtain ⟨kept, _⟩ := sound
  have records : ∀ timerId r, note s.timers none s.records .removeAllTimer timerId = some r →
      (s.records timerId = some r ∧ s.timers.find timerId = none) ∨
        ∃ old, s.records timerId = some old ∧ r = old.remove := by
    intro timerId r found
    simp only [note] at found
    split at found
    · obtain ⟨old, known, removed⟩ := Option.map_eq_some_iff.mp found
      exact Or.inr ⟨old, known, removed.symm⟩
    · rename_i missing
      exact Or.inl ⟨found, by simpa using missing⟩
  refine ⟨⟨⟨List.nodup_nil, List.nodup_nil⟩, ?_, kept.clock, ?_, ?_⟩, .idle idle ?_⟩
  · intro timerId above
    simp only [note, kept.fresh timerId above, Option.map_none, ite_self]
  · intro timerId r found _ there
    rcases records timerId r found with ⟨known, missing⟩ | ⟨old, _, rfl⟩
    · exact kept.gone timerId r known missing there
    · cases there
  · intro timerId r found
    rcases records timerId r found with ⟨known, _⟩ | ⟨old, known, rfl⟩
    · exact kept.late timerId r known
    · exact kept.late timerId old known
  · intro timer member
    exact (List.not_mem_nil member).elim

theorem Sound.onTimerTick (sound : s.Sound) (apart : s.Apart .onTimerTick) (ran : s.step .onTimerTick = some next) :
    next.Sound := by
  obtain ⟨⟨after, called⟩, stepped, rfl⟩ := Option.map_eq_some_iff.mp ran
  simp only [TimerModule.step] at stepped
  split at stepped
  swap
  · cases stepped
  rename_i tick ticks idle waiting
  cases stepped
  have once := apart tick (by rw [waiting]; rfl)
  obtain ⟨kept, phase⟩ := sound
  have noted : note s.timers none s.records .onTimerTick = fun timerId =>
    (s.records timerId).map (TimerRecord.hear tick) := by
    simp only [note, waiting]
  have clock : ∀ other ∈ tick :: ticks, other ≤ s.timers.curTick := by
    rw [← waiting]
    exact kept.clock
  simp only [noted]
  refine ⟨⟨⟨kept.distinct.ids, kept.distinct.names⟩, ?_, ?_, ?_, ?_⟩, ?_⟩
  · intro timerId above
    simp only [kept.fresh timerId above, Option.map_none]
  · exact fun other member => clock other (List.mem_cons_of_mem tick member)
  · intro timerId r found missing there
    obtain ⟨old, known, rfl⟩ := Option.map_eq_some_iff.mp found
    obtain ⟨served, calls⟩ := kept.gone timerId old known missing there
    obtain ⟨after, same⟩ := served.finished rfl tick
    refine ⟨after, ?_⟩
    simp only [TimerRecord.expected, TimerRecord.hear, same]
    exact calls
  · intro timerId r found
    obtain ⟨old, known, rfl⟩ := Option.map_eq_some_iff.mp found
    exact kept.late timerId old known
  · cases phase with
    | idle _ settled =>
      refine .looping rfl (List.nil_append _).symm (clock tick List.mem_cons_self)
        (fun _ member => (List.not_mem_nil member).elim) ?_ ?_ (fun _ member => (List.not_mem_nil member).elim)
      · intro timer member
        obtain ⟨more, r, found, there, own, holds⟩ := settled timer member
        refine ⟨r.hear tick, by simp only [found, Option.map_some], there, own, ?_⟩
        exact holds.hear more (once timer member)
      · intro timer member
        have more := (settled timer member).1
        simp only [List.not_mem_nil, false_iff]
        omega
    | looping under => rw [idle] at under; cases under
    | calling under => rw [idle] at under; cases under

end TimerHistory

end DbcNode
