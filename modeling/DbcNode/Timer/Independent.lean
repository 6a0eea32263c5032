import DbcNode.Timer.Steps

namespace DbcNode

namespace TimerHistory
open TimerModule
variable {s next : TimerHistory} {tick : Nat} {removing : List Nat} {done rest : List CoreTimer} {timer : CoreTimer}

theorem apart_of_queue (kept : s.Kept) (queue : s.timers.timerQueue = done ++ timer :: rest) :
    ∀ other ∈ done, other.timerId ≠ timer.timerId := by
  have ids := kept.distinct.ids
  rw [queue, List.map_append, List.map_cons] at ids
  intro other member same
  exact (List.nodup_append.mp ids).2.2 other.timerId (List.mem_map_of_mem member) timer.timerId (by simp) same

theorem apart_of_rest (kept : s.Kept) (queue : s.timers.timerQueue = done ++ timer :: rest) :
    ∀ other ∈ rest, other.timerId ≠ timer.timerId := by
  have ids := kept.distinct.ids
  rw [queue, List.map_append, List.map_cons] at ids
  have fresh := (List.nodup_cons.mp (List.nodup_append.mp ids).2.1).1
  intro other member same
  rw [← same] at fresh
  exact fresh (List.mem_map_of_mem member)

/-- The list of the timers that have run out is right again when a timer has
been counted. -/
theorem Kept.counted_out (kept : s.Kept) (queue : s.timers.timerQueue = done ++ timer :: rest)
    (more : 0 < timer.repeatTimes)
    (out : ∀ timer ∈ s.timers.timerQueue, timer.timerId ∈ removing ↔ timer.repeatTimes = 0) :
    ∀ other ∈ done ++ timer.count :: rest,
      other.timerId ∈ (if timer.repeatTimes - 1 = 0 then removing ++ [timer.timerId] else removing) ↔
        other.repeatTimes = 0 := by
  have waits : timer.timerId ∉ removing := by
    rw [out timer (by rw [queue]; simp)]
    omega
  have others : ∀ other ∈ s.timers.timerQueue, other.timerId ≠ timer.timerId →
      (other.timerId ∈ (if timer.repeatTimes - 1 = 0 then removing ++ [timer.timerId] else removing) ↔
        other.repeatTimes = 0) := by
    intro other old different
    rw [← out other old]
    split
    · rw [List.mem_append, List.mem_singleton]
      exact or_iff_left different
    · exact Iff.rfl
  intro other inQueue
  simp only [List.mem_append, List.mem_cons] at inQueue
  rcases inQueue with before | rfl | later
  · exact others other (by rw [queue]; exact List.mem_append_left _ before) (apart_of_queue kept queue other before)
  · rw [timer.count_timerId, timer.count_repeatTimes]
    split
    · rename_i last
      simp [last]
    · rename_i again
      simp [again, waits]
  · exact others other (by rw [queue]; simp [later]) (apart_of_rest kept queue other later)

/-- What stays as it was keeps fitting when the loop writes a count back. -/
theorem Kept.count (kept : s.Kept) (queue : s.timers.timerQueue = done ++ timer :: rest) (loop : Option TimerLoop) :
    Kept ⟨{ s.timers with timerQueue := done ++ timer.count :: rest, loop := loop }, s.records⟩ := by
  have ids : (done ++ timer.count :: rest).map (·.timerId) = s.timers.timerQueue.map (·.timerId) := by
    rw [queue, List.map_append, List.map_append, List.map_cons, List.map_cons, timer.count_timerId]
  have names : (done ++ timer.count :: rest).map (·.name) = s.timers.timerQueue.map (·.name) := by
    rw [queue, List.map_append, List.map_append, List.map_cons, List.map_cons, timer.count_name]
  refine ⟨⟨?_, ?_⟩, kept.fresh, kept.clock, ?_, kept.late⟩
  · simp only [ids]
    exact kept.distinct.ids
  · simp only [names]
    exact kept.distinct.names
  · intro timerId r found missing there
    rw [not_mem_ids] at missing
    simp only [ids] at missing
    exact kept.gone timerId r found (not_mem_ids.mpr missing) there

/-- The return from a call: the timer is counted, and the loop goes to the
one after it. -/
theorem Kept.afterCall (kept : s.Kept) {loop : TimerLoop} {after : TimerModule} (tickAt : loop.timeTick = tick)
    (listed : loop.removeTimersList = removing) (queue : s.timers.timerQueue = done ++ timer :: rest)
    (past : tick ≤ s.timers.curTick) (settled : ∀ timer ∈ done, s.Follows timer (Settled timer))
    (called : s.Follows timer (Called tick timer)) (ahead : ∀ timer ∈ rest, s.Follows timer (Ahead tick timer))
    (out : ∀ timer ∈ s.timers.timerQueue, timer.timerId ∈ removing ↔ timer.repeatTimes = 0)
    (known : ∀ timerId ∈ removing, timerId ≤ s.timers.timerAllocId)
    (ran : s.timers.afterCall loop timer.timerId = some after) : Sound ⟨after, s.records⟩ := by
  have apart := apart_of_queue kept queue
  have member : timer ∈ s.timers.timerQueue := by
    rw [queue]
    simp
  simp only [TimerModule.afterCall, kept.distinct.find member, Option.some.injEq] at ran
  rw [queue, amend_append apart, nextAfter_append apart, tickAt, listed] at ran
  subst ran
  obtain ⟨r, record, there, own, now⟩ := called
  have counted : s.Follows timer.count (Settled timer.count) :=
    ⟨r, by rw [timer.count_timerId]; exact record, there, by rw [timer.count_name]; exact own, now.settled⟩
  refine ⟨kept.count queue _, .looping rfl (List.append_cons done timer.count rest) past ?_
    (fun other later => ahead other later) (kept.counted_out queue now.more out) ?_⟩
  · intro other earlier
    rcases List.mem_append.mp earlier with before | last
    · exact settled other before
    · rw [List.mem_singleton.mp last]
      exact counted
  · intro timerId
    split
    · rw [List.mem_append, List.mem_singleton]
      rintro (old | rfl)
      · exact known timerId old
      · by_contra above
        rw [kept.fresh _ (by simpa using above)] at record
        cases record
    · exact known timerId

/-- The end of the loop: the timers that have run out go, and with them only
their own callbacks. -/
theorem Kept.finish (kept : s.Kept) (loop : TimerLoop)
    (settled : ∀ timer ∈ s.timers.timerQueue, s.Follows timer (Settled timer))
    (out : ∀ timer ∈ s.timers.timerQueue, timer.timerId ∈ loop.removeTimersList ↔ timer.repeatTimes = 0) :
    Sound ⟨s.timers.finish loop, s.records⟩ := by
  obtain ⟨distinct, queue, invokers, clock, ticks, alloc⟩ := removeEach loop.removeTimersList kept.distinct
  refine ⟨⟨⟨distinct.ids, distinct.names⟩, ?_, ?_, ?_, kept.late⟩, ?_⟩
  · intro timerId above
    simp only [TimerModule.finish, alloc] at above
    exact kept.fresh timerId above
  · simp only [TimerModule.finish, ticks, clock]
    exact kept.clock
  · intro timerId r found missing there
    cases before : s.timers.find timerId with
    | none => exact kept.gone timerId r found before there
    | some timer =>
      obtain ⟨member, same⟩ := find_some before
      have removed : timer.timerId ∈ loop.removeTimersList := by
        by_contra stays
        refine find_none_iff.mp missing timer ?_ same
        simp only [TimerModule.finish, queue]
        exact List.mem_filter.mpr ⟨member, decide_eq_true stays⟩
      obtain ⟨record, known, _, _, tracks⟩ := settled timer member
      rw [same, found] at known
      cases known
      exact Tracks.exhausted tracks ((out timer member).mp removed)
  · refine .idle rfl fun timer member => ?_
    simp only [TimerModule.finish] at member
    have own := invokers timer member
    rw [queue, List.mem_filter] at member
    have stays : timer.timerId ∉ loop.removeTimersList := of_decide_eq_true member.2
    rw [out timer member.1] at stays
    exact ⟨by omega, (settled timer member.1).frame rfl own⟩

/-- A call is entered in the record of its own timer, which is there. -/
theorem Kept.call (kept : s.Kept) (member : timer ∈ s.timers.timerQueue) (loop : Option TimerLoop) {handle : Nat}
    {r : TimerRecord} (found : s.records timer.timerId = some r) (there : r.removed = false) :
    Kept ⟨{ s.timers with loop := loop }, edit timer.timerId (TimerRecord.call tick handle) s.records⟩ := by
  refine ⟨⟨kept.distinct.ids, kept.distinct.names⟩, ?_, kept.clock, ?_, ?_⟩
  · intro timerId above
    by_cases same : timerId = timer.timerId
    · simp only [same, edit_self]
      rw [same] at above
      rw [kept.fresh _ above, Option.map_none]
    · simp only [edit_other same]
      exact kept.fresh timerId above
  · intro timerId record known missing unremoved
    have other : timerId ≠ timer.timerId := by
      rintro rfl
      exact find_none_iff.mp missing timer member rfl
    simp only [edit_other other] at known
    exact kept.gone timerId record known missing unremoved
  · intro timerId record known
    by_cases same : timerId = timer.timerId
    · simp only [same, edit_self, found, Option.map_some, Option.some.injEq] at known
      subst known
      simp only [TimerRecord.call, kept.late _ _ found, there, Bool.or_self]
    · simp only [edit_other same] at known
      exact kept.late timerId record known

/-- The loop calls the callback of the timer it stands at. -/
theorem Sound.calls (kept : s.Kept) (queue : s.timers.timerQueue = done ++ timer :: rest)
    (past : tick ≤ s.timers.curTick) (settled : ∀ timer ∈ done, s.Follows timer (Settled timer))
    (ahead : ∀ other ∈ timer :: rest, s.Follows other (Ahead tick other))
    (out : ∀ timer ∈ s.timers.timerQueue, timer.timerId ∈ removing ↔ timer.repeatTimes = 0)
    (known : ∀ timerId ∈ removing, timerId ≤ s.timers.timerAllocId) {handle : Nat}
    (reached : timer.timeOutTick ≤ tick) (invoker : s.timers.timerInvokers timer.name = some handle) :
    Sound ⟨{ s.timers with loop := some ⟨tick, some timer.timerId, true, removing⟩ },
      edit timer.timerId (TimerRecord.call tick handle) s.records⟩ := by
  obtain ⟨r, found, there, own, waiting⟩ := ahead timer List.mem_cons_self
  have stays : ∀ other : CoreTimer, other.timerId ≠ timer.timerId → ∀ {P}, s.Follows other P →
      Follows ⟨{ s.timers with loop := some ⟨tick, some timer.timerId, true, removing⟩ },
        edit timer.timerId (TimerRecord.call tick handle) s.records⟩ other P :=
    fun other different P follows => follows.frame (edit_other different _ _) rfl
  refine ⟨kept.call (by rw [queue]; simp) _ found there, .calling rfl queue past ?_ ?_ ?_ out known⟩
  · exact fun other member => stays other (apart_of_queue kept queue other member) (settled other member)
  · refine ⟨r.call tick handle, by simp only [edit_self, found, Option.map_some], there, own, ?_⟩
    exact waiting.called reached (own.symm.trans invoker)
  · intro other member
    exact stays other (apart_of_rest kept queue other member) (ahead other (List.mem_cons_of_mem timer member))

theorem Sound.visit (kept : s.Kept) (loop : s.timers.loop = some ⟨tick, some timer.timerId, false, removing⟩)
    (queue : s.timers.timerQueue = done ++ timer :: rest) (past : tick ≤ s.timers.curTick)
    (settled : ∀ timer ∈ done, s.Follows timer (Settled timer))
    (ahead : ∀ other ∈ timer :: rest, s.Follows other (Ahead tick other))
    (out : ∀ timer ∈ s.timers.timerQueue, timer.timerId ∈ removing ↔ timer.repeatTimes = 0)
    (known : ∀ timerId ∈ removing, timerId ≤ s.timers.timerAllocId) {after : TimerModule} {called : Option Nat}
    (ran : s.timers.visit ⟨tick, some timer.timerId, false, removing⟩ timer = some (after, called)) :
    Sound ⟨after, note s.timers called s.records .goesOn⟩ := by
  have quiet : note s.timers none s.records .goesOn = s.records := by simp only [note, loop]
  have later := fun other member => ahead other (List.mem_cons_of_mem timer member)
  obtain ⟨r, found, there, own, waiting⟩ := ahead timer List.mem_cons_self
  unfold TimerModule.visit at ran
  by_cases reached : timer.timeOutTick ≤ tick
  · rw [if_pos reached] at ran
    cases invoker : s.timers.timerInvokers timer.name with
    | none =>
      simp only [invoker] at ran
      obtain ⟨result, returned, same⟩ := Option.map_eq_some_iff.mp ran
      cases same
      rw [quiet]
      have now : s.Follows timer (Called tick timer) :=
        ⟨r, found, there, own, waiting.called_nothing reached (own.symm.trans invoker)⟩
      exact kept.afterCall rfl rfl queue past settled now later out known returned
    | some handle =>
      simp only [invoker, Option.some.injEq, Prod.mk.injEq] at ran
      obtain ⟨rfl, rfl⟩ := ran
      have noted : note s.timers (some handle) s.records .goesOn =
          edit timer.timerId (TimerRecord.call tick handle) s.records := by simp only [note, loop]
      rw [noted]
      exact Sound.calls kept queue past settled ahead out known reached invoker
  · rw [if_neg reached] at ran
    have position : nextAfter timer.timerId s.timers.timerQueue = rest.head?.map (·.timerId) := by
      rw [queue, nextAfter_append (apart_of_queue kept queue)]
    simp only [position, Option.some.injEq, Prod.mk.injEq] at ran
    obtain ⟨rfl, rfl⟩ := ran
    rw [quiet]
    refine ⟨⟨⟨kept.distinct.ids, kept.distinct.names⟩, kept.fresh, kept.clock, kept.gone, kept.late⟩, ?_⟩
    refine .looping rfl (queue.trans (List.append_cons done timer rest)) past ?_ later out known
    intro other member
    rcases List.mem_append.mp member with before | last
    · exact settled other before
    · rw [List.mem_singleton.mp last]
      exact ⟨r, found, there, own, waiting.skipped (not_le.mp reached)⟩

theorem Sound.goesOn (sound : s.Sound) (ran : s.step .goesOn = some next) : next.Sound := by
  obtain ⟨kept, phase⟩ := sound
  obtain ⟨⟨after, called⟩, stepped, rfl⟩ := Option.map_eq_some_iff.mp ran
  simp only [TimerModule.step] at stepped
  cases phase with
  | idle none => simp [none] at stepped
  | @looping tick removing done todo loop queue past settled ahead out known =>
    simp only [loop, TimerModule.goesOn] at stepped
    cases todo with
    | nil =>
      simp only [List.head?_nil, Option.map_none, Option.some.injEq, Prod.mk.injEq] at stepped
      obtain ⟨rfl, rfl⟩ := stepped
      have quiet : note s.timers none s.records .goesOn = s.records := by
        simp only [note, loop, List.head?_nil, Option.map_none]
      rw [quiet]
      rw [List.append_nil] at queue
      exact kept.finish _ (by rw [queue]; exact settled) out
    | cons timer rest =>
      have member : timer ∈ s.timers.timerQueue := by
        rw [queue]
        simp
      simp only [List.head?_cons, Option.map_some, kept.distinct.find member, Bool.false_eq_true,
        if_false] at stepped
      exact Sound.visit kept loop queue past settled ahead out known stepped
  | @calling tick removing done rest timer loop queue past settled current ahead out known =>
    simp only [loop, TimerModule.goesOn, if_true] at stepped
    obtain ⟨result, returned, same⟩ := Option.map_eq_some_iff.mp stepped
    cases same
    have quiet : note s.timers none s.records .goesOn = s.records := by simp only [note, loop]
    rw [quiet]
    exact kept.afterCall rfl rfl queue past settled current ahead out known returned

theorem Sound.step {event : TimerEvent} (sound : s.Sound) (apart : s.Apart event) (ran : s.step event = some next) :
    next.Sound := by
  cases event with
  | clockTicks sent => exact sound.clockTicks sent ran
  | addTimer name delay period repeatTimes sessionId handle => exact sound.addTimer apart ran
  | removeTimer timerId => exact sound.removeTimer apart ran
  | removeAllTimer => exact sound.removeAllTimer apart ran
  | onTimerTick => exact sound.onTimerTick apart ran
  | goesOn => exact sound.goesOn ran

theorem Sound.positioned (sound : s.Sound) : s.Positioned := by
  intro loop timerId under position
  have found : ∀ timer ∈ s.timers.timerQueue, (s.timers.find timer.timerId).isSome := by
    intro timer member
    rw [sound.kept.distinct.find member]
    rfl
  cases sound.phase with
  | idle none => rw [none] at under; cases under
  | @looping tick removing done todo stands queue =>
    rw [stands] at under
    cases under
    cases todo with
    | nil => cases position
    | cons timer rest =>
      cases position
      exact found timer (by rw [queue]; simp)
  | @calling tick removing done rest timer stands queue =>
    rw [stands] at under
    cases under
    cases position
    exact found timer (by rw [queue]; simp)

theorem Sound.as_expected (sound : s.Sound) (idle : s.timers.loop = none) {timerId : Nat} {r : TimerRecord}
    (record : s.records timerId = some r) (there : r.removed = false) : r.calls = r.expected := by
  cases found : s.timers.find timerId with
  | none => exact (sound.kept.gone timerId r record found there).2
  | some timer =>
    obtain ⟨member, same⟩ := find_some found
    cases sound.phase with
    | idle _ settled =>
      obtain ⟨known, atId, _, _, tracks⟩ := (settled timer member).2
      rw [same, record] at atId
      cases atId
      exact tracks.calls
    | looping under => rw [idle] at under; cases under
    | calling under => rw [idle] at under; cases under

/-- In every run that keeps the timers apart the loop never stands at a
timer that was removed, a removed timer is not called again, and once a tick
is handled every other timer has had its own callback called once at the
first tick at or after each of its due times. -/
theorem timers_independent {trace : List TimerEvent} (run : Run step Apart start trace s) :
    s.Positioned ∧ (∀ timerId r, s.records timerId = some r → r.late = false) ∧
      (s.timers.loop = none → ∀ timerId r, s.records timerId = some r → r.removed = false →
        r.calls = r.expected) := by
  have sound : s.Sound := run.invariant ⟨start_kept, start_phase⟩ fun sound apart ran => sound.step apart ran
  exact ⟨sound.positioned, sound.kept.late, fun idle timerId r record there => sound.as_expected idle record there⟩

/-- A timer that is due at two ticks and one of another name that is due at
the second of them, both handled to the end. -/
theorem timers_independent_two : ∃ trace s first second, Run step Apart start trace s ∧ s.timers.loop = none ∧
    s.records 1 = some first ∧ first.calls = [(1, 7), (2, 7)] ∧
    s.records 2 = some second ∧ second.calls = [(2, 9)] := by
  have ran : (runAll (guarded step fun s event => decide (s.Apart event)) start
      [.addTimer [97] 100 100 2 [] (some 7), .addTimer [98] 200 100 1 [] (some 9), .clockTicks true, .onTimerTick,
        .goesOn, .goesOn, .goesOn, .goesOn, .clockTicks true, .onTimerTick, .goesOn, .goesOn, .goesOn, .goesOn,
        .goesOn]).any (fun s => s.timers.loop = none ∧
      ((s.records 1).any fun r => r.removed = false ∧ r.expected = [(1, 7), (2, 7)]) ∧
      (s.records 2).any fun r => r.removed = false ∧ r.expected = [(2, 9)]) = true := by decide +kernel
  obtain ⟨s, reached, checked⟩ := (Option.any_eq_true _ _).mp ran
  obtain ⟨idle, knownFirst, knownSecond⟩ := of_decide_eq_true checked
  obtain ⟨first, recordFirst, factsFirst⟩ := (Option.any_eq_true _ _).mp knownFirst
  obtain ⟨second, recordSecond, factsSecond⟩ := (Option.any_eq_true _ _).mp knownSecond
  obtain ⟨thereFirst, expectedFirst⟩ := of_decide_eq_true factsFirst
  obtain ⟨thereSecond, expectedSecond⟩ := of_decide_eq_true factsSecond
  have run := Run.of_guarded (fun s event => of_decide_eq_true) _ .start reached
  obtain ⟨_, _, called⟩ := timers_independent run
  refine ⟨_, s, first, second, run, idle, recordFirst, ?_, recordSecond, ?_⟩
  · exact (called idle 1 first recordFirst thereFirst).trans expectedFirst
  · exact (called idle 2 second recordSecond thereSecond).trans expectedSecond

/-- Two timers of one name: when the first has run out, the second is not
called. -/
theorem timer_loses_callback : ∃ trace s timerId r, Reaches step start trace s ∧ s.timers.loop = none ∧
    s.records timerId = some r ∧ r.removed = false ∧ r.expected = [(2, 7)] ∧ r.calls = [] := by
  have ran : (runAll step start
      [.addTimer [97] 100 100 1 [] (some 7), .addTimer [97] 200 100 1 [] (some 7), .clockTicks true, .onTimerTick,
        .goesOn, .goesOn, .goesOn, .goesOn, .clockTicks true, .onTimerTick, .goesOn, .goesOn]).any (fun s =>
      s.timers.loop = none ∧ (s.records 2).any fun r => r.removed = false ∧ r.expected = [(2, 7)] ∧
        r.calls = []) = true := by
    decide +kernel
  obtain ⟨s, reached, checked⟩ := (Option.any_eq_true _ _).mp ran
  obtain ⟨idle, known⟩ := of_decide_eq_true checked
  obtain ⟨r, record, facts⟩ := (Option.any_eq_true _ _).mp known
  obtain ⟨there, expected, calls⟩ := of_decide_eq_true facts
  exact ⟨_, s, 2, r, Reaches.of_runAll _ .start reached, idle, record, there, expected, calls⟩

end TimerHistory

end DbcNode
