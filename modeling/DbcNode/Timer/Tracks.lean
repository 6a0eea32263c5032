import DbcNode.Timer.History

namespace DbcNode

namespace TimerModule
variable {m : TimerModule} {timer : CoreTimer} {timerId : Nat}

/-- Ids and names tell the timers of the queue apart. -/
structure Distinct (m : TimerModule) : Prop where
  ids : (m.timerQueue.map (·.timerId)).Nodup
  names : (m.timerQueue.map (·.name)).Nodup

theorem eraseP_eq_filter {α κ : Type} [DecidableEq κ] {key : α → κ} {l : List α}
    (distinct : (l.map key).Nodup) (k : κ) :
    l.eraseP (key · = k) = l.filter (key · ≠ k) := by
  induction l with
  | nil => rfl
  | cons a rest ih =>
    obtain ⟨fresh, distinct⟩ := List.nodup_cons.mp distinct
    by_cases same : key a = k
    · have others : rest.filter (key · ≠ k) = rest := by
        refine List.filter_eq_self.mpr fun b member => decide_eq_true fun equal => fresh ?_
        rw [same, ← equal]
        exact List.mem_map_of_mem member
      rw [List.eraseP_cons_of_pos (by simpa using same), List.filter_cons_of_neg (by simpa using same), others]
    · rw [List.eraseP_cons_of_neg (by simpa using same), List.filter_cons_of_pos (by simpa using same), ih distinct]

theorem find_none_iff : m.find timerId = none ↔ ∀ timer ∈ m.timerQueue, timer.timerId ≠ timerId := by
  simp [find]

theorem find_some (found : m.find timerId = some timer) : timer ∈ m.timerQueue ∧ timer.timerId = timerId := by
  have same := List.find?_some found
  exact ⟨List.mem_of_find?_eq_some found, of_decide_eq_true same⟩

theorem Distinct.same_of_id {other : CoreTimer} (distinct : m.Distinct) (member : timer ∈ m.timerQueue)
    (also : other ∈ m.timerQueue) (same : timer.timerId = other.timerId) : timer = other :=
  List.inj_on_of_nodup_map distinct.ids member also same

theorem Distinct.same_of_name {other : CoreTimer} (distinct : m.Distinct) (member : timer ∈ m.timerQueue)
    (also : other ∈ m.timerQueue) (same : timer.name = other.name) : timer = other :=
  List.inj_on_of_nodup_map distinct.names member also same

theorem Distinct.find (distinct : m.Distinct) (member : timer ∈ m.timerQueue) :
    m.find timer.timerId = some timer := by
  cases found : m.find timer.timerId with
  | none => exact absurd rfl (find_none_iff.mp found timer member)
  | some other =>
    obtain ⟨listed, same⟩ := find_some found
    rw [distinct.same_of_id listed member same]

theorem removeTimer_queue (distinct : m.Distinct) (timerId : Nat) :
    (m.removeTimer timerId).timerQueue = m.timerQueue.filter (·.timerId ≠ timerId) := by
  unfold removeTimer
  split
  · rename_i missing
    have kept : m.timerQueue.filter (·.timerId ≠ timerId) = m.timerQueue :=
      List.filter_eq_self.mpr fun timer member => decide_eq_true (find_none_iff.mp missing timer member)
    rw [kept]
  · exact eraseP_eq_filter distinct.ids timerId

/-- The other timers keep their callbacks. -/
theorem removeTimer_invokers (distinct : m.Distinct) (member : timer ∈ m.timerQueue)
    (other : timer.timerId ≠ timerId) : (m.removeTimer timerId).timerInvokers timer.name =
      m.timerInvokers timer.name := by
  unfold removeTimer
  split
  · rfl
  · rename_i gone found
    obtain ⟨listed, same⟩ := find_some found
    have apart : timer.name ≠ gone.name := by
      intro equal
      rw [distinct.same_of_name member listed equal] at other
      exact other same
    simp only
    split
    · rfl
    · exact Function.update_of_ne apart _ _

theorem removeTimer_loop (timerId : Nat) (m : TimerModule) : (m.removeTimer timerId).loop = m.loop ∧
    (m.removeTimer timerId).curTick = m.curTick ∧ (m.removeTimer timerId).ticks = m.ticks ∧
    (m.removeTimer timerId).timerAllocId = m.timerAllocId := by
  unfold removeTimer
  split <;> exact ⟨rfl, rfl, rfl, rfl⟩

theorem Distinct.removeTimer (distinct : m.Distinct) (timerId : Nat) : (m.removeTimer timerId).Distinct := by
  constructor
  · rw [removeTimer_queue distinct]
    exact distinct.ids.sublist (List.filter_sublist.map _)
  · rw [removeTimer_queue distinct]
    exact distinct.names.sublist (List.filter_sublist.map _)

/-- The removals at the end of the loop. -/
theorem removeEach (removing : List Nat) {m : TimerModule} (distinct : m.Distinct) :
    let after := removing.foldl (fun m timerId => m.removeTimer timerId) m
    after.Distinct ∧ after.timerQueue = m.timerQueue.filter (·.timerId ∉ removing) ∧
      (∀ timer ∈ after.timerQueue, after.timerInvokers timer.name = m.timerInvokers timer.name) ∧
      after.curTick = m.curTick ∧ after.ticks = m.ticks ∧ after.timerAllocId = m.timerAllocId := by
  induction removing generalizing m with
  | nil => exact ⟨distinct, by simp, fun _ _ => rfl, rfl, rfl, rfl⟩
  | cons first removing ih =>
    obtain ⟨after, queue, invokers, clock, ticks, alloc⟩ := ih (distinct.removeTimer first)
    obtain ⟨_, clock', ticks', alloc'⟩ := m.removeTimer_loop first
    refine ⟨after, ?_, ?_, clock.trans clock', ticks.trans ticks', alloc.trans alloc'⟩
    · rw [List.foldl_cons, queue, removeTimer_queue distinct, List.filter_filter]
      refine List.filter_congr fun timer _ => ?_
      simp [Bool.and_comm]
    · intro timer member
      rw [List.foldl_cons, invokers timer member]
      rw [List.foldl_cons, queue] at member
      have before := List.mem_of_mem_filter member
      rw [removeTimer_queue distinct, List.mem_filter] at before
      exact removeTimer_invokers distinct before.1 (of_decide_eq_true before.2)

theorem nextAfter_append {before rest : List CoreTimer} (apart : ∀ other ∈ before, other.timerId ≠ timer.timerId) :
    nextAfter timer.timerId (before ++ timer :: rest) = rest.head?.map (·.timerId) := by
  induction before with
  | nil => simp [nextAfter]
  | cons first before ih =>
    rw [List.cons_append, nextAfter, if_neg (apart first List.mem_cons_self)]
    exact ih fun other member => apart other (List.mem_cons_of_mem first member)

theorem amend_append {f : CoreTimer → CoreTimer} {before rest : List CoreTimer}
    (apart : ∀ other ∈ before, other.timerId ≠ timer.timerId) :
    amend CoreTimer.timerId timer.timerId f (before ++ timer :: rest) = before ++ f timer :: rest := by
  induction before with
  | nil => simp [amend]
  | cons first before ih =>
    rw [List.cons_append, amend, if_neg (apart first List.mem_cons_self),
      ih fun other member => apart other (List.mem_cons_of_mem first member)]
    rfl

end TimerModule

theorem CoreTimer.count_timerId (timer : CoreTimer) : timer.count.timerId = timer.timerId := by
  unfold CoreTimer.count
  split <;> rfl

theorem CoreTimer.count_name (timer : CoreTimer) : timer.count.name = timer.name := by
  unfold CoreTimer.count
  split <;> rfl

theorem CoreTimer.count_repeatTimes (timer : CoreTimer) : timer.count.repeatTimes = timer.repeatTimes - 1 := by
  unfold CoreTimer.count
  split <;> rfl

/-- A timer agrees with its record, where these ticks have been handled for
it and these calls made. -/
structure Tracks (timer : CoreTimer) (r : TimerRecord) (ticks : List Nat) (calls : List (Nat × Nat)) : Prop where
  period : timer.periodAsTick = r.period
  fired : ∃ fired, Served r.first r.period r.times ticks fired ∧ timer.repeatTimes = r.times - fired ∧
    (fired < r.times → timer.timeOutTick = r.first + fired * r.period)
  calls : calls = callsAt r.own (dueTicks r.first r.period r.times ticks)

namespace Tracks
variable {timer : CoreTimer} {r : TimerRecord} {ticks : List Nat} {calls : List (Nat × Nat)} {tick : Nat}

/-- A tick that the timer still waits after. -/
theorem early (tracks : Tracks timer r ticks calls) (more : 0 < timer.repeatTimes)
    (waits : tick < timer.timeOutTick) :
    Tracks timer r (ticks ++ [tick]) calls := by
  obtain ⟨fired, served, left, next⟩ := tracks.fired
  have short : fired < r.times := by omega
  rw [next short] at waits
  obtain ⟨after, same⟩ := served.early short waits
  refine ⟨tracks.period, ⟨fired, after, left, next⟩, ?_⟩
  rw [same]
  exact tracks.calls

/-- The tick that the timer is called at. -/
theorem due (tracks : Tracks timer r ticks calls) (more : 0 < timer.repeatTimes)
    (reached : timer.timeOutTick ≤ tick)
    (once : 2 ≤ timer.repeatTimes → tick < timer.timeOutTick + timer.periodAsTick) :
    Tracks timer.count r (ticks ++ [tick]) (calls ++ r.own.toList.map (tick, ·)) := by
  obtain ⟨fired, served, left, next⟩ := tracks.fired
  have short : fired < r.times := by omega
  have period := tracks.period
  have timeOut := next short
  have step : r.first + (fired + 1) * r.period = timer.timeOutTick + timer.periodAsTick := by
    rw [timeOut, period, Nat.succ_mul]
    omega
  rw [timeOut] at reached
  obtain ⟨after, same⟩ := served.due short reached fun two => by
    rw [step]
    exact once (by omega)
  refine ⟨?_, ⟨fired + 1, after, ?_, ?_⟩, ?_⟩
  · rw [← period, CoreTimer.count]
    split <;> rfl
  · rw [timer.count_repeatTimes]
    omega
  · intro two
    have again : ¬ timer.repeatTimes - 1 = 0 := by omega
    rw [CoreTimer.count, if_neg again, step]
  · rw [same, callsAt_append, ← tracks.calls]

/-- Every due time of a timer that has run out is behind it. -/
theorem exhausted (tracks : Tracks timer r ticks calls) (out : timer.repeatTimes = 0) :
    Served r.first r.period r.times ticks r.times ∧
      calls = callsAt r.own (dueTicks r.first r.period r.times ticks) := by
  obtain ⟨fired, served, left, _⟩ := tracks.fired
  have within := served.within
  have all : fired = r.times := by omega
  rw [all] at served
  exact ⟨served, tracks.calls⟩

end Tracks

/-- Called as it should have been with the ticks so far, the last of them
included. -/
def Settled (timer : CoreTimer) (r : TimerRecord) : Prop := Tracks timer r r.ticks r.calls

/-- Still to be visited at the last tick. -/
structure Ahead (tick : Nat) (timer : CoreTimer) (r : TimerRecord) : Prop where
  more : 0 < timer.repeatTimes
  once : 2 ≤ timer.repeatTimes → timer.timeOutTick ≤ tick → tick < timer.timeOutTick + timer.periodAsTick
  tracks : ∃ before, r.ticks = before ++ [tick] ∧ Tracks timer r before r.calls

/-- Being called at the last tick. -/
structure Called (tick : Nat) (timer : CoreTimer) (r : TimerRecord) : Prop where
  more : 0 < timer.repeatTimes
  reached : timer.timeOutTick ≤ tick
  once : 2 ≤ timer.repeatTimes → tick < timer.timeOutTick + timer.periodAsTick
  tracks : ∃ before calls, r.ticks = before ++ [tick] ∧ r.calls = calls ++ r.own.toList.map (tick, ·) ∧
    Tracks timer r before calls

theorem Ahead.skipped {tick : Nat} {timer : CoreTimer} {r : TimerRecord} (ahead : Ahead tick timer r)
    (waits : tick < timer.timeOutTick) : Settled timer r := by
  obtain ⟨before, ticks, tracks⟩ := ahead.tracks
  have early := tracks.early ahead.more waits
  rw [← ticks] at early
  exact early

theorem Called.settled {tick : Nat} {timer : CoreTimer} {r : TimerRecord} (called : Called tick timer r) :
    Settled timer.count r := by
  obtain ⟨before, calls, ticks, made, tracks⟩ := called.tracks
  have due := tracks.due called.more called.reached called.once
  rw [← ticks, ← made] at due
  exact due

/-- Without a callback of its own a timer is called without a call. -/
theorem Ahead.called_nothing {tick : Nat} {timer : CoreTimer} {r : TimerRecord} (ahead : Ahead tick timer r)
    (reached : timer.timeOutTick ≤ tick) (nothing : r.own = none) : Called tick timer r := by
  obtain ⟨before, ticks, tracks⟩ := ahead.tracks
  refine ⟨ahead.more, reached, fun two => ahead.once two reached, before, r.calls, ticks, ?_, tracks⟩
  rw [nothing]
  simp

theorem Ahead.called {tick handle : Nat} {timer : CoreTimer} {r : TimerRecord} (ahead : Ahead tick timer r)
    (reached : timer.timeOutTick ≤ tick) (own : r.own = some handle) : Called tick timer (r.call tick handle) := by
  obtain ⟨before, ticks, tracks⟩ := ahead.tracks
  refine ⟨ahead.more, reached, fun two => ahead.once two reached, before, r.calls, ticks, ?_, ?_⟩
  · simp [TimerRecord.call, own]
  · exact ⟨tracks.period, tracks.fired, tracks.calls⟩

/-- The next tick, which has not passed a second due time yet. -/
theorem Settled.hear {tick : Nat} {timer : CoreTimer} {r : TimerRecord} (settled : Settled timer r)
    (more : 0 < timer.repeatTimes)
    (once : 2 ≤ timer.repeatTimes → timer.timeOutTick ≤ tick → tick < timer.timeOutTick + timer.periodAsTick) :
    Ahead tick timer (r.hear tick) :=
  ⟨more, once, r.ticks, rfl, settled.period, settled.fired, settled.calls⟩

namespace TimerHistory
variable {s next : TimerHistory} {timer : CoreTimer} {P : TimerRecord → Prop}

/-- The record of a timer that was not removed, with its own callback kept
under its name. -/
def Follows (s : TimerHistory) (timer : CoreTimer) (P : TimerRecord → Prop) : Prop :=
  ∃ r, s.records timer.timerId = some r ∧ r.removed = false ∧ s.timers.timerInvokers timer.name = r.own ∧ P r

theorem Follows.frame (follows : s.Follows timer P) (record : next.records timer.timerId = s.records timer.timerId)
    (invoker : next.timers.timerInvokers timer.name = s.timers.timerInvokers timer.name) :
    next.Follows timer P := by
  obtain ⟨r, found, there, own, holds⟩ := follows
  exact ⟨r, record.trans found, there, invoker.trans own, holds⟩

/-- What holds of the records and the queue at any time. -/
structure Kept (s : TimerHistory) : Prop where
  distinct : s.timers.Distinct
  fresh : ∀ timerId, s.timers.timerAllocId < timerId → s.records timerId = none
  clock : ∀ tick ∈ s.timers.ticks, tick ≤ s.timers.curTick
  gone : ∀ timerId r, s.records timerId = some r → s.timers.find timerId = none → r.removed = false →
    Served r.first r.period r.times r.ticks r.times ∧ r.calls = r.expected
  late : ∀ timerId r, s.records timerId = some r → r.late = false

/-- Where the module is in its handling of ticks. -/
inductive Phase (s : TimerHistory) : Prop
  | idle (none : s.timers.loop = none)
      (settled : ∀ timer ∈ s.timers.timerQueue, 0 < timer.repeatTimes ∧ s.Follows timer (Settled timer))
  | looping {tick : Nat} {removing : List Nat} {done todo : List CoreTimer}
      (loop : s.timers.loop = some ⟨tick, todo.head?.map (·.timerId), false, removing⟩)
      (queue : s.timers.timerQueue = done ++ todo) (past : tick ≤ s.timers.curTick)
      (settled : ∀ timer ∈ done, s.Follows timer (Settled timer)) (ahead : ∀ timer ∈ todo,
        s.Follows timer (Ahead tick timer))
      (out : ∀ timer ∈ s.timers.timerQueue, timer.timerId ∈ removing ↔ timer.repeatTimes = 0)
      (known : ∀ timerId ∈ removing, timerId ≤ s.timers.timerAllocId)
  | calling {tick : Nat} {removing : List Nat} {done rest : List CoreTimer} {timer : CoreTimer}
      (loop : s.timers.loop = some ⟨tick, some timer.timerId, true, removing⟩)
      (queue : s.timers.timerQueue = done ++ timer :: rest) (past : tick ≤ s.timers.curTick)
      (settled : ∀ timer ∈ done, s.Follows timer (Settled timer)) (called : s.Follows timer (Called tick timer))
      (ahead : ∀ timer ∈ rest, s.Follows timer (Ahead tick timer))
      (out : ∀ timer ∈ s.timers.timerQueue, timer.timerId ∈ removing ↔ timer.repeatTimes = 0)
      (known : ∀ timerId ∈ removing, timerId ≤ s.timers.timerAllocId)

/-- A timer in the queue has a record, so its id was allocated. -/
theorem Phase.allocated (kept : s.Kept) (phase : s.Phase) : ∀ timer ∈ s.timers.timerQueue,
    timer.timerId ≤ s.timers.timerAllocId := by
  have known : ∀ timer P, s.Follows timer P → timer.timerId ≤ s.timers.timerAllocId := by
    rintro timer P ⟨r, found, _⟩
    by_contra above
    rw [kept.fresh _ (by omega)] at found
    cases found
  intro timer member
  cases phase with
  | idle _ settled => exact known timer _ (settled timer member).2
  | looping _ queue _ settled ahead _ _ =>
    rw [queue] at member
    rcases List.mem_append.mp member with early | later
    · exact known timer _ (settled timer early)
    · exact known timer _ (ahead timer later)
  | calling _ queue _ settled called ahead _ _ =>
    rw [queue] at member
    rcases List.mem_append.mp member with early | later
    · exact known timer _ (settled timer early)
    · rcases List.mem_cons.mp later with rfl | after
      · exact known _ _ called
      · exact known timer _ (ahead timer after)

theorem start_kept : start.Kept :=
  ⟨⟨List.nodup_nil, List.nodup_nil⟩, fun _ _ => rfl, fun _ => nofun, fun _ _ => nofun, fun _ _ => nofun⟩

theorem start_phase : start.Phase := .idle rfl fun _ => nofun

end TimerHistory

end DbcNode
