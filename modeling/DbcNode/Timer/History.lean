import DbcNode.Timer.Module

namespace DbcNode

/-- The first tick at or after each of a timer's due times. -/
def dueTicks (first period times : Nat) (ticks : List Nat) : List Nat :=
  (List.range times).filterMap fun k => ticks.find? (first + k * period ≤ ·)

/-- What is to be known of a timer that was added: its own callback, its due
times, the ticks that the module has handled since (with the one under way),
and the calls made for it. -/
structure TimerRecord where
  own : Option Nat
  first : Nat
  period : Nat
  times : Nat
  ticks : List Nat
  calls : List (Nat × Nat)
  /-- Its id was removed. -/
  removed : Bool
  /-- It was called after that. -/
  late : Bool
  deriving DecidableEq, Repr

/-- A callback at each of some ticks. -/
def callsAt (own : Option Nat) (ticks : List Nat) : List (Nat × Nat) :=
  ticks.flatMap fun tick => own.toList.map (tick, ·)

/-- The timer's own callback, once at the first tick at or after each of its
due times. -/
def TimerRecord.expected (r : TimerRecord) : List (Nat × Nat) :=
  callsAt r.own (dueTicks r.first r.period r.times r.ticks)

def TimerRecord.hear (timeTick : Nat) (r : TimerRecord) : TimerRecord := { r with ticks := r.ticks ++ [timeTick] }

def TimerRecord.call (timeTick handle : Nat) (r : TimerRecord) : TimerRecord :=
  { r with calls := r.calls ++ [(timeTick, handle)], late := r.late || r.removed }

def TimerRecord.remove (r : TimerRecord) : TimerRecord := { r with removed := true }

structure TimerHistory where
  timers : TimerModule
  records : Nat → Option TimerRecord

namespace TimerHistory

def start : TimerHistory := ⟨.empty, fun _ => none⟩

def edit (timerId : Nat) (f : TimerRecord → TimerRecord) (records : Nat → Option TimerRecord) :
    Nat → Option TimerRecord :=
  Function.update records timerId ((records timerId).map f)

/-- What a step adds to the records, given the callback that it calls. -/
def note (m : TimerModule) (called : Option Nat) (records : Nat → Option TimerRecord) :
    TimerEvent → Nat → Option TimerRecord
  | .clockTicks _ => records
  | .addTimer _ delay period repeatTimes _ handle =>
    if m.accepts period repeatTimes then
      Function.update records (m.timerAllocId + 1)
        (some ⟨handle, m.curTick + ticksOf delay, ticksOf period, repeatTimes,
        m.loop.toList.map (·.timeTick), [], false, false⟩)
    else records
  | .removeTimer timerId => edit timerId TimerRecord.remove records
  | .removeAllTimer => fun timerId =>
    if (m.find timerId).isSome then (records timerId).map TimerRecord.remove else records timerId
  | .onTimerTick =>
    match m.ticks with
    | [] => records
    | timeTick :: _ => fun timerId => (records timerId).map (TimerRecord.hear timeTick)
  | .goesOn =>
    match m.loop, called with
    | some ⟨timeTick, some timerId, _, _⟩, some handle => edit timerId (TimerRecord.call timeTick handle) records
    | _, _ => records

def step (s : TimerHistory) (event : TimerEvent) : Option TimerHistory :=
  (s.timers.step event).map fun result => ⟨result.1, note s.timers result.2 s.records event⟩

/-- A new timer has a name that no timer in the queue has, and without a
callback of its own one that no callback is kept for; while a tick is
handled nobody removes the timer that the loop stands at, as while its
callback runs, or all timers; and no tick comes so late that a timer has two
due times behind it. -/
def Apart (s : TimerHistory) : TimerEvent → Prop
  | .addTimer name _ period repeatTimes _ handle => s.timers.accepts period repeatTimes →
    (∀ timer ∈ s.timers.timerQueue, timer.name ≠ name) ∧ (handle = none → s.timers.timerInvokers name = none)
  | .removeTimer timerId => ∀ loop ∈ s.timers.loop, loop.position ≠ some timerId
  | .removeAllTimer => s.timers.loop = none
  | .onTimerTick => ∀ timeTick ∈ s.timers.ticks.head?, ∀ timer ∈ s.timers.timerQueue,
    2 ≤ timer.repeatTimes → timer.timeOutTick ≤ timeTick → timeTick < timer.timeOutTick + timer.periodAsTick
  | _ => True

instance (s : TimerHistory) (event : TimerEvent) : Decidable (s.Apart event) :=
  match event with
  | .addTimer _ _ _ _ _ _ => inferInstanceAs (Decidable (_ → _ ∧ _))
  | .removeTimer timerId => inferInstanceAs (Decidable (∀ loop ∈ s.timers.loop, loop.position ≠ some timerId))
  | .removeAllTimer => inferInstanceAs (Decidable (s.timers.loop = none))
  | .onTimerTick => inferInstanceAs (Decidable (∀ timeTick ∈ s.timers.ticks.head?, ∀ timer ∈ s.timers.timerQueue,
    2 ≤ timer.repeatTimes → timer.timeOutTick ≤ timeTick → timeTick < timer.timeOutTick + timer.periodAsTick))
  | .clockTicks _ => .isTrue trivial
  | .goesOn => .isTrue trivial

/-- The loop stands at a timer of the queue, or at its end. -/
def Positioned (s : TimerHistory) : Prop :=
  ∀ loop timerId, s.timers.loop = some loop → loop.position = some timerId → (s.timers.find timerId).isSome

end TimerHistory

section Due
variable {first period times fired tick : Nat} {ticks : List Nat}

/-- With `fired` due times behind it and no tick at or after the next
one. -/
structure Served (first period times : Nat) (ticks : List Nat) (fired : Nat) : Prop where
  within : fired ≤ times
  behind : ∀ k < fired, ∃ tick ∈ ticks, first + k * period ≤ tick
  ahead : fired < times → ∀ tick ∈ ticks, tick < first + fired * period

theorem Served.start (first period times : Nat) : Served first period times [] 0 :=
  ⟨Nat.zero_le _, fun _ none => absurd none (Nat.not_lt_zero _), fun _ _ member => nomatch member⟩

theorem find_append_found {p : Nat → Bool} (found : ∃ tick ∈ ticks, p tick = true) (tick : Nat) :
    (ticks ++ [tick]).find? p = ticks.find? p := by
  obtain ⟨value, isValue⟩ := Option.isSome_iff_exists.mp (List.find?_isSome.mpr found)
  rw [List.find?_append, isValue]
  rfl

theorem find_append_missing {p : Nat → Bool} (missing : ∀ tick ∈ ticks, p tick = false) (tick : Nat) :
    (ticks ++ [tick]).find? p = if p tick then some tick else none := by
  have nothing : ticks.find? p = none := by
    refine List.find?_eq_none.mpr fun other member => ?_
    rw [missing other member]
    simp
  rw [List.find?_append, nothing, Option.none_or, List.find?_singleton]

/-- The due times that are behind keep their ticks. -/
theorem Served.kept (served : Served first period times ticks fired) {k : Nat} (old : k < fired) (tick : Nat) :
    (ticks ++ [tick]).find? (first + k * period ≤ ·) = ticks.find? (first + k * period ≤ ·) := by
  obtain ⟨there, member, reached⟩ := served.behind k old
  exact find_append_found ⟨there, member, decide_eq_true reached⟩ tick

theorem Served.later (served : Served first period times ticks fired) {k : Nat} (above : fired ≤ k)
    (more : fired < times) (tick : Nat) : (ticks ++ [tick]).find? (first + k * period ≤ ·) =
      if first + k * period ≤ tick then some tick else none := by
  have reach : first + fired * period ≤ first + k * period :=
    Nat.add_le_add_left (Nat.mul_le_mul_right period above) first
  have missing : ∀ other ∈ ticks, decide (first + k * period ≤ other) = false := by
    intro other member
    have early := served.ahead more other member
    exact decide_eq_false (by omega)
  rw [find_append_missing missing]
  simp

theorem Served.finished (served : Served first period times ticks fired) (all : fired = times) (tick : Nat) :
    Served first period times (ticks ++ [tick]) fired ∧
      dueTicks first period times (ticks ++ [tick]) = dueTicks first period times ticks := by
  subst all
  refine ⟨⟨le_rfl, ?_, fun less => absurd less (lt_irrefl _)⟩, ?_⟩
  · intro k old
    obtain ⟨there, member, reached⟩ := served.behind k old
    exact ⟨there, List.mem_append_left _ member, reached⟩
  · refine List.filterMap_congr fun k member => ?_
    exact served.kept (List.mem_range.mp member) tick

theorem Served.early (served : Served first period times ticks fired) (more : fired < times)
    (early : tick < first + fired * period) : Served first period times (ticks ++ [tick]) fired ∧
      dueTicks first period times (ticks ++ [tick]) = dueTicks first period times ticks := by
  refine ⟨⟨served.within, ?_, ?_⟩, ?_⟩
  · intro k old
    obtain ⟨there, member, reached⟩ := served.behind k old
    exact ⟨there, List.mem_append_left _ member, reached⟩
  · intro _ other member
    rcases List.mem_append.mp member with before | last
    · exact served.ahead more other before
    · rw [List.mem_singleton.mp last]
      exact early
  · refine List.filterMap_congr fun k member => ?_
    by_cases old : k < fired
    · exact served.kept old tick
    · have above : fired ≤ k := by omega
      have reach : first + fired * period ≤ first + k * period :=
        Nat.add_le_add_left (Nat.mul_le_mul_right period above) first
      have missing : ticks.find? (first + k * period ≤ ·) = none := by
        refine List.find?_eq_none.mpr fun other seen => ?_
        have before := served.ahead more other seen
        simp only [decide_eq_true_eq]
        omega
      rw [served.later above more, if_neg (by omega), missing]

/-- The tick that the next due time has been waiting for. -/
theorem Served.due (served : Served first period times ticks fired) (more : fired < times)
    (reached : first + fired * period ≤ tick) (once : fired + 1 < times → tick < first + (fired + 1) * period) :
    Served first period times (ticks ++ [tick]) (fired + 1) ∧
      dueTicks first period times (ticks ++ [tick]) = dueTicks first period times ticks ++ [tick] := by
  refine ⟨⟨more, ?_, ?_⟩, ?_⟩
  · intro k old
    by_cases last : k = fired
    · exact ⟨tick, by simp, by rw [last]; exact reached⟩
    · obtain ⟨there, member, before⟩ := served.behind k (by omega)
      exact ⟨there, List.mem_append_left _ member, before⟩
  · intro next other member
    rcases List.mem_append.mp member with before | last
    · have early := served.ahead more other before
      have reach : first + fired * period ≤ first + (fired + 1) * period :=
        Nat.add_le_add_left (Nat.mul_le_mul_right period (Nat.le_succ fired)) first
      omega
    · rw [List.mem_singleton.mp last]
      exact once next
  · obtain ⟨rest, total⟩ : ∃ rest, times = fired + (1 + rest) := ⟨times - fired - 1, by omega⟩
    have split : List.range times = List.range fired ++ (fired :: (List.range rest).map (fired + 1 + ·)) := by
      rw [total, List.range_add, List.range_add, List.map_append, List.map_map]
      simp [Function.comp_def, Nat.add_assoc]
    have missing : ∀ k, fired ≤ k → ticks.find? (first + k * period ≤ ·) = none := by
      intro k above
      refine List.find?_eq_none.mpr fun other seen => ?_
      have before := served.ahead more other seen
      have reach : first + fired * period ≤ first + k * period :=
        Nat.add_le_add_left (Nat.mul_le_mul_right period above) first
      simp only [decide_eq_true_eq]
      omega
    have old : (List.range fired).filterMap (fun k => (ticks ++ [tick]).find? (first + k * period ≤ ·)) =
        (List.range fired).filterMap (fun k => ticks.find? (first + k * period ≤ ·)) :=
      List.filterMap_congr fun k member => served.kept (List.mem_range.mp member) tick
    have after : ((List.range rest).map (fired + 1 + ·)).filterMap
        (fun k => (ticks ++ [tick]).find? (first + k * period ≤ ·)) = [] := by
      refine List.filterMap_eq_nil_iff.mpr fun k member => ?_
      obtain ⟨j, inRange, rfl⟩ := List.mem_map.mp member
      have size := List.mem_range.mp inRange
      have below := once (by omega)
      have reach : first + (fired + 1) * period ≤ first + (fired + 1 + j) * period :=
        Nat.add_le_add_left (Nat.mul_le_mul_right period (by omega)) first
      rw [served.later (by omega) more, if_neg (by omega)]
    have before : ((List.range rest).map (fired + 1 + ·)).filterMap
        (fun k => ticks.find? (first + k * period ≤ ·)) = [] := by
      refine List.filterMap_eq_nil_iff.mpr fun k member => ?_
      obtain ⟨j, _, rfl⟩ := List.mem_map.mp member
      exact missing _ (by omega)
    have now : (ticks ++ [tick]).find? (first + fired * period ≤ ·) = some tick := by
      rw [served.later le_rfl more, if_pos reached]
    rw [dueTicks, dueTicks, split, List.filterMap_append, List.filterMap_append, List.filterMap_cons,
      List.filterMap_cons, old, after, before, now, missing fired le_rfl, List.append_nil]

end Due

theorem callsAt_append (own : Option Nat) (ticks : List Nat) (tick : Nat) :
    callsAt own (ticks ++ [tick]) = callsAt own ticks ++ own.toList.map (tick, ·) := by
  simp [callsAt]

end DbcNode
