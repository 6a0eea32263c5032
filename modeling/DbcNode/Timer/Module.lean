import DbcNode.Lib.Bytes
import DbcNode.Lib.Keyed
import DbcNode.Lib.Runs

namespace DbcNode

def defaultTimerInterval : Nat := 100

/-- `std::round` of milliseconds over the interval. -/
def ticksOf (ms : Nat) : Nat := (ms + defaultTimerInterval / 2) / defaultTimerInterval

structure CoreTimer where
  name : Bytes
  repeatTimes : Nat
  timerId : Nat
  timeOutTick : Nat
  periodAsTick : Nat
  sessionId : Bytes
  deriving DecidableEq, Repr

/-- `desc_repeat_times`, and `cal_time_out_tick` where there are more. -/
def CoreTimer.count (timer : CoreTimer) : CoreTimer :=
  if timer.repeatTimes - 1 = 0 then { timer with repeatTimes := timer.repeatTimes - 1 }
  else { timer with repeatTimes := timer.repeatTimes - 1, timeOutTick := timer.timeOutTick + timer.periodAsTick }

/-- `on_timer_tick` under way: `position` is the timer that its iterator
stands at, none at the end of the queue, and `calling` holds while that
timer's callback runs. -/
structure TimerLoop where
  timeTick : Nat
  position : Option Nat
  calling : Bool
  removeTimersList : List Nat
  deriving DecidableEq, Repr

/-- The timers of a `service_module`, the clock that all modules share, and
the ticks that wait in the module's queue of messages. Callbacks are known
by a number. -/
structure TimerModule where
  curTick : Nat
  ticks : List Nat
  timerAllocId : Nat
  timerQueue : List CoreTimer
  timerInvokers : Bytes → Option Nat
  loop : Option TimerLoop

inductive TimerEvent
  /-- The clock goes on. The module gets the tick unless its queue is
  full. -/
  | clockTicks (sent : Bool)
  | addTimer (name : Bytes) (delay period repeatTimes : Nat) (sessionId : Bytes) (handle : Option Nat)
  | removeTimer (timerId : Nat)
  | removeAllTimer
  /-- The module takes the next tick from its queue. -/
  | onTimerTick
  /-- `on_timer_tick` goes on: to the next timer, or from a callback that
  returns. -/
  | goesOn
  deriving DecidableEq, Repr

namespace TimerModule

def maxTimerId : Nat := 0xFFFFFFFF

def empty : TimerModule := ⟨0, [], 0, [], fun _ => none, none⟩

def find (m : TimerModule) (timerId : Nat) : Option CoreTimer := m.timerQueue.find? (·.timerId = timerId)

/-- Calls come from outside of `on_timer_tick` or from a callback. -/
def canCall (m : TimerModule) : Bool :=
  match m.loop with
  | none => true
  | some loop => loop.calling

def makeTimer (m : TimerModule) (name : Bytes) (delay period repeatTimes : Nat) (sessionId : Bytes) : CoreTimer :=
  ⟨name, repeatTimes, m.timerAllocId + 1, m.curTick + ticksOf delay, ticksOf period, sessionId⟩

/-- Whether `add_timer` makes a timer at all. -/
def accepts (m : TimerModule) (period repeatTimes : Nat) : Bool :=
  ¬ (repeatTimes < 1 ∨ period < defaultTimerInterval) ∧ m.timerAllocId ≠ maxTimerId

/-- The callback is kept by the timer's name. -/
def addTimer (name : Bytes) (delay period repeatTimes : Nat) (sessionId : Bytes) (handle : Option Nat)
    (m : TimerModule) : TimerModule :=
  if m.accepts period repeatTimes then
    { m with
      timerAllocId := m.timerAllocId + 1
      timerQueue := m.timerQueue ++ [m.makeTimer name delay period repeatTimes sessionId]
      timerInvokers := if handle = none then m.timerInvokers else Function.update m.timerInvokers name handle }
  else m

/-- With a timer goes the callback of its name. -/
def removeTimer (timerId : Nat) (m : TimerModule) : TimerModule :=
  match m.find timerId with
  | none => m
  | some timer =>
    { m with
      timerQueue := m.timerQueue.eraseP (·.timerId = timerId)
      timerInvokers :=
        if timer.name = [] then m.timerInvokers else Function.update m.timerInvokers timer.name none }

def removeAllTimer (m : TimerModule) : TimerModule := { m with timerQueue := [], timerInvokers := fun _ => none }

/-- The position after a timer. -/
def nextAfter (timerId : Nat) : List CoreTimer → Option Nat
  | [] => none
  | timer :: rest => if timer.timerId = timerId then rest.head?.map (·.timerId) else nextAfter timerId rest

/-- What the loop does once a due timer has been called. There is nothing to
go on from where the timer is not in the queue any more. -/
def afterCall (loop : TimerLoop) (timerId : Nat) (m : TimerModule) : Option TimerModule :=
  match m.find timerId with
  | none => none
  | some timer =>
    some { m with
      timerQueue := amend CoreTimer.timerId timerId CoreTimer.count m.timerQueue
      loop := some { loop with
        position := nextAfter timerId m.timerQueue
        calling := false
        removeTimersList :=
          if timer.repeatTimes - 1 = 0 then loop.removeTimersList ++ [timerId] else loop.removeTimersList } }

/-- The end of the loop, where the timers that have run out are removed. -/
def finish (loop : TimerLoop) (m : TimerModule) : TimerModule :=
  { loop.removeTimersList.foldl (fun m timerId => m.removeTimer timerId) m with loop := none }

/-- The timer at the loop's position: what is left to do for it, and the
callback that is called. -/
def visit (loop : TimerLoop) (timer : CoreTimer) (m : TimerModule) : Option (TimerModule × Option Nat) :=
  if timer.timeOutTick ≤ loop.timeTick then
    match m.timerInvokers timer.name with
    | some handle => some ({ m with loop := some { loop with calling := true } }, some handle)
    | none => (m.afterCall loop timer.timerId).map (·, none)
  else some ({ m with loop := some { loop with position := nextAfter timer.timerId m.timerQueue } }, none)

def goesOn (loop : TimerLoop) (m : TimerModule) : Option (TimerModule × Option Nat) :=
  match loop.position with
  | none => some (m.finish loop, none)
  | some timerId =>
    if loop.calling then (m.afterCall loop timerId).map (·, none)
    else
      match m.find timerId with
      | none => none
      | some timer => m.visit loop timer

def startLoop (timeTick : Nat) (m : TimerModule) : TimerModule :=
  { m with loop := some ⟨timeTick, m.timerQueue.head?.map (·.timerId), false, []⟩ }

/-- The callback that a step calls stands beside the module after it. -/
def step (m : TimerModule) : TimerEvent → Option (TimerModule × Option Nat)
  | .clockTicks sent =>
    some ({ m with curTick := m.curTick + 1, ticks := if sent then m.ticks ++ [m.curTick + 1] else m.ticks }, none)
  | .addTimer name delay period repeatTimes sessionId handle =>
    if m.canCall then some (m.addTimer name delay period repeatTimes sessionId handle, none) else none
  | .removeTimer timerId => if m.canCall then some (m.removeTimer timerId, none) else none
  | .removeAllTimer => if m.canCall then some (m.removeAllTimer, none) else none
  | .onTimerTick =>
    match m.loop, m.ticks with
    | none, timeTick :: ticks => some ({ m with ticks := ticks }.startLoop timeTick, none)
    | _, _ => none
  | .goesOn =>
    match m.loop with
    | none => none
    | some loop => m.goesOn loop

end TimerModule

end DbcNode
