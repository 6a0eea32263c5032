import DbcNode.Lib.Runs

namespace DbcNode

/-- `MAX_MSG_QUEUE_SIZE` -/
def maxMsgQueueSize : Nat := 102400

/-- Where the thread of a service is: at the condition of its loop, in
`wait_for`, asleep or notified, at the messages that it has taken, or at its
end. -/
inductive ServiceThread
  | looping
  | asleep
  | notified
  | handling
  | ended
  deriving DecidableEq

/-- A `service_module` by its queues and its thread. What `on_msg_handle`
makes of the service is its state. The messages that `send` has accepted and
those that were handled are kept as well. -/
structure MsgQueue (μ σ : Type) where
  msgQueue : List μ
  tmpMsgQueue : List μ
  running : Bool
  thread : ServiceThread
  state : σ
  accepted : List μ
  handled : List μ

inductive MsgQueueEvent (μ : Type)
  | send (msg : μ)
  /-- `exit` clears `m_running` without the mutex, so its `notify_all` may
  come at any time after that. -/
  | exit
  /-- The thread goes on. -/
  | goOn
  /-- The half second of `wait_for` is over. -/
  | timeout
  /-- A wait is ended by the `notify_all` of `exit`, or by nothing. -/
  | wakeUp

namespace MsgQueue
variable {μ σ : Type}

def init (state : σ) : MsgQueue μ σ := ⟨[], [], true, .looping, state, [], []⟩

def notifyAll (s : MsgQueue μ σ) : MsgQueue μ σ :=
  if s.thread = .asleep then { s with thread := .notified } else s

/-- `send`, which drops a message when the queue is full. -/
def send (msg : μ) (s : MsgQueue μ σ) : MsgQueue μ σ :=
  if s.msgQueue.length < maxMsgQueueSize then
    notifyAll { s with msgQueue := s.msgQueue ++ [msg], accepted := s.accepted ++ [msg] }
  else s

/-- After the wait the queues are swapped. -/
def swap (s : MsgQueue μ σ) : MsgQueue μ σ :=
  { s with msgQueue := s.tmpMsgQueue, tmpMsgQueue := s.msgQueue, thread := .handling }

/-- The predicate of `wait_for` is looked at. -/
def tryWait (s : MsgQueue μ σ) : MsgQueue μ σ :=
  if s.running = false ∨ s.msgQueue ≠ [] then s.swap else { s with thread := .asleep }

/-- What the thread does next: one turn of one of its loops. -/
def threadFunc (handle : σ → μ → σ) (s : MsgQueue μ σ) : Option (MsgQueue μ σ) :=
  match s.thread with
  | .looping => some (if s.running = true then s.tryWait else { s with thread := .ended })
  | .asleep => none
  | .notified => some s.tryWait
  | .handling =>
    match s.tmpMsgQueue with
    | [] => some { s with thread := .looping }
    | msg :: rest =>
      some { s with tmpMsgQueue := rest, state := handle s.state msg, handled := s.handled ++ [msg] }
  | .ended => none

def step (handle : σ → μ → σ) (s : MsgQueue μ σ) : MsgQueueEvent μ → Option (MsgQueue μ σ)
  | .send msg => some (s.send msg)
  | .exit => some { s with running := false }
  | .goOn => s.threadFunc handle
  | .timeout => if s.thread = .asleep ∨ s.thread = .notified then some s.swap else none
  | .wakeUp => if s.thread = .asleep then some { s with thread := .notified } else none

/-- The messages given to `send`, the first one first. -/
def sent : List (MsgQueueEvent μ) → List μ
  | [] => []
  | .send msg :: before => sent before ++ [msg]
  | _ :: before => sent before

structure Sound (handle : σ → μ → σ) (initial : σ) (trace : List (MsgQueueEvent μ)) (s : MsgQueue μ σ) :
    Prop where
  order : s.handled ++ s.tmpMsgQueue ++ s.msgQueue = s.accepted
  taken : s.thread ≠ .handling → s.tmpMsgQueue = []
  room : s.msgQueue.length ≤ maxMsgQueueSize
  state : s.state = s.handled.foldl handle initial
  heard : s.thread = .asleep → s.msgQueue = []
  ended : s.thread = .ended → s.running = false
  part : s.accepted.Sublist (sent trace)
  whole : (sent trace).length ≤ maxMsgQueueSize → s.accepted = sent trace

variable {handle : σ → μ → σ} {initial : σ} {trace : List (MsgQueueEvent μ)} {s u : MsgQueue μ σ}
  {event : MsgQueueEvent μ}

theorem Sound.init (handle : σ → μ → σ) (initial : σ) :
    Sound handle initial [] (init initial : MsgQueue μ σ) := by
  constructor <;> simp [MsgQueue.init, sent]

/-- The queue is part of what was accepted. -/
theorem Sound.queue_le (sound : Sound handle initial trace s) : s.msgQueue.length ≤ s.accepted.length := by
  rw [← sound.order, List.length_append]
  omega

/-- A sleeping thread has left nothing undone. -/
theorem Sound.asleep (sound : Sound handle initial trace s) (asleep : s.thread = .asleep) :
    s.tmpMsgQueue = [] ∧ s.handled = s.accepted := by
  have taken := sound.taken (by rw [asleep]; simp)
  have order := sound.order
  rw [taken, sound.heard asleep, List.append_nil, List.append_nil] at order
  exact ⟨taken, order⟩

/-- With no message taken the thread may go on where it is awake. -/
theorem Sound.goOn (sound : Sound handle initial trace s) (taken : s.tmpMsgQueue = []) {thread : ServiceThread}
    (awake : thread ≠ .asleep) (going : thread ≠ .ended) : Sound handle initial trace { s with thread } :=
  { sound with
    taken := fun _ => taken
    heard := fun wrong => (awake wrong).elim
    ended := fun wrong => (going wrong).elim }

theorem Sound.send (sound : Sound handle initial trace s) (msg : μ) :
    Sound handle initial (.send msg :: trace) (s.send msg) := by
  rw [MsgQueue.send]
  split
  · rename_i short
    -- with the new message in the queue a thread that sleeps has to be notified
    rw [MsgQueue.notifyAll]
    have order : s.handled ++ s.tmpMsgQueue ++ (s.msgQueue ++ [msg]) = s.accepted ++ [msg] := by
      rw [← List.append_assoc, sound.order]
    have room : (s.msgQueue ++ [msg]).length ≤ maxMsgQueueSize := by
      rw [List.length_append, List.length_singleton]
      omega
    have part : (s.accepted ++ [msg]).Sublist (sent (.send msg :: trace)) := sound.part.append_right [msg]
    have whole : (sent (.send msg :: trace)).length ≤ maxMsgQueueSize →
        s.accepted ++ [msg] = sent (.send msg :: trace) := by
      intro few
      rw [sent, List.length_append] at few
      rw [sent, sound.whole (by omega)]
    split
    · rename_i asleep
      exact ⟨order, fun _ => (sound.asleep asleep).1, room, sound.state, fun wrong => (by cases wrong),
        fun wrong => (by cases wrong), part, whole⟩
    · rename_i awake
      exact ⟨order, sound.taken, room, sound.state, fun asleep => (awake asleep).elim, sound.ended, part, whole⟩
  · rename_i full
    refine { sound with part := sound.part.trans (List.sublist_append_left _ _), whole := fun few => ?_ }
    rw [sent, List.length_append, List.length_singleton] at few
    have queue := sound.queue_le
    have part := sound.part.length_le
    omega

/-- Where nothing is sent, the trace does not matter. -/
theorem Sound.quiet (sound : Sound handle initial trace s) (same : sent (event :: trace) = sent trace) :
    Sound handle initial (event :: trace) s :=
  { sound with part := same ▸ sound.part, whole := same ▸ sound.whole }

theorem Sound.swap (sound : Sound handle initial trace s) (free : s.thread ≠ .handling) :
    Sound handle initial trace s.swap := by
  have none := sound.taken free
  have order := sound.order
  refine { sound with
    order := ?_
    taken := fun wrong => (wrong rfl).elim
    room := ?_
    heard := fun wrong => ?_
    ended := fun wrong => ?_ }
  · rw [none, List.append_nil] at order
    rw [MsgQueue.swap, none]
    dsimp only
    rw [List.append_nil]
    exact order
  · rw [MsgQueue.swap, none]
    exact Nat.zero_le _
  · cases wrong
  · cases wrong

theorem Sound.tryWait (sound : Sound handle initial trace s) (free : s.thread ≠ .handling) :
    Sound handle initial trace s.tryWait := by
  rw [MsgQueue.tryWait]
  split
  · exact sound.swap free
  · rename_i idle
    obtain ⟨_, empty⟩ := not_or.mp idle
    exact { sound with
      taken := fun _ => sound.taken free
      heard := fun _ => not_not.mp empty
      ended := fun wrong => by cases wrong }

theorem Sound.threadFunc (sound : Sound handle initial trace s) (ran : s.threadFunc handle = some u) :
    Sound handle initial trace u := by
  rw [MsgQueue.threadFunc] at ran
  cases thread : s.thread with
  | looping =>
    have free : s.thread ≠ .handling := by rw [thread]; simp
    simp only [thread, Option.some.injEq] at ran
    subst ran
    split
    · exact sound.tryWait free
    · rename_i stopped
      exact { sound with
        taken := fun _ => sound.taken free
        heard := fun wrong => by cases wrong
        ended := fun _ => Bool.not_eq_true _ ▸ stopped }
  | asleep => simp only [thread, reduceCtorEq] at ran
  | notified =>
    simp only [thread, Option.some.injEq] at ran
    subst ran
    exact sound.tryWait (by rw [thread]; simp)
  | handling =>
    simp only [thread] at ran
    split at ran
    · rename_i none
      cases ran
      exact sound.goOn none (by simp) (by simp)
    · rename_i msg rest taken
      cases ran
      have order := sound.order
      rw [taken] at order
      exact { sound with
        order := by rw [← order]; simp
        taken := fun wrong => (wrong rfl).elim
        state := by rw [List.foldl_append, ← sound.state]; rfl
        heard := fun wrong => by cases wrong
        ended := fun wrong => by cases wrong }
  | ended => simp only [thread, reduceCtorEq] at ran

theorem Sound.step (sound : Sound handle initial trace s) (ran : s.step handle event = some u) :
    Sound handle initial (event :: trace) u := by
  cases event with
  | send msg =>
    cases ran
    exact sound.send msg
  | exit =>
    cases ran
    have stopped : Sound handle initial trace { s with running := false } :=
      { sound with ended := fun _ => rfl }
    exact stopped.quiet rfl
  | goOn => exact (sound.threadFunc ran).quiet rfl
  | timeout =>
    rw [MsgQueue.step] at ran
    split at ran
    · rename_i waiting
      cases ran
      refine (sound.swap ?_).quiet rfl
      rcases waiting with asleep | notified
      · rw [asleep]
        simp
      · rw [notified]
        simp
    · cases ran
  | wakeUp =>
    rw [MsgQueue.step] at ran
    split at ran
    · rename_i asleep
      cases ran
      have woken : Sound handle initial trace { s with thread := .notified } :=
        sound.goOn (sound.asleep asleep).1 (by simp) (by simp)
      exact woken.quiet rfl
    · cases ran

theorem Sound.run (run : Reaches (MsgQueue.step handle) (MsgQueue.init initial) trace s) :
    Sound handle initial trace s :=
  Run.history (Sound.init handle initial) (fun sound _ ran => sound.step ran) run

/-- With any number of threads that send, and however the waits of its own
thread end, a service handles the messages that it has accepted one after
the other in the order in which it has accepted them; those not handled yet
are in its two queues; while its thread sleeps there is none; and with no
more messages than the queue holds none is dropped. -/
theorem handled_in_order (run : Reaches (MsgQueue.step handle) (MsgQueue.init initial) trace s) :
    s.handled ++ s.tmpMsgQueue ++ s.msgQueue = s.accepted ∧ s.state = s.handled.foldl handle initial ∧
      (s.thread = .asleep → s.handled = s.accepted) ∧ s.accepted.Sublist (sent trace) ∧
      ((sent trace).length ≤ maxMsgQueueSize → s.accepted = sent trace) := by
  have sound := Sound.run run
  exact ⟨sound.order, sound.state, fun asleep => (sound.asleep asleep).2, sound.part, sound.whole⟩

/-- How many turns the thread has before it sleeps, if nothing more is
sent. -/
def turnsLeft (s : MsgQueue μ σ) : Nat :=
  let wait := if s.msgQueue = [] then 1 else s.msgQueue.length + 3
  match s.thread with
  | .looping => wait
  | .asleep => 0
  | .notified => wait
  | .handling => s.tmpMsgQueue.length + 1 + wait
  | .ended => 0

theorem tryWait_turns (running : s.running = true) (taken : s.tmpMsgQueue = []) :
    s.tryWait.turnsLeft < (if s.msgQueue = [] then 1 else s.msgQueue.length + 3) ∧ s.tryWait.running = true ∧
      s.tryWait.accepted = s.accepted := by
  rw [MsgQueue.tryWait]
  by_cases empty : s.msgQueue = []
  · rw [if_neg (by simp [running, empty]), if_pos empty]
    exact ⟨Nat.one_pos, running, rfl⟩
  · rw [if_pos (Or.inr empty), if_neg empty]
    refine ⟨?_, running, rfl⟩
    simp only [turnsLeft, MsgQueue.swap, taken, if_true]
    omega

/-- A thread that does not sleep goes on, until it does. -/
theorem Sound.progress (sound : Sound handle initial trace s) (running : s.running = true)
    (awake : s.thread ≠ .asleep) :
    ∃ u, s.threadFunc handle = some u ∧ u.turnsLeft < s.turnsLeft ∧ u.running = true ∧
      u.accepted = s.accepted := by
  cases thread : s.thread with
  | looping =>
    have fewer := tryWait_turns running (sound.taken (by rw [thread]; simp))
    refine ⟨s.tryWait, by simp only [MsgQueue.threadFunc, thread, running, if_true], ?_, fewer.2⟩
    have left : s.turnsLeft = if s.msgQueue = [] then 1 else s.msgQueue.length + 3 := by
      simp only [turnsLeft, thread]
    rw [left]
    exact fewer.1
  | asleep => exact (awake thread).elim
  | notified =>
    have fewer := tryWait_turns running (sound.taken (by rw [thread]; simp))
    refine ⟨s.tryWait, by simp only [MsgQueue.threadFunc, thread], ?_, fewer.2⟩
    have left : s.turnsLeft = if s.msgQueue = [] then 1 else s.msgQueue.length + 3 := by
      simp only [turnsLeft, thread]
    rw [left]
    exact fewer.1
  | handling =>
    cases taken : s.tmpMsgQueue with
    | nil =>
      refine ⟨{ s with thread := .looping }, by simp only [MsgQueue.threadFunc, thread, taken], ?_, running, rfl⟩
      rw [turnsLeft, turnsLeft, thread]
      dsimp only
      omega
    | cons msg rest =>
      refine ⟨{ s with tmpMsgQueue := rest, state := handle s.state msg, handled := s.handled ++ [msg] },
        by simp only [MsgQueue.threadFunc, thread, taken], ?_, running, rfl⟩
      simp only [turnsLeft, thread, taken, List.length_cons]
      omega
  | ended =>
    rw [sound.ended thread] at running
    cases running

/-- From every state of a service that is not stopped, its thread alone gets
all messages handled that were accepted, without waiting for a timeout. -/
theorem all_handled (run : Reaches (MsgQueue.step handle) (MsgQueue.init initial) trace s)
    (running : s.running = true) :
    ∃ rest u, Run (MsgQueue.step handle) (fun _ event => event = .goOn) s rest u ∧ u.thread = .asleep ∧
      u.handled = s.accepted ∧ u.state = s.accepted.foldl handle initial := by
  have far : ∀ n rest u done, Run (MsgQueue.step handle) (fun _ event => event = .goOn) s rest u →
      Sound handle initial done u → u.running = true → u.accepted = s.accepted → u.turnsLeft = n →
      ∃ rest u, Run (MsgQueue.step handle) (fun _ event => event = .goOn) s rest u ∧ u.thread = .asleep ∧
        u.handled = s.accepted ∧ u.state = s.accepted.foldl handle initial := by
    intro n
    induction n using Nat.strong_induction_on with
    | _ n ih =>
      intro rest u done before sound running same left
      by_cases asleep : u.thread = .asleep
      · have handled := (sound.asleep asleep).2.trans same
        exact ⟨rest, u, before, asleep, handled, handled ▸ sound.state⟩
      · obtain ⟨v, ran, fewer, still, kept⟩ := sound.progress running asleep
        exact ih _ (left ▸ fewer) (.goOn :: rest) v (.goOn :: done) (.next before rfl ran)
          ((sound.threadFunc ran).quiet rfl) still (kept.trans same) rfl
  exact far _ [] s trace .start (Sound.run run) running rfl rfl

/-- A service that adds up numbers, with one number handled and one in its
queue. -/
theorem adding_run : ∃ s : MsgQueue Nat Nat, Reaches (MsgQueue.step (· + ·)) (MsgQueue.init 0)
    [.goOn, .send 3, .goOn, .send 2] s ∧ s.running = true ∧ s.state = 2 ∧ s.msgQueue = [3] ∧
      s.accepted = [2, 3] := by
  have facts : (runAll (MsgQueue.step (· + ·)) (MsgQueue.init 0 : MsgQueue Nat Nat)
      [.send 2, .goOn, .send 3, .goOn]).any (fun s => s.running = true ∧ s.state = 2 ∧ s.msgQueue = [3] ∧
        s.accepted = [2, 3]) = true := by decide +kernel
  obtain ⟨s, ran, shown⟩ := (Option.any_eq_true _ _).mp facts
  exact ⟨s, Reaches.of_runAll _ .start ran, of_decide_eq_true shown⟩

theorem handled_in_order_adding : ∃ s : MsgQueue Nat Nat, s.msgQueue = [3] ∧
    s.state = s.handled.foldl (· + ·) 0 ∧ s.accepted = [2, 3] := by
  obtain ⟨s, run, _, _, queue, accepted⟩ := adding_run
  exact ⟨s, queue, (handled_in_order run).2.1, accepted⟩

theorem all_handled_adding : ∃ s u : MsgQueue Nat Nat, s.msgQueue = [3] ∧ u.thread = .asleep ∧ u.state = 5 := by
  obtain ⟨s, run, running, _, queue, accepted⟩ := adding_run
  obtain ⟨rest, u, _, asleep, _, state⟩ := all_handled run running
  rw [accepted] at state
  exact ⟨s, u, queue, asleep, state⟩

end MsgQueue

end DbcNode
