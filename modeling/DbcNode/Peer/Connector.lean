import DbcNode.Lib.Runs

namespace DbcNode

inductive ClientConnectStatus
  | success
  | fail
  deriving DecidableEq

/-- What a connector asks of the io service and of the topics. -/
inductive ConnectorAct
  | asyncConnect
  | asyncWait (seconds : Nat)
  | connectNotify (status : ClientConnectStatus)
  deriving DecidableEq

/-- The connector; the handlers that the io service still has to call (of
`async_connect`, and of the timer), and whether it has been told to cancel
them; and what the connector has asked for so far. -/
structure TcpConnector where
  maxTimes : Nat
  connected : Bool
  reconnectTimes : Nat
  connecting : Nat
  waiting : Nat
  cancelled : Bool
  acts : List ConnectorAct
  deriving DecidableEq

/-- How an `async_connect` ends: with an error, or with a channel that does
not start, that the connection manager does not take, or that it takes. -/
inductive ConnectOutcome
  | aborted
  | error
  | notStarted
  | notAdded
  | added

inductive TimerOutcome
  | aborted
  | error
  | expired

inductive ConnectorEvent
  | stop
  | onConnect (outcome : ConnectOutcome)
  | onReconnectTimerExpired (outcome : TimerOutcome)

namespace TcpConnector

def reconnectInterval : Nat := 2

/-- `MAX_RECONNECT_TIMES` of a connector. -/
def maxReconnectTimes : Nat := 2

def asyncConnect (c : TcpConnector) : TcpConnector :=
  { c with connecting := c.connecting + 1, acts := c.acts ++ [.asyncConnect] }

def connectNotify (status : ClientConnectStatus) (c : TcpConnector) : TcpConnector :=
  { c with acts := c.acts ++ [.connectNotify status] }

/-- `start`; the number of retries is cut down to `MAX_RECONNECT_TIMES`. -/
def start (retry : Nat) : TcpConnector :=
  asyncConnect ⟨if retry > maxReconnectTimes then maxReconnectTimes else retry, false, 0, 0, 0, false, []⟩

def reconnect (c : TcpConnector) : TcpConnector :=
  if c.reconnectTimes < c.maxTimes then
    { c with
      reconnectTimes := c.reconnectTimes + 1
      waiting := c.waiting + 1
      acts := c.acts ++ [.asyncWait (reconnectInterval <<< (c.reconnectTimes + 1))] }
  else c.connectNotify .fail

def onConnect (outcome : ConnectOutcome) (c : TcpConnector) : TcpConnector :=
  match outcome with
  | .aborted => c
  | .error => c.reconnect
  | .notStarted => c.reconnect
  | .notAdded => c
  | .added => connectNotify .success { c with connected := true, reconnectTimes := 0 }

def onReconnectTimerExpired (outcome : TimerOutcome) (c : TcpConnector) : TcpConnector :=
  match outcome with
  | .aborted => c
  | .error => c
  | .expired => c.asyncConnect

/-- `stop`: what the io service has is cancelled, and the socket closed. -/
def stop (c : TcpConnector) : TcpConnector := if c.connected = true then c else { c with cancelled := true }

/-- The connector is stopped, or the io service calls one of the handlers. A
handler hears of `operation_aborted` only after a cancellation; one that was
already due may still hear of anything else. -/
def step (c : TcpConnector) : ConnectorEvent → Option TcpConnector
  | .stop => some c.stop
  | .onConnect .aborted =>
    if c.connecting = 0 ∨ c.cancelled = false then none
    else some (onConnect .aborted { c with connecting := c.connecting - 1 })
  | .onConnect outcome =>
    if c.connecting = 0 then none else some (onConnect outcome { c with connecting := c.connecting - 1 })
  | .onReconnectTimerExpired .aborted =>
    if c.waiting = 0 ∨ c.cancelled = false then none
    else some (onReconnectTimerExpired .aborted { c with waiting := c.waiting - 1 })
  | .onReconnectTimerExpired outcome =>
    if c.waiting = 0 then none else some (onReconnectTimerExpired outcome { c with waiting := c.waiting - 1 })

/-- What a connector asks for up to the attempt after so many failures. -/
def attempts : Nat → List ConnectorAct
  | 0 => [.asyncConnect]
  | failures + 1 => attempts failures ++ [.asyncWait (reconnectInterval <<< (failures + 1)), .asyncConnect]

/-- What can end a connector without a notice. -/
def Hush (trace : List ConnectorEvent) : Prop :=
  .stop ∈ trace ∨ .onConnect .notAdded ∈ trace ∨ .onReconnectTimerExpired .error ∈ trace

/-- Where a connector is: at an attempt, before the next one, given up
without a notice, or at its notice. -/
inductive Phase (limit : Nat) (trace : List ConnectorEvent) (c : TcpConnector) : Prop
  | trying (failures : Nat) (within : failures ≤ limit) (times : c.reconnectTimes = failures)
      (pending : c.connected = false ∧ c.connecting = 1 ∧ c.waiting = 0) (acts : c.acts = attempts failures)
  | resting (failures : Nat) (within : failures < limit) (times : c.reconnectTimes = failures + 1)
      (pending : c.connected = false ∧ c.connecting = 0 ∧ c.waiting = 1)
      (acts : c.acts = attempts failures ++ [.asyncWait (reconnectInterval <<< (failures + 1))])
  | silent (hush : Hush trace) (pending : c.connected = false ∧ c.connecting = 0 ∧ c.waiting = 0)
      (acts : (∃ failures, failures ≤ limit ∧ c.acts = attempts failures) ∨
        ∃ failures, failures < limit ∧
          c.acts = attempts failures ++ [.asyncWait (reconnectInterval <<< (failures + 1))])
  | succeeded (failures : Nat) (within : failures ≤ limit)
      (pending : c.connected = true ∧ c.connecting = 0 ∧ c.waiting = 0)
      (acts : c.acts = attempts failures ++ [.connectNotify .success])
  | failed (pending : c.connected = false ∧ c.connecting = 0 ∧ c.waiting = 0)
      (acts : c.acts = attempts limit ++ [.connectNotify .fail])

/-- A connector within its phase, which is cancelled only by a `stop`. -/
structure Running (limit : Nat) (trace : List ConnectorEvent) (c : TcpConnector) : Prop where
  maxTimes : c.maxTimes = limit
  cancelled : c.cancelled = true → .stop ∈ trace
  phase : Phase limit trace c

variable {c d : TcpConnector} {limit retry : Nat} {trace : List ConnectorEvent} {event : ConnectorEvent}

theorem Hush.mono (hush : Hush trace) (event : ConnectorEvent) : Hush (event :: trace) := by
  rcases hush with stopped | refused | broken
  · exact Or.inl (List.mem_cons_of_mem _ stopped)
  · exact Or.inr (Or.inl (List.mem_cons_of_mem _ refused))
  · exact Or.inr (Or.inr (List.mem_cons_of_mem _ broken))

theorem Running.start (retry : Nat) : Running (min retry maxReconnectTimes) [] (start retry) := by
  refine ⟨?_, fun stopped => Bool.noConfusion stopped, .trying 0 (Nat.zero_le _) rfl ⟨rfl, rfl, rfl⟩ rfl⟩
  change (if retry > maxReconnectTimes then maxReconnectTimes else retry) = min retry maxReconnectTimes
  split
  · rename_i many
    exact (Nat.min_eq_right many.le).symm
  · rename_i few
    exact (Nat.min_eq_left (Nat.le_of_not_lt few)).symm

/-- Only an attempt has a handler of `async_connect`. -/
theorem Phase.attempt (phase : Phase limit trace c) (some : c.connecting ≠ 0) :
    ∃ failures, failures ≤ limit ∧ c.reconnectTimes = failures ∧ c.connected = false ∧ c.connecting = 1 ∧
      c.waiting = 0 ∧ c.acts = attempts failures := by
  cases phase with
  | trying failures within times pending acts =>
    exact ⟨failures, within, times, pending.1, pending.2.1, pending.2.2, acts⟩
  | resting _ _ _ pending _ => exact (some pending.2.1).elim
  | silent _ pending _ => exact (some pending.2.1).elim
  | succeeded _ _ pending _ => exact (some pending.2.1).elim
  | failed pending _ => exact (some pending.2.1).elim

theorem Phase.rest (phase : Phase limit trace c) (some : c.waiting ≠ 0) :
    ∃ failures, failures < limit ∧ c.reconnectTimes = failures + 1 ∧ c.connected = false ∧ c.connecting = 0 ∧
      c.waiting = 1 ∧ c.acts = attempts failures ++ [.asyncWait (reconnectInterval <<< (failures + 1))] := by
  cases phase with
  | resting failures within times pending acts =>
    exact ⟨failures, within, times, pending.1, pending.2.1, pending.2.2, acts⟩
  | trying _ _ _ pending _ => exact (some pending.2.2).elim
  | silent _ pending _ => exact (some pending.2.2).elim
  | succeeded _ _ pending _ => exact (some pending.2.2).elim
  | failed pending _ => exact (some pending.2.2).elim

/-- A failed attempt is followed by a rest, or by the notice. -/
theorem Phase.reconnect {failures : Nat} (within : failures ≤ limit) (max : c.maxTimes = limit)
    (times : c.reconnectTimes = failures) (pending : c.connected = false ∧ c.connecting = 0 ∧ c.waiting = 0)
    (acts : c.acts = attempts failures) : Phase limit trace c.reconnect := by
  rw [TcpConnector.reconnect, max, times]
  split
  · rename_i more
    refine .resting failures more rfl ⟨pending.1, pending.2.1, ?_⟩ (by simp only [acts])
    simp only [pending.2.2]
  · rename_i enough
    obtain rfl : failures = limit := by omega
    exact .failed pending (by simp only [TcpConnector.connectNotify, acts])

theorem reconnect_keeps (c : TcpConnector) :
    c.reconnect.maxTimes = c.maxTimes ∧ c.reconnect.cancelled = c.cancelled := by
  rw [TcpConnector.reconnect]
  split
  · exact ⟨rfl, rfl⟩
  · exact ⟨rfl, rfl⟩

theorem Running.onConnect (running : Running limit trace c) (some : c.connecting ≠ 0) {outcome : ConnectOutcome}
    (hush : outcome = .aborted ∨ outcome = .notAdded → Hush (.onConnect outcome :: trace)) :
    Running limit (.onConnect outcome :: trace) (onConnect outcome { c with connecting := c.connecting - 1 }) := by
  obtain ⟨failures, within, times, connected, one, waiting, acts⟩ := running.phase.attempt some
  have stopped : c.cancelled = true → .stop ∈ ConnectorEvent.onConnect outcome :: trace :=
    fun cancelled => List.mem_cons_of_mem _ (running.cancelled cancelled)
  have none : c.connecting - 1 = 0 := by omega
  have again : Running limit (.onConnect outcome :: trace)
      (TcpConnector.reconnect { c with connecting := c.connecting - 1 }) := by
    obtain ⟨kept, kept'⟩ := reconnect_keeps { c with connecting := c.connecting - 1 }
    exact ⟨kept.trans running.maxTimes, fun cancelled => stopped (kept' ▸ cancelled),
      .reconnect within running.maxTimes times ⟨connected, none, waiting⟩ acts⟩
  cases outcome with
  | aborted =>
    exact ⟨running.maxTimes, stopped, .silent (hush (Or.inl rfl)) ⟨connected, none, waiting⟩
      (Or.inl ⟨failures, within, acts⟩)⟩
  | error => exact again
  | notStarted => exact again
  | notAdded =>
    exact ⟨running.maxTimes, stopped, .silent (hush (Or.inr rfl)) ⟨connected, none, waiting⟩
      (Or.inl ⟨failures, within, acts⟩)⟩
  | added =>
    refine ⟨running.maxTimes, stopped, .succeeded failures within ⟨rfl, none, waiting⟩ ?_⟩
    simp only [TcpConnector.onConnect, connectNotify, acts]

theorem Running.onReconnectTimerExpired (running : Running limit trace c) (some : c.waiting ≠ 0)
    {outcome : TimerOutcome}
    (hush : outcome = .aborted ∨ outcome = .error → Hush (.onReconnectTimerExpired outcome :: trace)) :
    Running limit (.onReconnectTimerExpired outcome :: trace)
      (onReconnectTimerExpired outcome { c with waiting := c.waiting - 1 }) := by
  obtain ⟨failures, within, times, connected, connecting, one, acts⟩ := running.phase.rest some
  have stopped : c.cancelled = true → .stop ∈ ConnectorEvent.onReconnectTimerExpired outcome :: trace :=
    fun cancelled => List.mem_cons_of_mem _ (running.cancelled cancelled)
  have none : c.waiting - 1 = 0 := by omega
  cases outcome with
  | aborted =>
    exact ⟨running.maxTimes, stopped, .silent (hush (Or.inl rfl)) ⟨connected, connecting, none⟩
      (Or.inr ⟨failures, within, acts⟩)⟩
  | error =>
    exact ⟨running.maxTimes, stopped, .silent (hush (Or.inr rfl)) ⟨connected, connecting, none⟩
      (Or.inr ⟨failures, within, acts⟩)⟩
  | expired =>
    refine ⟨running.maxTimes, stopped, .trying (failures + 1) within times ⟨connected, ?_, none⟩ ?_⟩
    · simp only [TcpConnector.onReconnectTimerExpired, asyncConnect, connecting]
    · simp only [TcpConnector.onReconnectTimerExpired, asyncConnect, acts, attempts, List.append_assoc,
        List.cons_append, List.nil_append]

/-- A step without an outcome of its own. -/
theorem Running.stop (running : Running limit trace c) : Running limit (.stop :: trace) c.stop := by
  have phase : Phase limit (.stop :: trace) c := by
    cases running.phase with
    | trying failures within times pending acts => exact .trying failures within times pending acts
    | resting failures within times pending acts => exact .resting failures within times pending acts
    | silent hush pending acts => exact .silent (hush.mono _) pending acts
    | succeeded failures within pending acts => exact .succeeded failures within pending acts
    | failed pending acts => exact .failed pending acts
  rw [TcpConnector.stop]
  split
  · exact ⟨running.maxTimes, fun _ => List.mem_cons_self, phase⟩
  · refine ⟨running.maxTimes, fun _ => List.mem_cons_self, ?_⟩
    cases phase with
    | trying failures within times pending acts => exact .trying failures within times pending acts
    | resting failures within times pending acts => exact .resting failures within times pending acts
    | silent hush pending acts => exact .silent hush pending acts
    | succeeded failures within pending acts => exact .succeeded failures within pending acts
    | failed pending acts => exact .failed pending acts

theorem Running.step (running : Running limit trace c) (ran : c.step event = some d) :
    Running limit (event :: trace) d := by
  cases event with
  | stop =>
    cases ran
    exact running.stop
  | onConnect outcome =>
    by_cases aborted : outcome = .aborted
    · rw [aborted, TcpConnector.step] at ran
      split at ran
      · cases ran
      rename_i pending
      cases ran
      obtain ⟨some, cancelled⟩ := not_or.mp pending
      rw [aborted]
      exact running.onConnect some fun _ =>
        Or.inl (List.mem_cons_of_mem _ (running.cancelled (by simpa using cancelled)))
    · rw [TcpConnector.step] at ran
      · split at ran
        · cases ran
        rename_i some
        cases ran
        exact running.onConnect some fun quiet => Or.inr (Or.inl (quiet.resolve_left aborted ▸ List.mem_cons_self))
      · exact aborted
  | onReconnectTimerExpired outcome =>
    by_cases aborted : outcome = .aborted
    · rw [aborted, TcpConnector.step] at ran
      split at ran
      · cases ran
      rename_i pending
      cases ran
      obtain ⟨some, cancelled⟩ := not_or.mp pending
      rw [aborted]
      exact running.onReconnectTimerExpired some fun _ =>
        Or.inl (List.mem_cons_of_mem _ (running.cancelled (by simpa using cancelled)))
    · rw [TcpConnector.step] at ran
      · split at ran
        · cases ran
        rename_i some
        cases ran
        exact running.onReconnectTimerExpired some fun quiet =>
          Or.inr (Or.inr (quiet.resolve_left aborted ▸ List.mem_cons_self))
      · exact aborted

theorem Running.run (run : Reaches TcpConnector.step (TcpConnector.start retry) trace c) :
    Running (min retry maxReconnectTimes) trace c :=
  run.history (Running.start retry) fun running _ ran => running.step ran

theorem notify_not_mem_attempts (failures : Nat) (status : ClientConnectStatus) :
    .connectNotify status ∉ attempts failures := by
  induction failures with
  | zero => simp [attempts]
  | succ failures ih => simp [attempts, ih]

theorem attempts_wait_le (failures : Nat) :
    attempts failures ++ [.asyncWait (reconnectInterval <<< (failures + 1))] <+: attempts (failures + 1) :=
  ⟨[.asyncConnect], by rw [attempts, List.append_assoc]; rfl⟩

theorem attempts_count (failures : Nat) : (attempts failures).count .asyncConnect = failures + 1 := by
  induction failures with
  | zero => rfl
  | succ failures ih => simp [attempts, ih]

/-- What has been asked for is the beginning of the attempts and of a notice
after them. -/
theorem Phase.scheduled (phase : Phase limit trace c) :
    ∃ failures status, failures ≤ limit ∧ (status = .fail → failures = limit) ∧
      c.acts <+: attempts failures ++ [.connectNotify status] := by
  have during : ∀ failures, failures ≤ limit → c.acts = attempts failures → ∃ failures status, failures ≤ limit ∧
      (status = .fail → failures = limit) ∧ c.acts <+: attempts failures ++ [.connectNotify status] := by
    intro failures within acts
    exact ⟨failures, .success, within, fun fail => ClientConnectStatus.noConfusion fail,
      acts ▸ List.prefix_append _ _⟩
  have between : ∀ failures, failures < limit →
      c.acts = attempts failures ++ [.asyncWait (reconnectInterval <<< (failures + 1))] → ∃ failures status,
      failures ≤ limit ∧ (status = .fail → failures = limit) ∧
        c.acts <+: attempts failures ++ [.connectNotify status] := by
    intro failures within acts
    exact ⟨failures + 1, .success, within, fun fail => ClientConnectStatus.noConfusion fail,
      acts ▸ (attempts_wait_le failures).trans (List.prefix_append _ _)⟩
  cases phase with
  | trying failures within _ _ acts => exact during failures within acts
  | resting failures within _ _ acts => exact between failures within acts
  | silent _ _ acts =>
    rcases acts with ⟨failures, within, acts⟩ | ⟨failures, within, acts⟩
    · exact during failures within acts
    · exact between failures within acts
  | succeeded failures within _ acts =>
    exact ⟨failures, .success, within, fun fail => ClientConnectStatus.noConfusion fail, acts ▸ List.prefix_rfl⟩
  | failed _ acts => exact ⟨limit, .fail, le_rfl, fun _ => rfl, acts ▸ List.prefix_rfl⟩

/-- There are at most `retry + 1` attempts, and no more than three, with
rests of four and eight seconds in between; after that there is one notice,
which says whether there is a connection. The io service never has more than
one handler to call, and none after the notice; and it has one until the
notice unless the connector was stopped, its timer failed, or the connection
manager refused the channel. -/
theorem schedule_of_run (run : Reaches TcpConnector.step (TcpConnector.start retry) trace c) :
    (∃ failures status, failures ≤ min retry maxReconnectTimes ∧
      (status = .fail → failures = min retry maxReconnectTimes) ∧
      c.acts <+: attempts failures ++ [.connectNotify status]) ∧
    c.acts.count .asyncConnect ≤ min retry maxReconnectTimes + 1 ∧
    (c.connected = true ↔ .connectNotify .success ∈ c.acts) ∧ c.connecting + c.waiting ≤ 1 ∧
    (c.connecting + c.waiting = 1 → ∀ status, .connectNotify status ∉ c.acts) ∧
    (c.connecting + c.waiting = 0 → (∀ status, .connectNotify status ∉ c.acts) → Hush trace) := by
  have phase := (Running.run run).phase
  obtain ⟨failures, status, within, last, part⟩ := phase.scheduled
  have few : c.acts.count .asyncConnect ≤ min retry maxReconnectTimes + 1 := by
    have count := part.sublist.count_le ConnectorAct.asyncConnect
    rw [List.count_append, attempts_count] at count
    have none : [ConnectorAct.connectNotify status].count .asyncConnect = 0 := by simp
    omega
  refine ⟨⟨failures, status, within, last, part⟩, few, ?_⟩
  have apart : ∀ failures status, ConnectorAct.connectNotify status ∉
      attempts failures ++ [.asyncWait (reconnectInterval <<< (failures + 1))] := by
    intro failures status member
    rcases List.mem_append.mp member with early | wait
    · exact notify_not_mem_attempts failures status early
    · cases List.mem_singleton.mp wait
  cases phase with
  | trying failures _ _ pending acts =>
    obtain ⟨connected, connecting, waiting⟩ := pending
    rw [connected, connecting, waiting, acts]
    refine ⟨⟨fun no => Bool.noConfusion no, fun told => (notify_not_mem_attempts _ _ told).elim⟩, le_rfl,
      fun _ => notify_not_mem_attempts _, fun idle => (Nat.one_ne_zero idle).elim⟩
  | resting failures _ _ pending acts =>
    obtain ⟨connected, connecting, waiting⟩ := pending
    rw [connected, connecting, waiting, acts]
    refine ⟨⟨fun no => Bool.noConfusion no, fun told => (apart _ _ told).elim⟩, le_rfl, fun _ => apart _,
      fun idle => (Nat.one_ne_zero idle).elim⟩
  | silent hush pending acts =>
    obtain ⟨connected, connecting, waiting⟩ := pending
    have quiet : ∀ status, ConnectorAct.connectNotify status ∉ c.acts := by
      intro status
      rcases acts with ⟨failures, _, acts⟩ | ⟨failures, _, acts⟩
      · rw [acts]
        exact notify_not_mem_attempts failures status
      · rw [acts]
        exact apart failures status
    rw [connected, connecting, waiting]
    exact ⟨⟨fun no => Bool.noConfusion no, fun told => (quiet _ told).elim⟩, Nat.zero_le 1,
      fun busy => (Nat.zero_ne_one busy).elim, fun _ _ => hush⟩
  | succeeded failures _ pending acts =>
    obtain ⟨connected, connecting, waiting⟩ := pending
    have told : ConnectorAct.connectNotify .success ∈ c.acts := by
      rw [acts]
      exact List.mem_append_right _ List.mem_cons_self
    rw [connected, connecting, waiting]
    exact ⟨⟨fun _ => told, fun _ => rfl⟩, Nat.zero_le 1, fun busy => (Nat.zero_ne_one busy).elim,
      fun _ quiet => (quiet _ told).elim⟩
  | failed pending acts =>
    obtain ⟨connected, connecting, waiting⟩ := pending
    rw [connected, connecting, waiting, acts]
    refine ⟨⟨fun no => Bool.noConfusion no, fun told => ?_⟩, Nat.zero_le 1,
      fun busy => (Nat.zero_ne_one busy).elim, fun _ quiet => ?_⟩
    · rcases List.mem_append.mp told with early | last
      · exact (notify_not_mem_attempts _ _ early).elim
      · cases List.mem_singleton.mp last
    · exact (quiet .fail (List.mem_append_right _ List.mem_cons_self)).elim

/-- A connector that is told to retry five times, and fails. -/
theorem schedule_of_run_failing : ∃ trace c, Reaches TcpConnector.step (TcpConnector.start 5) trace c ∧
    c.acts = [.asyncConnect, .asyncWait 4, .asyncConnect, .asyncWait 8, .asyncConnect, .connectNotify .fail] ∧
    (c.connected = true ↔ .connectNotify .success ∈ c.acts) := by
  have facts : (runAll TcpConnector.step (TcpConnector.start 5) [.onConnect .error,
    .onReconnectTimerExpired .expired,
      .onConnect .notStarted, .onReconnectTimerExpired .expired, .onConnect .error]).any (fun c => c.acts =
        [.asyncConnect, .asyncWait 4, .asyncConnect, .asyncWait 8, .asyncConnect, .connectNotify .fail]) =
          true := by
    decide +kernel
  obtain ⟨c, ran, acts⟩ := (Option.any_eq_true _ _).mp facts
  have run := Reaches.of_runAll _ .start ran
  exact ⟨_, c, run, of_decide_eq_true acts, (schedule_of_run run).2.2.1⟩

end TcpConnector

end DbcNode
