import DbcNode.Coder.Coder

namespace DbcNode

def maxSendQueueMsgCount : Nat := 204800

/-- The sending half of a `tcp_socket_channel`. A call of `write` is in
`checked` after its look at the length of the queue, and in `starters` after
it has put the first message into the queue; `outstanding` counts the writes
that the socket has not completed. The last three fields are what has gone
in and out. -/
structure SendState where
  protos : Protos
  sendQueue : List Message
  sendBuf : ByteBuf
  checked : List Message
  starters : List Message
  outstanding : Nat
  stopped : Bool
  reported : Bool
  enqueued : List Message
  encodings : List (Message × Bytes)
  sent : Bytes

namespace SendState

def fresh : SendState := ⟨Protos.fresh, [], ByteBuf.fresh, [], [], 0, false, false, [], [], []⟩

/-- `on_error`: the error goes to the bus. -/
def onError (s : SendState) : SendState := { s with reported := true }

def asyncWrite (s : SendState) : SendState :=
  if s.stopped then s else { s with outstanding := s.outstanding + 1 }

/-- The encoding of a message into the send buffer, and the write of the
buffer. -/
def encodeAndWrite (snappy : Snappy) (ctx : Ctx) (msg : Message) (s : SendState) : SendState :=
  match Coder.encode snappy ctx msg ⟨s.protos, s.sendBuf⟩ with
  | (.ok .success, d) =>
    asyncWrite { s with protos := d.protos, sendBuf := d.buf, encodings := s.encodings ++ [(msg, d.buf.data)] }
  | (_, d) => onError { s with protos := d.protos, sendBuf := d.buf }

/-- The second locked section of `write`. -/
def push (msg : Message) (s : SendState) : SendState :=
  if s.sendQueue ≠ [] then { s with sendQueue := s.sendQueue ++ [msg], enqueued := s.enqueued ++ [msg] }
  else { s with sendQueue := [msg], enqueued := s.enqueued ++ [msg], starters := msg :: s.starters }

/-- The rest of `write` for the message that found the queue empty. -/
def start (snappy : Snappy) (ctx : Ctx) (msg : Message) (s : SendState) : SendState :=
  encodeAndWrite snappy ctx msg
    { s with sendBuf := if s.sendBuf.validReadLen > 0 then s.sendBuf.reset else s.sendBuf }

/-- The queue after its front was sent. An empty queue has no front. -/
def popFront (snappy : Snappy) (ctx : Ctx) (s : SendState) : SendState :=
  match s.sendQueue with
  | [] => onError s
  | [_] => { s with sendQueue := [] }
  | _ :: next :: rest => encodeAndWrite snappy ctx next { s with sendQueue := next :: rest }

/-- `on_write` for a completion of `n` bytes. -/
def onWrite (snappy : Snappy) (ctx : Ctx) (n : Nat) (s : SendState) : SendState :=
  if s.stopped then s
  else if n = 0 then asyncWrite s
  else if n < s.sendBuf.validReadLen then
    asyncWrite { s with sendBuf := s.sendBuf.advance n, sent := s.sent ++ s.sendBuf.data.take n }
  else if n = s.sendBuf.validReadLen then
    popFront snappy ctx { s with sendBuf := s.sendBuf.reset, sent := s.sent ++ s.sendBuf.data }
  else onError s

end SendState

/-- One step of a thread that writes, or of the thread that completes. Calls
of `write` interleave at their locked sections. -/
inductive SendStep (snappy : Snappy) : SendState → SendState → Prop
  | check {s : SendState} (msg : Message) (active : s.stopped = false)
      (room : s.sendQueue.length ≤ maxSendQueueMsgCount) : SendStep snappy s { s with checked := msg :: s.checked }
  | full {s : SendState} (msg : Message) (long : s.stopped = true ∨ s.sendQueue.length > maxSendQueueMsgCount) :
      SendStep snappy s s
  | push {s : SendState} (before after : List Message) (msg : Message) (waiting : s.checked =
    before ++ msg :: after) :
      SendStep snappy s (SendState.push msg { s with checked := before ++ after })
  | start {s : SendState} (before after : List Message) (ctx : Ctx) (msg : Message)
      (waiting : s.starters = before ++ msg :: after) :
      SendStep snappy s (SendState.start snappy ctx msg { s with starters := before ++ after })
  | complete {s : SendState} (pending : Nat) (ctx : Ctx) (n : Nat) (waiting : s.outstanding = pending + 1) :
      SendStep snappy s (SendState.onWrite snappy ctx n { s with outstanding := pending })
  | stop {s : SendState} : SendStep snappy s { s with stopped := true }

/-- The states of a channel up to the first error that it reports. -/
inductive Sends (snappy : Snappy) : SendState → Prop
  | start : Sends snappy SendState.fresh
  | next {s s' : SendState} (before : Sends snappy s) (quiet : s.reported = false) (step : SendStep snappy s s') :
      Sends snappy s'

/-- These are the bytes of the message: `encode` wrote them to an empty
buffer. -/
def Encodes (snappy : Snappy) (msg : Message) (bytes : Bytes) : Prop :=
  ∃ ctx d d', d.buf.data = [] ∧ Coder.encode snappy ctx msg d = (.ok .success, d') ∧ d'.buf.data = bytes

/-- What holds on a live channel. The one write that is going on is
outstanding, or a call of `write` is about to start it; the messages that
are not encoded wait in the queue, and the bytes that are not sent in the
buffer. -/
structure Pumping (snappy : Snappy) (s : SendState) : Prop where
  tally : s.starters.length + s.outstanding = if s.sendQueue = [] then 0 else 1
  front : ∀ msg ∈ s.starters, s.sendQueue.head? = some msg
  order : s.encodings.map Prod.fst ++ (if s.outstanding = 0 then s.sendQueue else s.sendQueue.tail) = s.enqueued
  bytes : s.sent ++ s.sendBuf.data = (s.encodings.map Prod.snd).flatten
  idle : s.outstanding = 0 → s.sendBuf.data = []
  encoded : ∀ entry ∈ s.encodings, Encodes snappy entry.1 entry.2

namespace Pumping
variable {snappy : Snappy} {s : SendState}

theorem fresh : Pumping snappy SendState.fresh :=
  ⟨rfl, fun _ member => (List.not_mem_nil member).elim, rfl, rfl, fun _ => rfl,
    fun _ member => (List.not_mem_nil member).elim⟩

theorem push (pumping : Pumping snappy s) (msg : Message) : Pumping snappy (SendState.push msg s) := by
  rw [SendState.push]
  split
  · rename_i some
    have tally := pumping.tally
    rw [if_neg some] at tally
    have longer : s.sendQueue ++ [msg] ≠ [] := by simp
    refine ⟨?_, ?_, ?_, pumping.bytes, pumping.idle, pumping.encoded⟩
    · rw [if_neg longer]
      exact tally
    · intro other member
      have head := pumping.front other member
      rw [List.head?_append, head]
      rfl
    · have order := pumping.order
      change _ ++ (if s.outstanding = 0 then s.sendQueue ++ [msg] else (s.sendQueue ++ [msg]).tail) =
        s.enqueued ++ [msg]
      rw [← order, List.append_assoc, List.tail_append_of_ne_nil some]
      split <;> rfl
  · rename_i empty
    rw [ne_eq, not_not] at empty
    have tally := pumping.tally
    have order := pumping.order
    rw [if_pos empty] at tally
    have idle : s.outstanding = 0 := by omega
    have none : s.starters = [] := List.eq_nil_of_length_eq_zero (by omega)
    rw [if_pos idle, empty, List.append_nil] at order
    refine ⟨?_, ?_, ?_, pumping.bytes, pumping.idle, pumping.encoded⟩
    · simp only [none, idle, List.length_singleton, if_neg (List.cons_ne_nil msg [])]
    · simp [none]
    · simp [idle, order]

/-- A message at the front of the queue is encoded into the empty buffer. -/
theorem encodeAndWrite {ctx : Ctx} {msg : Message} {rest : List Message} (queue : s.sendQueue = msg :: rest)
    (active : s.stopped = false) (none : s.starters = []) (idle : s.outstanding = 0) (empty : s.sendBuf.data = [])
    (order : s.encodings.map Prod.fst ++ s.sendQueue = s.enqueued)
    (bytes : s.sent = (s.encodings.map Prod.snd).flatten)
    (encoded : ∀ entry ∈ s.encodings, Encodes snappy entry.1 entry.2) :
    (SendState.encodeAndWrite snappy ctx msg s).reported = true ∨
      Pumping snappy (SendState.encodeAndWrite snappy ctx msg s) := by
  rw [SendState.encodeAndWrite]
  split
  · rename_i d ran
    right
    rw [SendState.asyncWrite, if_neg (by rw [active]; decide)]
    refine ⟨?_, ?_, ?_, ?_, ?_, ?_⟩
    · simp [none, idle, queue]
    · simp [none]
    · simp [idle, queue, ← order]
    · simp [bytes]
    · simp
    · intro entry member
      rcases List.mem_append.mp member with old | new
      · exact encoded entry old
      · rw [List.mem_singleton.mp new]
        exact ⟨ctx, ⟨s.protos, s.sendBuf⟩, d, empty, ran, rfl⟩
  · exact Or.inl rfl

theorem start (pumping : Pumping snappy s) (active : s.stopped = false) {before after : List Message} {ctx : Ctx}
    {msg : Message} (waiting : s.starters = before ++ msg :: after) :
    (SendState.start snappy ctx msg { s with starters := before ++ after }).reported = true ∨
      Pumping snappy (SendState.start snappy ctx msg { s with starters := before ++ after }) := by
  have head := pumping.front msg (by rw [waiting]; simp)
  obtain ⟨rest, queue⟩ : ∃ rest, s.sendQueue = msg :: rest := by
    cases whole : s.sendQueue with
    | nil =>
      rw [whole] at head
      cases head
    | cons first rest =>
      rw [whole] at head
      cases head
      exact ⟨rest, rfl⟩
  have tally := pumping.tally
  have order := pumping.order
  have bytes := pumping.bytes
  rw [waiting, if_neg (by rw [queue]; exact List.cons_ne_nil msg rest), List.length_append,
    List.length_cons] at tally
  have idle : s.outstanding = 0 := by omega
  have empty := pumping.idle idle
  have none : before ++ after = [] := by
    refine List.eq_nil_of_length_eq_zero ?_
    rw [List.length_append]
    omega
  rw [if_pos idle] at order
  rw [empty, List.append_nil] at bytes
  have kept : (if s.sendBuf.validReadLen > 0 then s.sendBuf.reset else s.sendBuf).data = [] := by
    split
    · rfl
    · exact empty
  exact encodeAndWrite queue active none idle kept order bytes pumping.encoded

theorem onWrite (pumping : Pumping snappy s) (active : s.stopped = false) {pending n : Nat} {ctx : Ctx}
    (waiting : s.outstanding = pending + 1) :
    (SendState.onWrite snappy ctx n { s with outstanding := pending }).reported = true ∨
      Pumping snappy (SendState.onWrite snappy ctx n { s with outstanding := pending }) := by
  have tally := pumping.tally
  have order := pumping.order
  have bytes := pumping.bytes
  have some : s.sendQueue ≠ [] := by
    intro empty
    rw [if_pos empty] at tally
    omega
  rw [if_neg some] at tally
  obtain rfl : pending = 0 := by omega
  have none : s.starters = [] := List.eq_nil_of_length_eq_zero (by omega)
  rw [if_neg (by omega)] at order
  have live : ¬ s.stopped = true := by rw [active]; decide
  rw [SendState.onWrite, if_neg live]
  split
  · -- nothing was sent, and the same bytes are written again
    right
    rw [SendState.asyncWrite, if_neg live]
    refine ⟨?_, pumping.front, ?_, bytes, fun idle => absurd idle (by simp), pumping.encoded⟩
    · simp [none, some]
    · simpa using order
  · split
    · right
      rw [SendState.asyncWrite, if_neg live]
      refine ⟨?_, pumping.front, ?_, ?_, fun idle => absurd idle (by simp), pumping.encoded⟩
      · simp [none, some]
      · simpa using order
      · change s.sent ++ s.sendBuf.data.take n ++ s.sendBuf.data.drop n = _
        rw [List.append_assoc, List.take_append_drop, bytes]
    · split
      · rw [SendState.popFront]
        split
        · exact Or.inl rfl
        · rename_i only queue
          have last : s.sendQueue = [only] := queue
          rw [last, List.tail_cons, List.append_nil] at order
          right
          refine ⟨?_, ?_, ?_, ?_, fun _ => rfl, pumping.encoded⟩
          · simp [none]
          · simp [none]
          · simpa using order
          · simpa using bytes
        · rename_i first next rest queue
          have more : s.sendQueue = first :: next :: rest := queue
          rw [more, List.tail_cons] at order
          exact encodeAndWrite rfl active none rfl rfl order bytes pumping.encoded
      · exact Or.inl rfl

end Pumping

/-- One step keeps a live channel going, unless it reports an error or
stops. -/
theorem SendStep.pumping {snappy : Snappy} {s s' : SendState} (step : SendStep snappy s s')
    (pumping : Pumping snappy s) (active : s.stopped = false) : s'.reported = true ∨ s'.stopped = true ∨
      Pumping snappy s' := by
  cases step with
  | check msg _ _ =>
    exact Or.inr (Or.inr ⟨pumping.tally, pumping.front, pumping.order, pumping.bytes, pumping.idle,
      pumping.encoded⟩)
  | full msg _ => exact Or.inr (Or.inr pumping)
  | push before after msg _ =>
    refine Or.inr (Or.inr (Pumping.push ?_ msg))
    exact ⟨pumping.tally, pumping.front, pumping.order, pumping.bytes, pumping.idle, pumping.encoded⟩
  | start before after ctx msg waiting => exact (pumping.start active waiting).imp_right Or.inr
  | complete pending ctx n waiting => exact (pumping.onWrite active waiting).imp_right Or.inr
  | stop => exact Or.inr (Or.inl rfl)

theorem SendState.asyncWrite_stopped (s : SendState) : s.asyncWrite.stopped = s.stopped := by
  rw [asyncWrite]
  split <;> rfl

theorem SendState.encodeAndWrite_stopped (snappy : Snappy) (ctx : Ctx) (msg : Message) (s : SendState) :
    (encodeAndWrite snappy ctx msg s).stopped = s.stopped := by
  rw [encodeAndWrite]
  split
  · rw [asyncWrite_stopped]
  · rfl

/-- A channel that has stopped stays so. -/
theorem SendStep.stopped {snappy : Snappy} {s s' : SendState} (step : SendStep snappy s s')
    (stopped : s.stopped = true) :
    s'.stopped = true := by
  cases step with
  | check msg _ _ => exact stopped
  | full msg _ => exact stopped
  | push before after msg _ =>
    rw [SendState.push]
    split <;> exact stopped
  | start before after ctx msg _ => rw [SendState.start, SendState.encodeAndWrite_stopped, stopped]
  | complete pending ctx n _ => rw [SendState.onWrite, if_pos stopped, stopped]
  | stop => rfl

theorem Sends.pumping {snappy : Snappy} {s : SendState} (run : Sends snappy s) :
    s.reported = true ∨ s.stopped = true ∨ Pumping snappy s := by
  induction run with
  | start => exact Or.inr (Or.inr Pumping.fresh)
  | @next s s' _ quiet step ih =>
    rcases ih with reported | stopped | pumping
    · rw [quiet] at reported
      cases reported
    · exact Or.inr (Or.inl (step.stopped stopped))
    · cases active : s.stopped with
      | true => exact Or.inr (Or.inl (step.stopped active))
      | false => exact step.pumping pumping active

/-- The messages are encoded once each and in the order in which they came,
what the socket has got is a beginning of their bytes, and a write is
outstanding when there is something to send, or a call of `write` is about
to start it. -/
theorem send_order {snappy : Snappy} {s : SendState} (run : Sends snappy s) (quiet : s.reported = false)
    (active : s.stopped = false) :
    s.sent <+: (s.encodings.map Prod.snd).flatten ∧
    (∀ entry ∈ s.encodings, Encodes snappy entry.1 entry.2) ∧
    s.encodings.map Prod.fst ++ (if s.outstanding = 0 then s.sendQueue else s.sendQueue.tail) = s.enqueued ∧
    s.outstanding ≤ 1 ∧
    (s.starters = [] → (s.outstanding = 1 ↔ s.sendQueue ≠ [])) ∧
    (s.starters ≠ [] → s.starters.length = 1 ∧ s.outstanding = 0 ∧ s.sendQueue ≠ []) := by
  rcases run.pumping with reported | stopped | pumping
  · rw [quiet] at reported
    cases reported
  · rw [active] at stopped
    cases stopped
  · have tally := pumping.tally
    refine ⟨⟨s.sendBuf.data, pumping.bytes⟩, pumping.encoded, pumping.order, ?_, fun none => ?_, fun some => ?_⟩
    · split at tally <;> omega
    · rw [none, List.length_nil] at tally
      by_cases empty : s.sendQueue = []
      · rw [if_pos empty] at tally
        exact ⟨fun one => absurd one (by omega), fun wrong => (wrong empty).elim⟩
      · rw [if_neg empty] at tally
        exact ⟨fun _ => empty, fun _ => by omega⟩
    · have positive := List.length_pos_of_ne_nil some
      by_cases empty : s.sendQueue = []
      · rw [if_pos empty] at tally
        omega
      · rw [if_neg empty] at tally
        exact ⟨by omega, by omega, empty⟩

/-- A message on its way to another node. -/
def passedOn : Message := ⟨binaryForwardMsg, .forward ⟨0, str "node_list_task_req", none, none, none, none⟩ [7]⟩

/-- One message is encoded, and three of its bytes are sent. -/
theorem send_order_partly_sent :
    ∃ s, Sends ⟨id, some⟩ s ∧ s.sent = [0, 0, 0] ∧ s.sent <+: (s.encodings.map Prod.snd).flatten := by
  have idle : Sends ⟨id, some⟩ SendState.fresh := Sends.start
  have checked := idle.next rfl (SendStep.check passedOn rfl (by decide))
  have pushed := checked.next rfl (SendStep.push [] [] passedOn rfl)
  have started := pushed.next rfl (SendStep.start [] [] ⟨false, 0, []⟩ passedOn rfl)
  have completed := started.next (by decide +kernel) (SendStep.complete 0 ⟨false, 0, []⟩ 3 (by decide +kernel))
  exact ⟨_, completed, by decide +kernel, (send_order completed (by decide +kernel) (by decide +kernel)).1⟩

end DbcNode
