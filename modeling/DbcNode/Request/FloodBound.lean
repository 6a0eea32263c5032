import DbcNode.Request.Checks
import DbcNode.Request.Flood
import DbcNode.Request.Replay
import DbcNode.Request.Threshold

namespace DbcNode

/-- No nonce was recorded while it was among the last ones. -/
def Spaced : List Bytes → Prop
  | [] => True
  | nonce :: log => nonce ∉ log.take filterElements ∧ Spaced log

/-- The number of other nonces that were recorded after a nonce was
first. -/
def othersSince (nonce : Bytes) : List Bytes → Nat
  | [] => 0
  | last :: log => if nonce ∈ log then othersSince nonce log + (if last = nonce then 0 else 1) else 0

/-- A nonce that was recorded once is no deeper than the others after it. -/
theorem mem_take_othersSince {nonce : Bytes} {log : List Bytes} (member : nonce ∈ log)
    (once : log.count nonce ≤ 1) :
    nonce ∈ log.take (othersSince nonce log + 1) := by
  induction log with
  | nil => cases member
  | cons last log ih =>
    rw [othersSince]
    by_cases same : last = nonce
    · rw [List.take_succ_cons, same]
      exact List.mem_cons_self
    · have later : nonce ∈ log := (List.mem_cons.mp member).resolve_left (fun equal => same equal.symm)
      have fewer : log.count nonce ≤ 1 := by rwa [List.count_cons_of_ne (by simpa using same)] at once
      rw [if_pos later, if_neg same, List.take_succ_cons]
      exact List.mem_cons_of_mem _ (ih later fewer)

theorem othersSince_le_cons (nonce last : Bytes) (log : List Bytes) :
    othersSince nonce log ≤ othersSince nonce (last :: log) := by
  rw [othersSince]
  by_cases member : nonce ∈ log
  · rw [if_pos member]
    omega
  · rw [if_neg member]
    cases log with
    | nil => exact Nat.le_refl _
    | cons other log => rw [othersSince, if_neg (fun later => member (List.mem_cons_of_mem _ later))]

/-- As long as fewer others follow than the filter is made for, a nonce is
recorded once. -/
theorem Spaced.count_le_one {nonce : Bytes} {log : List Bytes} (spaced : Spaced log)
    (few : othersSince nonce log < filterElements) : log.count nonce ≤ 1 := by
  induction log with
  | nil => simp
  | cons last log ih =>
    have fewBefore : othersSince nonce log < filterElements := (othersSince_le_cons nonce last log).trans_lt few
    have once := ih spaced.2 fewBefore
    by_cases same : last = nonce
    · have new : nonce ∉ log := by
        intro member
        have recent := mem_take_othersSince member once
        refine spaced.1 ?_
        rw [same]
        exact List.take_subset_take_left log (Nat.succ_le_of_lt fewBefore) recent
      rw [same, List.count_cons_self, List.count_eq_zero.mpr new]
    · rw [List.count_cons_of_ne (by simpa using same)]
      exact once

namespace Gate
variable {B : Bloom}

theorem Passes.spaced (lasting : B.Lasting) {g next : Gate B} (passes : Passes g next) (kept : g.Kept)
    (spaced : Spaced g.recorded) : Spaced next.recorded := by
  induction passes with
  | refl _ => exact spaced
  | @record g nonce some unseen =>
    refine ⟨fun recent => ?_, spaced⟩
    rw [kept.seen lasting some recent] at unseen
    cases unseen
  | accept _ => exact spaced
  | createSessionId wallet signers sessionId g =>
    rw [Gate.createSessionId]
    split
    · exact spaced
    · exact spaced
  | trans first _ ihFirst ihSecond => exact ihSecond (first.follows.kept kept) (ihFirst kept spaced)

/-- What a handler can do: it drops a message after some checks, or the
nonce of the header is recorded first. -/
def Handles (nonce : Bytes) (g : Gate B) (outcome : Verdict × Gate B) : Prop :=
  (outcome.1 = .dropped ∧ Passes g outcome.2) ∨
    (nonce ≠ [] ∧ (g.seen nonce).1 = false ∧ Passes ((g.record nonce).accept [nonce]) outcome.2)

theorem onNodeRequest_handles (c : FloodConf) (chain : ChainView) (made name : Bytes) (header : BaseHeader)
    (body : Bytes) (g : Gate B) :
    Handles (header.nonce.getD []) g (g.onNodeRequest c chain made name header body) := by
  rcases checkReqHeaderNonce_cases c.env (header.nonce.getD []) g with ran | ⟨⟨some, unseen⟩, ran⟩
  · left
    simp only [onNodeRequest, ran, if_true, true_and]
    exact .refl g
  right
  refine ⟨some, unseen, ?_⟩
  simp only [onNodeRequest, ran, Bool.true_eq_false, if_false]
  split
  · exact .refl _
  split
  · exact .refl _
  split
  · exact .refl _
  split
  · exact .refl _
  split
  · exact .refl _
  split
  · exact .refl _
  · exact checkAuthority_passes c.env chain _ made _

theorem onNetServiceBroadcastReq_handles (c : FloodConf) (header : BaseHeader) (g : Gate B) :
    Handles (header.nonce.getD []) g (g.onNetServiceBroadcastReq c header) := by
  rcases checkReqHeaderNonce_cases c.env (header.nonce.getD []) g with ran | ⟨⟨some, unseen⟩, ran⟩
  · left
    simp only [onNetServiceBroadcastReq, ran, if_true, true_and]
    exact .refl g
  right
  refine ⟨some, unseen, ?_⟩
  simp only [onNetServiceBroadcastReq, ran, Bool.true_eq_false, if_false]
  split
  · exact .refl _
  split
  · exact .refl _
  · exact .refl _

end Gate

namespace FloodNode
variable {N : Type} {B : Bloom} {c : FloodConf} {node : FloodNode N B}

/-- What holds of a node: every request that was handled had its nonce
recorded for it, socket ids have a number, and nothing was broadcast to
where it came from. -/
structure Bounded (node : FloodNode N B) : Prop where
  kept : node.gate.Kept
  spaced : Spaced node.gate.recorded
  logged : (node.handled.map (·.nonce)).Sublist node.gate.recorded
  numbered : ∀ channel ∈ node.channels, channel.1.id ≠ 0
  queued : ∀ entry ∈ node.inbox, entry.1.id ≠ 0
  away : ∀ entry ∈ node.handled, ∀ written, entry.broadcast = some written → entry.srcSid ∉ written

theorem Bounded.fresh : Bounded (fresh : FloodNode N B) where
  kept := ⟨NonceFilter.Logs.fresh, fun nonce member => (by cases member)⟩
  spaced := trivial
  logged := List.Sublist.slnil
  numbered channel member := by cases member
  queued entry member := by cases member
  away entry member := by cases member

/-- The channels and the queue change. -/
theorem Bounded.carry (bounded : Bounded node) {curIdx : Nat} {channels : List (SocketId × FloodPort N B)}
    {inbox : List (SocketId × Message)} (numbered : ∀ channel ∈ channels, channel.1.id ≠ 0)
    (queued : ∀ entry ∈ inbox, entry.1.id ≠ 0) : Bounded { node with curIdx, channels, inbox } :=
  { bounded with numbered, queued }

theorem Bounded.updateChannel (bounded : Bounded node) (sid : SocketId) (f : FloodPort N B → FloodPort N B) :
    Bounded (node.updateChannel sid f) := by
  refine bounded.carry ?_ bounded.queued
  intro channel member
  obtain ⟨before, old, rfl⟩ := List.mem_map.mp member
  have positive := bounded.numbered before old
  split
  · exact positive
  · exact positive

theorem Bounded.addChannel (bounded : Bounded node) (type : SocketType) (peer : N × SocketId) :
    Bounded (node.addChannel type peer) := by
  refine bounded.carry ?_ bounded.queued
  intro channel member
  rcases List.mem_append.mp member with old | new
  · exact bounded.numbered channel old
  · rw [List.mem_singleton.mp new]
    exact Nat.succ_ne_zero _

theorem broadcastMessage_written (msg : Message) (sid : SocketId) (node : FloodNode N B) (numbered : sid.id ≠ 0) :
    sid ∉ (node.broadcastMessage msg sid).1 := by
  rw [broadcastMessage]
  split
  · exact List.not_mem_nil
  split
  · exact List.not_mem_nil
  intro member
  obtain ⟨channel, chosen, same⟩ := List.mem_map.mp member
  have allowed := (List.mem_filter.mp chosen).2
  rw [broadcastTo, decide_eq_true_iff] at allowed
  exact allowed.1 ⟨numbered, same⟩

theorem Bounded.broadcastMessage (bounded : Bounded node) (msg : Message) (sid : SocketId) :
    Bounded (node.broadcastMessage msg sid).2 := by
  rw [FloodNode.broadcastMessage]
  split
  · exact bounded
  split
  · exact bounded
  refine bounded.carry ?_ bounded.queued
  intro channel member
  obtain ⟨before, old, rfl⟩ := List.mem_map.mp member
  have positive := bounded.numbered before old
  split
  · exact positive
  · exact positive

theorem broadcastMessage_frame (msg : Message) (sid : SocketId) (node : FloodNode N B) :
    (node.broadcastMessage msg sid).2.handled = node.handled ∧ (node.broadcastMessage msg sid).2.gate =
      node.gate := by
  rw [FloodNode.broadcastMessage]
  split
  · exact ⟨rfl, rfl⟩
  split
  · exact ⟨rfl, rfl⟩
  · exact ⟨rfl, rfl⟩

theorem Bounded.pass (lasting : B.Lasting) (bounded : Bounded node) {gate : Gate B}
    (passes : Gate.Passes node.gate gate) : Bounded { node with gate } :=
  { bounded with
    kept := passes.follows.kept bounded.kept
    spaced := passes.spaced lasting bounded.kept bounded.spaced
    logged := bounded.logged.trans passes.follows.recorded.sublist }

/-- One more request is handled, whose nonce the handler has recorded for
it. -/
theorem Bounded.handling (bounded : Bounded node) {entry : Handling}
    (logged : ((entry :: node.handled).map (·.nonce)).Sublist node.gate.recorded)
    (away : ∀ written, entry.broadcast = some written → entry.srcSid ∉ written) :
    Bounded { node with handled := entry :: node.handled } :=
  { bounded with
    logged
    away := by
      intro other member
      rcases List.mem_cons.mp member with rfl | old
      · exact away
      · exact bounded.away other old }

theorem Bounded.handle (lasting : B.Lasting) (bounded : Bounded node) (chain : ChainView) (made : Bytes)
    {sid : SocketId} (numbered : sid.id ≠ 0) (msg : Message) : Bounded (node.handle c chain made sid msg) := by
  have handles : Gate.Handles (msg.content.header.nonce.getD []) node.gate
      (if msg.name = serviceBroadcastName then node.gate.onNetServiceBroadcastReq c msg.content.header
        else node.gate.onNodeRequest c chain made msg.name msg.content.header msg.content.data) := by
    split
    · exact Gate.onNetServiceBroadcastReq_handles c msg.content.header node.gate
    · exact Gate.onNodeRequest_handles c chain made msg.name msg.content.header msg.content.data node.gate
  rw [FloodNode.handle]
  generalize (if msg.name = serviceBroadcastName then node.gate.onNetServiceBroadcastReq c msg.content.header
    else node.gate.onNodeRequest c chain made msg.name msg.content.header msg.content.data) = outcome at handles ⊢
  obtain ⟨verdict, gate⟩ := outcome
  rcases handles with ⟨dropped, passes⟩ | ⟨some, unseen, passes⟩
  · cases dropped
    exact bounded.pass lasting passes
  have passed := bounded.pass lasting ((Gate.Passes.take some unseen).trans passes)
  have logged : (msg.content.header.nonce.getD [] :: node.handled.map (·.nonce)).Sublist gate.recorded :=
    (bounded.logged.cons_cons _).trans passes.follows.recorded.sublist
  cases verdict with
  | dropped => exact passed
  | executed => exact passed.handling logged (fun written none => (by cases none))
  | forwarded =>
    obtain ⟨handled, sameGate⟩ := broadcastMessage_frame (msg.pushPath c.env.nodeId) sid { node with gate }
    refine (passed.broadcastMessage (msg.pushPath c.env.nodeId) sid).handling ?_ ?_
    · rw [List.map_cons, handled, sameGate]
      exact logged
    · intro written same
      cases same
      exact broadcastMessage_written _ sid _ numbered

theorem getChannel_mem {sid : SocketId} {port : FloodPort N B} (found : node.getChannel sid = some port) :
    (sid, port) ∈ node.channels := by
  obtain ⟨channel, there, rfl⟩ := Option.map_eq_some_iff.mp found
  have same : channel.1 = sid := by simpa using List.find?_some there
  have member := List.mem_of_find?_eq_some there
  rwa [← same]

theorem Bounded.receive (bounded : Bounded node) {sid : SocketId} {msg : Message} {after : FloodNode N B}
    (ran : node.receive c sid msg = some after) : Bounded after := by
  obtain ⟨port, found, same⟩ := Option.bind_eq_some_iff.mp ran
  cases same
  refine (bounded.updateChannel sid _).carry (bounded.updateChannel sid _).numbered ?_
  intro entry member
  rcases List.mem_append.mp member with old | new
  · exact bounded.queued entry old
  · obtain ⟨_, _, rfl⟩ := List.mem_map.mp new
    exact bounded.numbered _ (getChannel_mem found)

theorem Bounded.transmit (bounded : Bounded node) {sid : SocketId} {sent : N × SocketId × Message}
    {after : FloodNode N B} (ran : node.transmit sid = some (sent, after)) : Bounded after := by
  obtain ⟨port, _, rest⟩ := Option.bind_eq_some_iff.mp ran
  obtain ⟨msg, _, same⟩ := Option.bind_eq_some_iff.mp rest
  cases same
  exact bounded.updateChannel sid _

end FloodNode

namespace Flood
variable {N : Type} [DecidableEq N] {B : Bloom} {c : N → FloodConf} {s t : Flood N B}

theorem setNode_bounded (all : ∀ n, (s.nodes n).Bounded) {n : N} {node : FloodNode N B}
    (bounded : node.Bounded) (m : N) : ((s.setNode n node).nodes m).Bounded := by
  change (Function.update s.nodes n node m).Bounded
  by_cases same : m = n
  · rw [same, Function.update_self]
    exact bounded
  · rw [Function.update_of_ne same]
    exact all m

theorem step_bounded (lasting : B.Lasting) (all : ∀ n, (s.nodes n).Bounded) {event : FloodEvent N}
    (ran : s.step c event = some t) (m : N) : (t.nodes m).Bounded := by
  cases event with
  | connect client server =>
    rw [step] at ran
    split at ran
    · cases ran
    · cases ran
      exact setNode_bounded (setNode_bounded all ((all client).addChannel _ _)) ((all server).addChannel _ _) m
  | outside n sid event =>
    cases ran
    exact setNode_bounded all ((all n).updateChannel sid _) m
  | stop n sid =>
    cases ran
    exact setNode_bounded all ((all n).updateChannel sid _) m
  | drop n sid =>
    cases ran
    refine setNode_bounded all ((all n).carry ?_ (all n).queued) m
    intro channel member
    exact (all n).numbered channel (List.mem_of_mem_filter member)
  | originate n msg =>
    cases ran
    exact setNode_bounded all ((all n).broadcastMessage msg _) m
  | arrive n sid msg =>
    cases ran
    exact all m
  | transmit n sid =>
    obtain ⟨⟨sent, node⟩, wrote, same⟩ := Option.bind_eq_some_iff.mp ran
    cases same
    exact setNode_bounded all ((all n).transmit wrote) m
  | deliver place =>
    obtain ⟨⟨n, sid, msg⟩, _, rest⟩ := Option.bind_eq_some_iff.mp ran
    obtain ⟨node, received, same⟩ := Option.bind_eq_some_iff.mp rest
    cases same
    exact setNode_bounded all ((all n).receive received) m
  | lose place =>
    cases ran
    exact all m
  | handle n chain made =>
    obtain ⟨⟨sid, msg⟩, front, same⟩ := Option.bind_eq_some_iff.mp ran
    cases same
    have numbered : sid.id ≠ 0 := (all n).queued _ (List.mem_of_mem_head? front)
    have behind : ∀ entry ∈ (s.nodes n).inbox.tail, entry.1.id ≠ 0 := by
      intro entry member
      exact (all n).queued entry (List.mem_of_mem_tail member)
    have taken : FloodNode.Bounded { s.nodes n with inbox := (s.nodes n).inbox.tail } :=
      (all n).carry (all n).numbered behind
    exact setNode_bounded all (taken.handle lasting chain made numbered msg) m

theorem run_bounded (lasting : B.Lasting) {trace : List (FloodEvent N)}
    (run : Reaches (step c) start trace s) (n : N) : (s.nodes n).Bounded := by
  refine run.invariant (P := fun s => ∀ n, (s.nodes n).Bounded) (fun _ => FloodNode.Bounded.fresh) ?_ n
  intro s t event all _ ran
  exact step_bounded lasting all ran

/-- The requests with a nonce that the handlers of a node have forwarded or
executed. -/
def handlings (s : Flood N B) (n : N) (nonce : Bytes) : List Handling :=
  (s.nodes n).handled.filter (fun entry => entry.nonce = nonce)

/-- In every run of the network, and at every node that has recorded fewer
other nonces than its filter is made for since it first recorded that of a
request: its handlers have forwarded or executed the request at most once,
so they have broadcast it at most once, and never to the channel that it
came from. -/
theorem handled_once (lasting : B.Lasting) {trace : List (FloodEvent N)}
    (run : Reaches (step c) start trace s) (n : N) (nonce : Bytes)
    (few : othersSince nonce (s.nodes n).gate.recorded < filterElements) : (s.handlings n nonce).length ≤ 1 ∧
      ((s.handlings n nonce).filterMap (·.broadcast)).length ≤ 1 ∧
      ∀ entry ∈ s.handlings n nonce, ∀ written, entry.broadcast = some written → entry.srcSid ∉ written := by
  have bounded := run_bounded lasting run n
  have counted : (s.handlings n nonce).length = ((s.nodes n).handled.map (·.nonce)).count nonce := by
    rw [List.count_eq_countP, List.countP_map, List.countP_eq_length_filter, handlings]
    congr 1
    refine List.filter_congr (fun entry _ => ?_)
    exact (beq_eq_decide ..).symm
  have once : (s.handlings n nonce).length ≤ 1 := by
    rw [counted]
    exact (bounded.logged.count_le nonce).trans (bounded.spaced.count_le_one few)
  refine ⟨once, (List.length_filterMap_le _ _).trans once, ?_⟩
  intro entry member
  exact bounded.away entry (List.mem_of_mem_filter member)

/-- A request of a client, with this nonce. -/
def createTaskReq (nonce : Bytes) : Message :=
  ⟨str "node_create_task_req", .typed ⟨str "node_create_task_req", dataBody⟩ (by rfl)
    ⟨0, str "node_create_task_req", some nonce, some [1], some [], none⟩ ([3], ())⟩

def verResp : Message :=
  ⟨verRespName, .typed ⟨verRespName, verRespBody⟩ (by rfl) ⟨0, verRespName, none, none, none, none⟩ ([2], 0, 0, ())⟩

/-- Three nodes, of which one computes. -/
def ring (n : Fin 3) : FloodConf where
  conf := ⟨[UInt8.ofNat n], 0, ⟨id, some⟩⟩
  env := { RequestEnv.lone with nodeId := [UInt8.ofNat n] }
  nodeType := if n = 2 then .computeNode else .seedNode
  kindOf _ := ()

/-- Each node connects to the next one and logs in there. -/
def ringUp : List (FloodEvent (Fin 3)) := [
  .connect 0 1, .connect 1 2, .connect 2 0,
  .outside 1 ⟨.server, 1⟩ (.sent verRespName), .outside 2 ⟨.server, 1⟩ (.sent verRespName),
  .outside 0 ⟨.server, 2⟩ (.sent verRespName), .arrive 0 ⟨.client, 1⟩ verResp, .deliver 0,
  .arrive 1 ⟨.client, 2⟩ verResp, .deliver 0, .arrive 2 ⟨.client, 2⟩ verResp, .deliver 0]

/-- A request goes both ways round the ring, and reaches node 2 twice. -/
def bothWays : List (FloodEvent (Fin 3)) := [
  .originate 0 (createTaskReq [7]), .transmit 0 ⟨.client, 1⟩, .deliver 0, .transmit 0 ⟨.server, 2⟩, .deliver 0,
  .handle 1 Gate.rented [9], .handle 2 Gate.rented [9], .transmit 1 ⟨.client, 2⟩, .deliver 0,
  .handle 2 Gate.rented [9], .transmit 2 ⟨.server, 1⟩, .deliver 0]

/-- Node 2 forwards the request once. -/
theorem handled_once_ring : ∃ trace, ∃ s : Flood (Fin 3) Bloom.blank,
    Reaches (step ring) start trace s ∧ s.handlings 2 [7] = [⟨[7], ⟨.client, 2⟩, some [⟨.server, 1⟩]⟩] ∧
      (s.handlings 2 [7]).length ≤ 1 := by
  have ends : (runAll (step ring) (start : Flood (Fin 3) Bloom.blank) (ringUp ++ bothWays)).any (fun s =>
      s.handlings 2 [7] = [⟨[7], ⟨.client, 2⟩, some [⟨.server, 1⟩]⟩] ∧
        othersSince [7] (s.nodes 2).gate.recorded < filterElements) = true := by decide +kernel
  obtain ⟨s, ran, fine⟩ := (Option.any_eq_true _ _).mp ends
  obtain ⟨handled, few⟩ := of_decide_eq_true fine
  have run := Reaches.of_runAll _ .start ran
  exact ⟨_, s, run, handled, (handled_once Bloom.blank_lasting run 2 [7] few).1⟩

end Flood

end DbcNode
