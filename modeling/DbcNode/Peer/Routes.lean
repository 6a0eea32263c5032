import DbcNode.Lib.Runs
import DbcNode.Lib.Bytes
import DbcNode.Peer.Network

namespace DbcNode

/-- A channel of `m_channels` as the routing of a response sees it: `ready`
tells that it has logged in and is not stopped. The channels come in the
order of the map. -/
structure RouteChannel where
  sid : SocketId
  ready : Bool
  remoteNodeId : Bytes
  deriving DecidableEq, Repr

/-- The first ready channel to a node. -/
def channelTo (channels : List RouteChannel) (nodeId : Bytes) : Option RouteChannel :=
  channels.find? fun ch => ch.ready ∧ ch.remoteNodeId = nodeId

/-- The outer loop of `find_fast_path`, with the count of the nodes looked
at. -/
def scanPath (channels : List RouteChannel) : Nat → List Bytes → Option (RouteChannel × Nat)
  | _, [] => none
  | i, nodeId :: rest =>
    match channelTo channels nodeId with
    | some ch => some (ch, i + 1)
    | none => scanPath channels (i + 1) rest

/-- The calls of `pop_back`. -/
def popBack : Nat → List Bytes → List Bytes
  | 0, path => path
  | n + 1, path => popBack n path.dropLast

/-- The channel that `find_fast_path` returns, and the path as it leaves
it. -/
def findFastPath (channels : List RouteChannel) (path : List Bytes) : Option RouteChannel × List Bytes :=
  match scanPath channels 0 path with
  | some (ch, i) => (some ch, popBack (path.length - i + 1) path)
  | none => (none, path)

/-- The channel that `send_resp_message` writes to, and the path of the
message. -/
def sendRespMessage (nonce : Bytes) (channels : List RouteChannel) (path : List Bytes) :
    Option RouteChannel × List Bytes :=
  if nonce = [] then (none, path) else findFastPath channels path

/-- What `find_fast_path` is to find: a channel to the first node of the
path that one is ready to, with the part of the path before that node. -/
inductive FastPath (channels : List RouteChannel) (path : List Bytes) : Option RouteChannel × List Bytes → Prop
  | found {ch : RouteChannel} {before after : List Bytes} (split : path = before ++ ch.remoteNodeId :: after)
      (member : ch ∈ channels) (ready : ch.ready) (first : ∀ other ∈ channels, other.ready →
        other.remoteNodeId ∉ before) :
      FastPath channels path (some ch, before)
  | missing (away : ∀ ch ∈ channels, ch.ready → ch.remoteNodeId ∉ path) : FastPath channels path (none, path)

variable {channels : List RouteChannel} {ch : RouteChannel} {nodeId : Bytes} {path : List Bytes} {i k : Nat}

theorem channelTo_eq_some (found : channelTo channels nodeId = some ch) :
    ch ∈ channels ∧ ch.ready ∧ ch.remoteNodeId = nodeId := by
  have fits := List.find?_some found
  exact ⟨List.mem_of_find?_eq_some found, of_decide_eq_true fits⟩

theorem channelTo_eq_none : channelTo channels nodeId = none ↔ ∀ ch ∈ channels, ch.ready →
    ch.remoteNodeId ≠ nodeId := by
  simp [channelTo]

theorem popBack_eq_take (n : Nat) (path : List Bytes) : popBack n path = path.take (path.length - n) := by
  induction n generalizing path with
  | zero => simp [popBack]
  | succ n ih =>
    rw [popBack, ih, List.dropLast_eq_take, List.take_take, List.length_take]
    congr 1
    omega

theorem scanPath_eq_some (found : scanPath channels i path = some (ch, k)) :
    ∃ before after, path = before ++ ch.remoteNodeId :: after ∧ k = i + before.length + 1 ∧
      ch ∈ channels ∧ ch.ready ∧
      ∀ other ∈ channels, other.ready → other.remoteNodeId ∉ before := by
  induction path generalizing i with
  | nil => cases found
  | cons nodeId rest ih =>
    rw [scanPath] at found
    split at found
    · rename_i here
      cases found
      obtain ⟨member, ready, named⟩ := channelTo_eq_some here
      exact ⟨[], rest, by rw [named]; rfl, rfl, member, ready, fun _ _ _ => List.not_mem_nil⟩
    · rename_i missing
      obtain ⟨before, after, split, count, member, ready, first⟩ := ih found
      refine ⟨nodeId :: before, after, by rw [split]; rfl, by rw [count, List.length_cons]; omega,
        member, ready, ?_⟩
      intro other inside up named
      rcases List.mem_cons.mp named with same | later
      · exact channelTo_eq_none.mp missing other inside up same
      · exact first other inside up later

theorem scanPath_eq_none (missing : scanPath channels i path = none) :
    ∀ ch ∈ channels, ch.ready → ch.remoteNodeId ∉ path := by
  induction path generalizing i with
  | nil => exact fun _ _ _ => List.not_mem_nil
  | cons nodeId rest ih =>
    rw [scanPath] at missing
    split at missing
    · cases missing
    · rename_i away
      intro ch member ready named
      rcases List.mem_cons.mp named with same | later
      · exact channelTo_eq_none.mp away ch member ready same
      · exact ih missing ch member ready later

theorem findFastPath_spec (channels : List RouteChannel) (path : List Bytes) :
    FastPath channels path (findFastPath channels path) := by
  unfold findFastPath
  split
  · rename_i ch i found
    obtain ⟨before, after, split, count, member, ready, first⟩ := scanPath_eq_some found
    have cut : popBack (path.length - i + 1) path = before := by
      have length : path.length = before.length + (after.length + 1) := by
        rw [split, List.length_append, List.length_cons]
      rw [popBack_eq_take, show path.length - (path.length - i + 1) = before.length by omega, split,
        List.take_left']
      rfl
    rw [cut]
    exact .found split member ready first
  · rename_i missing
    exact .missing (scanPath_eq_none missing)

/-- There is a channel exactly where one is ready to a node of the path. -/
theorem findFastPath_isSome (channels : List RouteChannel) (path : List Bytes) :
    (findFastPath channels path).1.isSome ↔ ∃ ch ∈ channels, ch.ready ∧ ch.remoteNodeId ∈ path := by
  have spec := findFastPath_spec channels path
  generalize findFastPath channels path = outcome at spec
  cases spec with
  | @found ch _ _ split member ready =>
    refine iff_of_true rfl ⟨ch, member, ready, ?_⟩
    rw [split]
    exact List.mem_append_right _ List.mem_cons_self
  | missing away =>
    refine iff_of_false Bool.false_ne_true ?_
    rintro ⟨ch, member, ready, named⟩
    exact away ch member ready named

theorem sendRespMessage_length (nonce : Bytes) (sent : (sendRespMessage nonce channels path).1 = some ch) :
    (sendRespMessage nonce channels path).2.length < path.length := by
  unfold sendRespMessage at sent ⊢
  split at sent
  · cases sent
  · rename_i named
    rw [if_neg named]
    have spec := findFastPath_spec channels path
    generalize findFastPath channels path = outcome at spec sent
    cases spec with
    | found split =>
      rw [split, List.length_append, List.length_cons]
      dsimp only
      omega
    | missing => cases sent

/-- A response on its way, which each node that has no session for it sends
on. The channels of each node at the moment, where the response is by now
with the path in its header, and how often it was written to a channel. -/
structure RelayNet where
  tables : Bytes → List RouteChannel
  nonce : Bytes
  place : Option (Bytes × List Bytes)
  writes : Nat

inductive RelayEvent
  /-- The channels of a node change. -/
  | connects (nodeId : Bytes) (channels : List RouteChannel)
  /-- The node that has the response calls `send_resp_message`. -/
  | relays
  /-- The node that has the response asked for it, or drops it. -/
  | ends

namespace RelayNet

/-- A node sends a response. -/
def start (tables : Bytes → List RouteChannel) (nonce nodeId : Bytes) (path : List Bytes) : RelayNet :=
  ⟨tables, nonce, some (nodeId, path), 0⟩

def step (net : RelayNet) : RelayEvent → Option RelayNet
  | .connects nodeId channels => some { net with tables := Function.update net.tables nodeId channels }
  | .relays =>
    net.place.map fun (nodeId, path) =>
      match sendRespMessage net.nonce (net.tables nodeId) path with
      | (some ch, path) => { net with place := some (ch.remoteNodeId, path), writes := net.writes + 1 }
      | (none, _) => { net with place := none }
  | .ends => some { net with place := none }

/-- How often the response was written and may still be. -/
def Bounded (bound : Nat) (net : RelayNet) : Prop :=
  net.writes ≤ bound ∧ ∀ nodeId path, net.place = some (nodeId, path) → net.writes + path.length ≤ bound

variable {net next : RelayNet} {event : RelayEvent} {bound : Nat}

theorem Bounded.step (bounded : net.Bounded bound) (ran : net.step event = some next) : next.Bounded bound := by
  obtain ⟨writes, left⟩ := bounded
  cases event with
  | connects nodeId channels =>
    cases ran
    exact ⟨writes, left⟩
  | relays =>
    obtain ⟨⟨nodeId, path⟩, here, rfl⟩ := Option.map_eq_some_iff.mp ran
    have length := left nodeId path here
    dsimp only
    split
    · rename_i ch cut sent
      have found : (sendRespMessage net.nonce (net.tables nodeId) path).1 = some ch := by rw [sent]
      have shorter := sendRespMessage_length net.nonce found
      rw [sent] at shorter
      dsimp only at shorter
      refine ⟨by dsimp only; omega, ?_⟩
      rintro _ _ ⟨⟩
      dsimp only
      omega
    · exact ⟨writes, nofun⟩
  | ends =>
    cases ran
    exact ⟨writes, nofun⟩

/-- A response goes to the first node of its path that can be reached, and
is written no more often than its path is long, whatever the nodes are
connected to. -/
theorem responses_end {tables : Bytes → List RouteChannel} {nonce nodeId : Bytes} {path : List Bytes}
    {trace : List RelayEvent} (run : Reaches step (start tables nonce nodeId path) trace net) :
    (∀ channels path, ((findFastPath channels path).1.isSome ↔ ∃ ch ∈ channels, ch.ready ∧ ch.remoteNodeId ∈ path) ∧
      FastPath channels path (findFastPath channels path)) ∧ net.writes ≤ path.length := by
  refine ⟨fun channels path => ⟨findFastPath_isSome channels path, findFastPath_spec channels path⟩, ?_⟩
  have first : (start tables nonce nodeId path).Bounded path.length := by
    refine ⟨Nat.zero_le _, ?_⟩
    rintro _ _ ⟨⟩
    exact (Nat.zero_add _).le
  have bounded : net.Bounded path.length := run.invariant first fun bounded _ ran => bounded.step ran
  exact bounded.1

/-- Every node is connected to the first two. -/
def wellConnected : Bytes → List RouteChannel := fun _ =>
  [⟨⟨.client, 1⟩, true, str "a"⟩, ⟨⟨.client, 2⟩, true, str "b"⟩]

/-- The way back over `b` and `a` is cut short at once. -/
theorem responses_end_short : ∃ net, Reaches step (start wellConnected (str "n") (str "c") [str "a", str "b"])
    [.relays] net ∧ net.writes = 1 ∧ net.writes ≤ [str "a", str "b"].length := by
  obtain ⟨net, ran, writes⟩ : ∃ net,
      step (start wellConnected (str "n") (str "c") [str "a", str "b"]) .relays = some net ∧ net.writes = 1 :=
    ⟨_, rfl, by decide⟩
  have run : Reaches step _ [.relays] net := .next .start trivial ran
  exact ⟨net, run, writes, (responses_end run).2⟩

end RelayNet

end DbcNode
