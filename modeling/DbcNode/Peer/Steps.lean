import DbcNode.Lib.Runs
import DbcNode.Peer.Service

namespace DbcNode

/-- What can happen to the peer service. The hash table of the nodes may be
met in any order, so its order may change at any time; the answers of the
operating system to `connects` and `resolve` are as free as the random
draws. -/
inductive PeerEvent
  | clock (now : Int)
  | rehash (order : List PeerNode)
  | restart (connects : Endpoint → Bool)
  | accept (remoteAddr localAddr : Endpoint)
  | connect (sid : SocketId) (localAddr : Endpoint)
  | connectFail (sid : SocketId)
  | connectNotify (sid : SocketId)
  | channelError (sid : SocketId)
  | verReq (sid : SocketId) (m : Login)
  | verResp (sid : SocketId) (m : Login)
  | broadcast (nonce : Bytes) (peerNodesList : List PeerInfo)
  | checkTimer (connects : Endpoint → Bool) (resolve : Bytes → List Endpoint)
  | adjustTimer (connects : Endpoint → Bool) (leave join : Nat)
  | exchangeTimer
  | dumpTimer (written : Bool)

namespace Service

/-- A process before `init`, with the database that the last one has
left. -/
def fresh (env : PeerEnv) (clock : Int) (db : OrdMap Bytes DbCandidate) : Service :=
  ⟨[], [], env.dnsSeeds, 0, clock, Network.empty, db⟩

/-- `init` when nothing is handled before it has returned; `Startup` takes
it apart. -/
def init (env : PeerEnv) (connects : Endpoint → Bool) (clock : Int) (db : OrdMap Bytes DbCandidate) : Service :=
  ((fresh env clock db).loadPeerCandidatesFromDb env).startConnector env connects

/-- A node that was never run before. -/
def first (env : PeerEnv) : Service := fresh env 0 OrdMap.empty

/-- A connector tells the service of its outcome once it has one, and the
error of a channel can come after the channel was stopped for another
reason. -/
def step (env : PeerEnv) (s : Service) : PeerEvent → Option Service
  | .clock now => some { s with clock := now }
  | .rehash order => if order.Perm s.peerNodes then some { s with peerNodes := order } else none
  | .restart connects => some (init env connects s.clock s.db)
  | .accept remoteAddr localAddr => some { s with net := s.net.onAccept remoteAddr localAddr }
  | .connect sid localAddr => (s.net.onConnect sid localAddr).map (fun net => { s with net := net })
  | .connectFail sid => (s.net.onConnectFail sid).map (fun net => { s with net := net })
  | .connectNotify sid =>
    match s.net.getConnector sid with
    | none => none
    | some connector => if connector.phase = .connecting then none else some (s.onClientTcpConnectNotify connector)
  | .channelError sid => (s.net.anyChannel sid).map (fun ch => s.onTcpChannelError sid ch.remoteAddr)
  | .verReq sid m => some (s.onVerReq env sid m)
  | .verResp sid m => some (s.onVerResp env sid m)
  | .broadcast nonce peerNodesList => s.onBroadcastPeerNodes env nonce peerNodesList
  | .checkTimer connects resolve => some (s.onTimerCheckPeerCandidates env connects resolve)
  | .adjustTimer connects leave join => s.onTimerDynamicAdjustNetwork env connects leave join
  | .exchangeTimer => some (s.broadcastPeerNodes env)
  | .dumpTimer written => some (s.savePeerCandidates env written)

end Service

/-- How far `init` is. The thread of the service runs from the first line of
`init` on, so that messages and timers are handled while the main thread
loads the candidates and goes through the peers of the configuration. It
stands before the next peer, or it has found a peer absent from the table,
has started to connect to it, or has the answer of
`is_peer_candidate_exist`. -/
inductive InitStage
  | loading
  | connecting (peers : List Endpoint)
  | absent (ep : Endpoint) (peers : List Endpoint)
  | started (ep : Endpoint) (peers : List Endpoint)
  | asked (exist : Bool) (ep : Endpoint) (peers : List Endpoint)
  deriving DecidableEq, Repr

/-- The service and the main thread that is starting it, or has done so. -/
structure Startup where
  service : Service
  stage : InitStage

/-- A process starts anew, its main thread takes a step, or its service
handles something. -/
inductive StartupEvent
  | restart
  | main (connects : Endpoint → Bool)
  | service (event : PeerEvent)

/-- What `start_connector` does to the candidate of a peer that it has
started to connect to. -/
def Service.markInUse (exist : Bool) (ep : Endpoint) (s : Service) : Service :=
  if exist then s.updatePeerCandidateState ep .inUse else s.addPeerCandidate ep .inUse .normal []

def PeerEvent.restarts : PeerEvent → Bool
  | .restart _ => true
  | _ => false

namespace Startup

/-- One access of the main thread to what it shares with the service. -/
def advance (env : PeerEnv) (connects : Endpoint → Bool) (u : Startup) : Option Startup :=
  match u.stage with
  | .loading => some ⟨u.service.loadPeerCandidatesFromDb env, .connecting env.peers⟩
  | .connecting [] => none
  | .connecting (ep :: peers) =>
    let known := Service.existPeerNodeAt env u.service.peerNodes ep
    some { u with stage := if known then .connecting peers else .absent ep peers }
  | .absent ep peers =>
    let (started, net) := u.service.net.startConnect ep (connects ep)
    some ⟨{ u.service with net := net }, if started then .started ep peers else .connecting peers⟩
  | .started ep peers => some { u with stage := .asked (u.service.isPeerCandidateExist ep) ep peers }
  | .asked exist ep peers => some ⟨u.service.markInUse exist ep, .connecting peers⟩

/-- The service handles whatever comes at any point of `init`; only the
process can restart. -/
def step (env : PeerEnv) (u : Startup) : StartupEvent → Option Startup
  | .restart => some ⟨Service.fresh env u.service.clock u.service.db, .loading⟩
  | .main connects => u.advance env connects
  | .service event =>
    if event.restarts then none else (u.service.step env event).map (fun s => { u with service := s })

/-- A node that was never run before. -/
def first (env : PeerEnv) : Startup := ⟨Service.first env, .loading⟩

variable (env : PeerEnv) (connects : Endpoint → Bool)

/-- The steps of the main thread for one peer, with nothing between them. -/
theorem runAll_peer (s : Service) (ep : Endpoint) (peers : List Endpoint) :
    ∃ n, runAll (step env) ⟨s, .connecting (ep :: peers)⟩ (.replicate n (.main connects)) =
      some ⟨Service.startConnectorStep env connects s ep, .connecting peers⟩ := by
  have asked : step env ⟨s, .connecting (ep :: peers)⟩ (.main connects) =
      some ⟨s, if Service.existPeerNodeAt env s.peerNodes ep then .connecting peers else .absent ep peers⟩ := rfl
  rw [Service.startConnectorStep]
  cases known : Service.existPeerNodeAt env s.peerNodes ep with
  | true =>
    rw [known] at asked
    exact ⟨1, by simp [runAll, asked]⟩
  | false =>
    rw [known] at asked
    have tried : step env ⟨s, .absent ep peers⟩ (.main connects) =
        some ⟨{ s with net := (s.net.startConnect ep (connects ep)).2 },
          if (s.net.startConnect ep (connects ep)).1 then .started ep peers else .connecting peers⟩ := rfl
    cases started : (s.net.startConnect ep (connects ep)).1 with
    | false =>
      rw [started] at tried
      exact ⟨2, by simp [runAll, asked, tried, started]⟩
    | true =>
      rw [started] at tried
      refine ⟨4, ?_⟩
      simp only [List.replicate, runAll, asked, tried, Option.bind_some, Bool.false_eq_true, if_false,
        if_true, started]
      rfl

theorem runAll_peers (peers : List Endpoint) (s : Service) :
    ∃ n, runAll (step env) ⟨s, .connecting peers⟩ (.replicate n (.main connects)) =
      some ⟨peers.foldl (Service.startConnectorStep env connects) s, .connecting []⟩ := by
  induction peers generalizing s with
  | nil => exact ⟨0, rfl⟩
  | cons ep rest ih =>
    obtain ⟨n, one⟩ := runAll_peer env connects s ep rest
    obtain ⟨m, others⟩ := ih (Service.startConnectorStep env connects s ep)
    exact ⟨n + m, by rw [List.replicate_add, runAll_append, one, Option.bind_some, others, List.foldl_cons]⟩

/-- A service that restarts in one step is one whose main thread is never
interrupted. -/
theorem runAll_restart (u : Startup) :
    ∃ n, runAll (step env) u (.restart :: .replicate n (.main connects)) =
      some ⟨Service.init env connects u.service.clock u.service.db, .connecting []⟩ := by
  obtain ⟨n, ran⟩ := runAll_peers env connects env.peers
    ((Service.fresh env u.service.clock u.service.db).loadPeerCandidatesFromDb env)
  exact ⟨n + 1, by rw [List.replicate_succ]; exact ran⟩

end Startup

/-- Texts of addresses that tell the two kinds apart by their first byte. -/
def Address.plain : Address → Bytes
  | .v4 a b c d => [4, a, b, c, d]
  | .v6 bits => 6 :: toBE 16 bits.toNat

def Address.ofPlain : Bytes → Option Address
  | [4, a, b, c, d] => some (.v4 a b c d)
  | 6 :: rest => some (.v6 (BitVec.ofNat 128 (ofBE rest)))
  | _ => none

theorem Address.ofPlain_plain (address : Address) : Address.ofPlain address.plain = some address := by
  cases address with
  | v4 a b c d => rfl
  | v6 bits =>
    have small : bits.toNat % 256 ^ 16 = bits.toNat := Nat.mod_eq_of_lt bits.isLt
    rw [Address.plain, Address.ofPlain, ofBE_toBE, small, BitVec.ofNat_toNat, BitVec.setWidth_eq]

/-- A node with a seed, for runs on given inputs. A nonce is good when there
is one, and a signature when it repeats the message. -/
def PeerEnv.lone : PeerEnv where
  nodeId := [1]
  listen := ⟨.v4 0 0 0 0, 10001⟩
  peers := []
  dnsSeeds := []
  ipSeeds := [⟨.v4 8 8 8 8, 10001⟩]
  toText := Address.plain
  fromText := Address.ofPlain
  fromText_toText := Address.ofPlain_plain
  checkId nonce := nonce ≠ []
  verifySign sign message _ := sign = message

/-- A login message with the signature that it should carry, and one with
none. -/
def Login.signed (nonce nodeId : Bytes) : Login := ⟨nonce, some (nonce ++ nodeId), none, nodeId⟩

def Login.unsigned (nonce nodeId : Bytes) : Login := ⟨nonce, none, none, nodeId⟩

end DbcNode
