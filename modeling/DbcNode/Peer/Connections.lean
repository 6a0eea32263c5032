import DbcNode.Lib.Runs
import DbcNode.Peer.Network

namespace DbcNode

inductive ChannelState
  | active
  | stopped
  deriving DecidableEq, Repr

def maxOutboundConnections : Int := 168
def maxAddnodeConnections : Int := 168
def minCoreFiledescriptors : Int := 150
def fdSetsize : Int := 1024

/-- `load_max_connect`, where `nFD` is the number of descriptors that
`RaiseFileDescriptorLimit` could obtain. -/
def loadMaxConnect (maxConnectCount nFD : Int) : Option Int :=
  if maxConnectCount ≤ 0 then none
  else if nFD < minCoreFiledescriptors then none
  else
    let limited := max (min maxConnectCount (fdSetsize - 1 - minCoreFiledescriptors - maxAddnodeConnections)) 0
    some (max (min (nFD - minCoreFiledescriptors - maxAddnodeConnections) limited) maxOutboundConnections)

/-- The two tables of channels that `connection_manager` keeps. The state of
a channel belongs to the channel and changes without the manager. -/
structure ConnectionManager where
  maxConnect : Int
  channels : List (SocketId × ChannelState)
  recycleChannels : List (SocketId × ChannelState)
  deriving DecidableEq, Repr

inductive ConnectionEvent
  /-- The channel comes with the state it has by then. -/
  | addChannel (sid : SocketId) (state : ChannelState)
  | removeChannel (sid : SocketId)
  | stopChannel (sid : SocketId)
  | stopAllChannel
  /-- The channel's own `close`, or the handler that its `stop` posted, has
  run. -/
  | channelStops (sid : SocketId)
  /-- The timer lets go of the stopped channels that nothing else uses. -/
  | onRecycleTimer (goodbyeChannels : List SocketId)
  deriving DecidableEq, Repr

/-- A channel that `get_in_connect_num` counts. -/
def liveInbound (entry : SocketId × ChannelState) : Bool := entry.1.type = .server ∧ entry.2 ≠ .stopped

def markStopped (sid : SocketId) (entry : SocketId × ChannelState) : SocketId × ChannelState :=
  if entry.1 = sid then (entry.1, .stopped) else entry

namespace ConnectionManager

def fresh (maxConnect : Int) : ConnectionManager := ⟨maxConnect, [], []⟩

def getInConnectNum (m : ConnectionManager) : Int := m.channels.countP liveInbound

/-- How many inbound channels the configuration leaves room for. -/
def inboundCap (m : ConnectionManager) : Int := m.maxConnect - maxOutboundConnections

def checkOverMaxConnect (m : ConnectionManager) : SocketType → Bool
  | .server => if m.getInConnectNum > m.maxConnect - maxOutboundConnections then false else true
  | .client => true

def holds (m : ConnectionManager) (sid : SocketId) : Bool := m.channels.any (·.1 = sid)

def addChannel (sid : SocketId) (state : ChannelState) (m : ConnectionManager) : Bool × ConnectionManager :=
  if !m.checkOverMaxConnect sid.type then (false, m)
  else if m.holds sid then (false, m)
  else (true, { m with channels := (sid, state) :: m.channels })

def removeChannel (sid : SocketId) (m : ConnectionManager) : ConnectionManager :=
  { m with channels := m.channels.filter (·.1 ≠ sid) }

/-- The handler that stops the channel is only posted here. -/
def stopChannel (sid : SocketId) (m : ConnectionManager) : ConnectionManager :=
  match m.channels.find? (·.1 = sid) with
  | none => m
  | some ch =>
    let erased := { m with channels := m.channels.filter (·.1 ≠ sid) }
    if erased.recycleChannels.any (·.1 = sid) then erased
    else { erased with recycleChannels := ch :: erased.recycleChannels }

def step (m : ConnectionManager) : ConnectionEvent → Option ConnectionManager
  | .addChannel sid state => some (m.addChannel sid state).2
  | .removeChannel sid => some (m.removeChannel sid)
  | .stopChannel sid => some (m.stopChannel sid)
  | .stopAllChannel => some { m with channels := [] }
  | .channelStops sid =>
    some { m with
      channels := m.channels.map (markStopped sid), recycleChannels := m.recycleChannels.map (markStopped sid) }
  | .onRecycleTimer goodbyeChannels =>
    some { m with recycleChannels := m.recycleChannels.filter fun entry =>
      entry.2 ≠ .stopped ∨ entry.1 ∉ goodbyeChannels }

/-- Not an accept that finds exactly as many live inbound channels as there
may be. -/
def HasRoom (m : ConnectionManager) : ConnectionEvent → Prop
  | .addChannel sid state => liveInbound (sid, state) → m.holds sid = false → m.getInConnectNum ≠ m.inboundCap
  | _ => True

instance (m : ConnectionManager) (event : ConnectionEvent) : Decidable (m.HasRoom event) :=
  match event with
  | .addChannel _ _ => inferInstanceAs (Decidable (_ → _ → _))
  | .removeChannel _ => .isTrue trivial
  | .stopChannel _ => .isTrue trivial
  | .stopAllChannel => .isTrue trivial
  | .channelStops _ => .isTrue trivial
  | .onRecycleTimer _ => .isTrue trivial

section Steps
variable {m next : ConnectionManager} {event : ConnectionEvent}

theorem step_maxConnect (ran : m.step event = some next) : next.maxConnect = m.maxConnect := by
  cases event with
  | addChannel sid state =>
    simp only [step, Option.some.injEq] at ran
    subst ran
    unfold addChannel
    split
    · rfl
    · split <;> rfl
  | stopChannel sid =>
    simp only [step, Option.some.injEq] at ran
    subst ran
    unfold stopChannel
    split
    · rfl
    · dsimp only
      split <;> rfl
  | removeChannel | stopAllChannel | channelStops | onRecycleTimer =>
    simp only [step, Option.some.injEq] at ran
    subst ran
    rfl

theorem countP_filter_le {α : Type} (p q : α → Bool) (l : List α) : (l.filter q).countP p ≤ l.countP p :=
  List.filter_sublist.countP_le

theorem stopChannel_channels (sid : SocketId) (m : ConnectionManager) :
    (m.stopChannel sid).channels = m.channels ∨ (m.stopChannel sid).channels = m.channels.filter (·.1 ≠ sid) := by
  unfold stopChannel
  split
  · exact Or.inl rfl
  · dsimp only
    split <;> exact Or.inr rfl

theorem markStopped_live {sid : SocketId} {entry : SocketId × ChannelState}
    (live : liveInbound (markStopped sid entry)) : liveInbound entry := by
  unfold markStopped at live
  split at live
  · simp [liveInbound] at live
  · exact live

/-- Only an accept makes the count grow. -/
theorem step_getInConnectNum_le (ran : m.step event = some next)
    (other : ∀ sid state, event ≠ .addChannel sid state) : next.getInConnectNum ≤ m.getInConnectNum := by
  cases event with
  | addChannel sid state => exact absurd rfl (other sid state)
  | removeChannel sid =>
    cases ran
    exact Int.ofNat_le.mpr (countP_filter_le _ _ _)
  | stopChannel sid =>
    cases ran
    rcases m.stopChannel_channels sid with same | fewer
    · rw [getInConnectNum, same, getInConnectNum]
    · rw [getInConnectNum, fewer, getInConnectNum]
      exact Int.ofNat_le.mpr (countP_filter_le _ _ _)
  | stopAllChannel =>
    cases ran
    exact Int.natCast_nonneg _
  | channelStops sid =>
    cases ran
    have fewer : (m.channels.map (markStopped sid)).countP liveInbound ≤ m.channels.countP liveInbound := by
      rw [List.countP_map]
      exact List.countP_mono_left fun entry _ live => markStopped_live live
    exact Int.ofNat_le.mpr fewer
  | onRecycleTimer goodbyeChannels =>
    cases ran
    exact le_refl m.getInConnectNum

theorem checkOverMaxConnect_server (m : ConnectionManager) :
    m.checkOverMaxConnect .server = decide (m.getInConnectNum ≤ m.inboundCap) := by
  by_cases room : m.getInConnectNum ≤ m.maxConnect - maxOutboundConnections
  · simp [checkOverMaxConnect, inboundCap, room]
  · simp [checkOverMaxConnect, inboundCap, room, not_le.mp room]

theorem getInConnectNum_cons (entry : SocketId × ChannelState) (m : ConnectionManager) :
    ({ m with channels := entry :: m.channels } : ConnectionManager).getInConnectNum =
      if liveInbound entry then m.getInConnectNum + 1 else m.getInConnectNum := by
  simp only [getInConnectNum, List.countP_cons]
  split <;> simp

/-- What an accept does to the count: one more exactly where the channel is
live, inbound and new, and the count is not above the cap yet. -/
theorem addChannel_getInConnectNum (sid : SocketId) (state : ChannelState) (m : ConnectionManager) :
    (m.addChannel sid state).2.getInConnectNum =
      if liveInbound (sid, state) ∧ m.holds sid = false ∧
        m.getInConnectNum ≤ m.inboundCap then m.getInConnectNum + 1
      else m.getInConnectNum := by
  unfold addChannel
  by_cases live : liveInbound (sid, state)
  · have server : sid.type = .server := (of_decide_eq_true live).1
    rw [server, checkOverMaxConnect_server]
    by_cases room : m.getInConnectNum ≤ m.inboundCap
    · cases held : m.holds sid with
      | true => simp [live, room]
      | false =>
        simp only [room, decide_true, Bool.not_true, Bool.false_eq_true, if_false, live, and_self, if_true]
        rw [getInConnectNum_cons, if_pos live]
    · simp [live, room]
  · simp only [live, Bool.false_eq_true, false_and, if_false]
    split
    · rfl
    · split
      · rfl
      · rw [getInConnectNum_cons, if_neg live]

/-- From a state within the cap a step stays within it exactly where the
accept that is one too many does not happen. -/
theorem step_capped_iff (capped : m.getInConnectNum ≤ m.inboundCap) (ran : m.step event = some next) :
    next.getInConnectNum ≤ next.inboundCap ↔ m.HasRoom event := by
  have cap : next.inboundCap = m.inboundCap := by rw [inboundCap, step_maxConnect ran, inboundCap]
  cases event with
  | addChannel sid state =>
    cases ran
    rw [cap, addChannel_getInConnectNum]
    by_cases counted : liveInbound (sid, state) ∧ m.holds sid = false
    · have entered : liveInbound (sid, state) ∧ m.holds sid = false ∧ m.getInConnectNum ≤ m.inboundCap :=
        ⟨counted.1, counted.2, capped⟩
      rw [if_pos entered]
      constructor
      · intro fits _ _
        omega
      · intro room
        have below := room counted.1 counted.2
        omega
    · rw [if_neg fun entered => counted ⟨entered.1, entered.2.1⟩]
      exact ⟨fun _ live new => absurd ⟨live, new⟩ counted, fun _ => capped⟩
  | removeChannel | stopChannel | stopAllChannel | channelStops | onRecycleTimer =>
    have fewer := step_getInConnectNum_le ran (by simp)
    rw [cap]
    exact ⟨fun _ => trivial, fun _ => le_trans fewer capped⟩

end Steps

theorem maxOutbound_le_loaded {maxConnectCount nFD maxConnect : Int}
    (loaded : loadMaxConnect maxConnectCount nFD = some maxConnect) : maxOutboundConnections ≤ maxConnect := by
  unfold loadMaxConnect at loaded
  split at loaded
  · cases loaded
  · split at loaded
    · cases loaded
    · cases loaded
      exact le_max_right _ _

theorem fresh_capped {maxConnectCount nFD maxConnect : Int}
    (loaded : loadMaxConnect maxConnectCount nFD = some maxConnect) :
    (fresh maxConnect).getInConnectNum ≤ (fresh maxConnect).inboundCap := by
  have room := maxOutbound_le_loaded loaded
  simp only [getInConnectNum, inboundCap, fresh, List.countP_nil]
  omega

/-- The live inbound channels stay within the configured number in every run
in which no new connection is accepted while exactly that many are live; and
from each such state the next step exceeds it exactly where one is. -/
theorem inbound_within_cap {maxConnectCount nFD maxConnect : Int} {trace : List ConnectionEvent}
    {m : ConnectionManager} (loaded : loadMaxConnect maxConnectCount nFD = some maxConnect)
    (run : Run step HasRoom (fresh maxConnect) trace m) :
    m.getInConnectNum ≤ m.maxConnect - maxOutboundConnections ∧
      ∀ event next, m.step event = some next →
        (next.getInConnectNum ≤ next.maxConnect - maxOutboundConnections ↔ m.HasRoom event) := by
  have capped : m.getInConnectNum ≤ m.inboundCap :=
    run.invariant (P := fun m => m.getInConnectNum ≤ m.inboundCap) (fresh_capped loaded)
      fun capped room ran => (step_capped_iff capped ran).mpr room
  exact ⟨capped, fun event next ran => step_capped_iff capped ran⟩

/-- A configured count of 169 gives room for one inbound channel. -/
theorem inbound_within_cap_one : ∃ m, Run step HasRoom (fresh 169) [.addChannel ⟨.server, 1⟩ .active] m ∧
    m.getInConnectNum ≤ m.maxConnect - maxOutboundConnections := by
  have ran : (fresh 169).step (.addChannel ⟨.server, 1⟩ .active) =
      some ⟨169, [(⟨.server, 1⟩, .active)], []⟩ := by decide
  have room : (fresh 169).HasRoom (.addChannel ⟨.server, 1⟩ .active) := by decide
  have run : Run step HasRoom (fresh 169) [.addChannel ⟨.server, 1⟩ .active] ⟨169, [(⟨.server, 1⟩, .active)], []⟩ :=
    .next .start room ran
  have loaded : loadMaxConnect 169 1024 = some 169 := by decide
  exact ⟨_, run, (inbound_within_cap loaded run).1⟩

/-- The smallest configuration leaves no room at all, and the first
connection is accepted nevertheless. -/
theorem accepts_beyond_cap : ∃ maxConnectCount nFD maxConnect trace m,
    loadMaxConnect maxConnectCount nFD = some maxConnect ∧ Reaches step (fresh maxConnect) trace m ∧
      ¬ m.getInConnectNum ≤ m.maxConnect - maxOutboundConnections := by
  have ran : (fresh 168).step (.addChannel ⟨.server, 1⟩ .active) =
      some ⟨168, [(⟨.server, 1⟩, .active)], []⟩ := by decide
  exact ⟨100, 1024, 168, _, _, by decide, .next .start trivial ran, by decide⟩

end ConnectionManager

end DbcNode
