import DbcNode.Lan.Network

namespace DbcNode

/-- A timer that a `network move` has started, with its delay in
milliseconds. -/
structure MoveTimer where
  id : Nat
  name : Bytes
  delay : Nat
  deriving DecidableEq

/-- What is left to do of `ClearEmptyNetwork` and then of
`ClearExpiredNetwork`: the networks that each has collected, with their
wallets for the first one. -/
inductive Clearing
  | idle
  | empties (networks : List (Bytes × Bytes))
  | expireds (networks : List Bytes)
  deriving DecidableEq

/-- What a node keeps in `VxlanManager` and `p2p_lan_service`. Of the timers
of its service there are those that a `network move` starts: those in the
queue, the names that have a callback, and the ids that `on_timer_tick` has
yet to remove. -/
structure LanNode where
  machineId : Bytes
  netType : Bytes
  netFlag : Int
  localAddress : Bytes
  localPort : UInt16
  nodeType : Int
  networks : OrdMap Bytes NetworkInfo
  lanNodes : OrdMap Bytes LanMachineInfo
  moveTimerId : OrdMap Bytes Nat
  timers : List MoveTimer
  moveInvokers : List Bytes
  ranOut : List Nat
  nextTimerId : Nat
  clearing : Clearing

/-- A node that has heard of nothing yet. -/
def LanNode.fresh (machineId : Bytes) : LanNode where
  machineId := machineId
  netType := str "mainnet"
  netFlag := 1
  localAddress := machineId
  localPort := 21107
  nodeType := 0
  networks := .empty
  lanNodes := .empty
  moveTimerId := .empty
  timers := []
  moveInvokers := []
  ranOut := []
  nextTimerId := 0
  clearing := .idle

/-- What a step leaves behind: the node and the messages it has sent. -/
abbrev LanSent := LanNode × List LanMessage

namespace LanNode

def getNetwork (s : LanNode) (networkName : Bytes) : Option NetworkInfo :=
  if networkName = [] then none else s.networks.find networkName

def isSameHost (s : LanNode) (machineId : Bytes) : Bool :=
  machineId = s.machineId ∨ (s.lanNodes.find machineId).any (·.localAddress = s.localAddress)

def put (s : LanNode) (networkName : Bytes) (info : NetworkInfo) : LanNode :=
  { s with networks := s.networks.insert networkName info }

def drop (s : LanNode) (networkName : Bytes) : LanNode :=
  { s with networks := s.networks.erase networkName }

/-- `m_local_machine_message`. -/
def sendMachineInfo (s : LanNode) : List LanMessage :=
  [.machineInfo s.machineId s.netType s.netFlag s.localPort s.nodeType]

def sendMachineExitRequest (s : LanNode) : List LanMessage := [.machineExit s.machineId]

def sendNetworkCreateRequest (s : LanNode) (info : NetworkInfo) : List LanMessage :=
  [.networkCreate s.machineId info.data]

def sendNetworkDeleteRequest (s : LanNode) (networkName : Bytes) : List LanMessage :=
  [.networkDelete s.machineId networkName]

def sendNetworkQueryRequest (s : LanNode) : List LanMessage :=
  match (s.networks.entries.filter (·.2.machineId ≠ s.machineId)).map (·.1) with
  | [] => []
  | networks => [.networkQuery s.machineId networks]

/-- The networks that a node lists: those it owns and that have a range. -/
def listed (s : LanNode) : List (NetworkData × List Bytes) :=
  (s.networks.values.filter fun info => info.ipCidr ≠ [] ∧ info.machineId = s.machineId).map
    fun info => (info.data, info.members)

def sendNetworkListRequest (s : LanNode) : List LanMessage :=
  match s.listed with
  | [] => []
  | networks => [.networkList s.machineId networks]

/-- `TopN::Insert`: behind the entries with the same key, and the lowest one
goes. -/
def topInsert (num : Nat) (mm : List (Int × Bytes)) (first : Int) (text : Bytes) : List (Int × Bytes) :=
  let mm := mm.takeWhile (·.1 ≤ first) ++ (first, text) :: mm.dropWhile (·.1 ≤ first)
  if mm.length > num ∧ num > 0 then mm.drop 1 else mm

/-- The nodes heard of last are the candidates, the latest one first. -/
def candidates (s : LanNode) (oldMachineId : Bytes) : List Bytes :=
  let eligible := s.lanNodes.entries.filter fun entry =>
    entry.2.netFlag = s.netFlag ∧ entry.1 ≠ oldMachineId ∧ entry.1 ≠ s.machineId
  ((eligible.foldl (fun mm entry => topInsert 3 mm entry.2.curTime entry.1) []).reverse).map (·.2)

def sendNetworkMoveRequest (s : LanNode) (networkName oldMachineId : Bytes) : List LanMessage :=
  match s.candidates oldMachineId with
  | [] => []
  | queue => [.networkMove s.machineId networkName [] queue]

def sendNetworkMoveAckRequest (s : LanNode) (networkName machineId : Bytes) : List LanMessage :=
  if networkName ≠ [] ∧ machineId ≠ [] then [.networkMoveAck s.machineId networkName machineId] else []

def sendNetworkJoinRequest (s : LanNode) (networkName taskId : Bytes) : List LanMessage :=
  if networkName ≠ [] ∧ taskId ≠ [] then [.networkJoin s.machineId networkName taskId] else []

def sendNetworkLeaveRequest (s : LanNode) (networkName taskId : Bytes) : List LanMessage :=
  if networkName ≠ [] ∧ taskId ≠ [] then [.networkLeave s.machineId networkName taskId] else []

def checkVni (s : LanNode) (vni : Bytes) : Bool := s.networks.values.any (·.vxlanVni = vni)

/-- The first number drawn that no network has. The loop of the source ends
with nothing else; here it gives nothing once there are no more draws. -/
def randomVni (s : LanNode) (rands : List Nat) : Option Bytes :=
  (rands.map fun n => decimal (n % vniMax)).find? fun vni => ¬ s.checkVni vni

def createNetworkServer (s : LanNode) (w : LanWorld) (networkName ipCidr wallet : Bytes) : Except Bytes LanSent :=
  if networkName = [] then .error (str "network name can not be empty")
  else if ¬ checkNetworkName networkName then
    .error (str "network name requires a combination of 6 to 10 letters or numbers")
  else if (s.getNetwork networkName).isSome then .error (str "network name already existed")
  else match s.randomVni w.rands with
    | none => .error (str "network vni is full")
    | some vni =>
      if ipCidr = [] then .error (str "ip cidr can not be empty")
      else if holdsText ipCidr (str "192.168.122.") then .error (str "ip cidr already exist")
      else do
        let range ← IpRangeHelper.ofCidr ipCidr
        w.createVxlanDevice networkName
        w.startDhcpServer networkName
        let info : NetworkInfo :=
          { networkId := networkName, bridgeName := str "br" ++ networkName, vxlanName := str "vx" ++ networkName,
            vxlanVni := vni, ipCidr := ipCidr, ipStart := range.getIpStart, ipEnd := range.getIpEnd,
            dhcpInterface := str "tap" ++ w.randomString, machineId := s.machineId, rentWallet :=
              wallet, members := [],
            lastUseTime := w.now, nativeFlags := ⟨true, true⟩, lastUpdateTime := w.now }
        if w.updateNetworkDb then .ok (s.put networkName info, s.sendNetworkCreateRequest info)
        else .error (str "write network db failed")

/-- The source reads the record, lets go of the lock while its commands run,
and then puts back the record that it has read, whatever has become of it
meanwhile. Here all of it happens at the moment at which the record is put
back. -/
def createNetworkClient (s : LanNode) (w : LanWorld) (networkName : Bytes) : Except Bytes LanNode :=
  match s.getNetwork networkName with
  | none => .error (str "can not find network info")
  | some info =>
    if info.nativeFlags.device ∨ s.isSameHost info.machineId then .ok s
    else if info.bridgeName = [] ∨ info.vxlanName = [] ∨ info.vxlanVni = [] then .error (str "invalid network info")
    else do
      w.createVxlanDevice networkName
      if w.updateNetworkDb then
        .ok (s.put networkName { info with nativeFlags := { info.nativeFlags with device := true } })
      else .error (str "update network db failed")

def addNetworkFromMulticast (s : LanNode) (info : NetworkInfo) : LanNode :=
  if info.machineId = s.machineId then s
  else
    let info := if s.isSameHost info.machineId then
      { info with nativeFlags := { info.nativeFlags with device := true } } else info
    match s.getNetwork info.networkId with
    | some old =>
      -- a record that tells nothing new only gets its time
      if { info with lastUpdateTime := old.lastUpdateTime } = old then
        s.put info.networkId { old with lastUpdateTime := info.lastUpdateTime }
      else s.put info.networkId info
    | none => s.put info.networkId info

def deleteNetwork (s : LanNode) (networkName wallet : Bytes) : Except Bytes LanSent :=
  match s.networks.find networkName with
  | none => .error (str "network name not exist")
  | some info =>
    if info.rentWallet ≠ wallet then .error (str "wallet error, you are not the owner of the network")
    else if info.members ≠ [] then .error (str "network is in used, please delete task in the network first")
    else .ok (s.drop networkName, s.sendNetworkDeleteRequest networkName)

def deleteNetworkFromMulticast (s : LanNode) (networkName : Bytes) : LanNode := s.drop networkName

/-- The device, where the node has none yet, and the DHCP server of a
network. -/
def serveNetwork (s : LanNode) (w : LanWorld) (networkName : Bytes) (info : NetworkInfo) : Except Bytes Unit := do
  if ¬ s.isSameHost info.machineId ∧ ¬ info.nativeFlags.device then w.createVxlanDevice networkName
  let _ ← IpRangeHelper.ofCidr info.ipCidr
  w.startDhcpServer networkName

/-- The lock is let go of while the commands run, as in
`createNetworkClient`, and a change that another thread makes of the record
by then is lost in the source. Here the moment is the one at which the
record is put back: what is read before it is whether there is one, its
device and its range. -/
def moveNetwork (s : LanNode) (w : LanWorld) (networkName newMachineId : Bytes) : Except Bytes LanSent :=
  match s.getNetwork networkName with
  | none => .error (str "network name not exist")
  | some info =>
    if newMachineId ≠ s.machineId then .error (str "not my machine id")
    else do
      s.serveNetwork w networkName info
      .ok (s.put networkName { info with nativeFlags := ⟨true, true⟩, machineId := newMachineId },
        s.sendNetworkMoveAckRequest networkName newMachineId)

def moveNetworkAck (s : LanNode) (networkName newMachineId : Bytes) : LanNode :=
  match s.getNetwork networkName with
  | none => s
  | some info =>
    if newMachineId = s.machineId then s
    else s.put networkName
      { info with machineId := newMachineId, nativeFlags := { info.nativeFlags with dhcpServer := false } }

def joinNetwork (s : LanNode) (now : Int) (networkName taskId : Bytes) : LanNode :=
  match s.getNetwork networkName with
  | none => s
  | some info => s.put networkName { info with members := info.members ++ [taskId], lastUseTime := now }

def leaveNetwork (s : LanNode) (now : Int) (networkName taskId : Bytes) : LanNode :=
  match s.getNetwork networkName with
  | none => s
  | some info =>
    s.put networkName { info with members := info.members.filter (· ≠ taskId), lastUseTime := now }

/-- Three days in seconds. -/
def clearAfter : Int := 259200

/-- The own networks that no task has used for long, with their wallets. -/
def emptyNetworks (s : LanNode) (now : Int) : List (Bytes × Bytes) :=
  (s.networks.entries.filter fun entry =>
    entry.2.machineId = s.machineId ∧ entry.2.members = [] ∧ now - entry.2.lastUseTime > clearAfter).map
    fun entry => (entry.1, entry.2.rentWallet)

/-- The networks of other nodes that were not told of for long. -/
def expiredNetworks (s : LanNode) (now : Int) : List Bytes :=
  (s.networks.entries.filter fun entry =>
    entry.2.machineId ≠ s.machineId ∧ entry.2.members = [] ∧ now - entry.2.lastUpdateTime > clearAfter).map (·.1)

/-- The next turn of the loops of `ClearEmptyNetwork` and
`ClearExpiredNetwork`. The networks were collected under the read lock,
which is not held any more, and only `DeleteNetwork` looks at the members
again. -/
def clearNext (s : LanNode) (now : Int) : LanSent :=
  match s.clearing with
  | .idle => (s, [])
  | .empties [] => ({ s with clearing := .expireds (s.expiredNetworks now) }, [])
  | .empties (network :: rest) =>
    let done := (s.deleteNetwork network.1 network.2).toOption.getD (s, [])
    ({ done.1 with clearing := .empties rest }, done.2)
  | .expireds [] => ({ s with clearing := .idle }, [])
  | .expireds (networkName :: rest) =>
      ({ s.deleteNetworkFromMulticast networkName with clearing := .expireds rest }, [])

/-- Whether `Exit` gives a network up. -/
def leaves (s : LanNode) (info : NetworkInfo) : Bool := info.machineId = s.machineId ∧ info.ipCidr ≠ []

def left (s : LanNode) (info : NetworkInfo) : NetworkInfo :=
  if s.leaves info then
    { info with machineId := [], nativeFlags := { info.nativeFlags with dhcpServer := false } }
  else info

def exit (s : LanNode) : LanSent :=
  ({ s with networks := s.networks.filterMap fun _ info => some (s.left info) },
    (s.networks.entries.filter (s.leaves ·.2)).flatMap fun entry =>
      s.sendNetworkMoveRequest entry.1 entry.2.machineId)

/-- `add_lan_node` of an info that `validate` lets pass. The address is the
one that the message came from. -/
def addLanNode (s : LanNode) (machineId netType : Bytes) (netFlag : Int) (localAddress : Bytes) (localPort : UInt16)
    (nodeType now : Int) : LanNode :=
  if machineId = [] ∨ localAddress = [] ∨ localPort = 0 ∨ netType = [] ∨ netFlag = 0 ∨
    ¬ (0 ≤ nodeType ∧ nodeType ≤ 2) ∨
      now = 0 ∨ machineId = s.machineId then s
  else { s with lanNodes := s.lanNodes.insert machineId ⟨netFlag, localAddress, now⟩ }

def deleteLanNode (s : LanNode) (machineId : Bytes) : LanNode :=
  if machineId = [] then s else { s with lanNodes := s.lanNodes.erase machineId }

/-- `remove_timer`: with a timer goes the callback of its name. -/
def removeTimer (s : LanNode) (timerId : Nat) : LanNode :=
  match s.timers.find? (·.id = timerId) with
  | none => s
  | some timer =>
    { s with
      timers := s.timers.eraseP (·.id = timerId)
      moveInvokers := if timer.name = [] then s.moveInvokers else s.moveInvokers.filter (· ≠ timer.name) }

/-- Stops the timer whose id is kept under the name of the network. -/
def removeMoveTimer (s : LanNode) (networkName : Bytes) : LanNode :=
  match s.moveTimerId.find networkName with
  | none => s
  | some timerId => { s.removeTimer timerId with moveTimerId := s.moveTimerId.erase networkName }

/-- A candidate waits for longer the further back it stands in the queue. -/
def moveDelays : List Nat := [1000, 30 * 1000, 60 * 1000]

def addMoveTimer (s : LanNode) (networkName : Bytes) (i : Nat) : LanNode :=
  match moveDelays[i]? with
  | none => s
  | some delay =>
    { s with
      timers := s.timers ++ [⟨s.nextTimerId, networkName, delay⟩]
      moveInvokers := networkName :: s.moveInvokers
      moveTimerId := s.moveTimerId.insert networkName s.nextTimerId
      nextTimerId := s.nextTimerId + 1 }

/-- One network of a `network list`. -/
def onListed (s : LanNode) (now : Int) (machineId : Bytes) (network : NetworkData × List Bytes) : LanNode :=
  (s.addNetworkFromMulticast (network.1.info machineId network.2 now)).removeMoveTimer network.1.networkName

/-- One candidate of a `network move`. -/
def onCandidate (networkName : Bytes) (s : LanNode) (candidate : Bytes × Nat) : LanNode :=
  if candidate.1 = s.machineId then s.addMoveTimer networkName candidate.2 else s

/-- The `network move` of earlier versions names one new owner. -/
def onMoveTo (s : LanNode) (w : LanWorld) (machineId networkName newMachineId : Bytes) : LanSent :=
  if newMachineId = s.machineId then
    match s.moveNetwork w networkName newMachineId with
    | .ok done => done
    | .error _ => (s, s.sendNetworkMoveRequest networkName machineId)
  else (s, [])

def onMulticastReceive (s : LanNode) (w : LanWorld) (addr : Bytes) : LanMessage → LanSent
  | .machineInfo machineId netType netFlag localPort nodeType =>
    (s.addLanNode machineId netType netFlag addr localPort nodeType w.now, [])
  | .machineExit machineId => (s.deleteLanNode machineId, [])
  | .networkCreate machineId network => (s.addNetworkFromMulticast (network.info machineId [] w.now), [])
  | .networkDelete _ networkName => (s.deleteNetworkFromMulticast networkName, [])
  | .networkQuery machineId networks =>
    if machineId ≠ s.machineId ∧
        networks.any (fun networkName => (s.getNetwork networkName).any (·.machineId = s.machineId)) then
      (s, s.sendNetworkListRequest)
    else (s, [])
  | .networkList machineId networks => (networks.foldl (fun s network => s.onListed w.now machineId network) s, [])
  | .networkMove machineId networkName newMachineId candidateQueue =>
    let done := s.onMoveTo w machineId networkName newMachineId
    (candidateQueue.zipIdx.foldl (onCandidate networkName) done.1, done.2)
  | .networkMoveAck _ networkName newMachineId =>
    ((s.moveNetworkAck networkName newMachineId).removeMoveTimer networkName, [])
  | .networkJoin _ networkName taskId => (s.joinNetwork w.now networkName taskId, [])
  | .networkLeave _ networkName taskId => (s.leaveNetwork w.now networkName taskId, [])

/-- A node that was not heard of for five minutes is gone. -/
def onMulticastMachineTaskTimer (s : LanNode) (now : Int) : LanSent :=
  ({ s with lanNodes := s.lanNodes.filter fun entry => ¬ now - entry.2.curTime > 300 }, s.sendMachineInfo)

/-- The empty networks are collected; clearing them goes on from there. The
thread of the service does not come to the timer again before that is
done. -/
def onMulticastNetworkTaskTimer (s : LanNode) (now : Int) : LanSent :=
  if s.clearing = .idle then ({ s with clearing := .empties (s.emptyNetworks now) }, s.sendNetworkListRequest)
  else (s, [])

/-- The own `MoveNetwork` of a timer: where it succeeds the networks are
listed too. -/
def takeOver (s : LanNode) (w : LanWorld) (networkName : Bytes) : LanSent :=
  match s.moveNetwork w networkName s.machineId with
  | .ok (next, sent) => (next, sent ++ next.sendNetworkListRequest)
  | .error _ => (s, [])

def onMulticastNetworkMoveTaskTimer (s : LanNode) (w : LanWorld) (timer : MoveTimer) : LanSent :=
  let done := s.takeOver w timer.name
  ({ done.1 with moveTimerId := done.1.moveTimerId.erase timer.name }, done.2)

/-- `on_timer_tick` comes to a timer that is due: the callback of its name
is called, where there is one. The timer has run out then, and is removed at
the end of the loop. -/
def onTimerTick (s : LanNode) (w : LanWorld) (timer : MoveTimer) : LanSent :=
  let done := if timer.name ∈ s.moveInvokers then s.onMulticastNetworkMoveTaskTimer w timer else (s, [])
  ({ done.1 with ranOut := timer.id :: done.1.ranOut }, done.2)

/-- The end of `on_timer_tick`, for one timer that has run out. -/
def endTimer (s : LanNode) (timerId : Nat) : LanNode :=
  { s.removeTimer timerId with ranOut := s.ranOut.filter (· ≠ timerId) }

def onMulticastNetworkResumeTaskTimer (s : LanNode) (w : LanWorld) : LanSent :=
  ((s.networks.entries.filter (·.2.machineId = [])).map (·.1)).foldl (fun done networkName =>
    let next := done.1.takeOver w networkName
    (next.1, done.2 ++ next.2)) (s, [])

end LanNode

/-- What a node does by itself: the calls of the other parts of the node and
its timers. -/
inductive LanCall
  | createNetworkServer (networkName ipCidr wallet : Bytes)
  | createNetworkClient (networkName : Bytes)
  | deleteNetwork (networkName wallet : Bytes)
  | joinRequest (networkName taskId : Bytes)
  | leaveRequest (networkName taskId : Bytes)
  | init
  | exit
  | machineExit
  | machineTimer
  | networkTimer
  | clearNext
  | moveTimer (timer : MoveTimer)
  | endTimer (timerId : Nat)
  | resumeTimer
  deriving DecidableEq

/-- A call that is refused leaves the node as it is. -/
def LanNode.call (s : LanNode) (w : LanWorld) : LanCall → LanSent
  | .createNetworkServer networkName ipCidr wallet =>
    (s.createNetworkServer w networkName ipCidr wallet).toOption.getD (s, [])
  | .createNetworkClient networkName => ((s.createNetworkClient w networkName).toOption.getD s, [])
  | .deleteNetwork networkName wallet => (s.deleteNetwork networkName wallet).toOption.getD (s, [])
  | .joinRequest networkName taskId => (s, s.sendNetworkJoinRequest networkName taskId)
  | .leaveRequest networkName taskId => (s, s.sendNetworkLeaveRequest networkName taskId)
  | .init => (s, s.sendNetworkQueryRequest)
  | .exit => s.exit
  | .machineExit => (s, s.sendMachineExitRequest)
  | .machineTimer => s.onMulticastMachineTaskTimer w.now
  | .networkTimer => s.onMulticastNetworkTaskTimer w.now
  | .clearNext => s.clearNext w.now
  | .moveTimer timer => if timer ∈ s.timers ∧ timer.id ∉ s.ranOut then s.onTimerTick w timer else (s, [])
  | .endTimer timerId => (if timerId ∈ s.ranOut then s.endTimer timerId else s, [])
  | .resumeTimer => s.onMulticastNetworkResumeTaskTimer w

end DbcNode
