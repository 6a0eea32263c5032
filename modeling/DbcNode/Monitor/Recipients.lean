import DbcNode.Lib.Documents
import DbcNode.Lib.Runs
import DbcNode.Monitor.Usage
import DbcNode.Task.ChainClient
import DbcNode.Task.Host

namespace DbcNode.Monitor

/-- `monitor_server` -/
structure MonitorServer where
  host : Bytes
  port : Bytes
  deriving DecidableEq

/-- `hostMonitorData`, by what is added up over the domains. -/
structure HostMonitorData where
  vmCount : Nat
  vmRunning : Nat
  gpuUsed : Nat
  rxFlow : Int64
  txFlow : Int64

def HostMonitorData.addFlow (data : DomMonitorData) (hmData : HostMonitorData) : HostMonitorData :=
  data.netStats.values.foldl
    (fun hm net => { hm with rxFlow := hm.rxFlow + net.rxBytes, txFlow := hm.txFlow + net.txBytes }) hmData

inductive MonitorMessage
  | domain (wallet taskId : Bytes) (data : DomMonitorData)
  | host (data : HostMonitorData)

/-- What the node looks up while its timer sends: the tasks of the wallets,
the table of the tasks, their GPUs, what libvirt reads, and which server
wants to hear of what. -/
structure MonitorView where
  rentTasks : OrdMap Bytes (List Bytes)
  status : Bytes → Option TaskStatus
  gpus : Bytes → Nat
  reading : Bytes → Option DomMonitorData
  wanted : MonitorServer → Bytes → Bool
  nodeId : Bytes

/-- `node_monitor_service`, with the messages that it has sent so far. -/
structure NodeMonitor where
  dbcMonitorServer : MonitorServer
  minerMonitorServer : MonitorServer
  monitorDatas : OrdMap Bytes DomMonitorData
  walletMonitors : OrdMap Bytes (List MonitorServer)
  curRenterWallet : Bytes
  sent : List (MonitorServer × MonitorMessage)

inductive MonitorEvent
  | setServers (wallet : Bytes) (additional : Json)
  | updateRenter (rentTasks : OrdMap Bytes (List Bytes)) (rentEnd : Bytes → Int)
  | sendDatas (view : MonitorView)

namespace NodeMonitor

/-- After `load_wallet_monitor_from_db`. -/
def init (dbc miner : MonitorServer) (stored : OrdMap Bytes (List MonitorServer)) : NodeMonitor :=
  ⟨dbc, miner, .empty, stored, [], []⟩

def readServers : List Json → List MonitorServer → Except Bytes (List MonitorServer)
  | [], servers => .ok servers
  | item :: items, servers =>
    match item.getString with
    | some text =>
      match splitText 58 text with
      | [host, port] => readServers items (servers ++ [⟨host, port⟩])
      | _ => .error (str "server not match format ip:port")
    -- what is not a text is passed over
    | none => readServers items servers

/-- `additional` after parsing; where that fails it is `null`. -/
def setMonitorServer (wallet : Bytes) (additional : Json) (s : NodeMonitor) : Except Bytes NodeMonitor :=
  if additional.isObject = false then .error (str "additional parse failed")
  else
    match additional.member (str "servers") with
    | none => .ok s
    | some member =>
      match member.getArray with
      | some items =>
        if items.length > 2 then .error (str "can not enter more than two servers")
        else
          match readServers items [] with
          | .ok servers => .ok { s with walletMonitors := s.walletMonitors.insert wallet servers }
          | .error text => .error text
      | none => .error (str "servers must be an array")

def serversOf (s : NodeMonitor) (wallet : Bytes) : List MonitorServer := (s.walletMonitors.find wallet).getD []

def listMonitorServer (wallet : Bytes) (servers : List MonitorServer) (s : NodeMonitor) : List MonitorServer :=
  servers ++ s.serversOf wallet

/-- `send_monitor_data`, under the name that the server is asked about. -/
def sendMonitorData (view : MonitorView) (name : Bytes) (message : MonitorMessage) (s : NodeMonitor)
    (server : MonitorServer) : NodeMonitor :=
  if server.host = [] ∨ server.port = [] then s
  else if view.wanted server name then { s with sent := s.sent ++ [(server, message)] }
  else s

/-- The rates are worked out from the sample before, if there is one. -/
def domainData (s : NodeMonitor) (taskId : Bytes) (now : DomMonitorData) : DomMonitorData :=
  match s.monitorDatas.find taskId with
  | none => now
  | some last => (now.calculatorUsageAndSpeed last).1

/-- The inner loop of `on_monitor_data_sender_task_timer`. -/
def sendTask (view : MonitorView) (wallet : Bytes) (acc : HostMonitorData × NodeMonitor) (taskId : Bytes) :
    HostMonitorData × NodeMonitor :=
  let (hmData, s) := acc
  if holdsText taskId (str "vm_check_") then acc
  else
    match view.status taskId with
    | none => acc
    | some status =>
      let hmData :=
        if wallet = s.curRenterWallet ∧ status = .running then
          { hmData with gpuUsed := hmData.gpuUsed + view.gpus taskId, vmRunning := hmData.vmRunning + 1 }
        else hmData
      if status = .creating ∨ status = .createTaskError then (hmData, s)
      else
        match view.reading taskId with
        | none => (hmData, s)
        | some now =>
          let data := s.domainData taskId now
          (hmData.addFlow data,
            (s.serversOf wallet).foldl (sendMonitorData view taskId (.domain wallet taskId data))
            { s with monitorDatas := s.monitorDatas.insert taskId data })

/-- Its outer loop. -/
def sendWallet (view : MonitorView) (acc : HostMonitorData × NodeMonitor) (entry : Bytes × List Bytes) :
    HostMonitorData × NodeMonitor :=
  let (hmData, s) := acc
  let hmData := if entry.1 = s.curRenterWallet then { hmData with vmCount := entry.2.length } else hmData
  entry.2.foldl (sendTask view entry.1) (hmData, s)

def onMonitorDataSender (view : MonitorView) (s : NodeMonitor) : NodeMonitor :=
  let (hmData, s) := view.rentTasks.entries.foldl (sendWallet view) (⟨0, 0, 0, 0, 0⟩, s)
  let s := { s with monitorDatas := s.monitorDatas.filter (fun entry => (view.status entry.1).isSome) }
  let renters := if s.curRenterWallet ≠ [] then s.serversOf s.curRenterWallet else []
  (renters ++ [s.dbcMonitorServer, s.minerMonitorServer]).foldl (sendMonitorData view view.nodeId (.host hmData)) s

def onUpdateCurRenterWallet (rentTasks : OrdMap Bytes (List Bytes)) (rentEnd : Bytes → Int) (s : NodeMonitor) :
    NodeMonitor :=
  { s with curRenterWallet := (rentTasks.keys.find? (fun wallet => rentEnd wallet > 0)).getD [] }

def step (s : NodeMonitor) : MonitorEvent → Option NodeMonitor
  | .setServers wallet additional =>
    match s.setMonitorServer wallet additional with
    | .ok t => some t
    | .error _ => some s
  | .updateRenter rentTasks rentEnd => some (s.onUpdateCurRenterWallet rentTasks rentEnd)
  | .sendDatas view => some (s.onMonitorDataSender view)

/-- A request of the wallet has named the server. -/
def Requested (trace : List MonitorEvent) (wallet : Bytes) (server : MonitorServer) : Prop :=
  ∃ additional items text, .setServers wallet additional ∈ trace ∧
    (additional.member (str "servers")).bind Json.getArray = some items ∧ Json.string text ∈ items ∧
    splitText 58 (cText text) = [server.host, server.port]

/-- The wallet has chosen the server, in a request or before the node was
started. -/
def Chosen (stored : OrdMap Bytes (List MonitorServer)) (trace : List MonitorEvent) (wallet : Bytes)
    (server : MonitorServer) : Prop :=
  Requested trace wallet server ∨ ∃ servers, stored.find wallet = some servers ∧ server ∈ servers

/-- The wallet was found to rent the machine. -/
def Rents (trace : List MonitorEvent) (wallet : Bytes) : Prop :=
  ∃ rentTasks rentEnd, .updateRenter rentTasks rentEnd ∈ trace ∧ wallet ∈ rentTasks.keys ∧ 0 < rentEnd wallet

/-- Data that come from the readings of one task. -/
inductive ReadFrom (trace : List MonitorEvent) (taskId : Bytes) : DomMonitorData → Prop
  | first {view : MonitorView} {now : DomMonitorData} (seen : .sendDatas view ∈ trace)
      (read : view.reading taskId = some now) : ReadFrom trace taskId now
  | later {view : MonitorView} {now last : DomMonitorData} (seen : .sendDatas view ∈ trace)
      (read : view.reading taskId = some now) (before : ReadFrom trace taskId last) :
      ReadFrom trace taskId (now.calculatorUsageAndSpeed last).1

/-- The wallet had the task when a timer sent. -/
def HasTask (trace : List MonitorEvent) (wallet taskId : Bytes) : Prop :=
  ∃ view ids, .sendDatas view ∈ trace ∧ view.rentTasks.find wallet = some ids ∧ taskId ∈ ids

/-- Who may be told what. -/
def MayHear (dbc miner : MonitorServer) (stored : OrdMap Bytes (List MonitorServer)) (trace : List MonitorEvent)
    (server : MonitorServer) : MonitorMessage → Prop
  | .domain wallet taskId data =>
    Chosen stored trace wallet server ∧ HasTask trace wallet taskId ∧ ReadFrom trace taskId data ∧
      holdsText taskId (str "vm_check_") = false
  | .host _ => server = dbc ∨ server = miner ∨ ∃ wallet, Rents trace wallet ∧ Chosen stored trace wallet server

structure Sound (dbc miner : MonitorServer) (stored : OrdMap Bytes (List MonitorServer))
    (trace : List MonitorEvent) (s : NodeMonitor) : Prop where
  ours : s.dbcMonitorServer = dbc
  miners : s.minerMonitorServer = miner
  few : ∀ wallet servers, s.walletMonitors.find wallet = some servers →
    servers.length ≤ 2 ∨ stored.find wallet = some servers
  chosen : ∀ wallet, ∀ server ∈ s.serversOf wallet, Chosen stored trace wallet server
  renter : s.curRenterWallet ≠ [] → Rents trace s.curRenterWallet
  datas : ∀ taskId data, s.monitorDatas.find taskId = some data → ReadFrom trace taskId data
  sent : ∀ entry ∈ s.sent, MayHear dbc miner stored trace entry.1 entry.2

variable {dbc miner : MonitorServer} {stored : OrdMap Bytes (List MonitorServer)} {trace : List MonitorEvent}
  {s t : NodeMonitor} {event : MonitorEvent} {wallet taskId : Bytes} {server : MonitorServer}

theorem Chosen.cons (chosen : Chosen stored trace wallet server) (event : MonitorEvent) :
    Chosen stored (event :: trace) wallet server := by
  rcases chosen with ⟨additional, items, text, member, shape⟩ | before
  · exact Or.inl ⟨additional, items, text, List.mem_cons_of_mem _ member, shape⟩
  · exact Or.inr before

theorem Rents.cons (rents : Rents trace wallet) (event : MonitorEvent) : Rents (event :: trace) wallet := by
  obtain ⟨rentTasks, rentEnd, member, found⟩ := rents
  exact ⟨rentTasks, rentEnd, List.mem_cons_of_mem _ member, found⟩

theorem ReadFrom.cons {data : DomMonitorData} (readFrom : ReadFrom trace taskId data) (event : MonitorEvent) :
    ReadFrom (event :: trace) taskId data := by
  induction readFrom with
  | first seen read => exact .first (List.mem_cons_of_mem _ seen) read
  | later seen read _ ih => exact .later (List.mem_cons_of_mem _ seen) read ih

theorem MayHear.cons {message : MonitorMessage} (may : MayHear dbc miner stored trace server message)
    (event : MonitorEvent) : MayHear dbc miner stored (event :: trace) server message := by
  cases message with
  | domain wallet taskId data =>
    obtain ⟨chosen, ⟨view, ids, member, tasks⟩, readFrom, real⟩ := may
    exact ⟨chosen.cons event, ⟨view, ids, List.mem_cons_of_mem _ member, tasks⟩, readFrom.cons event, real⟩
  | host data =>
    rcases may with isDbc | isMiner | ⟨wallet, rents, chosen⟩
    · exact Or.inl isDbc
    · exact Or.inr (Or.inl isMiner)
    · exact Or.inr (Or.inr ⟨wallet, rents.cons event, chosen.cons event⟩)

theorem Sound.cons (sound : Sound dbc miner stored trace s) (event : MonitorEvent) :
    Sound dbc miner stored (event :: trace) s where
  ours := sound.ours
  miners := sound.miners
  few := sound.few
  chosen := fun wallet server member => (sound.chosen wallet server member).cons event
  renter := fun named => (sound.renter named).cons event
  datas := fun taskId data found => (sound.datas taskId data found).cons event
  sent := fun entry member => (sound.sent entry member).cons event

theorem readServers_ok {items : List Json} {servers result : List MonitorServer}
    (ran : readServers items servers = .ok result) : result.length ≤ servers.length + items.length ∧
      ∀ server ∈ result, server ∈ servers ∨ ∃ text, Json.string text ∈ items ∧
        splitText 58 (cText text) = [server.host, server.port] := by
  induction items generalizing servers with
  | nil =>
    cases ran
    exact ⟨Nat.le_refl _, fun server member => Or.inl member⟩
  | cons item items ih =>
    rw [readServers] at ran
    cases item with
    | string text =>
      simp only [Json.getString] at ran
      split at ran
      · rename_i host port parts
        obtain ⟨length, named⟩ := ih ran
        rw [List.length_append, List.length_singleton] at length
        refine ⟨by rw [List.length_cons]; omega, fun server member => ?_⟩
        rcases named server member with before | ⟨later, among, split⟩
        · rcases List.mem_append.mp before with old | new
          · exact Or.inl old
          · rw [List.mem_singleton.mp new]
            exact Or.inr ⟨text, List.mem_cons_self, parts⟩
        · exact Or.inr ⟨later, List.mem_cons_of_mem _ among, split⟩
      · cases ran
    | _ =>
      obtain ⟨length, named⟩ := ih ran
      refine ⟨by rw [List.length_cons]; omega, fun server member => ?_⟩
      rcases named server member with before | ⟨later, among, split⟩
      · exact Or.inl before
      · exact Or.inr ⟨later, List.mem_cons_of_mem _ among, split⟩

theorem setMonitorServer_ok {additional : Json} (ran : s.setMonitorServer wallet additional = .ok t) : t = s ∨
    ∃ items servers, (additional.member (str "servers")).bind Json.getArray = some items ∧ items.length ≤ 2 ∧
      readServers items [] = .ok servers ∧
        t = { s with walletMonitors := s.walletMonitors.insert wallet servers } := by
  rw [setMonitorServer] at ran
  split at ran
  · cases ran
  split at ran
  · cases ran
    exact Or.inl rfl
  rename_i member found
  split at ran
  · rename_i items isArray
    split at ran
    · cases ran
    rename_i few
    split at ran
    · rename_i servers read
      cases ran
      refine Or.inr ⟨items, servers, ?_, Nat.le_of_not_lt few, read, rfl⟩
      rw [found, Option.bind_some, isArray]
    · cases ran
  · cases ran

theorem Sound.setServers (sound : Sound dbc miner stored trace s) {additional : Json}
    (ran : s.setMonitorServer wallet additional = .ok t) :
    Sound dbc miner stored (.setServers wallet additional :: trace) t := by
  have grown := sound.cons (.setServers wallet additional)
  rcases setMonitorServer_ok ran with rfl | ⟨items, servers, found, two, read, rfl⟩
  · exact grown
  · obtain ⟨length, named⟩ := readServers_ok read
    have now : ∀ server ∈ servers, Requested (.setServers wallet additional :: trace) wallet server := by
      intro server member
      rcases named server member with none | ⟨text, among, split⟩
      · cases none
      · exact ⟨additional, items, text, List.mem_cons_self, found, among, split⟩
    have lookup := OrdMap.find_insert s.walletMonitors wallet
    refine { grown with few := fun other list known => ?_, chosen := fun other server member => ?_ }
    · dsimp only at known
      rw [lookup other servers] at known
      split at known
      · cases known
        rw [List.length_nil, Nat.zero_add] at length
        exact Or.inl (length.trans two)
      · exact grown.few other list known
    · rw [serversOf] at member
      dsimp only at member
      rw [lookup other servers] at member
      split at member
      · rename_i same
        subst same
        exact Or.inl (now server member)
      · exact grown.chosen other server member

theorem Sound.updateRenter (sound : Sound dbc miner stored trace s) (rentTasks : OrdMap Bytes (List Bytes))
    (rentEnd : Bytes → Int) :
    Sound dbc miner stored (.updateRenter rentTasks rentEnd :: trace)
      (s.onUpdateCurRenterWallet rentTasks rentEnd) := by
  refine { sound.cons (.updateRenter rentTasks rentEnd) with renter := fun named => ?_ }
  rw [onUpdateCurRenterWallet] at named ⊢
  cases found : rentTasks.keys.find? (fun wallet => rentEnd wallet > 0) with
  | none =>
    rw [found] at named
    exact (named rfl).elim
  | some wallet =>
    have rented := List.find?_some found
    exact ⟨rentTasks, rentEnd, List.mem_cons_self, List.mem_of_find?_eq_some found, of_decide_eq_true rented⟩

/-- All servers of a list are sent a message that they may hear. -/
theorem Sound.sendAll (sound : Sound dbc miner stored trace s) (view : MonitorView) (name : Bytes)
    {message : MonitorMessage} {servers : List MonitorServer}
    (may : ∀ server ∈ servers, MayHear dbc miner stored trace server message) :
    Sound dbc miner stored trace (servers.foldl (sendMonitorData view name message) s) := by
  induction servers generalizing s with
  | nil => exact sound
  | cons server rest ih =>
    refine ih ?_ (fun other member => may other (List.mem_cons_of_mem _ member))
    rw [sendMonitorData]
    split
    · exact sound
    split
    · refine { sound with sent := fun entry member => ?_ }
      rcases List.mem_append.mp member with old | new
      · exact sound.sent entry old
      · rw [List.mem_singleton.mp new]
        exact may server List.mem_cons_self
    · exact sound

theorem Sound.sendTask (view : MonitorView) (seen : .sendDatas view ∈ trace) {ids : List Bytes}
    (tasks : view.rentTasks.find wallet = some ids) {acc : HostMonitorData × NodeMonitor}
    (sound : Sound dbc miner stored trace acc.2) (among : taskId ∈ ids) :
    Sound dbc miner stored trace (sendTask view wallet acc taskId).2 := by
  obtain ⟨hmData, s⟩ := acc
  rw [NodeMonitor.sendTask]
  dsimp only
  split
  · exact sound
  rename_i real
  split
  · exact sound
  split
  · exact sound
  split
  · exact sound
  rename_i now read
  dsimp only
  have readFrom : ReadFrom trace taskId (s.domainData taskId now) := by
    rw [domainData]
    split
    · exact .first seen read
    · rename_i last found
      exact .later seen read (sound.datas taskId last found)
  have stored : Sound dbc miner stored trace
      { s with monitorDatas := s.monitorDatas.insert taskId (s.domainData taskId now) } := by
    refine { sound with datas := fun other data found => ?_ }
    rw [OrdMap.find_insert] at found
    split at found
    · rename_i same
      cases found
      exact same ▸ readFrom
    · exact sound.datas other data found
  exact stored.sendAll view taskId fun server member =>
    ⟨sound.chosen wallet server member, ⟨view, ids, seen, tasks, among⟩, readFrom,
      Bool.eq_false_of_not_eq_true real⟩

theorem Sound.sendWallet (view : MonitorView) (seen : .sendDatas view ∈ trace) {acc : HostMonitorData × NodeMonitor}
    (sound : Sound dbc miner stored trace acc.2) {entry : Bytes × List Bytes}
    (listed : entry ∈ view.rentTasks.entries) : Sound dbc miner stored trace (sendWallet view acc entry).2 := by
  obtain ⟨hmData, s⟩ := acc
  rw [NodeMonitor.sendWallet]
  refine List.foldlRecOn entry.2 (NodeMonitor.sendTask view entry.1)
    (motive := fun acc => Sound dbc miner stored trace acc.2) ?_ ?_
  · exact sound
  · intro inner before taskId among
    exact Sound.sendTask view seen (OrdMap.find_eq_some.mpr listed) before among

theorem Sound.sendDatas (sound : Sound dbc miner stored trace s) (view : MonitorView) :
    Sound dbc miner stored (.sendDatas view :: trace) (s.onMonitorDataSender view) := by
  have seen : MonitorEvent.sendDatas view ∈ MonitorEvent.sendDatas view :: trace := List.mem_cons_self
  have told : Sound dbc miner stored (.sendDatas view :: trace)
      (view.rentTasks.entries.foldl (NodeMonitor.sendWallet view) (⟨0, 0, 0, 0, 0⟩, s)).2 := by
    refine List.foldlRecOn view.rentTasks.entries (NodeMonitor.sendWallet view)
      (motive := fun acc => Sound dbc miner stored (.sendDatas view :: trace) acc.2) ?_ ?_
    · exact sound.cons _
    · intro acc before entry listed
      exact Sound.sendWallet view seen before listed
  rw [onMonitorDataSender]
  generalize view.rentTasks.entries.foldl (NodeMonitor.sendWallet view) (⟨0, 0, 0, 0, 0⟩, s) = acc at told
  obtain ⟨hmData, u⟩ := acc
  have cleaned : Sound dbc miner stored (.sendDatas view :: trace)
      { u with monitorDatas := u.monitorDatas.filter (fun entry => (view.status entry.1).isSome) } := by
    refine { told with datas := fun taskId data found => ?_ }
    dsimp only at found
    rw [OrdMap.find_filter] at found
    exact told.datas taskId data (Option.filter_eq_some_iff.mp found).1
  refine cleaned.sendAll view view.nodeId fun server member => ?_
  rcases List.mem_append.mp member with rented | own
  · split at rented
    · rename_i named
      exact Or.inr (Or.inr ⟨u.curRenterWallet, told.renter named, told.chosen _ server rented⟩)
    · cases rented
  · rcases List.mem_cons.mp own with isDbc | rest
    · exact Or.inl (isDbc.trans told.ours)
    · exact Or.inr (Or.inl ((List.mem_singleton.mp rest).trans told.miners))

theorem Sound.step (sound : Sound dbc miner stored trace s) (ran : s.step event = some t) :
    Sound dbc miner stored (event :: trace) t := by
  cases event with
  | setServers wallet additional =>
    rw [NodeMonitor.step] at ran
    split at ran
    · rename_i changed
      cases ran
      exact sound.setServers changed
    · cases ran
      exact sound.cons _
  | updateRenter rentTasks rentEnd =>
    cases ran
    exact sound.updateRenter rentTasks rentEnd
  | sendDatas view =>
    cases ran
    exact sound.sendDatas view

theorem Sound.run (run : Reaches NodeMonitor.step (NodeMonitor.init dbc miner stored) trace s) :
    Sound dbc miner stored trace s := by
  have first : Sound dbc miner stored [] (NodeMonitor.init dbc miner stored) :=
    { ours := rfl
      miners := rfl
      few := fun wallet servers found => Or.inr found
      chosen := fun wallet server member => by
        rw [serversOf, NodeMonitor.init] at member
        dsimp only at member
        cases found : stored.find wallet with
        | none =>
          rw [found] at member
          cases member
        | some servers =>
          rw [found] at member
          exact Or.inr ⟨servers, found, member⟩
      renter := fun wrong => (wrong rfl).elim
      datas := fun taskId data found => by cases found
      sent := List.forall_mem_nil _ }
  exact Run.history first (fun sound _ ran => sound.step ran) run

/-- In every run, whatever the wallets ask for, whoever rents the machine
and whatever is read: a server is told the data of a task only if the wallet
of that task has chosen it, and what comes from readings of that task alone;
the data of the machine go to the two servers of the configuration and to
those that a renter has chosen; and no request makes a wallet have more than
two servers. -/
theorem recipients_of_run (run : Reaches NodeMonitor.step (NodeMonitor.init dbc miner stored) trace s) :
    (∀ entry ∈ s.sent, MayHear dbc miner stored trace entry.1 entry.2) ∧
      ∀ wallet servers, s.walletMonitors.find wallet = some servers →
        servers.length ≤ 2 ∨ stored.find wallet = some servers :=
  ⟨(Sound.run run).sent, (Sound.run run).few⟩

/-- What sending leaves alone; and what is sent comes after what was sent
before. -/
structure Kept (s t : NodeMonitor) : Prop where
  servers : t.walletMonitors = s.walletMonitors
  sent : s.sent <+: t.sent

theorem Kept.refl (s : NodeMonitor) : Kept s s := ⟨rfl, List.prefix_refl _⟩

theorem Kept.trans {u : NodeMonitor} (first : Kept s t) (second : Kept t u) : Kept s u :=
  ⟨second.servers.trans first.servers, first.sent.trans second.sent⟩

theorem Kept.foldl {α β : Type} {f : β → α → β} {g : β → NodeMonitor}
    (kept : ∀ acc item, Kept (g acc) (g (f acc item))) (items : List α) (acc : β) :
    Kept (g acc) (g (items.foldl f acc)) := by
  induction items generalizing acc with
  | nil => exact Kept.refl _
  | cons item rest ih => exact (kept acc item).trans (ih (f acc item))

theorem kept_sendMonitorData (view : MonitorView) (name : Bytes) (message : MonitorMessage) (s : NodeMonitor)
    (server : MonitorServer) : Kept s (sendMonitorData view name message s server) := by
  rw [sendMonitorData]
  split
  · exact Kept.refl s
  split
  · exact ⟨rfl, List.prefix_append _ _⟩
  · exact Kept.refl s

theorem kept_sendAll (view : MonitorView) (name : Bytes) (message : MonitorMessage) (s : NodeMonitor)
    (servers : List MonitorServer) : Kept s (servers.foldl (sendMonitorData view name message) s) :=
  Kept.foldl (g := id) (kept_sendMonitorData view name message) servers s

theorem kept_sendTask (view : MonitorView) (wallet : Bytes) (acc : HostMonitorData × NodeMonitor) (taskId : Bytes) :
    Kept acc.2 (sendTask view wallet acc taskId).2 := by
  obtain ⟨hmData, s⟩ := acc
  rw [sendTask]
  dsimp only
  split
  · exact Kept.refl s
  split
  · exact Kept.refl s
  split
  · exact Kept.refl s
  split
  · exact Kept.refl s
  rename_i now read
  have stored : Kept s { s with monitorDatas := s.monitorDatas.insert taskId (s.domainData taskId now) } :=
    ⟨rfl, List.prefix_refl _⟩
  exact stored.trans (kept_sendAll view taskId _ _ _)

theorem kept_sendWallet (view : MonitorView) (acc : HostMonitorData × NodeMonitor) (entry : Bytes × List Bytes) :
    Kept acc.2 (sendWallet view acc entry).2 := by
  obtain ⟨hmData, s⟩ := acc
  rw [sendWallet]
  generalize (if entry.1 = s.curRenterWallet then _ else hmData) = counted
  exact Kept.foldl (g := Prod.snd) (kept_sendTask view entry.1) entry.2 (counted, s)

theorem kept_sender (view : MonitorView) (s : NodeMonitor) :
    Kept (view.rentTasks.entries.foldl (sendWallet view) (⟨0, 0, 0, 0, 0⟩, s)).2 (s.onMonitorDataSender view) := by
  rw [onMonitorDataSender]
  generalize view.rentTasks.entries.foldl (sendWallet view) (⟨0, 0, 0, 0, 0⟩, s) = acc
  obtain ⟨hmData, u⟩ := acc
  have cleaned : Kept u
      { u with monitorDatas := u.monitorDatas.filter (fun entry => (view.status entry.1).isSome) } :=
    ⟨rfl, List.prefix_refl _⟩
  exact cleaned.trans (kept_sendAll view view.nodeId _ _ _)

theorem kept_onMonitorDataSender (view : MonitorView) (s : NodeMonitor) : Kept s (s.onMonitorDataSender view) := by
  have loops := Kept.foldl (g := Prod.snd) (kept_sendWallet view) view.rentTasks.entries
    ((⟨0, 0, 0, 0, 0⟩ : HostMonitorData), s)
  exact loops.trans (kept_sender view s)

/-- Where a loop takes one of its items, with what holds before each of
them. -/
theorem reached {α β : Type} {f : β → α → β} {g : β → NodeMonitor} {P : β → Prop} {items : List α}
    {item : α}
    (acc : β) (kept : ∀ acc item, Kept (g acc) (g (f acc item))) (first : P acc)
    (preserved : ∀ acc, P acc → ∀ item ∈ items, P (f acc item)) (member : item ∈ items) :
    ∃ before, P before ∧ Kept (g acc) (g before) ∧ Kept (g (f before item)) (g (items.foldl f acc)) := by
  obtain ⟨before, after, rfl⟩ := List.append_of_mem member
  rw [List.foldl_append, List.foldl_cons]
  have holds : P (before.foldl f acc) :=
    List.foldlRecOn before f (motive := P) first fun acc holds item listed =>
      preserved acc holds item (List.mem_append_left _ listed)
  exact ⟨before.foldl f acc, holds, Kept.foldl kept before acc, Kept.foldl kept after _⟩

/-- What the timer adds to what was sent. -/
def Adds (s t : NodeMonitor) (entry : MonitorServer × MonitorMessage) : Prop :=
  ∃ added, t.sent = s.sent ++ added ∧ entry ∈ added

theorem Adds.grow {r u : NodeMonitor} {entry : MonitorServer × MonitorMessage} (adds : Adds s t entry)
    (before : Kept r s) (after : Kept t u) : Adds r u entry := by
  obtain ⟨added, sent, member⟩ := adds
  obtain ⟨early, first⟩ := before.sent
  obtain ⟨late, last⟩ := after.sent
  refine ⟨early ++ added ++ late, ?_, List.mem_append_left _ (List.mem_append_right _ member)⟩
  rw [← last, sent, ← first]
  simp only [List.append_assoc]

/-- Data that are made of what is read at this turn of the timer. -/
def MadeFrom (trace : List MonitorEvent) (view : MonitorView) (taskId : Bytes) (data : DomMonitorData) : Prop :=
  ∃ now, view.reading taskId = some now ∧
    (data = now ∨ ∃ last, ReadFrom trace taskId last ∧ data = (now.calculatorUsageAndSpeed last).1)

/-- A task of which there is something to tell. -/
structure Tells (view : MonitorView) (wallet taskId : Bytes) : Prop where
  tasks : ∃ ids, view.rentTasks.find wallet = some ids ∧ taskId ∈ ids
  real : holdsText taskId (str "vm_check_") = false
  status : ∃ status, view.status taskId = some status ∧ status ≠ .creating ∧ status ≠ .createTaskError
  reading : (view.reading taskId).isSome = true

/-- A server that can be reached and wants to be told. -/
structure Listens (view : MonitorView) (taskId : Bytes) (server : MonitorServer) : Prop where
  host : server.host ≠ []
  port : server.port ≠ []
  wanted : view.wanted server taskId = true

theorem told_sendTask {view : MonitorView} (tells : Tells view wallet taskId) (listens : Listens view taskId server)
    (acc : HostMonitorData × NodeMonitor) (sound : Sound dbc miner stored trace acc.2)
    (chosen : server ∈ acc.2.serversOf wallet) :
    ∃ data, Adds acc.2 (sendTask view wallet acc taskId).2 (server, .domain wallet taskId data) ∧
      MadeFrom trace view taskId data := by
  obtain ⟨hmData, s⟩ := acc
  obtain ⟨status, known, notCreating, notFailed⟩ := tells.status
  obtain ⟨now, read⟩ := Option.isSome_iff_exists.mp tells.reading
  simp only [sendTask, tells.real, Bool.false_eq_true, if_false, known, notCreating, notFailed, or_self, read]
  refine ⟨s.domainData taskId now, ?_, now, read, ?_⟩
  · obtain ⟨before, _, soFar, after⟩ := reached (g := id) (P := fun _ => True)
      (f := sendMonitorData view taskId (.domain wallet taskId (s.domainData taskId now)))
      { s with monitorDatas := s.monitorDatas.insert taskId (s.domainData taskId now) }
      (kept_sendMonitorData view taskId (.domain wallet taskId (s.domainData taskId now))) trivial
      (fun _ _ _ _ => trivial) chosen
    have inserted : Kept s { s with monitorDatas := s.monitorDatas.insert taskId (s.domainData taskId now) } :=
      ⟨rfl, List.prefix_refl _⟩
    refine Adds.grow ⟨[(server, .domain wallet taskId (s.domainData taskId now))], ?_, List.mem_singleton_self _⟩
      (inserted.trans soFar) after
    rw [id, sendMonitorData, if_neg (by simp [listens.host, listens.port]), if_pos listens.wanted]
    rfl
  · rw [domainData]
    split
    · exact Or.inl rfl
    · rename_i last found
      exact Or.inr ⟨last, sound.datas taskId last found, rfl⟩

theorem serversOf_congr (same : t.walletMonitors = s.walletMonitors) (wallet : Bytes) :
    t.serversOf wallet = s.serversOf wallet := by
  rw [serversOf, same, serversOf]

theorem told_sender {view : MonitorView} (tells : Tells view wallet taskId) (listens : Listens view taskId server)
    (sound : Sound dbc miner stored trace s) (chosen : server ∈ s.serversOf wallet) :
    ∃ data, Adds s (s.onMonitorDataSender view) (server, .domain wallet taskId data) ∧
      MadeFrom (.sendDatas view :: trace) view taskId data := by
  have seen : MonitorEvent.sendDatas view ∈ MonitorEvent.sendDatas view :: trace := List.mem_cons_self
  obtain ⟨ids, tasks, among⟩ := tells.tasks
  obtain ⟨outer, outerSound, untilWallet, rest⟩ := reached (g := Prod.snd)
    (P := fun acc => Sound dbc miner stored (.sendDatas view :: trace) acc.2)
    ((⟨0, 0, 0, 0, 0⟩ : HostMonitorData), s) (kept_sendWallet view) (sound.cons _)
    (fun acc before entry listed => Sound.sendWallet view seen before listed) (OrdMap.find_eq_some.mp tasks)
  obtain ⟨hmData, u⟩ := outer
  obtain ⟨inner, innerSound, untilTask, others⟩ := reached (g := Prod.snd)
    (P := fun acc => Sound dbc miner stored (.sendDatas view :: trace) acc.2)
    (if wallet = u.curRenterWallet then { hmData with vmCount := ids.length } else hmData, u)
    (kept_sendTask view wallet) outerSound
    (fun acc before taskId listed => Sound.sendTask view seen tasks before listed) among
  have same := (untilWallet.trans untilTask).servers
  obtain ⟨data, adds, made⟩ := told_sendTask tells listens inner innerSound (serversOf_congr same wallet ▸ chosen)
  exact ⟨data, adds.grow (untilWallet.trans untilTask) (others.trans (rest.trans (kept_sender view s))), made⟩

/-- Only a request of the wallet changes its servers. -/
theorem serversOf_step (ran : s.step event = some t) (other : ∀ additional, event ≠ .setServers wallet additional) :
    t.serversOf wallet = s.serversOf wallet := by
  cases event with
  | setServers asking additional =>
    have different : wallet ≠ asking := fun same => other additional (same ▸ rfl)
    rw [NodeMonitor.step] at ran
    split at ran
    · rename_i changed
      cases ran
      rcases setMonitorServer_ok changed with rfl | ⟨items, servers, _, _, _, rfl⟩
      · rfl
      · rw [serversOf, serversOf, OrdMap.find_insert_ne different]
    · cases ran
      rfl
  | updateRenter rentTasks rentEnd =>
    cases ran
    rfl
  | sendDatas view =>
    cases ran
    exact serversOf_congr (kept_onMonitorDataSender view s).servers wallet

theorem setMonitorServer_servers {additional : Json} {items : List Json} {servers : List MonitorServer}
    (found : (additional.member (str "servers")).bind Json.getArray = some items) (few : items.length ≤ 2)
    (read : readServers items [] = .ok servers) :
    s.setMonitorServer wallet additional =
      .ok { s with walletMonitors := s.walletMonitors.insert wallet servers } := by
  obtain ⟨member, named, isArray⟩ := Option.bind_eq_some_iff.mp found
  have isObject : additional.isObject = true := by
    cases additional with
    | object members => rfl
    | _ => cases named
  rw [setMonitorServer, if_neg (by rw [isObject]; simp), named]
  dsimp only
  rw [isArray]
  dsimp only
  rw [if_neg (Nat.not_lt.mpr few), read]

theorem serversOf_run {later earlier : List MonitorEvent} {additional : Json} {items : List Json}
    {servers : List MonitorServer}
    (run : Reaches NodeMonitor.step (NodeMonitor.init dbc miner stored)
      (later ++ .setServers wallet additional :: earlier) s)
    (last : ∀ additional, .setServers wallet additional ∉ later)
    (found : (additional.member (str "servers")).bind Json.getArray = some items) (few : items.length ≤ 2)
    (read : readServers items [] = .ok servers) : s.serversOf wallet = servers := by
  induction later generalizing s with
  | nil =>
    cases run with
    | next before _ ran =>
      rw [NodeMonitor.step, setMonitorServer_servers found few read] at ran
      cases ran
      rw [serversOf, OrdMap.find_insert, if_pos rfl, Option.getD_some]
  | cons event later ih =>
    cases run with
    | next before _ ran =>
      have other : ∀ additional, event ≠ .setServers wallet additional :=
        fun additional same => last additional (same ▸ List.mem_cons_self)
      rw [serversOf_step ran other]
      exact ih before (fun additional member => last additional (List.mem_cons_of_mem _ member))

/-- After the last request of a wallet, whatever else has happened since,
each turn of the timer tells each server of that request, anew, about each
task of the wallet of which there is something to tell, with data that are
made of what is read at this turn. -/
theorem told_of_run {later earlier : List MonitorEvent} {additional : Json} {items : List Json}
    {servers : List MonitorServer} {view : MonitorView}
    (run : Reaches NodeMonitor.step (NodeMonitor.init dbc miner stored)
      (later ++ .setServers wallet additional :: earlier) s)
    (last : ∀ additional, .setServers wallet additional ∉ later)
    (found : (additional.member (str "servers")).bind Json.getArray = some items) (few : items.length ≤ 2)
    (read : readServers items [] = .ok servers) (tells : Tells view wallet taskId) :
    ∀ server ∈ servers, Listens view taskId server →
      ∃ data, Adds s (s.onMonitorDataSender view) (server, .domain wallet taskId data) ∧
        MadeFrom (.sendDatas view :: (later ++ .setServers wallet additional :: earlier)) view taskId data := by
  intro server member listens
  have chosen := (serversOf_run run last found few read).symm ▸ member
  exact told_sender tells listens (Sound.run run) chosen

section Example

/-- A request for one server. -/
def oneRequest : Json := .object [(str "servers", .array [.string (str "m:1")])]

/-- One wallet with one task. -/
def oneView : MonitorView where
  rentTasks := .insert .empty (str "w") [str "t"]
  status := fun _ => some .running
  gpus := fun _ => 1
  reading := fun _ => some (sample 1000 5000000000 500)
  wanted := fun _ _ => true
  nodeId := str "n"

theorem oneView_tells : Tells oneView (str "w") (str "t") :=
  ⟨⟨[str "t"], by decide +kernel, List.mem_singleton_self _⟩, by decide +kernel,
    ⟨.running, rfl, by decide, by decide⟩, rfl⟩

theorem recipients_of_run_one : ∃ trace s,
    Reaches NodeMonitor.step (NodeMonitor.init ⟨str "d", str "2"⟩ ⟨[], []⟩ .empty) trace s ∧ s.sent.length = 3 ∧
      ∀ entry ∈ s.sent, MayHear ⟨str "d", str "2"⟩ ⟨[], []⟩ .empty trace entry.1 entry.2 := by
  have facts : (runAll NodeMonitor.step (NodeMonitor.init ⟨str "d", str "2"⟩ ⟨[], []⟩ .empty)
      [.setServers (str "w") oneRequest, .updateRenter oneView.rentTasks fun _ => 1, .sendDatas oneView]).any
        (fun s => s.sent.length = 3) = true := by decide +kernel
  obtain ⟨s, ran, shown⟩ := (Option.any_eq_true _ _).mp facts
  have run := Reaches.of_runAll _ .start ran
  exact ⟨_, s, run, of_decide_eq_true shown, (recipients_of_run run).1⟩

theorem told_of_run_one : ∃ s : NodeMonitor, ∃ data,
    Adds s (s.onMonitorDataSender oneView) (⟨str "m", str "1"⟩, .domain (str "w") (str "t") data) := by
  have run : Reaches NodeMonitor.step (NodeMonitor.init ⟨str "d", str "2"⟩ ⟨[], []⟩ .empty)
      ([] ++ [.setServers (str "w") oneRequest]) _ := .next .start trivial rfl
  have read : readServers [.string (str "m:1")] [] = .ok [⟨str "m", str "1"⟩] := by decide +kernel
  have found : (oneRequest.member (str "servers")).bind Json.getArray = some [.string (str "m:1")] := rfl
  obtain ⟨data, adds, _⟩ := told_of_run run (fun _ => List.not_mem_nil) found (by decide) read oneView_tells
    ⟨str "m", str "1"⟩ (List.mem_singleton_self _) ⟨by decide, by decide, rfl⟩
  exact ⟨_, data, adds⟩

end Example

end NodeMonitor

end DbcNode.Monitor
