import DbcNode.Lan.Flags
import DbcNode.Lib.Fills

namespace DbcNode

/-- A node with its `network.db`, which keeps a record under its id. -/
structure LanStore where
  node : LanNode
  db : OrdMap Bytes NetworkInfo

/-- What is done with the table: the operations of `VxlanManager`, a change
of what is known of other nodes, and a restart. -/
inductive StoreEvent
  | createNetworkServer (w : LanWorld) (networkName ipCidr wallet : Bytes)
  | createNetworkClient (w : LanWorld) (networkName : Bytes)
  | addNetworkFromMulticast (r : LanRecord)
  | deleteNetwork (networkName wallet : Bytes)
  | deleteNetworkFromMulticast (networkName : Bytes)
  | moveNetwork (w : LanWorld) (networkName newMachineId : Bytes)
  | moveNetworkAck (networkName newMachineId : Bytes)
  | joinNetwork (now : Int) (networkName taskId : Bytes)
  | leaveNetwork (now : Int) (networkName taskId : Bytes)
  | lanNodes (known : OrdMap Bytes LanMachineInfo)
  | restart (now : Int)

namespace LanStore

def updateNetworkDb (info : NetworkInfo) (d : LanStore) : LanStore :=
    { d with db := d.db.insert info.networkId info }

def deleteNetworkDb (networkName : Bytes) (d : LanStore) : LanStore := { d with db := d.db.erase networkName }

def put (networkName : Bytes) (info : NetworkInfo) (d : LanStore) : LanStore :=
    { d with node := d.node.put networkName info }

/-- The record goes to the database, and the same one into the table. -/
def createNetworkServer (w : LanWorld) (networkName ipCidr wallet : Bytes) (d : LanStore) : LanStore :=
  match d.node.createNetworkServer w networkName ipCidr wallet with
  | .error _ => d
  | .ok (next, _) =>
    match next.networks.find networkName with
    | none => d
    | some info => { d.updateNetworkDb info with node := next }

/-- The record goes to the database as it was, and then the flag is set. -/
def createNetworkClient (w : LanWorld) (networkName : Bytes) (d : LanStore) : LanStore :=
  match d.node.getNetwork networkName with
  | none => d
  | some info =>
    if info.nativeFlags.device ∨ d.node.isSameHost info.machineId then d
    else if info.bridgeName = [] ∨ info.vxlanName = [] ∨ info.vxlanVni = [] then d
    else match w.createVxlanDevice networkName with
      | .error _ => d
      | .ok _ => (d.updateNetworkDb info).put networkName
          { info with nativeFlags := { info.nativeFlags with device := true } }

/-- A record that tells nothing new is not stored again. -/
def addNetworkFromMulticast (info : NetworkInfo) (d : LanStore) : LanStore :=
  if info.machineId = d.node.machineId then d
  else
    let info := d.node.told info
    match d.node.getNetwork info.networkId with
    | some old =>
      if { info with lastUpdateTime := old.lastUpdateTime } = old then
        d.put info.networkId { old with lastUpdateTime := info.lastUpdateTime }
      else (d.updateNetworkDb info).put info.networkId info
    | none => (d.updateNetworkDb info).put info.networkId info

def deleteNetwork (networkName wallet : Bytes) (d : LanStore) : LanStore :=
  match d.node.deleteNetwork networkName wallet with
  | .error _ => d
  | .ok (next, _) => { d.deleteNetworkDb networkName with node := next }

def deleteNetworkFromMulticast (networkName : Bytes) (d : LanStore) : LanStore :=
  match d.node.networks.find networkName with
  | none => d
  | some _ => { d.deleteNetworkDb networkName with node := d.node.deleteNetworkFromMulticast networkName }

/-- The table is changed, and then the record goes to the database. -/
def change (networkName : Bytes) (info : NetworkInfo) (d : LanStore) : LanStore :=
  (d.put networkName info).updateNetworkDb info

def moveNetwork (w : LanWorld) (networkName newMachineId : Bytes) (d : LanStore) : LanStore :=
  match d.node.getNetwork networkName with
  | none => d
  | some info =>
    if newMachineId ≠ d.node.machineId then d
    else match d.node.serveNetwork w networkName info with
      | .error _ => d
      | .ok _ => d.change networkName { info with nativeFlags := ⟨true, true⟩, machineId := newMachineId }

def moveNetworkAck (networkName newMachineId : Bytes) (d : LanStore) : LanStore :=
  match d.node.getNetwork networkName with
  | none => d
  | some info =>
    if newMachineId = d.node.machineId then d
    else d.change networkName
      { info with machineId := newMachineId, nativeFlags := { info.nativeFlags with dhcpServer := false } }

def joinNetwork (now : Int) (networkName taskId : Bytes) (d : LanStore) : LanStore :=
  match d.node.getNetwork networkName with
  | none => d
  | some info => d.change networkName { info with members := info.members ++ [taskId], lastUseTime := now }

def leaveNetwork (now : Int) (networkName taskId : Bytes) (d : LanStore) : LanStore :=
  match d.node.getNetwork networkName with
  | none => d
  | some info => d.change networkName { info with members := info.members.filter (· ≠ taskId), lastUseTime := now }

/-- `LoadNetworkInfoFromDb`: a record without an id is passed over. -/
def loadNetworkInfoFromDb (now : Int) (db : OrdMap Bytes NetworkInfo) : OrdMap Bytes NetworkInfo :=
  (db.entries.filter (·.2.networkId ≠ [])).foldl
    (fun networks entry => networks.insert entry.2.networkId { entry.2 with lastUpdateTime := now }) .empty

/-- Every write to the database succeeds. -/
def step (d : LanStore) : StoreEvent → Option LanStore
  | .createNetworkServer w networkName ipCidr wallet =>
    if w.updateNetworkDb then some (d.createNetworkServer w networkName ipCidr wallet) else none
  | .createNetworkClient w networkName =>
      if w.updateNetworkDb then some (d.createNetworkClient w networkName) else none
  | .addNetworkFromMulticast r => some (d.addNetworkFromMulticast (r.network.info r.machineId r.members r.now))
  | .deleteNetwork networkName wallet => some (d.deleteNetwork networkName wallet)
  | .deleteNetworkFromMulticast networkName => some (d.deleteNetworkFromMulticast networkName)
  | .moveNetwork w networkName newMachineId => some (d.moveNetwork w networkName newMachineId)
  | .moveNetworkAck networkName newMachineId => some (d.moveNetworkAck networkName newMachineId)
  | .joinNetwork now networkName taskId => some (d.joinNetwork now networkName taskId)
  | .leaveNetwork now networkName taskId => some (d.leaveNetwork now networkName taskId)
  | .lanNodes known => some { d with node := { d.node with lanNodes := known } }
  | .restart now => some { d with node := { d.node with networks := loadNetworkInfoFromDb now d.db } }

/-- A node with an empty table. -/
def start (node : LanNode) : LanStore := ⟨{ node with networks := .empty }, .empty⟩

/-- A record but for its last time. -/
def lasting (info : NetworkInfo) : NetworkInfo := { info with lastUpdateTime := 0 }

/-- The database has the records of the table, and a restart brings them
back. -/
structure Persisted (d : LanStore) : Prop where
  same : ∀ name, (d.db.find name).map lasting = (d.node.networks.find name).map lasting
  restored : ∀ now name, ((loadNetworkInfoFromDb now d.db).find name).map lasting =
    (d.node.networks.find name).map lasting

/-- No client makes its device, and no record without a name is heard. -/
def Safe (d : LanStore) : StoreEvent → Prop
  | .createNetworkClient w networkName =>
    d.node.clientCreatesDevice networkName = false ∨ (w.createVxlanDevice networkName).isOk = false
  | .addNetworkFromMulticast r => r.machineId = d.node.machineId ∨ r.network.networkName ≠ []
  | _ => True

instance (d : LanStore) (event : StoreEvent) : Decidable (d.Safe event) := by
  cases event <;> unfold Safe <;> infer_instance

end LanStore

end DbcNode
