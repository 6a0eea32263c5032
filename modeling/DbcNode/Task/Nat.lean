import DbcNode.Lib.NatTable
import DbcNode.Task.Events

namespace DbcNode

/-- `util::trim`. -/
def trimText (text : Bytes) : Bytes := ((text.dropWhile (· = 32)).reverse.dropWhile (· = 32)).reverse

/-- An address up to its last dot. -/
def networkOf (ip : Bytes) : Bytes :=
  match ip.reverse.dropWhile (· ≠ 46) with
  | [] => ip
  | _ :: rest => rest.reverse

/-- The chains of a task: `chain_<id>` of earlier versions, `<id>_dnat` and
`<id>_snat`. -/
inductive ChainKind
  | old
  | dnat
  | snat
  deriving DecidableEq, Repr

structure TaskChain where
  taskId : Bytes
  kind : ChainKind
  deriving DecidableEq

/-- The built-in chain that a chain is entered from. -/
def ChainKind.main : ChainKind → MainChain
  | .old | .dnat => .prerouting
  | .snat => .postrouting

/-- The table of a host, whose rules are the texts after the name of their
chain. -/
abbrev HostNat := NatTable TaskChain Bytes Bytes

abbrev HostCommand := NatCommand TaskChain Bytes Bytes

namespace IptableInfo
variable (nic : Bytes) (r : IptableInfo)

def taskNetIp : Bytes := if r.publicIp = [] then r.hostIp else r.publicIp

/-- A port of the host that is passed on. -/
def portRule (protocol dport port : Bytes) : Bytes :=
  str "-p " ++ protocol ++ str " --destination " ++ r.taskNetIp ++ str " --dport " ++ dport ++
    str " --jump DNAT --to-destination " ++ r.taskLocalIp ++ str ":" ++ port

/-- A range of ports that is passed on. -/
def rangeRule (protocol first last toFirst toLast : Bytes) : Bytes :=
  str "-p " ++ protocol ++ str " --destination " ++ r.taskNetIp ++ str " --dport " ++ first ++ str ":" ++ last ++
    str " -j DNAT --to-destination " ++ r.taskLocalIp ++ str ":" ++ toFirst ++ str "-" ++ toLast

/-- The rule of a custom port: one port, one that is passed on to another,
or ranges of them. What is none of these has no rule. -/
def customPortRule (protocol port : Bytes) : Option Bytes :=
  if isDigits port then some (r.portRule protocol port port)
  else match splitText 58 port, splitText 45 port with
    | [dport, inner], parts =>
      if isDigits dport ∧ isDigits inner then some (r.portRule protocol dport inner)
      else match parts with
        | [first, last] => if isDigits first ∧ isDigits last then some (r.rangeRule protocol first last first last)
          else ranges dport inner
        | _ => ranges dport inner
    | _, [first, last] =>
      if isDigits first ∧ isDigits last then some (r.rangeRule protocol first last first last) else none
    | _, _ => none
where
  ranges (dport inner : Bytes) : Option Bytes :=
    match splitText 45 dport, splitText 45 inner with
    | [first, last], [toFirst, toLast] => some (r.rangeRule protocol first last toFirst toLast)
    | _, _ => none

def customRule (text : Bytes) : Option Bytes :=
  match splitText 44 text with
  | [protocol, port] =>
    if protocol = str "tcp" ∨ protocol = str "udp" then r.customPortRule protocol (trimText port) else none
  | _ => none

/-- The rules of the chain that passes connections on to a task. -/
def dnatRules : List Bytes :=
  (if r.sshPort > 0 then [r.portRule (str "tcp") (decimal r.sshPort.toNat) (str "22")] else []) ++
    (if r.rdpPort > 0 then [r.portRule (str "tcp") (decimal r.rdpPort.toNat) (str "3389")] else []) ++
    r.customPort.filterMap r.customRule ++
    (if r.publicIp ≠ [] then
      [str "--destination " ++ r.publicIp ++ str " --jump DNAT --to-destination " ++ r.taskLocalIp]
      else [])

def snatRule : Bytes := str "--source " ++ r.taskLocalIp ++ str " --jump SNAT --to-source " ++ r.publicIp

/-- The rules that earlier versions added to the built-in chains. -/
def oldRules : List (MainChain × Bytes) :=
  let port := decimal r.sshPort.toNat
  [(.prerouting, str "--protocol tcp --destination " ++ r.hostIp ++ str " --destination-port " ++ port ++
      str " --jump DNAT --to-destination " ++ r.taskLocalIp ++ str ":22"),
    (.prerouting, str "-p tcp --dport " ++ port ++ str " -j DNAT --to-destination " ++ r.taskLocalIp ++ str ":22"),
    (.postrouting, str "-p tcp --dport " ++ port ++ str " -d " ++ r.taskLocalIp ++ str " -j SNAT --to " ++
      networkOf r.taskLocalIp ++ str ".1"),
    (.prerouting, str "-p tcp -m tcp --dport 20000:60000 -j DNAT --to-destination " ++ r.taskLocalIp ++
      str ":20000-60000"),
    (.prerouting, str "-p udp -m udp --dport 20000:60000 -j DNAT --to-destination " ++ r.taskLocalIp ++
      str ":20000-60000"),
    (.postrouting,
      str "-d " ++ r.taskLocalIp ++ str " -p tcp -m tcp --dport 20000:60000 -j SNAT --to-source " ++ r.hostIp),
    (.postrouting,
      str "-d " ++ r.taskLocalIp ++ str " -p udp -m udp --dport 20000:60000 -j SNAT --to-source " ++ r.hostIp),
    (.prerouting, str "-p tcp -d " ++ r.hostIp ++ str " --dport " ++ port ++ str " -j DNAT --to-destination " ++
      r.taskLocalIp ++ str ":22"),
    (.postrouting, str "-s " ++ networkOf r.taskLocalIp ++ str ".0/24 -j SNAT --to-source " ++ r.hostIp),
    (.prerouting,
      str "-p tcp -d " ++ r.hostIp ++ str " --dport 6000:60000 -j DNAT --to-destination " ++ r.taskLocalIp ++
      str ":6000-60000")]

def removeChains : List HostCommand :=
  removeChain .prerouting ⟨r.taskId, .old⟩ ++ removeChain .prerouting ⟨r.taskId, .dnat⟩ ++
    removeChain .postrouting ⟨r.taskId, .snat⟩

/-- `shell_remove_iptable_from_system`. `nic` is the device of the default
route. -/
def shellRemove : List HostCommand :=
  r.removeChains ++ (if r.publicIp ≠ [] ∧ nic ≠ [] then [.delAddress r.publicIp] else []) ++
    r.oldRules.map (fun rule => .deleteRule rule.1 rule.2)

/-- The chain for the public ip of a task. -/
def addSnat : List HostCommand :=
  if r.publicIp = [] then []
  else [.newChain ⟨r.taskId, .snat⟩, .insert ⟨r.taskId, .snat⟩ r.snatRule,
    .insertJump .postrouting ⟨r.taskId, .snat⟩] ++ (if nic ≠ [] then [.addAddress r.publicIp] else [])

/-- `shell_add_iptable_to_system`. -/
def shellAdd : List HostCommand :=
  r.removeChains ++ [.newChain ⟨r.taskId, .dnat⟩] ++ r.dnatRules.map (.append ⟨r.taskId, .dnat⟩) ++
    [.insertJump .prerouting ⟨r.taskId, .dnat⟩] ++ r.addSnat nic

end IptableInfo

def NatCall.commands (nic : Bytes) : NatCall → List HostCommand
  | .added r => r.shellAdd nic
  | .removed r => r.shellRemove nic

/-- The table after these calls, the last one first. -/
def natTable (nic : Bytes) (calls : List NatCall) : HostNat :=
  calls.foldr (fun call t => t.run (call.commands nic)) NatTable.empty

/-- A table that has exactly what is installed for each of these records. -/
structure Installs (nic : Bytes) (t : HostNat) (installed : Bytes → Option IptableInfo) : Prop where
  chains : ∀ chain : TaskChain, t.slot chain =
    ((installed chain.taskId).map (fun r => (NatTable.empty.run (r.shellAdd nic)).slot chain)).getD .absent
  jumps : t.OnlyJumps
  addresses : ∀ address, address ∈ t.addresses ↔
    ∃ taskId r, installed taskId = some r ∧ address ∈ (NatTable.empty.run (r.shellAdd nic)).addresses

namespace Host

/-- The record of a task whose domain is running. -/
def installed (h : Host) (taskId : Bytes) : Option IptableInfo :=
  if h.getDomainStatus taskId = .running then h.taskIptables.find taskId else none

/-- The `nat` table and the addresses are those of the records of the tasks
that run. -/
def NatExact (nic : Bytes) (h : Host) : Prop := Installs nic (natTable nic h.nat) h.installed

end Host

end DbcNode
