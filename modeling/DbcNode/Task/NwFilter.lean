import DbcNode.Lib.Digits

namespace DbcNode

/-- The protocol element of a rule, with its attributes. -/
structure NwElement where
  name : Bytes
  dstportstart : Option Bytes
  dstportend : Option Bytes
  deriving DecidableEq

structure NwRule where
  action : Bytes
  direction : Bytes
  priority : Bytes
  element : Option NwElement
  deriving DecidableEq

/-- The document of a filter. -/
structure NwFilter where
  name : Bytes
  chain : Bytes
  uuid : Option Bytes
  filterref : Bytes
  rules : List NwRule

/-- The parts of a text "direction,protocol,port,cidr,action". -/
structure NwItem where
  direction : Bytes
  protocol : Bytes
  port : Bytes
  cidr : Bytes
  action : Bytes
  deriving DecidableEq

/-- The five parts that a rule is made of. Parts that are empty are left out
before they are counted. -/
def nwItem (text : Bytes) : Option NwItem :=
  match splitText 44 text with
  | [direction, protocol, port, cidr, action] => some ⟨direction, protocol, port, cidr, action⟩
  | _ => none

def portElement (name port : Bytes) : Option NwElement := some ⟨name, some port, none⟩

/-- The element for a protocol and a port. There is none for a protocol that
is not known, and no rule at all for a port without parts. -/
def protocolElement (protocol port : Bytes) : Option (Option NwElement) :=
  if protocol = str "all" then some (some ⟨str "all", none, none⟩)
  else if protocol = str "tcp" ∨ protocol = str "udp" then
    match splitText 45 port with
    | [] => none
    | [first, last] => some (some ⟨protocol, some first, some last⟩)
    | first :: _ => some (portElement protocol first)
  else if protocol = str "ssh" then some (portElement (str "tcp") (str "22"))
  else if protocol = str "rdp" then some (portElement (str "tcp") (str "3389"))
  else if protocol = str "http" then some (portElement (str "tcp") (str "80"))
  else if protocol = str "https" then some (portElement (str "tcp") (str "443"))
  else if protocol = str "icmp" then some (some ⟨str "icmp", none, none⟩)
  else if protocol = str "ftp" then some (some ⟨str "ftp", some (str "20"), some (str "21")⟩)
  else if protocol = str "dns(udp)" then some (portElement (str "udp") (str "53"))
  else if protocol = str "dns(tcp)" then some (portElement (str "tcp") (str "53"))
  else some none

def directions : List Bytes := [str "in", str "out", str "inout"]

def actions : List Bytes := [str "accept", str "drop"]

/-- `rule_func`. -/
def ruleFunc (item : NwItem) : Option NwRule :=
  if item.direction ∉ directions then none
  else if item.action ∉ actions then none
  else (protocolElement item.protocol item.port).map (⟨item.action, item.direction, str "500", ·⟩)

def NwItem.isAll (item : NwItem) : Bool :=
  item.protocol = str "all" ∧ item.port = str "all" ∧ item.cidr = str "0.0.0.0/0"

/-- The rules so far and `vec_rule_all`, after one more text. -/
def sortItem (sorted : List NwRule × List NwItem) (text : Bytes) : List NwRule × List NwItem :=
  match nwItem text with
  | none => sorted
  | some item =>
    if item.isAll then
      if item.action = str "drop" then (sorted.1, sorted.2 ++ [item])
      else if item.action = str "accept" then (sorted.1, item :: sorted.2)
      else sorted
    else (sorted.1 ++ (ruleFunc item).toList, sorted.2)

def createNWFilterXml (nwfilterName uuid : Bytes) (nwfilters : List Bytes) : NwFilter :=
  let sorted := nwfilters.foldl sortItem ([], [])
  { name := nwfilterName
    chain := str "root"
    uuid := if uuid = [] then none else some uuid
    filterref := str "clean-traffic"
    rules := sorted.1 ++ sorted.2.filterMap ruleFunc }

/-- What a packet carries, as far as the rules of libvirt ask for it. -/
inductive Payload
  | tcp (port : UInt16)
  | udp (port : UInt16)
  | icmp
  | other
  deriving DecidableEq

/-- A packet into a domain or out of it, with its destination port and the
remote address. -/
structure NwPacket where
  inbound : Bool
  payload : Payload
  remote : UInt32

/-- The number of a port. -/
def portNumber (text : Bytes) : Option UInt16 :=
  if isDigits text ∧ digitsValue text < 65536 then some (UInt16.ofNat (digitsValue text)) else none

def directionCovers (direction : Bytes) (packet : NwPacket) : Prop :=
  direction = str "inout" ∨ direction = (if packet.inbound then str "in" else str "out")

namespace NwElement

/-- The attributes of the protocols that have ports are numbers, or libvirt
refuses the filter. -/
def Valid (e : NwElement) : Prop :=
  e.name = str "tcp" ∨ e.name = str "udp" →
    (∀ text, e.dstportstart = some text → portNumber text ≠ none) ∧
      ∀ text, e.dstportend = some text → portNumber text ≠ none

/-- A first port without a last one is the only port. -/
def Allows (e : NwElement) (port : UInt16) : Prop :=
  ∀ text first, e.dstportstart = some text → portNumber text = some first →
    match e.dstportend.bind portNumber with
    | some last => first ≤ port ∧ port ≤ last
    | none => port = first

/-- An element that libvirt does not know is passed over, and the rule is as
without one. -/
def Matches (e : NwElement) (payload : Payload) : Prop :=
  if e.name = str "tcp" then ∃ port, payload = .tcp port ∧ e.Allows port
  else if e.name = str "udp" then ∃ port, payload = .udp port ∧ e.Allows port
  else if e.name = str "icmp" then payload = .icmp
  else True

end NwElement

def elementValid (element : Option NwElement) : Prop := ∀ e, element = some e → e.Valid

/-- A rule without a protocol is about all packets. -/
def elementTakes (element : Option NwElement) (payload : Payload) : Prop :=
    ∀ e, element = some e → e.Matches payload

namespace NwRule

def Valid (rule : NwRule) : Prop := elementValid rule.element

def Matches (rule : NwRule) (packet : NwPacket) : Prop :=
  directionCovers rule.direction packet ∧ elementTakes rule.element packet.payload

end NwRule

/-- What the protocol field names: all packets, those of a protocol, or of a
service. -/
inductive NwProtocol
  | all
  | icmp
  | tcp
  | udp
  | tcpPorts (first last : UInt16)
  | udpPorts (first last : UInt16)
  deriving DecidableEq

def nwProtocol (text : Bytes) : Option NwProtocol :=
  if text = str "all" then some .all
  else if text = str "tcp" then some .tcp
  else if text = str "udp" then some .udp
  else if text = str "ssh" then some (.tcpPorts 22 22)
  else if text = str "rdp" then some (.tcpPorts 3389 3389)
  else if text = str "http" then some (.tcpPorts 80 80)
  else if text = str "https" then some (.tcpPorts 443 443)
  else if text = str "icmp" then some .icmp
  else if text = str "ftp" then some (.tcpPorts 20 21)
  else if text = str "dns(udp)" then some (.udpPorts 53 53)
  else if text = str "dns(tcp)" then some (.tcpPorts 53 53)
  else none

def NwProtocol.Covers (payload : Payload) : NwProtocol → Prop
  | .all => True
  | .icmp => payload = .icmp
  | .tcp => ∃ port, payload = .tcp port
  | .udp => ∃ port, payload = .udp port
  | .tcpPorts first last => ∃ port, payload = .tcp port ∧ first ≤ port ∧ port ≤ last
  | .udpPorts first last => ∃ port, payload = .udp port ∧ first ≤ port ∧ port ≤ last

/-- The port field: all, or the ports of a range. -/
inductive PortField
  | all
  | range (first last : UInt16)
  deriving DecidableEq

def portField (text : Bytes) : Option PortField :=
  if text = str "all" then some .all
  else match text.splitOn 45 with
    | [port] => (portNumber port).map fun port => .range port port
    | [first, last] =>
      match portNumber first, portNumber last with
      | some first, some last => if first ≤ last then some (.range first last) else none
      | _, _ => none
    | _ => none

def PortField.Covers (payload : Payload) : PortField → Prop
  | .all => True
  | .range first last =>
    match payload with
    | .tcp port => first ≤ port ∧ port ≤ last
    | .udp port => first ≤ port ∧ port ≤ last
    | _ => False

/-- One of the four numbers of an address. -/
def octet (text : Bytes) : Option Nat :=
  if isDigits text ∧ digitsValue text < 256 then some (digitsValue text) else none

def addressOf (text : Bytes) : Option Nat :=
  match text.splitOn 46 with
  | [a, b, c, d] => do
    let a ← octet a
    let b ← octet b
    let c ← octet c
    let d ← octet d
    some (((a * 256 + b) * 256 + c) * 256 + d)
  | _ => none

/-- An address and the length of a prefix. -/
def cidrOf (text : Bytes) : Option (Nat × Nat) :=
  match text.splitOn 47 with
  | [address, length] =>
    if isDigits length ∧ digitsValue length ≤ 32 then (addressOf address).map (·, digitsValue length) else none
  | _ => none

def cidrCovers (text : Bytes) (remote : UInt32) : Prop :=
  ∃ base length, cidrOf text = some (base, length) ∧ remote.toNat / 2 ^ (32 - length) = base / 2 ^ (32 - length)

namespace NwItem

def WellFormed (item : NwItem) : Prop :=
  item.direction ∈ directions ∧ (nwProtocol item.protocol).isSome ∧ item.action ∈ actions ∧
    (portField item.port).isSome

/-- The packets that an item is about. -/
def Covers (item : NwItem) (packet : NwPacket) : Prop :=
  directionCovers item.direction packet ∧
    (∃ protocol, nwProtocol item.protocol = some protocol ∧ protocol.Covers packet.payload) ∧
    (∃ field, portField item.port = some field ∧ field.Covers packet.payload) ∧ cidrCovers item.cidr packet.remote

end NwItem

/-- The fields of a text, between its four commas; none of them is empty. -/
def nwFields (text : Bytes) : Option NwItem :=
  match text.splitOn 44 with
  | [direction, protocol, port, cidr, action] =>
    if [] ∈ [direction, protocol, port, cidr, action] then none else some ⟨direction, protocol, port, cidr, action⟩
  | _ => none

/-- What the text gets. -/
def nwRule (text : Bytes) : Option NwRule := (nwItem text).bind ruleFunc

/-- The text has a rule where it is a well-formed item, and only there, and
the rule says the same. -/
def TextSound (text : Bytes) : Prop :=
  match nwRule text with
  | none => ∀ item, nwFields text = some item → ¬ item.WellFormed
  | some rule => ∃ item, nwFields text = some item ∧ item.WellFormed ∧ rule.Valid ∧ rule.action = item.action ∧
      ∀ packet, rule.Matches packet ↔ item.Covers packet

namespace NwRule

/-- The rule is about all packets of its direction. -/
def Everything (rule : NwRule) : Prop := ∀ packet, directionCovers rule.direction packet → rule.Matches packet

open Classical in
/-- Specific rules, those that accept everything, and those that drop
everything. -/
noncomputable def rank (rule : NwRule) : Nat :=
  if rule.Everything then (if rule.action = str "drop" then 2 else 1) else 0

end NwRule

/-- The rules of a filter are those of its texts: first the specific ones in
their order, then those that accept everything, and then those that drop
everything, whatever they are written like. -/
structure FilterSound (nwfilters : List Bytes) (rules : List NwRule) : Prop where
  texts : ∀ text ∈ nwfilters, TextSound text
  all : rules.Perm (nwfilters.filterMap nwRule)
  order : rules.Pairwise fun a b => a.rank ≤ b.rank
  specifics : rules.filter (·.rank = 0) = (nwfilters.filterMap nwRule).filter (·.rank = 0)

/-- The rule of a protocol says all that the port field does: the field is
all for `all` and `icmp`, a range for `tcp` and `udp`, and has the port of a
service. -/
def NwProtocol.Fits (field : PortField) : NwProtocol → Prop
  | .all | .icmp => field = .all
  | .tcp | .udp => field ≠ .all
  | .tcpPorts first last => first = last ∧ field.Covers (.tcp first)
  | .udpPorts first last => first = last ∧ field.Covers (.udp first)

namespace NwItem

/-- The direction and the action are known, and the port of `tcp` or `udp`
has parts. -/
def Ruled (item : NwItem) : Prop :=
  item.direction ∈ directions ∧ item.action ∈ actions ∧
    (item.protocol = str "tcp" ∨ item.protocol = str "udp" → splitText 45 item.port ≠ [])

instance (item : NwItem) : Decidable item.Ruled := inferInstanceAs (Decidable (_ ∧ _ ∧ (_ → _)))

/-- The item says no more than its rule can: its protocol is known here and
to libvirt, and the prefix of its address is of length zero. -/
def Plain (item : NwItem) : Prop :=
  ∃ protocol field base, nwProtocol item.protocol = some protocol ∧ portField item.port = some field ∧
    protocol.Fits field ∧ cidrOf item.cidr = some (base, 0)

/-- The rank that the rule of a plain item has. -/
def rank (item : NwItem) : Nat :=
  if item.protocol = str "all" then (if item.action = str "drop" then 2 else 1) else 0

end NwItem

/-- An item about everything that is not written with `0.0.0.0/0`, and so
stays among the specific ones, comes behind these; and one that drops comes
behind all that accept everything, and none of those is written so. -/
structure InPlace (items : List NwItem) : Prop where
  later : (items.filter fun item => item.Ruled ∧ ¬ item.isAll).Pairwise fun a b => a.rank ≤ b.rank
  accepts : ∀ a ∈ items, ∀ b ∈ items, a.Ruled → a.isAll = false → a.rank = 2 → b.isAll = true → b.Ruled →
    b.action ≠ str "accept"

/-- The items of the texts that have five parts. -/
def nwItems (nwfilters : List Bytes) : List NwItem := nwfilters.filterMap nwItem

end DbcNode
