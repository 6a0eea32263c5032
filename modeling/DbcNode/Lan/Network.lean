import DbcNode.Lib.OrdMap
import DbcNode.Lib.Bytes

namespace DbcNode

/-- The bits `NATIVE_FLAGS_DEVICE` and `NATIVE_FLAGS_DHCPSERVER`. -/
structure NativeFlags where
  device : Bool
  dhcpServer : Bool
  deriving DecidableEq

/-- `networkInfo`. -/
structure NetworkInfo where
  networkId : Bytes
  bridgeName : Bytes
  vxlanName : Bytes
  vxlanVni : Bytes
  ipCidr : Bytes
  ipStart : Bytes
  ipEnd : Bytes
  dhcpInterface : Bytes
  machineId : Bytes
  rentWallet : Bytes
  members : List Bytes
  lastUseTime : Int
  nativeFlags : NativeFlags
  lastUpdateTime : Int
  deriving DecidableEq

/-- What `machine info` tells of a node, and when it was heard. -/
structure LanMachineInfo where
  netFlag : Int
  localAddress : Bytes
  curTime : Int
  deriving DecidableEq

/-- What a message tells of a network, apart from its owner and its
members. -/
structure NetworkData where
  networkName : Bytes
  bridgeName : Bytes
  vxlanName : Bytes
  vxlanVni : Bytes
  ipCidr : Bytes
  ipStart : Bytes
  ipEnd : Bytes
  dhcpInterface : Bytes
  rentWallet : Bytes
  lastUseTime : Int
  deriving DecidableEq

/-- The multicast messages, with what the parser takes from them. A text
that is missing is empty. -/
inductive LanMessage
  | machineInfo (machineId netType : Bytes) (netFlag : Int) (localPort : UInt16) (nodeType : Int)
  | machineExit (machineId : Bytes)
  | networkCreate (machineId : Bytes) (network : NetworkData)
  | networkDelete (machineId networkName : Bytes)
  | networkQuery (machineId : Bytes) (networks : List Bytes)
  | networkList (machineId : Bytes) (networks : List (NetworkData × List Bytes))
  | networkMove (machineId networkName newMachineId : Bytes) (candidateQueue : List Bytes)
  | networkMoveAck (machineId networkName newMachineId : Bytes)
  | networkJoin (machineId networkName taskId : Bytes)
  | networkLeave (machineId networkName taskId : Bytes)
  deriving DecidableEq

/-- What a node meets during one step: the clock, what the shell commands
for a network and the database answer, and the random numbers. -/
structure LanWorld where
  now : Int
  createVxlanDevice : Bytes → Except Bytes Unit
  startDhcpServer : Bytes → Except Bytes Unit
  updateNetworkDb : Bool
  randomString : Bytes
  rands : List Nat

/-- A host where all goes well. -/
def LanWorld.fine (now : Int) (rands : List Nat) : LanWorld :=
  ⟨now, fun _ => .ok (), fun _ => .ok (), true, str "0123456789", rands⟩

def vniMax : Nat := 16777216

def isAlnum (b : UInt8) : Bool := 48 ≤ b ∧ b ≤ 57 ∨ 65 ≤ b ∧ b ≤ 90 ∨ 97 ≤ b ∧ b ≤ 122

def checkNetworkName (name : Bytes) : Bool := ¬ (name.length < 6 ∨ name.length > 10) ∧ name.all isAlnum

/-- One number of an address as `inet_pton` reads it: no leading zero, at
most 255. -/
def octetOf (text : Bytes) : Option Nat :=
  if isDigits text ∧ (text.head? = some 48 → text.length = 1) ∧ digitsValue text ≤ 255 then some (digitsValue text)
  else none

def inetPton (text : Bytes) : Option (BitVec 32) :=
  match (text.splitOn 46).map octetOf with
  | [some a, some b, some c, some d] => some (BitVec.ofNat 32 (((a * 256 + b) * 256 + c) * 256 + d))
  | _ => none

def inetNtop (ip : BitVec 32) : Bytes :=
  let octet (place : Nat) : Bytes := decimal (ip.toNat / 256 ^ place % 256)
  octet 3 ++ [46] ++ octet 2 ++ [46] ++ octet 1 ++ [46] ++ octet 0

/-- `ipRangeHelper`. -/
structure IpRangeHelper where
  ip : BitVec 32
  bits : BitVec 32

namespace IpRangeHelper

/-- The shift takes the last five bits of its count, as the processor
does. -/
def netMask (range : IpRangeHelper) : BitVec 32 := 0xFFFFFFFF#32 <<< ((32#32 - range.bits).toNat % 32)

def getIpStart (range : IpRangeHelper) : Bytes := inetNtop ((range.ip &&& range.netMask) + 1)

def getIpEnd (range : IpRangeHelper) : Bytes := inetNtop ((range.ip ||| ~~~ range.netMask) - 1)

/-- The range of `a.b.c.d/bits`. An address that cannot be read throws, one
of the other family is refused: neither gives a range. -/
def ofCidr (ipCidr : Bytes) : Except Bytes IpRangeHelper :=
  match splitText 47 ipCidr with
  | [ip, bits] =>
    match inetPton ip with
    | some ip => .ok ⟨ip, BitVec.ofInt 32 (atoi bits)⟩
    | none => .error (str "invalid ip cidr")
  | _ => .error (str "invalid ip cidr")

end IpRangeHelper

/-- The record that a message makes. -/
def NetworkData.info (network : NetworkData) (machineId : Bytes) (members : List Bytes) (now : Int) :
    NetworkInfo where
  networkId := network.networkName
  bridgeName := network.bridgeName
  vxlanName := network.vxlanName
  vxlanVni := network.vxlanVni
  ipCidr := network.ipCidr
  ipStart := network.ipStart
  ipEnd := network.ipEnd
  dhcpInterface := network.dhcpInterface
  machineId := machineId
  rentWallet := network.rentWallet
  members := members
  lastUseTime := network.lastUseTime
  nativeFlags := ⟨false, false⟩
  lastUpdateTime := now

/-- What a message tells of a record. -/
def NetworkInfo.data (info : NetworkInfo) : NetworkData where
  networkName := info.networkId
  bridgeName := info.bridgeName
  vxlanName := info.vxlanName
  vxlanVni := info.vxlanVni
  ipCidr := info.ipCidr
  ipStart := info.ipStart
  ipEnd := info.ipEnd
  dhcpInterface := info.dhcpInterface
  rentWallet := info.rentWallet
  lastUseTime := info.lastUseTime

end DbcNode
