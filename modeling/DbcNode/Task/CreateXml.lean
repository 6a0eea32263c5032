import DbcNode.Lib.OrdMap
import DbcNode.Lib.Documents

namespace DbcNode

/-- The parameters of `createXmlStr`. What `list_interface` finds is one of
them. -/
structure XmlParams where
  uuid : Bytes
  domainName : Bytes
  memory : Int
  cpunum : Int
  sockets : Int
  cores : Int
  threads : Int
  vedioPci : Bytes
  diskSystem : Bytes
  diskData : Bytes
  vncPort : Int
  vncPwd : Bytes
  multicast : List Bytes
  bridgeName : Bytes
  biosMode : Bytes
  isWindows : Bool
  pxeBridgeName : Bytes

open Xml

/-- `std::to_string` of a number with a sign. -/
def signedText (n : Int) : Bytes := str (toString n)

/-- The ids of the devices of all GPUs, each with a bar after it. -/
def vgaPci (gpus : OrdMap Bytes (List Bytes)) : Bytes :=
  gpus.entries.flatMap fun gpu => gpu.2.flatMap fun device => device ++ str "|"

/-- The bus, the slot and the function of a device. -/
structure PciAddress where
  bus : Bytes
  slot : Bytes
  function : Bytes
  deriving DecidableEq

def pciAddress (vedio : Bytes) : Option PciAddress :=
  match splitText 58 vedio with
  | [bus, rest] =>
    match splitText 46 rest with
    | [slot, function] => some ⟨bus, slot, function⟩
    | _ => none
  | _ => none

def pciAddresses (vedioPci : Bytes) : List PciAddress := (splitText 124 vedioPci).filterMap pciAddress

def hostdevAttributes : List (String × Bytes) :=
    [("mode", str "subsystem"), ("type", str "pci"), ("managed", str "yes")]

def addressNode (address : PciAddress) : Xml :=
  tag "address" [("type", str "pci"), ("domain", str "0x0000"), ("bus", str "0x" ++ address.bus),
    ("slot", str "0x" ++ address.slot), ("function", str "0x" ++ address.function)] []

def sourceNode (address : PciAddress) : Xml := tag "source" [] [addressNode address]

def autoport (vncPort : Int) : Bytes := if vncPort = -1 then str "yes" else str "no"

namespace XmlParams
variable (p : XmlParams)

def osNode : Xml :=
  tag "os" [] (tag "type" [("arch", str "x86_64"), ("machine", if p.isWindows then str "q35" else str "pc")]
    [text (str "hvm")] ::
    if p.biosMode = str "pxe" then [tag "boot" [("dev", str "network")] []]
    else if ¬ p.isWindows then [tag "boot" [("dev", str "hd")] [], tag "boot" [("dev", str "cdrom")] []]
    else (if p.biosMode = str "uefi" then
        [tag "loader" [("readonly", str "yes"), ("type", str "pflash")] [text (str "/usr/share/OVMF/OVMF_CODE.fd")]]
      else []) ++ [tag "bootmenu" [("enable", str "yes")] []])

def featuresNode : Xml :=
  tag "features" [] [tag "acpi" [] [], tag "apic" [] [],
    tag "hyperv" [] [tag "relaxed" [("state", str "on")] [], tag "vapic" [("state", str "on")] [],
      tag "spinlocks" [("state", str "on"), ("retries", str "8191")] [],
      tag "vendor_id" [("state", str "on"), ("value", str "1234567890ab")] []],
    tag "kvm" [] [tag "hidden" [("state", str "on")] []], tag "vmport" [("state", str "off")] [],
    tag "ioapic" [("driver", str "kvm")] []]

def topologyNode : Xml :=
  tag "topology" [("sockets", signedText p.sockets), ("cores", signedText p.cores),
    ("threads", signedText p.threads)] []

def cpuNode : Xml :=
  tag "cpu" [("mode", str "host-passthrough"), ("check", str "none")]
    (p.topologyNode :: tag "cache" [("mode", str "passthrough")] [] ::
      if p.isWindows then [tag "feature" [("policy", str "disable"), ("name", str "hypervisor")] []] else [])

def clockNode : Xml :=
  tag "clock" [("offset", if p.isWindows then str "localtime" else str "utc")]
    (if p.isWindows then
      [tag "timer" [("name", str "rtc"), ("tickpolicy", str "catchup")] [],
        tag "timer" [("name", str "pit"), ("tickpolicy", str "delay")] [],
        tag "timer" [("name", str "hpet"), ("present", str "no")] [],
        tag "timer" [("name", str "hypervclock"), ("present", str "yes")] []]
    else [])

def videoNodes : List Xml :=
  if ¬ p.isWindows then []
  else if p.biosMode = str "pxe" then [tag "video" [] [tag "model" [("type", str "none")] []]]
  else [tag "video" [] [tag "model" [("type", str "qxl"), ("ram", str "65536"), ("vram", str "65536"),
      ("vgamem", str "16384"), ("heads", str "1"), ("primary", str "yes")] []],
    tag "input" [("type", str "tablet"), ("bus", str "usb")] []]

def hostdevNode (address : PciAddress) : Xml :=
  tag "hostdev" hostdevAttributes
    (sourceNode address :: if p.isWindows then [tag "rom" [("bar", str "off")] []] else [])

def diskNode (source dev : Bytes) (boot : List Xml) : Xml :=
  tag "disk" [("type", str "file"), ("device", str "disk")]
    ([tag "driver" [("name", str "qemu"), ("type", str "qcow2")] [], tag "source" [("file", source)] [],
      tag "target" [("dev", dev), ("bus", str "virtio")] []] ++ boot)

def diskNodes : List Xml :=
  if p.biosMode = str "pxe" then []
  else [diskNode p.diskSystem (str "vda") (if p.isWindows then [tag "boot" [("order", str "1")] []] else []),
    diskNode p.diskData (str "vdb") []]

def agentNode : Xml :=
  tag "channel" [("type", str "unix")]
    [tag "source" [("mode", str "bind"), ("path", str "/tmp/channel_" ++ p.uuid ++ str ".sock")] [],
      tag "target" [("type", str "virtio"), ("name", str "org.qemu.guest_agent.0")] []]

/-- An address without a port is read past its end. -/
def mcastNode (address : Bytes) : Option Xml :=
  match splitText 58 address with
  | host :: port :: _ =>
    some (tag "interface" [("type", str "mcast")] [tag "source" [("address", host), ("port", port)] []])
  | _ => none

def bridgeNodes : List Xml :=
  if p.bridgeName = [] then []
  else [tag "interface" [("type", str "bridge")] [tag "source" [("bridge", p.bridgeName)] [],
    tag "model" [("type", str "virtio")] [], tag "mtu" [("size", str "1450")] []]]

def networkNodes : Option (List Xml) :=
  if p.biosMode = str "pxe" then
    some [tag "interface" [("type", str "direct")]
      [tag "source" [("dev", p.pxeBridgeName), ("mode", str "bridge")] [], tag "model" [("type", str "e1000")] []]]
  else (p.multicast.mapM mcastNode).map fun mcasts =>
    tag "interface" [("type", str "network")] [tag "source" [("network", str "default")] [],
      tag "model" [("type", str "virtio")] [], tag "filterref" [("filter", p.domainName)]
        []] :: mcasts ++ p.bridgeNodes

def graphicsNode : Xml :=
  tag "graphics" [("type", str "vnc"), ("port", signedText p.vncPort), ("autoport", autoport p.vncPort),
      ("listen", str "0.0.0.0"), ("keymap", str "en-us"), ("passwd", p.vncPwd)]
    [tag "listen" [("type", str "address"), ("address", str "0.0.0.0")] []]

def memballoonNode : Xml := tag "memballoon" [("model", str "virtio")] [tag "stats" [("period", str "10")] []]

/-- The devices, with the interfaces that are given. -/
def deviceNodes (network : List Xml) : List Xml :=
  p.videoNodes ++ (pciAddresses p.vedioPci).map p.hostdevNode ++
    (p.diskNodes ++ p.agentNode :: network ++ [p.graphicsNode, memballoonNode])

def argNode (value : Bytes) : Xml := tag "qemu:arg" [("value", value)] []

def commandlineNode : Xml :=
  tag "qemu:commandline" []
    ((if ¬ p.isWindows then [argNode (str "-cpu"), argNode (str "host,kvm=off,hv_vendor_id=null")]
    else []) ++ [argNode (str "-machine"), argNode (str "kernel_irqchip=on")])

def memoryNode (name : String) : Xml := tag name [("unit", str "KiB")] [text (signedText p.memory)]

def vcpuNode : Xml := tag "vcpu" [("placement", str "static")] [text (signedText p.cpunum)]

/-- The root, with some of its children. -/
def root (memory currentMemory vcpu cpu : Xml) (devices : List Xml) : Xml :=
  tag "domain" [("type", str "kvm"), ("xmlns:qemu", str "http://libvirt.org/schemas/domain/qemu/1.0")]
    [tag "name" [] [text p.domainName], tag "uuid" [] [text p.uuid], memory, currentMemory, vcpu, p.osNode,
      featuresNode, cpu, p.clockNode, tag "devices" [] devices, p.commandlineNode]

/-- The definition with some devices. -/
def document (devices : List Xml) : Xml :=
  p.root (p.memoryNode "memory") (p.memoryNode "currentMemory") p.vcpuNode p.cpuNode devices

def createXmlStr : Option Xml := p.networkNodes.map fun network => p.document (p.deviceNodes network)

end XmlParams

end DbcNode
