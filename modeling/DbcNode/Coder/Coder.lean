import DbcNode.ByteBuf
import DbcNode.Message
import DbcNode.Thrift.Binary
import DbcNode.Thrift.CompactWire

namespace DbcNode

/-- The compression library, as far as its two entry points go. -/
structure Snappy where
  compress : Bytes → Bytes
  uncompress : Bytes → Option Bytes

/-- `Uncompress` undoes `Compress`. -/
def Snappy.Undoes (snappy : Snappy) : Prop := ∀ text, snappy.uncompress (snappy.compress text) = some text

namespace Compress

def packetHeaderLen : Nat := 8

def minMsgLenToCompress : Nat := 256

/-- The second word of a packet, in host order. -/
def packetType (packet : Bytes) : Nat := ofBE ((packet.drop 4).take 4)

def hasCompressFlag (packet : Bytes) : Bool := packetType packet >>> 8 &&& 1 = 1

/-- A `try` around writes: running out of buffer is reported, not thrown. -/
def orFalse (m : Prog Exn ByteBuf Unit) : Prog Exn ByteBuf Bool := fun b =>
  match m b with
  | (.ok (), b') => (.ok true, b')
  | (.error (.thrown .lengthError), b') => (.ok false, b')
  | (.error e, b') => (.error e, b')

/-- The packet header is not compressed; its length and its flag byte
change. -/
def compress (snappy : Snappy) : Prog Exn ByteBuf Bool := do
  let packet ← Prog.fetch (·.data)
  let ctext := snappy.compress (packet.drop packetHeaderLen)
  Prog.update ByteBuf.reset
  orFalse (do
    ByteBuf.writeToByteBuf (toBE 4 (packetHeaderLen + ctext.length))
    ByteBuf.writeToByteBuf (((packet.drop 4).take 4).set 2 1)
    ByteBuf.writeToByteBuf ctext)

/-- Writes the packet before compression to the buffer it runs on. -/
def uncompress (snappy : Snappy) (packet : Bytes) : Prog Exn ByteBuf Bool :=
  if hasCompressFlag packet = false then return false
  else if packet.length ≠ ofBE (packet.take 4) then return false
  else match snappy.uncompress (packet.drop packetHeaderLen) with
    | none => return false
    | some text => do
      ByteBuf.writeToByteBuf (toBE 4 (packetHeaderLen + text.length))
      ByteBuf.writeToByteBuf (toBE 4 (packetType packet &&& 0xFFFF00FF))
      orFalse (ByteBuf.writeToByteBuf text)

end Compress

inductive Proto
  | binary
  | compact
  deriving DecidableEq

def Proto.protocol : Proto → Protocol
  | .binary => Binary.protocol
  | .compact => Compact.protocol

/-- `get_protocol` on the table filled by `init_decode_proto`. -/
def getProtocol (type : BitVec 32) : Option Proto :=
  if type = 0 then some .binary else if type = 1 then some .compact else none

/-- The two protocol objects of a coder, shared by all its frames. -/
structure Protos where
  binary : ProtState
  compact : ProtState

namespace Protos

def fresh : Protos := ⟨ProtState.fresh, ProtState.fresh⟩

def get (protos : Protos) : Proto → ProtState
  | .binary => protos.binary
  | .compact => protos.compact

def set (protos : Protos) (st : ProtState) : Proto → Protos
  | .binary => { protos with binary := st }
  | .compact => { protos with compact := st }

end Protos

/-- A coder at work on a buffer. -/
structure Desk where
  protos : Protos
  buf : ByteBuf

abbrev Job (α : Type) := Prog Exn Desk α

/-- `init_buf` on the coder's object for this protocol, and a call on it. -/
def onProto {α : Type} (p : Proto) (m : Call α) : Job α := fun d =>
  match m { d.protos.get p with buf := d.buf } with
  | (result, st) => (result, ⟨d.protos.set st p, st.buf⟩)

def inBuf {α : Type} (m : Prog Exn ByteBuf α) : Job α := fun d =>
  match m d.buf with
  | (result, buf) => (result, { d with buf })

/-- The handlers around `encode` and `decode_frame` stop every exception,
and nothing else. -/
def catching {α : Type} (m : Job α) (caught : α) : Job α := fun d =>
  match m d with
  | (.error (.thrown _), d') => (.ok caught, d')
  | (result, d') => (result, d')

/-- What a coder reads off the channel context. -/
structure Ctx where
  enableCompress : Bool
  thriftProto : BitVec 32
  localNodeId : Bytes

inductive DecodeStatus
  | success
  | needMoreData
  | unknownMsg
  | error
  deriving DecidableEq, Repr

inductive EncodeStatus
  | success
  | error
  deriving DecidableEq, Repr

namespace PacketHeader

def write (packetLen packetType : BitVec 32) : Prog Exn ByteBuf Unit := do
  ByteBuf.writeToByteBuf (toBE 4 packetLen.toNat)
  ByteBuf.writeToByteBuf (toBE 4 packetType.toNat)

/-- The header in the first bytes of the buffer is overwritten. -/
def update (packetLen packetType : BitVec 32) : Prog Exn ByteBuf Bool := fun b =>
  if packetLen ≠ BitVec.ofNat 32 b.data.length ∧
    packetLen ≠ BitVec.ofNat 32 (b.len - (b.readPos + b.data.length)) then
    (.ok false, b)
  else (.ok true, b.patch (toBE 4 packetLen.toNat ++ toBE 4 packetType.toNat))

def read : Prog Exn ByteBuf (BitVec 32 × BitVec 32) := do
  Prog.check (← Prog.fetch (fun b => decide (8 ≤ b.data.length)))
  let packet ← Prog.fetch (·.data)
  ByteBuf.moveReadPtr 8
  return (BitVec.ofNat 32 (ofBE (packet.take 4)), BitVec.ofNat 32 (Compress.packetType packet))

end PacketHeader

namespace Coder
variable (snappy : Snappy) (ctx : Ctx)

def legacyNoneForwardingMessages : List Bytes :=
  [str "ver_req", str "ver_resp", str "shake_hand_req", str "shake_hand_resp", str "get_peer_nodes_req",
    str "get_peer_nodes_resp", str "service_broadcast_req"]

/-- Whether a message with this header is passed on undecoded. -/
def forwards (header : BaseHeader) : Bool :=
  ctx.localNodeId ≠ [] ∧ header.msgName ∉ legacyNoneForwardingMessages ∧
    ∃ dest ∈ header.exten "dest_id", ¬ ctx.localNodeId <:+: dest

/-- The bytes left in the buffer become the body of a message that is passed
on. -/
def forwardRest (header : BaseHeader) : Job Message := fun d =>
  match ByteBuf.writeToByteBuf d.buf.data ByteBuf.fresh with
  | (.error e, _) => (.error e, d)
  | (.ok (), body) =>
    (do
      inBuf (ByteBuf.moveReadPtr d.buf.validReadLen)
      return Message.mk binaryForwardMsg (.forward header body.data)) d

/-- The call of the invoker that the name of the message is bound to. The
message is filled in only when its status is success. -/
def decodeInvoke (p : Proto) (header : BaseHeader) : Job (DecodeStatus × Option Message) :=
  match found : findInvoker header.msgName with
  | none => return (.unknownMsg, none)
  | some t => do
    let body ← onProto p ((Ty.struct t.body).read p.protocol (Ty.struct t.body).init)
    return (.success, some ⟨header.msgName, .typed t (findInvoker_registered found).2 header body⟩)

def decodeServiceFrame (p : Proto) : Job (DecodeStatus × Option Message) := do
  let header ← onProto p (BaseHeader.read p.protocol)
  if forwards ctx header then return (.success, some (← forwardRest header))
  else decodeInvoke p header

/-- The length in the packet header has to be what was read. -/
def decodePacket : Job (DecodeStatus × Option Message) := do
  let before ← Prog.fetch (·.buf.validReadLen)
  let (packetLen, packetType) ← inBuf PacketHeader.read
  match getProtocol (packetType &&& 0xff) with
  | none => return (.error, none)
  | some p => do
    let (status, msg) ← decodeServiceFrame ctx p
    let after ← Prog.fetch (·.buf.validReadLen)
    if status = .success ∧ packetLen ≠ BitVec.ofNat 32 (before - after) then return (.error, msg)
    else return (status, msg)

/-- A compressed packet is replaced by what it was made from. -/
def inflate : Job Bool := fun d =>
  if Compress.hasCompressFlag d.buf.data then
    match Compress.uncompress snappy d.buf.data ByteBuf.fresh with
    | (.ok true, out) => (.ok true, { d with buf := out })
    | (.ok false, _) => (.ok false, d)
    | (.error e, _) => (.error e, d)
  else (.ok true, d)

def decodeFrame : Job (DecodeStatus × Option Message) :=
  catching (do if ← inflate snappy then decodePacket ctx else return (.error, none)) (.error, none)

/-- Writes the content, or finds that no class is registered under the name.
An object of another class than the name says is a null pointer here. -/
def encodeContent (p : Proto) (msg : Message) : Job Bool :=
  match msg.content with
  | .forward header body => do
    onProto p (header.write p.protocol)
    onProto p (put body)
    return true
  | .typed t _ header body =>
    match findInvoker msg.name with
    | none => return false
    | some bound =>
      if bound.name ≠ t.name then Prog.stop .asserted
      else do
        onProto p (header.write p.protocol)
        onProto p ((Ty.struct t.body).write p.protocol body)
        return true

def encodePacket (p : Proto) (msg : Message) : Job EncodeStatus := do
  if ← encodeContent p msg then
    let packetLen ← Prog.fetch (fun d => BitVec.ofNat 32 d.buf.validReadLen)
    if ← inBuf (PacketHeader.update packetLen ctx.thriftProto) then
      if ctx.enableCompress ∧ packetLen.toInt ≥ Compress.minMsgLenToCompress then
        if ← inBuf (Compress.compress snappy) then return .success else return .error
      else return .success
    else return .error
  else return .error

def encode (msg : Message) : Job EncodeStatus :=
  catching (do
    inBuf (PacketHeader.write 0 0)
    match getProtocol ctx.thriftProto with
    | none => return .error
    | some p => encodePacket snappy ctx p msg) .error

end Coder

end DbcNode
