import DbcNode.Coder.Coder

namespace DbcNode

def minMatrixMsgCodeLen : Nat := 30

def maxMatrixMsgLen : Nat := 4 * 1024 * 1024

def matrixMsgMinReadLength : Nat := 8

/-- A frame while its bytes arrive. -/
structure NetMessage where
  packetLen : BitVec 32
  theBytes : Bytes
  pos : Nat
  msgStream : ByteBuf
  inData : Bool

namespace NetMessage

def fresh : NetMessage := ⟨0, [], 0, ByteBuf.fresh, false⟩

def complete (m : NetMessage) : Bool := m.packetLen.toInt = m.pos

/-- The write to the message's own stream, while the input is at hand. -/
def store (m : NetMessage) (bytes : Bytes) : Prog Exn ByteBuf ByteBuf := fun input =>
  match ByteBuf.writeToByteBuf bytes m.msgStream with
  | (.ok (), stream) => (.ok stream, input)
  | (.error e, _) => (.error e, input)

def readPacketLen (m : NetMessage) : Prog Exn ByteBuf NetMessage := do
  let copy ← Prog.fetch (fun input => min (4 - m.pos) input.validReadLen)
  let msgStream ← m.store (← Prog.fetch (·.data.take copy))
  let theBytes := m.theBytes ++ (← ByteBuf.readFromByteBuf copy)
  let pos := m.pos + copy
  if pos < 4 then return { m with theBytes, pos, msgStream }
  else return { packetLen := BitVec.ofNat 32 (ofBE theBytes), theBytes, pos, msgStream, inData := true }

/-- A negative count is a huge one for the buffer, which has no room for
it. -/
def readPacketBody (m : NetMessage) : Prog Exn ByteBuf NetMessage := do
  let remaining := m.packetLen.toInt - m.pos
  if remaining < 0 then Prog.throwing .lengthError
  else do
    let copy ← Prog.fetch (fun input => min remaining.toNat input.validReadLen)
    let msgStream ← m.store (← Prog.fetch (·.data.take copy))
    ByteBuf.moveReadPtr copy
    return { m with pos := m.pos + copy, msgStream }

/-- The length of a frame is checked as soon as it is known. -/
def outOfRange (m : NetMessage) : Bool :=
  m.inData ∧ (m.packetLen.toInt > maxMatrixMsgLen ∨ m.packetLen.toInt < minMatrixMsgCodeLen)

end NetMessage

/-- The input of the socket and the frames of the decoder. -/
structure Inbox where
  input : ByteBuf
  recvMessages : List NetMessage

/-- The frame that the next bytes belong to, and those before it. -/
def openFrame (recvMessages : List NetMessage) : List NetMessage × NetMessage :=
  match recvMessages.getLast? with
  | none => ([], NetMessage.fresh)
  | some last => if last.complete then (recvMessages, NetMessage.fresh) else (recvMessages.dropLast, last)

def recvRound : Prog Exn Inbox (Unit ⊕ DecodeStatus) := fun box =>
  if box.input.validReadLen = 0 then (.ok (.inr .success), box)
  else
    let (before, msg) := openFrame box.recvMessages
    match (if msg.inData then msg.readPacketBody else msg.readPacketLen) box.input with
    | (.error e, input) => (.error e, ⟨input, before ++ [msg]⟩)
    | (.ok msg', input) =>
      if msg'.outOfRange then (.ok (.inr .error), ⟨input, before ++ [msg']⟩)
      else (.ok (.inl ()), ⟨input, before ++ [msg']⟩)

/-- Every round takes a byte at least. -/
def recvMessage : Prog Exn Inbox DecodeStatus := do
  Prog.loop (← Prog.fetch (·.input.validReadLen + 1)) (fun _ => recvRound) ()

def hasCompleteMessage (recvMessages : List NetMessage) : Bool := recvMessages.head?.any (·.complete)

/-- A coder with the frames it has received. -/
structure Receiver where
  protos : Protos
  recvMessages : List NetMessage

/-- `decode`: the front frame is decoded and dropped whatever its status. An
empty list has no front. -/
def decode (snappy : Snappy) (ctx : Ctx) : Prog Exn Receiver (DecodeStatus × Option Message) := fun r =>
  match r.recvMessages with
  | [] => (.error .asserted, r)
  | msg :: rest =>
    let frameLen := ofBE (msg.msgStream.data.take 4)
    if msg.complete = false then (.ok (.needMoreData, none), { r with recvMessages := rest ++ [msg] })
    else if msg.msgStream.validReadLen < matrixMsgMinReadLength then (.ok (.error, none), r)
    else if frameLen > maxMatrixMsgLen then (.ok (.error, none), r)
    else if msg.msgStream.validReadLen < frameLen then (.ok (.needMoreData, none), r)
    else if frameLen < minMatrixMsgCodeLen then (.ok (.error, none), r)
    else
      match Coder.decodeFrame snappy ctx ⟨r.protos, msg.msgStream⟩ with
      | (.ok result, desk) => (.ok result, ⟨desk.protos, rest⟩)
      | (.error e, desk) => (.error e, ⟨desk.protos, { msg with msgStream := desk.buf } :: rest⟩)

end DbcNode
