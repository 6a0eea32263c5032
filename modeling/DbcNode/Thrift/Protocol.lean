import DbcNode.ByteBuf

namespace DbcNode

/-- A field or element type as it stands on the wire. The binary protocol
casts any byte to it, so it is not an enumeration. -/
abbrev TType := UInt8

def tStop : TType := 0x7F

def tVoid : TType := 1

def tBool : TType := 2

def tByte : TType := 3

def tDouble : TType := 4

def tI16 : TType := 6

def tI32 : TType := 8

def tU64 : TType := 9

def tI64 : TType := 10

def tString : TType := 11

def tStruct : TType := 12

def tMap : TType := 13

def tSet : TType := 14

def tList : TType := 15

def tUtf8 : TType := 16

def tUtf16 : TType := 17

def maxStringLimit : Nat := 10 * 1024 * 1024

def maxContainerLimit : Nat := 10240

/-- What a protocol object holds from one call to the next. Only the compact
protocol uses more than the buffer. -/
@[ext] structure ProtState where
  buf : ByteBuf
  lastField : List (BitVec 16)
  lastFieldId : BitVec 16
  boolValue : Option Bool
  booleanField : Option (TType × BitVec 16)
  stringBufSize : Nat

def ProtState.fresh : ProtState := ⟨ByteBuf.fresh, [], 0, none, none, 0⟩

abbrev Call (α : Type) := Prog Exn ProtState α

def onBuf {α : Type} (m : Prog Exn ByteBuf α) : Call α := fun st =>
  match m st.buf with
  | (result, buf) => (result, { st with buf })

def take (n : Nat) : Call Bytes := onBuf (ByteBuf.readFromByteBuf n)

def put (bytes : Bytes) : Call Unit := onBuf (ByteBuf.writeToByteBuf bytes)

/-- One byte off the wire. -/
def takeByte : Call UInt8 := do return (← take 1).headD 0

/-- The virtual functions that the generated code and `skip` call. The sizes
they return are not used by any caller and are left out; a double is its
bits. -/
structure Protocol where
  writeStructBegin : Call Unit
  writeStructEnd : Call Unit
  writeFieldBegin : TType → BitVec 16 → Call Unit
  writeFieldStop : Call Unit
  writeMapBegin : TType → TType → Nat → Call Unit
  writeListBegin : TType → Nat → Call Unit
  writeSetBegin : TType → Nat → Call Unit
  writeBool : Bool → Call Unit
  writeByte : UInt8 → Call Unit
  writeI16 : BitVec 16 → Call Unit
  writeI32 : BitVec 32 → Call Unit
  writeI64 : BitVec 64 → Call Unit
  writeDouble : BitVec 64 → Call Unit
  writeString : Bytes → Call Unit
  readStructBegin : Call Unit
  readStructEnd : Call Unit
  readFieldBegin : Call (TType × BitVec 16)
  readMapBegin : Call (TType × TType × Nat)
  readListBegin : Call (TType × Nat)
  readSetBegin : Call (TType × Nat)
  readBool : Call Bool
  readByte : Call UInt8
  readI16 : Call (BitVec 16)
  readI32 : Call (BitVec 32)
  readI64 : Call (BitVec 64)
  readDouble : Call (BitVec 64)
  readString : Call Bytes

/-- Enough rounds for a loop that reads at least a byte in each. -/
def remaining : Call Nat := Prog.fetch (fun st => st.buf.data.length + 1)

/-- Reads a value of a type nobody asked for. The first argument bounds the
nesting; the caller gives it one more than the bytes left. -/
def skipWithin (p : Protocol) : Nat → TType → Call Unit
  | 0, _ => Prog.stop .diverged
  | depth + 1, type =>
    if type = tBool then do let _ ← p.readBool
    else if type = tByte then do let _ ← p.readByte
    else if type = tI16 then do let _ ← p.readI16
    else if type = tI32 then do let _ ← p.readI32
    else if type = tI64 then do let _ ← p.readI64
    else if type = tDouble then do let _ ← p.readDouble
    else if type = tString then do let _ ← p.readString
    else if type = tStruct then do
      p.readStructBegin
      Prog.loop (← remaining) (fun _ => do
        let (ftype, _) ← p.readFieldBegin
        if ftype = tStop then return .inr ()
        skipWithin p depth ftype
        return .inl ()) ()
      p.readStructEnd
    else if type = tMap then do
      let (keyType, valType, size) ← p.readMapBegin
      Prog.iterate size (fun _ => do
        skipWithin p depth keyType
        skipWithin p depth valType) ()
    else if type = tSet then do
      let (elemType, size) ← p.readSetBegin
      Prog.iterate size (fun _ => skipWithin p depth elemType) ()
    else if type = tList then do
      let (elemType, size) ← p.readListBegin
      Prog.iterate size (fun _ => skipWithin p depth elemType) ()
    else if type = tStop ∨ type = tVoid ∨ type = tU64 ∨ type = tUtf8 ∨ type = tUtf16 then return ()
    else Prog.throwing .invalidArgument

def skip (p : Protocol) (type : TType) : Call Unit := do skipWithin p (← remaining) type

end DbcNode
