import DbcNode.Lib.Varint
import DbcNode.Thrift.Protocol

namespace DbcNode.Compact

def ctBooleanTrue : UInt8 := 0x01

def ctBooleanFalse : UInt8 := 0x02

/-- The table `TTypeToCType`; the entries it does not name are zero. -/
def getCompactType (ttype : TType) : UInt8 :=
  if ttype = tBool then ctBooleanTrue
  else if ttype = tByte then 0x03
  else if ttype = tDouble then 0x07
  else if ttype = tI16 then 0x04
  else if ttype = tI32 then 0x05
  else if ttype = tI64 then 0x06
  else if ttype = tString then 0x08
  else if ttype = tStruct then 0x0C
  else if ttype = tMap then 0x0B
  else if ttype = tSet then 0x0A
  else if ttype = tList then 0x09
  else if ttype = tStop then 0x7F
  else 0

/-- The inverse table, on the types a nibble can hold. A nibble is never the
stop byte `0x7F`, and zero is none of the cases. -/
def getTType (type : UInt8) : Call TType :=
  if type = tStop then return tStop
  else if type = ctBooleanFalse ∨ type = ctBooleanTrue then return tBool
  else if type = 0x03 then return tByte
  else if type = 0x04 then return tI16
  else if type = 0x05 then return tI32
  else if type = 0x06 then return tI64
  else if type = 0x07 then return tDouble
  else if type = 0x08 then return tString
  else if type = 0x09 then return tList
  else if type = 0x0A then return tSet
  else if type = 0x0B then return tMap
  else if type = 0x0C then return tStruct
  else Prog.throwing .unknown

def writeByte (byte : UInt8) : Call Unit := put [byte]

def writeVarint32 (n : BitVec 32) : Call Unit := put (varint 5 n.toNat)

def writeVarint64 (n : BitVec 64) : Call Unit := put (varint 10 n.toNat)

def i32ToZigzag (n : BitVec 32) : BitVec 32 := zigzag n

def i64ToZigzag (l : BitVec 64) : BitVec 64 := zigzag l

def zigzagToI32 (n : BitVec 32) : BitVec 32 := unzigzag n

def zigzagToI64 (n : BitVec 64) : BitVec 64 := unzigzag n

def writeI16 (i16 : BitVec 16) : Call Unit := writeVarint32 (i32ToZigzag (i16.signExtend 32))

def writeI32 (i32 : BitVec 32) : Call Unit := writeVarint32 (i32ToZigzag i32)

def writeI64 (i64 : BitVec 64) : Call Unit := writeVarint64 (i64ToZigzag i64)

def writeDouble (bits : BitVec 64) : Call Unit := put (toBE 8 bits.toNat)

/-- A field id at most fifteen above the last one shares its byte with the
type. -/
def inDelta (last fieldId : BitVec 16) : Bool :=
  last.toInt < fieldId.toInt ∧ fieldId.toInt - last.toInt ≤ 15

def writeFieldBeginInternal (typeToWrite : UInt8) (fieldId : BitVec 16) : Call Unit := do
  let last ← Prog.fetch (·.lastFieldId)
  if inDelta last fieldId then
    writeByte (UInt8.ofNat ((fieldId - last).toNat * 16) ||| typeToWrite)
  else
    writeByte typeToWrite
    writeI16 fieldId
  Prog.update ({ · with lastFieldId := fieldId })

/-- A boolean field's header waits for its value. -/
def writeFieldBegin (fieldType : TType) (fieldId : BitVec 16) : Call Unit :=
  if fieldType = tBool then Prog.update ({ · with booleanField := some (fieldType, fieldId) })
  else writeFieldBeginInternal (getCompactType fieldType) fieldId

def writeBool (value : Bool) : Call Unit := do
  let code := if value then ctBooleanTrue else ctBooleanFalse
  match ← Prog.fetch (·.booleanField) with
  | some (_, fieldId) =>
    writeFieldBeginInternal code fieldId
    Prog.update ({ · with booleanField := none })
  | none => writeByte code

def structBegin : Call Unit :=
  Prog.update (fun st => { st with lastField := st.lastFieldId :: st.lastField, lastFieldId := 0 })

/-- `top` and `pop` of an empty stack are undefined in the source. -/
def structEnd : Call Unit := fun st =>
  match st.lastField with
  | [] => (.error .asserted, st)
  | last :: below => (.ok (), { st with lastField := below, lastFieldId := last })

def writeMapBegin (keyType valType : TType) (size : Nat) : Call Unit :=
  if BitVec.ofNat 32 size = 0 then writeByte 0
  else do
    writeVarint32 (BitVec.ofNat 32 size)
    writeByte (getCompactType keyType <<< 4 ||| getCompactType valType)

def writeCollectionBegin (elemType : TType) (size : BitVec 32) : Call Unit :=
  if size.toInt ≤ 14 then writeByte (UInt8.ofNat size.toNat <<< 4 ||| getCompactType elemType)
  else do
    writeByte (0xf0 ||| getCompactType elemType)
    writeVarint32 size

def writeListBegin (elemType : TType) (size : Nat) : Call Unit :=
  writeCollectionBegin elemType (BitVec.ofNat 32 size)

def writeBinary (str : Bytes) : Call Unit :=
  if str.length > 2 ^ 32 - 1 then Prog.throwing .sizeLimit
  else do
    writeVarint32 (BitVec.ofNat 32 str.length)
    if str.length > 2 ^ 32 - 1 - (varint 5 str.length).length then Prog.throwing .sizeLimit
    else if str.length > 0 then put str
    else return ()

/-- One round of `readVarint64`: the bytes read so far, the value and the
shift. -/
def varintRound (state : Nat × Nat × Nat) : Call ((Nat × Nat × Nat) ⊕ BitVec 64) := do
  let (rsize, val, shift) := state
  let byte ← takeByte
  if byte < 0x80 then return .inr (BitVec.ofNat 64 (varintStep val shift byte))
  else if rsize + 1 ≥ 10 then Prog.throwing .invalidData
  else return .inl (rsize + 1, varintStep val shift byte, shift + 7)

/-- Ten bytes at most; the eleventh is never read. -/
def readVarint64 : Call (BitVec 64) := Prog.loop 10 varintRound (0, 0, 0)

def readVarint32 : Call (BitVec 32) := do return (← readVarint64).setWidth 32

def readByte : Call UInt8 := takeByte

def readI16 : Call (BitVec 16) := do return (zigzagToI32 (← readVarint32)).setWidth 16

def readI32 : Call (BitVec 32) := do return zigzagToI32 (← readVarint32)

def readI64 : Call (BitVec 64) := do return zigzagToI64 (← readVarint64)

def readDouble : Call (BitVec 64) := do return BitVec.ofNat 64 (ofBE (← take 8))

/-- The id of a field whose header byte carries this modifier. -/
def readFieldId (modifier : UInt8) : Call (BitVec 16) :=
  if modifier = 0 then readI16
  else Prog.fetch (fun st => st.lastFieldId + BitVec.ofNat 16 modifier.toNat)

/-- A boolean field has its value in the type, and keeps it for
`readBool`. -/
def saveBool (type : UInt8) : Call Unit :=
  if type = ctBooleanTrue ∨ type = ctBooleanFalse then
    Prog.update ({ · with boolValue := some (type = ctBooleanTrue) })
  else return ()

def readFieldBegin : Call (TType × BitVec 16) := do
  let byte ← readByte
  if byte = tStop then return (tStop, 0)
  else do
    let fieldId ← readFieldId (byte >>> 4)
    let fieldType ← getTType (byte &&& 0x0f)
    saveBool (byte &&& 0x0f)
    Prog.update ({ · with lastFieldId := fieldId })
    return (fieldType, fieldId)

def checkSize (size : BitVec 32) : Call Nat :=
  if size.toInt < 0 then Prog.throwing .negativeSize
  else if size.toInt > maxContainerLimit then Prog.throwing .sizeLimit
  else return size.toNat

/-- The byte of the key and value types, absent when the map is empty. -/
def readKvType (msize : BitVec 32) : Call UInt8 := if msize ≠ 0 then readByte else return 0

/-- The types are looked up also when their byte was not read. -/
def readMapBegin : Call (TType × TType × Nat) := do
  let msize ← readVarint32
  let kvType ← readKvType msize
  let size ← checkSize msize
  let keyType ← getTType (kvType >>> 4)
  let valType ← getTType (kvType &&& 0xf)
  return (keyType, valType, size)

/-- The size of a list is in its header byte, or behind it. -/
def readListSize (nibble : UInt8) : Call (BitVec 32) :=
  if nibble = 15 then readVarint32 else return BitVec.ofNat 32 nibble.toNat

def readListBegin : Call (TType × Nat) := do
  let sizeAndType ← readByte
  let lsize ← readListSize (sizeAndType >>> 4)
  let size ← checkSize lsize
  let elemType ← getTType (sizeAndType &&& 0x0f)
  return (elemType, size)

def readBool : Call Bool := do
  match ← Prog.fetch (·.boolValue) with
  | some value =>
    Prog.update ({ · with boolValue := none })
    return value
  | none => return (← readByte) = ctBooleanTrue

def readBinary : Call Bytes := do
  let size ← readVarint32
  if size = 0 then return []
  else if size.toInt < 0 then Prog.throwing .negativeSize
  else if size.toInt > maxStringLimit then Prog.throwing .sizeLimit
  else do
    Prog.update (fun st => { st with stringBufSize := max st.stringBufSize size.toNat })
    take size.toNat

def protocol : Protocol where
  writeStructBegin := structBegin
  writeStructEnd := structEnd
  writeFieldBegin := writeFieldBegin
  writeFieldStop := writeByte tStop
  writeMapBegin := writeMapBegin
  writeListBegin := writeListBegin
  writeSetBegin := writeListBegin
  writeBool := writeBool
  writeByte := writeByte
  writeI16 := writeI16
  writeI32 := writeI32
  writeI64 := writeI64
  writeDouble := writeDouble
  writeString := writeBinary
  readStructBegin := structBegin
  readStructEnd := structEnd
  readFieldBegin := readFieldBegin
  readMapBegin := readMapBegin
  readListBegin := readListBegin
  readSetBegin := readListBegin
  readBool := readBool
  readByte := readByte
  readI16 := readI16
  readI32 := readI32
  readI64 := readI64
  readDouble := readDouble
  readString := readBinary

end DbcNode.Compact
