import DbcNode.Lib.OrdMap
import DbcNode.Thrift.Protocol

namespace DbcNode

/- The member types of the generated classes, and the members of a class in the
order in which they are written. -/
mutual

inductive Ty
  | i16
  | i32
  | i64
  | string
  | list (elem : Ty)
  | map (value : Ty)
  | struct (fields : Fields)

inductive Fields
  | nil
  | required (id : BitVec 16) (type : Ty) (rest : Fields)
  | optional (id : BitVec 16) (type : Ty) (rest : Fields)

end

def Ty.ttype : Ty → TType
  | .i16 => tI16
  | .i32 => tI32
  | .i64 => tI64
  | .string => tString
  | .list _ => tList
  | .map _ => tMap
  | .struct _ => tStruct

mutual

/-- Values of a member type. Every map of the generated classes has string
keys. -/
@[reducible] def Ty.Val : Ty → Type
  | .i16 => BitVec 16
  | .i32 => BitVec 32
  | .i64 => BitVec 64
  | .string => Bytes
  | .list elem => List elem.Val
  | .map value => OrdMap Bytes value.Val
  | .struct fields => fields.Val

/-- An optional member is there when its `__isset` bit is. -/
@[reducible] def Fields.Val : Fields → Type
  | .nil => Unit
  | .required _ type rest => type.Val × rest.Val
  | .optional _ type rest => Option type.Val × rest.Val

end

mutual

def Ty.init : (t : Ty) → t.Val
  | .i16 => (0 : BitVec 16)
  | .i32 => (0 : BitVec 32)
  | .i64 => (0 : BitVec 64)
  | .string => ([] : Bytes)
  | .list _ => []
  | .map _ => OrdMap.empty
  | .struct fields => fields.init

def Fields.init : (fs : Fields) → fs.Val
  | .nil => ()
  | .required _ type rest => (type.init, rest.init)
  | .optional _ _ rest => (none, rest.init)

end

/-- A class while its `read` runs: the required members carry the local
flags that say whether they have been read. -/
@[reducible] def Fields.Draft : Fields → Type
  | .nil => Unit
  | .required _ type rest => (type.Val × Bool) × rest.Draft
  | .optional _ type rest => Option type.Val × rest.Draft

def Fields.open : (fs : Fields) → fs.Val → fs.Draft
  | .nil, _ => ()
  | .required _ _ rest, (x, xs) => ((x, false), rest.open xs)
  | .optional _ _ rest, (x, xs) => (x, rest.open xs)

/-- A required member that was not read is `INVALID_DATA`. -/
def Fields.close : (fs : Fields) → fs.Draft → Call fs.Val
  | .nil, _ => return ()
  | .required _ _ rest, ((x, isset), xs) => do
    if isset then return (x, ← rest.close xs) else Prog.throwing .invalidData
  | .optional _ _ rest, (x, xs) => do return (x, ← rest.close xs)

mutual

def Ty.write (p : Protocol) : (t : Ty) → t.Val → Call Unit
  | .i16, x => p.writeI16 x
  | .i32, x => p.writeI32 x
  | .i64, x => p.writeI64 x
  | .string, x => p.writeString x
  | .list elem, xs => do
    p.writeListBegin elem.ttype xs.length
    xs.forM (elem.write p)
  | .map value, m => do
    p.writeMapBegin tString value.ttype m.entries.length
    m.entries.forM (fun entry => do
      p.writeString entry.1
      value.write p entry.2)
  | .struct fields, x => do
    p.writeStructBegin
    fields.write p x
    p.writeFieldStop
    p.writeStructEnd

def Fields.write (p : Protocol) : (fs : Fields) → fs.Val → Call Unit
  | .nil, _ => return ()
  | .required id type rest, (x, xs) => do
    p.writeFieldBegin type.ttype id
    type.write p x
    rest.write p xs
  | .optional _ _ rest, (none, xs) => rest.write p xs
  | .optional id type rest, (some x, xs) => do
    p.writeFieldBegin type.ttype id
    type.write p x
    rest.write p xs

end

mutual

/-- Reads into an object that exists. Only a class keeps what is not
read. -/
def Ty.read (p : Protocol) : (t : Ty) → t.Val → Call t.Val
  | .i16, _ => p.readI16
  | .i32, _ => p.readI32
  | .i64, _ => p.readI64
  | .string, _ => p.readString
  | .list elem, _ => do
    let (_, size) ← p.readListBegin
    Prog.iterate size (fun (xs : List elem.Val) => do return xs ++ [← elem.read p elem.init]) []
  | .map value, _ => do
    let (_, _, size) ← p.readMapBegin
    Prog.iterate size (fun (m : OrdMap Bytes value.Val) => do
      let key ← p.readString
      let x ← value.read p ((m.find key).getD value.init)
      return m.insert key x) OrdMap.empty
  | .struct fields, x => do
    p.readStructBegin
    let draft ← Prog.loop (← remaining) (fun draft => do
      let (ftype, fid) ← p.readFieldBegin
      if ftype = tStop then return .inr draft
      return .inl (← fields.readField p ftype fid draft)) (fields.open x)
    p.readStructEnd
    fields.close draft

/-- The `switch` on the field id: a member is read when the type agrees, and
everything else is skipped. -/
def Fields.readField (p : Protocol) (ftype : TType) (fid : BitVec 16) : (fs : Fields) → fs.Draft → Call fs.Draft
  | .nil, _ => do skip p ftype
  | .required id type rest, ((x, isset), xs) =>
    if fid = id then
      if ftype = type.ttype then do return ((← type.read p x, true), xs)
      else do skip p ftype; return ((x, isset), xs)
    else do return ((x, isset), ← rest.readField p ftype fid xs)
  | .optional id type rest, (x, xs) =>
    if fid = id then
      if ftype = type.ttype then do return (some (← type.read p (x.getD type.init)), xs)
      else do skip p ftype; return (x, xs)
    else do return (x, ← rest.readField p ftype fid xs)

end

end DbcNode
