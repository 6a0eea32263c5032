import DbcNode.Lib.Bytes

namespace DbcNode

/-- A document as a parser gives it; one that cannot be parsed is `null`. -/
inductive Json
  | null
  | bool (value : Bool)
  | int (value : Int)
  | number
  | string (text : Bytes)
  | array (items : List Json)
  | object (members : List (Bytes × Json))

namespace Json

def isObject : Json → Bool
  | .object _ => true
  | _ => false

/-- The first member under a name. -/
def member (name : Bytes) : Json → Option Json
  | .object members => (members.find? (fun entry => entry.1 = name)).map (·.2)
  | _ => none

/-- The text goes through a `char*`. -/
def getString : Json → Option Bytes
  | .string text => some (cText text)
  | _ => none

def getInt : Json → Option Int
  | .int value => some value
  | _ => none

def getArray : Json → Option (List Json)
  | .array items => some items
  | _ => none

/-- A text under a name; anything else leaves the empty text. -/
def parseString (name : Bytes) (doc : Json) : Bytes := ((doc.member name).bind getString).getD []

end Json

/-- A node of a document. -/
inductive Xml
  | element (name : Bytes) (attributes : List (Bytes × Bytes)) (children : List Xml)
  | text (value : Bytes)

namespace Xml

def tag (name : String) (attributes : List (String × Bytes)) (children : List Xml) : Xml :=
  element (str name) (attributes.map fun pair => (str pair.1, pair.2)) children

def isNamed (name : Bytes) : Xml → Bool
  | element own _ _ => own = name
  | text _ => false

def children : Xml → List Xml
  | element _ _ children => children
  | text _ => []

def valueIn (name : Bytes) : List (Bytes × Bytes) → Option Bytes
  | [] => none
  | (own, value) :: rest => if own = name then some value else valueIn name rest

/-- `Attribute`, which is null where there is none. -/
def attributeOf (name : Bytes) : Xml → Option Bytes
  | element _ attributes _ => valueIn name attributes
  | text _ => none

/-- `FirstChildElement`. -/
def firstChild (name : Bytes) (node : Xml) : Option Xml := node.children.find? (isNamed name)

def withChildren (children : List Xml) : Xml → Xml
  | element name attributes _ => element name attributes children
  | text own => text own

def setIn (name value : Bytes) : List (Bytes × Bytes) → List (Bytes × Bytes)
  | [] => [(name, value)]
  | pair :: rest => if pair.1 = name then (name, value) :: rest else pair :: setIn name value rest

/-- An attribute that is not there is put at the end. -/
def setAttribute (name value : Bytes) : Xml → Xml
  | element own attributes children => element own (setIn name value attributes) children
  | text own => text own

/-- A text that comes first is replaced. -/
def setText (value : Bytes) : Xml → Xml
  | element name attributes (text _ :: children) => element name attributes (text value :: children)
  | element name attributes children => element name attributes (text value :: children)
  | text old => text old

/-- A change of the first child of a name, where there is one. -/
def changeFirst (name : Bytes) (change : Xml → Option Xml) : List Xml → Option (List Xml)
  | [] => some []
  | node :: rest =>
    if node.isNamed name then (change node).map (· :: rest) else (changeFirst name change rest).map (node :: ·)

def changeChild (name : Bytes) (change : Xml → Option Xml) (node : Xml) : Option Xml :=
  (changeFirst name change node.children).map node.withChildren

theorem valueIn_self (name value : Bytes) (rest : List (Bytes × Bytes)) :
    valueIn name ((name, value) :: rest) = some value :=
  if_pos rfl

theorem valueIn_of_ne {name own : Bytes} (apart : own ≠ name) (value : Bytes) (rest : List (Bytes × Bytes)) :
    valueIn name ((own, value) :: rest) = valueIn name rest := if_neg apart

theorem setIn_self (name value old : Bytes) (rest : List (Bytes × Bytes)) :
    setIn name value ((name, old) :: rest) = (name, value) :: rest := if_pos rfl

theorem setIn_of_ne {name own : Bytes} (apart : own ≠ name) (value old : Bytes) (rest : List (Bytes × Bytes)) :
    setIn name value ((own, old) :: rest) = (own, old) :: setIn name value rest := if_neg apart

/-- A node has one name. -/
theorem isNamed_apart {one other : Bytes} {node : Xml} (named : node.isNamed one = true) (apart : one ≠ other) :
    node.isNamed other = false := by
  cases node with
  | element own _ _ =>
    have same : own = one := of_decide_eq_true named
    exact decide_eq_false fun here => apart (same.symm.trans here)
  | text _ => rfl

section Named
variable {name : Bytes} {change : Xml → Option Xml} {node parent : Xml} {rest : List Xml}

/-- The first child of a name is changed in its place. -/
theorem changeFirst_append (before : List Xml) (apart : before.any (isNamed name) = false)
    (named : node.isNamed name = true) :
    changeFirst name change (before ++ node :: rest) = (change node).map (before ++ · :: rest) := by
  induction before with
  | nil =>
    rw [List.nil_append, changeFirst, if_pos named]
    rfl
  | cons first before ih =>
    rw [List.any_cons, Bool.or_eq_false_iff] at apart
    rw [List.cons_append, changeFirst, apart.1, if_neg Bool.false_ne_true, ih apart.2, Option.map_map]
    rfl

theorem changeChild_append (before : List Xml) (parts : parent.children = before ++ node :: rest)
    (apart : before.any (isNamed name) = false) (named : node.isNamed name = true) :
    parent.changeChild name change = (change node).map fun changed =>
      parent.withChildren (before ++ changed :: rest) := by
  rw [changeChild, parts, changeFirst_append before apart named, Option.map_map]
  rfl

end Named

end Xml

end DbcNode
