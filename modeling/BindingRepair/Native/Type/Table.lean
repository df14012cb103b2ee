import BindingRepair.Native.Type

namespace BindingRepair.Native

/-- A member of a struct or union. Places and widths are in bits. -/
structure Member where
  name : Option String := none
  type : CType
  place : Nat := 0
  width : Option Nat := none
  deriving Inhabited

structure RecordType where
  isUnion : Bool := false
  name : Option String := none
  members : Option (List Member) := none
  size : Nat := 0
  alignment : Nat := 1
  isFlexible : Bool := false
  isTransparent : Bool := false
  deriving Inhabited

structure EnumType where
  name : Option String := none
  isComplete : Bool := false
  carrier : IntegerType := .unsignedInt
  isFixed : Bool := false
  deriving Inhabited

structure TypeTable where
  records : Array RecordType := #[]
  enums : Array EnumType := #[]
  deriving Inhabited

namespace TypeTable

def record (u : TypeTable) (id : Nat) : RecordType :=
  u.records[id]?.getD {}

def enumeration (u : TypeTable) (id : Nat) : EnumType :=
  u.enums[id]?.getD {}

def integer? (u : TypeTable) (t : CType) : Option IntegerType :=
  match t.value with
  | .integer t => some t
  | .enumeration id => some (u.enumeration id).carrier
  | _ => none

def isComplete (u : TypeTable) : CType → Bool
  | .void => false
  | .function .. => false
  | .array _ .unknown => false
  | .array element _ => isComplete u element
  | .record id => (u.record id).members.isSome
  | .enumeration id => (u.enumeration id).isComplete
  | .qualified _ t => isComplete u t
  | .atomic t => isComplete u t
  | _ => true

def powerFrom (n : Nat) : Nat :=
  if n ≤ 1 then 1 else 1 <<< ((n - 1).log2 + 1)

/-- How many bytes a value of a type takes. What has no size counts as one byte. -/
def size (u : TypeTable) : CType → Nat
  | .void => 1
  | .function .. => 1
  | .integer t => t.rank.bytes
  | .floating t => t.bytes
  | .complex part => 2 * size u part
  | .pointer _ => 8
  | .array element (.fixed n) => n * size u element
  | .array _ _ => 0
  | .record id => (u.record id).size
  | .enumeration id => (u.enumeration id).carrier.rank.bytes
  | .vector element count =>
    let bytes := count * (match element.bare with
      | .integer { rank := .bool, .. } => 1
      | _ => size u element)
    powerFrom bytes
  | .atomic t =>
    let bytes := size u t
    if bytes ≤ 16 && 0 < bytes then powerFrom bytes else bytes
  | .qualified _ t => size u t
  | .anything => 4

def alignment (u : TypeTable) : CType → Nat
  | .void => 1
  | .function .. => 4
  | .integer { rank := .precise width, .. } => min 8 (Rank.precise width).bytes
  | .integer t => t.rank.bytes
  | .floating t => t.bytes
  | .complex part => alignment u part
  | .pointer _ => 8
  | .array element _ => alignment u element
  | .record id => (u.record id).alignment
  | .enumeration id => (u.enumeration id).carrier.rank.bytes
  | .vector element count => size u (.vector element count)
  | .atomic t =>
    let bytes := size u t
    if bytes ≤ 16 && 0 < bytes then max (powerFrom bytes) (alignment u t) else alignment u t
  | .qualified q t => if q.alignment = 0 then alignment u t else q.alignment
  | .anything => 4

def isInteger (u : TypeTable) (t : CType) : Bool :=
  (u.integer? t).isSome

def isFloating (t : CType) : Bool :=
  match t.value with
  | .floating _ => true
  | _ => false

def isComplex (t : CType) : Bool :=
  match t.value with
  | .complex _ => true
  | _ => false

def isArithmetic (u : TypeTable) (t : CType) : Bool :=
  u.isInteger t || isFloating t || isComplex t || t.isAnything

def isReal (u : TypeTable) (t : CType) : Bool :=
  u.isInteger t || isFloating t || t.isAnything

def isScalar (u : TypeTable) (t : CType) : Bool :=
  u.isArithmetic t || t.isPointer

def isFlexible (u : TypeTable) (t : CType) : Bool :=
  match t.bare with
  | .record id => (u.record id).isFlexible
  | _ => false

/-- The members that a name may mean among some members, from the outside in: the path to it leads
through members without names. Its place is counted from the outermost. -/
def findMember (u : TypeTable) : Nat → List Member → String → Option Member
  | 0, _, _ => none
  | depth + 1, members, name =>
    members.findSome? fun m =>
      match m.name with
      | some other => if other = name then some m else none
      | none =>
        match m.type.bare with
        | .record id =>
          (findMember u depth ((u.record id).members.getD []) name).map fun inner =>
            { inner with
              place := m.place + inner.place
              type := inner.type.qualify { m.type.qualifiers with alignment := 0 } }
        | _ => none

def memberNames (u : TypeTable) : Nat → List Member → List String
  | 0, _ => []
  | depth + 1, members =>
    members.flatMap fun m =>
      match m.name with
      | some name => [name]
      | none =>
        match m.type.bare with
        | .record id => memberNames u depth ((u.record id).members.getD [])
        | _ => []

def depth (u : TypeTable) : Nat :=
  u.records.size + 1

end TypeTable

end BindingRepair.Native
