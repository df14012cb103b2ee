namespace BindingRepair.Native

inductive Rank
  | bool
  | char
  | short
  | int
  | long
  | longLong
  | int128
  | precise (width : Nat)
  deriving DecidableEq, Repr, Inhabited

structure IntegerType where
  rank : Rank
  isSigned : Bool := true
  isPlain : Bool := false
  deriving DecidableEq, Repr, Inhabited

/-- How precise the values of a floating type are. Two of the short ones are only for storage. -/
inductive FloatingType
  | half
  | halfStorage
  | brain
  | single
  | double
  | extended
  | quadruple
  deriving DecidableEq, Repr, Inhabited

structure Qualifiers where
  isConst : Bool := false
  isVolatile : Bool := false
  isRestrict : Bool := false
  alignment : Nat := 0
  deriving DecidableEq, Repr, Inhabited

inductive Length
  | unknown
  | fixed (n : Nat)
  | variable
  deriving DecidableEq, Repr, Inhabited

inductive CType
  | void
  | integer (t : IntegerType)
  | floating (t : FloatingType)
  | complex (part : CType)
  | pointer (target : CType)
  | array (element : CType) (length : Length)
  | function (result : CType) (parameters : Option (List CType)) (isVariadic : Bool)
  | record (id : Nat)
  | enumeration (id : Nat)
  | vector (element : CType) (count : Nat)
  | atomic (t : CType)
  | qualified (q : Qualifiers) (t : CType)
  | anything
  deriving Repr, Inhabited, BEq

namespace Rank

def place : Rank → Nat
  | bool => 0
  | char => 1
  | precise _ => 2
  | short => 3
  | int => 4
  | long => 5
  | longLong => 6
  | int128 => 7

def bytes : Rank → Nat
  | bool | char => 1
  | short => 2
  | int => 4
  | long | longLong => 8
  | int128 => 16
  | precise width =>
    if width ≤ 8 then 1 else if width ≤ 16 then 2 else if width ≤ 32 then 4
    else 8 * ((width + 63) / 64)

def width : Rank → Nat
  | bool => 1
  | precise width => width
  | rank => 8 * rank.bytes

end Rank

namespace IntegerType

def int : IntegerType := { rank := .int }
def unsignedInt : IntegerType := { rank := .int, isSigned := false }
def long : IntegerType := { rank := .long }
def unsignedLong : IntegerType := { rank := .long, isSigned := false }
def longLong : IntegerType := { rank := .longLong }
def unsignedLongLong : IntegerType := { rank := .longLong, isSigned := false }
def char : IntegerType := { rank := .char, isPlain := true }
def bool : IntegerType := { rank := .bool, isSigned := false }

/-- The value of a number in a type: bits that do not fit are dropped. -/
def wrap (t : IntegerType) (n : Int) : Int :=
  if t.rank = .bool then if n = 0 then 0 else 1
  else
    let modulus : Int := 1 <<< t.rank.width
    let m := n % modulus
    if t.isSigned && modulus ≤ 2 * m then m - modulus else m

def has (t : IntegerType) (n : Int) : Bool :=
  t.wrap n = n

end IntegerType

namespace FloatingType

def bytes : FloatingType → Nat
  | half | halfStorage | brain => 2
  | single => 4
  | double => 8
  | extended | quadruple => 16

def place : FloatingType → Nat
  | half | halfStorage => 1
  | brain => 2
  | single => 3
  | double => 4
  | extended => 5
  | quadruple => 6

end FloatingType

namespace Qualifiers

def union (p q : Qualifiers) : Qualifiers where
  isConst := p.isConst || q.isConst
  isVolatile := p.isVolatile || q.isVolatile
  isRestrict := p.isRestrict || q.isRestrict
  alignment := max p.alignment q.alignment

def agree (p q : Qualifiers) : Bool :=
  p.isConst = q.isConst && p.isVolatile = q.isVolatile && p.isRestrict = q.isRestrict

end Qualifiers

namespace CType

def int : CType := .integer .int
def unsignedLong : CType := .integer .unsignedLong
def long : CType := .integer .long
def char : CType := .integer .char
def double : CType := .floating .double

/-- A type with qualifiers besides those it has. Those of an array are those of its elements, its
alignment apart. -/
def qualify (q : Qualifiers) : CType → CType
  | .array element length =>
    let inner := CType.array (element.qualify { q with alignment := 0 }) length
    if q.alignment = 0 then inner else .qualified { alignment := q.alignment } inner
  | .qualified p (.array element length) =>
    let inner := CType.array (element.qualify { q with alignment := 0 }) length
    .qualified { alignment := max p.alignment q.alignment } inner
  | .qualified p t => .qualified (p.union q) t
  | t => if q = {} then t else .qualified q t

def bare : CType → CType
  | .qualified _ t => t
  | t => t

def qualifiers : CType → Qualifiers
  | .qualified q _ => q
  | _ => {}

def isConst : CType → Bool
  | .qualified q t => q.isConst || isConst t
  | .array element _ => isConst element
  | _ => false

def value : CType → CType
  | .qualified _ t => value t
  | .atomic t => value t
  | t => t

def isVoid (t : CType) : Bool :=
  match t.bare with
  | .void => true
  | _ => false

def isFunction (t : CType) : Bool :=
  match t.bare with
  | .function .. => true
  | _ => false

def isArray (t : CType) : Bool :=
  match t.bare with
  | .array .. => true
  | _ => false

def isAnything (t : CType) : Bool :=
  match t.bare with
  | .anything => true
  | _ => false

def isRecord (t : CType) : Bool :=
  match t.bare with
  | .record _ => true
  | _ => false

def target? (t : CType) : Option CType :=
  match t.value with
  | .pointer target => some target
  | _ => none

def isPointer (t : CType) : Bool :=
  t.target?.isSome

def decay (t : CType) : CType :=
  match t.bare with
  | .array element _ => .pointer element
  | .function .. => .pointer t
  | _ => t

mutual

def withoutAlignment : CType → CType
  | .qualified q t =>
    if ({ q with alignment := 0 } : Qualifiers) = {} then withoutAlignment t
    else .qualified { q with alignment := 0 } (withoutAlignment t)
  | .complex part => .complex (withoutAlignment part)
  | .pointer target => .pointer (withoutAlignment target)
  | .array element length => .array (withoutAlignment element) length
  | .function result none isVariadic => .function (withoutAlignment result) none isVariadic
  | .function result (some list) isVariadic =>
    .function (withoutAlignment result) (some (allWithoutAlignment list)) isVariadic
  | .vector element count => .vector (withoutAlignment element) count
  | .atomic t => .atomic (withoutAlignment t)
  | t => t

def allWithoutAlignment : List CType → List CType
  | [] => []
  | t :: rest => withoutAlignment t :: allWithoutAlignment rest

end

def innermost : CType → CType
  | .array element _ => innermost element
  | .qualified q (.array element _) => (innermost element).qualify { q with alignment := 0 }
  | t => t

def isVariable : CType → Bool
  | .array _ .variable => true
  | .array element _ => isVariable element
  | .pointer target => isVariable target
  | .qualified _ t => isVariable t
  | .function result _ _ => isVariable result
  | _ => false

end CType

end BindingRepair.Native
