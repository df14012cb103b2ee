import BindingRepair.Native.Constant
import BindingRepair.Native.Literal
import BindingRepair.Native.Type.Compatible
import Std.Data.HashMap

namespace BindingRepair.Native

/-- Where something lies: so many bits behind the start of an object, or behind address zero. -/
structure Spot where
  object : Option Nat
  bits : Int
  deriving Repr, Inhabited

structure Operand where
  type : CType
  isPlace : Bool := false
  spot : Option Spot := none
  width : Option Nat := none
  constant : Option Constant := none
  isStrict : Bool := false
  isNull : Bool := false
  text : Option (Encoding × List Nat) := none
  isRegister : Bool := false
  deriving Inhabited

structure World where
  types : TypeTable := {}
  images : Std.HashMap Nat (List (Int × Constant)) := {}
  deriving Inhabited

namespace Operand

def ofValue (type : CType) (constant : Option Constant) (isStrict : Bool := false) : Operand :=
  { type, constant, isStrict }

def read (w : World) (spot : Option Spot) (type : CType) : Option Constant := do
  let spot ← spot
  let object ← spot.object
  let parts ← w.images[object]?
  return Constant.part w.types parts spot.bits type

def address? (o : Operand) : Option Constant :=
  o.spot.map fun s => .address s.object (s.bits / 8)

def use (w : World) (o : Operand) : Operand :=
  if o.type.isArray || o.type.isFunction then
    { type := o.type.decay, constant := o.address? }
  else if o.isPlace then
    { type := o.type.value, constant := read w o.spot o.type, width := o.width }
  else { o with type := o.type.value }

def isNothing (w : World) (o : Operand) : Bool :=
  o.isNull ||
    (o.isStrict && w.types.isInteger o.type &&
      match o.constant with
      | some (.number 0) => true
      | _ => false)

def convert (w : World) (t : CType) (o : Operand) : Operand where
  type := t
  constant := o.constant.bind (Constant.convert w.types t)
  isStrict := o.isStrict

def promotedType (w : World) (o : Operand) : CType :=
  match w.types.integer? o.type with
  | some i =>
    match o.width with
    | some width =>
      if width < 32 || (width = 32 && i.isSigned) then .int
      else if width = 32 && i.rank.width ≤ 32 then .integer .unsignedInt
      else .integer (TypeTable.promoteInteger i)
    | none => .integer (TypeTable.promoteInteger i)
  | none =>
    match o.type.value with
    | .floating .halfStorage => .floating .single
    | t => t

def promote (w : World) (o : Operand) : Operand :=
  { o.convert w (o.promotedType w) with isNull := o.isNull }

end Operand

namespace IntegerType

def meet (s t : IntegerType) : IntegerType :=
  if s.isSigned = t.isSigned then
    if s.rank.place < t.rank.place || s.rank.width < t.rank.width then t else s
  else
    let (signed, unsigned) := if s.isSigned then (s, t) else (t, s)
    if signed.rank.place ≤ unsigned.rank.place then unsigned
    else if unsigned.rank.width < signed.rank.width then signed
    else { signed with isSigned := false }

end IntegerType

namespace CType

def meet (u : TypeTable) (s t : CType) : CType :=
  match s.value, t.value with
  | .anything, t => t
  | s, .anything => s
  | .complex p, .complex q => .complex (meetReal u p q)
  | .complex p, t => .complex (meetReal u p t)
  | s, .complex q => .complex (meetReal u s q)
  | s, t => meetReal u s t
where
  meetReal (u : TypeTable) (s t : CType) : CType :=
    match s.value, t.value with
    | .floating f, .floating g => .floating (if f.place < g.place then g else f)
    | .floating f, _ => .floating f
    | _, .floating g => .floating g
    | s, t =>
      match u.integer? s, u.integer? t with
      | some i, some j => .integer (i.meet j)
      | _, _ => s

end CType

end BindingRepair.Native
