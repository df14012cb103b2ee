import BindingRepair.Native.Type.Table

namespace BindingRepair.Native

/-- A value that is known. An address is counted from an object, or else from zero. -/
inductive Constant
  | number (n : Int)
  | real (x : Float)
  | complex (re im : Float)
  | address (object : Option Nat) (offset : Int)
  | image (parts : List (Int × Constant))
  | fixed
  deriving Repr, Inhabited

namespace Constant

def round (t : FloatingType) (x : Float) : Float :=
  match t with
  | .half | .halfStorage | .brain | .single => x.toFloat32.toFloat
  | _ => x

def ofInt (n : Int) : Float :=
  if n < 0 then -(Float.ofScientific n.natAbs false 0) else Float.ofScientific n.natAbs false 0

def truncate (x : Float) : Int :=
  if x.isNaN || x.isInf then 0
  else
    let (mantissa, exponent) := x.frExp
    let scaled : Int := (mantissa.abs * 9007199254740992.0).toUInt64.toNat
    let shifted : Int :=
      if 53 ≤ exponent then scaled <<< (exponent - 53).toNat
      else scaled >>> (53 - exponent).toNat
    if x < 0 then -shifted else shifted

def truth? : Constant → Option Bool
  | number n => some (n ≠ 0)
  | real x => some !(x == 0)
  | complex re im => some !(re == 0 && im == 0)
  | address none offset => some (offset ≠ 0)
  | address (some _) _ => some true
  | _ => none

def ofBool (b : Bool) : Constant :=
  number (if b then 1 else 0)

def zero (u : TypeTable) (t : CType) : Constant :=
  if u.isInteger t then number 0
  else
    match t.value with
    | .floating _ => real 0
    | .complex _ => complex 0 0
    | .pointer _ => address none 0
    | .anything => fixed
    | _ => image []

def realTo (u : TypeTable) (x y : Float) (t : CType) : Option Constant :=
  match u.integer? t with
  | some i =>
    if i.rank = .bool then some (ofBool !(x == 0)) else some (number (i.wrap (truncate x)))
  | none =>
    match t.value with
    | .floating f => some (real (round f x))
    | .complex _ => some (complex x y)
    | .anything => some fixed
    | _ => none

def convert (u : TypeTable) (t : CType) (c : Constant) : Option Constant :=
  match c with
  | fixed => some fixed
  | number n =>
    match u.integer? t with
    | some i => some (number (i.wrap n))
    | none =>
      match t.value with
      | .floating f => some (real (round f (ofInt n)))
      | .complex _ => some (complex (ofInt n) 0)
      | .pointer _ => some (address none (IntegerType.long.wrap n))
      | .void => some fixed
      | .anything => some fixed
      | _ => none
  | real x => if t.isVoid then some fixed else realTo u x 0 t
  | complex re im => if t.isVoid then some fixed else realTo u re im t
  | address object offset =>
    match u.integer? t with
    | some i =>
      if i.rank = .bool then (truth? c).map ofBool
      else if object.isNone then some (number (i.wrap offset))
      else if i.rank.bytes = 8 then some c
      else none
    | none =>
      match t.value with
      | .pointer _ => some c
      | .void => some fixed
      | .anything => some fixed
      | _ => none
  | image _ => some c

/-- The value at a place in an image. What is not listed is zero. -/
def part (u : TypeTable) (parts : List (Int × Constant)) (place : Int) (t : CType) : Constant :=
  match t.value with
  | .record _ | .array .. =>
    let stop := place + 8 * u.size t
    image ((parts.filter fun (p, _) => place ≤ p && p < stop).map fun (p, c) => (p - place, c))
  | _ => ((parts.find? (·.1 = place)).map (·.2)).getD (zero u t)

def compare? : Constant → Constant → Option Ordering
  | number a, number b => some (compare a b)
  | real a, real b =>
    if a < b then some .lt else if b < a then some .gt else if a == b then some .eq else none
  | address a x, address b y => if a = b then some (compare x y) else none
  | address none x, number y => some (compare x y)
  | number x, address none y => some (compare x y)
  | _, _ => none

/-- Whether two values are equal, if that is known. Different objects have different addresses. -/
def equal? (a b : Constant) : Option Bool :=
  match a, b with
  | real x, real y => some (x == y)
  | complex x y, complex v w => some (x == v && y == w)
  | address x n, address y m =>
    if x = y then some (n = m) else if (x.isNone && n = 0) || (y.isNone && m = 0) then some false
    else if x.isSome && y.isSome then some false
    else none
  | address (some _) _, number n => if n = 0 then some false else none
  | number n, address (some _) _ => if n = 0 then some false else none
  | a, b => (compare? a b).map (· = .eq)

end Constant

inductive Operation
  | multiply | divide | remainder | add | subtract | shiftLeft | shiftRight
  | less | greater | lessEqual | greaterEqual | equal | unequal
  | bitAnd | bitXor | bitOr | logicalAnd | logicalOr
  deriving DecidableEq, Repr

namespace Operation

def ofSymbol? (symbol : String) : Option (Operation × Nat) :=
  match symbol with
  | "||" => some (logicalOr, 1)
  | "&&" => some (logicalAnd, 2)
  | "|" => some (bitOr, 3)
  | "^" => some (bitXor, 4)
  | "&" => some (bitAnd, 5)
  | "==" => some (equal, 6)
  | "!=" => some (unequal, 6)
  | "<" => some (less, 7)
  | ">" => some (greater, 7)
  | "<=" => some (lessEqual, 7)
  | ">=" => some (greaterEqual, 7)
  | "<<" => some (shiftLeft, 8)
  | ">>" => some (shiftRight, 8)
  | "+" => some (add, 9)
  | "-" => some (subtract, 9)
  | "*" => some (multiply, 10)
  | "/" => some (divide, 10)
  | "%" => some (remainder, 10)
  | _ => none

def isRelational (op : Operation) : Bool :=
  op = less || op = greater || op = lessEqual || op = greaterEqual

def isEquality (op : Operation) : Bool :=
  op = equal || op = unequal

def isShift (op : Operation) : Bool :=
  op = shiftLeft || op = shiftRight

def admits (op : Operation) (o : Ordering) : Bool :=
  match op with
  | less => o = .lt
  | greater => o = .gt
  | lessEqual => o ≠ .gt
  | greaterEqual => o ≠ .lt
  | equal => o = .eq
  | _ => o ≠ .eq

/-- A number shifted to the left by a number of bits that may be negative or too great. -/
def shift (width : Nat) (n by_ : Int) : Int :=
  if 0 ≤ by_ then n <<< min by_.toNat (width - 1) else n >>> min by_.natAbs (width - 1)

def bitwise (t : IntegerType) (f : Nat → Nat → Nat) (a b : Int) : Int :=
  let modulus : Int := 1 <<< t.rank.width
  t.wrap (f (a % modulus).toNat (b % modulus).toNat)

/-- The value of an operation on whole numbers of a type. Nothing is divided by zero. -/
def onNumbers (op : Operation) (t : IntegerType) (a b : Int) : Option Int :=
  match op with
  | multiply => some (t.wrap (a * b))
  | divide => if b = 0 then none else some (t.wrap (a.tdiv b))
  | remainder => if b = 0 then none else some (t.wrap (a.tmod b))
  | add => some (t.wrap (a + b))
  | subtract => some (t.wrap (a - b))
  | shiftLeft => some (t.wrap (shift t.rank.width a b))
  | shiftRight => some (t.wrap (shift t.rank.width a (-b)))
  | bitAnd => some (bitwise t (· &&& ·) a b)
  | bitXor => some (bitwise t (· ^^^ ·) a b)
  | bitOr => some (bitwise t (· ||| ·) a b)
  | logicalAnd => some (if a ≠ 0 && b ≠ 0 then 1 else 0)
  | logicalOr => some (if a ≠ 0 || b ≠ 0 then 1 else 0)
  | op => some (if op.admits (compare a b) then 1 else 0)

def onReals (op : Operation) (t : FloatingType) (a b : Float) : Option Float :=
  match op with
  | multiply => some (Constant.round t (a * b))
  | divide => some (Constant.round t (a / b))
  | add => some (Constant.round t (a + b))
  | subtract => some (Constant.round t (a - b))
  | _ => none

/-- The value of an operation on numbers that were brought to one type. Addresses may be moved. -/
def onConstants (op : Operation) (u : TypeTable) (t : CType) (a b : Constant) : Option Constant :=
  match a, b with
  | .number a, .number b => (u.integer? t).bind fun i => (op.onNumbers i a b).map .number
  | .real a, .real b =>
    match t.value with
    | .floating f => (op.onReals f a b).map .real
    | _ => none
  | .address object offset, .number n =>
    match op with
    | add => some (.address object (offset + n))
    | subtract => some (.address object (offset - n))
    | _ => none
  | .number n, .address object offset =>
    if op = add then some (.address object (offset + n)) else none
  | .complex a b, .complex c d =>
    match op with
    | add => some (.complex (a + c) (b + d))
    | subtract => some (.complex (a - c) (b - d))
    | multiply => some (.complex (a * c - b * d) (a * d + b * c))
    | divide =>
      let norm := c * c + d * d
      some (.complex ((a * c + b * d) / norm) ((b * c - a * d) / norm))
    | _ => none
  | .fixed, _ => some .fixed
  | _, .fixed => some .fixed
  | _, _ => none

end Operation

end BindingRepair.Native
