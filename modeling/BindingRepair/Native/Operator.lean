import BindingRepair.Native.Conversion

namespace BindingRepair.Native.Operator

def stride? (w : World) (t : CType) : Option Nat :=
  t.target?.bind fun target =>
    if target.isVoid || target.isFunction then some 1
    else if w.types.isComplete target then some (w.types.size target)
    else none

def vector? (s t : CType) : Option CType :=
  match s.value, t.value with
  | .vector e n, _ => some (.vector e n)
  | _, .vector e n => some (.vector e n)
  | _, _ => none

def fixedIf (a b : Operand) : Option Constant :=
  if a.constant.isSome && b.constant.isSome then some .fixed else none

/-- An operation in which a vector takes part. Its counterpart is a like vector or a number. -/
def onVector (w : World) (op : Operation) (v : CType) (a b : Operand) : Option Operand :=
  let fits (o : Operand) : Bool :=
    match o.type.value with
    | .vector e n => w.types.areCompatible v (.vector e n) ||
        w.types.size v = w.types.size (.vector e n)
    | t => w.types.isArithmetic t
  if fits a && fits b then
    let type :=
      if op.isRelational || op.isEquality then
        match v with
        | .vector e n =>
          let rank :=
            match w.types.size e with
            | 1 => Rank.char
            | 2 => .short
            | 4 => .int
            | _ => .long
          .vector (.integer { rank }) n
        | v => v
      else v
    some (.ofValue type (fixedIf a b))
  else none

def onNumbers (w : World) (op : Operation) (a b : Operand) : Operand :=
  let u := w.types
  let type := CType.meet u (a.promotedType w) (b.promotedType w)
  let x := a.constant.bind (Constant.convert u type)
  let y := b.constant.bind (Constant.convert u type)
  let isStrict := a.isStrict && b.isStrict && u.isInteger type
  if op.isRelational || op.isEquality then
    let holds :=
      match x, y with
      | some .fixed, some _ | some _, some .fixed => some .fixed
      | some x, some y =>
        if op.isEquality then (Constant.equal? x y).map fun same => .ofBool (same == (op == .equal))
        else
          match x, y with
          | .real _, .real _ =>
            some (.ofBool (((Constant.compare? x y).map op.admits).getD false))
          | x, y => (Constant.compare? x y).map fun o => .ofBool (op.admits o)
      | _, _ => none
    .ofValue .int holds (isStrict || (a.isStrict && b.isStrict))
  else
    let value := x.bind fun x => y.bind fun y => op.onConstants u type x y
    .ofValue type value isStrict

def move (w : World) (p n : Operand) (sign : Int) : Option Operand := do
  let stride ← stride? w p.type
  let constant :=
    match p.constant, n.constant with
    | some (.address object offset), some (.number n) =>
      some (Constant.address object (offset + sign * n * stride))
    | some .fixed, some _ => some .fixed
    | _, _ => none
  return .ofValue p.type constant

def distance (w : World) (a b : Operand) : Option Operand := do
  let s ← a.type.target?
  let t ← b.type.target?
  if !w.types.areCompatible s.bare t.bare then none
  else
    let stride ← stride? w a.type
    let constant :=
      match a.constant, b.constant with
      | some (.address x n), some (.address y m) =>
        if x = y && stride ≠ 0 then some (Constant.number ((n - m).tdiv stride)) else none
      | _, _ => none
    return .ofValue .long constant

def relate (w : World) (op : Operation) (a b : Operand) : Option Operand :=
  let u := w.types
  let isMeant (o : Operand) : Bool := o.type.isPointer || u.isInteger o.type
  if !isMeant a || !isMeant b then none
  else
    let holds := a.constant.bind fun x => b.constant.bind fun y =>
      if op.isEquality then (Constant.equal? x y).map fun same => .ofBool (same == (op == .equal))
      else (Constant.compare? x y).map fun o => .ofBool (op.admits o)
    some (.ofValue .int holds)

def logical (w : World) (op : Operation) (a b : Operand) : Option Operand :=
  if !w.types.isScalar a.type || !w.types.isScalar b.type then none
  else
    let x := a.constant.bind Constant.truth?
    let y := b.constant.bind Constant.truth?
    let isDecided := if op = .logicalAnd then x = some false else x = some true
    let value := if isDecided then x else y.filter fun _ => x.isSome
    some (.ofValue .int (value.map .ofBool) (a.isStrict && b.isStrict))

def binary (w : World) (op : Operation) (a b : Operand) : Option Operand :=
  let u := w.types
  let a := a.use w
  let b := b.use w
  if a.type.isVoid || b.type.isVoid then none
  else if a.type.isAnything || b.type.isAnything then some (.ofValue .anything (fixedIf a b))
  else if op = .logicalAnd || op = .logicalOr then logical w op a b
  else
    match vector? a.type b.type with
    | some v => onVector w op v a b
    | none =>
      let areIntegers := u.isInteger a.type && u.isInteger b.type
      let areNumbers := u.isArithmetic a.type && u.isArithmetic b.type
      if op.isShift then
        if !areIntegers then none
        else
          let type := a.promotedType w
          let value := do
            let x ← a.constant
            let y ← b.constant
            op.onConstants u type x y
          some (.ofValue type value (a.isStrict && b.isStrict))
      else if op = .remainder || op = .bitAnd || op = .bitXor || op = .bitOr then
        if areIntegers then some (onNumbers w op a b) else none
      else if op = .add && a.type.isPointer && u.isInteger b.type then move w a b 1
      else if op = .add && u.isInteger a.type && b.type.isPointer then move w b a 1
      else if op = .subtract && a.type.isPointer && u.isInteger b.type then move w a b (-1)
      else if op = .subtract && a.type.isPointer && b.type.isPointer then distance w a b
      else if (op.isRelational || op.isEquality) && (a.type.isPointer || b.type.isPointer) then
        relate w op a b
      else if !areNumbers then none
      else if op.isRelational && (TypeTable.isComplex a.type || TypeTable.isComplex b.type) then none
      else some (onNumbers w op a b)

/-- The value of one of two others, of which the first is meant if a condition holds. -/
def choose (w : World) (condition a b : Operand) : Option Operand :=
  let u := w.types
  let condition := condition.use w
  let a := a.use w
  let b := b.use w
  let chosen (type : CType) : Option Operand :=
    let constant := do
      let holds ← condition.constant.bind Constant.truth?
      (if holds then a.constant else b.constant).bind (Constant.convert u type)
    some {
      type
      constant
      isStrict := condition.isStrict && a.isStrict && b.isStrict && u.isInteger type
      isNull := false }
  let isVector := match condition.type.value with
    | .vector .. => true
    | _ => false
  if isVector then some (.ofValue (if a.type.isAnything then b.type else a.type) none)
  else if !u.isScalar condition.type then none
  else if a.type.isAnything then chosen b.type
  else if b.type.isAnything then chosen a.type
  else if a.type.isVoid || b.type.isVoid then
    some (.ofValue .void (if a.constant.isSome && b.constant.isSome then some .fixed else none))
  else if u.isArithmetic a.type && u.isArithmetic b.type then
    chosen (CType.meet u (a.promotedType w) (b.promotedType w))
  else
    match a.type.target?, b.type.target? with
    | some s, some t =>
      let q := { s.qualifiers.union t.qualifiers with alignment := 0 }
      if a.isNothing w && a.isNull then chosen (.pointer (t.qualify q))
      else if b.isNothing w && b.isNull then chosen (.pointer (s.qualify q))
      else if u.areCompatible s.bare t.bare then
        chosen (.pointer ((TypeTable.composite s.bare t.bare).qualify q))
      else chosen (.pointer (CType.void.qualify q))
    | some _, none => if u.isInteger b.type then chosen a.type else none
    | none, some _ => if u.isInteger a.type then chosen b.type else none
    | none, none => if u.areCompatible a.type b.type then chosen a.type else none

def negate (w : World) (o : Operand) : Option Operand :=
  let u := w.types
  let o := o.use w
  match o.type.value with
  | .vector .. => some (.ofValue o.type (o.constant.map fun _ => .fixed))
  | .anything => some o
  | _ =>
    if !u.isArithmetic o.type then none
    else
      let o := o.promote w
      let constant :=
        match o.constant with
        | some (.number n) => (u.integer? o.type).map fun i => .number (i.wrap (-n))
        | some (.real x) => some (.real (-x))
        | some (.complex x y) => some (.complex (-x) (-y))
        | some .fixed => some .fixed
        | _ => none
      some { o with constant, isNull := false }

def plus (w : World) (o : Operand) : Option Operand :=
  let o := o.use w
  match o.type.value with
  | .vector .. => some o
  | _ => if w.types.isArithmetic o.type then some { o.promote w with isNull := false } else none

def complement (w : World) (o : Operand) : Option Operand :=
  let u := w.types
  let o := o.use w
  match o.type.value with
  | .vector .. => some (.ofValue o.type (o.constant.map fun _ => .fixed))
  | .anything => some o
  | .complex _ =>
    let constant :=
      match o.constant with
      | some (.complex x y) => some (.complex x (-y))
      | _ => none
    some { o with constant }
  | _ =>
    if !u.isInteger o.type then none
    else
      let o := o.promote w
      let constant :=
        match o.constant with
        | some (.number n) => (u.integer? o.type).map fun i => .number (i.wrap (-n - 1))
        | some .fixed => some .fixed
        | _ => none
      some { o with constant, isNull := false }

def not (w : World) (o : Operand) : Option Operand :=
  let o := o.use w
  match o.type.value with
  | .vector .. => some (.ofValue o.type (o.constant.map fun _ => .fixed))
  | _ =>
    if !w.types.isScalar o.type then none
    else
      let value := (o.constant.bind Constant.truth?).map fun b => .ofBool !b
      some (.ofValue .int value o.isStrict)

def address (o : Operand) : Option Operand :=
  if o.isRegister || o.width.isSome then none
  else if o.isPlace || o.type.isFunction then
    some (.ofValue (.pointer o.type) o.address?)
  else none

def dereference (w : World) (o : Operand) : Option Operand :=
  let o := o.use w
  if o.type.isAnything then some { type := .anything, isPlace := true }
  else
    o.type.target?.map fun target =>
      let spot : Option Spot :=
        match o.constant with
        | some (.address object offset) => some { object, bits := 8 * offset }
        | _ => none
      { type := target, isPlace := !target.isFunction, spot }

def member (w : World) (o : Operand) (name : String) : Option Operand := do
  let u := w.types
  if o.type.isAnything then return { type := .anything, isPlace := true }
  let .record id := o.type.bare | none
  let m ← u.findMember u.depth (← (u.record id).members) name
  let type := m.type.qualify { o.type.qualifiers with alignment := 0 }
  if o.isPlace then
    let spot : Option Spot := o.spot.map fun s => { s with bits := s.bits + m.place }
    return { type, isPlace := true, spot, width := m.width }
  else
    let constant :=
      match o.constant with
      | some (.image parts) => some (Constant.part u parts m.place m.type)
      | some .fixed => some .fixed
      | _ => none
    return { type := m.type.bare, constant, width := m.width }

def holdsConst (u : TypeTable) : Nat → CType → Bool
  | 0, _ => false
  | depth + 1, t =>
    t.isConst ||
      match t.innermost.bare with
      | .record id => ((u.record id).members.getD []).any fun m => holdsConst u depth m.type
      | _ => false

def isModifiable (w : World) (o : Operand) : Bool :=
  o.isPlace && !o.type.isArray && !o.type.isFunction &&
    (w.types.isComplete o.type || o.type.isAnything) && !holdsConst w.types w.types.depth o.type

def step (w : World) (o : Operand) : Option Operand :=
  if !isModifiable w o then none
  else if w.types.isArithmetic o.type || (stride? w o.type).isSome then
    some (.ofValue o.type.value none)
  else none

/-- A place that was given a value, perhaps after an operation on the value that it had. -/
def assign (w : World) (op : Option Operation) (target value : Operand) : Option Operand := do
  if !isModifiable w target then none
  else
    let value ←
      match op with
      | none => some (value.use w)
      | some op => (binary w op target value).map (·.use w)
    if Conversion.admits w target.type value then return .ofValue target.type.value none else none

end BindingRepair.Native.Operator
