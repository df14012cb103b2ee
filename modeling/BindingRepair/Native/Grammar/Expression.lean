import BindingRepair.Native.Grammar.Primary

namespace BindingRepair.Native.Expression

def result (t : Token) (o : Option Operand) : Parse Operand :=
  match o with
  | some o => return o
  | none => Parse.failAt t ("invalid operands to '" ++ t.text ++ "'")

def isArgument (w : World) (o : Operand) : Bool :=
  !o.type.isVoid && (w.types.isComplete o.type || o.type.isAnything)

def call (t : Token) (callee : Operand) (arguments : List Operand) : Parse Operand := do
  let w ← Parse.world
  let callee := callee.use w
  if callee.type.isAnything then return .ofValue .anything none
  match callee.type.target?.map CType.bare with
  | some (.function result parameters isVariadic) =>
    let arguments := arguments.map (·.use w)
    match parameters with
    | none =>
      if !arguments.all (isArgument w) then Parse.failAt t "argument has incomplete type"
    | some types =>
      if arguments.length < types.length then Parse.failAt t "too few arguments to function call"
      if !isVariadic && types.length < arguments.length then
        Parse.failAt t "too many arguments to function call"
      let given := arguments.take types.length
      if !((types.zip given).all fun (type, o) => Conversion.admits w type o) then
        Parse.failAt t "passing an argument of incompatible type"
      if !(arguments.drop types.length).all (isArgument w) then
        Parse.failAt t "argument has incomplete type"
    if !result.isVoid && !w.types.isComplete result then
      Parse.failAt t "calling a function with incomplete return type"
    return .ofValue result.bare none
  | _ => Parse.failAt t "called object is not a function or function pointer"

def element (t : Token) (o index : Operand) : Parse Operand := do
  let w ← Parse.world
  match o.type.value with
  | .vector e _ =>
    return { type := e, isPlace := o.isPlace, constant := o.constant.map fun _ => .fixed }
  | _ =>
    let p := o.use w
    let i := index.use w
    if p.type.isAnything || i.type.isAnything then return { type := .anything, isPlace := true }
    let isMeant := (p.type.isPointer && w.types.isInteger i.type) ||
      (w.types.isInteger p.type && i.type.isPointer)
    if !isMeant then Parse.failAt t "subscripted value is not an array, pointer, or vector"
    result t ((Operator.binary w .add o index).bind (Operator.dereference w))

def suffixes (r : Readers) (o : Operand) : Parse Operand :=
  Parse.iterate (fun (o : Operand) => do
    let t ← Parse.peek
    if t.isSymbol "[" then
      let index ← Parse.bracketed "[" "]" r.expression
      return .inl (← element t o index)
    else if t.isSymbol "(" then
      let arguments ← Parse.bracketed "(" ")" do
        if ← Parse.isNext ")" then return [] else Parse.separated r.assignment
      return .inl (← call t o arguments)
    else if t.isSymbol "." || t.isSymbol "->" then
      discard Parse.next
      let name ← Parse.next
      if !name.isName then Parse.failAt name "expected identifier"
      let w ← Parse.world
      let base := if t.isSymbol "->" then Operator.dereference w o else some o
      return .inl (← result t (base.bind fun o => Operator.member w o name.text))
    else if t.isSymbol "++" || t.isSymbol "--" then
      discard Parse.next
      return .inl (← result t (Operator.step (← Parse.world) o))
    else return .inr o) o

def measure (t : Token) (isSize : Bool) (type : CType) : Parse Operand := do
  let u ← Parse.types
  let measured := if isSize then type else type.innermost
  let isMeant := u.isComplete measured || measured.isVoid || measured.isFunction ||
    measured.isAnything || type.isVariable
  if !isMeant then Parse.failAt t ("invalid application of '" ++ t.text ++ "' to incomplete type")
  let n := if isSize then u.size type else u.alignment type
  let constant := if isSize && type.isVariable then none else some (Constant.number n)
  return .ofValue .unsignedLong constant constant.isSome

def measured (r : Readers) (t : Token) (isSize : Bool) : Parse Operand := do
  let ofOperand (o : Operand) : Parse Operand := do
    if o.width.isSome then Parse.failAt t "invalid application of 'sizeof' to bit-field"
    measure t isSize o.type
  if ← startsTypeInParentheses then
    let type ← Parse.bracketed "(" ")" r.typeName
    if ← Parse.isNext "\x7b" then ofOperand (← suffixes r (← compound r t type))
    else measure t isSize type
  else ofOperand (← r.cast)

def componentOf (w : World) (isReal : Bool) (o : Operand) : Option Operand :=
  let used := o.use w
  match used.type.value with
  | .complex part =>
    let constant :=
      match used.constant with
      | some (.complex x y) => Constant.convert w.types part (.real (if isReal then x else y))
      | _ => none
    some { type := part, isPlace := o.isPlace, constant }
  | t =>
    if w.types.isArithmetic t then
      some (if isReal then used else { used with constant := some (.zero w.types t) })
    else none

def unary (r : Readers) : Parse Operand := do
  let t ← Parse.peek
  let operand : Parse Operand := do
    discard Parse.next
    r.cast
  let applied (f : World → Operand → Option Operand) : Parse Operand := do
    let o ← operand
    result t (f (← Parse.world) o)
  match t.kind, Token.canonical t.text with
  | .symbol, "-" => applied Operator.negate
  | .symbol, "+" => applied Operator.plus
  | .symbol, "~" => applied Operator.complement
  | .symbol, "!" => applied Operator.not
  | .symbol, "*" => applied Operator.dereference
  | .symbol, "&" => applied fun _ o => Operator.address o
  | .symbol, "++" => applied Operator.step
  | .symbol, "--" => applied Operator.step
  | _, _ =>
    match t.keyword? with
    | some "sizeof" =>
      discard Parse.next
      measured r t true
    | some "_Alignof" | some "__alignof" =>
      discard Parse.next
      measured r t false
    | some "__builtin_vectorelements" => do
      let o ← operand
      return .ofValue .unsignedLong (some .fixed) (o.isStrict || true)
    | some "__extension__" => operand
    | some "__real" => applied fun w o => componentOf w true o
    | some "__imag" => applied fun w o => componentOf w false o
    | _ => suffixes r (← primary r)

def cast (r : Readers) : Parse Operand := do
  if !(← startsTypeInParentheses) then unary r
  else
    let t ← Parse.peek
    let type ← Parse.bracketed "(" ")" r.typeName
    if ← Parse.isNext "\x7b" then suffixes r (← compound r t type)
    else
      let o ← r.cast
      let w ← Parse.world
      let used := o.use w
      if Conversion.allowsCast w type used then return Conversion.cast w type used
      else Parse.failAt t "an expression cannot be cast to this type"

/-- Reads operators between values that bind at least as tightly as a level, and what follows
them. -/
def operators (r : Readers) (level : Nat) (o : Operand) : Parse Operand := do
  go (2 * (← get).tokens.length + 8) level o
where
  go : Nat → Nat → Operand → Parse Operand
    | 0, _, o => return o
    | steps + 1, level, o => do
      let t ← Parse.peek
      match if t.kind = .symbol then Operation.ofSymbol? t.text else none with
      | none => return o
      | some (op, binding) =>
        if binding < level then return o
        else
          discard Parse.next
          let right ← r.cast
          let right ← go steps (binding + 1) right
          let o ← result t (Operator.binary (← Parse.world) op o right)
          go steps level o

def conditional (r : Readers) : Parse Operand := do
  let condition ← operators r 1 (← cast r)
  let t ← Parse.peek
  if !(← Parse.accept "?") then return condition
  let chosen ← if ← Parse.isNext ":" then pure condition else r.expression
  Parse.expect ":"
  let other ← r.conditional
  result t (Operator.choose (← Parse.world) condition chosen other)

def assignments : List (String × Option Operation) :=
  [("=", none), ("*=", some .multiply), ("/=", some .divide), ("%=", some .remainder),
    ("+=", some .add), ("-=", some .subtract), ("<<=", some .shiftLeft), (">>=", some .shiftRight),
    ("&=", some .bitAnd), ("^=", some .bitXor), ("|=", some .bitOr)]

def assignment (r : Readers) : Parse Operand := do
  let target ← conditional r
  let t ← Parse.peek
  match if t.kind = .symbol then assignments.lookup t.text else none with
  | none => return target
  | some op =>
    discard Parse.next
    let value ← r.assignment
    result t (Operator.assign (← Parse.world) op target value)

def comma (r : Readers) : Parse Operand := do
  let first ← assignment r
  Parse.iterate (fun (o : Operand) => do
    if ← Parse.accept "," then
      let w ← Parse.world
      let before := o.use w
      let last ← assignment r
      let value := last.use w
      let constant := if before.constant.isSome then value.constant else none
      return .inl { value with constant, isStrict := false, isNull := false }
    else return .inr o) first

end BindingRepair.Native.Expression
