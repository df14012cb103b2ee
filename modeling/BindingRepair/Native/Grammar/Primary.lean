import BindingRepair.Native.BuiltinCall
import BindingRepair.Native.Grammar.Value
import BindingRepair.Native.Number
import BindingRepair.Native.Operator

namespace BindingRepair.Native.Expression

def typeWords : List String :=
  ["void", "char", "short", "int", "long", "float", "double", "signed", "unsigned", "_Bool",
    "_Complex", "_Imaginary", "struct", "union", "enum", "const", "volatile", "restrict", "_Atomic",
    "__typeof", "__int128", "_Float16", "__fp16", "__bf16", "__float128", "__ibm128", "_BitInt",
    "__auto_type", "_Decimal32", "_Decimal64", "_Decimal128", "__attribute", "__extension__"]

def startsType (t : Token) : Parse Bool := do
  match t.keyword? with
  | some word => return typeWords.contains word && word ≠ "__extension__"
  | none => Parse.isTypeName t

def startsTypeInParentheses : Parse Bool := do
  if ← Parse.isNext "(" then startsType (← Parse.peekSecond) else return false

/-- The type of a whole number: the first of those that its spelling admits and that has it. -/
def wholeType? (n : NumberLiteral) : Option CType :=
  let candidates : List IntegerType :=
    match n.suffix.isUnsigned, n.suffix.longs with
    | false, 0 => if n.base = 10 then [.int, .long, .unsignedLong]
        else [.int, .unsignedInt, .long, .unsignedLong]
    | false, 1 => [.long, .unsignedLong]
    | false, _ => [.longLong, .unsignedLongLong]
    | true, 0 => [.unsignedInt, .unsignedLong]
    | true, 1 => [.unsignedLong]
    | true, _ => [.unsignedLongLong]
  if n.suffix.isBitPrecise then
    let width := if n.value = 0 then 1 else n.value.log2 + 1
    let width := if n.suffix.isUnsigned then width else width + 1
    some (.integer { rank := .precise width, isSigned := !n.suffix.isUnsigned })
  else (candidates.find? fun i => i.has n.value).map .integer

def number (t : Token) : Parse Operand := do
  match NumberLiteral.read? t.text with
  | none => Parse.failAt t "invalid number"
  | some n =>
    let o : Operand ←
      if n.isFloating then do
        let type : FloatingType :=
          if n.suffix.isFloat then .single else if n.suffix.isHalf then .half
          else if n.suffix.isQuad then .quadruple else if 0 < n.suffix.longs then .extended
          else .double
        let x := Constant.round type n.floatValue
        pure (Operand.ofValue (.floating type) (some (.real x)) true)
      else
        match wholeType? n with
        | none => Parse.failAt t "integer literal is too large to be represented"
        | some type => pure (Operand.ofValue type (some (.number n.value)) true)
    if n.suffix.isImaginary then
      let x := match o.constant with
        | some (.real x) => x
        | some (.number n) => Constant.ofInt n
        | _ => 0
      return .ofValue (.complex o.type) (some (.complex 0 x))
    else return o

def character (t : Token) : Parse Operand := do
  match Literal.character? t.text with
  | none => Parse.failAt t "invalid character constant"
  | some (encoding, n) =>
    let type : CType :=
      match encoding with
      | .utf16 => .integer { rank := .short, isSigned := false }
      | .utf32 => .integer .unsignedInt
      | _ => .int
    return .ofValue type (some (.number n)) true

def unitType : Encoding → CType
  | .plain | .utf8 => .char
  | .utf16 => .integer { rank := .short, isSigned := false }
  | .utf32 => .integer .unsignedInt
  | .wide => .int

def unitParts (encoding : Encoding) (units : List Nat) : List (Int × Constant) :=
  let i : IntegerType := if encoding = .plain || encoding = .utf8 then .char else .long
  (List.range units.length).zip units |>.map fun (index, unit) =>
    ((encoding.unitBits * index : Nat), .number (i.wrap unit))

def text (t : Token) (strings : List Token) : Parse Operand := do
  match Literal.strings? (strings.map (·.text)) with
  | none => Parse.failAt t "invalid string"
  | some (encoding, units) =>
    let id ← Parse.fresh
    Parse.setImage id (unitParts encoding units)
    return {
      type := .array (unitType encoding) (.fixed (units.length + 1))
      isPlace := true
      spot := some { object := some id, bits := 0 }
      text := some (encoding, units) }

def moreStrings : Parse (List Token) :=
  Parse.iterate (fun before => do
    if (← Parse.peek).kind = .string then return .inl ((← Parse.next) :: before)
    else return .inr before.reverse) []

def entity (t : Token) (e : Entity) : Parse Operand :=
  match e.meaning with
  | .typeName => Parse.failAt t ("unexpected type name '" ++ t.text ++ "': expected expression")
  | .enumerator n => return .ofValue e.type (some (.number n)) true
  | .object =>
    return {
      type := e.type
      isPlace := true
      spot := if e.linkage = .none then none else some { object := some e.id, bits := 0 }
      isRegister := e.isRegister }
  | .function => return { type := e.type, spot := some { object := some e.id, bits := 0 } }

def constantNumber (r : Readers) : Parse (Operand × Int) := do
  let at_ ← Parse.peek
  let w0 ← r.conditional
  let w ← Parse.world
  let o := w0.use w
  if o.type.isAnything then return (o, 1)
  match w.types.integer? o.type, o.constant with
  | some _, some (.number n) => return (o, n)
  | some _, some .fixed => return (o, 1)
  | _, _ => Parse.failAt at_ "expression is not an integer constant expression"

/-- What a name without a declaration is: a function that is built in, if it is called. -/
def undeclared (r : Readers) (t : Token) : Parse Operand := do
  if t.text.startsWith "_" && Builtin.isKnown t.text && (← Parse.isNext "(") then
    let arguments ← Parse.bracketed "(" ")" do
      if ← Parse.isNext ")" then return [] else Parse.separated r.assignment
    let w ← Parse.world
    let name :=
      if t.text.startsWith "__builtin_" then (t.text.drop 10).copy else t.text
    let arguments := arguments.map fun o =>
      if name = "constant_p" || name = "strlen" then { o.use w with text := o.text } else o.use w
    return BuiltinCall.answer w name arguments
  else Parse.failAt t ("use of undeclared identifier '" ++ t.text ++ "'")

/-- One way of a choice by type: the type, unless it is the way that is left, and the operand. -/
def association (r : Readers) : Parse (Option CType × Operand) := do
  let at_ ← Parse.peek
  let type ← if ← Parse.acceptKeyword "default" then pure none else do
    let t ← r.typeName
    let u ← Parse.types
    if !u.isComplete t || t.isVariable then
      Parse.failAt at_ "type in generic association is incomplete or variable"
    pure (some t)
  Parse.expect ":"
  return (type, ← r.assignment)

def generic (r : Readers) (t : Token) : Parse Operand :=
  Parse.bracketed "(" ")" do
    let control ←
      if ← startsType (← Parse.peek) then r.typeName
      else do
        let o ← r.assignment
        pure (o.use (← Parse.world)).type
    Parse.expect ","
    let ways ← Parse.separated (association r)
    let u ← Parse.types
    let types := ways.filterMap (·.1)
    let isAmbiguous := (List.range types.length).any fun i =>
      match types[i]? with
      | some s => (types.drop (i + 1)).any fun t => u.areCompatible s t
      | none => false
    if isAmbiguous || types.length + 1 < ways.length then
      Parse.failAt t "two generic associations are the same"
    let fits := ways.find? fun (type, _) => type.any fun s => u.areCompatible s control
    match fits <|> ways.find? (·.1.isNone) with
    | some (_, o) => return o
    | none => Parse.failAt t "controlling expression type is not compatible with any association"

def offset (r : Readers) (t : Token) : Parse Operand :=
  Parse.bracketed "(" ")" do
    let type ← r.typeName
    let u ← Parse.types
    if !u.isComplete type then Parse.failAt t "offsetof of incomplete type"
    Parse.expect ","
    let first : Operand := { type, isPlace := true, spot := some { object := none, bits := 0 } }
    let member (o : Operand) : Parse Operand := do
      let name ← Parse.next
      let w ← Parse.world
      match if name.isWord then Operator.member w o name.text else none with
      | some m =>
        if m.width.isSome then Parse.failAt name "cannot compute offset of bit-field"
        return m
      | none => Parse.failAt name ("no member named '" ++ name.text ++ "'")
    let o ← Parse.iterate (fun (o : Operand) => do
      if ← Parse.accept "." then return .inl (← member o)
      else if ← Parse.isNext "[" then
        let index ← Parse.bracketed "[" "]" r.expression
        let w ← Parse.world
        if !o.type.isArray then Parse.failAt t "offsetof requires array type"
        match (Operator.binary w .add o index).bind (Operator.dereference w) with
        | some o => return .inl o
        | none => Parse.failAt t "array subscript is not an integer"
      else return .inr o) (← member first)
    let value := match o.spot with
      | some { bits, .. } => some (Constant.number (bits / 8))
      | none => none
    return .ofValue .unsignedLong value true

def word (r : Readers) (t : Token) (keyword : String) : Parse Operand := do
  match keyword with
  | "__func__" =>
    return {
      type := .array (CType.char.qualify { isConst := true }) (.fixed 1)
      isPlace := true
      spot := some { object := some (← Parse.fresh), bits := 0 } }
  | "_Generic" => generic r t
  | "__builtin_offsetof" => offset r t
  | "__builtin_types_compatible_p" =>
    Parse.bracketed "(" ")" do
      let s ← r.typeName
      Parse.expect ","
      let t ← r.typeName
      let u ← Parse.types
      return .ofValue .int (some (.ofBool (u.areCompatible s.bare t.bare))) true
  | "__builtin_choose_expr" =>
    Parse.bracketed "(" ")" do
      let (_, n) ← constantNumber r
      Parse.expect ","
      let a ← r.assignment
      Parse.expect ","
      let b ← r.assignment
      return if n ≠ 0 then a else b
  | "__builtin_va_arg" =>
    Parse.bracketed "(" ")" do
      discard r.assignment
      Parse.expect ","
      let type ← r.typeName
      if !(← Parse.types).isComplete type then Parse.failAt t "second argument is incomplete"
      return .ofValue type none
  | "__builtin_convertvector" | "__builtin_bit_cast" =>
    Parse.bracketed "(" ")" do
      if keyword = "__builtin_bit_cast" then
        let type ← r.typeName
        Parse.expect ","
        let o ← r.assignment
        return .ofValue type (o.constant.map fun _ => .fixed)
      else
        let o ← r.assignment
        Parse.expect ","
        let type ← r.typeName
        return .ofValue type (o.constant.map fun _ => .fixed)
  | "__builtin_FILE" | "__builtin_FILE_NAME" | "__builtin_FUNCTION" | "__builtin_LINE"
  | "__builtin_COLUMN" =>
    Parse.expect "("
    Parse.expect ")"
    return BuiltinCall.answer (← Parse.world) ((keyword.drop 10).copy) []
  | _ => Parse.failAt t "expected expression"

/-- A literal object: a type in parentheses, which have been read, and what it holds. -/
def compound (r : Readers) (t : Token) (type : CType) : Parse Operand := do
  let u ← Parse.types
  let isOpen := match type.bare with
    | .array element .unknown => u.isComplete element
    | _ => false
  if type.isFunction || type.isVariable || !(u.isComplete type || isOpen) then
    Parse.failAt t "a literal object must have a complete type"
  let value ← r.initializer
  let (type, parts) ← Value.complete type value
  let id ← Parse.fresh
  match parts with
  | some parts => Parse.setImage id parts
  | none =>
    if (← get).scopes.isOutermost then
      Parse.failAt t "initializer element is not a compile-time constant"
  let spot : Option Spot := some { object := some id, bits := 0 }
  return { type, isPlace := true, spot }

def primary (r : Readers) : Parse Operand := do
  let t ← Parse.peek
  match t.kind with
  | .number => number (← Parse.next)
  | .character => character (← Parse.next)
  | .string => text t (← moreStrings)
  | .word =>
    discard Parse.next
    match t.keyword? with
    | some keyword => word r t keyword
    | none =>
      match ← Parse.lookup? t.text with
      | some e => entity t e
      | none => undeclared r t
  | _ =>
    if t.isSymbol "(" then
      if (← Parse.peekSecond).isSymbol "\x7b" then
        Parse.fail "statement expression not allowed at file scope"
      Parse.bracketed "(" ")" r.expression
    else Parse.fail "expected expression"

end BindingRepair.Native.Expression
