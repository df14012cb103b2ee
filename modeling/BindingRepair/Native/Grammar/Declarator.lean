import BindingRepair.Native.Grammar.Attribute
import BindingRepair.Native.Grammar.Expression

namespace BindingRepair.Native

namespace Layer

def sizeLimit : Nat := 1 <<< 61

def isStorageOnly (t : CType) : Bool :=
  match t.bare with
  | .floating .halfStorage => true
  | _ => false

def apply (at_ : Token) (type : CType) : Layer → Parse CType
  | .pointer q => do
    if type.isFunction && q.isRestrict then
      Parse.failAt at_ "pointer to function type may not be 'restrict' qualified"
    return (CType.pointer type).qualify q
  | .array length _ _ _ => do
    let u ← Parse.types
    if type.isFunction then Parse.failAt at_ "declared as array of functions"
    if !u.isComplete type && !type.isAnything then
      Parse.failAt at_ "array has incomplete element type"
    match length with
    | .fixed n => if sizeLimit ≤ n * u.size type then Parse.failAt at_ "array is too large"
    | _ => pure ()
    return .array type length
  | .function parameters isVariadic _ => do
    if type.isFunction then Parse.failAt at_ "function cannot return function type"
    if type.isArray then Parse.failAt at_ "function cannot return array type"
    if isStorageOnly type then Parse.failAt at_ "function return value cannot have __fp16 type"
    return .function type (parameters.map fun list => list.map fun p => p.type.bare) isVariadic
  | .attributes a => Attribute.apply at_ a type

end Layer

namespace Declarator

def typeOf (d : Declarator) (at_ : Token) (base : CType) : Parse CType := do
  d.layers.reverse.foldlM (Layer.apply at_) (← Attribute.apply at_ d.attributes base)

/-- The layer of a function that is declared, if it is one. Attributes do not matter. -/
def function? (d : Declarator) : Option (Option (List Parameter) × Bool × List Token) :=
  match d.layers.find? fun l => match l with
    | .attributes _ => false
    | _ => true with
  | some (.function parameters isVariadic names) => some (parameters, isVariadic, names)
  | _ => none

def isPlain (d : Declarator) : Bool :=
  d.layers.all fun l => match l with
    | .attributes _ => true
    | _ => false

/-- Whether some array in a declarator may stand only in a parameter, or only as its first
layer. -/
def hasStrayParameterArray (d : Declarator) (isParameter : Bool) : Bool :=
  let arrays := d.layers.map fun l => match l with
    | .array _ isStarred _ isForParameter => isForParameter || isStarred && !isParameter
    | _ => false
  let first := isParameter && d.layers.head?.any fun l => match l with
    | .array .. => true
    | _ => false
  (if first then arrays.tail else arrays).any id

def qualifierOf? (word : String) : Option Qualifiers :=
  match word with
  | "const" => some { isConst := true }
  | "volatile" => some { isVolatile := true }
  | "restrict" => some { isRestrict := true }
  | "_Atomic" | "_Nonnull" | "_Nullable" | "_Nullable_result" | "_Null_unspecified" => some {}
  | "__cdecl" | "__stdcall" | "__fastcall" | "__thiscall" | "__vectorcall" | "__regcall"
  | "__pascal" => some {}
  | _ => none

def qualifiers (r : Readers) : Parse (Qualifiers × Attributes) :=
  Parse.iterate (fun (q, a) => do
    let t ← Parse.peek
    if t.isKeyword "__attribute" || (← Attribute.areInBrackets) then
      return .inl (q, a ++ (← Attribute.all r))
    else
      match t.keyword?.bind qualifierOf? with
      | some more =>
        discard Parse.next
        return .inl (Qualifiers.union q more, a)
      | none => return .inr (q, a)) ({}, {})

def lengthOf (at_ : Token) (o : Operand) : Parse Length := do
  let w ← Parse.world
  let o := o.use w
  if o.type.isAnything then return .fixed 1
  if !w.types.isInteger o.type then Parse.failAt at_ "size of array has non-integer type"
  match o.constant with
  | some (.number n) =>
    if n < 0 then Parse.failAt at_ "array has a negative size"
    return .fixed n.toNat
  | some .fixed => return .fixed 1
  | _ => return .variable

def array (r : Readers) : Parse Layer :=
  Parse.bracketed "[" "]" do
    let isStatic ← Parse.acceptKeyword "static"
    let (q, _) ← qualifiers r
    let isStatic := (← Parse.acceptKeyword "static") || isStatic
    let isForParameter := isStatic || q ≠ {}
    if (← Parse.isNext "*") && (← Parse.peekSecond).isSymbol "]" then
      discard Parse.next
      if isStatic then Parse.fail "'static' may not be used with an unspecified variable length"
      return .array .variable true q isForParameter
    else if ← Parse.isNext "]" then
      if isStatic then Parse.fail "'static' may not be used without an array size"
      return .array .unknown false q isForParameter
    else
      let at_ ← Parse.peek
      return .array (← lengthOf at_ (← r.assignment)) false q isForParameter

def adjusted (type : CType) (d : Declarator) : CType :=
  let q : Qualifiers := match d.layers.head? with
    | some (.array _ _ q _) => q
    | _ => {}
  if type.isArray || type.isFunction then type.decay.qualify q else type

def parameter (r : Readers) : Parse Parameter := do
  let at_ ← Parse.peek
  discard (Attribute.inBrackets r)
  let s ← r.specifiers .parameter
  let d ← r.declarator .parameter
  let a ← Attribute.all r
  let d := { d with attributes := d.attributes ++ a ++ s.attributes }
  if d.hasStrayParameterArray true then
    Parse.failAt at_ "'static' or qualifiers used in non-outermost array type derivation"
  let type ← d.typeOf at_ s.type
  if Layer.isStorageOnly type then Parse.failAt at_ "parameters cannot have __fp16 type"
  let type := adjusted type d
  if ← Parse.isNext "=" then Parse.fail "C does not support default arguments"
  match d.name with
  | none => pure ()
  | some name =>
    if ((← get).scopes.here? name.text).isSome then
      Parse.failAt name ("redefinition of parameter '" ++ name.text ++ "'")
    Parse.bind name.text { meaning := .object, type }
  return { name := d.name, type }

/-- Whether parameters are only the word that says that there are none. It must stand alone. -/
def saysNone (at_ : Token) (list : List Parameter) (isVariadic : Bool) : Parse Bool := do
  let isVoid (p : Parameter) : Bool := p.type.isVoid
  match list with
  | [p] =>
    if p.name.isNone && isVoid p then
      if isVariadic then Parse.failAt at_ "'void' must be the first and only parameter"
      if p.type.qualifiers ≠ {} then
        Parse.failAt at_ "'void' as parameter must not have type qualifiers"
      return true
    else
      if isVoid p then Parse.failAt at_ "argument may not have 'void' type"
      return false
  | list =>
    if list.any isVoid then Parse.failAt at_ "'void' must be the first and only parameter"
    return false

def oldNames : Parse (List Token) := do
  let names ← Parse.separated do
    let t ← Parse.next
    if !t.isName then Parse.failAt t "expected identifier"
    if ← Parse.isTypeName t then Parse.failAt t ("unexpected type name '" ++ t.text ++ "'")
    return t
  if (names.map (·.text)).eraseDups.length < names.length then
    Parse.fail "redefinition of parameter"
  return names

def function (r : Readers) : Parse Layer :=
  Parse.bracketed "(" ")" do
    let at_ ← Parse.peek
    if at_.isSymbol ")" then return .function none false []
    else if at_.isName && !(← Parse.isTypeName at_) then
      return .function none false (← oldNames)
    else Parse.inScope do
      if at_.isSymbol "..." then
        Parse.fail "ISO C requires a named parameter before '...'"
      let first ← parameter r
      let (list, isVariadic) ← Parse.iterate (fun (before : List Parameter) => do
        if ← Parse.accept "," then
          if ← Parse.accept "..." then return .inr (before.reverse, true)
          else return .inl ((← parameter r) :: before)
        else return .inr (before.reverse, false)) [first]
      if ← saysNone at_ list isVariadic then return .function (some []) false []
      else return .function (some list) isVariadic []

def behind (r : Readers) : Parse (List Layer) :=
  Parse.iterate (fun (before : List Layer) => do
    let t ← Parse.peek
    if ← Attribute.areInBrackets then
      discard (Attribute.inBrackets r)
      return .inl before
    else if t.isSymbol "[" then return .inl ((← array r) :: before)
    else if t.isSymbol "(" then return .inl ((← function r) :: before)
    else return .inr before.reverse) []

/-- Whether a parenthesis that comes next opens a declarator, where there need not be a name. -/
def opensDeclarator : Parse Bool := do
  let t ← Parse.peekSecond
  if t.isSymbol ")" || t.isSymbol "..." then return false
  else if t.isSymbol "[" then
    return !((← get).tokens.drop 2).head?.any (·.isSymbol "[")
  else
    match t.keyword? with
    | some "__attribute" => return true
    | some word =>
      return !(Expression.typeWords ++ ["register", "static", "extern", "typedef", "auto", "inline",
        "_Noreturn", "_Thread_local", "_Alignas"]).contains word
    | none => return !(← Parse.isTypeName t)

/-- Reads a declarator. Members and objects must have names; parameters need none; types have
none. -/
def read (r : Readers) (setting : Setting) : Parse Declarator := do
  let t ← Parse.peek
  let needsName := setting = .file || setting = .member
  if t.isSymbol "*" then
    discard Parse.next
    let (q, a) ← qualifiers r
    let d ← r.declarator setting
    return { d with layers := d.layers ++ [Layer.pointer q, Layer.attributes a] }
  else if t.isSymbol "^" then Parse.fail "blocks support disabled"
  else
    let mayBeNamed := setting ≠ .typeName
    if t.isName && mayBeNamed then
      discard Parse.next
      discard (Attribute.inBrackets r)
      return { name := some t, layers := ← behind r }
    else if t.isSymbol "(" && (needsName || (← opensDeclarator)) then
      let inner ← Parse.bracketed "(" ")" do
        let a ← Attribute.all r
        discard (qualifiers r)
        let d ← r.declarator setting
        return { d with layers := d.layers ++ [Layer.attributes a] }
      return { inner with layers := inner.layers ++ (← behind r) }
    else if needsName then Parse.fail "expected identifier or '('"
    else return { name := none, layers := ← behind r }

end Declarator

end BindingRepair.Native
