import BindingRepair.Native.Grammar.Tag

namespace BindingRepair.Native.Declared

def areSame (s t : CType) : Bool :=
  s.isAnything || t.isAnything || s.withoutAlignment == t.withoutAlignment

def before? (t : Token) (isSame : Meaning → Bool) : Parse (Option Entity) := do
  match (← get).scopes.here? t.text with
  | none => return none
  | some e =>
    if !isSame e.meaning then
      Parse.failAt t ("redefinition of '" ++ t.text ++ "' as different kind of symbol")
    return some e

def typeName (t : Token) (type : CType) (a : Attributes) : Parse Unit := do
  if type.isVariable then
    Parse.failAt t "variably modified type declaration not allowed at file scope"
  match ← before? t (· = .typeName) with
  | none => pure ()
  | some e =>
    if !areSame e.type type then
      Parse.failAt t "typedef redefinition with different types"
  match type.bare with
  | .record id =>
    if a.isTransparent then
      let r := (← Parse.types).record id
      Parse.setRecord id { r with isTransparent := true }
  | _ => pure ()
  let type := type.qualify { alignment := a.alignment }
  Parse.bind t.text { meaning := .typeName, type }

/-- The linkage of a name that was perhaps declared before. A name that is kept to one header must
be so from the start. -/
def linkage (t : Token) (storage : Option Storage) (old : Option Entity) (isFunction : Bool) :
    Parse Linkage := do
  match old with
  | none => return if storage = some .staticStorage then .internal else .external
  | some e =>
    if storage = some .staticStorage && e.linkage = .external then
      Parse.failAt t "static declaration follows non-static declaration"
    if !isFunction && storage = none && e.linkage = .internal then
      Parse.failAt t "non-static declaration follows static declaration"
    return e.linkage

def checkIndices (t : Token) (type : CType) (a : Attributes) : Parse Unit := do
  match type.bare with
  | .function _ (some list) _ =>
    if a.indices.any fun n => n < 1 || (list.length : Int) < n then
      Parse.failAt t "attribute parameter is out of bounds"
  | _ => pure ()

def checkMain (t : Token) (s : Specifiers) (type : CType) : Parse Unit := do
  if t.text = "main" then
    let u ← Parse.types
    if s.isInline then Parse.failAt t "'main' is not allowed to be declared inline"
    match type.bare with
    | .function _ (some list) _ =>
      if 3 < list.length then Parse.failAt t "too many parameters for 'main'"
      let isText (t : CType) : Bool :=
        (t.target?.bind CType.target?).any fun c => u.areCompatible c.bare .char
      let fits := (list.head?.all fun n => u.areCompatible n.bare .int) &&
        list.tail.all isText
      if !fits then Parse.failAt t "parameter of 'main' has a wrong type"
    | _ => pure ()

def function (t : Token) (s : Specifiers) (type : CType) (a : Attributes) (isDefinition : Bool) :
    Parse Nat := do
  if s.isThreadLocal then Parse.failAt t "'_Thread_local' is only allowed on variable declarations"
  if s.storage = some .autoStorage || s.storage = some .registerStorage then
    Parse.failAt t "illegal storage class on function"
  if !s.alignments.isEmpty then
    Parse.failAt t "'_Alignas' attribute only applies to variables and fields"
  if type.isVariable then
    Parse.failAt t "function declaration cannot have variably modified type"
  checkIndices t type a
  checkMain t s type
  let old ← before? t (· = .function)
  let linkage ← linkage t s.storage old true
  if a.isWeak && linkage = .internal then
    Parse.failAt t "weak declaration cannot have internal linkage"
  let u ← Parse.types
  match old with
  | none =>
    let id ← Parse.fresh
    Parse.bind t.text {
      meaning := .function
      type
      id
      linkage
      isDefined := isDefinition
      isOverloadable := a.isOverloadable }
    return id
  | some e =>
    if e.isOverloadable || a.isOverloadable then
      if u.areCompatible e.type type then return e.id else Parse.fresh
    else
      if !u.areCompatible e.type type then Parse.failAt t "conflicting types"
      if isDefinition && e.isDefined then Parse.failAt t ("redefinition of '" ++ t.text ++ "'")
      Parse.bind t.text { e with
        type := TypeTable.composite e.type type
        isDefined := e.isDefined || isDefinition }
      return e.id

/-- Whether an object may have a type for now. Tentative ones may be completed later. -/
def checkObject (t : Token) (s : Specifiers) (type : CType) (hasValue : Bool) : Parse Unit := do
  let u ← Parse.types
  let isOpen : Bool := match type.bare with
    | .array .. => true
    | _ => false
  if s.isInline then Parse.failAt t "'inline' can only appear on functions"
  if s.isNoreturn then Parse.failAt t "'_Noreturn' can only appear on functions"
  if s.storage = some .autoStorage || s.storage = some .registerStorage then
    Parse.failAt t "illegal storage class on file-scoped variable"
  if type.isVariable then
    Parse.failAt t "variable length array declaration not allowed at file scope"
  if !u.isComplete type && !type.isAnything then
    if type.isVoid && (hasValue || s.storage ≠ some .externStorage) then
      Parse.failAt t "variable has incomplete type 'void'"
    if hasValue && !isOpen then Parse.failAt t "variable has incomplete type"
    if !hasValue && s.storage ≠ some .externStorage then
      modify fun p => { p with tentative := (t, t.text) :: p.tentative }
  else discard (Tag.checkAlignments t s.alignments type)

def object (t : Token) (s : Specifiers) (type : CType) (a : Attributes) (hasValue : Bool) :
    Parse Entity := do
  checkObject t s type hasValue
  let old ← before? t (· = .object)
  let linkage ← linkage t s.storage old false
  if a.isWeak && linkage = .internal then
    Parse.failAt t "weak declaration cannot have internal linkage"
  let u ← Parse.types
  let e : Entity ←
    match old with
    | none =>
      pure {
        meaning := .object
        type
        id := ← Parse.fresh
        linkage
        isDefined := hasValue
        isThreadLocal := s.isThreadLocal }
    | some e => do
      if !u.areCompatible e.type type then
        Parse.failAt t ("redefinition of '" ++ t.text ++ "' with a different type")
      if hasValue && e.isDefined then Parse.failAt t ("redefinition of '" ++ t.text ++ "'")
      if e.isThreadLocal ≠ s.isThreadLocal then
        Parse.failAt t "thread-local declaration follows non-thread-local declaration"
      pure { e with
        type := TypeTable.composite e.type type
        isDefined := e.isDefined || hasValue }
  Parse.bind t.text e
  return e

/-- Notes the value of an object, which completes its type. It must be known, and what never changes
can be read later on. -/
def setValue (t : Token) (e : Entity) (type : CType) (parts : Option (List (Int × Constant))) :
    Parse Unit := do
  Parse.bind t.text { e with type }
  match parts with
  | none => Parse.failAt t "initializer element is not a compile-time constant"
  | some parts =>
    if type.isConst && !type.innermost.qualifiers.isVolatile && !e.isThreadLocal then
      Parse.setImage e.id parts

def finish : Parse Unit := do
  let p ← get
  p.tentative.reverse.forM fun (t, name) => do
    match p.scopes.name? name with
    | none => pure ()
    | some e =>
      let isOpen := match e.type.bare with
        | .array element _ => p.world.types.isComplete element
        | _ => false
      if !isOpen && !p.world.types.isComplete e.type then
        Parse.failAt t "tentative definition has type that is never completed"

end BindingRepair.Native.Declared
