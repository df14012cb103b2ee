import BindingRepair.Native.Grammar.Body
import BindingRepair.Native.Grammar.Declared
import BindingRepair.Native.Grammar.Value

namespace BindingRepair.Native.Declaration

/-- What a declarator adds to a declaration: the name that it gives to a type without one, and what
is to be noted. -/
structure Outcome where
  typeName : Option Token := none
  finding : Option Finding := none
  isBody : Bool := false

def kindOf? : TagKind → Option NativeKind
  | .structTag => some .structType
  | .enumTag => some .enumType
  | .unionTag => none

/-- Notes the tag in some specifiers. A tag without a name may take another. Where it is only
mentioned it has no remarks. -/
def noteTag (s : Specifiers) (typeName : Option Token) (isAlone : Bool) : Parse Unit := do
  match s.tag with
  | none => pure ()
  | some use =>
    match kindOf? use.tag.kind with
    | none => pure ()
    | some kind =>
      if use.isDefined || use.isNew then
        Parse.find {
          kind
          name := (use.name <|> typeName).map (·.text)
          isDefinition := use.isDefined
          token := use.name.getD use.keyword
          first := use.keyword
          hasRemarks := isAlone || use.isDefined
          subject := (kind, use.tag.id) }

def oldParameters (r : Readers) (names : List Token) : Parse Unit :=
  Parse.inScope do
    Parse.iterate (fun (_ : Unit) => do
      if ← Parse.isNext "\x7b" then return .inr ()
      else
        let s ← r.specifiers .parameter
        let declared ← Parse.separated do
          let d ← r.declarator .file
          discard (Attribute.all r)
          let type ← d.typeOf s.first s.type
          match d.name with
          | none => Parse.fail "expected identifier"
          | some name =>
            if (names.all fun n => n.text ≠ name.text) then
              Parse.failAt name ("parameter named '" ++ name.text ++ "' is missing")
            if ((← get).scopes.here? name.text).isSome then
              Parse.failAt name ("redefinition of parameter '" ++ name.text ++ "'")
            Parse.bind name.text { meaning := .object, type := Declarator.adjusted type d }
        discard (pure declared)
        Parse.expect ";"
        return .inl ()) ()

def checkParameters (t : Token) (d : Declarator) (result : CType) : Parse Unit := do
  let u ← Parse.types
  if !result.isVoid && !u.isComplete result && !result.isAnything then
    Parse.failAt t "incomplete result type in function definition"
  if d.layers.any fun l => match l with
      | .function (some list) _ _ => list.any fun p => p.type.isVoid
      | _ => false then
    Parse.failAt t "argument may not have 'void' type"
  match d.function? with
  | some (some list, _, _) =>
    if list.any fun p => !u.isComplete p.type && !p.type.isAnything then
      Parse.failAt t "variable has incomplete type"
  | _ => pure ()

def found (t : Token) (s : Specifiers) (id : Nat) (isDefinition : Bool) : Finding where
  kind := .function
  name := some t.text
  isDefinition
  token := t
  first := s.first
  subject := (.function, id)

def body (r : Readers) (t : Token) (s : Specifiers) (d : Declarator) (type : CType)
    (a : Attributes) : Parse Outcome := do
  if s.isTypedef then Parse.failAt t "function definition declared 'typedef'"
  match type.bare, d.function? with
  | .function result _ _, some (_, _, names) =>
    if !names.isEmpty then oldParameters r names
    checkParameters t d result
    let id ← Declared.function t s type a true
    modify fun p => { p with tokens := Body.behind p.tokens }
    return { finding := some (found t s id true), isBody := true }
  | _, _ => Parse.failAt t "expected ';' after top level declarator"

def value (r : Readers) (t : Token) (s : Specifiers) (type : CType) (a : Attributes) :
    Parse Unit := do
  let e ← Declared.object t s type a true
  Parse.expect "="
  let i ← r.initializer
  if s.isInferred then
    match i with
    | .value _ o =>
      let o := o.use (← Parse.world)
      let type := o.type.qualify type.qualifiers
      Declared.setValue t e type (o.constant.map fun c => [(0, c)])
    | .list .. => Parse.failAt t "cannot use '__auto_type' with initializer list"
  else
    let (type, parts) ← Value.complete e.type i
    Declared.setValue t e type parts

def declare (r : Readers) (t : Token) (s : Specifiers) (d : Declarator) (type : CType)
    (a : Attributes) : Parse Outcome := do
  let hasValue ← Parse.isNext "="
  if s.isInferred && (!d.isPlain || s.isTypedef || !hasValue) then
    Parse.failAt t "'__auto_type' requires an initializer"
  if s.isTypedef then
    if hasValue then Parse.failAt t "illegal initializer (only variables can be initialized)"
    if s.isInline then Parse.failAt t "'inline' can only appear on functions"
    if s.isNoreturn then Parse.failAt t "'_Noreturn' can only appear on functions"
    if !s.alignments.isEmpty then
      Parse.failAt t "'_Alignas' attribute only applies to variables and fields"
    Declared.typeName t type a
    let isAlias := d.isPlain && type.qualifiers.agree {}
    return { typeName := if isAlias then some t else none }
  else if type.isFunction then
    if hasValue then Parse.failAt t "illegal initializer (only variables can be initialized)"
    if (match d.function? with
        | some (_, _, names) => !names.isEmpty
        | none => false) then
      Parse.failAt t "a parameter list without types is only allowed in a function definition"
    let id ← Declared.function t s type a false
    return { finding := some (found t s id false) }
  else
    if hasValue then value r t s type a else discard (Declared.object t s type a false)
    return {}

/-- Reads a declarator, with the body or the value that it may have. Only the first one may have a
body. -/
def declarator (r : Readers) (s : Specifiers) (isFirst : Bool) : Parse Outcome := do
  let early ← if isFirst then pure {} else Attribute.all r
  let d ← r.declarator .file
  match d.name with
  | none => Parse.fail "expected identifier or '('"
  | some t =>
    Attribute.assemblerName
    let late ← Attribute.all r
    let a := d.attributes ++ early ++ late ++ s.attributes
    if d.hasStrayParameterArray false then
      Parse.failAt t "'static' or qualifiers used outside of function prototype"
    let d := { d with attributes := a }
    let type ← d.typeOf t s.type
    let isOld := match d.function? with
      | some (_, _, names) => !names.isEmpty
      | none => false
    let next ← Parse.peek
    let startsBody := next.isSymbol "\x7b" ||
      (isOld && !next.isSymbol ";" && !next.isSymbol "," && !next.isSymbol "=")
    if isFirst && d.function?.isSome && startsBody then body r t s d type a
    else declare r t s d type a

def withDeclarators (r : Readers) (s : Specifiers) : Parse Unit := do
  let first ← declarator r s true
  let outcomes ←
    if first.isBody then pure [first]
    else
      let others ← Parse.iterate (fun before => do
        if ← Parse.accept "," then return .inl ((← declarator r s false) :: before)
        else return .inr before.reverse) []
      Parse.expect ";"
      pure (first :: others)
  noteTag s (outcomes.findSome? (·.typeName)) false
  (outcomes.filterMap (·.finding)).forM Parse.find

def declaration (r : Readers) : Parse Unit := do
  let t ← Parse.peek
  discard (Attribute.inBrackets r)
  if !(← Parse.accept ";") then
    let s ← r.specifiers .file
    if ← Parse.accept ";" then
      if s.isInline then Parse.failAt t "'inline' can only appear on functions"
      if s.isNoreturn then Parse.failAt t "'_Noreturn' can only appear on functions"
      noteTag s none true
    else
      if !s.hasType then Parse.failAt t "type specifier missing, defaults to 'int'"
      withDeclarators r s

def external (r : Readers) : Parse Unit := do
  let t ← Parse.peek
  if ← Parse.accept ";" then pure ()
  else if t.kind = .pragma then Parse.pragma false
  else if ← Parse.acceptKeyword "__extension__" then
    if ← Parse.isAtEnd then Parse.fail "expected external declaration"
  else if t.isKeyword "_Static_assert" then Parse.assertion r
  else if ← Parse.acceptKeyword "__asm" then
    discard (Parse.acceptKeyword "volatile")
    Parse.bracketed "(" ")" do
      if (← Parse.peek).kind ≠ .string then Parse.fail "expected string literal in 'asm'"
      discard Expression.moreStrings
    Parse.expect ";"
  else declaration r

def all (r : Readers) : Parse Unit := do
  Parse.iterate (fun (_ : Unit) => do
    if ← Parse.isAtEnd then return .inr ()
    else
      external r
      return .inl ()) ()
  Declared.finish

end BindingRepair.Native.Declaration
