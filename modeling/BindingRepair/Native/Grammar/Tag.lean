import BindingRepair.Native.Grammar.Declarator
import BindingRepair.Native.Type.Layout

namespace BindingRepair.Native

def Parse.assertion (r : Readers) : Parse Unit := do
  let at_ ← Parse.next
  Parse.bracketed "(" ")" do
    let o ← r.conditional
    if ← Parse.accept "," then
      if (← Parse.peek).kind ≠ .string then Parse.fail "expected string literal"
      discard Expression.moreStrings
    let w ← Parse.world
    let o := o.use w
    if !w.types.isScalar o.type then Parse.failAt at_ "assertion requires scalar type"
    match o.constant, o.constant.bind Constant.truth? with
    | some .fixed, _ => pure ()
    | _, some true => pure ()
    | _, some false => Parse.failAt at_ "static assertion failed"
    | _, none => Parse.failAt at_ "static assertion expression is not an integral constant expression"
  Parse.expect ";"

def Packing.obey (p : Packing) (words : List String) : Packing :=
  let number? (s : String) : Option Nat :=
    (NumberLiteral.read? s).bind fun n =>
      if n.isFloating then none
      else if [1, 2, 4, 8, 16].contains n.value then some n.value
      else if n.value = 0 then some 0 else none
  let limited (p : Packing) (n : Option Nat) : Packing :=
    match n with
    | some n => { p with limit := n }
    | none => p
  let pop (label : Option String) (p : Packing) : Packing :=
    match label with
    | none =>
      match p.saved with
      | (_, limit) :: saved => { limit, saved }
      | [] => p
    | some label =>
      match p.saved.dropWhile (·.1 ≠ label) with
      | (_, limit) :: saved => { limit, saved }
      | [] => p
  match words with
  | ["(", ")"] => { p with limit := 0 }
  | ["(", "push", ")"] => { p with saved := ("", p.limit) :: p.saved }
  | ["(", "push", ",", x, ")"] =>
    match number? x with
    | some n => { limit := n, saved := ("", p.limit) :: p.saved }
    | none => { p with saved := (x, p.limit) :: p.saved }
  | ["(", "push", ",", label, ",", n, ")"] =>
    match number? n with
    | some n => { limit := n, saved := (label, p.limit) :: p.saved }
    | none => p
  | ["(", "pop", ")"] => pop none p
  | ["(", "pop", ",", x, ")"] =>
    match number? x with
    | some n => { pop none p with limit := n }
    | none => pop (some x) p
  | ["(", n, ")"] => limited p (number? n)
  | _ => p

def Parse.pragma (isMember : Bool) : Parse Unit := do
  let t ← Parse.next
  match t.text.splitOn " " with
  | "pack" :: words => modify fun p => { p with packing := p.packing.obey words }
  | "visibility" :: words =>
    if isMember then Parse.failAt t "expected member name or ';'"
    match words with
    | "push" :: "(" :: setting :: ")" :: _ =>
      if ["default", "hidden", "internal", "protected"].contains setting then
        modify fun p => { p with visibility := p.visibility + 1 }
    | "pop" :: _ =>
      let p ← get
      if p.visibility = 0 then Parse.failAt t "#pragma visibility pop with no matching push"
      set { p with visibility := p.visibility - 1 }
    | _ => pure ()
  | _ => Parse.failAt t "a pragma is out of place"

namespace Tag

structure Declared where
  member : PlainMember
  token : Token
  isBitField : Bool := false

def width (r : Readers) (at_ : Token) (name : Option Token) (type : CType) : Parse Nat := do
  let (_, n) ← Expression.constantNumber r
  let u ← Parse.types
  match u.integer? type with
  | none => Parse.failAt at_ "bit-field has non-integral type"
  | some i =>
    if n < 0 then Parse.failAt at_ "bit-field has negative width"
    if n = 0 && name.isSome then Parse.failAt at_ "named bit-field has zero width"
    if (i.rank.width : Int) < n then Parse.failAt at_ "width of bit-field exceeds its type"
    match type.bare with
    | .atomic _ => Parse.failAt at_ "bit-field has atomic type"
    | _ => pure ()
    return n.toNat

def checkMember (at_ : Token) (type : CType) (isBitField : Bool) : Parse Unit := do
  let u ← Parse.types
  if type.isFunction then Parse.failAt at_ "field declared as a function"
  if type.isVariable then Parse.failAt at_ "fields must have a constant size"
  let isOpen := match type.bare with
    | .array element .unknown => u.isComplete element && !isBitField
    | _ => false
  if !isOpen && !u.isComplete type && !type.isAnything then
    Parse.failAt at_ "field has incomplete type"

/-- The alignment that is asked for, if it is no less than that of the type. -/
def checkAlignments (at_ : Token) (alignments : List Nat) (type : CType) : Parse Nat := do
  let asked := alignments.foldl max 0
  if asked ≠ 0 && asked < (← Parse.types).alignment type then
    Parse.failAt at_ "requested alignment is less than minimum alignment"
  return asked

def member (r : Readers) (s : Specifiers) : Parse Declared := do
  let at_ ← Parse.peek
  let isPlain ← Parse.isNext ":"
  let d ← if isPlain then pure { name := none, layers := [] } else r.declarator .member
  if d.hasStrayParameterArray false then
    Parse.failAt at_ "'static' or qualifiers used in array declarator outside of function prototype"
  let early ← d.typeOf at_ s.type
  let bits ← if ← Parse.accept ":" then
      if !s.alignments.isEmpty then
        Parse.failAt at_ "'_Alignas' attribute cannot be applied to a bit-field"
      some <$> width r at_ d.name early
    else pure none
  Attribute.assemblerName
  let a ← Attribute.all r
  let a := a ++ s.attributes ++ d.attributes
  let type ← Attribute.apply at_ { a with alignment := 0 } early
  if ← Parse.isNext "=" then Parse.fail "expected ';' at end of declaration list"
  checkMember at_ type bits.isSome
  let alignment ← checkAlignments at_ s.alignments type
  return {
    member := {
      name := d.name.map (·.text)
      type
      width := bits
      isPacked := a.isPacked
      alignment := max alignment a.alignment }
    token := d.name.getD at_
    isBitField := bits.isSome }

def checkSpecifiers (s : Specifiers) : Parse Unit := do
  if s.storage.isSome || s.isTypedef || s.isThreadLocal then
    Parse.failAt s.first "type name does not allow storage class to be specified"
  if s.isInline || s.isNoreturn then
    Parse.failAt s.first "type name does not allow function specifier to be specified"

/-- The members that a struct without a name contributes, if specifiers that stand alone are one. -/
def nameless? (u : TypeTable) (s : Specifiers) : Option Declared :=
  match s.tag, s.type.bare with
  | some { name := none, isDefined := true, keyword, .. }, .record id =>
    if (u.record id).members.isSome then
      some { member := { type := s.type, isPacked := s.attributes.isPacked }, token := keyword }
    else none
  | _, _ => none

def declaration (r : Readers) (before : List Declared) : Parse (List Declared) := do
  let t ← Parse.peek
  if ← Parse.accept ";" then return before
  else if t.kind = .pragma then
    Parse.pragma true
    return before
  else if t.isKeyword "_Static_assert" then
    Parse.assertion r
    return before
  else if ← Parse.acceptKeyword "__extension__" then return before
  else
    discard (Attribute.inBrackets r)
    let s ← r.specifiers .member
    if !s.hasType then Parse.failAt t "type specifier missing"
    checkSpecifiers s
    let members ←
      if ← Parse.isNext ";" then pure (nameless? (← Parse.types) s).toList
      else Parse.separated do
        discard (Attribute.all r)
        member r s
    if !(← Parse.isNext "\x7d") then
      if !(← Parse.accept ";") then Parse.fail "expected ';' at end of declaration list"
    return members.reverse ++ before

/-- What must hold of all members together: their names differ, and only the last may have any
number of elements. -/
def checkAll (isUnion : Bool) (members : List Declared) : Parse Unit := do
  let u ← Parse.types
  let isOpen (m : Declared) : Bool := match m.member.type.bare with
    | .array _ .unknown => true
    | _ => false
  match (if isUnion then members else members.dropLast).find? isOpen with
  | some m => Parse.failAt m.token "flexible array member is not at the end of struct"
  | none => pure ()
  let seen ← members.foldlM (fun (seen : Std.HashMap String Unit) m => do
    let names := u.memberNames u.depth [{ name := m.member.name, type := m.member.type }]
    match names.find? fun name => seen.contains name with
    | some name => Parse.failAt m.token ("duplicate member '" ++ name ++ "'")
    | none => return names.foldl (fun seen name => seen.insert name ()) seen) {}
  discard (pure seen)

def body (r : Readers) (id : Nat) (isUnion : Bool) (name : Option String) (a : Attributes) :
    Parse Unit := do
  let limit := (← get).packing.limit
  let members ← Parse.bracketed "\x7b" "\x7d" do
    Parse.iterate (fun before => do
      if ← Parse.isNext "\x7d" then return .inr before.reverse
      else if ← Parse.isAtEnd then Parse.fail "expected '\x7d'"
      else return .inl (← declaration r before)) []
  let a := a ++ (← Attribute.all r)
  checkAll isUnion members
  let u ← Parse.types
  let request : LayoutRequest := {
    isUnion
    isPacked := a.isPacked
    limit
    alignment := a.alignment }
  let layout := Layout.ofMembers u request (members.map (·.member))
  let isFlexible := members.getLast?.any fun m =>
    match m.member.type.bare with
    | .array _ .unknown => true
    | t => u.isFlexible t
  Parse.setRecord id {
    isUnion
    name
    members := some layout.members
    size := layout.size
    alignment := layout.alignment
    isFlexible
    isTransparent := a.isTransparent }

def carrier (values : List Int) (isPacked : Bool) : IntegerType :=
  let isSigned := values.any (· < 0)
  let ranks : List Rank := if isPacked then [.char, .short, .int, .long] else [.int, .long]
  let fits (rank : Rank) : Bool :=
    let i : IntegerType := { rank, isSigned }
    values.all i.has
  { rank := (ranks.find? fits).getD .long, isSigned }

def enumeratorType (n : Int) (carrier : IntegerType) : IntegerType :=
  if IntegerType.int.has n then .int else carrier

def enumerator (r : Readers) (fixed : Option IntegerType) (values : List (Token × Int)) :
    Parse (Token × Int) := do
  let t ← Parse.next
  if !t.isName then Parse.failAt t "expected identifier"
  discard (Attribute.all r)
  let n ← if ← Parse.accept "=" then
      let (_, n) ← Expression.constantNumber r
      pure n
    else
      match values with
      | [] => pure 0
      | (_, n) :: _ => pure (if IntegerType.unsignedLong.has (n + 1) || n < 0 then n + 1 else 0)
  match fixed with
  | some i =>
    if !i.has n then Parse.failAt t "enumerator value is not representable in the underlying type"
  | none => pure ()
  match (← get).scopes.here? t.text with
  | some { meaning := .enumerator _, .. } =>
    Parse.failAt t ("redefinition of enumerator '" ++ t.text ++ "'")
  | some _ => Parse.failAt t ("redefinition of '" ++ t.text ++ "' as different kind of symbol")
  | none => pure ()
  let type := enumeratorType n (fixed.getD (carrier [n] false))
  Parse.bind t.text { meaning := .enumerator n, type := .integer type }
  return (t, n)

def enumerators (r : Readers) (id : Nat) (name : Option String) (fixed : Option IntegerType)
    (a : Attributes) : Parse Unit := do
  let values ← Parse.bracketed "\x7b" "\x7d" do
    if ← Parse.isNext "\x7d" then Parse.fail "use of empty enum"
    Parse.iterate (fun values => do
      let value ← enumerator r fixed values
      let values := value :: values
      if ← Parse.accept "," then
        if ← Parse.isNext "\x7d" then return .inr values else return .inl values
      else return .inr values) []
  let a := a ++ (← Attribute.all r)
  let carrier := fixed.getD (carrier (values.map (·.2)) a.isPacked)
  Parse.setEnum id { name, isComplete := true, carrier, isFixed := fixed.isSome }
  if fixed.isNone then
    values.forM fun (t, n) =>
      Parse.bind t.text {
        meaning := .enumerator n
        type := .integer (enumeratorType n carrier) }

def kindOf? (t : Token) : Option TagKind :=
  match t.keyword? with
  | some "struct" => some .structTag
  | some "union" => some .unionTag
  | some "enum" => some .enumTag
  | _ => none

def create (kind : TagKind) (name : Option String) (fixed : Option IntegerType) : Parse Tag := do
  let id ← match kind with
    | .enumTag =>
      match fixed with
      | some carrier => Parse.addEnum { name, isComplete := true, carrier, isFixed := true }
      | none => Parse.addEnum { name }
    | kind => Parse.addRecord { name, isUnion := kind = .unionTag }
  match name with
  | some name => modify fun p => { p with scopes := p.scopes.insertTag name { kind, id } }
  | none => pure ()
  return { kind, id }

def isDefined (u : TypeTable) (tag : Tag) : Bool :=
  match tag.kind with
  | .enumTag => (u.enumeration tag.id).isComplete && !(u.enumeration tag.id).isFixed
  | _ => (u.record tag.id).members.isSome

def fixedType (r : Readers) (kind : TagKind) : Parse (Option IntegerType) := do
  let isTyped ← do
    if kind = .enumTag && (← Parse.isNext ":") then Expression.startsType (← Parse.peekSecond)
    else pure false
  if !isTyped then return none
  else
    let at_ ← Parse.next
    let s ← r.specifiers .typeName
    match (← Parse.types).integer? s.type with
    | some i => return some i
    | none => Parse.failAt at_ "non-integral type is an invalid underlying type"

def isOpen (u : TypeTable) (open_ : List Tag) (tag : Tag) : Bool :=
  open_.contains tag || isDefined u tag

def read (r : Readers) (kind : TagKind) : Parse (TagUse × CType) := do
  let keyword ← Parse.next
  let a ← Attribute.all r
  let t ← Parse.peek
  let name ← if t.isName then do
      discard Parse.next
      pure (some t)
    else pure none
  let text := name.map (·.text)
  let a := a ++ (← if name.isSome then Attribute.all r else pure {})
  let fixed ← fixedType r kind
  let checkKind (tag : Tag) : Parse Unit := do
    if tag.kind ≠ kind then
      Parse.failAt t ("use of '" ++ t.text ++ "' with tag type that does not match")
  if ← Parse.isNext "\x7b" then
    let old := text.bind ((← get).scopes.tagHere? ·)
    let tag ← match old with
      | some tag =>
        checkKind tag
        let p ← get
        if isOpen p.world.types p.defining tag then
          Parse.failAt t ("redefinition of '" ++ t.text ++ "'")
        pure tag
      | none => create kind text none
    modify fun p => { p with defining := tag :: p.defining }
    match kind with
    | .enumTag => enumerators r tag.id text fixed a
    | kind => body r tag.id (kind = .unionTag) text a
    modify fun p => { p with defining := p.defining.erase tag }
    return ({ tag, keyword, name, isDefined := true, isNew := true }, tag.type)
  else
    if name.isNone then Parse.fail "expected identifier or '\x7b'"
    let p ← get
    let isAlone ← Parse.isNext ";"
    let old := text.bind fun text =>
      if isAlone then p.scopes.tagHere? text else p.scopes.tag? text
    match old with
    | some tag =>
      checkKind tag
      return ({ tag, keyword, name, isDefined := false, isNew := isAlone }, tag.type)
    | none =>
      let tag ← create kind text fixed
      return ({ tag, keyword, name, isDefined := false, isNew := true }, tag.type)

end Tag

end BindingRepair.Native
