import BindingRepair.Native.Declaration
import BindingRepair.Native.Keyword
import BindingRepair.Native.Scope

namespace BindingRepair.Native

structure Finding where
  kind : NativeKind
  name : Option String
  isDefinition : Bool
  token : Token
  first : Token
  hasRemarks : Bool := true
  subject : NativeKind × Nat

/-- The greatest alignment of members for now, and those that were set aside, the latest first, with
the labels under which they were. Zero is none. -/
structure Packing where
  limit : Nat := 0
  saved : List (String × Nat) := []
  deriving Inhabited

structure Parsing where
  tokens : List Token
  last : Token := default
  scopes : Scopes := [{}]
  world : World := {}
  nextId : Nat := 1
  defining : List Tag := []
  nesting : Nat := 0
  packing : Packing := {}
  visibility : Nat := 0
  findings : List Finding := []
  tentative : List (Token × String) := []

abbrev Parse := StateT Parsing (Except HeaderFault)

namespace Parse

def endToken (p : Parsing) : Token :=
  { p.last with kind := .symbol, text := "" }

def peek : Parse Token := do
  let p ← get
  return p.tokens.headD (endToken p)

def peekSecond : Parse Token := do
  let p ← get
  return p.tokens.tail.headD (endToken p)

def isAtEnd : Parse Bool := do
  return (← get).tokens.isEmpty

def next : Parse Token := do
  let p ← get
  match p.tokens with
  | [] => return endToken p
  | t :: tokens =>
    set { p with tokens, last := t }
    return t

def failAt {α : Type} (t : Token) (spelling : String) : Parse α :=
  throw (t.fault spelling)

def fail {α : Type} (spelling : String) : Parse α := do
  failAt (← peek) spelling

def isNext (symbol : String) : Parse Bool := do
  return (← peek).isSymbol symbol

def isNextKeyword (word : String) : Parse Bool := do
  return (← peek).isKeyword word

def accept (symbol : String) : Parse Bool := do
  if ← isNext symbol then
    discard next
    return true
  else return false

def acceptKeyword (word : String) : Parse Bool := do
  if ← isNextKeyword word then
    discard next
    return true
  else return false

def expect (symbol : String) : Parse Unit := do
  if !(← accept symbol) then fail ("expected '" ++ symbol ++ "'")

def nestingLimit : Nat := 256

def bracketed {α : Type} (opener closer : String) (inside : Parse α) : Parse α := do
  expect opener
  let p ← get
  if nestingLimit ≤ p.nesting then
    fail "bracket nesting level exceeded maximum of 256"
  set { p with nesting := p.nesting + 1 }
  let a ← inside
  expect closer
  modify fun p => { p with nesting := p.nesting - 1 }
  return a

/-- Repeats a step until it has a result. Each step takes a token or has a result. -/
def iterate {α β : Type} (step : α → Parse (α ⊕ β)) (a : α) : Parse β := do
  go (2 * (← get).tokens.length + 8) a
where
  go : Nat → α → Parse β
    | 0, _ => fail "a declaration is too long"
    | steps + 1, a => do
      match ← step a with
      | .inl a => go steps a
      | .inr b => return b

def separated {α : Type} (part : Parse α) : Parse (List α) := do
  let first ← part
  iterate (fun before => do
    if ← accept "," then
      let a ← part
      return .inl (a :: before)
    else return .inr before.reverse) [first]

def inScope {α : Type} (inside : Parse α) : Parse α := do
  modify fun p => { p with scopes := {} :: p.scopes }
  let a ← inside
  modify fun p => { p with scopes := p.scopes.tail }
  return a

def world : Parse World := do
  return (← get).world

def types : Parse TypeTable := do
  return (← get).world.types

def fresh : Parse Nat := do
  let p ← get
  set { p with nextId := p.nextId + 1 }
  return p.nextId

def lookup? (name : String) : Parse (Option Entity) := do
  return (← get).scopes.name? name

def bind (name : String) (e : Entity) : Parse Unit :=
  modify fun p => { p with scopes := p.scopes.insert name e }

def addRecord (r : RecordType) : Parse Nat := do
  let p ← get
  let u := p.world.types
  set { p with world := { p.world with types := { u with records := u.records.push r } } }
  return u.records.size

def setRecord (id : Nat) (r : RecordType) : Parse Unit :=
  modify fun p =>
    let u := p.world.types
    let records := u.records.setIfInBounds id r
    { p with world := { p.world with types := { u with records } } }

def addEnum (e : EnumType) : Parse Nat := do
  let p ← get
  let u := p.world.types
  set { p with world := { p.world with types := { u with enums := u.enums.push e } } }
  return u.enums.size

def setEnum (id : Nat) (e : EnumType) : Parse Unit :=
  modify fun p =>
    let u := p.world.types
    { p with world := { p.world with types := { u with enums := u.enums.setIfInBounds id e } } }

def setImage (id : Nat) (parts : List (Int × Constant)) : Parse Unit :=
  modify fun p => { p with world := { p.world with images := p.world.images.insert id parts } }

def find (f : Finding) : Parse Unit :=
  modify fun p => { p with findings := f :: p.findings }

def isTypeName (t : Token) : Parse Bool := do
  if !t.isName then return false
  match ← lookup? t.text with
  | some { meaning := .typeName, .. } => return true
  | _ => return false

end Parse

end BindingRepair.Native
