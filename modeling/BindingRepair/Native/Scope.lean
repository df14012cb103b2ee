import BindingRepair.Native.Operand

namespace BindingRepair.Native

/-- How far a name reaches: through all the program, through one header, or not beyond its scope. -/
inductive Linkage
  | external
  | internal
  | none
  deriving DecidableEq, Repr, Inhabited

inductive Meaning
  | typeName
  | object
  | function
  | enumerator (value : Int)
  deriving DecidableEq, Repr, Inhabited

structure Entity where
  meaning : Meaning
  type : CType
  id : Nat := 0
  linkage : Linkage := .none
  isDefined : Bool := false
  isTentative : Bool := false
  isThreadLocal : Bool := false
  isRegister : Bool := false
  isOverloadable : Bool := false
  deriving Inhabited

inductive TagKind
  | structTag
  | unionTag
  | enumTag
  deriving DecidableEq, Repr, Inhabited

structure Tag where
  kind : TagKind
  id : Nat
  deriving DecidableEq, Repr, Inhabited

namespace Tag

def type (t : Tag) : CType :=
  if t.kind = .enumTag then .enumeration t.id else .record t.id

end Tag

structure Scope where
  names : Std.HashMap String Entity := {}
  tags : Std.HashMap String Tag := {}
  deriving Inhabited

abbrev Scopes := List Scope

namespace Scopes

def name? (s : Scopes) (name : String) : Option Entity :=
  s.findSome? fun scope => scope.names[name]?

def tag? (s : Scopes) (name : String) : Option Tag :=
  s.findSome? fun scope => scope.tags[name]?

def here? (s : Scopes) (name : String) : Option Entity :=
  s.head?.bind fun scope => scope.names[name]?

def tagHere? (s : Scopes) (name : String) : Option Tag :=
  s.head?.bind fun scope => scope.tags[name]?

def insert (s : Scopes) (name : String) (e : Entity) : Scopes :=
  match s with
  | [] => []
  | scope :: outer => { scope with names := scope.names.insert name e } :: outer

def insertTag (s : Scopes) (name : String) (t : Tag) : Scopes :=
  match s with
  | [] => []
  | scope :: outer => { scope with tags := scope.tags.insert name t } :: outer

def isOutermost (s : Scopes) : Bool :=
  s.length ≤ 1

end Scopes

end BindingRepair.Native
