import BindingRepair.Native.Grammar.Parsing

/-!
The parts of the grammar that hold one another: expressions hold the names of types, these hold
declarators, and these hold expressions. Each is read with readers for what is nested in it.
-/

namespace BindingRepair.Native

structure Attributes where
  alignment : Nat := 0
  isPacked : Bool := false
  isTransparent : Bool := false
  isOverloadable : Bool := false
  isWeak : Bool := false
  vectorCount : Option Nat := none
  vectorBytes : Option Nat := none
  mode : Option String := none
  indices : List Int := []
  deriving Inhabited

namespace Attributes

def append (a b : Attributes) : Attributes where
  alignment := max a.alignment b.alignment
  isPacked := a.isPacked || b.isPacked
  isTransparent := a.isTransparent || b.isTransparent
  isOverloadable := a.isOverloadable || b.isOverloadable
  isWeak := a.isWeak || b.isWeak
  vectorCount := a.vectorCount <|> b.vectorCount
  vectorBytes := a.vectorBytes <|> b.vectorBytes
  mode := a.mode <|> b.mode
  indices := a.indices ++ b.indices

instance : Append Attributes := ⟨append⟩

end Attributes

inductive Storage
  | externStorage
  | staticStorage
  | autoStorage
  | registerStorage
  deriving DecidableEq, Repr

structure TagUse where
  tag : Tag
  keyword : Token
  name : Option Token
  isDefined : Bool
  isNew : Bool

structure Specifiers where
  first : Token
  type : CType
  storage : Option Storage := none
  isTypedef : Bool := false
  isThreadLocal : Bool := false
  isInline : Bool := false
  isNoreturn : Bool := false
  isInferred : Bool := false
  hasType : Bool := true
  alignments : List Nat := []
  attributes : Attributes := {}
  tag : Option TagUse := none

structure Parameter where
  name : Option Token
  type : CType
  deriving Inhabited

inductive Layer
  | pointer (q : Qualifiers)
  | array (length : Length) (isStarred : Bool) (q : Qualifiers) (isForParameter : Bool)
  | function (parameters : Option (List Parameter)) (isVariadic : Bool) (names : List Token)
  | attributes (a : Attributes)

structure Declarator where
  name : Option Token
  layers : List Layer
  attributes : Attributes := {}

/-- The part of an object for which a value is meant: some elements, or a member. -/
inductive Designator
  | elements (first last : Nat)
  | member (name : String)
  deriving DecidableEq, Repr

inductive Initializer
  | value (at_ : Token) (o : Operand)
  | list (at_ : Token) (items : List (List Designator × Initializer))
  deriving Inhabited

inductive Setting
  | file
  | parameter
  | member
  | typeName
  deriving DecidableEq, Repr

structure Readers where
  expression : Parse Operand
  assignment : Parse Operand
  conditional : Parse Operand
  cast : Parse Operand
  typeName : Parse CType
  specifiers : Setting → Parse Specifiers
  declarator : Setting → Parse Declarator
  initializer : Parse Initializer

end BindingRepair.Native
