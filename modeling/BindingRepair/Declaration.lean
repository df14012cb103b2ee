import BindingRepair.Text.CaseFold

namespace BindingRepair

inductive DeclarationKind
  | usingDirective
  | namespaceBlock
  | classType
  | structType
  | enumType
  | interfaceType
  | typeMember
  deriving DecidableEq, Repr

namespace DeclarationKind

def label : DeclarationKind → String
  | usingDirective => "using"
  | namespaceBlock => "namespace"
  | classType => "class"
  | structType => "struct"
  | enumType => "enum"
  | interfaceType => "interface"
  | typeMember => "member"

def all : List DeclarationKind :=
  [usingDirective, namespaceBlock, classType, structType, enumType, interfaceType, typeMember]

def ofLabel? (label : String) : Option DeclarationKind :=
  all.find? (·.label = label)

end DeclarationKind

structure Member where
  name : String
  startLine : Int
  endLine : Int
  nodeKind : String := ""
  deriving DecidableEq, Repr

structure Declaration where
  kind : DeclarationKind
  name : String
  startLine : Int
  endLine : Int
  bodyStartLine : Option Int := none
  members : List Member := []
  nodeKind : String := ""
  deriving DecidableEq, Repr

structure SyntaxTree where
  declarations : List Declaration := []
  hasErrors : Bool := false
  deriving DecidableEq, Repr

namespace SyntaxTree

def ofKind (tree : SyntaxTree) (kind : DeclarationKind) : List Declaration :=
  tree.declarations.filter (·.kind = kind)

def find? (tree : SyntaxTree) (kind : DeclarationKind) (name : String) : Option Declaration :=
  (tree.ofKind kind).find? (·.name = name)

def findFolded? (tree : SyntaxTree) (kind : DeclarationKind) (name : String) :
    Option Declaration :=
  (tree.ofKind kind).find? fun d => Text.foldCase d.name = Text.foldCase name

theorem mem_ofKind {tree : SyntaxTree} {kind : DeclarationKind} {d : Declaration} :
    d ∈ tree.ofKind kind ↔ d ∈ tree.declarations ∧ d.kind = kind := by
  simp [ofKind]

end SyntaxTree

end BindingRepair
