import BindingRepair.Declaration
import BindingRepair.Native.Declaration

/-!
Which declaration a native one documents. Enumerations go with enumerations, structs with structs,
and functions with the members of one class, the container. Names are compared in whatever case, and
on both sides the first declaration of a name counts.
-/

namespace BindingRepair

structure Target where
  name : String
  startLine : Int
  deriving DecidableEq, Repr

def Declaration.target (d : Declaration) : Target where
  name := d.name
  startLine := d.startLine

def Member.target (m : Member) : Target where
  name := m.name
  startLine := m.startLine

/-- A target, what documents it, and how far that is indented. -/
structure Correlation where
  target : Target
  native : NativeDeclaration
  level : Nat
  deriving DecidableEq, Repr

namespace Correlation

/-- The first element of each name, in the order of the elements. -/
def firstOfName {α : Type} (name : α → String) : List α → List α
  | [] => []
  | a :: rest => a :: (firstOfName name rest).filter (name · ≠ name a)

def findTarget? (targets : List Target) (name : String) : Option Target :=
  targets.find? fun t => Text.foldCase t.name = Text.foldCase name

/-- The native declarations of a kind that count: the first documented one of each name. -/
def documented (kind : NativeKind) (natives : List NativeDeclaration) : List NativeDeclaration :=
  firstOfName (fun n => Text.foldCase n.name)
    (natives.filter fun n => n.kind = kind && n.isDocumented)

def ofKind (kind : NativeKind) (targets : List Target) (level : Nat)
    (natives : List NativeDeclaration) : List Correlation :=
  let found := (documented kind natives).filterMap fun native =>
    (findTarget? targets native.name).map fun target => { target, native, level }
  found.mergeSort fun a b => a.target.startLine ≤ b.target.startLine

def container? (container : String) (tree : SyntaxTree) : Option Declaration :=
  tree.findFolded? .classType container

def functions (container : String) (tree : SyntaxTree) : List Target :=
  ((container? container tree).map (·.members.map (·.target))).getD []

/-- All correlations, kind by kind. -/
def all (container : String) (tree : SyntaxTree) (natives : List NativeDeclaration) :
    List Correlation :=
  ofKind .enumType ((tree.ofKind .enumType).map (·.target)) 1 natives ++
  ofKind .structType ((tree.ofKind .structType).map (·.target)) 1 natives ++
  ofKind .function (functions container tree) 2 natives

end Correlation

end BindingRepair
