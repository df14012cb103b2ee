
namespace BindingRepair

inductive NativeKind
  | enumType
  | structType
  | function
  deriving DecidableEq, Repr

def NativeKind.label : NativeKind → String
  | enumType => "enum"
  | structType => "struct"
  | function => "function"

def NativeKind.ofLabel? (label : String) : Option NativeKind :=
  [enumType, structType, function].find? (·.label = label)

structure NativeDeclaration where
  name : String
  kind : NativeKind
  fragments : Option (List String) := none
  deriving DecidableEq, Repr

def NativeDeclaration.isDocumented (n : NativeDeclaration) : Bool :=
  match n.fragments with
  | some (_ :: _) => true
  | _ => false

end BindingRepair
