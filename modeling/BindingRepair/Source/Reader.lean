import BindingRepair.SyntaxNode.Outline
import BindingRepair.Source.Chart
import BindingRepair.Source.Mending

namespace BindingRepair.Source

def unitNode (nodes : List SyntaxNode) : SyntaxNode where
  kind := "compilation_unit"
  children := nodes

def parse (source : String) : SyntaxTree :=
  let tokens := tokens source
  match nodes? tokens with
  | some nodes => { declarations := (unitNode nodes).outline }
  | none =>
    { declarations := (unitNode (mendedNodes tokens)).outline
      hasErrors := true }

end BindingRepair.Source
