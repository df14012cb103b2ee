import BindingRepair.SyntaxNode
import BindingRepair.Text.Blank

namespace BindingRepair.SyntaxNode

private theorem sizeOf_body {node child body : SyntaxNode} (hchild : child ∈ node.children)
    (hbody : child.body? = some body) : sizeOf body < sizeOf node :=
  Nat.lt_trans (sizeOf_lt_of_mem_children (body?_mem hbody)) (sizeOf_lt_of_mem_children hchild)

def outline (node : SyntaxNode) : List Declaration :=
  node.children.attach.flatMap fun ⟨child, _hchild⟩ =>
    match Role.ofKind child.kind with
    | .usingDirective => [child.toUsing (Text.strip child.text)]
    | .namespaceBlock =>
      child.toNamespace ::
        match _hbody : child.body? with
        | some body => body.outline
        | none => child.outline
    | .type kind =>
      child.toType kind ::
        match _hbody : child.body? with
        | some body => body.outline
        | none => []
    | .wrapper => child.outline
    | .other => []
termination_by node
decreasing_by
  · exact sizeOf_body _hchild _hbody
  · exact sizeOf_lt_of_mem_children _hchild
  · exact sizeOf_body _hchild _hbody
  · exact sizeOf_lt_of_mem_children _hchild

end BindingRepair.SyntaxNode
