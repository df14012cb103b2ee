import BindingRepair.Declaration

namespace BindingRepair

structure SyntaxNode where
  kind : String
  text : String := ""
  startRow : Int := 0
  endRow : Int := 0
  children : List SyntaxNode := []
  fields : List (String × Nat) := []
  deriving Inhabited

namespace SyntaxNode

def field? (node : SyntaxNode) (name : String) : Option SyntaxNode :=
  (node.fields.lookup name).bind (node.children[·]?)

def isBody (node : SyntaxNode) : Bool :=
  node.kind = "declaration_list" || node.kind = "enum_member_declaration_list"

/-- The body of a declaration: the child the field names, or else the first that looks like one. -/
def body? (node : SyntaxNode) : Option SyntaxNode :=
  node.field? "body" <|> node.children.find? isBody

def name (node : SyntaxNode) : String :=
  ((node.field? "name").map (·.text)).getD ""

theorem sizeOf_children_lt (node : SyntaxNode) : sizeOf node.children < sizeOf node := by
  cases node
  simp only [mk.sizeOf_spec]
  omega

theorem sizeOf_lt_of_mem_children {node child : SyntaxNode} (h : child ∈ node.children) :
    sizeOf child < sizeOf node :=
  Nat.lt_trans (List.sizeOf_lt_of_mem h) (sizeOf_children_lt node)

theorem field?_mem {node child : SyntaxNode} {name : String} (h : node.field? name = some child) :
    child ∈ node.children := by
  obtain ⟨index, -, hindex⟩ := Option.bind_eq_some_iff.mp h
  exact List.mem_of_getElem? hindex

theorem body?_mem {node child : SyntaxNode} (h : node.body? = some child) :
    child ∈ node.children := by
  unfold body? at h
  cases hfield : node.field? "body" with
  | some found =>
    rw [hfield] at h
    cases h
    exact field?_mem hfield
  | none =>
    rw [hfield] at h
    exact List.mem_of_find?_eq_some h

/-- The name that a declarator gives: its name field, or else its first identifier. -/
def declaratorName? (node : SyntaxNode) : Option String :=
  if node.kind = "variable_declarator" then
    (node.field? "name" <|> node.children.find? (·.kind = "identifier")).map (·.text)
  else none

theorem sizeOf_append (first second : List SyntaxNode) :
    sizeOf (first ++ second) + 1 = sizeOf first + sizeOf second := by
  induction first with
  | nil => simp; omega
  | cons head tail induction => simp; omega

/-- The first name that a declarator gives, level by level: each node is asked, and its children
wait behind all that wait already. -/
def firstDeclaratorName? : List SyntaxNode → Option String
  | [] => none
  | node :: waiting =>
    match node.declaratorName? with
    | some name => some name
    | none => firstDeclaratorName? (waiting ++ node.children)
termination_by waiting => sizeOf waiting
decreasing_by
  have happend := sizeOf_append waiting node.children
  have hnode := sizeOf_children_lt node
  simp only [List.cons.sizeOf_spec]
  omega

/-- The name of a member: its name field, or else the name of its first declarator. -/
def memberName (node : SyntaxNode) : String :=
  match node.field? "name" with
  | some named => named.text
  | none => (firstDeclaratorName? node.children).getD ""

inductive Role
  | usingDirective
  | namespaceBlock
  | type (kind : DeclarationKind)
  | wrapper
  | other

def Role.ofKind (kind : String) : Role :=
  if kind = "using_directive" then usingDirective
  else if kind = "namespace_declaration" || kind = "file_scoped_namespace_declaration" then
    namespaceBlock
  else if kind = "class_declaration" then type .classType
  else if kind = "struct_declaration" then type .structType
  else if kind = "enum_declaration" then type .enumType
  else if kind = "interface_declaration" then type .interfaceType
  else if kind = "declaration_list" || kind = "ERROR" then wrapper
  else other

def isMember (node : SyntaxNode) : Bool :=
  ["method_declaration", "field_declaration", "delegate_declaration", "property_declaration",
    "event_field_declaration", "constructor_declaration"].contains node.kind

def toMember (node : SyntaxNode) : Member where
  name := node.memberName
  startLine := node.startRow
  endLine := node.endRow
  nodeKind := node.kind

def members (body : SyntaxNode) : List Member :=
  (body.children.filter isMember).map toMember

def toUsing (node : SyntaxNode) (text : String) : Declaration where
  kind := .usingDirective
  name := text
  startLine := node.startRow
  endLine := node.endRow
  nodeKind := node.kind

/-- The declaration of a namespace. One without a body of its own opens on its first line. -/
def toNamespace (node : SyntaxNode) : Declaration where
  kind := .namespaceBlock
  name := node.name
  startLine := node.startRow
  endLine := node.endRow
  bodyStartLine := some ((node.body?.map (·.startRow)).getD node.startRow)
  nodeKind := node.kind

def toType (node : SyntaxNode) (kind : DeclarationKind) : Declaration where
  kind
  name := node.name
  startLine := node.startRow
  endLine := node.endRow
  bodyStartLine := node.body?.map (·.startRow)
  members := (node.body?.map members).getD []
  nodeKind := node.kind

end SyntaxNode

end BindingRepair
