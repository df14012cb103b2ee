import Mathlib.Data.Int.Order.Basic
import Mathlib.Data.List.Chain
import BindingRepair.SyntaxNode.Outline

namespace BindingRepair

namespace Declaration

/-- The first declaration stands on lines of the second. -/
def Within (inner outer : Declaration) : Prop :=
  outer.startLine ≤ inner.startLine ∧ inner.endLine ≤ outer.endLine

/-- A declaration that ends behind its start, and whose parts stand in it: its members, in the order
of the source, and the line on which its body opens. -/
structure HoldsParts (d : Declaration) : Prop where
  forward : d.startLine ≤ d.endLine
  members_within : ∀ m ∈ d.members, d.startLine ≤ m.startLine ∧ m.endLine ≤ d.endLine
  members_inOrder : d.members.Pairwise fun m next => m.startLine ≤ next.startLine
  body_within : ∀ row ∈ d.bodyStartLine, d.startLine ≤ row ∧ row ≤ d.endLine

end Declaration

namespace SyntaxNode

/-- A node whose rows hold its children, each of which ends before the next one starts, and so for
every node below it. Two nodes that meet may share a row. -/
inductive Placed : SyntaxNode → Prop
  | intro {node : SyntaxNode}
      (forward : node.startRow ≤ node.endRow)
      (inside : ∀ child ∈ node.children,
        node.startRow ≤ child.startRow ∧ child.endRow ≤ node.endRow)
      (inTurn : node.children.IsChain fun child next => child.endRow ≤ next.startRow)
      (children : ∀ child ∈ node.children, Placed child) : Placed node

variable {node child body : SyntaxNode} {nodes : List SyntaxNode}

theorem placed_mk_iff {kind text : String} {first last : Int} {fields : List (String × Nat)} :
    Placed { kind, text, startRow := first, endRow := last, children := nodes, fields } ↔
      first ≤ last ∧ (∀ child ∈ nodes, first ≤ child.startRow ∧ child.endRow ≤ last) ∧
        (nodes.IsChain fun child next => child.endRow ≤ next.startRow) ∧
        ∀ child ∈ nodes, Placed child := by
  constructor
  · intro placed
    cases placed with
    | intro forward inside inTurn children => exact ⟨forward, inside, inTurn, children⟩
  · rintro ⟨forward, inside, inTurn, children⟩
    exact .intro forward inside inTurn children

theorem Placed.forward (placed : Placed node) : node.startRow ≤ node.endRow := by
  cases placed with
  | intro forward inside inTurn children => exact forward

theorem Placed.of_mem_children (placed : Placed node) (member : child ∈ node.children) :
    Placed child := by
  cases placed with
  | intro forward inside inTurn children => exact children child member

theorem Placed.inside (placed : Placed node) (member : child ∈ node.children) :
    node.startRow ≤ child.startRow ∧ child.endRow ≤ node.endRow := by
  cases placed with
  | intro forward inside inTurn children => exact inside child member

theorem pairwise_of_isChain (forward : ∀ node ∈ nodes, node.startRow ≤ node.endRow)
    (inTurn : nodes.IsChain fun child next => child.endRow ≤ next.startRow) :
    nodes.Pairwise fun child later => child.endRow ≤ later.startRow := by
  induction nodes with
  | nil => exact .nil
  | cons first rest induction =>
      have later := induction (fun node member => forward node (List.mem_cons_of_mem first member))
        inTurn.tail
      refine List.pairwise_cons.mpr ⟨?_, later⟩
      cases rest with
      | nil => nofun
      | cons second others =>
          have next : first.endRow ≤ second.startRow := (List.isChain_cons_cons.mp inTurn).1
          have behind : ∀ node ∈ others, second.endRow ≤ node.startRow :=
            (List.pairwise_cons.mp later).1
          have ends : second.startRow ≤ second.endRow := forward second (by simp)
          intro node member
          rcases List.mem_cons.mp member with rfl | member
          · exact next
          · exact (next.trans ends).trans (behind node member)

theorem Placed.inTurn (placed : Placed node) :
    node.children.Pairwise fun child later => child.endRow ≤ later.startRow := by
  cases placed with
  | intro forward inside inTurn children =>
      exact pairwise_of_isChain (fun child member => (children child member).forward) inTurn

theorem Placed.body_rows (placed : Placed node) (found : node.body? = some body) :
    node.startRow ≤ body.startRow ∧ body.startRow ≤ body.endRow ∧ body.endRow ≤ node.endRow :=
  have member := body?_mem found
  ⟨(placed.inside member).1, (placed.of_mem_children member).forward, (placed.inside member).2⟩

theorem Placed.members_within (placed : Placed body) :
    ∀ m ∈ body.members, body.startRow ≤ m.startLine ∧ m.endLine ≤ body.endRow := by
  intro m member
  obtain ⟨child, listed, rfl⟩ := List.mem_map.mp member
  exact placed.inside (List.mem_of_mem_filter listed)

theorem Placed.members_inOrder (placed : Placed body) :
    body.members.Pairwise fun m next => m.startLine ≤ next.startLine := by
  rw [members, List.pairwise_map]
  refine (placed.inTurn.filter isMember).imp_of_mem fun listed _ before => ?_
  exact (placed.of_mem_children (List.mem_of_mem_filter listed)).forward.trans before

theorem Placed.toUsing_holdsParts (placed : Placed node) (text : String) :
    (node.toUsing text).HoldsParts where
  forward := placed.forward
  members_within := nofun
  members_inOrder := .nil
  body_within := nofun

theorem Placed.toNamespace_holdsParts (placed : Placed node) : node.toNamespace.HoldsParts where
  forward := placed.forward
  members_within := nofun
  members_inOrder := .nil
  body_within := by
    intro row opens
    obtain rfl := Option.some.inj opens
    cases found : node.body? with
    | none => exact ⟨le_refl _, placed.forward⟩
    | some body =>
        obtain ⟨starts, forward, ends⟩ := placed.body_rows found
        exact ⟨starts, forward.trans ends⟩

theorem Placed.toType_holdsParts (placed : Placed node) (kind : DeclarationKind) :
    (node.toType kind).HoldsParts := by
  cases found : node.body? with
  | none =>
      exact {
        forward := placed.forward
        members_within := by simp [toType, found]
        members_inOrder := by simp [toType, found]
        body_within := by simp [toType, found] }
  | some body =>
      obtain ⟨starts, forward, ends⟩ := placed.body_rows found
      have placedBody : Placed body := placed.of_mem_children (body?_mem found)
      have held : (node.toType kind).members = body.members := by simp [toType, found]
      exact {
        forward := placed.forward
        members_within := by
          rw [held]
          intro m member
          obtain ⟨after, before⟩ := placedBody.members_within m member
          exact ⟨starts.trans after, before.trans ends⟩
        members_inOrder := by
          rw [held]
          exact placedBody.members_inOrder
        body_within := by
          intro row opens
          obtain rfl : body.startRow = row := by simpa [toType, found] using opens
          exact ⟨starts, forward.trans ends⟩ }

/-- Declarations that stand between two rows in the order of the source, each of them behind those
before it or in them. -/
structure Laid (first last : Int) (ds : List Declaration) : Prop where
  within : ∀ d ∈ ds, first ≤ d.startLine ∧ d.endLine ≤ last
  holdsParts : ∀ d ∈ ds, d.HoldsParts
  inOrder : ds.Pairwise fun d later => d.startLine ≤ later.startLine
  nested : ds.Pairwise fun d later => d.endLine ≤ later.startLine ∨ later.Within d

namespace Laid

variable {first last : Int} {d : Declaration} {ds : List Declaration}

theorem nil (first last : Int) : Laid first last [] where
  within := nofun
  holdsParts := nofun
  inOrder := .nil
  nested := .nil

theorem widen {outerFirst outerLast : Int} (laid : Laid first last ds) (starts : outerFirst ≤ first)
    (ends : last ≤ outerLast) : Laid outerFirst outerLast ds where
  within d member := ⟨starts.trans (laid.within d member).1, (laid.within d member).2.trans ends⟩
  holdsParts := laid.holdsParts
  inOrder := laid.inOrder
  nested := laid.nested

theorem cons (holdsParts : d.HoldsParts) (laid : Laid d.startLine d.endLine ds) :
    Laid d.startLine d.endLine (d :: ds) where
  within := List.forall_mem_cons.mpr ⟨⟨le_refl _, le_refl _⟩, laid.within⟩
  holdsParts := List.forall_mem_cons.mpr ⟨holdsParts, laid.holdsParts⟩
  inOrder := List.pairwise_cons.mpr ⟨fun later member => (laid.within later member).1, laid.inOrder⟩
  nested := List.pairwise_cons.mpr
    ⟨fun later member => .inr (laid.within later member), laid.nested⟩

theorem flatMap {contribution : SyntaxNode → List Declaration}
    (laid : ∀ node ∈ nodes, Laid node.startRow node.endRow (contribution node))
    (inside : ∀ node ∈ nodes, first ≤ node.startRow ∧ node.endRow ≤ last)
    (inTurn : nodes.Pairwise fun node later => node.endRow ≤ later.startRow) :
    Laid first last (nodes.flatMap contribution) := by
  have apart : nodes.Pairwise fun node next => ∀ d ∈ contribution node,
      ∀ later ∈ contribution next, d.endLine ≤ later.startLine :=
    inTurn.imp_of_mem fun {node next} listed listedNext before d member later memberLater =>
      calc
        d.endLine ≤ node.endRow := ((laid node listed).within d member).2
        _ ≤ next.startRow := before
        _ ≤ later.startLine := ((laid next listedNext).within later memberLater).1
  constructor
  · intro d member
    obtain ⟨node, listed, member⟩ := List.mem_flatMap.mp member
    obtain ⟨starts, ends⟩ := (laid node listed).within d member
    exact ⟨(inside node listed).1.trans starts, ends.trans (inside node listed).2⟩
  · intro d member
    obtain ⟨node, listed, member⟩ := List.mem_flatMap.mp member
    exact (laid node listed).holdsParts d member
  · refine List.pairwise_flatMap.mpr ⟨fun node listed => (laid node listed).inOrder, ?_⟩
    exact apart.imp_of_mem fun {node next} listed _ before d member later memberLater =>
      ((laid node listed).holdsParts d member).forward.trans (before d member later memberLater)
  · refine List.pairwise_flatMap.mpr ⟨fun node listed => (laid node listed).nested, ?_⟩
    exact apart.imp fun before d member later memberLater =>
      .inl (before d member later memberLater)

end Laid

/-- The declarations of one node: its own, and then those that lie in it. -/
def declared (node : SyntaxNode) : List Declaration :=
  match Role.ofKind node.kind with
  | .usingDirective => [node.toUsing (Text.strip node.text)]
  | .namespaceBlock => node.toNamespace :: (node.body?.getD node).outline
  | .type kind => node.toType kind :: (node.body?.map outline).getD []
  | .wrapper => node.outline
  | .other => []

theorem outline_eq_flatMap (node : SyntaxNode) :
    node.outline = node.children.flatMap declared := by
  have attached : node.children.flatMap declared =
      node.children.attach.flatMap fun child => child.1.declared := by
    rw [← List.flatMap_map Subtype.val declared, List.attach_map_subtype_val]
  rw [outline, attached]
  refine List.flatMap_congr fun ⟨child, _⟩ _ => ?_
  cases role : Role.ofKind child.kind with
  | usingDirective => simp only [declared, role]
  | namespaceBlock =>
      simp only [declared, role]
      split
      · next body found => rw [found, Option.getD_some]
      · next found => rw [found, Option.getD_none]
  | type kind =>
      simp only [declared, role]
      split
      · next body found => rw [found, Option.map_some, Option.getD_some]
      · next found => rw [found, Option.map_none, Option.getD_none]
  | wrapper => simp only [declared, role]
  | other => simp only [declared, role]

theorem Placed.laid_declared (placed : Placed node)
    (own : Laid node.startRow node.endRow node.outline)
    (inner : ∀ body, node.body? = some body → Laid body.startRow body.endRow body.outline) :
    Laid node.startRow node.endRow node.declared := by
  have innerWide : ∀ body, node.body? = some body →
      Laid node.startRow node.endRow body.outline := by
    intro body found
    obtain ⟨starts, _, ends⟩ := placed.body_rows found
    exact (inner body found).widen starts ends
  unfold declared
  cases Role.ofKind node.kind with
  | usingDirective => exact .cons (placed.toUsing_holdsParts _) (.nil _ _)
  | namespaceBlock =>
      refine .cons placed.toNamespace_holdsParts ?_
      cases found : node.body? with
      | none => exact own
      | some body => exact innerWide body found
  | type kind =>
      refine .cons (placed.toType_holdsParts kind) ?_
      cases found : node.body? with
      | none => exact .nil _ _
      | some body => exact innerWide body found
  | wrapper => exact own
  | other => exact .nil _ _

theorem Placed.laid_outline (placed : Placed node) :
    Laid node.startRow node.endRow node.outline ∧
      ∀ body, node.body? = some body → Laid body.startRow body.endRow body.outline := by
  -- From a child the outline goes on in its body, which lies two levels below the node. So the
  -- hypothesis for a child tells of its body as well.
  induction placed with
  | @intro node forward inside inTurn children induction =>
      have placed : Placed node := .intro forward inside inTurn children
      constructor
      · rw [outline_eq_flatMap]
        refine Laid.flatMap (fun child member => ?_) inside placed.inTurn
        exact (children child member).laid_declared (induction child member).1
          (induction child member).2
      · intro body found
        exact (induction body (body?_mem found)).1

/-- The declarations of a tree come in the order of the source; each later one starts behind an
earlier one or lies in it; and all of them hold their parts. -/
theorem outline_inOrder_nested (placed : Placed node) :
    node.outline.Pairwise (fun d later => d.startLine ≤ later.startLine) ∧
    node.outline.Pairwise (fun d later => d.endLine ≤ later.startLine ∨ later.Within d) ∧
    ∀ d ∈ node.outline, d.HoldsParts :=
  have laid := placed.laid_outline.1
  ⟨laid.inOrder, laid.nested, laid.holdsParts⟩

def nestedTypes : SyntaxNode where
  kind := "compilation_unit"
  endRow := 9
  children := [
    { kind := "using_directive", text := "using System;" },
    { kind := "ERROR", startRow := 1, endRow := 9, children := [
      { kind := "namespace_declaration", startRow := 1, endRow := 9, fields := [("body", 0)],
        children := [
          { kind := "declaration_list", startRow := 2, endRow := 9, children := [
            { kind := "class_declaration", startRow := 3, endRow := 8, children := [
              { kind := "declaration_list", startRow := 4, endRow := 8, children := [
                { kind := "method_declaration", startRow := 5, endRow := 6 },
                { kind := "struct_declaration", startRow := 6, endRow := 8 }] }] }] }] }] }]

theorem outline_inOrder_nested_types :
    Placed nestedTypes ∧
    nestedTypes.outline.map (fun d => (d.startLine, d.endLine)) =
      [(0, 0), (1, 9), (3, 8), (6, 8)] ∧
    nestedTypes.outline.Pairwise (fun d later => d.startLine ≤ later.startLine) ∧
    nestedTypes.outline.Pairwise
      (fun d later => d.endLine ≤ later.startLine ∨ later.Within d) ∧
    ∀ d ∈ nestedTypes.outline, d.HoldsParts := by
  have placed : Placed nestedTypes := by simp [nestedTypes, placed_mk_iff]
  refine ⟨placed, ?_, outline_inOrder_nested placed⟩
  simp [outline_eq_flatMap, nestedTypes, declared, Role.ofKind, body?, field?, toUsing, toNamespace,
    toType, isBody]

end SyntaxNode

end BindingRepair
