import Mathlib.Data.Prod.Lex
import BindingRepair.SyntaxNode

/-!
The name of a member that has no name field. The search below it ends, having asked the nodes level
by level and each at most once. The name is the one that the first declarator with a name gives: of
those at the least depth, the leftmost one.
-/

namespace BindingRepair.SyntaxNode

/-- A variable declarator gives the name its field holds, or else that of its first identifier. -/
inductive Declares (node : SyntaxNode) : String → Prop
  | field {named : SyntaxNode} (declarator : node.kind = "variable_declarator")
      (held : node.field? "name" = some named) : Declares node named.text
  | identifier {ident : SyntaxNode} (declarator : node.kind = "variable_declarator")
      (unnamed : node.field? "name" = none)
      (first : node.children.find? (·.kind = "identifier") = some ident) :
      Declares node ident.text

/-- A node that is no declarator, or one that gives no name. -/
def Nameless (node : SyntaxNode) : Prop :=
  ∀ name, ¬ node.Declares name

/-- A search from a queue of nodes: those it asks, in turn, and its answer. Each turn takes the
front node off the queue, and the children of a nameless one join at the back. -/
inductive Search : List SyntaxNode → List SyntaxNode → Option String → Prop
  | ended : Search [] [] none
  | found {node : SyntaxNode} {waiting : List SyntaxNode} {name : String}
      (declares : node.Declares name) : Search (node :: waiting) [node] (some name)
  | passed {node : SyntaxNode} {waiting asked : List SyntaxNode} {answer : Option String}
      (nameless : node.Nameless) (next : Search (waiting ++ node.children) asked answer) :
      Search (node :: waiting) (node :: asked) answer

/-- The nodes that stand a number of levels below a node, from left to right. -/
def level : Nat → SyntaxNode → List SyntaxNode
  | 0, node => [node]
  | depth + 1, node => node.children.flatMap (level depth)

/-- Nodes and those below them as far as a height, each level behind those above it. -/
def levelOrder (nodes : List SyntaxNode) (height : Nat) : List SyntaxNode :=
  (List.range height).flatMap fun depth => nodes.flatMap (level depth)

variable {node declarator : SyntaxNode} {nodes waiting asked passed : List SyntaxNode}
variable {name : String} {answer : Option String} {depth height : Nat}

theorem declaratorName?_eq_some_iff : node.declaratorName? = some name ↔ node.Declares name := by
  unfold declaratorName?
  constructor
  · intro given
    split at given
    · next declarator =>
        obtain ⟨source, found, rfl⟩ := Option.map_eq_some_iff.mp given
        cases held : node.field? "name" with
        | some named =>
            rw [held] at found
            obtain rfl := Option.some.inj found
            exact .field declarator held
        | none =>
            rw [held] at found
            exact .identifier declarator held found
    · cases given
  · intro declares
    cases declares with
    | field declarator held => simp [declarator, held]
    | identifier declarator unnamed first => simp [declarator, unnamed, first]

theorem declaratorName?_eq_none_iff : node.declaratorName? = none ↔ node.Nameless := by
  simp only [Nameless, ← declaratorName?_eq_some_iff, Option.eq_none_iff_forall_ne_some, ne_eq]

theorem flatMap_level_zero : nodes.flatMap (level 0) = nodes := by
  simp [level]

theorem flatMap_level_succ :
    nodes.flatMap (level (depth + 1)) = (nodes.flatMap children).flatMap (level depth) := by
  simp only [level, List.flatMap_assoc]

theorem levelOrder_succ :
    levelOrder nodes (height + 1) = nodes ++ levelOrder (nodes.flatMap children) height := by
  simp only [levelOrder, List.range_succ_eq_map, List.flatMap_cons, List.flatMap_map,
    flatMap_level_zero, flatMap_level_succ]

theorem sizeOf_flatMap_children_le (nodes : List SyntaxNode) :
    sizeOf (nodes.flatMap children) ≤ sizeOf nodes := by
  induction nodes with
  | nil => exact Nat.le_refl _
  | cons node nodes induction =>
      have split := sizeOf_append node.children (nodes.flatMap children)
      have smaller := sizeOf_children_lt node
      simp only [List.flatMap_cons, List.cons.sizeOf_spec]
      omega

theorem exists_flatMap_level_eq_nil (nodes : List SyntaxNode) :
    ∃ height, nodes.flatMap (level height) = [] := by
  cases nodes with
  | nil => exact ⟨0, rfl⟩
  | cons node nodes =>
      obtain ⟨height, bottom⟩ := exists_flatMap_level_eq_nil ((node :: nodes).flatMap children)
      exact ⟨height + 1, by rwa [flatMap_level_succ]⟩
termination_by sizeOf nodes
decreasing_by
  have split := sizeOf_append node.children (nodes.flatMap children)
  have smaller := sizeOf_children_lt node
  have rest := sizeOf_flatMap_children_le nodes
  simp only [List.flatMap_cons, List.cons.sizeOf_spec]
  omega

theorem exists_search (waiting : List SyntaxNode) :
    ∃ asked, Search waiting asked (firstDeclaratorName? waiting) := by
  fun_induction firstDeclaratorName? waiting with
  | case1 => exact ⟨[], .ended⟩
  | case2 node waiting name given => exact ⟨[node], .found (declaratorName?_eq_some_iff.mp given)⟩
  | case3 node waiting none induction =>
      obtain ⟨asked, next⟩ := induction
      exact ⟨node :: asked, .passed (declaratorName?_eq_none_iff.mp none) next⟩

/-- Nodes of which the first to give a name stands behind those that are passed over. -/
structure StopsAt (nodes passed : List SyntaxNode) (declarator : SyntaxNode) (name : String) :
    Prop where
  begins : passed ++ [declarator] <+: nodes
  nameless : ∀ node ∈ passed, node.Nameless
  declares : declarator.Declares name

/-- What a search asks and answers that goes through the nodes at the front of its queue. It stops
at the first that gives a name, or else goes on behind them, and their children wait at the back. -/
inductive Sweep (nodes waiting : List SyntaxNode) : List SyntaxNode → Option String → Prop
  | stopped {passed : List SyntaxNode} {declarator : SyntaxNode} {name : String}
      (stops : StopsAt nodes passed declarator name) :
      Sweep nodes waiting (passed ++ [declarator]) (some name)
  | onward {rest : List SyntaxNode} {answer : Option String}
      (nameless : ∀ node ∈ nodes, node.Nameless)
      (next : Search (waiting ++ nodes.flatMap children) rest answer) :
      Sweep nodes waiting (nodes ++ rest) answer

theorem Search.front (search : Search (nodes ++ waiting) asked answer) :
    Sweep nodes waiting asked answer := by
  -- Every queue may wait behind the nodes: the children of each join it before the next is asked.
  induction nodes generalizing waiting asked with
  | nil => exact .onward nofun (by simpa using search)
  | cons node nodes induction =>
      rw [List.cons_append] at search
      cases search with
      | found declares =>
          have stops : StopsAt (node :: nodes) [] node _ := ⟨by simp, nofun, declares⟩
          exact .stopped stops
      | passed nameless next =>
          rw [List.append_assoc] at next
          cases induction next with
          | @stopped passed declarator name stops =>
              have stopsBehind : StopsAt (node :: nodes) (node :: passed) declarator name :=
                ⟨by simpa using stops.begins, List.forall_mem_cons.mpr ⟨nameless, stops.nameless⟩,
                  stops.declares⟩
              exact .stopped stopsBehind
          | onward allNameless further =>
              refine .onward (List.forall_mem_cons.mpr ⟨nameless, allNameless⟩) ?_
              rwa [List.flatMap_cons, ← List.append_assoc]

theorem Search.sweep (search : Search nodes asked answer) : Sweep nodes [] asked answer :=
  Search.front (by rwa [List.append_nil])

theorem Search.asked_prefix (search : Search nodes asked answer)
    (bottom : nodes.flatMap (level height) = []) : asked <+: levelOrder nodes height := by
  induction height generalizing nodes asked with
  | zero =>
      rw [flatMap_level_zero] at bottom
      subst bottom
      cases search with
      | ended => exact List.nil_prefix
  | succ height induction =>
      rw [levelOrder_succ]
      rw [flatMap_level_succ] at bottom
      cases search.sweep with
      | stopped stops => exact stops.begins.trans (List.prefix_append nodes _)
      | onward nameless next =>
          exact (List.prefix_append_right_inj nodes).mpr (induction next bottom)

theorem Search.nameless_of_none (search : Search nodes asked none) :
    ∀ node ∈ nodes.flatMap (level depth), node.Nameless := by
  induction depth generalizing nodes asked with
  | zero =>
      rw [flatMap_level_zero]
      cases search.sweep with
      | onward nameless next => exact nameless
  | succ depth induction =>
      rw [flatMap_level_succ]
      cases search.sweep with
      | onward nameless next => exact induction next

theorem Search.exists_stopsAt (search : Search nodes asked (some name))
    (bottom : nodes.flatMap (level height) = []) :
    ∃ depth passed declarator,
      (∀ above < depth, ∀ node ∈ nodes.flatMap (level above), node.Nameless) ∧
        StopsAt (nodes.flatMap (level depth)) passed declarator name := by
  induction height generalizing nodes asked with
  | zero =>
      rw [flatMap_level_zero] at bottom
      subst bottom
      cases search
  | succ height induction =>
      rw [flatMap_level_succ] at bottom
      cases search.sweep with
      | stopped stops => exact ⟨0, _, _, nofun, by rwa [flatMap_level_zero]⟩
      | onward nameless next =>
          obtain ⟨depth, passed, declarator, allNameless, stops⟩ := induction next bottom
          rw [List.nil_append, ← flatMap_level_succ] at stops
          refine ⟨depth + 1, passed, declarator, fun above lower => ?_, stops⟩
          cases above with
          | zero => rwa [flatMap_level_zero]
          | succ above =>
              rw [flatMap_level_succ]
              exact allNameless above (Nat.lt_of_succ_lt_succ lower)

/-- A name that a declarator gives, which stands at a depth below a node and at a place there from
the left. The children are at depth one. -/
def DeclaresAt (node : SyntaxNode) (depth place : Nat) (name : String) : Prop :=
  0 < depth ∧ ∃ declarator, (node.level depth)[place]? = some declarator ∧ declarator.Declares name

/-- The first of the names below a node, by depth and on one depth by place, or the empty name where
none is given. -/
inductive FirstName (node : SyntaxNode) : String → Prop
  | first {depth place : Nat} {name : String} (given : node.DeclaresAt depth place name)
      (least : ∀ depth' place' name', node.DeclaresAt depth' place' name' →
        toLex (depth, place) ≤ toLex (depth', place')) : FirstName node name
  | absent (nameless : ∀ depth place name, ¬ node.DeclaresAt depth place name) : FirstName node ""

theorem StopsAt.getElem? (stops : StopsAt nodes passed declarator name) :
    nodes[passed.length]? = some declarator := by
  obtain ⟨rest, rfl⟩ := stops.begins
  simp

theorem StopsAt.length_le {place : Nat} (stops : StopsAt nodes passed declarator name)
    (found : nodes[place]? = some node) {other : String} (declares : node.Declares other) :
    passed.length ≤ place := by
  by_contra before
  obtain ⟨rest, rfl⟩ := stops.begins
  rw [List.append_assoc, List.getElem?_append_left (by omega)] at found
  exact stops.nameless node (List.mem_of_getElem? found) other declares

theorem Search.firstName (search : Search node.children asked answer) :
    node.FirstName (answer.getD "") := by
  cases answer with
  | none =>
      refine .absent ?_
      rintro (- | depth) place name ⟨below, declarator, found, declares⟩
      · exact absurd below (Nat.lt_irrefl 0)
      · exact search.nameless_of_none declarator (List.mem_of_getElem? found) name declares
  | some name =>
      obtain ⟨height, bottom⟩ := exists_flatMap_level_eq_nil node.children
      obtain ⟨depth, passed, declarator, nameless, stops⟩ := search.exists_stopsAt bottom
      have given : node.DeclaresAt (depth + 1) passed.length name :=
        ⟨Nat.succ_pos depth, declarator, stops.getElem?, stops.declares⟩
      refine .first given ?_
      rintro (- | depth') place' name' ⟨below, other, found, declares⟩
      · exact absurd below (Nat.lt_irrefl 0)
      · rw [Prod.Lex.toLex_le_toLex]
        rcases Nat.lt_trichotomy depth depth' with higher | rfl | lower
        · exact .inl (Nat.succ_lt_succ higher)
        · exact .inr ⟨rfl, stops.length_le found declares⟩
        · exact absurd declares
            (nameless depth' lower other (List.mem_of_getElem? found) name')

theorem memberName_eq_of_unnamed (unnamed : node.field? "name" = none) :
    node.memberName = (firstDeclaratorName? node.children).getD "" := by
  simp only [memberName, unnamed]

/-- The name of a member without a name field comes from a search that ends and goes level by level:
the nodes it asks begin the list of all below the member, each level behind those above it. -/
theorem memberName_breadth_first (unnamed : node.field? "name" = none) :
    ∃ height asked answer, node.level (height + 1) = [] ∧
      Search node.children asked answer ∧ asked <+: levelOrder node.children height ∧
        node.memberName = answer.getD "" ∧ node.FirstName node.memberName := by
  obtain ⟨height, bottom⟩ := exists_flatMap_level_eq_nil node.children
  obtain ⟨asked, search⟩ := exists_search node.children
  have named := memberName_eq_of_unnamed unnamed
  exact ⟨height, asked, _, bottom, search, search.asked_prefix bottom, named,
    named ▸ search.firstName⟩

/-- A field behind an attribute. A declarator stands first in the source but four levels below, in
the attribute; another one is three levels below, in a declarator that has no name. -/
def nestedDeclarators : SyntaxNode where
  kind := "field_declaration"
  children := [
    { kind := "attribute_list", children := [
      { kind := "attribute", children := [
        { kind := "argument", children := [
          { kind := "variable_declarator", children := [
            { kind := "identifier", text := "deep" }] }] }] }] },
    { kind := "variable_declaration", children := [
      { kind := "variable_declarator", children := [
        { kind := "variable_declarator", fields := [("name", 1)], children := [
          { kind := "identifier", text := "type" },
          { kind := "identifier", text := "inner" }] }] }] }]

theorem memberName_breadth_first_nested_declarators :
    nestedDeclarators.field? "name" = none ∧ nestedDeclarators.memberName = "inner" ∧
    ∃ height asked answer, nestedDeclarators.level (height + 1) = [] ∧
      Search nestedDeclarators.children asked answer ∧
        asked <+: levelOrder nestedDeclarators.children height ∧
          nestedDeclarators.memberName = answer.getD "" ∧
            nestedDeclarators.FirstName nestedDeclarators.memberName := by
  have unnamed : nestedDeclarators.field? "name" = none := rfl
  refine ⟨unnamed, ?_, memberName_breadth_first unnamed⟩
  rw [memberName_eq_of_unnamed unnamed]
  simp [nestedDeclarators, firstDeclaratorName?, declaratorName?, field?]

end BindingRepair.SyntaxNode
