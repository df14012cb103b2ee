import Mathlib.Data.List.Pairwise
import BindingRepair.Proofs.SourceBuffer
import BindingRepair.StructLayout

namespace BindingRepair

theorem StructSpan.unbroken_foldr_replace {spans : List StructSpan} {b : SourceBuffer}
    (unbroken : b.Unbroken)
    (unbrokenSpans : ∀ s ∈ spans, ∀ line ∈ s.lines, Text.Unbroken line.toList) :
    (spans.foldr StructSpan.replace b).Unbroken := by
  induction spans with
  | nil => exact unbroken
  | cons s rest induction =>
      have below := induction fun other member =>
        unbrokenSpans other (List.mem_cons_of_mem s member)
      exact below.replaceSpan _ _ (unbrokenSpans s List.mem_cons_self)

theorem SyntaxTree.exists_find?_iff {tree : SyntaxTree} {kind : DeclarationKind} {name : String} :
    (∃ d, tree.find? kind name = some d) ↔
      ∃ d ∈ tree.declarations, d.kind = kind ∧ d.name = name := by
  rw [← Option.isSome_iff_exists, SyntaxTree.find?, List.find?_isSome]
  simp only [SyntaxTree.mem_ofKind, decide_eq_true_eq, and_assoc]

namespace StructSpan

variable {a b c : StructSpan}

theorem precedes_iff : a.precedes b = true ↔ a.first < b.first ∨
    a.first = b.first ∧ (a.last < b.last ∨ a.last = b.last ∧ a.name ≤ b.name) := by
  simp [precedes]

theorem precedes_trans (before : a.precedes b = true) (after : b.precedes c = true) :
    a.precedes c = true := by
  rw [precedes_iff] at before after ⊢
  have names : a.name ≤ b.name → b.name ≤ c.name → a.name ≤ c.name := String.le_trans
  grind

theorem precedes_total (a b : StructSpan) : (a.precedes b || b.precedes a) = true := by
  rw [Bool.or_eq_true, precedes_iff, precedes_iff]
  have names := String.le_total a.name b.name
  grind

theorem name_eq_of_precedes (before : a.precedes b = true) (after : b.precedes a = true) :
    a.name = b.name := by
  rw [precedes_iff] at before after
  have names : a.name ≤ b.name → b.name ≤ a.name → a.name = b.name := String.le_antisymm
  grind

theorem name_of_find? {tree : SyntaxTree} {layout : String × List String} {s : StructSpan}
    (found : find? tree layout = some s) : s.name = layout.1 := by
  obtain ⟨d, _, rfl⟩ := Option.map_eq_some_iff.mp found
  rfl

end StructSpan

namespace StructLayouts

variable {layouts other : StructLayouts} {tree : SyntaxTree} {b : SourceBuffer}

theorem mem_spans {s : StructSpan} : s ∈ layouts.spans tree ↔
    ∃ layout ∈ layouts.entries, StructSpan.find? tree layout = some s := by
  rw [spans, List.mem_mergeSort, List.mem_filterMap]

theorem lines_of_mem_spans {s : StructSpan} (member : s ∈ layouts.spans tree) :
    ∃ layout ∈ layouts.entries, s.lines = layout.2 := by
  obtain ⟨layout, given, found⟩ := mem_spans.mp member
  obtain ⟨d, _, rfl⟩ := Option.map_eq_some_iff.mp found
  exact ⟨layout, given, rfl⟩

theorem unbroken_apply (tree : SyntaxTree) (unbroken : b.Unbroken)
    (unbrokenLayouts : ∀ layout ∈ layouts.entries, ∀ line ∈ layout.2,
      Text.Unbroken line.toList) : (layouts.apply tree b).buffer.Unbroken := by
  refine StructSpan.unbroken_foldr_replace unbroken fun s member => ?_
  obtain ⟨layout, given, lines⟩ := lines_of_mem_spans member
  rw [lines]
  exact unbrokenLayouts layout given

theorem mem_names_apply {name : String} : name ∈ (layouts.apply tree b).names ↔
    name ∈ layouts.names ∧ ∃ d ∈ tree.declarations, d.kind = .structType ∧ d.name = name := by
  rw [← SyntaxTree.exists_find?_iff]
  constructor
  · intro member
    obtain ⟨s, spanned, rfl⟩ := List.mem_map.mp member
    obtain ⟨layout, given, found⟩ := mem_spans.mp spanned
    obtain ⟨d, declared, rfl⟩ := Option.map_eq_some_iff.mp found
    exact ⟨List.mem_map_of_mem given, d, declared⟩
  · rintro ⟨given, d, declared⟩
    obtain ⟨layout, entry, rfl⟩ := List.mem_map.mp given
    have found : StructSpan.find? tree layout = some
        { first := d.startLine, last := d.endLine, name := layout.1, lines := layout.2 } := by
      rw [StructSpan.find?, declared]
      rfl
    exact List.mem_map.mpr ⟨_, mem_spans.mpr ⟨layout, entry, found⟩, rfl⟩

/-- The spans of the structs that have a layout, in the order of the layouts. -/
def found (layouts : StructLayouts) (tree : SyntaxTree) : List StructSpan :=
  layouts.entries.filterMap (StructSpan.find? tree)

theorem perm_spans (layouts : StructLayouts) (tree : SyntaxTree) :
    (layouts.spans tree).Perm (layouts.found tree) :=
  List.mergeSort_perm _ _

theorem pairwise_spans (layouts : StructLayouts) (tree : SyntaxTree) :
    (layouts.spans tree).Pairwise fun s t => s.precedes t = true := by
  apply List.pairwise_mergeSort
  · intro s t u
    exact StructSpan.precedes_trans
  · exact StructSpan.precedes_total

theorem pairwise_name_found (layouts : StructLayouts) (tree : SyntaxTree) :
    (layouts.found tree).Pairwise fun s t => s.name ≠ t.name := by
  refine (List.pairwise_map.mp layouts.nodup).filterMap _ ?_
  intro layout another differ s found t foundToo
  rwa [StructSpan.name_of_find? found, StructSpan.name_of_find? foundToo]

theorem spans_congr (same : other.entries.Perm layouts.entries) (tree : SyntaxTree) :
    other.spans tree = layouts.spans tree := by
  have perm : (other.spans tree).Perm (layouts.spans tree) :=
    (other.perm_spans tree).trans ((same.filterMap _).trans (layouts.perm_spans tree).symm)
  have distinct : (layouts.spans tree).Pairwise fun s t => s.name ≠ t.name :=
    ((layouts.perm_spans tree).pairwise_iff Ne.symm).mpr (layouts.pairwise_name_found tree)
  have : Std.Symm fun s t : StructSpan => s.name ≠ t.name := ⟨fun _ _ => Ne.symm⟩
  refine List.Perm.eq_of_pairwise ?_ (other.pairwise_spans tree) (layouts.pairwise_spans tree) perm
  intro s t member memberToo before after
  by_contra differ
  exact distinct.forall (perm.mem_iff.mp member) memberToo differ
    (StructSpan.name_eq_of_precedes before after)

end StructLayouts

end BindingRepair
