import Mathlib.Algebra.BigOperators.Group.List.Basic
import Mathlib.Algebra.Ring.Int.Defs
import BindingRepair.Proofs.StructLayout.Splicing

/-!
Laying out structs that lie in other structs. The inner one is laid out first, and then the outer
one is replaced by the line numbers that it had before. So the lines around the structs are kept as
long as the inner layouts leave the outer structs at their height. If an inner layout is shorter
than its struct, the outer struct takes lines with it that follow it.
-/

namespace BindingRepair

namespace StructSpan

/-- Lines that are framed by those around some spans: each line outside the spans is kept in its
turn, and of the lines inside them none is, only lines of layouts come there. -/
def Framed (spans : List StructSpan) (before after : List String) : Prop :=
  ∃ laid : Nat → List String,
    (∀ index, ∀ line ∈ laid index, ∃ s ∈ spans, line ∈ s.lines) ∧
      after = before.zipIdx.flatMap fun (line, index) =>
        if spans.any (·.covers index) then laid index else [line]

def Within (s t : StructSpan) : Prop :=
  t.first ≤ s.first ∧ s.last ≤ t.last

/-- Spans that do not overlap in part. -/
def Nested (s t : StructSpan) : Prop :=
  Apart s t ∨ Within s t ∨ Within t s

/-- By how much longer the layouts are than their structs that start in a span below its first line
and end in it. -/
def innerGrowth (spans : List StructSpan) (s : StructSpan) : Int :=
  ((spans.filter fun t => s.first < t.first && t.last ≤ s.last).map growth).sum

instance (s t : StructSpan) : Decidable (Within s t) :=
  inferInstanceAs (Decidable (_ ∧ _))

instance (s t : StructSpan) : Decidable (Nested s t) :=
  inferInstanceAs (Decidable (_ ∨ _ ∨ _))

variable {s : StructSpan} {spans others rest : List StructSpan} {size index : Nat}
  {before after : List String} {line : String}

theorem Nested.symm {t : StructSpan} (nested : Nested s t) : Nested t s := by
  rcases nested with apart | within | within
  · exact .inl (Or.symm apart)
  · exact .inr (.inr within)
  · exact .inr (.inl within)

theorem framed_splice (spans : List StructSpan) (lines : List String) :
    Framed spans lines (splice spans 0 lines) := by
  refine ⟨fun index => (laidAt? spans index).getD [], fun index line member => ?_,
    List.flatMap_congr fun (line, index) _ => ?_⟩
  · cases met : spans.find? (·.covers index) with
    | none => simp [laidAt?, met] at member
    | some s =>
        simp only [laidAt?, met, Option.map_some, Option.getD_some] at member
        split at member
        · exact ⟨s, List.mem_of_find?_eq_some met, member⟩
        · cases member
  · cases met : spans.find? (·.covers index) with
    | none =>
        have uncovered : spans.any (·.covers index) = false := by simpa using met
        simp [inPlaceOf, laidAt?, met, uncovered]
    | some s =>
        have covered : spans.any (·.covers index) = true :=
          List.any_eq_true.mpr
            ⟨s, List.mem_of_find?_eq_some met, by simpa using List.find?_some met⟩
        simp [inPlaceOf, laidAt?, met, covered]

theorem Framed.perm (framed : Framed spans before after) (same : spans.Perm others) :
    Framed others before after := by
  obtain ⟨laid, ofLayout, rfl⟩ := framed
  refine ⟨laid, fun index line member => ?_, ?_⟩
  · obtain ⟨s, listed, holds⟩ := ofLayout index line member
    exact ⟨s, same.mem_iff.mp listed, holds⟩
  · simp only [same.any_eq]

theorem Framed.mem_of_uncovered (framed : Framed spans before after)
    (present : before[index]? = some line) (uncovered : spans.any (·.covers index) = false) :
    line ∈ after := by
  obtain ⟨laid, _, rfl⟩ := framed
  refine List.mem_flatMap.mpr ⟨(line, index), ?_, ?_⟩
  · rw [List.mem_zipIdx_iff_getElem?]
    exact present
  · simp [uncovered]

theorem innerGrowth_perm (same : spans.Perm others) (s : StructSpan) :
    innerGrowth spans s = innerGrowth others s :=
  ((same.filter _).map _).sum_eq

theorem Layered.of_nested (inside : ∀ s ∈ spans, s.Inside size)
    (order : spans.Pairwise fun s t => s.first < t.first) (nested : spans.Pairwise Nested)
    (steady : ∀ s ∈ spans, innerGrowth spans s = 0) : Layered size spans := by
  induction spans with
  | nil => exact .nil
  | cons s rest induction =>
      obtain ⟨insideFirst, insideRest⟩ := List.forall_mem_cons.mp inside
      obtain ⟨first, orderRest⟩ := List.pairwise_cons.mp order
      obtain ⟨around, nestedRest⟩ := List.pairwise_cons.mp nested
      obtain ⟨steadyFirst, steadyRest⟩ := List.forall_mem_cons.mp steady
      have others : ∀ t ∈ s :: rest, innerGrowth (s :: rest) t = innerGrowth rest t := by
        intro t member
        have notBelow : ¬ t.first < s.first := by
          rcases List.mem_cons.mp member with rfl | later
          · omega
          · have := first t later
            omega
        rw [innerGrowth, List.filter_cons_of_neg (by simp [notBelow]), innerGrowth]
      have inner : growthAbove rest (s.last + 1) = innerGrowth rest s := by
        rw [growthAbove, innerGrowth]
        congr 2
        refine List.filter_congr fun t member => ?_
        have below := first t member
        have within : t.last < s.last + 1 ↔ t.last ≤ s.last := Int.lt_add_one_iff
        simp only [within, below, decide_true, Bool.true_and]
      refine .cons insideFirst first (fun t member => ?_) ?_
        (induction insideRest orderRest nestedRest fun t member => ?_)
      · have := first t member
        have := (insideRest t member).ordered
        rcases around t member with apart | within | within
        · unfold Apart at apart
          omega
        · unfold Within at within
          omega
        · exact .inr within.2
      · rw [inner, ← others s List.mem_cons_self, steadyFirst]
      · rw [← others t (List.mem_cons_of_mem s member), steadyRest t member]

end StructSpan

namespace StructLayouts

open StructSpan

/-- Structs that lie in each other or apart are replaced without harm to what is around them, if no
two of them start on the same line, and if the layouts in each of them have together as many lines
as the structs that they replace. The layout of the outermost struct stands in its place. -/
theorem framed_apply (layouts : StructLayouts) (tree : SyntaxTree) (b : SourceBuffer)
    (inside : ∀ s ∈ layouts.found tree, s.Inside b.size)
    (nested : (layouts.found tree).Pairwise Nested)
    (starts : (layouts.found tree).Pairwise fun s t => s.first ≠ t.first)
    (steady : ∀ s ∈ layouts.found tree, innerGrowth (layouts.found tree) s = 0) :
    (layouts.apply tree b).buffer = { b with lines := splice (layouts.spans tree) 0 b.lines } ∧
      Framed (layouts.found tree) b.lines (layouts.apply tree b).buffer.lines := by
  have perm := layouts.perm_spans tree
  have startsInOrder := (perm.pairwise_iff Ne.symm).mpr starts
  have order : (layouts.spans tree).Pairwise fun s t => s.first < t.first := by
    refine ((layouts.pairwise_spans tree).and startsInOrder).imp ?_
    intro s t ⟨precedes, differ⟩
    rw [precedes_iff] at precedes
    omega
  have layered : Layered b.size (layouts.spans tree) := by
    refine .of_nested ?_ order ((perm.pairwise_iff Nested.symm).mpr nested) ?_
    · exact fun s member => inside s (perm.mem_iff.mp member)
    · intro s member
      rw [innerGrowth_perm perm]
      exact steady s (perm.mem_iff.mp member)
  have spliced : (layouts.apply tree b).buffer =
      { b with lines := splice (layouts.spans tree) 0 b.lines } := layered.foldr_replace
  refine ⟨spliced, ?_⟩
  rw [spliced]
  exact (framed_splice _ _).perm perm

def holding : SourceBuffer where
  lines := ["namespace N \x7b", "struct O \x7b", "struct I \x7b", "\x7d", "int a;", "struct K;",
    "\x7d", "class C;", "\x7d"]

def holdingTree : SyntaxTree where
  declarations := [
    { kind := .namespaceBlock, name := "N", startLine := 0, endLine := 8 },
    { kind := .structType, name := "O", startLine := 1, endLine := 6 },
    { kind := .structType, name := "I", startLine := 2, endLine := 3 },
    { kind := .structType, name := "K", startLine := 5, endLine := 5 },
    { kind := .classType, name := "C", startLine := 7, endLine := 7 }]

def holdingLayouts : StructLayouts where
  entries := [("I", ["struct I;"]), ("O", ["struct O \x7b", "long a;", "\x7d"]),
    ("K", ["struct K \x7b", "\x7d"])]
  nodup := by decide

theorem framed_apply_holding :
    (∀ s ∈ holdingLayouts.found holdingTree, s.Inside holding.size) ∧
      (holdingLayouts.found holdingTree).Pairwise Nested ∧
      ((holdingLayouts.found holdingTree).Pairwise fun s t => s.first ≠ t.first) ∧
      (∀ s ∈ holdingLayouts.found holdingTree,
        innerGrowth (holdingLayouts.found holdingTree) s = 0) ∧
      Framed (holdingLayouts.found holdingTree) holding.lines
        ["namespace N \x7b", "struct O \x7b", "long a;", "\x7d", "class C;", "\x7d"] := by
  have inside : ∀ s ∈ holdingLayouts.found holdingTree, s.Inside holding.size := by decide
  have nested : (holdingLayouts.found holdingTree).Pairwise Nested := by decide
  have starts : (holdingLayouts.found holdingTree).Pairwise fun s t => s.first ≠ t.first := by
    decide
  have steady : ∀ s ∈ holdingLayouts.found holdingTree,
      innerGrowth (holdingLayouts.found holdingTree) s = 0 := by
    decide
  refine ⟨inside, nested, starts, steady, ?_⟩
  have lines : (holdingLayouts.apply holdingTree holding).buffer.lines =
      ["namespace N \x7b", "struct O \x7b", "long a;", "\x7d", "class C;", "\x7d"] := by
    have found : holdingLayouts.found holdingTree =
        [⟨2, 3, "I", ["struct I;"]⟩, ⟨1, 6, "O", ["struct O \x7b", "long a;", "\x7d"]⟩,
          ⟨5, 5, "K", ["struct K \x7b", "\x7d"]⟩] := by
      decide +kernel
    have ordered : holdingLayouts.spans holdingTree =
        [⟨1, 6, "O", ["struct O \x7b", "long a;", "\x7d"]⟩, ⟨2, 3, "I", ["struct I;"]⟩,
          ⟨5, 5, "K", ["struct K \x7b", "\x7d"]⟩] := by
      change (holdingLayouts.found holdingTree).mergeSort StructSpan.precedes = _
      rw [found]
      simp [List.mergeSort, List.MergeSort.Internal.splitInTwo, StructSpan.precedes]
    rw [apply, ordered]
    rfl
  rw [← lines]
  exact (framed_apply holdingLayouts holdingTree holding inside nested starts steady).2

def followed : SourceBuffer where
  lines := ["struct O \x7b", "struct I \x7b", "\x7d", "\x7d", "class C \x7b \x7d"]
  trailingNewline := true

def followedTree : SyntaxTree where
  declarations := [
    { kind := .structType, name := "O", startLine := 0, endLine := 3 },
    { kind := .structType, name := "I", startLine := 1, endLine := 2 },
    { kind := .classType, name := "C", startLine := 4, endLine := 4 }]

def followedLayouts : StructLayouts where
  entries := [("I", ["struct I \x7b \x7d"]), ("O", ["struct O \x7b \x7d"])]
  nodup := by decide

def structSpans (tree : SyntaxTree) : List StructSpan :=
  (tree.ofKind .structType).map fun d =>
    { first := d.startLine, last := d.endLine, name := d.name, lines := [] }

/-- A shorter layout of the inner struct draws the line behind the outer one into it. -/
theorem not_forall_framed :
    ¬ ∀ (layouts : StructLayouts) (tree : SyntaxTree) (b : SourceBuffer),
      (∀ s ∈ structSpans tree, s.Inside b.size) → (structSpans tree).Pairwise Nested →
      Framed (layouts.found tree) b.lines (layouts.apply tree b).buffer.lines := by
  intro claim
  have framed := claim followedLayouts followedTree followed (by decide) (by decide)
  have lines : (followedLayouts.apply followedTree followed).buffer.lines =
      ["struct O \x7b \x7d"] := by
    have found : followedLayouts.found followedTree =
        [⟨1, 2, "I", ["struct I \x7b \x7d"]⟩, ⟨0, 3, "O", ["struct O \x7b \x7d"]⟩] := by
      decide +kernel
    have ordered : followedLayouts.spans followedTree =
        [⟨0, 3, "O", ["struct O \x7b \x7d"]⟩, ⟨1, 2, "I", ["struct I \x7b \x7d"]⟩] := by
      change (followedLayouts.found followedTree).mergeSort StructSpan.precedes = _
      rw [found]
      simp [List.mergeSort, List.MergeSort.Internal.splitInTwo, StructSpan.precedes]
    rw [apply, ordered]
    rfl
  have present : followed.lines[4]? = some "class C \x7b \x7d" := rfl
  have kept : "class C \x7b \x7d" ∈ (followedLayouts.apply followedTree followed).buffer.lines :=
    framed.mem_of_uncovered present (by decide)
  rw [lines] at kept
  exact absurd kept (by decide)

end StructLayouts

end BindingRepair
