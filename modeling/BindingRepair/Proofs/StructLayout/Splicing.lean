import Mathlib.Algebra.BigOperators.Group.List.Basic
import Mathlib.Algebra.Ring.Int.Defs
import Mathlib.Data.List.Pairwise
import BindingRepair.Proofs.StructLayout

/-!
Laying out structs one after the other, from the last to the first, gives what a single walk over
the lines would give that puts each layout in the place of its struct. A layout moves only lines
below its first one. Of a struct that is still to be replaced these can be none but the last lines,
if the other struct lies in it, and they are where they were if the layouts in it have not changed
its height.
-/

namespace BindingRepair

theorem SourceBuffer.replaceSpan_of_lines {b : SourceBuffer} {above covered below : List String}
    {first last : Int} (lines : b.lines = above ++ covered ++ below) (start : first = above.length)
    (stop : last + 1 = (above ++ covered).length) (block : List String) :
    b.replaceSpan first last block = { b with lines := above ++ block ++ below } := by
  have size : b.size = (above ++ covered).length + below.length := by
    rw [SourceBuffer.size, lines, List.length_append]
  have ordered : above.length ≤ (above ++ covered).length := by simp
  have cutStart : cutIndex b.size first = above.length := by
    rw [start, cutIndex_ofNat (by omega)]
  have cutStop : cutIndex b.size (last + 1) = (above ++ covered).length := by
    rw [stop, cutIndex_ofNat (by omega)]
  rw [replaceSpan, cutStart, cutStop, Nat.max_eq_right ordered, lines, List.drop_left,
    List.append_assoc above covered, List.take_left]

namespace StructSpan

/-! The splice of a source with layouts. -/

def covers (s : StructSpan) (index : Nat) : Bool :=
  s.first ≤ index && index ≤ s.last

/-- What comes in the place of a covered line: on the first line of a span its layout, and on its
other lines nothing. Where spans overlap the first one counts. -/
def laidAt? (spans : List StructSpan) (index : Nat) : Option (List String) :=
  (spans.find? (·.covers index)).map fun s => if s.first = (index : Int) then s.lines else []

/-- What comes in the place of a line. Outside the spans it is the line itself. -/
def inPlaceOf (spans : List StructSpan) (line : String) (index : Nat) : List String :=
  (laidAt? spans index).getD [line]

/-- Lines with layouts in the place of spans, where the first of them has the number `start`. -/
def splice (spans : List StructSpan) (start : Nat) (lines : List String) : List String :=
  (lines.zipIdx start).flatMap fun (line, index) => inPlaceOf spans line index

variable {s : StructSpan} {spans others rest : List StructSpan} {size start index : Nat}
  {lines above covered below : List String} {line : String}

theorem covers_eq_true : s.covers index = true ↔ s.first ≤ index ∧ index ≤ s.last := by
  simp [covers]

theorem covers_eq_false : s.covers index = false ↔ ((index : Int) < s.first ∨ s.last < index) := by
  rw [← Bool.not_eq_true, covers_eq_true]
  omega

theorem inPlaceOf_of_uncovered (uncovered : ∀ s ∈ spans, s.covers index = false)
    (line : String) : inPlaceOf spans line index = [line] := by
  have none : spans.find? (·.covers index) = none :=
    List.find?_eq_none.mpr fun s member => Bool.eq_false_iff.mp (uncovered s member)
  rw [inPlaceOf, laidAt?, none]
  rfl

theorem inPlaceOf_cons_of_covers (met : s.covers index = true) (rest : List StructSpan)
    (line : String) :
    inPlaceOf (s :: rest) line index = if s.first = index then s.lines else [] := by
  simp [inPlaceOf, laidAt?, met]

theorem inPlaceOf_cons_of_not_covers (missed : s.covers index = false)
    (rest : List StructSpan) (line : String) :
    inPlaceOf (s :: rest) line index = inPlaceOf rest line index := by
  simp [inPlaceOf, laidAt?, missed]

theorem splice_cons (spans : List StructSpan) (start : Nat) (line : String)
    (below : List String) : splice spans start (line :: below) =
      inPlaceOf spans line start ++ splice spans (start + 1) below := by
  simp [splice]

theorem splice_append (spans : List StructSpan) (start : Nat) (above below : List String) :
    splice spans start (above ++ below) =
      splice spans start above ++ splice spans (start + above.length) below := by
  simp [splice, List.zipIdx_append]

theorem splice_above (above : ∀ s ∈ spans, ((start + lines.length : Nat) : Int) ≤ s.first) :
    splice spans start lines = lines := by
  induction lines generalizing start with
  | nil => rfl
  | cons line below induction =>
      simp only [List.length_cons] at above
      have here : inPlaceOf spans line start = [line] := by
        refine inPlaceOf_of_uncovered (fun s member => covers_eq_false.mpr ?_) line
        have := above s member
        omega
      have later : splice spans (start + 1) below = below := by
        refine induction fun s member => ?_
        have := above s member
        omega
      rw [splice_cons, here, later, List.singleton_append]

theorem splice_within (started : s.first < start)
    (unended : ((start + lines.length : Nat) : Int) ≤ s.last + 1) (rest : List StructSpan) :
    splice (s :: rest) start lines = [] := by
  induction lines generalizing start with
  | nil => rfl
  | cons line below induction =>
      rw [List.length_cons] at unended
      have met : s.covers start = true := covers_eq_true.mpr (by omega)
      have notFirst : ¬ s.first = start := by omega
      rw [splice_cons, inPlaceOf_cons_of_covers met, if_neg notFirst, List.nil_append]
      exact induction (by omega) (by omega)

theorem splice_below (ended : s.last < start) (rest : List StructSpan) :
    splice (s :: rest) start lines = splice rest start lines := by
  induction lines generalizing start with
  | nil => rfl
  | cons line below induction =>
      have missed : s.covers start = false := covers_eq_false.mpr (.inr ended)
      rw [splice_cons, splice_cons, inPlaceOf_cons_of_not_covers missed, induction (by omega)]

theorem splice_span (ordered : s.first ≤ s.last) (later : ∀ t ∈ rest, s.first < t.first)
    (first : s.first = (above.length : Int))
    (last : s.last + 1 = ((above ++ covered).length : Int)) :
    splice (s :: rest) 0 (above ++ covered ++ below) =
      above ++ s.lines ++ splice rest (above ++ covered).length below := by
  rw [List.length_append] at last
  have kept : splice (s :: rest) 0 above = above := by
    refine splice_above (List.forall_mem_cons.mpr ⟨by omega, fun t member => ?_⟩)
    have := later t member
    omega
  have replaced : splice (s :: rest) above.length covered = s.lines := by
    cases covered with
    | nil =>
        rw [List.length_nil] at last
        omega
    | cons line middle =>
        rw [List.length_cons] at last
        have met : s.covers above.length = true := covers_eq_true.mpr (by omega)
        rw [splice_cons, inPlaceOf_cons_of_covers met, if_pos first,
          splice_within (by omega) (by omega), List.append_nil]
  have ended : s.last < ((above ++ covered).length : Nat) := by
    rw [List.length_append]
    omega
  rw [splice_append, splice_append, kept, Nat.zero_add, Nat.zero_add, replaced,
    splice_below ended]

/-! Spans in spans. -/

/-- A span of lines that there are. -/
structure Inside (s : StructSpan) (size : Nat) : Prop where
  nonneg : 0 ≤ s.first
  ordered : s.first ≤ s.last
  bounded : s.last < size

instance : Decidable (s.Inside size) :=
  decidable_of_iff (0 ≤ s.first ∧ s.first ≤ s.last ∧ s.last < size)
    ⟨fun ⟨nonneg, ordered, bounded⟩ => ⟨nonneg, ordered, bounded⟩,
      fun inside => ⟨inside.nonneg, inside.ordered, inside.bounded⟩⟩

theorem Inside.exists_lines (inside : s.Inside lines.length) :
    ∃ above covered below, lines = above ++ covered ++ below ∧
      s.first = (above.length : Int) ∧ s.last + 1 = ((above ++ covered).length : Int) := by
  obtain ⟨nonneg, ordered, bounded⟩ := inside
  refine ⟨(lines.take (s.last + 1).toNat).take s.first.toNat,
    (lines.take (s.last + 1).toNat).drop s.first.toNat, lines.drop (s.last + 1).toNat, ?_, ?_, ?_⟩
  · rw [List.take_append_drop, List.take_append_drop]
  · rw [List.length_take, List.length_take]
    omega
  · rw [List.take_append_drop, List.length_take]
    omega

def growth (s : StructSpan) : Int :=
  s.lines.length - (s.last + 1 - s.first)

/-- By how much longer the layouts of the structs are that end above a line. -/
def growthAbove (spans : List StructSpan) (line : Int) : Int :=
  ((spans.filter (·.last < line)).map growth).sum

/-- Spans from the first to the last, where those that lie in a span come after it. Together they
do not change its height. -/
inductive Layered (size : Nat) : List StructSpan → Prop
  | nil : Layered size []
  | cons {s : StructSpan} {rest : List StructSpan}
      (inside : s.Inside size)
      (first : ∀ t ∈ rest, s.first < t.first)
      (nested : ∀ t ∈ rest, s.last < t.first ∨ t.last ≤ s.last)
      (steady : growthAbove rest (s.last + 1) = 0)
      (later : Layered size rest) : Layered size (s :: rest)

theorem Layered.inside (layered : Layered size spans) : ∀ s ∈ spans, s.Inside size := by
  induction layered with
  | nil =>
      intro s member
      cases member
  | cons inside _ _ _ _ induction => exact List.forall_mem_cons.mpr ⟨inside, induction⟩

theorem growthAbove_of_first (inside : ∀ s ∈ spans, s.Inside size) {line : Int}
    (later : ∀ s ∈ spans, line ≤ s.first) : growthAbove spans line = 0 := by
  have none : spans.filter (·.last < line) = [] := by
    refine List.filter_eq_nil_iff.mpr fun s member ended => ?_
    have := (inside s member).ordered
    have := later s member
    have := of_decide_eq_true ended
    omega
  rw [growthAbove, none]
  rfl

theorem Layered.length_splice (layered : Layered size spans) (above : List String)
    (clear : ∀ t ∈ spans, (above.length : Int) ≤ t.first ∨ t.last < above.length) :
    ((splice spans 0 above).length : Int) = above.length + growthAbove spans above.length := by
  induction layered generalizing above with
  | nil => simp [splice_above, growthAbove]
  | @cons s rest inside first nested steady later induction =>
      obtain ⟨place, clearRest⟩ := List.forall_mem_cons.mp clear
      rcases place with whole | ended
      · have beyond : ∀ t ∈ s :: rest, (above.length : Int) ≤ t.first := by
          refine List.forall_mem_cons.mpr ⟨whole, fun t member => ?_⟩
          have := first t member
          omega
        have layered := Layered.cons inside first nested steady later
        rw [splice_above (by simpa using beyond), growthAbove_of_first layered.inside beyond,
          Int.add_zero]
      · obtain ⟨lines, covered, below, rfl, start, stop⟩ :=
          Inside.exists_lines ⟨inside.nonneg, inside.ordered, ended⟩
        -- What lies in the span has not changed where it ends.
        have upTo := induction (lines ++ covered) fun t member => by
          have := nested t member
          omega
        rw [← stop, steady, stop] at upTo
        have all := induction _ clearRest
        have grown : growthAbove (s :: rest) (lines ++ covered ++ below).length =
            s.growth + growthAbove rest (lines ++ covered ++ below).length := by
          rw [growthAbove, List.filter_cons_of_pos (by simpa using ended), List.map_cons,
            List.sum_cons, growthAbove]
        rw [splice_span inside.ordered first start stop, grown, growth]
        rw [splice_append, Nat.zero_add] at all
        simp only [List.length_append] at upTo all stop ⊢
        omega

theorem Layered.foldr_replace {b : SourceBuffer} (layered : Layered b.size spans) :
    spans.foldr replace b = { b with lines := splice spans 0 b.lines } := by
  generalize same : b.size = size at layered
  induction layered with
  | nil => simp [splice_above]
  | @cons s rest inside first nested steady later induction =>
      rw [← same] at inside
      obtain ⟨above, covered, below, lines, start, stop⟩ := inside.exists_lines
      have kept : splice rest 0 above = above := by
        refine splice_above fun t member => ?_
        have := first t member
        omega
      have split : splice rest 0 b.lines = above ++ splice rest above.length covered ++
          splice rest (above ++ covered).length below := by
        rw [lines, splice_append, splice_append, kept, Nat.zero_add, Nat.zero_add]
      have upTo := later.length_splice (above ++ covered) fun t member => by
        have := nested t member
        omega
      rw [← stop, steady, stop, splice_append, Nat.zero_add, kept, Int.add_zero] at upTo
      calc (s :: rest).foldr replace b
          = ({ b with lines := splice rest 0 b.lines } : SourceBuffer).replaceSpan
              s.first s.last s.lines := by rw [List.foldr_cons, induction, replace]
        _ = { b with lines := above ++ s.lines ++ splice rest (above ++ covered).length below } :=
            SourceBuffer.replaceSpan_of_lines split start (stop.trans upTo.symm) s.lines
        _ = { b with lines := splice (s :: rest) 0 b.lines } := by
            rw [lines, splice_span inside.ordered first start stop]

/-- Spans that have no line in common. -/
def Apart (s t : StructSpan) : Prop :=
  s.last < t.first ∨ t.last < s.first

instance (s t : StructSpan) : Decidable (Apart s t) :=
  inferInstanceAs (Decidable (_ ∨ _))

instance : Std.Symm Apart where
  symm _ _ := Or.symm

theorem Layered.of_pairwise (inside : ∀ s ∈ spans, s.Inside size)
    (order : spans.Pairwise fun s t => s.last < t.first) : Layered size spans := by
  induction spans with
  | nil => exact .nil
  | cons s rest induction =>
      obtain ⟨insideFirst, insideRest⟩ := List.forall_mem_cons.mp inside
      obtain ⟨below, orderRest⟩ := List.pairwise_cons.mp order
      have ordered := insideFirst.ordered
      refine .cons insideFirst (fun t member => ?_) (fun t member => .inl (below t member))
        (growthAbove_of_first insideRest below) (induction insideRest orderRest)
      exact Int.lt_of_le_of_lt ordered (below t member)

theorem inPlaceOf_perm (same : spans.Perm others) (apart : spans.Pairwise Apart) (line : String)
    (index : Nat) : inPlaceOf spans line index = inPlaceOf others line index := by
  cases met : spans.find? (·.covers index) with
  | none =>
      have uncovered : ∀ s ∈ spans, s.covers index = false := by simpa using met
      rw [inPlaceOf_of_uncovered uncovered,
        inPlaceOf_of_uncovered fun s member => uncovered s (same.mem_iff.mpr member)]
  | some s =>
      have member := List.mem_of_find?_eq_some met
      have covered : s.covers index = true := by simpa using List.find?_some met
      obtain ⟨t, metToo⟩ : ∃ t, others.find? (·.covers index) = some t := by
        rw [← Option.isSome_iff_exists, List.find?_isSome]
        exact ⟨s, same.mem_iff.mp member, covered⟩
      have memberToo := same.mem_iff.mpr (List.mem_of_find?_eq_some metToo)
      have coveredToo : t.covers index = true := by simpa using List.find?_some metToo
      have equal : s = t := by
        by_contra differ
        rw [covers_eq_true] at covered coveredToo
        rcases apart.forall member memberToo differ with above | below
        · omega
        · omega
      rw [inPlaceOf, inPlaceOf, laidAt?, laidAt?, met, metToo, equal]

theorem splice_perm (same : spans.Perm others) (apart : spans.Pairwise Apart) (start : Nat)
    (lines : List String) : splice spans start lines = splice others start lines := by
  simp only [splice, inPlaceOf_perm same apart]

end StructSpan

namespace StructLayouts

open StructSpan

variable {layouts : StructLayouts} {tree : SyntaxTree} {b : SourceBuffer}

theorem pairwise_last_lt_first (inside : ∀ s ∈ layouts.found tree, s.Inside b.size)
    (apart : (layouts.found tree).Pairwise Apart) :
    (layouts.spans tree).Pairwise fun s t => s.last < t.first := by
  have perm := layouts.perm_spans tree
  have apartInOrder := (perm.pairwise_iff Or.symm).mpr apart
  refine ((layouts.pairwise_spans tree).and apartInOrder).imp_of_mem ?_
  intro s t _ memberToo ⟨precedes, separate⟩
  rw [precedes_iff] at precedes
  have := (inside t (perm.mem_iff.mp memberToo)).ordered
  omega

/-- Structs of which no two share a line are replaced as if all at once: each layout stands in the
place of its struct, and all other lines stay. The names are those of the layouts for which there is
a struct, in the order of the structs. It does not matter in which order the layouts are given. -/
theorem apply_eq_splice (layouts : StructLayouts) (tree : SyntaxTree) (b : SourceBuffer)
    (inside : ∀ s ∈ layouts.found tree, s.Inside b.size)
    (apart : (layouts.found tree).Pairwise Apart) :
    (layouts.apply tree b).buffer = { b with lines := splice (layouts.found tree) 0 b.lines } ∧
      (∀ name, name ∈ (layouts.apply tree b).names ↔
        name ∈ layouts.names ∧ ∃ d ∈ tree.declarations, d.kind = .structType ∧ d.name = name) ∧
      (∃ spans : List StructSpan, spans.Perm (layouts.found tree) ∧
        spans.Pairwise (fun s t => s.last < t.first) ∧
        (layouts.apply tree b).names = spans.map (·.name)) ∧
      ∀ other : StructLayouts, other.entries.Perm layouts.entries →
        (other.apply tree b).buffer = (layouts.apply tree b).buffer ∧
          (other.apply tree b).names = (layouts.apply tree b).names := by
  have perm := layouts.perm_spans tree
  have order := pairwise_last_lt_first inside apart
  refine ⟨?_, fun name => mem_names_apply, ⟨_, perm, order, rfl⟩, fun other same => ?_⟩
  · have layered : Layered b.size (layouts.spans tree) :=
      .of_pairwise (fun s member => inside s (perm.mem_iff.mp member)) order
    calc (layouts.apply tree b).buffer
        = { b with lines := splice (layouts.spans tree) 0 b.lines } := layered.foldr_replace
      _ = { b with lines := splice (layouts.found tree) 0 b.lines } := by
          rw [splice_perm perm ((perm.pairwise_iff Or.symm).mpr apart)]
  · have spans := spans_congr same tree
    exact ⟨by simp only [apply, spans], by simp only [apply, spans]⟩

def adjacent : SourceBuffer where
  lines := ["enum E;", "struct A \x7b", "\x7d", "struct B;", "class C;"]

def adjacentTree : SyntaxTree where
  declarations := [
    { kind := .enumType, name := "E", startLine := 0, endLine := 0 },
    { kind := .structType, name := "A", startLine := 1, endLine := 2 },
    { kind := .structType, name := "B", startLine := 3, endLine := 3 },
    { kind := .classType, name := "C", startLine := 4, endLine := 4 }]

def adjacentLayouts : StructLayouts where
  entries := [("B", ["struct B \x7b", "\x7d"]), ("E", ["struct E;"]), ("A", [])]
  nodup := by decide

theorem apply_eq_splice_adjacent :
    (∀ s ∈ adjacentLayouts.found adjacentTree, s.Inside adjacent.size) ∧
      (adjacentLayouts.found adjacentTree).Pairwise Apart ∧
      (adjacentLayouts.apply adjacentTree adjacent).buffer.lines =
        ["enum E;", "struct B \x7b", "\x7d", "class C;"] ∧
      "E" ∉ (adjacentLayouts.apply adjacentTree adjacent).names := by
  have inside : ∀ s ∈ adjacentLayouts.found adjacentTree, s.Inside adjacent.size := by decide
  have apart : (adjacentLayouts.found adjacentTree).Pairwise Apart := by decide
  obtain ⟨buffer, names, _⟩ := apply_eq_splice adjacentLayouts adjacentTree adjacent inside apart
  refine ⟨inside, apart, ?_, ?_⟩
  · rw [buffer]
    rfl
  · rw [names]
    decide

end StructLayouts

end BindingRepair
