import BindingRepair.Proofs.Patching.Mending
import BindingRepair.Proofs.Text.Replacement

/-!
Where the markers are defined. The required usings are put in first, so that the definitions, which
have their place in the source as it was, have to allow for usings above them. Usings that stand
below the line on which the first namespace opens take the required ones below the definitions.
-/

namespace BindingRepair

/-- The positions of a declaration are lines of a source of so many lines. -/
structure Declaration.Inside (d : Declaration) (size : Nat) : Prop where
  starts : 0 ≤ d.startLine ∧ d.startLine < size
  ends : 0 ≤ d.endLine ∧ d.endLine < size
  opens : ∀ line ∈ d.bodyStartLine, 0 ≤ line ∧ line < size

instance (d : Declaration) (size : Nat) : Decidable (d.Inside size) :=
  decidable_of_iff
    ((0 ≤ d.startLine ∧ d.startLine < size) ∧ (0 ≤ d.endLine ∧ d.endLine < size) ∧
      ∀ line ∈ d.bodyStartLine, 0 ≤ line ∧ line < size)
    ⟨fun ⟨starts, ends, opens⟩ => ⟨starts, ends, opens⟩,
      fun ⟨starts, ends, opens⟩ => ⟨starts, ends, opens⟩⟩

namespace MarkerAttribute

/-! The places in the source. -/

/-- The first line below all usings, or the first one of the source if there are none. -/
def IsBelowUsings (usings : List Declaration) (position : Int) : Prop :=
  (usings = [] ∧ position = 0) ∨
    ∃ last ∈ usings, (∀ other ∈ usings, other.endLine ≤ last.endLine) ∧ position = last.endLine + 1

theorem isBelowUsings_usingPosition (usings : List Declaration) :
    IsBelowUsings usings (usingPosition usings) := by
  unfold usingPosition
  split
  · next last found =>
      obtain ⟨member, greatest⟩ := List.max?_eq_some_iff.mp found
      obtain ⟨final, present, rfl⟩ := List.mem_map.mp member
      exact .inr ⟨final, present, fun other member => greatest _ (List.mem_map_of_mem member), rfl⟩
  · next none => exact .inl ⟨List.map_eq_nil_iff.mp (List.max?_eq_none_iff.mp none), rfl⟩

theorem IsBelowUsings.unique {usings : List Declaration} {position other : Int}
    (below : IsBelowUsings usings position) (same : IsBelowUsings usings other) :
    position = other := by
  rcases below with ⟨rfl, rfl⟩ | ⟨last, member, greatest, rfl⟩
  · rcases same with ⟨_, rfl⟩ | ⟨_, absent, _⟩
    · rfl
    · cases absent
  · rcases same with ⟨rfl, _⟩ | ⟨final, present, least, rfl⟩
    · cases member
    · have above := greatest final present
      have behind := least last member
      omega

theorem usingPosition_inside {usings : List Declaration} {size : Nat}
    (inside : ∀ u ∈ usings, u.Inside size) :
    0 ≤ usingPosition usings ∧ usingPosition usings ≤ size := by
  rcases isBelowUsings_usingPosition usings with ⟨_, top⟩ | ⟨last, member, _, behind⟩
  · omega
  · have ends := (inside last member).ends
    omega

theorem bodyPosition_inside {space : Declaration} {size : Nat} (inside : space.Inside size) :
    0 < bodyPosition space ∧ bodyPosition space ≤ size := by
  unfold bodyPosition
  cases opened : space.bodyStartLine with
  | none =>
      have starts := inside.starts
      rw [Option.getD_none]
      omega
  | some line =>
      have opens := inside.opens line opened
      rw [Option.getD_some]
      omega

theorem usingPosition_le_iff {usings : List Declaration} {space : Declaration}
    (positive : 0 < bodyPosition space) :
    usingPosition usings ≤ bodyPosition space ↔
      ∀ u ∈ usings, u.endLine ≤ space.bodyStartLine.getD space.startLine := by
  have body : bodyPosition space = space.bodyStartLine.getD space.startLine + 1 := rfl
  rcases isBelowUsings_usingPosition usings with ⟨rfl, top⟩ | ⟨last, member, greatest, behind⟩
  · simp [top, Int.le_of_lt positive]
  · constructor
    · intro above u present
      have below := greatest u present
      omega
    · intro above
      have below := above last member
      omega

/-! Lines with others between them. -/

/-- Lines with others put between them: `above i` stands above line `i`, where the first line is
line `start`, and the last of these blocks stands below all lines. -/
def woven (above : Nat → List String) : Nat → List String → List String
  | start, [] => above start
  | start, line :: below => above start ++ line :: woven above (start + 1) below

variable {above other : Nat → List String} {start place : Nat} {lines : List String}

theorem woven_congr
    (same : ∀ i, start ≤ i → i ≤ start + lines.length → above i = other i) :
    woven above start lines = woven other start lines := by
  induction lines generalizing start with
  | nil => exact same start (Nat.le_refl _) (Nat.le_refl _)
  | cons line below induction =>
      rw [List.length_cons] at same
      have later : woven above (start + 1) below = woven other (start + 1) below :=
        induction fun i behind within => same i (by omega) (by omega)
      rw [woven, woven, same start (by omega) (by omega), later]

theorem woven_nothing : woven (fun _ => []) start lines = lines := by
  induction lines generalizing start with
  | nil => rfl
  | cons line below induction => rw [woven, induction, List.nil_append]

theorem exists_woven_split (above : Nat → List String) (start : Nat)
    (inside : place ≤ lines.length) (block : List String) :
    ∃ lower, woven above start lines = woven above start (lines.take place) ++ lower ∧
      woven (fun i => above i ++ if i = start + place then block else []) start lines =
        woven above start (lines.take place) ++ block ++ lower := by
  induction lines generalizing start place with
  | nil =>
      obtain rfl : place = 0 := Nat.le_zero.mp inside
      exact ⟨[], by simp [woven], by simp [woven]⟩
  | cons line below induction =>
      cases place with
      | zero =>
          refine ⟨line :: woven above (start + 1) below, rfl, ?_⟩
          have later : woven (fun i => above i ++ if i = start + 0 then block else []) (start + 1)
              below = woven above (start + 1) below := by
            refine woven_congr fun i behind _ => ?_
            rw [if_neg (by omega), List.append_nil]
          rw [woven, later]
          simp [woven]
      | succ place =>
          obtain ⟨lower, whole, inserted⟩ := induction (start + 1) (Nat.le_of_succ_le_succ inside)
          refine ⟨lower, ?_, ?_⟩
          · simp [woven, whole]
          · have next : start + 1 + place = start + (place + 1) := by omega
            rw [next] at inserted
            simp [woven, inserted]

theorem woven_single (inside : place ≤ lines.length) (block : List String) :
    woven (fun i => if i = place then block else []) 0 lines =
      lines.take place ++ block ++ lines.drop place := by
  obtain ⟨lower, whole, inserted⟩ := exists_woven_split (fun _ => []) 0 inside block
  rw [woven_nothing, woven_nothing] at whole
  have behind : lines.drop place = lower := by
    rw [← List.append_right_inj (lines.take place), List.take_append_drop, ← whole]
  simpa [woven_nothing, behind] using inserted

theorem length_woven_single (place : Nat) (lines block : List String) :
    (woven (fun i => if i = place then block else []) 0 lines).length =
      lines.length + if place ≤ lines.length then block.length else 0 := by
  split
  · next inside =>
      have whole := congrArg List.length (List.take_append_drop place lines)
      rw [List.length_append] at whole
      rw [woven_single inside, List.length_append, List.length_append]
      omega
  · next outside =>
      have nothing : woven (fun i => if i = place then block else []) 0 lines = lines := by
        rw [woven_congr fun i _ within => if_neg (by omega), woven_nothing]
      rw [nothing, Nat.add_zero]

/-! The definitions of the markers. -/

/-- The lines that stand above each line when the markers are defined. -/
def definedAbove (usings : List Declaration) (definitions : List (List String))
    (usingAt bodyAt : Int) (i : Nat) : List String :=
  (if i = usingAt then missingUsings usings else []) ++
    if i = bodyAt then definitionBlock definitions else []

variable {usings : List Declaration} {space : Declaration} {b : SourceBuffer}

theorem withUsings_eq_insert (usings : List Declaration) (b : SourceBuffer) :
    (if missingUsings usings = [] then b
      else b.insert (usingPosition usings) (missingUsings usings)) =
        b.insert (usingPosition usings) (missingUsings usings) := by
  split
  · next none => rw [none, SourceBuffer.insert_nil]
  · rfl

theorem bodyPosition_add_shift {usingAt bodyAt : Nat}
    (usingPlace : usingPosition usings = usingAt) (bodyPlace : bodyPosition space = bodyAt)
    (within : bodyAt ≤ lines.length) (missing : List String) :
    bodyPosition space +
        (if usingPosition usings ≤ bodyPosition space then (missing.length : Int) else 0) =
      (woven (fun i => if i = usingAt then missing else []) 0 (lines.take bodyAt)).length := by
  rw [length_woven_single, List.length_take_of_le within, usingPlace, bodyPlace]
  split
  · next above => rw [if_pos (Int.ofNat_le.mp above), Int.natCast_add]
  · next below =>
      have beyond : ¬ usingAt ≤ bodyAt := fun above => below (Int.ofNat_le.mpr above)
      rw [if_neg beyond, Int.add_zero, Nat.add_zero]

theorem define_eq_woven {usingAt bodyAt : Nat} (usingPlace : usingPosition usings = usingAt)
    (bodyPlace : bodyPosition space = bodyAt) (usingWithin : usingAt ≤ b.size)
    (bodyWithin : bodyAt ≤ b.size) (definitions : List (List String)) :
    define usings space definitions b =
      { b with lines := woven (definedAbove usings definitions usingAt bodyAt) 0 b.lines } := by
  let missing := missingUsings usings
  let withUsings (i : Nat) : List String := if i = usingAt then missing else []
  obtain ⟨lower, whole, inserted⟩ :=
    exists_woven_split withUsings 0 bodyWithin (definitionBlock definitions)
  have sameAbove : definedAbove usings definitions usingAt bodyAt =
      fun i => withUsings i ++ if i = 0 + bodyAt then definitionBlock definitions else [] := by
    funext i
    simp only [definedAbove, withUsings, missing, Int.natCast_inj, Nat.zero_add]
  calc
    define usings space definitions b =
        (b.insert usingAt missing).insert (woven withUsings 0 (b.lines.take bodyAt)).length
          (definitionBlock definitions) := by
      rw [define, withUsings_eq_insert, bodyPosition_add_shift usingPlace bodyPlace bodyWithin,
        usingPlace]
    _ = { b with lines := woven withUsings 0 (b.lines.take bodyAt) ++
            definitionBlock definitions ++ lower } := by
      rw [SourceBuffer.insert_natCast usingWithin, ← woven_single usingWithin]
      exact SourceBuffer.insert_of_lines whole rfl _
    _ = _ := by rw [← inserted, sameAbove]

theorem insertions_eq_pair {definitions : List (List String)} {usingAt bodyAt : Int}
    {lines block : List String}
    (both : insertions usings space definitions = [.insert usingAt lines, .insert bodyAt block]) :
    lines ≠ [] ∧ usingAt = usingPosition usings ∧
      bodyAt = bodyPosition space +
        if usingPosition usings ≤ bodyPosition space then (lines.length : Int) else 0 := by
  unfold insertions at both
  by_cases none : missingUsings usings = []
  · simp [none] at both
  · simp only [if_neg none, List.cons_append, List.nil_append, List.cons.injEq,
      PatchAction.insert.injEq, and_true] at both
    obtain ⟨⟨rfl, rfl⟩, rfl, _⟩ := both
    exact ⟨none, rfl, rfl⟩

end MarkerAttribute

namespace Patching

open MarkerAttribute SourceBuffer

variable {pass : Nat} {d : Diagnostic} {line : String} {ctx : PassContext} {s : State}
  {space : Declaration} {others : List Declaration}

theorem buffer_applyOutcome (outcome : PatchOutcome) :
    (applyOutcome pass d outcome s).buffer =
      (outcome.actions.foldl (State.perform pass d) s).buffer := by
  unfold applyOutcome
  split
  · rfl
  · rfl

/-- The markers are defined for every error that misses one, in a source with a namespace that does
not define them: the missing usings come below the last using and the definitions below the line on
which the first namespace opens, both by the places of the source as it was, and the usings first
where the two are one. Then the source is compiled again. -/
theorem markerAttribute_eq_woven {usingAt bodyAt : Int}
    (named : "NativeTypeName".toList <:+: d.message.toList)
    (undefined : ∀ c ∈ ctx.tree.ofKind .classType, c.name ≠ "NativeTypeNameAttribute")
    (spaces : ctx.tree.ofKind .namespaceBlock = space :: others)
    (below : IsBelowUsings (ctx.tree.ofKind .usingDirective) usingAt)
    (opens : bodyAt = space.bodyStartLine.getD space.startLine + 1)
    (usingInside : 0 ≤ usingAt ∧ usingAt ≤ s.buffer.size)
    (bodyInside : 0 ≤ bodyAt ∧ bodyAt ≤ s.buffer.size) :
    ∃ outcome, PatchRule.markerAttribute.apply d line ctx = .ok outcome ∧
      outcome.restart = true ∧
      (applyOutcome pass d outcome s).buffer = { s.buffer with
        lines := woven
          (definedAbove (ctx.tree.ofKind .usingDirective) ctx.attributeDefinitions usingAt bodyAt)
          0 s.buffer.lines } := by
  have missing : isMissing d.message = true := Text.contains_iff.mpr named
  have noClass : ctx.tree.find? .classType className = none := by
    exact List.find?_eq_none.mpr fun c member same =>
      undefined c member (of_decide_eq_true same)
  have applied : PatchRule.markerAttribute.apply d line ctx = .ok {
      actions := insertions (ctx.tree.ofKind .usingDirective) space ctx.attributeDefinitions
      restart := true } := by
    simp [PatchRule.markerAttribute, missing, noClass, spaces]
  refine ⟨_, applied, rfl, ?_⟩
  have usingPlace := (isBelowUsings_usingPosition _).unique below
  obtain ⟨first, rfl⟩ := Int.eq_ofNat_of_zero_le usingInside.1
  obtain ⟨second, rfl⟩ := Int.eq_ofNat_of_zero_le bodyInside.1
  rw [applyOutcome_insertions, State.buffer_define]
  exact define_eq_woven usingPlace opens.symm (Int.ofNat_le.mp usingInside.2)
    (Int.ofNat_le.mp bodyInside.2) _

def marked : State where
  buffer := {
    lines := [
      "using System;",
      "",
      "namespace Interop",
      "\x7b",
      "    [NativeTypeName(\"uint8_t\")]",
      "    public enum Endianess : byte \x7b \x7d",
      "\x7d"] }
  report := { file := "Interop.cs" }

def markedContext : PassContext where
  file := "Interop.cs"
  tree := {
    declarations := [
      { kind := .usingDirective, name := "using System;", startLine := 0, endLine := 0 },
      { kind := .namespaceBlock, name := "Interop", startLine := 2, endLine := 6,
        bodyStartLine := some 3 },
      { kind := .enumType, name := "Endianess", startLine := 4, endLine := 5,
        bodyStartLine := some 5 }] }
  errors := []
  attributeDefinitions := [["    internal class NativeTypeNameAttribute : Attribute \x7b \x7d"]]

def markerUndefined : Diagnostic where
  code := "CS0246"
  message := "The type or namespace name 'NativeTypeNameAttribute' could not be found"
  line := 4

theorem markerAttribute_eq_woven_marked :
    ∃ outcome, PatchRule.markerAttribute.apply markerUndefined "" markedContext = .ok outcome ∧
      outcome.restart = true ∧
      (applyOutcome 1 markerUndefined outcome marked).buffer.lines = [
        "using System;",
        "using System.Diagnostics;",
        "",
        "namespace Interop",
        "\x7b",
        "    internal class NativeTypeNameAttribute : Attribute \x7b \x7d",
        "",
        "    [NativeTypeName(\"uint8_t\")]",
        "    public enum Endianess : byte \x7b \x7d",
        "\x7d"] := by
  have named : "NativeTypeName".toList <:+: markerUndefined.message.toList :=
    Text.contains_iff.mp (by decide)
  have below : IsBelowUsings (markedContext.tree.ofKind .usingDirective) 1 :=
    .inr ⟨_, List.mem_cons_self, by decide, rfl⟩
  obtain ⟨outcome, applied, restarts, defined⟩ :=
    @markerAttribute_eq_woven 1 markerUndefined "" markedContext marked _ _ 1 4 named (by decide)
      rfl below rfl (by decide) (by decide)
  exact ⟨outcome, applied, restarts, by rw [defined]; decide⟩

theorem actions_of_markerAttribute {outcome : PatchOutcome}
    (spaces : ctx.tree.ofKind .namespaceBlock = space :: others)
    (applied : PatchRule.markerAttribute.apply d line ctx = .ok outcome) :
    outcome.actions =
      insertions (ctx.tree.ofKind .usingDirective) space ctx.attributeDefinitions := by
  simp only [PatchRule.markerAttribute, spaces] at applied
  split at applied
  · cases applied
  · split at applied
    · cases applied
    · obtain rfl := Except.ok.inj applied
      rfl

/-- Both insertions have their lines where the rows of the usings, which the definitions may have
moved, and the rows of the definitions say, and the usings stand above the definitions exactly if no
using of the source ends below the line on which the first namespace opens. -/
theorem usings_above_definitions_iff {outcome : PatchOutcome} {usingAt bodyAt : Int}
    {usings definitions : List String}
    (inside : ∀ declaration ∈ ctx.tree.declarations, declaration.Inside s.buffer.size)
    (spaces : ctx.tree.ofKind .namespaceBlock = space :: others)
    (applied : PatchRule.markerAttribute.apply d line ctx = .ok outcome)
    (both : outcome.actions = [.insert usingAt usings, .insert bodyAt definitions]) :
    (∀ i < usings.length, (applyOutcome pass d outcome s).buffer.get?
        (rowAfterInsert bodyAt definitions.length (usingAt + i)) = usings[i]?) ∧
      (∀ i < definitions.length,
        (applyOutcome pass d outcome s).buffer.get? (bodyAt + i) = definitions[i]?) ∧
      ((∀ i < usings.length, rowAfterInsert bodyAt definitions.length (usingAt + i) < bodyAt) ↔
        ∀ u ∈ ctx.tree.ofKind .usingDirective,
          u.endLine ≤ space.bodyStartLine.getD space.startLine) := by
  obtain ⟨nonempty, usingPlace, bodyPlace⟩ :=
    insertions_eq_pair ((actions_of_markerAttribute spaces applied).symm.trans both)
  have usingInside : 0 ≤ usingAt ∧ usingAt ≤ s.buffer.size := by
    rw [usingPlace]
    exact usingPosition_inside fun u member => inside u (SyntaxTree.mem_ofKind.mp member).1
  have first : space ∈ ctx.tree.ofKind .namespaceBlock := spaces ▸ List.mem_cons_self
  have bodyInside := bodyPosition_inside (inside space (SyntaxTree.mem_ofKind.mp first).1)
  have movedInside : 0 ≤ bodyAt ∧ bodyAt ≤ (s.buffer.insert usingAt usings).size := by
    rw [size_insert, bodyPlace]
    split
    · omega
    · omega
  have inserted : (applyOutcome pass d outcome s).buffer =
      (s.buffer.insert usingAt usings).insert bodyAt definitions := by
    rw [buffer_applyOutcome, both]
    rfl
  rw [inserted, ← usingPosition_le_iff bodyInside.1]
  refine ⟨fun i within => ?_, fun i within => get?_insert_inserted movedInside _ within, ?_⟩
  · rw [get?_insert_rowAfterInsert movedInside _ (by omega)]
    exact get?_insert_inserted usingInside _ within
  · simp only [rowAfterInsert_lt_iff]
    constructor
    · intro higher
      have top := higher 0 (List.length_pos_iff.mpr nonempty)
      refine Int.not_lt.mp fun below => ?_
      rw [if_neg (Int.not_le.mpr below)] at bodyPlace
      omega
    · intro above i within
      rw [if_pos above] at bodyPlace
      omega

theorem usings_above_definitions_marked :
    ∃ outcome, PatchRule.markerAttribute.apply markerUndefined "" markedContext = .ok outcome ∧
      outcome.actions = [
        .insert 1 ["using System.Diagnostics;"],
        .insert 5 ["    internal class NativeTypeNameAttribute : Attribute \x7b \x7d", ""]] ∧
      (applyOutcome 1 markerUndefined outcome marked).buffer.get? (rowAfterInsert 5 2 1) =
        some "using System.Diagnostics;" ∧
      rowAfterInsert 5 2 1 < 5 := by
  have inside : ∀ declaration ∈ markedContext.tree.declarations,
      declaration.Inside marked.buffer.size := by decide
  refine ⟨_, rfl, rfl, ?_⟩
  obtain ⟨stand, _, above⟩ :=
    @usings_above_definitions_iff 1 markerUndefined "" markedContext marked _ _ _ 1 5 _ _ inside
      rfl rfl rfl
  exact ⟨stand 0 (by decide), above.mpr (by decide) 0 (by decide)⟩

def apart : State where
  buffer := {
    lines := [
      "namespace Interop",
      "\x7b",
      "    [NativeTypeName(\"uint8_t\")]",
      "    public enum Endianess : byte \x7b \x7d",
      "\x7d",
      "namespace Other",
      "\x7b",
      "    using System.Text;",
      "\x7d"] }
  report := { file := "Interop.cs" }

def apartContext : PassContext where
  file := "Interop.cs"
  tree := {
    declarations := [
      { kind := .namespaceBlock, name := "Interop", startLine := 0, endLine := 4,
        bodyStartLine := some 1 },
      { kind := .enumType, name := "Endianess", startLine := 2, endLine := 3,
        bodyStartLine := some 3 },
      { kind := .namespaceBlock, name := "Other", startLine := 5, endLine := 8,
        bodyStartLine := some 6 },
      { kind := .usingDirective, name := "using System.Text;", startLine := 7, endLine := 7 }] }
  errors := []
  attributeDefinitions := [["    internal class NativeTypeNameAttribute : Attribute \x7b \x7d"]]

theorem not_forall_usings_above :
    ¬ ∀ (s : State) (d : Diagnostic) (line : String) (ctx : PassContext) (outcome : PatchOutcome)
      (usingAt bodyAt : Int) (usings definitions : List String),
      (∀ declaration ∈ ctx.tree.declarations, declaration.Inside s.buffer.size) →
      PatchRule.markerAttribute.apply d line ctx = .ok outcome →
      outcome.actions = [.insert usingAt usings, .insert bodyAt definitions] →
      ∀ i < usings.length, rowAfterInsert bodyAt definitions.length (usingAt + i) < bodyAt := by
  intro claim
  have above := claim apart markerUndefined "" apartContext _ 8 2 _ _ (by decide) rfl rfl 0
    (by decide)
  exact absurd above (by decide)

end Patching

end BindingRepair
