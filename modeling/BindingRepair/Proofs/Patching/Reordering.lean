import BindingRepair.Proofs.Patching.Pointwise

/-!
The order of errors. A compiler is free to report the errors of different lines in any order: what
becomes of an error depends on those that were reported before it on its own line only, and what a
pass makes of a source depends on what becomes of its errors, not on when.
-/

namespace BindingRepair

namespace Turn

theorem filter_all {fixed others : List Int} {line : Int} (same : line ∈ fixed ↔ line ∈ others)
    (ds : List Diagnostic) :
    (all fixed ds).filter (·.diagnostic.line = line) = all others (ds.filter (·.line = line)) := by
  induction ds generalizing fixed others with
  | nil => rfl
  | cons d rest induction =>
      by_cases place : d.line = line
      · have later : line ∈ fix fixed d ↔ line ∈ fix others d := by rw [mem_fix, mem_fix, same]
        have before : fixed.contains d.line = others.contains d.line := by
          rw [List.contains_eq_mem, List.contains_eq_mem, place, decide_eq_decide]
          exact same
        rw [all, List.filter_cons_of_pos (by simpa using place),
          List.filter_cons_of_pos (by simpa using place), all, induction later, before]
      · have later : line ∈ fix fixed d ↔ line ∈ others := by
          rw [mem_fix, ← same]
          simp [place]
        rw [all, List.filter_cons_of_neg (by simpa using place),
          List.filter_cons_of_neg (by simpa using place), induction later]

theorem perm_all {errors others : List Diagnostic}
    (order : ∀ line, errors.filter (·.line = line) = others.filter (·.line = line)) :
    (all [] errors).Perm (all [] others) := by
  apply List.perm_iff_count.mpr
  intro t
  calc (all [] errors).count t
      = ((all [] errors).filter (·.diagnostic.line = t.diagnostic.line)).count t := by
        rw [List.count_filter (by simp)]
    _ = ((all [] others).filter (·.diagnostic.line = t.diagnostic.line)).count t := by
        rw [filter_all Iff.rfl, filter_all Iff.rfl, order]
    _ = (all [] others).count t := by rw [List.count_filter (by simp)]

end Turn

/-- What becomes of a diagnostic in a pass without insertions. -/
inductive Fate
  | refused
  | passedOver
  | edited (line : String)
  deriving DecidableEq, Repr

namespace Fate

def of {ε : Type} : Except ε PatchOutcome → Fate
  | .error _ => refused
  | .ok outcome =>
    match outcome.actions with
    | [.replace new] => edited new
    | _ => passedOver

variable {d : Diagnostic} {line : String} {ctx other : PassContext}

theorem of_dispatch (known : d.kind ≠ .unknown) (unfixed : d.line ∉ ctx.fixedLines) :
    of (RuleRegistry.standard.dispatch d line ctx) =
      of ((RuleRegistry.standard.rule d.kind known).apply d line ctx) := by
  rw [RuleRegistry.dispatch_of_unfixed known unfixed]
  cases (RuleRegistry.standard.rule d.kind known).apply d line ctx with
  | ok outcome => rfl
  | error contradiction => rfl

theorem of_operatorCompanion :
    of (PatchRule.operatorCompanion.apply d line ctx) =
      if PatchRule.relatedTerms d ctx.errors = [] then refused else passedOver := by
  cases related : PatchRule.relatedTerms d ctx.errors with
  | nil => simp [PatchRule.operatorCompanion, related, of]
  | cons term others => simp [PatchRule.operatorCompanion, related, of]

theorem relatedTerms_eq_nil (same : ∀ e, e ∈ ctx.errors ↔ e ∈ other.errors) :
    PatchRule.relatedTerms d ctx.errors = [] ↔ PatchRule.relatedTerms d other.errors = [] := by
  simp only [PatchRule.relatedTerms, List.filter_eq_nil_iff, same]

theorem of_apply {rule : PatchRule} (member : rule ∈ RuleRegistry.standardRules)
    (noMarker : rule.kind ≠ .missingType) (same : ∀ e, e ∈ ctx.errors ↔ e ∈ other.errors) :
    of (rule.apply d line ctx) = of (rule.apply d line other) := by
  simp only [RuleRegistry.standardRules, List.mem_cons, List.not_mem_nil, or_false] at member
  rcases member with rfl | rfl | rfl | rfl | rfl | rfl | rfl | rfl
  case inl => exact absurd rfl noMarker
  case inr.inr.inr.inl =>
    simp only [of_operatorCompanion, relatedTerms_eq_nil same]
  all_goals rfl

theorem of_dispatch_congr (noMarker : d.kind ≠ .missingType)
    (same : ∀ e, e ∈ ctx.errors ↔ e ∈ other.errors)
    (fixed : d.line ∈ ctx.fixedLines ↔ d.line ∈ other.fixedLines) :
    of (RuleRegistry.standard.dispatch d line ctx) =
      of (RuleRegistry.standard.dispatch d line other) := by
  by_cases known : d.kind = .unknown
  · rw [RuleRegistry.dispatch_of_unknown known, RuleRegistry.dispatch_of_unknown known]
    rfl
  · by_cases before : d.line ∈ ctx.fixedLines
    · rw [RuleRegistry.dispatch_of_fixed known before,
        RuleRegistry.dispatch_of_fixed known (fixed.mp before)]
    · rw [of_dispatch known before, of_dispatch known fun after => before (fixed.mpr after)]
      refine of_apply (RuleRegistry.rule_mem d.kind known) ?_ same
      rwa [RuleRegistry.kind_rule]

theorem of_verdict_congr {t : Turn} (noMarker : t.diagnostic.kind ≠ .missingType)
    (same : ∀ e, e ∈ ctx.errors ↔ e ∈ other.errors) (b : SourceBuffer) :
    of (t.verdict ctx b) = of (t.verdict other b) := by
  unfold Turn.verdict
  split
  · exact of_dispatch_congr noMarker same Iff.rfl
  · rfl

end Fate

def PassContext.fates (ctx : PassContext) (b : SourceBuffer) : List (Diagnostic × Fate) :=
  (Turn.all [] ctx.errors).map fun t => (t.diagnostic, .of (t.verdict ctx b))

theorem PassContext.perm_fates (ctx other : PassContext)
    (noMarker : ∀ d ∈ ctx.errors, d.kind ≠ .missingType) (same : ctx.errors.Perm other.errors)
    (order : ∀ line, ctx.errors.filter (·.line = line) = other.errors.filter (·.line = line))
    (b : SourceBuffer) : (ctx.fates b).Perm (other.fates b) := by
  have congr : ctx.fates b =
      (Turn.all [] ctx.errors).map fun t => (t.diagnostic, Fate.of (t.verdict other b)) := by
    apply List.map_congr_left
    intro t member
    have listed := noMarker _ (Turn.diagnostic_mem_of_mem_all member)
    rw [Fate.of_verdict_congr listed (fun _ => same.mem_iff)]
  rw [congr]
  exact (Turn.perm_all order).map _

def Answer.fate (a : Answer) : Fate :=
  .of (.ok a.outcome : Except Refusal PatchOutcome)

namespace Patching

variable {setup : Setup} {s after : State} {compiled : CompileResult}
  {fates others : List (Diagnostic × Fate)}

/-- What a pass makes of a state when it refuses no error, told by the fates of the errors. -/
structure Dealt (fates : List (Diagnostic × Fate)) (s after : State) : Prop where
  unrefused : ∀ f ∈ fates, f.2 ≠ .refused
  newline : after.buffer.trailingNewline = s.buffer.trailingNewline
  kept : ∀ index : Nat, (∀ f ∈ fates, f.1.line = index → f.2 = .passedOver) →
    after.buffer.lines[index]? = s.buffer.lines[index]?
  edited : ∀ (d : Diagnostic) (new : String) (index : Nat), (d, .edited new) ∈ fates →
    d.line = index → after.buffer.lines[index]? = some new
  skipped : after.report.skipped = s.report.skipped + fates.countP (·.2 = .passedOver)
  patches : ∀ code, after.report.patchCount code =
    s.report.patchCount code + fates.countP fun f => f.2 ≠ .passedOver && f.1.code = code

theorem Dealt.perm (dealt : Dealt fates s after) (same : fates.Perm others) :
    Dealt others s after where
  unrefused f member := dealt.unrefused f (same.mem_iff.mpr member)
  newline := dealt.newline
  kept index skips := dealt.kept index fun f member => skips f (same.mem_iff.mp member)
  edited d new index member := dealt.edited d new index (same.mem_iff.mpr member)
  skipped := by rw [dealt.skipped, same.countP_eq]
  patches code := by rw [dealt.patches, same.countP_eq]

theorem Dealt.lines_unique {last : State} (dealt : Dealt fates s after)
    (other : Dealt fates s last) (index : Nat) :
    after.buffer.lines[index]? = last.buffer.lines[index]? := by
  by_cases touched : ∃ f ∈ fates, f.1.line = index ∧ f.2 ≠ .passedOver
  · obtain ⟨⟨d, fate⟩, member, place, edits⟩ := touched
    cases fate with
    | refused => exact absurd rfl (dealt.unrefused _ member)
    | passedOver => exact absurd rfl edits
    | edited new =>
        rw [dealt.edited d new index member place, other.edited d new index member place]
  · have skips : ∀ f ∈ fates, f.1.line = index → f.2 = .passedOver := by
      intro f member place
      exact Decidable.of_not_not fun edits => touched ⟨f, member, place, edits⟩
    rw [dealt.kept index skips, other.kept index skips]

/-- The fates of the errors leave no choice of what a pass makes of a state. -/
theorem Dealt.unique {last : State} (dealt : Dealt fates s after) (other : Dealt fates s last) :
    after.buffer = last.buffer ∧
      (∀ code, after.report.patchCount code = last.report.patchCount code) ∧
      after.report.skipped = last.report.skipped := by
  refine ⟨SourceBuffer.ext ?_ ?_, fun code => ?_, ?_⟩
  · exact List.ext_getElem? (dealt.lines_unique other)
  · rw [dealt.newline, other.newline]
  · rw [dealt.patches, other.patches]
  · rw [dealt.skipped, other.skipped]

theorem Steady.fate {d : Diagnostic} {line : String} {ctx : PassContext} {outcome : PatchOutcome}
    (steady : Steady d line ctx outcome) :
    (Answer.mk d outcome).skips = true ∧ (Answer.mk d outcome).fate = .passedOver ∨
      ∃ new, outcome = { actions := [.replace new] } := by
  cases steady with
  | skip => exact .inl ⟨rfl, rfl⟩
  | edit => exact .inr ⟨_, rfl⟩

section

variable (mended : Mended setup s compiled (.ok ()) after) (standard : setup.registry = .standard)
  (noMarker : ∀ d ∈ compiled.errors, d.kind ≠ .missingType)

include mended standard noMarker

theorem Mended.map_fate : (passAnswers setup s).map (fun a => (a.diagnostic, a.fate)) =
    (setup.contextOf compiled).fates s.buffer := by
  have verdicts := congrArg (List.map fun pair => (pair.1, Fate.of pair.2))
    (mended.verdicts standard noMarker)
  rw [List.map_map, List.map_map] at verdicts
  exact verdicts

theorem Mended.fate_of_mem {a : Answer} (member : a ∈ passAnswers setup s) :
    a.skips = true ∧ a.fate = .passedOver ∨
      ∃ new, a = ⟨a.diagnostic, { actions := [.replace new] }⟩ := by
  obtain ⟨_, _, _, steady⟩ := mended.steady standard noMarker member
  rcases steady.fate with skips | ⟨new, edits⟩
  · exact .inl skips
  · exact .inr ⟨new, congrArg (Answer.mk a.diagnostic) edits⟩

theorem Mended.skips_eq {a : Answer} (member : a ∈ passAnswers setup s) :
    a.skips = decide (a.fate = .passedOver) := by
  rcases mended.fate_of_mem standard noMarker member with ⟨skips, fate⟩ | ⟨new, edits⟩
  · rw [skips, fate]
    rfl
  · rw [edits]
    rfl

theorem Mended.dealt : Dealt ((setup.contextOf compiled).fates s.buffer) s after := by
  have redrawn := mended.redrawn standard noMarker
  rw [← mended.map_fate standard noMarker]
  constructor
  · intro f member
    obtain ⟨a, answered, rfl⟩ := List.mem_map.mp member
    rcases mended.fate_of_mem standard noMarker answered with ⟨_, fate⟩ | ⟨new, edits⟩
    · simp [fate]
    · rw [edits]
      intro refused
      cases refused
  · exact (standard ▸ mended.mends).standard.keeps.1
  · intro index skips
    apply redrawn.kept
    intro a answered place
    rw [mended.skips_eq standard noMarker answered]
    exact decide_eq_true (skips _ (List.mem_map_of_mem answered) place)
  · intro d new index member place
    obtain ⟨a, answered, same⟩ := List.mem_map.mp member
    obtain ⟨rfl, fate⟩ := Prod.mk.inj same
    rcases mended.fate_of_mem standard noMarker answered with ⟨_, skips⟩ | ⟨other, edits⟩
    · rw [skips] at fate
      cases fate
    · rw [edits] at fate
      obtain rfl : other = new := Fate.edited.inj fate
      exact redrawn.edited _ _ index (edits ▸ answered) place
  · rw [mended.tallies.skipped, List.countP_map]
    congr 1
    apply List.countP_congr
    intro a answered
    rw [mended.skips_eq standard noMarker answered]
    rfl
  · intro code
    rw [mended.tallies.patches, List.countP_map]
    congr 1
    apply List.countP_congr
    intro a answered
    simp [Answer.patches, mended.skips_eq standard noMarker answered]

end

/-- Whether a pass ends because an error is refused. -/
def PassEnd.refuses : PassEnd → Bool
  | .ended (.error (.refused _)) _ => true
  | _ => false

theorem dealt_onePass (standard : setup.registry = .standard)
    (answered : setup.compiler.answer s.earlier s.buffer.text = .ok compiled)
    (noMarker : ∀ d ∈ compiled.errors, d.kind ≠ .missingType)
    (unrefused : (onePass setup s).refuses = false) :
    Dealt ((setup.contextOf compiled).fates s.buffer) s (onePass setup s).state := by
  have passes := passes_onePass setup s
  generalize onePass setup s = ending at passes unrefused ⊢
  cases passes with
  | failed answer => cases answered.symm.trans answer
  | clean answer faultless =>
      obtain rfl := Except.ok.inj (answered.symm.trans answer)
      have none : (setup.contextOf compiled).fates s.buffer = [] := by
        simp [PassContext.fates, Setup.contextOf, faultless, Turn.all]
      rw [none]
      constructor
      · intro f member
        cases member
      · rfl
      · intro index skips
        rfl
      · intro d new index member
        cases member
      · rfl
      · intro code
        rfl
  | refused mended => cases unrefused
  | stuck mended =>
      obtain rfl := Except.ok.inj (answered.symm.trans mended.answer)
      exact mended.dealt standard noMarker
  | again mended =>
      obtain rfl := Except.ok.inj (answered.symm.trans mended.answer)
      exact mended.dealt standard noMarker

theorem refuses_onePass_iff (standard : setup.registry = .standard)
    (answered : setup.compiler.answer s.earlier s.buffer.text = .ok compiled)
    (noMarker : ∀ d ∈ compiled.errors, d.kind ≠ .missingType) :
    (onePass setup s).refuses = true ↔
      ∃ f ∈ (setup.contextOf compiled).fates s.buffer, f.2 = .refused := by
  constructor
  · intro refuses
    have passes := passes_onePass setup s
    generalize onePass setup s = ending at passes refuses
    cases passes with
    | refused mended =>
        obtain rfl := Except.ok.inj (answered.symm.trans mended.answer)
        obtain ⟨t, turn, error⟩ :=
          ((standard ▸ mended.mends).verdicts noMarker ⟨rfl, fun _ _ => rfl⟩).2 _ rfl
        refine ⟨_, List.mem_map_of_mem turn, ?_⟩
        exact congrArg Fate.of error
    | _ => cases refuses
  · intro ⟨f, member, refused⟩
    cases refuses : (onePass setup s).refuses with
    | true => rfl
    | false =>
        exact absurd refused ((dealt_onePass standard answered noMarker refuses).unrefused f member)

/-- It does not matter in which order the errors of different lines are reported. Two compilers that
report the same errors of a source, none of which is a missing marker, and the errors of each line in
the same order, make a pass refuse an error or not, and where it refuses none, lead to the same
buffer and the same counts. -/
theorem onePass_reordered (setup other : Setup) (standard : setup.registry = .standard)
    (otherStandard : other.registry = .standard) (s : State) (compiled reordered : CompileResult)
    (answered : setup.compiler.answer s.earlier s.buffer.text = .ok compiled)
    (otherAnswered : other.compiler.answer s.earlier s.buffer.text = .ok reordered)
    (noMarker : ∀ d ∈ compiled.errors, d.code ≠ "CS0246")
    (same : compiled.errors.Perm reordered.errors)
    (order : ∀ line,
      compiled.errors.filter (·.line = line) = reordered.errors.filter (·.line = line)) :
    (onePass setup s).refuses = (onePass other s).refuses ∧
      ((onePass setup s).refuses = false →
        (onePass setup s).state.buffer = (onePass other s).state.buffer ∧
        (∀ code, (onePass setup s).state.report.patchCount code =
          (onePass other s).state.report.patchCount code) ∧
        (onePass setup s).state.report.skipped = (onePass other s).state.report.skipped) := by
  have known : ∀ d ∈ compiled.errors, d.kind ≠ .missingType :=
    fun d member kind => noMarker d member (Diagnostic.kind_eq_missingType_iff.mp kind)
  have otherKnown : ∀ d ∈ reordered.errors, d.kind ≠ .missingType :=
    fun d member => known d (same.mem_iff.mpr member)
  have fates : ((setup.contextOf compiled).fates s.buffer).Perm
      ((other.contextOf reordered).fates s.buffer) :=
    PassContext.perm_fates _ (other.contextOf reordered) known same order s.buffer
  have refuses : (onePass setup s).refuses = (onePass other s).refuses := by
    rw [Bool.eq_iff_iff, refuses_onePass_iff standard answered known,
      refuses_onePass_iff otherStandard otherAnswered otherKnown]
    simp only [fates.mem_iff]
  refine ⟨refuses, fun unrefused => ?_⟩
  have dealt := dealt_onePass standard answered known unrefused
  have otherDealt := dealt_onePass otherStandard otherAnswered otherKnown (refuses ▸ unrefused)
  exact (dealt.perm fates).unique otherDealt

def groupedErrors : List Diagnostic :=
  [{ code := "CS1008", line := 1 }, { code := "CS1513", line := 1 }, { code := "CS1002" },
    { code := "CS1525" }, { code := "CS0103" }]

theorem filter_groupedErrors (line : Int) :
    interleavedErrors.filter (·.line = line) = groupedErrors.filter (·.line = line) := by
  by_cases upper : 0 = line
  · rw [← upper]
    rfl
  · by_cases lower : 1 = line
    · rw [← lower]
      rfl
    · simp [interleavedErrors, groupedErrors, upper, lower]

theorem onePass_reordered_grouped :
    let grouped : Setup :=
      { interleavedSetup with compiler := .ofReports (fun _ => {}) [groupedErrors] }
    (onePass grouped interleaved).refuses = false ∧
      (onePass grouped interleaved).state.buffer.lines = ["a=(b)", "enum E : uint;", "\x7d"] ∧
      (onePass grouped interleaved).state.report.patchCount "CS1525" = 1 ∧
      (onePass grouped interleaved).state.report.skipped = 3 := by
  intro grouped
  obtain ⟨refuses, same⟩ := onePass_reordered interleavedSetup grouped rfl rfl interleaved
    { tree := {}, diagnostics := interleavedErrors, success := false }
    { tree := {}, diagnostics := groupedErrors, success := false } rfl rfl (by decide)
    (by decide) filter_groupedErrors
  obtain ⟨buffer, patches, skipped⟩ := same rfl
  exact ⟨refuses.symm, (congrArg SourceBuffer.lines buffer).symm, (patches "CS1525").symm,
    skipped.symm⟩

end Patching

end BindingRepair
