import BindingRepair.RuleRegistry
import BindingRepair.Proofs.LineEdit

namespace BindingRepair

theorem DiagnosticKind.mem_codes_of_ofCode {code : String} {kind : DiagnosticKind}
    (known : kind ≠ .unknown) (coded : ofCode code = kind) : (code, kind) ∈ codes := by
  unfold ofCode at coded
  cases found : codes.lookup code with
  | none =>
      rw [found] at coded
      exact absurd coded.symm known
  | some other =>
      rw [found] at coded
      obtain ⟨before, after, whole, _⟩ := List.lookup_eq_some_iff.mp found
      rw [whole, ← coded]
      exact List.mem_append_right before List.mem_cons_self

theorem Diagnostic.kind_eq_missingType_iff {d : Diagnostic} :
    d.kind = .missingType ↔ d.code = "CS0246" := by
  constructor
  · intro kind
    have coded := DiagnosticKind.mem_codes_of_ofCode (by decide) kind
    simpa [DiagnosticKind.codes] using coded
  · intro code
    rw [kind, code]
    rfl

/-- The edits of a line that the standard rules make for a diagnostic. -/
inductive StandardEdit (d : Diagnostic) (line : List Char) : List Char → Prop
  | nativeInteger {edited : List Char} (kind : d.kind = .integralTypeExpected)
      (answer : LineEdit.nativeInteger? line = some edited) : StandardEdit d line edited
  | operatorCall {edited : List Char} (kind : d.kind = .invalidExpressionTerm)
      (answer : LineEdit.operatorCall? line = some edited) : StandardEdit d line edited
  | vtableCast {edited : List Char} (kind : d.kind = .voidPointerOperation)
      (cast : LineEdit.hasVtableCast line = true)
      (answer : LineEdit.vtableCast? line = some edited) : StandardEdit d line edited
  | boolReturn {edited : List Char} (kind : d.kind = .implicitConversion)
      (answer : LineEdit.boolReturn? line = some edited) : StandardEdit d line edited
  | uintArgument {edited : List Char} (kind : d.kind = .argumentConversion)
      (target :
        String.ofList ((LineEdit.conversionTarget? [] d.message.toList).getD []) = "uint")
      (answer : LineEdit.uintArgument? line = some edited) : StandardEdit d line edited
  | byteArgument {edited : List Char} (kind : d.kind = .argumentConversion)
      (target :
        String.ofList ((LineEdit.conversionTarget? [] d.message.toList).getD []) = "byte")
      (answer : LineEdit.byteArgument? line = some edited) : StandardEdit d line edited
  | realloc {edited : List Char} (kind : d.kind = .undefinedName)
      (named : Text.contains d.message.toList "'realloc'".toList = true)
      (answer : LineEdit.realloc? line = some edited) : StandardEdit d line edited

/-- What the standard rules answer about a diagnostic that they do not refuse. -/
inductive StandardAnswer (d : Diagnostic) (line : String) (ctx : PassContext) :
    PatchOutcome → Prop
  | alreadyPatched (known : d.kind ≠ .unknown) (fixed : d.line ∈ ctx.fixedLines) :
      StandardAnswer d line ctx { actions := [.skip .alreadyPatched] }
  | tolerated (kind : d.kind = .unexpectedToken) (unfixed : d.line ∉ ctx.fixedLines)
      {term : Diagnostic} {others : List Diagnostic}
      (related : PatchRule.relatedTerms d ctx.errors = term :: others) :
      StandardAnswer d line ctx { actions := [.skip (.followsFrom term.code term.line)] }
  | edited (unfixed : d.line ∉ ctx.fixedLines) {new : List Char}
      (edit : StandardEdit d line.toList new) :
      StandardAnswer d line ctx { actions := [.replace (String.ofList new)] }
  | defined (kind : d.kind = .missingType) (unfixed : d.line ∉ ctx.fixedLines)
      (missing : MarkerAttribute.isMissing d.message = true)
      (undefined : ctx.tree.find? .classType MarkerAttribute.className = none)
      {space : Declaration} {others : List Declaration}
      (spaces : ctx.tree.ofKind .namespaceBlock = space :: others) :
      StandardAnswer d line ctx {
        actions := MarkerAttribute.insertions (ctx.tree.ofKind .usingDirective) space
          ctx.attributeDefinitions
        restart := true }

theorem StandardEdit.kind_ne {d : Diagnostic} {line edited : List Char}
    (edit : StandardEdit d line edited) :
    d.kind ≠ .missingType ∧ d.kind ≠ .unexpectedToken := by
  cases edit with
  | nativeInteger kind => simp [kind]
  | operatorCall kind => simp [kind]
  | vtableCast kind => simp [kind]
  | boolReturn kind => simp [kind]
  | uintArgument kind => simp [kind]
  | byteArgument kind => simp [kind]
  | realloc kind => simp [kind]

theorem StandardEdit.vtableCast_of_kind {d : Diagnostic} {line edited : List Char}
    (edit : StandardEdit d line edited) (cast : d.kind = .voidPointerOperation) :
    LineEdit.vtableCast? line = some edited := by
  cases edit with
  | vtableCast _ _ answer => exact answer
  | nativeInteger kind => cases kind.symm.trans cast
  | operatorCall kind => cases kind.symm.trans cast
  | boolReturn kind => cases kind.symm.trans cast
  | uintArgument kind => cases kind.symm.trans cast
  | byteArgument kind => cases kind.symm.trans cast
  | realloc kind => cases kind.symm.trans cast

theorem StandardEdit.unbroken {d : Diagnostic} {line edited : List Char}
    (edit : StandardEdit d line edited) (unbroken : Text.Unbroken line) :
    Text.Unbroken edited := by
  cases edit with
  | nativeInteger kind answer =>
      obtain ⟨n, _, rewritten⟩ := LineEdit.rewrites_of_nativeInteger? answer
      exact unbroken.of_rewrites (by decide) rewritten
  | operatorCall kind answer =>
      obtain ⟨n, _, rewritten⟩ := LineEdit.rewrites_of_operatorCall? answer
      exact unbroken.of_rewrites (by decide) rewritten
  | vtableCast kind cast answer =>
      obtain ⟨front, back, opened, n, m, rfl, opening, casting⟩ :=
        LineEdit.changes_of_vtableCast? answer
      have rest : Text.Unbroken (front ++ back) :=
        unbroken.of_sublist (.append (.refl front) (List.sublist_cons_self _ back))
      exact (rest.of_rewrites (by decide) opening).of_rewrites (by decide) casting
  | boolReturn kind answer =>
      exact unbroken.of_rewrites (by decide) (LineEdit.rewrites_of_boolReturn? answer)
  | uintArgument kind target answer =>
      rcases LineEdit.rewrites_of_uintArgument? answer with ⟨n, _, rewritten⟩ | rewritten
      · exact unbroken.of_rewrites (by decide) rewritten
      · exact unbroken.of_rewrites (by decide) rewritten
  | byteArgument kind target answer =>
      exact unbroken.of_rewrites (by decide) (LineEdit.rewrites_of_byteArgument? answer)
  | realloc kind named answer =>
      obtain ⟨n, _, rewritten⟩ := LineEdit.rewrites_of_realloc? answer
      exact unbroken.of_rewrites (by decide) rewritten

namespace PatchRule

variable {d : Diagnostic} {line : String} {ctx : PassContext} {outcome : PatchOutcome}

theorem edited_eq_ok {new : Option (List Char)} {otherwise : Contradiction}
    (answer : edited new otherwise = .ok outcome) :
    ∃ text, new = some text ∧ outcome = { actions := [.replace (String.ofList text)] } := by
  cases new with
  | none => cases answer
  | some text => exact ⟨text, rfl, (Except.ok.inj answer).symm⟩

theorem edited_eq_replace_iff {new : Option (List Char)} {otherwise : Contradiction}
    {text : String} : edited new otherwise = .ok { actions := [.replace text] } ↔
      new = some text.toList := by
  constructor
  · intro answer
    obtain ⟨inserted, rfl, same⟩ := edited_eq_ok answer
    simp only [PatchOutcome.mk.injEq, List.cons.injEq, PatchAction.replace.injEq, and_true] at same
    rw [same, String.toList_ofList]
  · rintro rfl
    rw [edited, String.ofList_toList]

theorem edited_eq_error_iff {new : Option (List Char)} {otherwise : Contradiction} :
    (∃ contradiction, edited new otherwise = .error contradiction) ↔ new = none := by
  constructor
  · rintro ⟨contradiction, refused⟩
    cases new with
    | none => rfl
    | some text => cases refused
  · rintro rfl
    exact ⟨otherwise, rfl⟩

private theorem answer_of_markerAttribute (kind : d.kind = .missingType)
    (unfixed : d.line ∉ ctx.fixedLines)
    (applied : markerAttribute.apply d line ctx = .ok outcome) :
    StandardAnswer d line ctx outcome := by
  simp only [markerAttribute] at applied
  split at applied
  · cases applied
  · next missing =>
      split at applied
      · cases applied
      · next undefined =>
          cases spaces : ctx.tree.ofKind .namespaceBlock with
          | nil => simp [spaces] at applied
          | cons space others =>
              simp only [spaces, Except.ok.injEq] at applied
              subst applied
              exact .defined kind unfixed (by simpa using missing) (by simpa using undefined)
                spaces

private theorem answer_of_operatorCompanion (kind : d.kind = .unexpectedToken)
    (unfixed : d.line ∉ ctx.fixedLines)
    (applied : operatorCompanion.apply d line ctx = .ok outcome) :
    StandardAnswer d line ctx outcome := by
  simp only [operatorCompanion] at applied
  split at applied
  · cases applied
  · next related =>
      obtain rfl := Except.ok.inj applied
      exact .tolerated kind unfixed related

private theorem answer_of_vtableCast (kind : d.kind = .voidPointerOperation)
    (unfixed : d.line ∉ ctx.fixedLines)
    (applied : vtableCast.apply d line ctx = .ok outcome) :
    StandardAnswer d line ctx outcome := by
  simp only [vtableCast] at applied
  split at applied
  · next cast =>
      obtain ⟨new, edit, rfl⟩ := edited_eq_ok applied
      exact .edited unfixed (.vtableCast kind cast edit)
  · cases applied

private theorem answer_of_argumentCast (kind : d.kind = .argumentConversion)
    (unfixed : d.line ∉ ctx.fixedLines)
    (applied : argumentCast.apply d line ctx = .ok outcome) :
    StandardAnswer d line ctx outcome := by
  simp only [argumentCast] at applied
  split at applied
  · next target =>
      obtain ⟨new, edit, rfl⟩ := edited_eq_ok applied
      exact .edited unfixed (.uintArgument kind target edit)
  · split at applied
    · next target =>
        obtain ⟨new, edit, rfl⟩ := edited_eq_ok applied
        exact .edited unfixed (.byteArgument kind target edit)
    · cases applied

private theorem answer_of_realloc (kind : d.kind = .undefinedName)
    (unfixed : d.line ∉ ctx.fixedLines)
    (applied : realloc.apply d line ctx = .ok outcome) :
    StandardAnswer d line ctx outcome := by
  simp only [realloc] at applied
  split at applied
  · next named =>
      obtain ⟨new, edit, rfl⟩ := edited_eq_ok applied
      exact .edited unfixed (.realloc kind named edit)
  · cases applied

theorem standardAnswer_of_apply {rule : PatchRule}
    (found : RuleRegistry.standard.rule? d.kind = some rule)
    (unfixed : d.line ∉ ctx.fixedLines) (applied : rule.apply d line ctx = .ok outcome) :
    StandardAnswer d line ctx outcome := by
  cases kind : d.kind <;> rw [kind] at found
  case unknown => cases found
  all_goals obtain rfl := Option.some.inj found
  case missingType => exact answer_of_markerAttribute kind unfixed applied
  case unexpectedToken => exact answer_of_operatorCompanion kind unfixed applied
  case voidPointerOperation => exact answer_of_vtableCast kind unfixed applied
  case argumentConversion => exact answer_of_argumentCast kind unfixed applied
  case undefinedName => exact answer_of_realloc kind unfixed applied
  all_goals obtain ⟨new, edit, rfl⟩ := edited_eq_ok applied
  case integralTypeExpected => exact .edited unfixed (.nativeInteger kind edit)
  case invalidExpressionTerm => exact .edited unfixed (.operatorCall kind edit)
  case implicitConversion => exact .edited unfixed (.boolReturn kind edit)

/-- A standard rule answers what it answers about a diagnostic of its own kind on a line that was
not fixed: it reads neither the code of a diagnostic nor which lines were. -/
theorem exists_standardAnswer {rule : PatchRule} (standard : rule ∈ RuleRegistry.standardRules)
    (applied : rule.apply d line ctx = .ok outcome) :
    ∃ code, DiagnosticKind.ofCode code = rule.kind ∧
      StandardAnswer { d with code } line { ctx with fixedLines := [] } outcome := by
  have answered {rule : PatchRule} (code : String)
      (found : RuleRegistry.standard.rule? (DiagnosticKind.ofCode code) = some rule)
      (applied : rule.apply { d with code } line { ctx with fixedLines := [] } = .ok outcome) :
      StandardAnswer { d with code } line { ctx with fixedLines := [] } outcome :=
    standardAnswer_of_apply found List.not_mem_nil applied
  simp only [RuleRegistry.standardRules, List.mem_cons, List.not_mem_nil, or_false] at standard
  rcases standard with rfl | rfl | rfl | rfl | rfl | rfl | rfl | rfl
  · exact ⟨"CS0246", rfl, answered _ rfl applied⟩
  · exact ⟨"CS1008", rfl, answered _ rfl applied⟩
  · exact ⟨"CS1525", rfl, answered _ rfl applied⟩
  · exact ⟨"CS1002", rfl, answered _ rfl applied⟩
  · exact ⟨"CS0242", rfl, answered _ rfl applied⟩
  · exact ⟨"CS0029", rfl, answered _ rfl applied⟩
  · exact ⟨"CS1503", rfl, answered _ rfl applied⟩
  · exact ⟨"CS0103", rfl, answered _ rfl applied⟩

theorem exists_standardEdit {rule : PatchRule} {new : String}
    (standard : rule ∈ RuleRegistry.standardRules) (applied : rule.apply d line ctx = .ok outcome)
    (replaced : .replace new ∈ outcome.actions) :
    ∃ code, DiagnosticKind.ofCode code = rule.kind ∧
      StandardEdit { d with code } line.toList new.toList := by
  obtain ⟨code, kind, answer⟩ := exists_standardAnswer standard applied
  refine ⟨code, kind, ?_⟩
  cases answer with
  | alreadyPatched => simp at replaced
  | tolerated => simp at replaced
  | edited _ edit =>
      rw [PatchAction.replace.inj (List.mem_singleton.mp replaced), String.toList_ofList]
      exact edit
  | defined =>
      rcases List.mem_append.mp replaced with inserted | inserted
      · split at inserted
        · cases inserted
        · cases List.mem_singleton.mp inserted
      · cases List.mem_singleton.mp inserted

def conversionTarget (d : Diagnostic) : String :=
  String.ofList ((LineEdit.conversionTarget? [] d.message.toList).getD [])

theorem apply_argumentCast_uint (target : conversionTarget d = "uint") (line : String)
    (ctx : PassContext) : argumentCast.apply d line ctx =
      edited (LineEdit.uintArgument? line.toList) .noSizeArgument := by
  unfold conversionTarget at target
  simp [argumentCast, target]

theorem apply_argumentCast_byte (target : conversionTarget d = "byte") (line : String)
    (ctx : PassContext) : argumentCast.apply d line ctx =
      edited (LineEdit.byteArgument? line.toList) .noCallArgument := by
  unfold conversionTarget at target
  simp [argumentCast, target]

def emptyContext : PassContext where
  file := "Interop.cs"
  tree := {}
  errors := []
  attributeDefinitions := []

end PatchRule

namespace RuleRegistry

variable {registry : RuleRegistry} {d : Diagnostic} {line : String} {ctx : PassContext}
  {outcome : PatchOutcome}

theorem rule?_eq_some (kind : DiagnosticKind) (known : kind ≠ .unknown) :
    registry.rule? kind = some (registry.rule kind known) :=
  (Option.some_get _).symm

theorem rule_mem (kind : DiagnosticKind) (known : kind ≠ .unknown) :
    registry.rule kind known ∈ registry.rules :=
  List.mem_of_find?_eq_some (rule?_eq_some kind known)

theorem kind_rule (kind : DiagnosticKind) (known : kind ≠ .unknown) :
    (registry.rule kind known).kind = kind := by
  have found : registry.rules.find? (·.kind = kind) = some (registry.rule kind known) :=
    rule?_eq_some kind known
  simpa using List.find?_some found

theorem route_of_unknown (unknown : d.kind = .unknown) : registry.route d ctx = .refuse := by
  simp [route, unknown]

theorem route_of_fixed (known : d.kind ≠ .unknown) (fixed : d.line ∈ ctx.fixedLines) :
    registry.route d ctx = .pass := by
  simp [route, known, fixed]

theorem route_of_unfixed (known : d.kind ≠ .unknown) (unfixed : d.line ∉ ctx.fixedLines) :
    registry.route d ctx = .consult (registry.rule d.kind known) := by
  simp [route, known, unfixed]

theorem dispatch_of_unknown (unknown : d.kind = .unknown) :
    registry.dispatch d line ctx =
      .error { file := ctx.file, diagnostic := d, reason := .unknownCode } := by
  rw [dispatch, route_of_unknown unknown]

theorem dispatch_of_fixed (known : d.kind ≠ .unknown) (fixed : d.line ∈ ctx.fixedLines) :
    registry.dispatch d line ctx = .ok { actions := [.skip .alreadyPatched] } := by
  rw [dispatch, route_of_fixed known fixed]

theorem dispatch_of_unfixed (known : d.kind ≠ .unknown) (unfixed : d.line ∉ ctx.fixedLines) :
    registry.dispatch d line ctx =
      match (registry.rule d.kind known).apply d line ctx with
      | .ok outcome => .ok outcome
      | .error c => .error (contradicted ctx.file d c) := by
  have routed : registry.route d ctx = .consult (registry.rule d.kind known) :=
    route_of_unfixed known unfixed
  cases applied : (registry.rule d.kind known).apply d line ctx with
  | ok outcome => simp only [dispatch, routed, applied]
  | error contradiction => simp only [dispatch, routed, applied]

theorem dispatch_eq_ok (answer : registry.dispatch d line ctx = .ok outcome) :
    d.kind ≠ .unknown ∧
      (d.line ∈ ctx.fixedLines ∧ outcome = { actions := [.skip .alreadyPatched] } ∨
        d.line ∉ ctx.fixedLines ∧
          ∃ rule, registry.rule? d.kind = some rule ∧ rule.apply d line ctx = .ok outcome) := by
  by_cases known : d.kind = .unknown
  · rw [dispatch_of_unknown known] at answer
    cases answer
  · refine ⟨known, ?_⟩
    by_cases fixed : d.line ∈ ctx.fixedLines
    · rw [dispatch_of_fixed known fixed] at answer
      exact .inl ⟨fixed, (Except.ok.inj answer).symm⟩
    · rw [dispatch_of_unfixed known fixed] at answer
      refine .inr ⟨fixed, _, rule?_eq_some d.kind known, ?_⟩
      cases applied : (registry.rule d.kind known).apply d line ctx with
      | ok answered => simpa [applied] using answer
      | error contradiction => simp [applied] at answer

theorem standardAnswer_of_dispatch (answer : standard.dispatch d line ctx = .ok outcome) :
    StandardAnswer d line ctx outcome := by
  obtain ⟨known, ⟨fixed, rfl⟩ | ⟨unfixed, rule, found, applied⟩⟩ := dispatch_eq_ok answer
  · exact .alreadyPatched known fixed
  · exact PatchRule.standardAnswer_of_apply found unfixed applied

end RuleRegistry

end BindingRepair
