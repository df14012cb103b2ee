import BindingRepair.Proofs.Patching.Freshness

/-!
No pass gets stuck. Under the standard rules a pass that refuses no error changes the lines: an edit
changes its line and no line is edited twice, an insertion makes the file longer, and a diagnostic
that is tolerated points to another one which is not. So the end that is made when a pass changed
nothing is never reached.
-/

namespace BindingRepair

theorem Text.Rewrites.ne {old new s t : List Char} {n : Nat} (rewritten : Rewrites old new n s t)
    (positive : 0 < n) (lengths : new.length ≠ old.length) : t ≠ s := by
  rintro rfl
  have same := Nat.eq_of_mul_eq_mul_left positive (Nat.add_left_cancel rewritten.length_eq)
  exact lengths same.symm

theorem StandardEdit.ne {d : Diagnostic} {line edited : List Char}
    (edit : StandardEdit d line edited) : edited ≠ line := by
  cases edit with
  | nativeInteger kind answer =>
      obtain ⟨n, positive, rewritten⟩ := LineEdit.rewrites_of_nativeInteger? answer
      exact rewritten.ne positive (by decide)
  | operatorCall kind answer =>
      obtain ⟨n, positive, rewritten⟩ := LineEdit.rewrites_of_operatorCall? answer
      exact rewritten.ne positive (by decide)
  | vtableCast kind cast answer =>
      rintro rfl
      exact Nat.lt_irrefl _ (LineEdit.count_lt_of_vtableCast? answer)
  | boolReturn kind answer =>
      exact (LineEdit.rewrites_of_boolReturn? answer).ne Nat.one_pos (by decide)
  | uintArgument kind target answer =>
      rcases LineEdit.rewrites_of_uintArgument? answer with ⟨n, positive, rewritten⟩ | rewritten
      · exact rewritten.ne positive (by decide)
      · exact rewritten.ne Nat.one_pos (by decide)
  | byteArgument kind target answer =>
      exact (LineEdit.rewrites_of_byteArgument? answer).ne Nat.one_pos (by decide)
  | realloc kind named answer =>
      obtain ⟨n, positive, rewritten⟩ := LineEdit.rewrites_of_realloc? answer
      exact rewritten.ne positive (by decide)

theorem PatchRule.kind_of_mem_relatedTerms {d term : Diagnostic} {errors : List Diagnostic}
    (member : term ∈ relatedTerms d errors) :
    term ∈ errors ∧ term.kind = .invalidExpressionTerm := by
  obtain ⟨reported, related⟩ := List.mem_filter.mp member
  exact ⟨reported, of_decide_eq_true (Bool.and_eq_true_iff.mp related).1⟩

namespace MarkerAttribute

theorem definitionBlock_ne_nil {definitions : List (List String)} (defined : definitions ≠ []) :
    definitionBlock definitions ≠ [] := by
  cases definitions with
  | nil => exact absurd rfl defined
  | cons definition rest => simp [definitionBlock]

theorem size_lt_define {definitions : List (List String)} (defined : definitions ≠ [])
    (usings : List Declaration) (space : Declaration) (b : SourceBuffer) :
    b.size < (define usings space definitions b).size := by
  have block := List.length_pos_iff.mpr (definitionBlock_ne_nil defined)
  rw [size_define]
  omega

end MarkerAttribute

/-- What an action does to a line or to the lines around it, if it is not to be idle. -/
def PatchAction.Changes (line : String) : PatchAction → Prop
  | replace new => new ≠ line
  | insert _ lines => lines ≠ []
  | skip _ => True

theorem MarkerAttribute.changes_of_mem_insertions {usings : List Declaration}
    {space : Declaration} {definitions : List (List String)} (defined : definitions ≠ [])
    {action : PatchAction} (member : action ∈ insertions usings space definitions)
    (line : String) : action.Changes line := by
  rcases List.mem_append.mp member with inserted | inserted
  · split at inserted
    · cases inserted
    · next missing =>
        rw [List.mem_singleton.mp inserted]
        exact missing
  · rw [List.mem_singleton.mp inserted]
    exact definitionBlock_ne_nil defined

theorem StandardAnswer.changes {d : Diagnostic} {line : String} {ctx : PassContext}
    {outcome : PatchOutcome} (answer : StandardAnswer d line ctx outcome)
    (defined : ctx.attributeDefinitions ≠ []) :
    ∀ action ∈ outcome.actions, action.Changes line := by
  intro action member
  cases answer with
  | alreadyPatched =>
      rw [List.mem_singleton.mp member]
      trivial
  | tolerated =>
      rw [List.mem_singleton.mp member]
      trivial
  | edited unfixed edit =>
      rw [List.mem_singleton.mp member]
      intro same
      apply edit.ne
      rw [← same, String.toList_ofList]
  | defined => exact MarkerAttribute.changes_of_mem_insertions defined member line

namespace Patching

variable {pass : Nat} {ctx : PassContext} {errors : List Diagnostic} {s after : State}
  {result : Except Refusal Unit} {before : List String}

/-- `Altered before ctx s` says that no line has moved since the lines were `before`, and that one
of those that were fixed differs from what it was. -/
structure Altered (before : List String) (ctx : PassContext) (s : State) : Prop where
  unmoved : s.buffer.size = before.length
  differs : ∃ index : Nat, (index : Int) ∈ ctx.fixedLines ∧
    s.buffer.lines[index]? ≠ before[index]?

theorem Altered.ne (altered : Altered before ctx s) : s.buffer.lines ≠ before := by
  obtain ⟨index, _, differs⟩ := altered.differs
  intro same
  rw [same] at differs
  exact differs rfl

theorem StandardMends.ne_of_altered (mends : StandardMends pass ctx errors s result after)
    (altered : Altered before ctx s) (defined : ctx.attributeDefinitions ≠ []) :
    after.buffer.lines ≠ before := by
  induction mends with
  | done => exact altered.ne
  | outside => exact altered.ne
  | refused =>
      rw [buffer_noteConsulted]
      exact altered.ne
  | alreadyPatched _ _ _ _ _ induction => exact induction ⟨altered.1, altered.2⟩ defined
  | tolerated _ _ _ _ _ _ induction => exact induction ⟨altered.1, altered.2⟩ defined
  | @edited ctx d rest s after here line new result place present unfixed edit later induction =>
      obtain ⟨index, fixed, differs⟩ := altered.differs
      have apart : here ≠ index := by
        rintro rfl
        exact unfixed (place ▸ fixed)
      refine induction {
        unmoved := ?_
        differs := ⟨index, List.mem_cons_of_mem _ fixed, ?_⟩ } defined
      · rw [← altered.unmoved]
        exact List.length_set
      · simpa [List.getElem?_set_ne apart] using differs
  | @defined ctx d rest s index line space others =>
      have longer := MarkerAttribute.size_lt_define defined (ctx.tree.ofKind .usingDirective)
        space s.buffer
      rintro rfl
      exact Nat.ne_of_lt longer altered.unmoved

theorem StandardMends.ne_or_tolerated (mends : StandardMends pass ctx errors s (.ok ()) after)
    (unfixed : ctx.fixedLines = []) (defined : ctx.attributeDefinitions ≠ []) :
    after.buffer.lines ≠ s.buffer.lines ∨
      ∀ d ∈ errors, d.kind = .unexpectedToken ∧ PatchRule.relatedTerms d ctx.errors ≠ [] := by
  generalize ended : Except.ok () = result at mends
  induction mends with
  | done => exact .inr nofun
  | outside => cases ended
  | refused => cases ended
  | alreadyPatched place present known fixed =>
      rw [unfixed] at fixed
      cases fixed
  | tolerated place present kind free related later induction =>
      rcases induction unfixed defined ended with changed | tolerated
      · exact .inl changed
      · refine .inr fun d member => ?_
        rcases List.mem_cons.mp member with rfl | later
        · exact ⟨kind, by simp [related]⟩
        · exact tolerated d later
  | @edited ctx d rest s after index line new result place present free edit later induction =>
      refine .inl (later.ne_of_altered {
        unmoved := List.length_set
        differs := ⟨index, place ▸ List.mem_cons_self, ?_⟩ } defined)
      have inside := (List.getElem?_eq_some_iff.mp present).1
      rw [State.buffer_edit, State.buffer_note, List.getElem?_set_self inside, present]
      intro same
      apply edit.ne
      rw [← Option.some.inj same, String.toList_ofList]
  | @defined ctx d rest s index line space others =>
      have longer := MarkerAttribute.size_lt_define defined (ctx.tree.ofKind .usingDirective)
        space s.buffer
      refine .inl fun same => ?_
      exact Nat.ne_of_gt longer (congrArg List.length same)

def patchedLines (events : List Event) : List Int :=
  events.filterMap Event.patchedLine?

theorem StandardMends.patches (mends : StandardMends pass ctx errors s result after) :
    ∃ events, after.trace = s.trace ++ events ∧ (patchedLines events).Nodup ∧
      (∀ line ∈ patchedLines events, line ∉ ctx.fixedLines) ∧
      (patchedLines events = [] → after.buffer.lines = s.buffer.lines) := by
  induction mends with
  | done => exact ⟨[], by simp, List.nodup_nil, nofun, fun _ => rfl⟩
  | outside => exact ⟨[], by simp, List.nodup_nil, nofun, fun _ => rfl⟩
  | @refused ctx d rest s index line refusal place present answer =>
      rcases noteConsulted_cases line with same | ⟨_, noted⟩
      · rw [same]
        exact ⟨[], by simp, List.nodup_nil, nofun, fun _ => rfl⟩
      · rw [noted]
        exact ⟨[.consulted d line ctx], rfl, List.nodup_nil, nofun, fun _ => rfl⟩
  | @alreadyPatched ctx d rest s after index line result place present known fixed later
      induction =>
      obtain ⟨events, trace, nodup, fresh, idle⟩ := induction
      exact ⟨.skipped pass d .alreadyPatched :: events, by simp [trace], nodup, fresh, idle⟩
  | @tolerated ctx d term rest others s after index line result place present kind free related
      later induction =>
      obtain ⟨events, trace, nodup, fresh, idle⟩ := induction
      exact ⟨.consulted d line ctx :: .skipped pass d (.followsFrom term.code term.line) :: events,
        by simp [trace], nodup, fresh, idle⟩
  | @edited ctx d rest s after index line new result place present free edit later induction =>
      obtain ⟨events, trace, nodup, fresh, idle⟩ := induction
      refine ⟨.consulted d line ctx :: .patched pass d :: events, by simp [trace], ?_, ?_, nofun⟩
      · refine List.nodup_cons.mpr ⟨fun again => ?_, nodup⟩
        exact fresh d.line again List.mem_cons_self
      · intro line member fixed
        rcases List.mem_cons.mp member with rfl | member
        · exact free fixed
        · exact fresh line member (List.mem_cons_of_mem _ fixed)
  | @defined ctx d rest s index line space others place present kind free =>
      refine ⟨[.consulted d line ctx, .patched pass d, .restarted pass d], by simp,
        List.nodup_cons.mpr ⟨nofun, List.nodup_nil⟩, ?_, nofun⟩
      intro line member
      rw [List.mem_singleton.mp member]
      exact free

/-- `Progress s next` says that the pass from `s` to `next` changed the lines, that it patched
diagnostics, and that it did so on no line twice. -/
structure Progress (s next : State) : Prop where
  changed : next.buffer.lines ≠ s.buffer.lines
  patches : ∃ events, next.trace = s.trace ++ events ∧ patchedLines events ≠ [] ∧
    (patchedLines events).Nodup

variable {setup : Setup}

theorem Mended.progress {result : CompileResult} (mended : Mended setup s result (.ok ()) after)
    (standard : setup.registry = .standard) (defined : setup.attributeDefinitions ≠ []) :
    Progress s after := by
  have mends := (standard ▸ mended.mends).standard
  have changed : after.buffer.lines ≠ s.buffer.lines := by
    rcases mends.ne_or_tolerated rfl defined with changed | tolerated
    · exact changed
    · obtain ⟨first, others, errors⟩ := List.exists_cons_of_ne_nil mended.faulty
      have firstMember : first ∈ result.errors := errors ▸ List.mem_cons_self
      obtain ⟨term, terms, related⟩ := List.exists_cons_of_ne_nil (tolerated first firstMember).2
      obtain ⟨reported, kind⟩ :=
        PatchRule.kind_of_mem_relatedTerms (related ▸ List.mem_cons_self)
      rw [(tolerated term reported).1] at kind
      cases kind
  obtain ⟨events, trace, nodup, _, idle⟩ := mends.patches
  refine { changed, patches := ⟨.compiled s.buffer.text (.ok result) setup.compiler.announces ::
    .passFaulty (s.report.passes + 1) result.errors.length :: events, ?_, ?_, nodup⟩ }
  · rw [trace, State.trace_note, State.trace_recompiled mended.answer]
    simp
  · intro none
    exact changed (idle none)

theorem onePass_progress (standard : setup.registry = .standard)
    (defined : setup.attributeDefinitions ≠ []) {result : CompileResult}
    (answer : setup.compiler.answer s.earlier s.buffer.text = .ok result)
    (faulty : result.errors ≠ []) :
    (∃ refusal after, onePass setup s = .ended (.error (.refused refusal)) after) ∨
      ∃ next, onePass setup s = .again next ∧ Progress s next := by
  have passes := passes_onePass setup s
  generalize ending : onePass setup s = end_ at passes ⊢
  cases passes with
  | failed failed =>
      rw [answer] at failed
      cases failed
  | clean clean faultless =>
      rw [answer] at clean
      exact absurd (Except.ok.inj clean ▸ faultless) faulty
  | refused mended => exact .inl ⟨_, _, rfl⟩
  | stuck mended unchanged => exact absurd unchanged (mended.progress standard defined).changed
  | again mended changed => exact .inr ⟨_, rfl, mended.progress standard defined⟩

/-- With the standard rules and some definitions of the markers, nothing that a rule answers is
idle, a pass with errors is refused or makes progress, and no run ends for want of it. -/
theorem run_never_stuck (setup : Setup) (standard : setup.registry = .standard)
    (defined : setup.attributeDefinitions ≠ []) :
    (∀ (d : Diagnostic) (line : String) (ctx : PassContext) (outcome : PatchOutcome),
        setup.registry.dispatch d line ctx = .ok outcome →
        ctx.attributeDefinitions = setup.attributeDefinitions →
        ∀ action ∈ outcome.actions, action.Changes line) ∧
      (∀ (s : State) (result : CompileResult),
        setup.compiler.answer s.earlier s.buffer.text = .ok result → result.errors ≠ [] →
        (∃ refusal after, onePass setup s = .ended (.error (.refused refusal)) after) ∨
          ∃ next, onePass setup s = .again next ∧ Progress s next) ∧
      ∀ (s : State) (passes : Nat) (file : String) (pass errors : Nat) (first : Diagnostic),
        (run setup passes s).result ≠ some (.error (.noProgress file pass errors first)) := by
  refine ⟨?_, fun s result => onePass_progress standard defined, ?_⟩
  · intro d line ctx outcome answer same
    rw [standard] at answer
    exact (RuleRegistry.standardAnswer_of_dispatch answer).changes (same ▸ defined)
  · intro s passes file pass errors first ended
    obtain ⟨t, ending⟩ := exists_onePass_of_run ended
    have passed := passes_onePass setup t
    rw [ending] at passed
    cases passed with
    | stuck mended unchanged => exact (mended.progress standard defined).changed unchanged

def assignment : State where
  buffer := { lines := ["namespace N \x7b", "a.operator=(b)", "\x7d"] }
  report := { file := "Interop.cs" }

def assignmentReported : Setup where
  compiler := .ofReports (fun _ => {
      declarations := [{ kind := .namespaceBlock, name := "N", startLine := 0, endLine := 2 }] })
    [[{ code := "CS1513", line := 2 }, { code := "CS1525", line := 1 },
      { code := "CS0246", message := "NativeTypeName", line := 0 }]]
  registry := .standard
  file := "Interop.cs"
  attributeDefinitions := [["class A;"]]

theorem run_never_stuck_assignment :
    (∃ next, onePass assignmentReported assignment = .again next ∧ Progress assignment next ∧
        next.buffer.lines = ["using System;", "using System.Diagnostics;", "namespace N \x7b",
          "class A;", "", "a=(b)", "\x7d"]) ∧
      ∀ (passes : Nat) (file : String) (pass errors : Nat) (first : Diagnostic),
        (run assignmentReported passes assignment).result ≠
          some (.error (.noProgress file pass errors first)) := by
  obtain ⟨_, progress, never⟩ := run_never_stuck assignmentReported rfl (by decide)
  refine ⟨?_, never assignment⟩
  rcases progress assignment _ rfl (by decide) with ⟨refusal, after, refused⟩ | made
  · cases refused
  · obtain ⟨next, again, made⟩ := made
    refine ⟨next, again, made, ?_⟩
    rw [← PassEnd.again.inj again]
    rfl

end Patching

end BindingRepair
