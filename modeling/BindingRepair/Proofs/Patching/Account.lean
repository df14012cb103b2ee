import BindingRepair.Proofs.OrderedMap
import BindingRepair.Proofs.Patching.Answers
import BindingRepair.Proofs.Patching.Compiles

namespace BindingRepair

namespace RunReport

theorem getD_lookup_increment (code other : String) (patches : List (String × Nat)) :
    ((increment code patches).lookup other).getD 0 =
      (patches.lookup other).getD 0 + if code = other then 1 else 0 := by
  induction patches with
  | nil =>
      rw [increment, OrderedMap.lookup_cons_eq_ite]
      by_cases same : code = other
      · simp [same]
      · simp [same, Ne.symm same]
  | cons entry rest induction =>
      obtain ⟨name, count⟩ := entry
      rw [increment]
      by_cases counted : name = code
      · subst counted
        rw [if_pos rfl, OrderedMap.lookup_cons_eq_ite, OrderedMap.lookup_cons_eq_ite]
        by_cases same : name = other
        · simp [same]
        · simp [same, Ne.symm same]
      · rw [if_neg counted, OrderedMap.lookup_cons_eq_ite, OrderedMap.lookup_cons_eq_ite]
        by_cases same : other = name
        · subst same
          simp [Ne.symm counted]
        · rw [if_neg same, if_neg same, induction]

/-- `Tallies answers r r'` says that the counters of `r'` are those of `r`, each with the number of
the answers that it is meant to count. -/
structure Tallies (answers : List Answer) (r r' : RunReport) : Prop where
  skipped : r'.skipped = r.skipped + answers.countP (·.skips)
  patched : r'.patchTotal = r.patchTotal + answers.countP (!·.skips)
  patches : ∀ code, r'.patchCount code = r.patchCount code + answers.countP (·.patches code)
  restarts : r'.restarts = r.restarts + answers.countP (·.restarts)

namespace Tallies

variable {r r' r'' : RunReport} {answers later : List Answer}

theorem nil (r : RunReport) : Tallies [] r r where
  skipped := rfl
  patched := rfl
  patches _ := rfl
  restarts := rfl

theorem single {a : Answer} (skipped : r'.skipped = r.skipped + if a.skips then 1 else 0)
    (patches : r'.patches =
      if a.skips then r.patches else increment a.diagnostic.code r.patches)
    (restarts : r'.restarts = r.restarts + if a.restarts then 1 else 0) :
    Tallies [a] r r' where
  skipped := by rw [skipped, List.countP_singleton]
  patched := by
    rw [patchTotal, patches, List.countP_singleton]
    cases a.skips with
    | true => rfl
    | false => exact total_increment _ _
  patches code := by
    rw [patchCount, patches, List.countP_singleton, Answer.patches]
    cases a.skips with
    | true => simp [patchCount]
    | false => simp [getD_lookup_increment, patchCount]
  restarts := by rw [restarts, List.countP_singleton]

theorem append (tallies : Tallies answers r r') (more : Tallies later r' r'') :
    Tallies (answers ++ later) r r'' where
  skipped := by rw [more.skipped, tallies.skipped, List.countP_append, Nat.add_assoc]
  patched := by rw [more.patched, tallies.patched, List.countP_append, Nat.add_assoc]
  patches code := by
    rw [more.patches, tallies.patches, List.countP_append, Nat.add_assoc]
  restarts := by rw [more.restarts, tallies.restarts, List.countP_append, Nat.add_assoc]

theorem dealt (tallies : Tallies answers r r') :
    r'.patchTotal + r'.skipped = r.patchTotal + r.skipped + answers.length := by
  have whole := List.length_eq_countP_add_countP (·.skips) (l := answers)
  simp only [Bool.not_eq_true, ← Bool.not_eq_true', Bool.decide_eq_true] at whole
  rw [tallies.patched, tallies.skipped]
  omega

end Tallies

end RunReport

theorem MarkerAttribute.skips_insertions (usings : List Declaration) (space : Declaration)
    (definitions : List (List String)) :
    (insertions usings space definitions).all (·.isSkip) = false := by
  simp [insertions, PatchAction.isSkip]

theorem StandardAnswer.restarts_eq_patches {d : Diagnostic} {line : String} {ctx : PassContext}
    {outcome : PatchOutcome} (answer : StandardAnswer d line ctx outcome) :
    (Answer.mk d outcome).restarts = (Answer.mk d outcome).patches "CS0246" := by
  cases answer with
  | alreadyPatched => rfl
  | tolerated => rfl
  | edited unfixed edit =>
      have other : d.code ≠ "CS0246" := fun code =>
        edit.kind_ne.1 (Diagnostic.kind_eq_missingType_iff.mpr code)
      simp [Answer.restarts, Answer.patches, other]
  | defined kind =>
      have code := Diagnostic.kind_eq_missingType_iff.mp kind
      simp [Answer.restarts, Answer.patches, Answer.skips, code,
        MarkerAttribute.skips_insertions]

namespace Patching

variable {registry : RuleRegistry} {pass : Nat} {d : Diagnostic} {ctx : PassContext}
  {s after : State} {errors : List Diagnostic} {result : Except Refusal Unit}

section

variable {outcome : PatchOutcome}

@[simp] theorem report_noteConsulted (line : String) :
    (noteConsulted registry d line ctx s).report = s.report := by
  rcases noteConsulted_cases line with same | ⟨_, noted⟩
  · rw [same]
  · rw [noted]
    rfl

theorem report_foldl_perform (actions : List PatchAction) (s : State) :
    (actions.foldl (State.perform pass d) s).report = s.report := by
  induction actions generalizing s with
  | nil => rfl
  | cons action rest induction =>
      rw [List.foldl_cons, induction]
      cases action with
      | replace line => rfl
      | insert position lines => rfl
      | skip reason => rfl

theorem report_applyOutcome : (applyOutcome pass d outcome s).report =
    if (Answer.mk d outcome).skips then { s.report with skipped := s.report.skipped + 1 }
    else s.report.countPatch d.code := by
  have kept : (outcome.actions.foldl (State.perform pass d) s).report = s.report :=
    report_foldl_perform outcome.actions s
  cases skips : outcome.actions.all (·.isSkip) with
  | true => simp [applyOutcome, Answer.skips, skips, kept]
  | false => simp [applyOutcome, Answer.skips, skips, kept, State.note]

theorem skipped_applyOutcome : (applyOutcome pass d outcome s).report.skipped =
    s.report.skipped + if (Answer.mk d outcome).skips then 1 else 0 := by
  rw [report_applyOutcome]
  split
  · rfl
  · rfl

theorem patches_applyOutcome : (applyOutcome pass d outcome s).report.patches =
    if (Answer.mk d outcome).skips then s.report.patches
    else RunReport.increment d.code s.report.patches := by
  rw [report_applyOutcome]
  split
  · rfl
  · rfl

theorem restarts_applyOutcome :
    (applyOutcome pass d outcome s).report.restarts = s.report.restarts := by
  rw [report_applyOutcome]
  split
  · rfl
  · rfl

theorem passes_applyOutcome :
    (applyOutcome pass d outcome s).report.passes = s.report.passes := by
  rw [report_applyOutcome]
  split
  · rfl
  · rfl

theorem tallies_applyOutcome (stays : outcome.restart = false) :
    RunReport.Tallies [⟨d, outcome⟩] s.report (applyOutcome pass d outcome s).report := by
  apply RunReport.Tallies.single skipped_applyOutcome patches_applyOutcome
  rw [restarts_applyOutcome, Answer.restarts, stays]
  rfl

theorem tallies_restart (restarts : outcome.restart = true) :
    RunReport.Tallies [⟨d, outcome⟩] s.report
      (restart pass d (applyOutcome pass d outcome s)).report := by
  apply RunReport.Tallies.single
  · exact skipped_applyOutcome
  · exact patches_applyOutcome
  · rw [Answer.restarts, restarts]
    exact congrArg (· + 1) restarts_applyOutcome

theorem buffer_foldl_perform {actions : List PatchAction}
    (skips : actions.all (·.isSkip) = true) (s : State) :
    (actions.foldl (State.perform pass d) s).buffer = s.buffer := by
  induction actions generalizing s with
  | nil => rfl
  | cons action rest induction =>
      rw [List.all_cons, Bool.and_eq_true] at skips
      rw [List.foldl_cons, induction skips.2]
      cases action with
      | replace line => cases skips.1
      | insert position lines => cases skips.1
      | skip reason => rfl

theorem buffer_applyOutcome_of_skips (skips : (Answer.mk d outcome).skips = true) :
    (applyOutcome pass d outcome s).buffer = s.buffer := by
  rw [Answer.skips] at skips
  simp only [applyOutcome, skips, if_true]
  exact buffer_foldl_perform skips s

end

theorem Mends.tallies (mends : Mends registry pass ctx errors s result after) :
    RunReport.Tallies (answers registry pass ctx errors s) s.report after.report := by
  induction mends with
  | done => exact .nil _
  | outside outside =>
      rw [answers_of_outside outside]
      exact .nil _
  | refused place present answer =>
      rw [answers_of_refused place present answer, report_noteConsulted]
      exact .nil _
  | @restarted ctx d rest s index line outcome place present answer restarts =>
      have noted : (noteConsulted registry d line ctx s).report = s.report :=
        report_noteConsulted line
      rw [answers_of_restarted place present answer restarts, ← noted]
      exact tallies_restart restarts
  | @next ctx d rest s after index line outcome result place present answer stays later
      induction =>
      have noted : (noteConsulted registry d line ctx s).report = s.report :=
        report_noteConsulted line
      rw [answers_of_next place present answer stays, ← noted]
      exact (tallies_applyOutcome stays).append induction

theorem Mends.passes (mends : Mends registry pass ctx errors s result after) :
    after.report.passes = s.report.passes := by
  induction mends with
  | done => rfl
  | outside => rfl
  | refused => rw [report_noteConsulted]
  | restarted =>
      exact passes_applyOutcome.trans (congrArg RunReport.passes (report_noteConsulted _))
  | next _ _ _ _ _ induction =>
      rw [induction, passes_applyOutcome, report_noteConsulted]

theorem Mends.buffer_of_skips (mends : Mends registry pass ctx errors s result after)
    (skips : ∀ a ∈ answers registry pass ctx errors s, a.skips = true) :
    after.buffer = s.buffer := by
  induction mends with
  | done => rfl
  | outside => rfl
  | refused => exact buffer_noteConsulted _
  | restarted place present answer restarts =>
      rw [answers_of_restarted place present answer restarts] at skips
      rw [buffer_restart, buffer_applyOutcome_of_skips (skips _ List.mem_cons_self),
        buffer_noteConsulted]
  | next place present answer stays later induction =>
      rw [answers_of_next place present answer stays] at skips
      rw [induction fun a member => skips a (List.mem_cons_of_mem _ member),
        buffer_applyOutcome_of_skips (skips _ List.mem_cons_self), buffer_noteConsulted]

theorem Mends.exists_patch (mends : Mends registry pass ctx errors s result after)
    (changed : after.buffer.lines ≠ s.buffer.lines) :
    ∃ a ∈ answers registry pass ctx errors s, a.skips = false := by
  by_cases skips : ∀ a ∈ answers registry pass ctx errors s, a.skips = true
  · exact absurd (congrArg SourceBuffer.lines (mends.buffer_of_skips skips)) changed
  · simpa using skips

theorem StandardMends.size_or_restarts
    (mends : StandardMends pass ctx errors s result after) :
    after.buffer.size = s.buffer.size ∨ after.report.restarts = s.report.restarts + 1 := by
  induction mends with
  | done => exact .inl rfl
  | outside => exact .inl rfl
  | refused => exact .inl (by rw [buffer_noteConsulted])
  | alreadyPatched _ _ _ _ _ induction => exact induction
  | tolerated _ _ _ _ _ _ induction => exact induction
  | edited _ _ _ _ _ induction =>
      rcases induction with same | restarted
      · exact .inl (by simpa [SourceBuffer.size] using same)
      · exact .inr restarted
  | defined => exact .inr rfl

variable {setup : Setup}

theorem Mended.tallies {result : CompileResult} {outcome : Except Refusal Unit}
    (mended : Mended setup s result outcome after) :
    RunReport.Tallies (passAnswers setup s) s.report after.report := by
  have started : RunReport.Tallies [] s.report (s.recompiled setup.compiler).report :=
    ⟨rfl, rfl, fun _ => rfl, rfl⟩
  rw [mended.answers_eq]
  exact started.append mended.mends.tallies

theorem Passes.tallies {ending : PassEnd} (passes : Passes setup s ending) :
    RunReport.Tallies (passAnswers setup s) s.report ending.state.report := by
  cases passes with
  | failed answer =>
      rw [passAnswers, answer]
      exact ⟨rfl, rfl, fun _ => rfl, rfl⟩
  | clean answer faultless =>
      rw [passAnswers, answer]
      simp only [faultless, answers]
      exact ⟨rfl, rfl, fun _ => rfl, rfl⟩
  | refused mended => exact mended.tallies
  | stuck mended => exact mended.tallies
  | again mended => exact mended.tallies

theorem Passes.counted {ending : PassEnd} (passes : Passes setup s ending) :
    ending.state.report.passes = s.report.passes + 1 := by
  cases passes with
  | failed answer => rfl
  | clean answer faultless => rfl
  | refused mended => exact mended.mends.passes
  | stuck mended => exact mended.mends.passes
  | again mended => exact mended.mends.passes

theorem Passes.size_or_restarts {ending : PassEnd} (passes : Passes setup s ending)
    (standard : setup.registry = .standard) :
    ending.state.buffer.size = s.buffer.size ∨
      ending.state.report.restarts = s.report.restarts + 1 := by
  cases passes with
  | failed answer => exact .inl rfl
  | clean answer faultless => exact .inl rfl
  | refused mended => exact (standard ▸ mended.mends).standard.size_or_restarts
  | stuck mended => exact (standard ▸ mended.mends).standard.size_or_restarts
  | again mended => exact (standard ▸ mended.mends).standard.size_or_restarts

theorem patchTotal_lt_of_again {next : State} (again : onePass setup s = .again next) :
    s.report.patchTotal < next.report.patchTotal := by
  have passes := passes_onePass setup s
  rw [again] at passes
  have tallies := passes.tallies
  cases passes with
  | again mended changed =>
      have patched : 0 < (passAnswers setup s).countP (!·.skips) := by
        rw [mended.answers_eq, List.countP_pos_iff]
        obtain ⟨a, member, touches⟩ := mended.mends.exists_patch changed
        exact ⟨a, member, by rw [touches]; rfl⟩
      have counted := tallies.patched
      simp only [PassEnd.state] at counted
      omega

theorem restarts_onePass (standard : setup.registry = .standard) (s : State)
    (before : s.report.restarts = s.report.patchCount "CS0246") :
    (onePass setup s).state.report.restarts =
      (onePass setup s).state.report.patchCount "CS0246" := by
  have tallies := (passes_onePass setup s).tallies
  have same : ∀ a ∈ passAnswers setup s, a.restarts = a.patches "CS0246" := by
    intro a member
    obtain ⟨line, ctx, answer⟩ := exists_dispatch_of_mem_passAnswers member
    rw [standard] at answer
    exact (RuleRegistry.standardAnswer_of_dispatch answer).restarts_eq_patches
  rw [tallies.restarts, tallies.patches, before]
  congr 1
  exact List.countP_congr fun a member => by rw [same a member]

theorem compiles_onePass (standard : setup.registry = .standard) (s : State)
    (before : s.report.passes = (compiles s.trace).length) :
    (onePass setup s).state.report.passes = (compiles (onePass setup s).state.trace).length := by
  have passes := passes_onePass setup s
  rw [passes.counted, passes.compiles standard, before, List.length_append]
  rfl

theorem run_tallies (setup : Setup) (passes : Nat) (s : State) :
    RunReport.Tallies (runAnswers setup passes s) s.report (run setup passes s).state.report := by
  induction passes generalizing s with
  | zero => exact .nil _
  | succ passes induction =>
      have tallies := (passes_onePass setup s).tallies
      rw [run, runAnswers]
      cases ending : onePass setup s with
      | again next =>
          rw [ending] at tallies
          exact tallies.append (induction next)
      | ended result after =>
          rw [ending] at tallies
          simp only [List.append_nil]
          exact tallies

theorem passes_le_of_run (passes : Nat) (before : s.report.passes ≤ s.report.patchTotal) :
    (run setup passes s).state.report.passes ≤
      (run setup passes s).state.report.patchTotal + 1 := by
  induction passes generalizing s with
  | zero => exact Nat.le_succ_of_le before
  | succ passes induction =>
      have counted := (passes_onePass setup s).counted
      have patched := (passes_onePass setup s).tallies.patched
      rw [run]
      cases ending : onePass setup s with
      | again next =>
          have more := patchTotal_lt_of_again ending
          rw [ending] at counted
          simp only [PassEnd.state] at counted
          exact induction (by omega)
      | ended result after =>
          rw [ending] at counted patched
          simp only [PassEnd.state] at counted patched ⊢
          omega

/-- However a run with the standard rules ends, its report tells what happened: it took as many
passes as the compiler was asked, each answer of a rule is counted once, as a patch or as a skip,
and it was restarted as often as a missing marker was defined. No pass but one that restarts changes
how many lines there are, and every pass but the last has patched something. -/
theorem run_accounted (setup : Setup) (standard : setup.registry = .standard)
    (buffer : SourceBuffer) (file : String) (earlier : List String) (passes : Nat) :
    let start : State := { buffer, report := { file }, earlier }
    let ended := (run setup passes start).state
    ended.report.passes = (compiles ended.trace).length ∧
      ended.report.patchTotal + ended.report.skipped = (runAnswers setup passes start).length ∧
      ended.report.restarts = ended.report.patchCount "CS0246" ∧
      (∀ s : State, (onePass setup s).state.buffer.size ≠ s.buffer.size →
        (onePass setup s).state.report.restarts = s.report.restarts + 1) ∧
      ended.report.passes - 1 ≤ ended.report.patchTotal := by
  intro start ended
  have compiled : ended.report.passes = (compiles ended.trace).length :=
    run_preserves (compiles_onePass standard) passes rfl
  have restarted : ended.report.restarts = ended.report.patchCount "CS0246" :=
    run_preserves (restarts_onePass standard) passes rfl
  have dealt := (run_tallies setup passes start).dealt
  have patched : ended.report.passes ≤ ended.report.patchTotal + 1 :=
    passes_le_of_run passes (Nat.le_refl 0)
  refine ⟨compiled, ?_, restarted, fun s changed => ?_, Nat.sub_le_of_le_add patched⟩
  · rw [dealt]
    exact Nat.zero_add _
  · exact ((passes_onePass setup s).size_or_restarts standard).resolve_left changed

def followed : SourceBuffer where
  lines := ["namespace N \x7b", "a.operator=(b)", "\x7d"]

def followedSetup : Setup where
  compiler := .ofReports (fun _ => {
      declarations := [{ kind := .namespaceBlock, name := "N", startLine := 0, endLine := 2 }] })
    [[{ code := "CS1513", line := 2 }, { code := "CS0246", message := "NativeTypeName" },
        { code := "CS1525", line := 1 }],
      [{ code := "CS1525", line := 5 }, { code := "CS1002", line := 5 }, { code := "CS9999" }]]
  registry := .standard
  file := "Interop.cs"
  attributeDefinitions := [["class A;"]]

theorem run_accounted_followed :
    let start : State := { buffer := followed, report := { file := "Interop.cs" } }
    let ended := (run followedSetup 3 start).state
    ended.report = {
        file := "Interop.cs"
        passes := 2
        patches := [("CS0246", 1), ("CS1525", 1)]
        skipped := 2
        restarts := 1 } ∧
      (compiles ended.trace).length = 2 ∧ (runAnswers followedSetup 3 start).length = 4 ∧
      ended.report.patchCount "CS0246" = 1 ∧
      (onePass followedSetup start).state.report.restarts = 1 := by
  obtain ⟨compiled, dealt, restarted, moved, _⟩ :=
    run_accounted followedSetup rfl followed "Interop.cs" [] 3
  exact ⟨rfl, compiled.symm, dealt.symm, restarted.symm, moved _ (by decide)⟩

end Patching

end BindingRepair
