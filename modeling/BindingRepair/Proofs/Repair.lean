import BindingRepair.Proofs.Patching.Compiles
import BindingRepair.Repair

/-!
What the compiler has said when a repair succeeds. Patching ends with a compile without errors. The
structs are laid out only then, and the compile that follows is made for the positions alone: nobody
asks whether it reports errors.
-/

namespace BindingRepair

instance decidableEqExcept {ε α : Type} [DecidableEq ε] [DecidableEq α] :
    DecidableEq (Except ε α)
  | .ok a, .ok b => decidable_of_iff (a = b) (by simp)
  | .error e, .error f => decidable_of_iff (e = f) (by simp)
  | .ok _, .error _ => isFalse nofun
  | .error _, .ok _ => isFalse nofun

namespace RepairOutcome

variable {s : Patching.State}

@[simp] theorem trace_ofState (result : Option (Except RepairError String)) :
    (ofState result s).trace = s.trace := rfl

@[simp] theorem trace_failure (error : RepairError) : (failure error s).trace = s.trace := rfl

end RepairOutcome

namespace Documentation

theorem State.exists_of_insert? {s after : State} {c : Correlation}
    (inserted : s.insert? c = some after) :
    ∃ now drift, after = {
      buffer := s.buffer.insert now (DocBlock.lines c.level (c.native.fragments.getD []))
      drift
      inserted := s.inserted + 1
      trace := s.trace ++ [.documented c.native.kind c.target.name
        (DocBlock.lines c.level (c.native.fragments.getD [])).length] } := by
  obtain ⟨now, _, found⟩ := Option.bind_eq_some_iff.mp inserted
  obtain ⟨drift, _, made⟩ := Option.bind_eq_some_iff.mp found
  exact ⟨now, drift, (Option.some.inj made).symm⟩

theorem State.insertAll_preserves (property : State → Prop) {cs : List Correlation}
    (preserved : ∀ c ∈ cs, ∀ s after, s.insert? c = some after → property s → property after)
    {s : State} (initial : property s) : property (s.insertAll cs).2 := by
  induction cs generalizing s with
  | nil => exact initial
  | cons c rest induction =>
      obtain ⟨first, later⟩ := List.forall_mem_cons.mp preserved
      rw [insertAll]
      cases inserted : s.insert? c with
      | none => exact initial
      | some next => exact induction later (first s next inserted initial)

theorem run_preserves (property : State → Prop) {container : String} {tree : SyntaxTree}
    {natives : List NativeDeclaration} {b : SourceBuffer}
    (initial : property { State.ofBuffer b with trace := warnings container tree })
    (preserved : ∀ c ∈ Correlation.all container tree natives, ∀ s after,
      s.insert? c = some after → property s → property after)
    (noted : ∀ s, property s →
      property { s with trace := s.trace ++ [.documentedTotal s.inserted] }) :
    property (run container tree natives b).2 := by
  have inserted := State.insertAll_preserves property preserved initial
  rw [run]
  split
  · next s ended =>
      rw [ended] at inserted
      exact noted s inserted
  · next ended =>
      rw [ended] at inserted
      exact inserted

theorem compiles_run (container : String) (tree : SyntaxTree) (natives : List NativeDeclaration)
    (b : SourceBuffer) : compiles (run container tree natives b).2.trace = [] := by
  refine run_preserves (fun s => compiles s.trace = []) ?_ (fun c _ s after inserted silent => ?_)
    fun s silent => ?_
  · unfold warnings
    split <;> rfl
  · obtain ⟨now, drift, rfl⟩ := State.exists_of_insert? inserted
    rw [compiles_append, silent]
    rfl
  · rw [compiles_append, silent]
    rfl

end Documentation

theorem StructLayouts.compiles_apply (layouts : StructLayouts) (tree : SyntaxTree)
    (b : SourceBuffer) : compiles (layouts.apply tree b).trace = [] := by
  simp [apply, compiles]

theorem StructLayouts.apply_of_names_eq_nil {layouts : StructLayouts} {tree : SyntaxTree}
    {b : SourceBuffer} (nothing : (layouts.apply tree b).names = []) :
    (layouts.apply tree b).buffer = b := by
  have none : layouts.spans tree = [] := List.map_eq_nil_iff.mp nothing
  rw [apply, none]
  rfl

theorem Compiler.diagnostics_ofDiagnose {parse : String → SyntaxTree}
    {diagnose : String → List Diagnostic} {earlier : List String} {text : String}
    {result : CompileResult} (answer : (ofDiagnose parse diagnose).answer earlier text = .ok result) :
    result.diagnostics = diagnose text := by
  rw [← Except.ok.inj answer]

namespace RepairSetup

variable {setup : RepairSetup} {natives : List NativeDeclaration} {templates : TemplateSet}
  {tree : SyntaxTree} {s : Patching.State}

theorem document_keeps {header : PathName} (silent : compiles (setup.headers.read header).2 = []) :
    compiles (setup.document header tree s).trace = compiles s.trace ∧
      (setup.document header tree s).report.structsNormalized = s.report.structsNormalized := by
  cases read : setup.headers.read header with
  | mk answer events =>
      rw [read] at silent
      cases answer with
      | error e =>
          simp only [document, read]
          refine ⟨?_, rfl⟩
          simp [silent]
      | ok natives =>
          have noted := Documentation.compiles_run setup.container tree natives s.buffer
          simp only [document, read, Patching.State.buffer_note]
          split
          · refine ⟨?_, rfl⟩
            simp [silent, noted]
          · refine ⟨?_, rfl⟩
            simp [silent, noted]

theorem complete_eq_ok {text : String} (given : setup.headers = .constant (.ok natives))
    (done : (setup.complete templates tree s).result = some (.ok text)) :
    ∃ last,
      setup.compiler.answer s.earlier (templates.structLayouts.apply tree s.buffer).buffer.text =
        .ok last ∧
      compiles (setup.complete templates tree s).trace = compiles s.trace ++
        [((templates.structLayouts.apply tree s.buffer).buffer.text, .ok last)] ∧
      (setup.complete templates tree s).report.structsNormalized =
        (templates.structLayouts.apply tree s.buffer).names := by
  let laid := templates.structLayouts.apply tree s.buffer
  have silent : compiles laid.trace = [] := StructLayouts.compiles_apply _ _ _
  have unheard : compiles (setup.headers.read templates.header).2 = [] := by
    rw [given]
    rfl
  simp only [complete, Patching.State.compile] at done ⊢
  cases answer : setup.compiler.answer s.earlier laid.buffer.text with
  | error failure =>
      simp only [laid, answer] at done
      cases done
  | ok last =>
      simp only [laid, answer] at done ⊢
      refine ⟨last, rfl, ?_, ?_⟩
      · rw [(document_keeps unheard).1]
        simp [laid, silent]
      · rw [(document_keeps unheard).2]
        rfl

def patch (setup : RepairSetup) (templates : TemplateSet) (passes : Nat) (file source : String) :
    Patching.Outcome :=
  Patching.run (setup.patching file templates) passes
    ((start file source).note (.progress "Fixing compile errors..."))

theorem repair_of_loaded {passes : Nat} {file source : String}
    (loaded : setup.resources.load = .ok templates) :
    setup.repair passes file source =
      match (setup.patch templates passes file source).result with
      | none => .ofState none (setup.patch templates passes file source).state
      | some (.error e) => .failure (.patch e) (setup.patch templates passes file source).state
      | some (.ok result) =>
        setup.complete templates result.tree (setup.patch templates passes file source).state := by
  simp only [repair, loaded]
  rfl

theorem repair_eq_complete {passes : Nat} {file source text : String}
    (repaired : (setup.repair passes file source).result = some (.ok text)) :
    ∃ templates clean, setup.resources.load = .ok templates ∧
      (setup.patch templates passes file source).result = some (.ok clean) ∧
      setup.repair passes file source =
        setup.complete templates clean.tree (setup.patch templates passes file source).state := by
  cases loaded : setup.resources.load with
  | error e => simp [repair, loaded, RepairOutcome.failure, RepairOutcome.ofState] at repaired
  | ok templates =>
      rw [repair_of_loaded loaded] at repaired ⊢
      cases ended : (setup.patch templates passes file source).result with
      | none =>
          rw [ended] at repaired
          cases repaired
      | some answered =>
          cases answered with
          | error e =>
              rw [ended] at repaired
              cases repaired
          | ok clean => exact ⟨templates, clean, rfl, ended, rfl⟩

/-- The last two compiles of a repair: that of the patched source, which reports no errors, and that
of the same source with its structs laid out. -/
structure LastCompiles (layouts : StructLayouts) (diagnose : String → List Diagnostic)
    (outcome : RepairOutcome) (patched : SourceBuffer) (clean last : CompileResult) : Prop where
  compiles : ∃ earlier, compiles outcome.trace = earlier ++
    [(patched.text, .ok clean), ((layouts.apply clean.tree patched).buffer.text, .ok last)]
  faultless : clean.errors = []
  diagnosed :
    last.errors = (diagnose (layouts.apply clean.tree patched).buffer.text).filter (·.isError)
  unchanged : (layouts.apply clean.tree patched).buffer.text = patched.text → last.errors = []
  nothingLaid : outcome.report.structsNormalized = [] → last.errors = []

/-- A repair that returns a text has compiled its patched source without errors, and then the same
with its structs laid out. If the diagnostics depend on the text alone, the last compile reports
those of this text, and no errors if no struct was laid out. -/
theorem lastCompiles_of_repair (setup : RepairSetup) (natives : List NativeDeclaration)
    (given : setup.headers = .constant (.ok natives)) (diagnose : String → List Diagnostic)
    (pure : ∀ earlier text result, setup.compiler.answer earlier text = .ok result →
      result.diagnostics = diagnose text)
    (passes : Nat) (file source text : String)
    (repaired : (setup.repair passes file source).result = some (.ok text)) :
    ∃ templates clean last, setup.resources.load = .ok templates ∧
      (setup.patch templates passes file source).result = some (.ok clean) ∧
      LastCompiles templates.structLayouts diagnose (setup.repair passes file source)
        (setup.patch templates passes file source).state.buffer clean last := by
  obtain ⟨templates, clean, loaded, ended, patched⟩ := repair_eq_complete repaired
  let s := (setup.patch templates passes file source).state
  let laid := templates.structLayouts.apply clean.tree s.buffer
  have reached : Patching.Clean (setup.patching file templates) clean s :=
    Patching.clean_of_run ended
  obtain ⟨earlier, answer⟩ := reached.answer
  obtain ⟨before, trace⟩ := reached.trace
  rw [patched] at repaired ⊢
  obtain ⟨last, lastAnswer, compiled, names⟩ := complete_eq_ok given repaired
  have cleanErrors : (diagnose s.buffer.text).filter (·.isError) = [] := by
    rw [← pure _ _ _ answer]
    exact reached.faultless
  have lastErrors : last.errors = (diagnose laid.buffer.text).filter (·.isError) := by
    rw [← pure _ _ _ lastAnswer]
    rfl
  refine ⟨templates, clean, last, loaded, ended, {
    compiles := ⟨BindingRepair.compiles before, ?_⟩
    faultless := reached.faultless
    diagnosed := lastErrors
    unchanged := fun same => ?_
    nothingLaid := fun nothing => ?_ }⟩
  · rw [compiled, trace]
    simp [compiles_cons, Event.compile?, s]
  · rw [lastErrors, same, cleanErrors]
  · rw [names] at nothing
    have untouched : laid.buffer = s.buffer := StructLayouts.apply_of_names_eq_nil nothing
    rw [lastErrors, untouched, cleanErrors]

def integralBase (text : String) : List Diagnostic :=
  if Text.contains text.toList "nuint".toList then [{ code := "CS1008" }] else []

def structTree : SyntaxTree where
  declarations := [{ kind := .structType, name := "S", startLine := 0, endLine := 0 }]

def nativeLayout : RepairSetup where
  compiler := .ofDiagnose (fun _ => structTree) integralBase
  registry := .standard
  resources := {
    files := {
      files := [(["S.cx"], Text.encodeUtf8 "enum E : nuint;"), (["memflow.h"], [])] }
    directory := {}
    manifest := {
      attributeTemplates := []
      structTemplates := .ofList [("S", "S.cx")] } }
  headers := .constant (.ok [])
  container := "Methods"

theorem repair_nativeLayout :
    (nativeLayout.repair 1 "Interop.cs" "struct S;").result = some (.ok "enum E : nuint;") := by
  decide +kernel

theorem lastCompiles_of_repair_nativeLayout :
    (nativeLayout.repair 1 "Interop.cs" "struct S;").result = some (.ok "enum E : nuint;") ∧
      ∃ templates clean last, nativeLayout.resources.load = .ok templates ∧
        (nativeLayout.patch templates 1 "Interop.cs" "struct S;").result = some (.ok clean) ∧
        LastCompiles templates.structLayouts integralBase
          (nativeLayout.repair 1 "Interop.cs" "struct S;")
          (nativeLayout.patch templates 1 "Interop.cs" "struct S;").state.buffer clean last :=
  ⟨repair_nativeLayout, lastCompiles_of_repair nativeLayout [] rfl integralBase
    (fun _ _ _ answer => Compiler.diagnostics_ofDiagnose answer) 1 "Interop.cs" "struct S;"
    "enum E : nuint;" repair_nativeLayout⟩

/-- The last compile may report errors all the same: a layout can bring in what the compiler
rejects, and nobody asks. -/
theorem not_forall_last_faultless :
    ¬ ∀ (setup : RepairSetup) (natives : List NativeDeclaration)
      (diagnose : String → List Diagnostic) (passes : Nat) (file source text : String),
      setup.headers = .constant (.ok natives) →
      (∀ earlier text result, setup.compiler.answer earlier text = .ok result →
        result.diagnostics = diagnose text) →
      (setup.repair passes file source).result = some (.ok text) →
      ∀ compiled last,
        (compiles (setup.repair passes file source).trace).getLast? = some (compiled, .ok last) →
        last.errors = [] := by
  intro claim
  let last : CompileResult := {
    tree := structTree
    diagnostics := [{ code := "CS1008" }]
    success := false }
  have compiled : (compiles (nativeLayout.repair 1 "Interop.cs" "struct S;").trace).getLast? =
      some ("enum E : nuint;", .ok last) := by
    decide +kernel
  have faultless : last.errors = [] :=
    claim nativeLayout [] integralBase 1 "Interop.cs" "struct S;" "enum E : nuint;" rfl
      (fun _ _ _ answer => Compiler.diagnostics_ofDiagnose answer) repair_nativeLayout
      "enum E : nuint;" last compiled
  cases faultless

end RepairSetup

end BindingRepair
