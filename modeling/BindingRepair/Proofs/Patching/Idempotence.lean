import BindingRepair.Proofs.Patching.Pass

namespace BindingRepair.Patching

variable {setup : Setup} {s : State}

theorem run_settled (standard : setup.registry = .standard)
    (definitions : ∀ definition ∈ setup.attributeDefinitions, ∀ line ∈ definition,
      Text.Unbroken line.toList) (passes : Nat) (settled : s.buffer.Settled) :
    (run setup passes s).state.buffer.Settled := by
  have preserved : ∀ t : State, t.buffer.Settled → (onePass setup t).state.buffer.Settled := by
    intro t initial
    exact (passes_onePass setup t).preserves
      (fun result outcome after mended => mended.settled standard definitions initial) initial
  exact run_preserves preserved passes settled

theorem run_of_faultless {result : CompileResult}
    (answer : setup.compiler.answer s.earlier s.buffer.text = .ok result)
    (faultless : result.errors = []) (more : Nat) :
    run setup (more + 1) s = {
      result := some (.ok result)
      state := (s.recompiled setup.compiler).note (.passClean (s.report.passes + 1)) } := by
  rw [run, onePass_of_faultless answer faultless]

/-- If the compiler answers by the text alone, a run that succeeds on a source whose last line is
ended can be repeated on the file that it leaves: the second run compiles once, the very text that
the first compiled last, it reports one pass in which nothing was patched, skipped or restarted, and
it leaves the same buffer. -/
theorem run_run (setup : Setup) (standard : setup.registry = .standard)
    (definitions : ∀ definition ∈ setup.attributeDefinitions, ∀ line ∈ definition,
      Text.Unbroken line.toList)
    (pure : ∀ earlier text, setup.compiler.answer earlier text = setup.compiler.answer [] text)
    (source : String) (c : Char) (last : source.toList.getLast? = some c)
    (ends : c = '\n' ∨ c = '\r') (report : RunReport) (earlier : List String) (passes : Nat)
    (result : CompileResult)
    (succeeded : (run setup passes { buffer := .ofText source, report, earlier }).result =
      some (.ok result)) :
    let patched := (run setup passes { buffer := .ofText source, report, earlier }).state
    patched.earlier.head? = some patched.buffer.text ∧
      ∀ (more : Nat) (file : String) (since : List String),
        run setup (more + 1)
            { buffer := .ofText patched.buffer.fileText, report := { file }, earlier := since } = {
          result := some (.ok result)
          state := {
            buffer := patched.buffer
            report := { file, passes := 1, patches := [], skipped := 0, restarts := 0 }
            earlier := patched.buffer.text :: since
            trace := [.compiled patched.buffer.text (.ok result) setup.compiler.announces,
              .passClean 1] } } := by
  intro patched
  have clean : Clean setup result patched := clean_of_run succeeded
  have settled : patched.buffer.Settled :=
    run_settled standard definitions passes (SourceBuffer.settled_ofText last ends)
  obtain ⟨before, latest, answer⟩ := clean.latest
  refine ⟨by rw [latest]; rfl, fun more file since => ?_⟩
  have same : setup.compiler.answer since patched.buffer.text = .ok result := by
    rw [pure since, ← pure before, answer]
  rw [settled.ofText_fileText, run_of_faultless same clean.faultless]
  simp [State.recompiled, State.compile, State.note, same]

def enumFaults (text : String) : List Diagnostic :=
  if !Text.contains text.toList "class A;".toList then
    [{ code := "CS0246", message := "NativeTypeName" }]
  else if Text.contains text.toList "nuint".toList then [{ code := "CS1008", line := 5 }]
  else []

def enumTree : SyntaxTree where
  declarations := [{ kind := .namespaceBlock, name := "N", startLine := 0, endLine := 2 }]

def enumSetup : Setup where
  compiler := .ofDiagnose (fun _ => enumTree) enumFaults
  registry := .standard
  file := "Interop.cs"
  attributeDefinitions := [["class A;"]]

def enumSource : String := "namespace N \x7b\r\nenum E : nuint \x7b A \x7d\u2028\x7d\r"

def enumPatched : State :=
  (run enumSetup 3 { buffer := .ofText enumSource, report := { file := "Interop.cs" } }).state

theorem run_run_enum :
    enumPatched.buffer.fileText = "using System;\nusing System.Diagnostics;\nnamespace N \x7b\n" ++
        "class A;\n\nenum E : uint \x7b A \x7d\n\x7d\n" ∧
      enumPatched.earlier.length = 3 ∧
      (run enumSetup 1 {
        buffer := .ofText enumPatched.buffer.fileText
        report := { file := "Interop.cs" } }).state.report = { file := "Interop.cs", passes := 1 } := by
  have succeeded : (run enumSetup 3 {
      buffer := .ofText enumSource, report := { file := "Interop.cs" } }).result =
      some (.ok { tree := enumTree, diagnostics := [], success := true }) := rfl
  obtain ⟨_, again⟩ := run_run enumSetup rfl (by decide) (fun _ _ => rfl) enumSource '\r' rfl
    (.inr rfl) { file := "Interop.cs" } [] 3 _ succeeded
  have once := again 0 "Interop.cs" []
  refine ⟨rfl, rfl, ?_⟩
  rw [enumPatched, once]

end BindingRepair.Patching
