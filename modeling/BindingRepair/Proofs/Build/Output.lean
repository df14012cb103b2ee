import BindingRepair.Proofs.Build.Message
import BindingRepair.Proofs.Patching.Pass

namespace BindingRepair

/-- Whether an output holds the message of an error in a file of some name. -/
def ReportsError (sourceName output : String) : Prop :=
  ∃ line ∈ Text.lines output.toList, ∃ m, BuildMessage.ofLine? line = some m ∧
    m.fileName = sourceName.toList ∧ m.severity = .error

namespace ReportsError

variable {sourceName : String}

theorem iff_message {output : String} : ReportsError sourceName output ↔
    ∃ m ∈ Build.messagesIn sourceName output, m.severity = .error := by
  simp only [ReportsError, Build.mem_messagesIn]
  constructor
  · rintro ⟨line, member, m, read, file, error⟩
    exact ⟨m, ⟨line, member, read, file⟩, error⟩
  · rintro ⟨m, ⟨line, member, read, file⟩, error⟩
    exact ⟨line, member, m, read, file, error⟩

theorem append_lineFeed_iff {output later : String} :
    ReportsError sourceName (output ++ "\n" ++ later) ↔
      ReportsError sourceName output ∨ ReportsError sourceName later := by
  simp only [iff_message, Build.messagesIn_append_lineFeed, List.mem_append, or_and_right,
    exists_or]

theorem received_iff {stream : String} :
    ReportsError sourceName (Build.received stream) ↔ ReportsError sourceName stream := by
  rw [iff_message, Build.messagesIn_received, ← iff_message]

end ReportsError

namespace Build

variable {b : Build} {diagnostics : List Diagnostic}

theorem severity_of_diagnostic {m : BuildMessage} {d : Diagnostic}
    (read : m.diagnostic = .ok d) : d.severity = m.severity := by
  rw [(BuildReport.diagnostic_eq_ok_iff.mp read).2]

theorem filter_isError_eq_nil_iff (read : b.diagnostics = .ok diagnostics) :
    diagnostics.filter (·.isError) = [] ↔ ¬ ReportsError sourceName b.output := by
  rw [List.filter_eq_nil_iff, ReportsError.iff_message]
  constructor
  · rintro faultless ⟨m, member, error⟩
    obtain ⟨d, reported, said⟩ := exists_diagnostic_of_mem read member
    apply faultless d reported
    exact decide_eq_true ((severity_of_diagnostic said).trans error)
  · intro silent d member error
    obtain ⟨m, reported, said⟩ := (mem_diagnosticsIn read).mp member
    refine silent ⟨m, reported, ?_⟩
    exact (severity_of_diagnostic said).symm.trans (of_decide_eq_true error)

theorem reportsError_output_iff : ReportsError sourceName b.output ↔
    ReportsError sourceName b.stdout ∨ ReportsError sourceName b.stderr := by
  rw [output, ReportsError.append_lineFeed_iff, ReportsError.received_iff,
    ReportsError.received_iff]

variable {parse : String → SyntaxTree} {text : String}

theorem answer_of_unread {e : Text.LongNumeral} (unread : b.diagnostics = .error e) :
    b.answer parse text = .error (.unreadable e) := by
  rw [answer, unread]

theorem answer_of_read (read : b.diagnostics = .ok diagnostics) :
    b.answer parse text =
      if b.exitCode ≠ 0 ∧ diagnostics.filter (·.isError) = [] then
        .error (.crashed b.exitCode b.lastWords)
      else .ok {
        tree := parse text
        diagnostics
        success := b.exitCode = 0 && (diagnostics.filter (·.isError)).isEmpty } := by
  rw [answer, read]

/-- How a build fails to answer: a number in its messages has too many digits, or it failed and has
not said why. -/
inductive Fails (b : Build) : CompilerFailure → Prop
  | unreadable {digits : List Char}
      (long : (numeralsIn sourceName b.output).find? (Text.digitLimit < ·.length) = some digits) :
      Fails b (.unreadable ⟨digits.length⟩)
  | crashed (readable : Readable sourceName b.output) (failed : b.exitCode ≠ 0)
      (silent : ¬ ReportsError sourceName b.output) :
      Fails b (.crashed b.exitCode b.lastWords)

theorem answer_eq_error_iff {failure : CompilerFailure} :
    b.answer parse text = .error failure ↔ b.Fails failure := by
  cases read : b.diagnostics with
  | error e =>
      obtain ⟨digits, long, rfl⟩ := diagnosticsIn_eq_error_iff.mp read
      rw [answer_of_unread read]
      constructor
      · intro failed
        cases failed
        exact .unreadable long
      · intro fails
        cases fails with
        | unreadable first => rw [Option.some.inj (first.symm.trans long)]
        | crashed readable =>
            cases long.symm.trans (find?_numeralsIn_eq_none_iff.mpr readable)
  | ok diagnostics =>
      have readable : Readable sourceName b.output := readable_of_diagnosticsIn read
      have unsaid := filter_isError_eq_nil_iff read
      rw [answer_of_read read]
      constructor
      · intro failed
        split at failed
        · next fruitless =>
            cases failed
            exact .crashed readable fruitless.1 (unsaid.mp fruitless.2)
        · cases failed
      · intro fails
        cases fails with
        | unreadable long => cases long.symm.trans (find?_numeralsIn_eq_none_iff.mpr readable)
        | crashed _ failed silent => rw [if_pos ⟨failed, unsaid.mpr silent⟩]

theorem succeeded_of_answer {result : CompileResult} (answered : b.answer parse text = .ok result)
    (faultless : result.errors = []) :
    b.exitCode = 0 ∧ ¬ ReportsError sourceName b.output ∧ result.success = true := by
  cases read : b.diagnostics with
  | error e => cases (answer_of_unread read).symm.trans answered
  | ok diagnostics =>
      rw [answer_of_read read] at answered
      split at answered
      · cases answered
      · next said =>
          obtain rfl := Except.ok.inj answered
          have silent : diagnostics.filter (·.isError) = [] := faultless
          have exited : b.exitCode = 0 :=
            Decidable.byContradiction fun failed => said ⟨failed, silent⟩
          exact ⟨exited, (filter_isError_eq_nil_iff read).mp silent, by simp [exited, silent]⟩

end Build

namespace Compiler

/-- The n-th build. Behind the last build comes `next`. -/
def buildAt (builds : List Build) (next : Except CompilerFailure Build) (n : Nat) :
    Except CompilerFailure Build :=
  ((builds[n]?).map .ok).getD next

variable {parse : String → SyntaxTree} {builds : List Build}
  {next : Except CompilerFailure Build} {earlier : List String} {text : String}

theorem answer_ofBuilds {build : Build} (built : buildAt builds next earlier.length = .ok build) :
    (ofBuilds parse builds next).answer earlier text = build.answer parse text := by
  rw [buildAt] at built
  simp only [ofBuilds, built, bind, Except.bind]

theorem exists_build_of_answer {result : CompileResult}
    (answered : (ofBuilds parse builds next).answer earlier text = .ok result) :
    ∃ build, buildAt builds next earlier.length = .ok build ∧
      build.answer parse text = .ok result := by
  cases built : buildAt builds next earlier.length with
  | ok build => exact ⟨build, rfl, (answer_ofBuilds built).symm.trans answered⟩
  | error failure =>
      rw [buildAt] at built
      simp only [ofBuilds, built] at answered
      cases answered

/-- A build whose messages can be read has no answer exactly if it fails and does not say why. Where
patching ends without an error, the last build was of the text that is left, and it went well: it
exited with zero, neither stream tells of an error in the source, and the result is a success. -/
theorem no_false_success (parse : String → SyntaxTree) (builds : List Build)
    (next : Except CompilerFailure Build) :
    (∀ (earlier : List String) (text : String) (build : Build),
      buildAt builds next earlier.length = .ok build → ∀ failure,
        ((ofBuilds parse builds next).answer earlier text = .error failure ↔
          build.Fails failure)) ∧
    ∀ (setup : Patching.Setup), setup.compiler = ofBuilds parse builds next →
      ∀ (s : Patching.State) (passes : Nat) (result : CompileResult),
        (Patching.run setup passes s).result = some (.ok result) →
          ∃ earlier build,
            (Patching.run setup passes s).state.earlier =
              (Patching.run setup passes s).state.buffer.text :: earlier ∧
            buildAt builds next earlier.length = .ok build ∧
            build.answer parse (Patching.run setup passes s).state.buffer.text = .ok result ∧
            build.exitCode = 0 ∧
            ¬ ReportsError Build.sourceName build.stdout ∧
            ¬ ReportsError Build.sourceName build.stderr ∧
            result.success = true := by
  constructor
  · intro earlier text build built failure
    rw [answer_ofBuilds built]
    exact Build.answer_eq_error_iff
  · intro setup compiled s passes result ended
    have clean := Patching.clean_of_run ended
    obtain ⟨earlier, latest, answer⟩ := clean.latest
    rw [compiled] at answer
    obtain ⟨build, built, answered⟩ := exists_build_of_answer answer
    obtain ⟨exited, silent, success⟩ := Build.succeeded_of_answer answered clean.faultless
    rw [Build.reportsError_output_iff, not_or] at silent
    exact ⟨earlier, build, latest, built, answered, exited, silent.1, silent.2, success⟩

def enumBuilds : List Build :=
  [{ stderr := "C:\\w\\Interop.cs(1,1): error CS1008: Type expected [a]\r\n", exitCode := 1 },
    { stdout := "Interop.cs(1,1): warning CS8981: Lower case\n" }]

def fullDisk : Build where
  stderr := "No space left"
  exitCode := 1

def enumBuilt : Patching.Setup where
  compiler := ofBuilds (fun _ => {}) enumBuilds (.ok fullDisk)
  registry := .standard
  file := "Interop.cs"
  attributeDefinitions := []

def enumUnbuilt : Patching.State where
  buffer := .ofText "enum E : nuint;\n"
  report := { file := "Interop.cs" }

theorem no_false_success_enum :
    (∃ build, (Patching.run enumBuilt 2 enumUnbuilt).state.earlier =
        ["enum E : uint;", "enum E : nuint;"] ∧
      buildAt enumBuilds (.ok fullDisk) 1 = .ok build ∧ build.exitCode = 0 ∧
      ¬ ReportsError Build.sourceName build.stdout ∧
      ¬ ReportsError Build.sourceName build.stderr) ∧
    enumBuilt.compiler.answer ["", ""] "" = .error (.crashed 1 "No space left") := by
  obtain ⟨failing, succeeding⟩ := no_false_success (fun _ => {}) enumBuilds (.ok fullDisk)
  constructor
  · obtain ⟨earlier, build, latest, built, answered, exited, quiet, silent, success⟩ :=
      succeeding enumBuilt rfl enumUnbuilt 2 { tree := {}, diagnostics := [
        { code := "CS8981", severity := .warning, message := "Lower case" }], success := true }
        (by decide +kernel)
    obtain rfl : earlier = ["enum E : nuint;"] := (List.cons.inj latest).2.symm
    exact ⟨build, latest, built, exited, quiet, silent⟩
  · refine (failing ["", ""] "" fullDisk rfl (.crashed 1 "No space left")).mpr ?_
    have silent : Build.messagesIn Build.sourceName fullDisk.output = [] := by decide +kernel
    refine .crashed ?_ (by decide) ?_
    · simp [Build.Readable, Build.numeralsIn, silent]
    · simp [ReportsError.iff_message, silent]

/-- A build that fails and only warns, about a line whose number has a digit too many. -/
def endlessLine : Build where
  stdout := (Build.typeExpected (10 ^ Text.digitLimit - 1) .warning (by decide)).text
  exitCode := 1

theorem messagesIn_endlessLine : Build.messagesIn Build.sourceName endlessLine.output =
    [(Build.typeExpected (10 ^ Text.digitLimit - 1) .warning (by decide)).written] := by
  have silent : Build.messagesIn Build.sourceName (Build.received "") = [] := rfl
  rw [Build.output, Build.messagesIn_append_lineFeed, Build.messagesIn_received,
    endlessLine, Build.messagesIn_text, silent, List.append_nil]

/-- There are builds that fail without an error in the source, and that cannot be read. -/
theorem not_forall_crashed :
    ¬ ∀ (parse : String → SyntaxTree) (builds : List Build) (next : Except CompilerFailure Build)
      (earlier : List String) (text : String) (build : Build),
      buildAt builds next earlier.length = .ok build →
        ((∃ exitCode output, (ofBuilds parse builds next).answer earlier text =
            .error (.crashed exitCode output)) ↔
          build.exitCode ≠ 0 ∧ ¬ ReportsError Build.sourceName build.output) := by
  intro always
  have silent : ¬ ReportsError Build.sourceName endlessLine.output := by
    rw [ReportsError.iff_message, messagesIn_endlessLine]
    rintro ⟨m, member, error⟩
    obtain rfl := List.mem_singleton.mp member
    cases error
  obtain ⟨exitCode, output, answer⟩ := (always (fun _ => {}) [endlessLine] (.ok endlessLine) [] ""
    endlessLine rfl).mpr ⟨by decide, silent⟩
  rw [answer_ofBuilds rfl, Build.answer_eq_error_iff] at answer
  cases answer with
  | crashed readable =>
      apply Build.not_within_typeExpected (by decide : Severity.warning ∈ BuildMessage.severities)
      rw [← SourceMessage.readable_written_iff]
      intro digits member
      exact readable digits (by simpa [Build.numeralsIn, messagesIn_endlessLine] using member)

end Compiler

end BindingRepair
