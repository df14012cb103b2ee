import BindingRepair.Build.Message
import BindingRepair.Compiler

namespace BindingRepair

structure Build where
  stdout : String := ""
  stderr : String := ""
  exitCode : Int := 0
  deriving DecidableEq, Repr

namespace Build

/-- The messages in the output of a build that are about a file of some name. -/
def messagesIn (sourceName output : String) : List BuildMessage :=
  ((Text.lines output.toList).filterMap BuildMessage.ofLine?).filter fun m =>
    m.fileName = sourceName.toList

/-- The diagnostics in the output of a build that are about a file of some name, each once. -/
def diagnosticsIn (sourceName output : String) : Except Text.LongNumeral (List Diagnostic) := do
  let diagnostics ← (messagesIn sourceName output).mapM (·.diagnostic)
  return diagnostics.eraseDups

def sourceName : String := "Interop.cs"

/-- A stream as it is read: every line ends with a line feed. -/
def received (stream : String) : String :=
  String.ofList (Text.normalizeNewlines stream.toList)

def output (b : Build) : String :=
  received b.stdout ++ "\n" ++ received b.stderr

def diagnostics (b : Build) : Except Text.LongNumeral (List Diagnostic) :=
  diagnosticsIn sourceName b.output

/-- How much of the output is shown for a build that fails without an error. -/
def shownLength : Nat := 2000

/-- The end of what a build that fails printed last. -/
def lastWords (b : Build) : String :=
  let shown := if received b.stderr = "" then received b.stdout else received b.stderr
  String.ofList (shown.toList.drop (shown.length - shownLength))

def answer (parse : String → SyntaxTree) (b : Build) (text : String) :
    Except CompilerFailure CompileResult :=
  match b.diagnostics with
  | .error numeral => .error (.unreadable numeral)
  | .ok diagnostics =>
    let errors := diagnostics.filter (·.isError)
    if b.exitCode ≠ 0 ∧ errors = [] then .error (.crashed b.exitCode b.lastWords)
    else .ok {
      tree := parse text
      diagnostics
      success := b.exitCode = 0 && errors.isEmpty }

end Build

namespace Compiler

/-- A compiler whose n-th answer is that of the n-th build. Behind the last build comes `next`. -/
def ofBuilds (parse : String → SyntaxTree) (builds : List Build)
    (next : Except CompilerFailure Build) : Compiler where
  answer earlier text := do
    let build ← ((builds[earlier.length]?).map .ok).getD next
    build.answer parse text
  announces := true

def absent (executable : String) : Compiler where
  answer _ _ := .error (.notFound executable)
  announces := true

end Compiler

end BindingRepair
