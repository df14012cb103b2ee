import BindingRepair.Declaration
import BindingRepair.Diagnostic
import BindingRepair.Text.Numeral

/-!
Compilers. A compiler answers a source text with its syntax tree and its diagnostics, or fails. The
answer may depend on every text that was compiled before.
-/

namespace BindingRepair

structure CompileResult where
  tree : SyntaxTree
  diagnostics : List Diagnostic
  success : Bool
  deriving DecidableEq, Repr

def CompileResult.errors (r : CompileResult) : List Diagnostic :=
  r.diagnostics.filter (·.isError)

inductive CompilerFailure
  | notFound (executable : String)
  | crashed (exitCode : Int) (output : String)
  | unreadable (numeral : Text.LongNumeral)
  | pending
  deriving DecidableEq, Repr

def CompilerFailure.message : CompilerFailure → String
  | notFound executable => "Compiler not found: '" ++ executable ++ "' is not on PATH"
  | crashed exitCode output =>
    "dotnet build failed (exit_code=" ++ Text.decimal exitCode ++ ") without diagnostics:\n" ++
      output
  | unreadable numeral => numeral.message
  | pending => "the source has not been built yet"

def CompilerFailure.isReported : CompilerFailure → Bool
  | unreadable _ => false
  | _ => true

structure Compiler where
  answer : (earlier : List String) → (text : String) → Except CompilerFailure CompileResult
  announces : Bool := false

namespace Compiler

/-- A compiler whose diagnostics depend on the text alone. -/
def ofDiagnose (parse : String → SyntaxTree) (diagnose : String → List Diagnostic) : Compiler where
  answer _ text :=
    let diagnostics := diagnose text
    .ok { tree := parse text, diagnostics, success := !diagnostics.any (·.isError) }

/-- A compiler that reports one list of diagnostics after the other, and then nothing. -/
def ofReports (parse : String → SyntaxTree) (reports : List (List Diagnostic)) : Compiler where
  answer earlier text :=
    let diagnostics := (reports[earlier.length]?).getD []
    .ok { tree := parse text, diagnostics, success := !diagnostics.any (·.isError) }

end Compiler

end BindingRepair
