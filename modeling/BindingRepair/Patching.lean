import BindingRepair.Event
import BindingRepair.RuleRegistry
import BindingRepair.SourceBuffer

/-!
Patching: compile, put each error before its rule, and compile again, until no error is left. A pass
replaces lines in place; an insertion ends it, because every position behind it is stale. A pass
that changes nothing ends the run.
-/

namespace BindingRepair

inductive PatchError
  | compiler (failure : CompilerFailure)
  | refused (refusal : Refusal)
  | noProgress (file : String) (pass errors : Nat) (first : Diagnostic)
  deriving DecidableEq, Repr

def PatchError.message : PatchError → String
  | compiler failure => failure.message
  | refused refusal => refusal.message
  | noProgress file pass errors first =>
    file ++ ": pass " ++ Text.decimalNat pass ++ " changed nothing while " ++
      Text.decimalNat errors ++ " errors remain (first: " ++ first.describe ++ ")"

namespace Patching

/-- What stays the same while a file is patched. -/
structure Setup where
  compiler : Compiler
  registry : RuleRegistry
  file : String
  attributeDefinitions : List (List String)

structure State where
  buffer : SourceBuffer
  report : RunReport
  earlier : List String := []
  trace : List Event := []

namespace State

def note (s : State) (e : Event) : State :=
  { s with trace := s.trace ++ [e] }

def compile (s : State) (compiler : Compiler) :
    Except CompilerFailure CompileResult × State :=
  let text := s.buffer.text
  let answer := compiler.answer s.earlier text
  (answer,
    { s with earlier := text :: s.earlier }.note (.compiled text answer compiler.announces))

def perform (pass : Nat) (d : Diagnostic) (s : State) : PatchAction → State
  | .replace line => { s with buffer := (s.buffer.set? d.line line).getD s.buffer }
  | .insert position lines => { s with buffer := s.buffer.insert position lines }
  | .skip reason => s.note (.skipped pass d reason)

end State

end Patching

def PatchAction.isReplacement : PatchAction → Bool
  | replace _ => true
  | _ => false

def PatchAction.isSkip : PatchAction → Bool
  | skip _ => true
  | _ => false

namespace Patching

/-- Does all that a rule answered, and counts it as a patch if the buffer was touched. -/
def applyOutcome (pass : Nat) (d : Diagnostic) (outcome : PatchOutcome) (s : State) : State :=
  let s := outcome.actions.foldl (State.perform pass d) s
  if outcome.actions.all (·.isSkip) then
    { s with report := { s.report with skipped := s.report.skipped + 1 } }
  else
    { s with report := s.report.countPatch d.code }.note (.patched pass d)

/-- The context after a rule answered: a line it replaced is fixed for the rest of the pass. -/
def afterOutcome (d : Diagnostic) (outcome : PatchOutcome) (ctx : PassContext) : PassContext :=
  if outcome.actions.any (·.isReplacement) then { ctx with fixedLines := d.line :: ctx.fixedLines }
  else ctx

def noteConsulted (registry : RuleRegistry) (d : Diagnostic) (line : String) (ctx : PassContext)
    (s : State) : State :=
  match registry.route d ctx with
  | .consult _ => s.note (.consulted d line ctx)
  | _ => s

def restart (pass : Nat) (d : Diagnostic) (s : State) : State :=
  { s with report := { s.report with restarts := s.report.restarts + 1 } }.note (.restarted pass d)

def mendErrors (registry : RuleRegistry) (pass : Nat) :
    PassContext → List Diagnostic → State → Except Refusal Unit × State
  | _, [], s => (.ok (), s)
  | ctx, d :: rest, s =>
    if 0 ≤ d.line ∧ d.line < s.buffer.size then
      let line := (s.buffer.get? d.line).getD ""
      let s := noteConsulted registry d line ctx s
      match registry.dispatch d line ctx with
      | .error refusal => (.error refusal, s)
      | .ok outcome =>
        let s := applyOutcome pass d outcome s
        if outcome.restart then (.ok (), restart pass d s)
        else mendErrors registry pass (afterOutcome d outcome ctx) rest s
    else (.error (RuleRegistry.contradicted ctx.file d .outsideSource), s)

inductive PassEnd
  | again (s : State)
  | ended (result : Except PatchError CompileResult) (s : State)

def mendPass (setup : Setup) (result : CompileResult) (first : Diagnostic) (s : State) : PassEnd :=
  let pass := s.report.passes
  let errors := result.errors
  let s := s.note (.passFaulty pass errors.length)
  let ctx : PassContext := {
    file := setup.file
    tree := result.tree
    errors
    attributeDefinitions := setup.attributeDefinitions }
  match mendErrors setup.registry pass ctx errors s with
  | (.error refusal, after) => .ended (.error (.refused refusal)) after
  | (.ok (), after) =>
    if after.buffer.lines = s.buffer.lines then
      .ended (.error (.noProgress setup.file pass errors.length first)) after
    else .again after

/-- One pass: a compile, and the mending of its errors. -/
def onePass (setup : Setup) (s : State) : PassEnd :=
  let s := { s with report := { s.report with passes := s.report.passes + 1 } }
  match s.compile setup.compiler with
  | (.error failure, s) => .ended (.error (.compiler failure)) s
  | (.ok result, s) =>
    match result.errors with
    | [] => .ended (.ok result) (s.note (.passClean s.report.passes))
    | first :: _ => mendPass setup result first s

structure Outcome where
  result : Option (Except PatchError CompileResult)
  state : State

/-- Patches a buffer, in at most so many passes. -/
def run (setup : Setup) : Nat → State → Outcome
  | 0, s => { result := none, state := s }
  | passes + 1, s =>
    match onePass setup s with
    | .ended result s => { result := some result, state := s }
    | .again s => run setup passes s

end Patching

end BindingRepair
