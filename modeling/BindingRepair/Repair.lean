import BindingRepair.Documentation
import BindingRepair.Native.HeaderUnit
import BindingRepair.Patching
import BindingRepair.Resource.Manifest

/-!
Repairing a source: its errors are patched, structs get their layouts, the result is compiled once
more, and declarations get the documentation of the native header. A file is written only when all
of this has succeeded.
-/

namespace BindingRepair

inductive RepairError
  | targetMissing (path : PathName)
  | targetUndecodable (error : Text.OctetError)
  | resource (error : ResourceError)
  | patch (error : PatchError)
  | compiler (failure : CompilerFailure)
  | header (error : HeaderError)
  | stray (target : StrayTarget)
  deriving DecidableEq, Repr

namespace RepairError

def message : RepairError → String
  | targetMissing path => "Generated interop file not found: " ++ path.text
  | targetUndecodable error => error.message
  | resource error => error.message
  | patch error => error.message
  | compiler failure => failure.message
  | header error => error.message
  | stray target => target.message

/-- Whether the error is one that a user is told of. The others are faults of the repair itself,
octets that are no text, or numbers that are too long. -/
def isReported : RepairError → Bool
  | targetUndecodable _ => false
  | resource (.undecodable _) => false
  | patch (.compiler failure) => failure.isReported
  | compiler failure => failure.isReported
  | stray _ => false
  | _ => true

end RepairError

/-- What a repair works with. -/
structure RepairSetup where
  compiler : Compiler
  registry : RuleRegistry
  resources : Resources
  headers : HeaderReader
  container : String

/-- How a repair ends: with a text or an error, if it ends within the passes that it may take. -/
structure RepairOutcome where
  result : Option (Except RepairError String)
  report : RunReport
  trace : List Event

namespace RepairOutcome

def ofState (result : Option (Except RepairError String)) (s : Patching.State) :
    RepairOutcome where
  result
  report := s.report
  trace := s.trace

def failure (error : RepairError) (s : Patching.State) : RepairOutcome :=
  ofState (some (.error error)) s

def awaited? (outcome : RepairOutcome) : Option String :=
  match outcome.result with
  | some (.error (.patch (.compiler .pending))) | some (.error (.compiler .pending)) =>
    (outcome.trace.filterMap Event.compiledText?).getLast?
  | _ => none

end RepairOutcome

namespace RepairSetup

def document (setup : RepairSetup) (header : PathName) (tree : SyntaxTree)
    (s : Patching.State) : RepairOutcome :=
  let s := s.note (.progress "Adding native documentation...")
  let (answer, events) := setup.headers.read header
  let s := { s with trace := s.trace ++ events }
  match answer with
  | .error e => .failure (.header e) s
  | .ok natives =>
    let (result, d) := Documentation.run setup.container tree natives s.buffer
    let s := { s with buffer := d.buffer, trace := s.trace ++ d.trace }
    match result with
    | .error e => .failure (.stray e) s
    | .ok () =>
      let report := { s.report with commentsInserted := d.inserted }
      let s := { s with report, trace := s.trace ++ [.completed report.file, .reported report] }
      .ofState (some (.ok s.buffer.fileText)) s

def complete (setup : RepairSetup) (templates : TemplateSet) (tree : SyntaxTree)
    (s : Patching.State) : RepairOutcome :=
  let laid := templates.structLayouts.apply tree s.buffer
  let s := {
    s with
    buffer := laid.buffer
    report := { s.report with structsNormalized := laid.names }
    trace := s.trace ++ Event.progress "Replacing explicit struct layouts..." :: laid.trace }
  match s.compile setup.compiler with
  | (.error failure, s) => .failure (.compiler failure) s
  | (.ok result, s) => setup.document templates.header result.tree s

def start (file source : String) : Patching.State where
  buffer := .ofText source
  report := { file }

def patching (setup : RepairSetup) (file : String) (templates : TemplateSet) : Patching.Setup where
  compiler := setup.compiler
  registry := setup.registry
  file
  attributeDefinitions := templates.attributeDefinitions

/-- Repairs a source that is called `file`, in at most so many passes. -/
def repair (setup : RepairSetup) (passes : Nat) (file source : String) : RepairOutcome :=
  let s := start file source
  match setup.resources.load with
  | .error e => .failure (.resource e) s
  | .ok templates =>
    let s := s.note (.progress "Fixing compile errors...")
    let patched := Patching.run (setup.patching file templates) passes s
    match patched.result with
    | none => .ofState none patched.state
    | some (.error e) => .failure (.patch e) patched.state
    | some (.ok result) => setup.complete templates result.tree patched.state

/-- Repairs the file that a path leads to. The second part is the files afterwards. -/
def repairFile (setup : RepairSetup) (passes : Nat) (path : PathName) (files : FileTree) :
    RepairOutcome × FileTree :=
  let nothing := start path.text ""
  match files.readText? path with
  | none => (.failure (.targetMissing path) nothing, files)
  | some text =>
    let trying := Event.progress ("Trying to parse '" ++ path.text ++ "'")
    match text with
    | .error e => (.failure (.targetUndecodable e) (nothing.note trying), files)
    | .ok source =>
      let outcome := setup.repair passes path.text source
      let outcome := { outcome with trace := trying :: outcome.trace }
      match outcome.result with
      | some (.ok text) => (outcome, files.writeText path text)
      | _ => (outcome, files)

end RepairSetup

end BindingRepair
