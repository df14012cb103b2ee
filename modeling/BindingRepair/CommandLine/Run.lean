import BindingRepair.CommandLine.Arguments
import BindingRepair.Log.OfEvent
import BindingRepair.Repair

namespace BindingRepair.CommandLine

structure Environment where
  settings : Settings
  compiler : Compiler
  headers : HeaderReader
  files : FileTree
  logLevel : Option String := none
  moment : String

/-- Why a run breaks off without an exit status. -/
inductive Crash
  | level (error : Log.LevelError)
  | repair (error : RepairError)
  | unfinished
  deriving DecidableEq, Repr

def Crash.message : Crash → String
  | level error => error.message
  | repair error => error.message
  | unfinished => "the repair takes too many passes"

structure Outcome where
  exit : Except Crash Nat
  stdout : String := ""
  stderr : String := ""
  files : FileTree
  awaited : Option String := none

def notice (message : String) : String :=
  "[codegenfix] " ++ message ++ "\n"

def printed (moment : String) (threshold : Int) (e : Event) : String :=
  match e.progress? with
  | some message => notice message
  | none =>
    match e.record? with
    | some record =>
      if Log.isWritten threshold record.level then record.line moment ++ "\n" else ""
    | none => ""

def summary (r : RunReport) : String :=
  Text.decimalNat r.passes ++ " passes, " ++ Text.decimalNat r.patchTotal ++ " patches, " ++
    Text.decimalNat r.structsNormalized.length ++ " structs, " ++
    Text.decimalNat r.commentsInserted ++ " comments"

def resources (env : Environment) : Resources where
  files := env.files
  directory := .ofText env.settings.resourceDirectory
  manifest := .ofSettings env.settings

def repairSetup (env : Environment) : RepairSetup where
  compiler := env.compiler
  registry := .standard
  resources := resources env
  headers := env.headers
  container := env.settings.container

def repair (env : Environment) (passes : Nat) (threshold : Int) (path : PathName) : Outcome :=
  let (outcome, files) := (repairSetup env).repairFile passes path env.files
  let stdout := String.join (outcome.trace.map (printed env.moment threshold))
  match outcome.result with
  | none => { exit := .error .unfinished, stdout, files }
  | some (.ok _) =>
    { exit := .ok 0
      stdout := stdout ++ notice (summary outcome.report) ++ notice "Finished..."
      files }
  | some (.error e) =>
    if e.isReported then
      { exit := .ok 1
        stdout
        stderr := notice ("FAILED: " ++ e.message)
        files
        awaited := outcome.awaited? }
    else { exit := .error (.repair e), stdout, files }

def target (settings : Settings) (arguments : List String) : Option PathName :=
  match wish arguments with
  | .repair path => some (.ofText (path.getD settings.interopFile))
  | _ => none

def run (env : Environment) (passes : Nat) (arguments : List String) : Outcome :=
  match wish arguments with
  | .help => { exit := .ok 0, stdout := helpText, files := env.files }
  | .refused why =>
    { exit := .ok 2
      stderr := usage ++ "codegenfix: error: " ++ why ++ "\n"
      files := env.files }
  | .repair path =>
    match Log.threshold env.logLevel with
    | .error e => { exit := .error (.level e), files := env.files }
    | .ok threshold =>
      repair env passes threshold (.ofText (path.getD env.settings.interopFile))

end BindingRepair.CommandLine
