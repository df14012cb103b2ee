import BindingRepair.Build.Output
import BindingRepair.Build.Project
import BindingRepair.CommandLine.Run
import BindingRepair.Log.Timestamp
import BindingRepair.Native.Reader
import BindingRepair.Resource.Packaged
import BindingRepair.Source.Reader
import Std.Time.DateTime.Timestamp

/-!
The program. Builds are made by whoever runs it: for each one the program leaves a project in a
directory, and is handed the exit status in one line, then what the build printed, then a line that
holds a dot. If no build is handed over, there is no compiler.
-/

namespace BindingRepair.Program

def package : IO PathName := do
  return (PathName.ofText (toString (← IO.appPath))).parent

def environment : IO (List (String × String)) :=
  Settings.environmentNames.filterMapM fun name => do
    return (← IO.getEnv name).map (name, ·)

def moment : IO String := do
  let nanoseconds := (← Std.Time.Timestamp.now).toNanosecondsSinceUnixEpoch.val
  match Log.timestamp (nanoseconds / 1000) with
  | .ok text => return text
  | .error e => throw (IO.userError e.message)

def withFile (files : FileTree) (path : PathName) : IO FileTree := do
  try
    let octets ← IO.FS.readBinFile path.text
    let passed := (List.range path.parts.length).map fun n => PathName.settle [] (path.parts.take n)
    let files := { files with directories := passed ++ files.directories }
    return files.addFile path.settled octets.toList
  catch _ => return files

partial def withHeader (files : FileTree) (path : PathName) : IO FileTree := do
  if files.isFile path then return files
  let files ← withFile files path
  match files.readText? path with
  | some (.ok text) =>
    let names := Native.Preprocessed.quotedNames text.toList
    names.foldlM (fun files name => withHeader files (path.parent.child name)) files
  | _ => return files

/-- The resources: those of a directory that is set, or else the packaged ones. -/
def resourceFiles (settings : Settings) (isSet : Bool) : IO FileTree := do
  let directory := PathName.ofText settings.resourceDirectory
  if isSet then
    let manifest := Manifest.ofSettings settings
    let withTemplate (files : FileTree) (name : String) : IO FileTree :=
      withFile files (directory.child name)
    let files ← manifest.templateFiles.foldlM withTemplate {}
    withHeader files (directory.child manifest.header)
  else return Packaged.install directory {}

partial def linesToDot (input : IO.FS.Stream) (before : String) : IO String := do
  let line ← input.getLine
  if line.isEmpty || line.trimAscii.copy = "." then return before
  else linesToDot input (before ++ line)

def requestBuild (framework source : String) : IO (Option Build) := do
  let directory ← IO.FS.createTempDir
  IO.FS.writeFile (directory / Build.projectName) (Build.projectText framework)
  IO.FS.writeFile (directory / Build.sourceName) source
  IO.eprintln ("In " ++ toString directory ++ ": " ++ " ".intercalate Build.arguments)
  let input ← IO.getStdin
  let status := (Text.readInt? (← input.getLine)).bind (·.toOption)
  let build ← status.mapM fun exitCode => do
    return { stdout := ← linesToDot input "", exitCode }
  IO.FS.removeDirAll directory
  return build

/-- Runs the command line as far as the builds made so far allow, and asks for the next one. Every
pass takes a build, so that one pass more than there are builds is enough. -/
partial def drive (env : CommandLine.Environment) (arguments : List String) (builds : List Build)
    (next : CompilerFailure) (printed : Nat) : IO CommandLine.Outcome := do
  let compiler := Compiler.ofBuilds Source.parse builds (.error next)
  let outcome := CommandLine.run { env with compiler } (builds.length + 1) arguments
  IO.print (outcome.stdout.drop printed).copy
  (← IO.getStdout).flush
  match outcome.awaited with
  | none => return outcome
  | some source =>
    let printed := outcome.stdout.length
    match ← requestBuild env.settings.framework source with
    | some build => drive env arguments (builds ++ [build]) .pending printed
    | none => drive env arguments builds (.notFound env.settings.compiler) printed

def run (settings : Settings) (files : FileTree) (arguments : List String) : IO UInt32 := do
  let target := CommandLine.target settings arguments
  let files ← target.elim (pure files) (withFile files)
  let env : CommandLine.Environment := {
    settings
    compiler := .absent settings.compiler
    headers := Native.headerReader files
    files
    logLevel := ← IO.getEnv "LOG_LEVEL"
    moment := ← moment }
  let outcome ← drive env arguments [] .pending 0
  IO.eprint outcome.stderr
  match outcome.exit with
  | .error crash =>
    IO.eprintln crash.message
    return 1
  | .ok status =>
    if status = 0 then
      match target.bind fun path => (outcome.files.read? path).map (path, ·) with
      | some (path, octets) => IO.FS.writeBinFile path.text ⟨octets.toArray⟩
      | none => pure ()
    return status.toUInt32

end BindingRepair.Program

open BindingRepair in
def main (arguments : List String) : IO UInt32 := do
  let package ← Program.package
  let environment ← Program.environment
  match Settings.ofEnvironment package environment with
  | .error e =>
    IO.eprintln e.message
    return 1
  | .ok settings =>
    let files ← Program.resourceFiles settings (environment.lookup "RESOURCE_DIR").isSome
    Program.run settings files arguments
