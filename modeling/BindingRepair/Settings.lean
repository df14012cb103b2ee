import BindingRepair.OrderedMap
import BindingRepair.PathName
import BindingRepair.Text.Numeral
import BindingRepair.Text.Quoted
import BindingRepair.Text.Search

namespace BindingRepair

structure Settings where
  interopFile : String
  resourceDirectory : String
  headerFile : String := "memflow.h"
  normalizedStructs : String := "ProcessInfo=ProcessInfo.cx"
  container : String := "Methods"
  compiler : String := "dotnet"
  framework : String := "net8.0"
  timeout : Int := 600
  deriving DecidableEq, Repr

inductive NumberError
  | noNumeral (text : String)
  | tooLong (numeral : Text.LongNumeral)
  deriving DecidableEq, Repr

/-- The error in words. Of a long text the beginning is shown. -/
def NumberError.message : NumberError → String
  | noNumeral text =>
    "invalid literal for int() with base 10: " ++
      String.ofList ((Text.quoted text).toList.take 200)
  | tooLong numeral => numeral.message

namespace Settings

def ofPackage (package : PathName) : Settings where
  interopFile :=
    (package.parent.join (.ofText "memflow.NET/memflow.NET/memflowInterop.cs")).text
  resourceDirectory := (package.child "source_definitions").text

def environmentNames : List String :=
  ["INTEROP_FILE", "RESOURCE_DIR", "HEADER_FILE", "NORMALIZED_STRUCTS", "AGGREGATE_CONTAINER",
    "DOTNET_EXE", "DOTNET_TARGET_FRAMEWORK", "COMPILE_TIMEOUT_SEC"]

def ofEnvironment (package : PathName) (environment : List (String × String)) :
    Except NumberError Settings :=
  let usual := ofPackage package
  let chosen (name default : String) := (environment.lookup name).getD default
  let settings : Settings := {
    interopFile := chosen "INTEROP_FILE" usual.interopFile
    resourceDirectory := chosen "RESOURCE_DIR" usual.resourceDirectory
    headerFile := chosen "HEADER_FILE" usual.headerFile
    normalizedStructs := chosen "NORMALIZED_STRUCTS" usual.normalizedStructs
    container := chosen "AGGREGATE_CONTAINER" usual.container
    compiler := chosen "DOTNET_EXE" usual.compiler
    framework := chosen "DOTNET_TARGET_FRAMEWORK" usual.framework }
  match environment.lookup "COMPILE_TIMEOUT_SEC" with
  | none => .ok settings
  | some text =>
    match Text.readInt? text with
    | some (.ok timeout) => .ok { settings with timeout }
    | some (.error e) => .error (.tooLong e)
    | none => .error (.noNumeral text)

/-- The name and the template in one item: they stand on either side of the first equals sign. A
template that is not named is named after the struct. -/
def structEntry (item : List Char) : String × String :=
  let (name, template) := (Text.splitFirst? ['='] item).getD (item, [])
  let name := Text.trim name
  match Text.trim template with
  | [] => (String.ofList name, String.ofList (name ++ ".cx".toList))
  | template => (String.ofList name, String.ofList template)

def items (text : String) : List (List Char) :=
  ((Text.splitAt ',' text.toList).map Text.trim).filter (· ≠ [])

def structTemplates (text : String) : OrderedMap String :=
  .ofList ((items text).map structEntry)

end Settings

end BindingRepair
