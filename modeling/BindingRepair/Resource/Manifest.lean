import BindingRepair.FileTree
import BindingRepair.Settings
import BindingRepair.StructLayout

namespace BindingRepair

structure Manifest where
  attributeTemplates : List String :=
    ["NativeTypeNameAttribute.cx", "NativeInheritanceAttribute.cx"]
  structTemplates : OrderedMap String := .ofList [("ProcessInfo", "ProcessInfo.cx")]
  header : String := "memflow.h"

namespace Manifest

def ofSettings (settings : Settings) : Manifest where
  structTemplates := Settings.structTemplates settings.normalizedStructs
  header := settings.headerFile

def templateFiles (m : Manifest) : List String :=
  m.attributeTemplates ++ m.structTemplates.values

def requiredFiles (m : Manifest) : List String :=
  m.templateFiles ++ [m.header]

end Manifest

structure TemplateSet where
  attributeDefinitions : List (List String)
  structLayouts : StructLayouts
  header : PathName

inductive ResourceError
  | missing (directory : PathName) (names : List String)
  | notFound (path : PathName)
  | undecodable (error : Text.OctetError)
  deriving DecidableEq, Repr

def ResourceError.message : ResourceError → String
  | missing directory names =>
    "Missing template resources in " ++ directory.text ++ ": " ++ ", ".intercalate names
  | notFound path => "Template resource not found: " ++ path.text
  | undecodable error => error.message

structure Resources where
  files : FileTree
  directory : PathName
  manifest : Manifest

namespace Resources

def path (r : Resources) (name : String) : PathName :=
  r.directory.child name

def missing (r : Resources) : List String :=
  r.manifest.requiredFiles.filter fun name => !r.files.isFile (r.path name)

def readTemplate (r : Resources) (name : String) : Except ResourceError (List String) :=
  match r.files.readText? (r.path name) with
  | none => .error (.notFound (r.path name))
  | some (.error e) => .error (.undecodable e)
  | some (.ok text) => .ok (Text.splitLines text)

def load (r : Resources) : Except ResourceError TemplateSet :=
  match r.missing with
  | [] => do
    let attributeDefinitions ← r.manifest.attributeTemplates.mapM r.readTemplate
    let layouts ← r.manifest.structTemplates.entries.mapM fun (name, template) => do
      return (name, ← r.readTemplate template)
    return {
      attributeDefinitions
      structLayouts := .ofList layouts
      header := r.path r.manifest.header }
  | names => .error (.missing r.directory names)

end Resources

end BindingRepair
