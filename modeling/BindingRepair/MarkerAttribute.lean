import BindingRepair.Rule

/-!
The marker attributes that generated bindings use without defining them. Their definitions go to the
top of the first namespace, and the usings they need behind the last using.
-/

namespace BindingRepair

namespace MarkerAttribute

def className : String := "NativeTypeNameAttribute"

def isMissing (message : String) : Bool :=
  Text.contains message.toList "NativeTypeName".toList

def requiredUsings : List String := ["using System;", "using System.Diagnostics;"]

def missingUsings (usings : List Declaration) : List String :=
  requiredUsings.filter fun required =>
    !usings.any fun u => required.toList.isPrefixOf u.name.toList

def usingPosition (usings : List Declaration) : Int :=
  match (usings.map (·.endLine)).max? with
  | some last => last + 1
  | none => 0

def bodyPosition (space : Declaration) : Int :=
  space.bodyStartLine.getD space.startLine + 1

def definitionBlock (definitions : List (List String)) : List String :=
  definitions.flatMap (· ++ [""])

/-- The insertions that define the markers. Those into the namespace allow for usings that were put
above it. -/
def insertions (usings : List Declaration) (space : Declaration)
    (definitions : List (List String)) : List PatchAction :=
  let missing := missingUsings usings
  let usingAt := usingPosition usings
  let bodyAt := bodyPosition space
  let shift : Int := if usingAt ≤ bodyAt then missing.length else 0
  (if missing = [] then [] else [.insert usingAt missing]) ++
    [.insert (bodyAt + shift) (definitionBlock definitions)]

end MarkerAttribute

def PatchRule.markerAttribute : PatchRule where
  kind := .missingType
  apply d _ ctx :=
    if !MarkerAttribute.isMissing d.message then .error .notMarkerAttribute
    else if (ctx.tree.find? .classType MarkerAttribute.className).isSome then
      .error .markerAlreadyDefined
    else
      match ctx.tree.ofKind .namespaceBlock with
      | [] => .error .noNamespace
      | space :: _ =>
        .ok {
          actions := MarkerAttribute.insertions (ctx.tree.ofKind .usingDirective) space
            ctx.attributeDefinitions
          restart := true }

end BindingRepair
