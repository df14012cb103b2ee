import BindingRepair.Compiler
import BindingRepair.LineEdit

namespace BindingRepair

/-- Why a diagnostic is passed over. -/
inductive SkipReason
  | alreadyPatched
  | followsFrom (code : String) (line : Int)
  | declined (why : String)
  deriving DecidableEq, Repr

def SkipReason.text : SkipReason → String
  | alreadyPatched => "line already patched in this pass"
  | followsFrom code line => "follow-on of " ++ code ++ " on L" ++ Text.decimal line
  | declined why => why

inductive PatchAction
  | replace (line : String)
  | insert (position : Int) (lines : List String)
  | skip (reason : SkipReason)
  deriving DecidableEq, Repr

structure PatchOutcome where
  actions : List PatchAction
  restart : Bool := false
  deriving DecidableEq, Repr

/-- What a rule can see besides the line. -/
structure PassContext where
  file : String
  tree : SyntaxTree
  errors : List Diagnostic
  attributeDefinitions : List (List String)
  fixedLines : List Int := []
  deriving DecidableEq, Repr

/-- How a line, or the source around it, contradicts a diagnostic. -/
inductive Contradiction
  | outsideSource
  | notMarkerAttribute
  | markerAlreadyDefined
  | noNamespace
  | noNativeInteger
  | noOperatorArtifact
  | noRelatedTerm
  | noVtableCast
  | vtableNotParenthesized
  | notBoolReturn
  | noSizeArgument
  | noCallArgument
  | unexpectedTarget (name : String)
  | noBareRealloc
  deriving DecidableEq, Repr

def Contradiction.detail : Contradiction → String
  | outsideSource => "line is outside the source"
  | notMarkerAttribute => "missing type is not the NativeTypeName marker"
  | markerAlreadyDefined => "NativeTypeNameAttribute is already defined"
  | noNamespace => "no namespace to host the attribute definitions"
  | noNativeInteger => "no 'nuint' keyword"
  | noOperatorArtifact => "no '.operator=' artifact"
  | noRelatedTerm => "no invalid expression term reported on a related line"
  | noVtableCast => "no vtable dereference through a void pointer cast"
  | vtableNotParenthesized => "vtable access is not parenthesized"
  | notBoolReturn => "not a 'bool __ret' call assignment"
  | noSizeArgument => "no sizeof() or CopyBlock size argument to cast"
  | noCallArgument => "no call argument to narrow"
  | unexpectedTarget name => "unexpected conversion target '" ++ name ++ "'"
  | noBareRealloc => "no bare 'realloc' call"

structure PatchRule where
  kind : DiagnosticKind
  apply : Diagnostic → String → PassContext → Except Contradiction PatchOutcome

namespace PatchRule

def edited (line : Option (List Char)) (otherwise : Contradiction) :
    Except Contradiction PatchOutcome :=
  match line with
  | some line => .ok { actions := [.replace (String.ofList line)] }
  | none => .error otherwise

def nativeInteger : PatchRule where
  kind := .integralTypeExpected
  apply _ line _ := edited (LineEdit.nativeInteger? line.toList) .noNativeInteger

def operatorCall : PatchRule where
  kind := .invalidExpressionTerm
  apply _ line _ := edited (LineEdit.operatorCall? line.toList) .noOperatorArtifact

/-- The errors that can follow from a diagnostic: invalid terms on its line or a neighbouring one.
-/
def relatedTerms (d : Diagnostic) (errors : List Diagnostic) : List Diagnostic :=
  errors.filter fun e => e.kind = .invalidExpressionTerm && (e.line - d.line).natAbs ≤ 1

/-- An unexpected token is tolerated beside an invalid term, whose rule edits the line. -/
def operatorCompanion : PatchRule where
  kind := .unexpectedToken
  apply d _ ctx :=
    match relatedTerms d ctx.errors with
    | [] => .error .noRelatedTerm
    | term :: _ => .ok { actions := [.skip (.followsFrom term.code term.line)] }

def vtableCast : PatchRule where
  kind := .voidPointerOperation
  apply _ line _ :=
    if LineEdit.hasVtableCast line.toList then
      edited (LineEdit.vtableCast? line.toList) .vtableNotParenthesized
    else .error .noVtableCast

def boolReturn : PatchRule where
  kind := .implicitConversion
  apply _ line _ := edited (LineEdit.boolReturn? line.toList) .notBoolReturn

def argumentCast : PatchRule where
  kind := .argumentConversion
  apply d line _ :=
    let target := String.ofList ((LineEdit.conversionTarget? [] d.message.toList).getD [])
    if target = "uint" then edited (LineEdit.uintArgument? line.toList) .noSizeArgument
    else if target = "byte" then edited (LineEdit.byteArgument? line.toList) .noCallArgument
    else .error (.unexpectedTarget target)

def realloc : PatchRule where
  kind := .undefinedName
  apply d line _ :=
    if Text.contains d.message.toList "'realloc'".toList then
      edited (LineEdit.realloc? line.toList) .noBareRealloc
    else .error .noBareRealloc

end PatchRule

end BindingRepair
