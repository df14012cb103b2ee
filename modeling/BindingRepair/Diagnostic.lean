import BindingRepair.Text.Decimal

namespace BindingRepair

inductive Severity
  | error
  | warning
  | info
  | hidden
  | other (label : String)
  deriving DecidableEq, Repr

namespace Severity

def label : Severity → String
  | error => "error"
  | warning => "warning"
  | info => "info"
  | hidden => "hidden"
  | other label => label

def ofLabel (label : String) : Severity :=
  if label = "error" then error
  else if label = "warning" then warning
  else if label = "info" then info
  else if label = "hidden" then hidden
  else other label

end Severity

inductive DiagnosticKind
  | missingType
  | integralTypeExpected
  | invalidExpressionTerm
  | unexpectedToken
  | voidPointerOperation
  | implicitConversion
  | argumentConversion
  | undefinedName
  | unknown
  deriving DecidableEq, Repr

namespace DiagnosticKind

def label : DiagnosticKind → String
  | missingType => "missing_type"
  | integralTypeExpected => "integral_type_expected"
  | invalidExpressionTerm => "invalid_expression_term"
  | unexpectedToken => "unexpected_token"
  | voidPointerOperation => "void_pointer_operation"
  | implicitConversion => "implicit_conversion"
  | argumentConversion => "argument_conversion"
  | undefinedName => "undefined_name"
  | unknown => "unknown"

/-- The kinds that a rule can mend, in the alphabetical order of their labels. -/
def known : List DiagnosticKind :=
  [argumentConversion, implicitConversion, integralTypeExpected, invalidExpressionTerm,
    missingType, undefinedName, unexpectedToken, voidPointerOperation]

theorem mem_known (kind : DiagnosticKind) : kind ∈ known ↔ kind ≠ unknown := by
  cases kind <;> decide

def ofLabel? (label : String) : Option DiagnosticKind :=
  (unknown :: known).find? (·.label = label)

def codes : List (String × DiagnosticKind) :=
  [("CS0246", missingType), ("CS1008", integralTypeExpected), ("CS1525", invalidExpressionTerm),
    ("CS1001", unexpectedToken), ("CS1002", unexpectedToken), ("CS1513", unexpectedToken),
    ("CS0242", voidPointerOperation), ("CS0029", implicitConversion),
    ("CS1503", argumentConversion), ("CS0103", undefinedName)]

def ofCode (code : String) : DiagnosticKind :=
  (codes.lookup code).getD unknown

end DiagnosticKind

structure Diagnostic where
  code : String
  severity : Severity := .error
  message : String := ""
  line : Int := 0
  column : Int := 0
  deriving DecidableEq, Repr

namespace Diagnostic

def kind (d : Diagnostic) : DiagnosticKind :=
  .ofCode d.code

def isError (d : Diagnostic) : Bool :=
  d.severity = .error

def describe (d : Diagnostic) : String :=
  "L" ++ Text.decimal d.line ++ ": (" ++ d.code ++ ") " ++ d.message

end Diagnostic

inductive RefusalReason
  | unhandled
  | unknownCode
  | signatureMissing
  deriving DecidableEq, Repr

def RefusalReason.text : RefusalReason → String
  | unhandled => "unhandled diagnostic"
  | unknownCode => "code contained an unknown error"
  | signatureMissing => "expected signature not found on line"

structure Refusal where
  file : String
  diagnostic : Diagnostic
  reason : RefusalReason
  detail : Option String := none
  deriving DecidableEq, Repr

/-- The refusal in words. An empty detail is left out. -/
def Refusal.message (r : Refusal) : String :=
  let text := r.file ++ ": " ++ r.diagnostic.describe ++ ": " ++ r.reason.text
  match r.detail with
  | none => text
  | some detail => if detail = "" then text else text ++ " (" ++ detail ++ ")"

end BindingRepair
