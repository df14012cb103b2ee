import BindingRepair.Log.Level
import BindingRepair.Log.Value

namespace BindingRepair.Log

structure Record where
  level : Int := info
  logger : String
  message : String
  attached : List (String × Value) := []
  exception : Option String := none

/-- The names under which something can be attached, in the order in which they are written. -/
def attachable : List String := ["pass_no", "diagnostic", "file"]

namespace Record

def attachments (r : Record) : List (String × Value) :=
  attachable.filterMap fun name => (r.attached.lookup name).map (name, ·)

def line (moment : String) (r : Record) : String :=
  (Value.object ([("ts", .text moment), ("level", .text (levelName r.level)),
    ("logger", .text r.logger), ("msg", .text r.message)] ++ r.attachments ++
    (match r.exception with
      | some text => [("exc", .text text)]
      | none => []))).render

end Record

inductive Argument
  | text (s : String)
  | number (n : Int)

def Argument.asText : Argument → String
  | text s => s
  | number n => Text.decimal n

inductive TemplateError
  | badArgument
  | badPlace (c : Char) (position : Nat)
  | openPlace
  deriving DecidableEq, Repr

def TemplateError.message : TemplateError → String
  | badArgument => "arguments do not fit the message"
  | badPlace c position =>
    "unsupported format character " ++ Text.quoted (String.ofList [c]) ++ " (0x" ++
      String.ofList (Text.hex 1 c.toNat) ++ ") at index " ++ Text.decimalNat position
  | openPlace => "incomplete format"

/-- Fills the places of a message: `%s` takes anything, `%d` a number, and `%%` is a percent sign.
Every argument must find its place. -/
def fill (position : Nat) : List Char → List Argument → Except TemplateError (List Char)
  | [], [] => .ok []
  | [], _ :: _ => .error .badArgument
  | ['%'], _ => .error .openPlace
  | '%' :: '%' :: rest, args => (fill (position + 2) rest args).map ('%' :: ·)
  | '%' :: 's' :: rest, arg :: args =>
    (fill (position + 2) rest args).map (arg.asText.toList ++ ·)
  | '%' :: 'd' :: rest, .number n :: args =>
    (fill (position + 2) rest args).map ((Text.decimal n).toList ++ ·)
  | '%' :: 's' :: _, [] => .error .badArgument
  | '%' :: 'd' :: _, _ => .error .badArgument
  | '%' :: c :: _, args =>
    .error (if args.isEmpty then .badArgument else .badPlace c (position + 1))
  | c :: rest, args => (fill (position + 1) rest args).map (c :: ·)

/-- A message with its arguments; without any it stands as it is. -/
def message (template : String) (args : List Argument) : Except TemplateError String :=
  if args.isEmpty then .ok template
  else (fill 0 template.toList args).map String.ofList

/-- The errors of a repair, which are shown with the module that declares them. -/
def qualifiedErrors : List String :=
  ["CodeGenFixError", "SetupError", "OracleError", "HeaderParseError", "ConvergenceError",
    "DiagnosticError", "UnknownDiagnosticError", "ContradictionError"]

/-- An exception in words: its class, and its text if there is one. A missing key is quoted. -/
def exceptionText (name text : String) : String :=
  let shown := if qualifiedErrors.contains name then "codegenfix.core.errors." ++ name else name
  let text := if name = "KeyError" then Text.quoted text else text
  if text = "" then shown else shown ++ ": " ++ text

end BindingRepair.Log
