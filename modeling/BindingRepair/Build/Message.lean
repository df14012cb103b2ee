import BindingRepair.Diagnostic
import BindingRepair.Text.Blank
import BindingRepair.Text.Digit
import BindingRepair.Text.LineBreak
import BindingRepair.Text.Numeral
import BindingRepair.Text.Search

/-!
Messages of a build: one line each, that names a file, a place in it, how severe the matter is, a
code, and what there is to say; the project may follow in square brackets. Places are counted from
one in a message and from zero in a diagnostic.
-/

namespace BindingRepair

/-- What a message reports. The place is as it is written, in digits. -/
structure BuildReport where
  line : List Char
  column : List Char
  severity : Severity
  code : String
  message : String
  deriving DecidableEq, Repr

def BuildReport.diagnostic (r : BuildReport) : Except Text.LongNumeral Diagnostic := do
  let line ← Text.readDigits r.line
  let column ← Text.readDigits r.column
  return {
    code := r.code
    severity := r.severity
    message := r.message
    line := (line : Int) - 1
    column := (column : Int) - 1 }

structure BuildMessage extends BuildReport where
  path : List Char
  deriving DecidableEq, Repr

namespace BuildMessage

open Text

def digits? (s : List Char) : Option (List Char × List Char) :=
  match s.span isDigit with
  | ([], _) => none
  | (digits, rest) => some (digits, rest)

def nextDigits? (s : List Char) : Option (List Char × List Char) :=
  (after? [','] s).bind digits?

/-- Two numbers, each behind a comma: where the place ends. -/
def placeEnd? (s : List Char) : Option (List Char) := do
  let (_, s) ← nextDigits? s
  let (_, s) ← nextDigits? s
  return s

/-- A line and a column, or two of each, up to the closing parenthesis. -/
def place? (s : List Char) : Option ((List Char × List Char) × List Char) := do
  let (line, s) ← digits? s
  let (column, s) ← nextDigits? s
  let s ← after? [')'] ((placeEnd? s).getD s)
  return ((line, column), s)

def colon? (s : List Char) : Option (List Char) :=
  (after? [':'] (trimStart s)).map trimStart

def severities : List Severity := [.error, .warning, .info]

def severity? (s : List Char) : Option (Severity × List Char) :=
  severities.findSome? fun severity => (after? severity.label.toList s).map (severity, ·)

def gap? (s : List Char) : Option (List Char) :=
  match s with
  | c :: rest => if isBlank c then some (trimStart rest) else none
  | [] => none

def isCapital (c : Char) : Bool :=
  'A' ≤ c && c ≤ 'Z'

/-- A code: capital letters, and then digits. -/
def code? (s : List Char) : Option (List Char × List Char) :=
  match s.span isCapital with
  | ([], _) => none
  | (letters, rest) => (digits? rest).map fun (digits, rest) => (letters ++ digits, rest)

/-- Whether a text names a project: in square brackets, behind white space, and with nothing but
white space after it. -/
def isProject (s : List Char) : Bool :=
  match gap? s with
  | some ('[' :: name) =>
    match name.dropWhile (· ≠ ']') with
    | _ :: rest => rest.all isBlank
    | [] => false
  | _ => false

/-- What there is to say, without the project and the white space at the end. -/
def say : List Char → List Char
  | [] => []
  | c :: rest =>
    if (c :: rest).all isBlank || isProject (c :: rest) then [] else c :: say rest

/-- What a message says about a file, behind the parenthesis that opens the place. -/
def report? (s : List Char) : Option BuildReport := do
  let ((line, column), s) ← place? s
  let s ← colon? s
  let (severity, s) ← severity? s
  let s ← gap? s
  let (code, s) ← code? s
  let s ← colon? s
  return { line, column, severity, code := String.ofList code, message := String.ofList (say s) }

/-- Reads a message: the path is as short as it can be, but not empty. -/
def split? : List Char → Option BuildMessage
  | [] => none
  | c :: rest =>
    match (after? ['('] rest).bind report? with
    | some report => some { report with path := [c] }
    | none => (split? rest).map fun m => { m with path := c :: m.path }

/-- Reads a line of the output. White space around it counts for nothing. -/
def ofLine? (line : List Char) : Option BuildMessage :=
  split? (trim line)

/-- The name of the file, without the directories it is in. Both slashes separate, and a component
that is a dot counts for nothing. -/
def fileName (m : BuildMessage) : List Char :=
  let separated := m.path.map fun c => if c = '\\' then '/' else c
  (((splitAt '/' separated).filter fun part => part ≠ [] && part ≠ ['.']).getLast?).getD []

end BuildMessage

end BindingRepair
