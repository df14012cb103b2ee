import BindingRepair.Text.Digit
import BindingRepair.Text.Quoted

namespace BindingRepair.CommandLine

inductive Argument
  | operand (text : String)
  | separator
  | help (behind : List Char)
  | unknown (text : String)
  deriving DecidableEq, Repr

/-- Whether a text writes a negative number. It may stand on a line of its own. -/
def isNegativeNumber : List Char → Bool
  | '-' :: rest =>
    let (whole, fraction) := rest.span Text.isDigit
    match fraction with
    | [] | ['\n'] => !whole.isEmpty
    | '.' :: rest =>
      let (digits, ending) := rest.span Text.isDigit
      !digits.isEmpty && (ending = [] || ending = ['\n'])
    | _ => false
  | _ => false

/-- The request for help that an argument makes, if it makes one. The long option may be shortened,
down to its dashes. -/
def helpOf? (text : List Char) : Option Argument :=
  match text with
  | '-' :: '-' :: _ =>
    let (option, behind) := text.span (· ≠ '=')
    if option.isPrefixOf "--help".toList then some (.help behind) else none
  | '-' :: 'h' :: behind => some (.help behind)
  | _ => none

def classify (text : String) : Argument :=
  match text.toList with
  | '-' :: c :: rest =>
    let chars := '-' :: c :: rest
    if text = "--" then .separator
    else
      match helpOf? chars with
      | some help => help
      | none =>
        if isNegativeNumber chars || chars.contains ' ' then .operand text else .unknown text
  | _ => .operand text

def classifyAll : List String → List Argument
  | [] => []
  | text :: rest =>
    match classify text with
    | .separator => .separator :: rest.map .operand
    | argument => argument :: classifyAll rest

inductive Wish
  | repair (path : Option String)
  | help
  | refused (why : String)
  deriving DecidableEq, Repr

def ignored (value : List Char) : Wish :=
  .refused ("argument -h/--help: ignored explicit argument " ++
    Text.quoted (String.ofList value))

/-- What a request for help comes to. It takes no value; a letter behind it is an option of its own,
and help is given whether or not that option is known. -/
def wishOfHelp : List Char → Wish
  | [] => .help
  | '=' :: value => ignored value
  | '-' :: rest => ignored ('-' :: rest)
  | 'h' :: rest => wishOfHelp rest
  | _ :: _ => .help

def Argument.leftText : Argument → String
  | operand text => text
  | separator => "--"
  | unknown text => text
  | help _ => ""

/-- Goes through the arguments. `path` is the operand that was taken, and `taken` says that none can
be taken any more; `left` are the arguments that nothing takes, the latest first. -/
def wishFrom (path : Option String) (taken : Bool) (left : List String) : List Argument → Wish
  | [] =>
    if left.isEmpty then .repair path
    else .refused ("unrecognized arguments: " ++ " ".intercalate left.reverse)
  | .help behind :: _ => wishOfHelp behind
  | .unknown text :: rest => wishFrom path taken (text :: left) rest
  | .operand text :: rest =>
    if taken then wishFrom path true (text :: left) rest
    else
      match rest with
      | .separator :: rest => wishFrom (some text) true left rest
      | rest => wishFrom (some text) true left rest
  | .separator :: rest =>
    if taken then wishFrom path true ("--" :: left) rest
    else
      match rest with
      | .operand text :: rest => wishFrom (some text) true left rest
      | rest => wishFrom path true left rest

def wish (arguments : List String) : Wish :=
  wishFrom none false [] (classifyAll arguments)

def usage : String := "usage: codegenfix [-h] [path]\n"

def helpText : String :=
  usage ++ "\nFix a generated C# interop file\n\npositional arguments:\n" ++
  "  path        interop source to repair in place\n\noptions:\n" ++
  "  -h, --help  show this help message and exit\n"

end BindingRepair.CommandLine
