import BindingRepair.Native.Expansion
import BindingRepair.Native.Feature
import BindingRepair.Native.Keyword

namespace BindingRepair.Native

structure Inquiry where
  names : List String
  line : Nat → Int
  path : String
  basePath : String
  level : Nat
  isCondition : Bool
  macros : MacroTable
  hasHeader : String → Bool

namespace Inquiry

def told : List String :=
  ["__LINE__", "__FILE__", "__FILE_NAME__", "__BASE_FILE__", "__DATE__", "__TIME__",
    "__TIMESTAMP__", "__COUNTER__", "__INCLUDE_LEVEL__", "__FLT_EVAL_METHOD__"]

def headerQuestions : List String :=
  ["__has_include", "__has_include_next"]

def allNames : List String :=
  told ++ headerQuestions ++ ["__has_warning", "__is_identifier"] ++ Feature.questions

def warnings : List String :=
  Builtin.words [
    "all extra everything pedantic error unused unused-variable unused-function unused-parameter",
    "unused-value unused-result unused-macros unused-label shadow sign-compare sign-conversion",
    "conversion format format-security format-nonliteral deprecated deprecated-declarations",
    "missing-field-initializers missing-prototypes missing-declarations strict-prototypes",
    "cast-align cast-qual undef uninitialized implicit-function-declaration implicit-int",
    "implicit-fallthrough switch switch-enum switch-default parentheses return-type padded packed",
    "documentation visibility nullability-completeness attributes unknown-attributes",
    "unknown-pragmas unknown-warning-option ignored-attributes gnu vla float-equal double-promotion",
    "pointer-arith comment trigraphs main reserved-id-macro reserved-identifier macro-redefined"]

def numberToken (t : Token) (n : Int) : Token :=
  { t with kind := .number, text := toString n, written := none, isExpanded := true }

def stringToken (t : Token) (s : String) : Token :=
  let text := s.toList.flatMap fun c => if c = '"' || c = '\\' then ['\\', c] else [c]
  { t with
    kind := .string
    text := String.ofList ('"' :: text ++ ['"'])
    written := none
    isExpanded := true }

/-- The tokens in parentheses at the start of what waits, and what is left behind them. -/
def inParentheses? (contexts : List Context) : Option (List Token × List Context) := do
  let (opener, rest) ← Context.next? contexts
  if !opener.isSymbol "(" then none
  else
    let (before, rest) ← collect 1000000 0 [] rest
    return (before.reverse, rest)
where
  collect : Nat → Nat → List Token → List Context → Option (List Token × List Context)
    | 0, _, _, _ => none
    | steps + 1, depth, before, contexts => do
      let (t, rest) ← Context.next? contexts
      if t.isSymbol ")" then
        if depth = 0 then return (before, rest) else collect steps (depth - 1) (t :: before) rest
      else collect steps (if t.isSymbol "(" then depth + 1 else depth) (t :: before) rest

/-- The name of a header that some tokens give, and whether it is one of the system. A name may
stand for it. -/
def headerName? (macros : MacroTable) : Nat → List Token → Option (Bool × String)
  | 0, _ => none
  | steps + 1, tokens =>
    match tokens with
    | [t] =>
      if t.kind = .string && t.text.startsWith "\"" then
        some (false, String.ofList ((t.text.toList.drop 1).dropLast))
      else if t.isWord then
        match macros[t.text]? with
        | some { parameters := none, body, .. } => headerName? macros steps body
        | _ => none
      else none
    | opener :: rest =>
      if opener.isSymbol "<" && rest.getLast?.any (·.isSymbol ">") then
        some (true, String.join (rest.dropLast.map (·.text)))
      else none
    | [] => none

def scopedName? : List Token → Option (Option String × String)
  | [t] => if t.isWord then some (none, t.text) else none
  | [scope, a, b, t] =>
    if scope.isWord && a.isSymbol ":" && b.isSymbol ":" && t.isWord then
      some (some scope.text, t.text)
    else none
  | _ => none

def answer? (q : Inquiry) (question : String) (inside : List Token) : Option Nat :=
  if headerQuestions.contains question then
    if !q.isCondition then none
    else
      (headerName? q.macros 100 inside).filter (·.2 ≠ "") |>.map fun (isSystem, name) =>
        Feature.ofBool (!isSystem && q.hasHeader name)
  else if question = "__has_warning" then
    match inside with
    | [t] =>
      if t.kind = .string then
        let text := String.ofList ((t.text.toList.drop 1).dropLast)
        some (Feature.ofBool (warnings.any fun name => text = "-W" ++ name))
      else none
    | _ => none
  else if question = "__is_identifier" then
    match inside with
    | [t] => if t.isWord then some (Feature.ofBool !(Keyword.isKeyword t.text)) else none
    | _ => none
  else (scopedName? inside).bind fun (scope, name) => Feature.answer? question scope name

/-- What a macro that tells something stands for, and the number of tokens that were counted. -/
def tell (q : Inquiry) (counter : Nat) (t : Token) : Token × Nat :=
  match t.text with
  | "__LINE__" => (numberToken t (q.line t.place.row), counter)
  | "__COUNTER__" => (numberToken t counter, counter + 1)
  | "__INCLUDE_LEVEL__" => (numberToken t q.level, counter)
  | "__FLT_EVAL_METHOD__" => (numberToken t 0, counter)
  | "__FILE__" => (stringToken t q.path, counter)
  | "__FILE_NAME__" => (stringToken t (PathName.ofText q.path).name, counter)
  | "__BASE_FILE__" => (stringToken t q.basePath, counter)
  | "__DATE__" => (stringToken t "Jan  1 1970", counter)
  | "__TIME__" => (stringToken t "00:00:00", counter)
  | _ => (stringToken t "Thu Jan  1 00:00:00 1970", counter)

/-- What a macro that is no text stands for, what is left behind it, and the number of tokens that
were counted. -/
def expand? (q : Inquiry) (counter : Nat) (t : Token) (contexts : List Context) :
    Option (Except HeaderFault (Token × List Context × Nat)) :=
  if !t.text.startsWith "__" || !q.names.contains t.text then none
  else if told.contains t.text then
    let (answer, counter) := q.tell counter t
    some (.ok (answer, contexts, counter))
  else
    match inParentheses? contexts with
    | none => some (.error (t.fault ("missing parentheses after '" ++ t.text ++ "'")))
    | some (inside, rest) =>
      match q.answer? t.text inside with
      | none => some (.error (t.fault ("invalid argument of '" ++ t.text ++ "'")))
      | some n => some (.ok (numberToken t n, rest, counter))

end Inquiry

end BindingRepair.Native
