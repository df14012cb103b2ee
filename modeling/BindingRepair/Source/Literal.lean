import BindingRepair.Text.Identifier

namespace BindingRepair.Source

def isHexDigit (c : Char) : Bool :=
  ('0' ≤ c && c ≤ '9') || ('a' ≤ c && c ≤ 'f') || ('A' ≤ c && c ≤ 'F')

def isDecimal (c : Char) : Bool :=
  '0' ≤ c && c ≤ '9'

/-- How many characters of a text continue a word, behind `n` of it. A character of a word can be
written as its number. -/
def wordPartLength (n : Nat) : List Char → Nat
  | '\\' :: 'u' :: a :: b :: c :: d :: rest =>
    if [a, b, c, d].all isHexDigit then wordPartLength (n + 6) rest else n
  | '\\' :: 'U' :: a :: b :: c :: d :: e :: f :: g :: h :: rest =>
    if [a, b, c, d, e, f, g, h].all isHexDigit then wordPartLength (n + 10) rest else n
  | c :: rest => if Text.isIdentifierPart c then wordPartLength (n + 1) rest else n
  | [] => n

/-- How many characters the word at the start of a text takes. Zero is none. -/
def wordLength : List Char → Nat
  | '@' :: rest => if startsWord rest then wordPartLength 1 rest else 0
  | s => if startsWord s then wordPartLength 0 s else 0
where
  startsWord : List Char → Bool
    | '\\' :: rest => 0 < wordPartLength 0 ('\\' :: rest)
    | c :: _ => Text.isIdentifierStart c
    | [] => false

def digitsLength (isDigit : Char → Bool) (s : List Char) : Nat :=
  if s.head?.any isDigit then
    ((s.takeWhile fun c => isDigit c || c = '_').reverse.dropWhile (· = '_')).length
  else 0

def integerSuffixLength (s : List Char) : Nat :=
  match (s.take 2).map Char.toLower with
  | 'u' :: 'l' :: _ => 2
  | 'l' :: 'u' :: _ => 2
  | 'u' :: _ => 1
  | 'l' :: _ => 1
  | _ => 0

def realSuffixLength (s : List Char) : Nat :=
  if s.head?.any ['f', 'F', 'd', 'D', 'm', 'M'].contains then 1 else 0

def exponentLength : List Char → Nat
  | e :: sign :: digit :: rest =>
    if e ≠ 'e' && e ≠ 'E' then 0
    else if (sign = '+' || sign = '-') && isDecimal digit then
      3 + (rest.takeWhile fun c => isDecimal c || c = '_').length
    else if isDecimal sign then
      2 + ((digit :: rest).takeWhile fun c => isDecimal c || c = '_').length
    else 0
  | [e, digit] => if (e = 'e' || e = 'E') && isDecimal digit then 2 else 0
  | _ => 0

/-- How many characters of a real number follow the digits in front of its point. Zero is none, and
then the number is not real. -/
def realTailLength (s : List Char) : Nat :=
  let fraction :=
    match s with
    | '.' :: rest => if digitsLength isDecimal rest = 0 then 0 else 1 + digitsLength isDecimal rest
    | _ => 0
  let exponent := exponentLength (s.drop fraction)
  fraction + exponent + realSuffixLength (s.drop (fraction + exponent))

def basedLength (isDigit : Char → Bool) (s : List Char) : Nat :=
  let digits := ((s.takeWhile fun c => isDigit c || c = '_').reverse.dropWhile (· = '_')).length
  if digits = 0 then 0 else 2 + digits + integerSuffixLength (s.drop digits)

/-- Whether the number at the start of a text is real, and how many characters it takes. Zero is
none. -/
def numberLength (s : List Char) : Bool × Nat :=
  let based :=
    match s with
    | '0' :: x :: rest =>
      if x = 'x' || x = 'X' then basedLength isHexDigit rest
      else if x = 'b' || x = 'B' then basedLength (fun c => c = '0' || c = '1') rest
      else 0
    | _ => 0
  if 0 < based then (false, based)
  else
    let whole := digitsLength isDecimal s
    let tail := realTailLength (s.drop whole)
    if whole = 0 then
      match s with
      | '.' :: _ => (true, tail)
      | _ => (false, 0)
    else if 0 < tail then (true, whole + tail)
    else (false, whole + integerSuffixLength (s.drop whole))

def escapeLength : List Char → Nat
  | '\\' :: 'x' :: rest =>
    let digits := ((rest.take 4).takeWhile isHexDigit).length
    if 2 ≤ digits then 2 + digits else 0
  | '\\' :: 'u' :: rest => if ((rest.take 4).takeWhile isHexDigit).length = 4 then 6 else 0
  | '\\' :: 'U' :: rest => if ((rest.take 8).takeWhile isHexDigit).length = 8 then 10 else 0
  | '\\' :: c :: _ => if "abefnrtv'\"\\?0".toList.contains c then 2 else 0
  | _ => 0

def character? (s : List Char) : Option Nat :=
  match s with
  | '\'' :: '\\' :: rest =>
    let escape := escapeLength ('\\' :: rest)
    if 0 < escape && (s.drop (1 + escape)).head? = some '\'' then some (2 + escape) else none
  | '\'' :: c :: '\'' :: _ => if c = '\'' then none else some 3
  | _ => none

def blockComment? : List Char → Option Nat
  | '/' :: '*' :: rest => go 2 rest
  | _ => none
where
  go (n : Nat) : List Char → Option Nat
    | [] => none
    | '*' :: '/' :: _ => some (n + 2)
    | _ :: rest => go (n + 1) rest

/-- Where a string ends in which a backslash escapes what follows, behind `n` characters of it. -/
def plainEnd? (n : Nat) : List Char → Option Nat
  | [] => none
  | '"' :: _ => some (n + 1)
  | '\n' :: _ => none
  | '\\' :: _ :: rest => plainEnd? (n + 2) rest
  | _ :: rest => plainEnd? (n + 1) rest

def verbatimEnd? (n : Nat) : List Char → Option Nat
  | [] => none
  | '"' :: '"' :: rest => verbatimEnd? (n + 2) rest
  | '"' :: _ => some (n + 1)
  | _ :: rest => verbatimEnd? (n + 1) rest

/-- Where a string ends that ends with as many quotes as open it. `run` counts the quotes just
read. -/
def rawEnd? (quotes n run : Nat) : List Char → Option Nat
  | [] => if run = quotes then some n else none
  | c :: rest =>
    if c = '"' then rawEnd? quotes (n + 1) (run + 1) rest
    else if run = quotes then some n
    else rawEnd? quotes (n + 1) 0 rest

def encodingLength : List Char → Nat
  | 'u' :: '8' :: _ => 2
  | 'U' :: '8' :: _ => 2
  | _ => 0

/-- A string without expressions in it: whether it has its end, and how many characters it takes. One
that may not hold a line break and has no end stops where the line does. -/
def quoted? (s : List Char) : Option (Bool × Nat) :=
  let close (stop : Option Nat) (otherwise : Nat) : Option (Bool × Nat) :=
    match stop with
    | some n => some (true, n + encodingLength (s.drop n))
    | none => some (false, otherwise)
  match s with
  | '"' :: rest =>
    let quotes := 1 + (rest.takeWhile (· = '"')).length
    if 3 ≤ quotes then close (rawEnd? quotes quotes 0 (s.drop quotes)) s.length
    else close (plainEnd? 1 rest) (1 + (rest.takeWhile (· ≠ '\n')).length)
  | '@' :: '"' :: rest => close (verbatimEnd? 2 rest) s.length
  | _ => none

inductive TextStyle
  | plain
  | verbatim
  | raw
  deriving DecidableEq, Repr

structure TextForm where
  style : TextStyle
  dollars : Nat
  quotes : Nat
  deriving DecidableEq, Repr

def openText? (s : List Char) : Option (TextForm × Nat) :=
  let signs := if s.head? = some '@' then 1 else 0
  let dollars := ((s.drop signs).takeWhile (· = '$')).length
  if dollars = 0 then none
  else
    match s.drop (signs + dollars) with
    | '@' :: '"' :: _ =>
      if signs = 0 then some (⟨.verbatim, dollars, 1⟩, dollars + 2) else none
    | '"' :: rest =>
      let quotes := 1 + (rest.takeWhile (· = '"')).length
      if signs = 1 then some (⟨.verbatim, dollars, 1⟩, dollars + 2)
      else if 3 ≤ quotes then some (⟨.raw, dollars, quotes⟩, dollars + quotes)
      else some (⟨.plain, dollars, 1⟩, dollars + 1)
    | _ => none

namespace TextForm

/-- How many characters stand for themselves before an expression, an escape or the end, behind `n` of
them, of which `skip` more are already known to. Braces that are not as many as open an expression
stand for themselves. -/
def partEnd (form : TextForm) (skip n : Nat) : List Char → Nat
  | [] => n
  | c :: rest =>
    if 0 < skip then partEnd form (skip - 1) (n + 1) rest
    else if c = '{' then
      let braces := 1 + (rest.takeWhile (· = '{')).length
      if braces = form.dollars then n
      else partEnd form (min braces form.dollars) (n + 1) rest
    else
      match form.style with
      | .plain =>
        if c = '\\' || c = '\n' || c = '"' then n else partEnd form 0 (n + 1) rest
      | .verbatim =>
        if c ≠ '"' then partEnd form 0 (n + 1) rest
        else if rest.head? = some '"' then partEnd form 1 (n + 1) rest
        else n
      | .raw =>
        let quotes := 1 + (rest.takeWhile (· = '"')).length
        if c ≠ '"' then partEnd form 0 (n + 1) rest
        else if quotes = form.quotes then n
        else partEnd form (quotes - 1) (n + 1) rest

def partLength (form : TextForm) (s : List Char) : Nat :=
  form.partEnd 0 0 s

def closesHole (form : TextForm) (s : List Char) : Bool :=
  form.dollars ≤ (s.takeWhile (· = '}')).length

end TextForm

end BindingRepair.Source
