import BindingRepair.Native.Character
import BindingRepair.Native.Identifier
import BindingRepair.Native.Token
import BindingRepair.Text.Decimal

namespace BindingRepair.Native

inductive LexemeKind
  | blank
  | lineEnd
  | comment
  | token (kind : TokenKind)
  deriving DecidableEq, Repr

namespace Lexeme

def lineLength (s : List Char) : Nat :=
  (s.takeWhile fun c => !endsLine c).length

/-- How many characters a comment takes behind its opening mark; `read` of them are read. -/
def commentLength (read : Nat) : List Char → Nat
  | [] => read
  | '*' :: '/' :: _ => read + 2
  | _ :: rest => commentLength (read + 1) rest

/-- How many characters a text in quotes takes behind the opening one, if it has its end on the
line. -/
def quotedLength? (quote : Char) (read : Nat) : List Char → Option Nat
  | [] => none
  | [c] => if c = quote then some (read + 1) else none
  | c :: d :: rest =>
    if endsLine c then none
    else if c = quote then some (read + 1)
    else if c = '\\' then if endsLine d then none else quotedLength? quote (read + 2) rest
    else quotedLength? quote (read + 1) (d :: rest)

def hexDigit? (c : Char) : Option Nat :=
  if c.isDigit then some (c.toNat - '0'.toNat)
  else if 'a' ≤ c && c ≤ 'f' then some (c.toNat - 'a'.toNat + 10)
  else if 'A' ≤ c && c ≤ 'F' then some (c.toNat - 'A'.toNat + 10)
  else none

def hexValue? (digits : Nat) (s : List Char) : Option Nat :=
  if s.length < digits then none
  else (s.take digits).foldl (fun value c => do return 16 * (← value) + (← hexDigit? c)) (some 0)

/-- The character that is named by its code point at the start of a text, and the length of that. -/
def namedCharacter? : List Char → Option (Char × Nat)
  | '\\' :: 'u' :: rest => (hexValue? 4 (rest.take 4)).map fun n => (Char.ofNat n, 6)
  | '\\' :: 'U' :: rest => (hexValue? 8 (rest.take 8)).map fun n => (Char.ofNat n, 10)
  | _ => none

/-- A character of a name at the start of a text, and how long it is. A named character must be one
that names may hold. -/
def namePart? : List Char → Option (Char × Nat)
  | [] => none
  | '\\' :: rest => (namedCharacter? ('\\' :: rest)).filter fun (c, _) => !isAscii c && isNamePart c
  | c :: _ =>
    if isNamePart c then some (c, 1)
    else if isAscii c || isWideSpace c then none
    else some (c, 1)

/-- The characters of a name at the start of a text, and how many characters they take; `skip` and
`name` belong to what was read before. -/
def nameFrom (skip read : Nat) (name : List Char) : List Char → List Char × Nat
  | [] => (name.reverse, read)
  | c :: rest =>
    match skip with
    | skip + 1 => nameFrom skip (read + 1) name rest
    | 0 =>
      match namePart? (c :: rest) with
      | none => (name.reverse, read)
      | some (part, length) => nameFrom (length - 1) (read + 1) (part :: name) rest

/-- How many characters a number takes at the start of a text. Signs belong to it behind the mark
of an exponent. -/
def numberLength (skip read : Nat) (before : Char) : List Char → Nat
  | [] => read
  | c :: rest =>
    match skip with
    | skip + 1 => numberLength skip (read + 1) ' ' rest
    | 0 =>
      if (c = '+' || c = '-') && "eEpP".toList.contains before then
        numberLength 0 (read + 1) c rest
      else if c = '.' then numberLength 0 (read + 1) c rest
      else
        match (namePart? (c :: rest)).filter fun _ => c ≠ '$' with
        | none => read
        | some (_, length) => numberLength (length - 1) (read + 1) c rest

def symbols : List (List Char) :=
  ["%:%:", "...", "<<=", ">>=", "->", "++", "--", "<<", ">>", "<=", ">=", "==", "!=", "&&", "||",
    "*=", "/=", "%=", "+=", "-=", "&=", "^=", "|=", "##", "<:", ":>", "<%", "%>", "%:"].map
    String.toList

def symbolCharacters : List Char :=
  "[]().&*+-~!/%<>^|?:;=,#".toList ++ ['{', '}']

/-- A text in quotes behind a mark of so many characters. Without its end it takes the line. -/
def quoted (kind : TokenKind) (quote : Char) (marks : Nat) (s : List Char) : LexemeKind × Nat :=
  let rest := s.drop (marks + 1)
  match quotedLength? quote 0 rest with
  | none => (.token .stray, marks + 1 + lineLength rest)
  | some length =>
    if kind = .character && length = 1 then (.token .stray, marks + 2)
    else (.token kind, marks + 1 + length)

def plain (c : Char) (rest : List Char) : LexemeKind × Nat :=
  let (name, length) := nameFrom 0 0 [] (c :: rest)
  if endsLine c then (.lineEnd, 1)
  else if isSpace c || isWideSpace c || c = '\x00' then (.blank, 1)
  else if c.isDigit then (.token .number, numberLength 0 1 c rest)
  else if c = '.' && rest.head?.any Char.isDigit then (.token .number, numberLength 0 1 c rest)
  else if name.head?.any isNameStart then
    (.token (if name.all isNamePart then .word else .foreign), length)
  else if !isAscii c then (.token .foreign, 1)
  else
    match symbols.find? (·.isPrefixOf (c :: rest)) with
    | some symbol => (.token .symbol, symbol.length)
    | none => (.token (if symbolCharacters.contains c then .symbol else .stray), 1)

def first : List Char → LexemeKind × Nat
  | [] => (.blank, 0)
  | '/' :: '/' :: rest => (.comment, 2 + lineLength rest)
  | '/' :: '*' :: rest => (.comment, commentLength 2 rest)
  | '\'' :: rest => quoted .character '\'' 0 ('\'' :: rest)
  | '"' :: rest => quoted .string '"' 0 ('"' :: rest)
  | 'u' :: '8' :: '"' :: rest => quoted .string '"' 2 ('u' :: '8' :: '"' :: rest)
  | c :: '"' :: rest =>
    if c = 'L' || c = 'u' || c = 'U' then quoted .string '"' 1 (c :: '"' :: rest)
    else plain c ('"' :: rest)
  | c :: '\'' :: rest =>
    if c = 'L' || c = 'u' || c = 'U' then quoted .character '\'' 1 (c :: '\'' :: rest)
    else plain c ('\'' :: rest)
  | c :: rest => plain c rest

def tokenText (kind : TokenKind) (s : List Char) : String :=
  if kind = .word then String.ofList (nameFrom 0 0 [] s).1 else String.ofList s

end Lexeme

inductive Lexeme
  | token (t : Token)
  | comment (start stop row : Nat) (isClosed : Bool)
  deriving DecidableEq, Repr

structure Line where
  row : Nat
  lexemes : List Lexeme
  deriving Repr

namespace Line

/-- How far a file was cut into lines: the lines so far and the lexemes of the present one, the
latest first. -/
structure Cutting where
  lines : List Line := []
  current : List Lexeme := []
  isSpaced : Bool := false

namespace Cutting

def add (file : Nat) (c : Cutting) (kind : LexemeKind) (start : Character)
    (characters : List Character) : Cutting :=
  let stop := (characters.getLast?.map (·.stop)).getD start.stop
  match kind with
  | .blank => { c with isSpaced := true }
  | .lineEnd =>
    { lines := { row := start.row, lexemes := c.current.reverse } :: c.lines, isSpaced := true }
  | .comment =>
    let text := characters.map (·.char)
    let isClosed := text[1]? = some '/' ||
      (4 ≤ text.length && text.reverse.take 2 = ['/', '*'])
    { c with
      current := .comment start.start stop start.row isClosed :: c.current
      isSpaced := true }
  | .token kind =>
    let place : Place := { file, offset := start.start, row := start.row }
    let t : Token := {
      kind
      text := Lexeme.tokenText kind (characters.map (·.char))
      isSpaced := c.isSpaced
      place
      written := some place }
    { c with current := .token t :: c.current, isSpaced := false }

def finish (c : Cutting) (row : Nat) : List Line :=
  (if c.current.isEmpty then c.lines
    else { row, lexemes := c.current.reverse } :: c.lines).reverse

end Cutting

def cut (file : Nat) (c : Cutting) (row : Nat) (text : List Char) (characters : List Character) :
    List Line :=
  match characters with
  | [] => c.finish row
  | start :: rest =>
    let (kind, length) := Lexeme.first text
    let c := c.add file kind start (start :: rest.take (length - 1))
    cut file c start.row (text.drop (length - 1 + 1)) (rest.drop (length - 1))
termination_by characters.length
decreasing_by
  simp only [List.length_drop, List.length_cons]
  omega

def ofText (file : Nat) (text : List Char) : List Line :=
  let characters := Character.ofText text
  cut file {} 0 (characters.map (·.char)) characters

def tokens (l : Line) : List Token :=
  l.lexemes.filterMap fun
    | .token t => some t
    | .comment .. => none

end Line

end BindingRepair.Native
