/-!
Characters of a header as a reader of C sees them: a line that ends with a backslash goes on, and
nine characters can be written with two question marks in front. Each character knows where it
stands in the file.
-/

namespace BindingRepair.Native

def endsLine (c : Char) : Bool :=
  c = '\n' || c = '\r'

def isSpace (c : Char) : Bool :=
  c = ' ' || c = '\t' || c = '\x0b' || c = '\x0c'

structure Character where
  char : Char
  start : Nat
  stop : Nat
  row : Nat
  deriving DecidableEq, Repr

namespace Character

def trigraph? : Char → Option Char
  | '=' => some '#'
  | '/' => some '\\'
  | '\'' => some '^'
  | '(' => some '['
  | ')' => some ']'
  | '!' => some '|'
  | '<' => some '{'
  | '>' => some '}'
  | '-' => some '~'
  | _ => none

def first (c : Char) (rest : List Char) : Char × Nat :=
  match c, rest with
  | '?', '?' :: d :: _ =>
    match trigraph? d with
    | some meant => (meant, 3)
    | none => (c, 1)
  | _, _ => (c, 1)

/-- How many characters join a line to the next one behind a backslash, if they do: white space up
to the end of the line, and that end. -/
def joint? : List Char → Option Nat
  | [] => none
  | '\r' :: '\n' :: _ => some 2
  | '\n' :: '\r' :: _ => some 2
  | c :: rest =>
    if endsLine c then some 1 else if isSpace c then (joint? rest).map (· + 1) else none

def rowBehind (row : Nat) (c : Char) (rest : List Char) : Nat :=
  if c = '\n' || (c = '\r' && rest.head? ≠ some '\n') then row + 1 else row

/-- The characters of a text that starts at an offset on a row; `skip` counts those at its start
that are parts of what has been read. Those read so far are `before`, the latest first. -/
def readFrom (offset row skip : Nat) (before : List Character) : List Char → List Character
  | [] => before.reverse
  | c :: rest =>
    let next := rowBehind row c rest
    match skip with
    | skip + 1 => readFrom (offset + 1) next skip before rest
    | 0 =>
      let (char, length) := first c rest
      let behind := rest.drop (length - 1)
      match if char = '\\' then joint? behind else none with
      | some joint => readFrom (offset + 1) next (length - 1 + joint) before rest
      | none =>
        let read := { char, start := offset, stop := offset + length, row }
        readFrom (offset + 1) next (length - 1) (read :: before) rest

/-- The characters of a header. A byte order mark in front does not count. -/
def ofText (text : List Char) : List Character :=
  match text with
  | '\ufeff' :: rest => readFrom 1 0 0 [] rest
  | text => readFrom 0 0 0 [] text

def text (characters : List Character) : String :=
  String.ofList (characters.map (·.char))

end Character

end BindingRepair.Native
