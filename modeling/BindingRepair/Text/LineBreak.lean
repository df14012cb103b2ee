
/-!
Lines of a text. Ten characters end a line, and a carriage return with a line feed after it ends one
line only. A break at the very end of a text starts no further line.
-/

namespace BindingRepair.Text

def isLineBreak (c : Char) : Bool :=
  ['\n', '\r', '\x0b', '\x0c', '\x1c', '\x1d', '\x1e', '\u0085', '\u2028', '\u2029'].contains c

def consFirst {α : Type} (a : α) : List (List α) → List (List α)
  | [] => [[a]]
  | line :: rest => (a :: line) :: rest

@[simp] theorem consFirst_nil {α : Type} (a : α) : consFirst a [] = [[a]] := rfl

@[simp] theorem consFirst_cons {α : Type} (a : α) (line : List α) (rest : List (List α)) :
    consFirst a (line :: rest) = (a :: line) :: rest := rfl

def lines : List Char → List (List Char)
  | [] => []
  | '\r' :: '\n' :: rest => [] :: lines rest
  | c :: rest => if isLineBreak c then [] :: lines rest else consFirst c (lines rest)

@[simp] theorem lines_nil : lines [] = [] := rfl

def splitLines (s : String) : List String :=
  (lines s.toList).map String.ofList

def joinLines (ls : List String) : String :=
  "\n".intercalate ls

/-- The text as it is read from a file: every line feed, carriage return and pair of both becomes
one line feed. -/
def normalizeNewlines : List Char → List Char
  | [] => []
  | '\r' :: '\n' :: rest => '\n' :: normalizeNewlines rest
  | c :: rest => (if c = '\r' then '\n' else c) :: normalizeNewlines rest

/-- The parts of a text between the occurrences of a character. -/
def splitAt (separator : Char) : List Char → List (List Char)
  | [] => [[]]
  | c :: rest =>
    if c = separator then [] :: splitAt separator rest
    else consFirst c (splitAt separator rest)

def splitOnChar (separator : Char) (s : String) : List String :=
  (splitAt separator s.toList).map String.ofList

end BindingRepair.Text
