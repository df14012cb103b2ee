import BindingRepair.Native.HeaderUnit

namespace BindingRepair.Native

/-- A place in a header that was read: `file` counts the headers in the order in which they were
opened. -/
structure Place where
  file : Nat := 0
  offset : Nat := 0
  row : Nat := 0
  deriving DecidableEq, Repr, Inhabited

inductive TokenKind
  | word
  | number
  | character
  | string
  | symbol
  | stray
  /-- A character outside ASCII where none may stand, or a name with such a character in it. -/
  | foreign
  | pragma
  deriving DecidableEq, Repr, Inhabited

structure Token where
  kind : TokenKind
  text : String
  isSpaced : Bool := false
  place : Place := {}
  written : Option Place := none
  isExpanded : Bool := false
  isFinal : Bool := false
  deriving DecidableEq, Repr, Inhabited

namespace Token

def canonical (symbol : String) : String :=
  match symbol with
  | "<:" => "["
  | ":>" => "]"
  | "<%" => "\x7b"
  | "%>" => "\x7d"
  | "%:" => "#"
  | "%:%:" => "##"
  | symbol => symbol

def isWord (t : Token) : Bool :=
  t.kind = .word

def isSymbol (t : Token) (symbol : String) : Bool :=
  t.kind = .symbol && canonical t.text = symbol

def isNamed (t : Token) (word : String) : Bool :=
  t.kind = .word && t.text = word

end Token

def faultAt (row : Nat) (spelling : String) : HeaderFault where
  severity := 3
  spelling
  line := row + 1

def Token.fault (t : Token) (spelling : String) : HeaderFault :=
  faultAt t.place.row spelling

end BindingRepair.Native
