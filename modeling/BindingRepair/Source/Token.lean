import BindingRepair.Source.Lexeme

namespace BindingRepair.Source

structure Token where
  kind : LexemeKind
  text : List Char
  lead : List Char := []
  row : Nat := 0
  endRow : Nat := 0
  isJoined : Bool := false
  deriving DecidableEq, Repr, Inhabited

namespace Token

def is (t : Token) (text : String) : Bool :=
  t.text = text.toList

def isWord (t : Token) : Bool :=
  t.kind = .word

/-- Whether a token is the head of a line with a condition, of which `word` is the word. -/
def isCondition (t : Token) (word : String) : Bool :=
  t.kind = .condition && (t.text.drop 1).dropWhile (fun c => c = ' ' || c = '\t') = word.toList

end Token

def LexemeKind.isGap : LexemeKind → Bool
  | .blank | .comment | .directive => true
  | _ => false

/-- The tokens of some lexemes that start on a row, behind text that separates and behind tokens that
have been read, the latest first. -/
def tokensFrom (row : Nat) (lead : List Char) (done : List Token) : List Lexeme → List Token
  | [] => done.reverse
  | l :: rest =>
    let endRow := row + l.text.count '\n'
    if l.kind.isGap then tokensFrom endRow (lead ++ l.text) done rest
    else
      let joined := rest.head?.any fun next => next.text.head?.any fun c => c = '>' || c = '='
      tokensFrom endRow []
        ({ kind := l.kind, text := l.text, lead, row, endRow, isJoined := joined } :: done) rest

def tokens (source : String) : List Token :=
  tokensFrom 0 [] [] (lexemes source.toList)

def sourceText : List Token → String
  | [] => ""
  | t :: rest => String.ofList (t.text ++ rest.flatMap fun u => u.lead ++ u.text)

end BindingRepair.Source
