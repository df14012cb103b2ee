import BindingRepair.Source.Directive

/-!
Lexemes of C#. Every character of a source belongs to one lexeme, so that the source can be put
together from them again. A text in which expressions stand is several lexemes: its parts, and those
of the expressions. What a character means depends on what it stands in, the modes, of which the
innermost comes first.
-/

namespace BindingRepair.Source

inductive LexemeKind
  | blank
  | comment
  | directive
  | condition
  | lineEnd
  | word
  | integer
  | real
  | character
  | string
  | textStart
  | textPart
  | textEnd
  | holeStart
  | format
  | holeEnd
  | symbol
  | unknown
  | lost
  deriving DecidableEq, Repr, Inhabited

structure Lexeme where
  kind : LexemeKind
  text : List Char
  deriving DecidableEq, Repr

inductive Mode
  | condition
  | text (form : TextForm)
  /-- An expression in a text, with brackets that are open and with choices of which the second case
  is to come. -/
  | hole (form : TextForm) (brackets choices : Nat)
  | format
  | lost
  deriving DecidableEq, Repr

def isSpace (c : Char) : Bool :=
  c = ' ' || ('\t' ≤ c && c ≤ '\r') || c = '\u00a0' || c = '\u3000' || c = '\ufeff'

/-- The symbols of more than one character, the longest first. A greater-than sign is always a
symbol of its own. -/
def longSymbols : List (List Char) :=
  ["??=", "<<=", "??", "=>", "==", "!=", "<=", "<<", "++", "+=", "--", "-=", "->", "*=", "/=", "%=",
    "&&", "&=", "||", "|=", "^=", "::", ".."].map String.toList

def shortSymbols : List Char :=
  "()[]<>.,:;+-*/%&|^!~=?".toList ++ ['{', '}']

/-- How many characters the symbol at the start of a text takes. Zero is none. -/
def symbolLength (s : List Char) : Nat :=
  match longSymbols.find? fun symbol => symbol.isPrefixOf s with
  | some symbol => symbol.length
  | none => if s.head?.any shortSymbols.contains then 1 else 0

/-- The words that follow the number sign of a line that opens, parts or closes a condition. -/
def conditionWords : List (List Char) :=
  ["if", "elif", "else", "endif"].map String.toList

def takesCondition (word : List Char) : Bool :=
  word = "if".toList || word = "elif".toList

def directiveStep (modes : List Mode) (rest : List Char) : LexemeKind × Nat × List Mode :=
  let blanks := (rest.takeWhile fun c => c = ' ' || c = '\t').length
  let line := rest.drop blanks
  match conditionWords.find? fun word => word.isPrefixOf line with
  | some word =>
    (.condition, 1 + blanks + word.length, if takesCondition word then .condition :: modes else modes)
  | none =>
    let length := (line.takeWhile (· ≠ '\n')).length
    if length < line.length && isDirective (line.take length) then
      (.directive, 2 + blanks + length, modes)
    else (.unknown, 1 + blanks + length, modes)

/-- The modes behind a symbol, which counts inside an expression in a text: a colon that parts no
choice ends the expression. -/
def modesAfter (modes : List Mode) (symbol rest : List Char) : List Mode :=
  match modes with
  | .hole form brackets choices :: outer =>
    if symbol = ['('] || symbol = ['['] || symbol = ['{'] then
      .hole form (brackets + 1) choices :: outer
    else if symbol = [')'] || symbol = [']'] || symbol = ['}'] then
      .hole form (brackets - 1) choices :: outer
    else if 0 < brackets then modes
    else if symbol = ['?'] && rest.head?.all fun c => c ≠ '.' && c ≠ '[' then
      .hole form 0 (choices + 1) :: outer
    else if symbol = [':'] then
      if 0 < choices then .hole form 0 (choices - 1) :: outer
      else if rest.head?.all fun c => c = '}' || c = '"' then .lost :: modes
      else .format :: modes
    else modes
  | _ => modes

def codeStep (modes : List Mode) : List Char → LexemeKind × Nat × List Mode
  | [] => (.blank, 0, modes)
  | '/' :: '/' :: rest =>
    (.comment, 2 + (rest.takeWhile fun c => c ≠ '\n' && c ≠ '\r').length, modes)
  | c :: rest =>
    if isSpace c then
      let inLine := modes.head? = some .condition
      if inLine && c = '\n' then (.lineEnd, 1, modes.tail)
      else
        (.blank, 1 + (rest.takeWhile fun d => isSpace d && !(inLine && d = '\n')).length, modes)
    else if c = '#' then directiveStep modes rest
    else
      let s := c :: rest
      match blockComment? s, quoted? s, openText? s with
      | some length, _, _ => (.comment, length, modes)
      | none, some (sound, length), _ => (if sound then .string else .unknown, length, modes)
      | none, none, some (form, length) => (.textStart, length, .text form :: modes)
      | none, none, none =>
        if c = '\'' then
          match character? s with
          | some length => (.character, length, modes)
          | none => (.unknown, 1, modes)
        else
          let word := wordLength s
          let (real, number) := numberLength s
          if 0 < word then (.word, word, modes)
          else if 0 < number then (if real then .real else .integer, number, modes)
          else
            let symbol := symbolLength s
            if symbol = 0 then (.unknown, 1, modes)
            else (.symbol, symbol, modesAfter modes (s.take symbol) (s.drop symbol))

/-- The lexeme at the start of a text in which expressions stand, where `outer` are the modes around
the text. A line break in a text that may not hold one ends it. -/
def textStep (form : TextForm) (outer : List Mode) (s : List Char) :
    LexemeKind × Nat × List Mode :=
  let inside := Mode.text form :: outer
  let length := form.partLength s
  if 0 < length then (.textPart, length, inside)
  else
    match s with
    | '"' :: _ =>
      let quotes := (s.takeWhile (· = '"')).length
      if quotes = form.quotes then (.textEnd, quotes, outer) else (.unknown, quotes, outer)
    | '{' :: _ => (.holeStart, form.dollars, .hole form 0 0 :: inside)
    | '\\' :: _ =>
      match escapeLength s with
      | 0 => (.unknown, 1, inside)
      | length => (.textPart, length, inside)
    | _ => (.unknown, 1, outer)

/-- The kind and the length of the lexeme at the start of a text, and the modes behind it. -/
def step (modes : List Mode) (s : List Char) : LexemeKind × Nat × List Mode :=
  match modes with
  | .lost :: _ => (.lost, s.length, modes)
  | .text form :: outer => textStep form outer s
  | .format :: outer =>
    (.format, (s.takeWhile fun c => c ≠ '}' && c ≠ '"').length, outer)
  | .hole form 0 choices :: outer =>
    if form.closesHole s then (.holeEnd, form.dollars, outer)
    else codeStep (.hole form 0 choices :: outer) s
  | modes => codeStep modes s

/-- The lexemes of a text that starts under some modes, behind lexemes that have been read, the
latest first. -/
def lexemesFrom (modes : List Mode) (done : List Lexeme) (s : List Char) : List Lexeme :=
  match s with
  | [] => done.reverse
  | c :: rest =>
    let (kind, length, modes) := step modes (c :: rest)
    lexemesFrom modes ({ kind, text := c :: rest.take (length - 1) } :: done)
      (rest.drop (length - 1))
termination_by s.length
decreasing_by
  simp only [List.length_drop, List.length_cons]
  omega

/-- The lexemes of a source. A first line that names an interpreter is a comment. -/
def lexemes (s : List Char) : List Lexeme :=
  match s with
  | '#' :: '!' :: rest =>
    let line := '#' :: '!' :: rest.takeWhile (· ≠ '\n')
    lexemesFrom [] [{ kind := .comment, text := line }] (rest.dropWhile (· ≠ '\n'))
  | s => lexemesFrom [] [] s

theorem flatMap_text_lexemesFrom (modes : List Mode) (done : List Lexeme) (s : List Char) :
    (lexemesFrom modes done s).flatMap (·.text) = done.reverse.flatMap (·.text) ++ s := by
  fun_induction lexemesFrom modes done s with
  | case1 modes done => simp
  | case2 modes done c rest kind length after step induction =>
    rw [induction]
    simp

theorem flatMap_text_lexemes (s : List Char) : (lexemes s).flatMap (·.text) = s := by
  unfold lexemes
  split
  · simp [flatMap_text_lexemesFrom]
  · simp [flatMap_text_lexemesFrom]

end BindingRepair.Source
