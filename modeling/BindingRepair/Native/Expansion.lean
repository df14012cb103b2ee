import BindingRepair.Native.Lexeme
import BindingRepair.Native.Macro

/-!
The expansion of macros. What a macro stands for is read again, with what follows it, and while it
is read the macro stands for itself. Arguments are expanded on their own before they take the places
of parameters, unless they are quoted or joined to other tokens.
-/

namespace BindingRepair.Native

namespace Token

def behindMacro (t : Token) (place : Place) : Token :=
  { t with place, isExpanded := true }

def escaped (t : Token) : List Char :=
  if t.kind = .string || t.kind = .character then
    t.text.toList.flatMap fun c => if c = '"' || c = '\\' then ['\\', c] else [c]
  else t.text.toList

/-- The characters of some tokens inside a string, with one space wherever there is white space. -/
def quotedText : Bool → List Token → List Char
  | _, [] => []
  | isFirst, t :: tokens =>
    (if t.isSpaced && !isFirst then [' '] else []) ++ t.escaped ++ quotedText false tokens

def quote (place : Place) (isSpaced : Bool) (tokens : List Token) : Token where
  kind := .string
  text := String.ofList ('"' :: quotedText true tokens ++ ['"'])
  isSpaced
  place
  isExpanded := true

def join? (t u : Token) : Option Token :=
  let text := (t.text ++ u.text).toList
  match Lexeme.first text with
  | (.token kind, length) =>
    if length = text.length then
      some { t with
        kind
        text := Lexeme.tokenText kind text
        written := none
        isFinal := false }
    else none
  | _ => none

end Token

inductive Piece
  | token (t : Token)
  | join
  deriving DecidableEq, Repr

namespace Piece

def isJoin : Piece → Bool
  | token _ => false
  | join => true

def isComma : Piece → Bool
  | token t => t.isSymbol ","
  | join => false

def glue (done : List Token) : List Piece → Except HeaderFault (List Token)
  | [] => .ok done.reverse
  | .token t :: .join :: .token u :: rest =>
    match t.join? u with
    | some v => glue done (.token v :: rest)
    | none => .error (t.fault ("pasting formed '" ++ t.text ++ u.text ++ "', an invalid token"))
  | .token t :: rest => glue (t :: done) rest
  | .join :: rest => glue done rest
termination_by pieces => pieces.length

end Piece

structure Argument where
  plain : List Token
  expanded : List Token

namespace Macro

/-- Takes the comma away in front of the arguments that are left, if there are none. It stays if
they are the only ones. -/
def dropComma (m : Macro) (pieces : List Piece) : List Piece :=
  match pieces with
  | comma :: before =>
    if comma.isComma && 2 ≤ (m.parameters.getD []).length then
      if before.head?.any Piece.isJoin then before.tail else before
    else pieces
  | [] => []

def upToCloser (depth : Nat) (before : List Token) : List Token → List Token × List Token
  | [] => (before.reverse, [])
  | t :: tokens =>
    if t.isSymbol "(" then upToCloser (depth + 1) (t :: before) tokens
    else if t.isSymbol ")" then
      match depth with
      | 0 => (before.reverse, tokens)
      | depth + 1 => upToCloser depth (t :: before) tokens
    else upToCloser depth (t :: before) tokens

def chooseOptional (isLeft : Bool) : Nat → List Token → List Token
  | 0, tokens => tokens
  | _, [] => []
  | steps + 1, t :: tokens =>
    if t.isNamed "__VA_OPT__" && tokens.head?.any (·.isSymbol "(") then
      let (inside, after) := upToCloser 0 [] tokens.tail
      (if isLeft then inside else []) ++ chooseOptional isLeft steps after
    else t :: chooseOptional isLeft steps tokens

/-- The pieces of a body with the arguments in the places of parameters, behind the pieces so far,
the latest first; `isJoined` says that the body just read says to join what follows. -/
def substitute (m : Macro) (arguments : List Argument) (place : Place) (isJoined : Bool)
    (pieces : List Piece) : Nat → List Token → List Piece
  | 0, _ => pieces
  | _, [] => pieces
  | steps + 1, t :: tokens =>
    let argument? (u : Token) : Option (Nat × Argument) :=
      (m.parameterIndex? u).bind fun index => (arguments[index]?).map fun a => (index, a)
    let isFunction := m.parameters.isSome
    match if isFunction && t.isSymbol "#" then tokens.head?.bind argument? else none with
    | some (_, a) =>
      substitute m arguments place false (.token (.quote place t.isSpaced a.plain) :: pieces)
        steps tokens.tail
    | none =>
      if t.isSymbol "##" then substitute m arguments place true (.join :: pieces) steps tokens
      else
        match argument? t with
        | none =>
          substitute m arguments place false (.token (t.behindMacro place) :: pieces) steps tokens
        | some (index, a) =>
          let isJoining := tokens.head?.any (·.isSymbol "##")
          let put (given : List Token) (pieces : List Piece) : List Piece :=
            match given with
            | [] => pieces
            | first :: others =>
              let first := { first with isSpaced := t.isSpaced }
              ((first :: others).map fun u => Piece.token (u.behindMacro place)).reverse ++ pieces
          if !isJoined && !isJoining then
            substitute m arguments place false (put a.expanded pieces) steps tokens
          else if !a.plain.isEmpty then
            let afterComma := m.isRest index && pieces.head?.any Piece.isJoin &&
              pieces.tail.head?.any Piece.isComma
            substitute m arguments place false
              (put a.plain (if afterComma then pieces.tail else pieces)) steps tokens
          else if isJoining then
            substitute m arguments place (pieces.head?.any Piece.isJoin) pieces steps tokens.tail
          else
            let pieces := if pieces.head?.any Piece.isJoin then pieces.tail else pieces
            let pieces := if m.isRest index then m.dropComma pieces else pieces
            substitute m arguments place false pieces steps tokens

def replacement (m : Macro) (name : Token) (place : Place) (arguments : List Argument) :
    Except HeaderFault (List Token) := do
  let isLeft := m.isVariadic && (arguments.getLast?.any fun a => !a.expanded.isEmpty)
  let steps := m.body.length + 1
  let body := if m.isVariadic then chooseOptional isLeft steps m.body else m.body
  let pieces := (m.substitute arguments place false [] steps body).reverse
  match ← Piece.glue [] pieces with
  | [] => return []
  | first :: others => return { first with isSpaced := name.isSpaced } :: others

end Macro

/-- Tokens that wait to be read, and the macro that stands for them, if one does. -/
structure Context where
  name : Option String := none
  tokens : List Token

namespace Context

/-- The next token, with what is left behind it. Contexts that are read to their end are left. -/
def next? : List Context → Option (Token × List Context)
  | [] => none
  | { tokens := [], .. } :: rest => next? rest
  | { name, tokens := t :: tokens } :: rest => some (t, { name, tokens } :: rest)

/-- The arguments of a macro with so many parameters, behind the opening parenthesis; the closing
one; and what is left behind that. `depth` counts the parentheses that are open inside; `current` is
the argument so far, and `before` are the arguments before it, the latest first. -/
def arguments? (parameters : Nat) (isVariadic : Bool) : Nat → Nat → List Token →
    List (List Token) → List Context → Option (List (List Token) × Token × List Context)
  | 0, _, _, _, _ => none
  | steps + 1, depth, current, before, contexts =>
    match next? contexts with
    | none => none
    | some (t, contexts) =>
      if depth = 0 && t.isSymbol ")" then
        let arguments := if current.isEmpty && before.isEmpty then [] else current.reverse :: before
        some (arguments.reverse, t, contexts)
      else if depth = 0 && t.isSymbol "," &&
          !(isVariadic && parameters ≤ before.length + 1) then
        arguments? parameters isVariadic steps 0 [] (current.reverse :: before) contexts
      else
        let depth :=
          if t.isSymbol "(" then depth + 1 else if t.isSymbol ")" then depth - 1 else depth
        arguments? parameters isVariadic steps depth (t :: current) before contexts

end Context

/-- How far an expansion got: the tokens that are done, the latest first; those that have to wait
for the rest of a macro's arguments; and how often tokens were counted. -/
structure Expanded where
  done : List Token := []
  left : List Token := []
  counter : Nat := 0

structure Expansion where
  macros : MacroTable
  /-- Answers a macro that is no text: what it stands for, what is left behind it, and the
  counter. -/
  builtin? : Nat → Token → List Context →
    Option (Except HeaderFault (Token × List Context × Nat))
  active : List String := []
  isCondition : Bool := false
  mayGoOn : Bool := false

namespace Expansion

/-- The arguments of a macro, one for each parameter. Those that are left may be missing. -/
def matchArguments (m : Macro) (name : Token) (parameters : List String)
    (given : List (List Token)) : Except HeaderFault (List (List Token)) :=
  if parameters.length < given.length then
    .error (name.fault "too many arguments provided to function-like macro invocation")
  else if given.length = parameters.length then .ok given
  else if given.isEmpty && parameters.length = 1 then .ok [[]]
  else if m.isVariadic && given.length + 1 = parameters.length then .ok (given ++ [[]])
  else if m.isVariadic && given.isEmpty && parameters.length = 2 then .ok [[], []]
  else .error (name.fault "too few arguments provided to function-like macro invocation")

def definedQuestion (contexts : List Context) : List Token × List Context :=
  match Context.next? contexts with
  | none => ([], contexts)
  | some (t, rest) =>
    if !t.isSymbol "(" then ([t], rest)
    else
      match Context.next? rest with
      | none => ([t], rest)
      | some (u, rest) =>
        match Context.next? rest with
        | none => ([u, t], rest)
        | some (v, rest) => ([v, u, t], rest)

/-- Expands the macros in what waits, behind the tokens that are done; `mark` is how far the
expansion got before the macro that is being read. -/
def run (s : Expansion) : Nat → Expanded → List Token → Nat → List Context →
    Except HeaderFault Expanded
  | 0, _, _, _, _ => .error (faultAt 0 "macros do not come to an end")
  | steps + 1, mark, done, counter, contexts =>
    match contexts with
    | [] => .ok { done, counter }
    | { tokens := [], .. } :: rest => run s steps mark done counter rest
    | { name, tokens := t :: tokens } :: rest =>
      let mark := if rest.isEmpty then { done, left := t :: tokens, counter } else mark
      let here : List Context := { name, tokens } :: rest
      let isActive (name : String) : Bool :=
        s.active.contains name || contexts.any (·.name = some name)
      if !t.isWord || t.isFinal then run s steps mark (t :: done) counter here
      else if s.isCondition && t.text = "defined" then
        let (question, rest) := definedQuestion here
        run s steps mark (question ++ t :: done) counter rest
      else
        match s.macros[t.text]? with
        | none =>
          match s.builtin? counter t here with
          | none => run s steps mark (t :: done) counter here
          | some (.error e) => .error e
          | some (.ok (answer, rest, counter)) => run s steps mark (answer :: done) counter rest
        | some m =>
          if isActive t.text then run s steps mark ({ t with isFinal := true } :: done) counter here
          else
            match m.parameters with
            | none =>
              match m.replacement t t.place [] with
              | .error e => .error e
              | .ok tokens =>
                run s steps mark done counter ({ name := some t.text, tokens } :: here)
            | some parameters =>
              match (Context.next? here).filter (·.1.isSymbol "(") with
              | none => run s steps mark (t :: done) counter here
              | some (_, inside) =>
                match Context.arguments? parameters.length m.isVariadic steps 0 [] [] inside with
                | none =>
                  if s.mayGoOn then .ok mark
                  else .error (t.fault "unterminated function-like macro invocation")
                | some (given, closer, rest) =>
                  let inner := { s with
                    active := rest.filterMap (·.name) ++ s.active
                    mayGoOn := false }
                  let expand (state : List Argument × Nat) (plain : List Token) :
                      Except HeaderFault (List Argument × Nat) :=
                    match run inner steps {} [] state.2 [{ tokens := plain }] with
                    | .error e => .error e
                    | .ok e =>
                      .ok ({ plain, expanded := e.done.reverse } :: state.1, e.counter)
                  match (matchArguments m t parameters given).bind fun given =>
                      given.foldlM expand ([], counter) with
                  | .error e => .error e
                  | .ok (arguments, counter) =>
                    let place :=
                      if t.isExpanded then t.place else { t.place with row := closer.place.row }
                    match m.replacement t place arguments.reverse with
                    | .error e => .error e
                    | .ok tokens =>
                      run s steps mark done counter ({ name := some t.text, tokens } :: rest)

def stepLimit : Nat := 1000000000

def expand (s : Expansion) (counter : Nat) (tokens : List Token) : Except HeaderFault Expanded :=
  s.run stepLimit {} [] counter [{ tokens }]

end Expansion

end BindingRepair.Native
