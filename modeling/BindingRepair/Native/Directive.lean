import BindingRepair.Native.Pragma

namespace BindingRepair.Native.Directive

/-- Replaces the macros in the tokens that wait. Unless the header is at its end, the arguments of
the last one may go on. -/
def flush (files : FileTree) (mayGoOn : Bool) (p : Preprocessing) :
    Except HeaderFault Preprocessing := do
  if p.waiting.isEmpty then return p
  let expansion : Expansion := {
    macros := p.macros
    builtin? := (p.inquiry files false).expand?
    mayGoOn }
  let expanded ← expansion.expand p.counter p.waiting.reverse
  let p := { p with waiting := expanded.left.reverse, counter := expanded.counter }
  if expanded.done.any (·.isNamed "_Pragma") then
    Pragma.addAll files p expanded.done.length expanded.done.reverse
  else return { p with tokens := expanded.done ++ p.tokens }

def withConditions (p : Preprocessing) (conditions : List OpenCondition) : Preprocessing :=
  { p with visit := { p.visit with conditions } }

def openCondition (p : Preprocessing) (holds : Bool) : Preprocessing :=
  let outer := p.isActive
  withConditions p ({ outer, active := outer && holds, taken := holds } :: p.visit.conditions)

def nameOf (directive : Token) : List Token → Except HeaderFault String
  | [] => .error (directive.fault "macro name missing")
  | t :: _ =>
    if t.isWord then .ok t.text else .error (t.fault "macro name must be an identifier")

def holds (files : FileTree) (directive : Token) (tokens : List Token) (p : Preprocessing) :
    Except HeaderFault (Bool × Preprocessing) := do
  match directive.text with
  | "ifdef" | "elifdef" => return (p.isDefined (← nameOf directive tokens), p)
  | "ifndef" | "elifndef" => return (!p.isDefined (← nameOf directive tokens), p)
  | _ =>
    let (tokens, after) ← p.expandAll files true tokens
    return (← Condition.evaluate p.isDefined directive tokens, after)

def opening : List String := ["if", "ifdef", "ifndef"]

def branching : List String := ["elif", "elifdef", "elifndef"]

def condition (files : FileTree) (directive : Token) (tokens : List Token) (p : Preprocessing) :
    Except HeaderFault Preprocessing := do
  if opening.contains directive.text then
    if p.isActive then
      let (holds, p) ← holds files directive tokens p
      return openCondition p holds
    else return openCondition p false
  else
    match p.visit.conditions with
    | [] => throw (directive.fault ("#" ++ directive.text ++ " without #if"))
    | c :: rest =>
      if directive.text = "endif" then return withConditions p rest
      else if c.isLast then throw (directive.fault ("#" ++ directive.text ++ " after #else"))
      else if directive.text = "else" then
        let c := { c with active := c.outer && !c.taken, taken := true, isLast := true }
        return withConditions p (c :: rest)
      else if c.outer && !c.taken then
        let (holds, p) ← holds files directive tokens p
        return withConditions p ({ c with active := holds, taken := holds } :: rest)
      else return withConditions p ({ c with active := false } :: rest)

def includeHeader (includer : Include) (files : FileTree) (isOnce : Bool) (directive : Token)
    (tokens : List Token) (p : Preprocessing) : Except HeaderFault Preprocessing := do
  if !p.waiting.isEmpty then throw (directive.fault "embedding a directive within macro arguments")
  let isWritten := tokens.head?.any fun t => t.kind = .string || t.isSymbol "<"
  let (tokens, p) ← if isWritten then pure (tokens, p) else p.expandAll files false tokens
  let first := tokens.takeWhile fun t => !t.isSymbol ">"
  let behind := (tokens.drop first.length).take 1
  let tokens := if tokens.head?.any (·.isSymbol "<") then first ++ behind else tokens.take 1
  match Inquiry.headerName? {} 1 tokens with
  | none => throw (directive.fault "expected \"FILENAME\" or <FILENAME>")
  | some (isSystem, name) =>
    let missing := directive.fault ("'" ++ name ++ "' file not found")
    if isSystem || name = "" then throw missing
    let path := p.visit.path.parent.child name
    if !files.isFile path then throw missing
    let isRead := p.seen.contains path.settled
    if isRead && (isOnce || p.once.contains path.settled) then return p
    let p := if isOnce then { p with once := path.settled :: p.once } else p
    (includer directive path p).getD (.error missing)

def lineNumber? (t : Token) : Option Nat :=
  if t.kind = .number && t.text.toList.all Char.isDigit then
    t.text.toNat?.filter (· < 1 <<< 32)
  else none

def saidPath? (t : Token) : Option String :=
  if t.kind = .string && t.text.startsWith "\"" then
    some (String.ofList ((t.text.toList.drop 1).dropLast))
  else none

/-- Whether the numbers behind a line marker make sense, and by how many headers they say that one
goes in. -/
def markerLevel? (level : Nat) (flags : List Token) : Option Nat := do
  let flags ← flags.mapM lineNumber?
  match flags with
  | [] => return level
  | 1 :: rest => if isSystem rest then return level + 1 else none
  | 2 :: rest => if isSystem rest && 0 < level then return level - 1 else none
  | flags => if isSystem flags then return level else none
where
  isSystem (flags : List Nat) : Bool :=
    flags = [] || flags = [3] || flags = [3, 4]

def setLine (directive : Token) (isMarker : Bool) (tokens : List Token) (p : Preprocessing) :
    Except HeaderFault Preprocessing :=
  let bad : Except HeaderFault Preprocessing := .error (directive.fault "invalid line directive")
  match tokens with
  | [] => bad
  | t :: rest =>
    match lineNumber? t with
    | none => bad
    | some n =>
      let shift : Int := n - (directive.place.row + 2 : Int)
      let visit := { p.visit with shift }
      match rest with
      | [] => .ok { p with visit }
      | name :: flags =>
        match saidPath? name with
        | none => bad
        | some path =>
          let visit := { visit with saidPath := some path }
          if !isMarker then .ok { p with visit }
          else
            match markerLevel? visit.saidLevel flags with
            | none => bad
            | some saidLevel => .ok { p with visit := { visit with saidLevel } }

def obey (includer : Include) (files : FileTree) (directive : Token) (tokens : List Token)
    (p : Preprocessing) : Except HeaderFault Preprocessing := do
  match directive.text with
  | "define" =>
    let (name, m) ← Macro.read directive tokens
    return p.define name m
  | "undef" =>
    let name ← nameOf directive tokens
    if name = "defined" then throw (directive.fault "'defined' cannot be used as a macro name")
    return p.undefine name
  | "include" | "include_next" => includeHeader includer files false directive tokens p
  | "import" => includeHeader includer files true directive tokens p
  | "line" =>
    let (tokens, p) ← p.expandAll files false tokens
    setLine directive false tokens p
  | "warning" => return p
  | "ident" | "sccs" =>
    if tokens.head?.any (·.kind = .string) then return p
    else throw (directive.fault "invalid #ident directive")
  | "pragma" =>
    if p.waiting.isEmpty then Pragma.obey files p directive tokens
    else throw (directive.fault "embedding a directive within macro arguments")
  | "error" => throw (directive.fault "#error")
  | _ => throw (directive.fault "invalid preprocessing directive")

def isConditional (word : String) : Bool :=
  opening.contains word || branching.contains word || word = "else" || word = "endif"

def behindName (lexemes : List Lexeme) : List Lexeme :=
  go 2 lexemes
where
  go : Nat → List Lexeme → List Lexeme
    | 0, lexemes => lexemes
    | _, [] => []
    | n + 1, .token _ :: rest => go n rest
    | n + 1, .comment .. :: rest => go (n + 1) rest

/-- Goes on behind a line that is a directive, of which `tokens` are the tokens behind the number
sign. -/
def step (includer : Include) (files : FileTree) (line : Line) (tokens : List Token)
    (p : Preprocessing) : Except HeaderFault Preprocessing := do
  let isActive := p.isActive
  match tokens with
  | [] => if isActive then p.remarks line.lexemes else return p
  | directive :: rest =>
    if !isActive then
      if directive.isWord && isConditional directive.text then
        let p ← condition files directive rest p
        if p.isActive then p.remarks (behindName line.lexemes) else return p
      else return p
    else
      if directive.isNamed "error" then throw (directive.fault "#error")
      let p ← if directive.isNamed "warning" then pure p else p.remarks line.lexemes
      p.checkPoison (directive :: rest)
      let p ← flush files true p
      if directive.isWord then
        if isConditional directive.text then condition files directive rest p
        else obey includer files directive rest p
      else if directive.kind = .number then
        let (tokens, p) ← p.expandAll files false rest
        setLine directive true (directive :: tokens) p
      else throw (directive.fault "invalid preprocessing directive")

end BindingRepair.Native.Directive
