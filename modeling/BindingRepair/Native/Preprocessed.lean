import BindingRepair.Native.Directive

namespace BindingRepair.Native

structure Preprocessed where
  tokens : List Token
  headers : Array OpenedHeader

namespace Preprocessed

def step (includer : Include) (files : FileTree) (p : Preprocessing) (line : Line) :
    Except HeaderFault Preprocessing := do
  let tokens := line.tokens
  if tokens.head?.any (·.isSymbol "#") then Directive.step includer files line tokens.tail p
  else if p.isActive then
    match tokens.find? (·.kind = .foreign) with
    | some t => throw (t.fault "unexpected character")
    | none =>
      p.checkPoison tokens
      let p ← p.remarks line.lexemes
      return { p with waiting := tokens.reverse ++ p.waiting }
  else return p

/-- Reads the text of a header. Its conditions must all be closed, and so must its macros. -/
def read (includer : Include) (files : FileTree) (path : PathName) (text : List Char)
    (p : Preprocessing) : Except HeaderFault Preprocessing := do
  let file := p.headers.size
  let visit : Visit := { file, path, level := if file = 0 then 0 else p.visit.level + 1 }
  let before := { p with
    headers := p.headers.push { path, text := text.toArray }
    seen := path.settled :: p.seen
    visit }
  let after ← (Line.ofText file text).foldlM (step includer files) before
  if !after.visit.conditions.isEmpty then
    throw (faultAt (text.count '\n') "unterminated conditional directive")
  let after ← Directive.flush files false after
  return { after with visit := p.visit }

def includeFrom (files : FileTree) : Nat → Include
  | 0, directive, _, _ => some (.error (directive.fault "#include nested too deeply"))
  | depth + 1, _, path, p =>
    (files.read? path).map fun octets =>
      match Text.decodeUtf8 octets with
      | .ok text => read (includeFrom files depth) files path text.toList p
      | .error e => .error (faultAt 0 e.message)

def depthLimit : Nat := 200

def ofFile? (files : FileTree) (header : PathName) : Option (Except HeaderFault Preprocessed) :=
  let start : Token := { kind := .symbol, text := "" }
  let initial : Preprocessing := { basePath := header.text }
  (includeFrom files (depthLimit + 1) start header initial).map fun result => do
    let p ← result
    if p.nonnull ≠ 0 then throw (faultAt 0 "'#pragma clang assume_nonnull' was not ended")
    if p.attributes ≠ 0 then throw (faultAt 0 "unterminated '#pragma clang attribute push'")
    return { tokens := p.tokens.reverse, headers := p.headers }

/-- The names in quotes in a text: those of all headers that it may include. -/
def quotedNames (text : List Char) : List String :=
  ((Line.ofText 0 text).flatMap Line.tokens).filterMap Directive.saidPath?

end Preprocessed

end BindingRepair.Native
