import BindingRepair.FileTree
import BindingRepair.Native.Condition
import BindingRepair.Native.Inquiry
import BindingRepair.Native.Predefined
import BindingRepair.Native.Remark

/-!
How far a header has been read, as far as its directives are concerned: what names stand for, which
parts count, and the tokens so far. Tokens wait until the next directive, since the arguments of a
macro may go on over lines.
-/

namespace BindingRepair.Native

/-- A header that was opened, with the remarks that were read in it so far, the latest first. -/
structure OpenedHeader where
  path : PathName
  text : Array Char
  remarks : List Remark := []

/-- A condition that is open: whether what it stands in counts, whether the present branch does,
whether one did so already, and whether it is the last one. -/
structure OpenCondition where
  outer : Bool
  active : Bool
  taken : Bool
  isLast : Bool := false

/-- The header that is being read: which one it is, how many include it, and how it counts its
lines. -/
structure Visit where
  file : Nat := 0
  path : PathName := {}
  level : Nat := 0
  conditions : List OpenCondition := []
  shift : Int := 0
  saidPath : Option String := none
  saidLevel : Nat := 0

structure SavedMacro where
  name : String
  value : Option Macro
  isBuiltin : Bool

structure Preprocessing where
  macros : MacroTable := Predefined.macros
  builtins : List String := Inquiry.allNames
  saved : List SavedMacro := []
  poisoned : List String := []
  once : List PathName := []
  seen : List PathName := []
  headers : Array OpenedHeader := #[]
  visit : Visit := {}
  basePath : String := ""
  waiting : List Token := []
  tokens : List Token := []
  counter : Nat := 0
  nonnull : Nat := 0
  attributes : Nat := 0

/-- Includes a header: its path is looked for from the present one. -/
abbrev Include := Token → PathName → Preprocessing → Option (Except HeaderFault Preprocessing)

namespace Preprocessing

def isActive (p : Preprocessing) : Bool :=
  (p.visit.conditions.head?.map (·.active)).getD true

def isDefined (p : Preprocessing) (name : String) : Bool :=
  p.macros.contains name || p.builtins.contains name

def define (p : Preprocessing) (name : String) (m : Macro) : Preprocessing :=
  { p with macros := p.macros.insert name m }

def undefine (p : Preprocessing) (name : String) : Preprocessing :=
  { p with macros := p.macros.erase name, builtins := p.builtins.filter (· ≠ name) }

def save (p : Preprocessing) (name : String) : Preprocessing :=
  let value : SavedMacro := {
    name
    value := p.macros[name]?
    isBuiltin := p.builtins.contains name }
  { p with saved := value :: p.saved }

def restore (p : Preprocessing) (name : String) : Preprocessing :=
  match p.saved.find? (·.name = name) with
  | none => p
  | some saved =>
    let p := { p.undefine name with saved := p.saved.eraseP (·.name = name) }
    match saved.value with
    | some m => p.define name m
    | none => if saved.isBuiltin then { p with builtins := name :: p.builtins } else p

def inquiry (p : Preprocessing) (files : FileTree) (isCondition : Bool) : Inquiry where
  names := p.builtins
  line row := row + 1 + p.visit.shift
  path := p.visit.saidPath.getD p.visit.path.text
  basePath := p.basePath
  level := p.visit.level
  isCondition
  macros := p.macros
  hasHeader name := files.isFile (p.visit.path.parent.child name)

def checkPoison (p : Preprocessing) (tokens : List Token) : Except HeaderFault Unit :=
  if p.poisoned.isEmpty then .ok ()
  else
    match tokens.find? fun t => t.isWord && p.poisoned.contains t.text with
    | some t => .error (t.fault "attempt to use a poisoned identifier")
    | none => .ok ()

def expandAll (p : Preprocessing) (files : FileTree) (isCondition : Bool) (tokens : List Token) :
    Except HeaderFault (List Token × Preprocessing) := do
  let expansion : Expansion := {
    macros := p.macros
    builtin? := (p.inquiry files isCondition).expand?
    isCondition }
  let expanded ← expansion.expand p.counter tokens
  return (expanded.done.reverse, { p with counter := expanded.counter })

def remark (p : Preprocessing) (start stop : Nat) : Preprocessing :=
  { p with
    headers := p.headers.modify p.visit.file fun header =>
      { header with remarks := Remark.add header.text start stop header.remarks } }

/-- Records the comments among some lexemes. One that has no end is an error. -/
def remarks (p : Preprocessing) : List Lexeme → Except HeaderFault Preprocessing
  | [] => .ok p
  | .token _ :: rest => p.remarks rest
  | .comment start stop row isClosed :: rest =>
    if isClosed then (p.remark start stop).remarks rest
    else .error (faultAt row "unterminated /* comment")

end Preprocessing

end BindingRepair.Native
