import BindingRepair.Native.Token
import Std.Data.HashMap

namespace BindingRepair.Native

structure Macro where
  parameters : Option (List String) := none
  isVariadic : Bool := false
  body : List Token := []
  deriving Repr, Inhabited

abbrev MacroTable := Std.HashMap String Macro

namespace Macro

def rest : String := "__VA_ARGS__"

def parameterIndex? (m : Macro) (t : Token) : Option Nat :=
  if t.isWord then m.parameters.bind (·.findIdx? (· = t.text)) else none

def isRest (m : Macro) (index : Nat) : Bool :=
  m.isVariadic && index + 1 = (m.parameters.getD []).length

/-- Reads a list of parameters behind its opening parenthesis. Those read so far are `before`, the
latest first. -/
def readParameters (name : Token) (before : List String) :
    List Token → Except HeaderFault (Macro × List Token)
  | [] => .error (name.fault "missing ')' in macro parameter list")
  | t :: tokens =>
    if t.isSymbol ")" then
      if before.isEmpty then .ok ({ parameters := some [] }, tokens)
      else .error (t.fault "expected identifier in macro parameter list")
    else if t.isSymbol "..." then
      match tokens with
      | closer :: tokens =>
        if closer.isSymbol ")" then
          .ok ({ parameters := some (rest :: before).reverse, isVariadic := true }, tokens)
        else .error (closer.fault "missing ')' in macro parameter list")
      | [] => .error (t.fault "missing ')' in macro parameter list")
    else if !t.isWord then .error (t.fault "invalid token in macro parameter list")
    else if before.contains t.text then
      .error (t.fault ("duplicate macro parameter name '" ++ t.text ++ "'"))
    else
      match tokens with
      | [] => .error (t.fault "missing ')' in macro parameter list")
      | u :: tokens =>
        if u.isSymbol ")" then
          .ok ({ parameters := some (t.text :: before).reverse }, tokens)
        else if u.isSymbol "," then readParameters name (t.text :: before) tokens
        else if u.isSymbol "..." && tokens.head?.any (·.isSymbol ")") then
          .ok ({ parameters := some (t.text :: before).reverse, isVariadic := true }, tokens.tail)
        else .error (u.fault "expected comma in macro parameter list")

def hasSoundQuotes (m : Macro) : List Token → Bool
  | [] => true
  | t :: tokens =>
    (!t.isSymbol "#" || tokens.head?.any fun u =>
      (m.parameterIndex? u).isSome || (m.isVariadic && u.isNamed "__VA_OPT__")) &&
      hasSoundQuotes m tokens

/-- Reads a definition: a name and a macro. A parenthesis that touches the name opens the list of
parameters. -/
def read (directive : Token) : List Token → Except HeaderFault (String × Macro)
  | [] => .error (directive.fault "macro name missing")
  | name :: tokens => do
    if !name.isWord then throw (name.fault "macro name must be an identifier")
    if name.text = "defined" then throw (name.fault "'defined' cannot be used as a macro name")
    let (m, body) ←
      match tokens with
      | opener :: rest =>
        if opener.isSymbol "(" && !opener.isSpaced then readParameters name [] rest
        else pure ({}, tokens)
      | [] => pure ({}, [])
    if m.parameters.isSome && !hasSoundQuotes m body then
      throw (name.fault "'#' is not followed by a macro parameter")
    if body.head?.any (·.isSymbol "##") || body.getLast?.any (·.isSymbol "##") then
      throw (name.fault "'##' cannot appear at either end of a macro expansion")
    return (name.text, { m with body })

end Macro

end BindingRepair.Native
