import BindingRepair.Native.Grammar.Primary

namespace BindingRepair.Native

namespace Initializer

def index (r : Readers) : Parse Nat := do
  let at_ ← Parse.peek
  let (_, n) ← Expression.constantNumber r
  if n < 0 then Parse.failAt at_ "array designator value is negative"
  return n.toNat

def designator? (r : Readers) : Parse (Option Designator) := do
  let t ← Parse.peek
  if t.isSymbol "." then
    discard Parse.next
    let name ← Parse.next
    if !name.isName then Parse.failAt name "expected a field designator"
    return some (.member name.text)
  else if t.isSymbol "[" then
    Parse.bracketed "[" "]" do
      let first ← index r
      if ← Parse.accept "..." then return some (.elements first (← index r))
      else return some (.elements first first)
  else return none

def designators (r : Readers) : Parse (List Designator) :=
  Parse.iterate (fun before => do
    match ← designator? r with
    | some d => return .inl (d :: before)
    | none => return .inr before.reverse) []

def item (r : Readers) : Parse (List Designator × Initializer) := do
  let t ← Parse.peek
  if t.isName && (← Parse.peekSecond).isSymbol ":" then
    discard Parse.next
    discard Parse.next
    return ([.member t.text], ← r.initializer)
  else
    let path ← designators r
    match path with
    | [] => return ([], ← r.initializer)
    | path =>
      let mayOmit := match path with
        | [.elements _ _] => true
        | _ => false
      if !(← Parse.accept "=") && !mayOmit then Parse.fail "expected '=' or another designator"
      return (path, ← r.initializer)

def read (r : Readers) : Parse Initializer := do
  let t ← Parse.peek
  if !t.isSymbol "\x7b" then return .value t (← r.assignment)
  else
    let items ← Parse.bracketed "\x7b" "\x7d" do
      Parse.iterate (fun before => do
        if ← Parse.isNext "\x7d" then return .inr before.reverse
        else
          let before := (← item r) :: before
          if ← Parse.accept "," then return .inl before else return .inr before.reverse) []
    return .list t items

end Initializer

end BindingRepair.Native
