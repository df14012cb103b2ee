import BindingRepair.Native.Grammar.Declaration
import BindingRepair.Native.Grammar.Initializer
import BindingRepair.Native.Grammar.Specifiers

namespace BindingRepair.Native

namespace Readers

def tooDeep {α : Type} : Parse α :=
  Parse.fail "declarations are nested too deeply"

def ofDepth : Nat → Readers
  | 0 => {
    expression := tooDeep
    assignment := tooDeep
    conditional := tooDeep
    cast := tooDeep
    typeName := tooDeep
    specifiers := fun _ => tooDeep
    declarator := fun _ => tooDeep
    initializer := tooDeep }
  | depth + 1 => {
    expression := fun p => Expression.comma (ofDepth depth) p
    assignment := fun p => Expression.assignment (ofDepth depth) p
    conditional := fun p => Expression.conditional (ofDepth depth) p
    cast := fun p => Expression.cast (ofDepth depth) p
    typeName := fun p => Specifiers.typeName (ofDepth depth) p
    specifiers := fun setting p => Specifiers.read (ofDepth depth) setting p
    declarator := fun setting p => Declarator.read (ofDepth depth) setting p
    initializer := fun p => Initializer.read (ofDepth depth) p }

end Readers

namespace Parsing

/-- What is there before all declarations: the types of lists of arguments, and some numbers. -/
def initial (tokens : List Token) : Parsing :=
  let pointer := CType.pointer .void
  let unsigned := CType.integer .unsignedInt
  let members := (Layout.ofMembers {} {} [
    { name := some "gp_offset", type := unsigned }, { name := some "fp_offset", type := unsigned },
    { name := some "overflow_arg_area", type := pointer },
    { name := some "reg_save_area", type := pointer }])
  let record : RecordType := {
    members := some members.members
    size := members.size
    alignment := members.alignment }
  let names : List (String × CType) := [
    ("__builtin_va_list", .array (.record 0) (.fixed 1)),
    ("__builtin_ms_va_list", .pointer .char),
    ("__int128_t", .integer { rank := .int128 }),
    ("__uint128_t", .integer { rank := .int128, isSigned := false })]
  let scopes : Scopes := names.foldl (fun (scopes : Scopes) (name, type) =>
    scopes.insert name { meaning := .typeName, type }) [{}]
  { tokens, scopes, world := { types := { records := #[record] } } }

def found (tokens : List Token) : Except HeaderFault (List Finding) := do
  let readers := Readers.ofDepth (8 * tokens.length + 64)
  let ((), p) ← Declaration.all readers (initial tokens)
  return p.findings.reverse

end Parsing

end BindingRepair.Native
