import BindingRepair.MarkerAttribute
import BindingRepair.Text.LineBreak

/-!
The faults that generated bindings are known for, found without a compiler. Each is reported as a
compiler would, so that a repair can be tried where none is at hand.
-/

namespace BindingRepair.KnownFaults

open Text

private def fault (line : Nat) (code message : String) (column : Nat := 0) : Diagnostic where
  code
  message
  line
  column

def hasNativeBase : List Char → Bool
  | [] => false
  | c :: rest =>
    (match after? "enum ".toList (c :: rest) with
      | some named =>
        let (name, base) := named.span isWord
        name ≠ [] && (after? " : nuint".toList base).isSome
      | none => false) ||
    hasNativeBase rest

def bareCall (before _ : List Char) : Bool :=
  clearBefore before && before.head? ≠ some '.'

/-- The faults of a line. `marked` says that the marker attribute is defined somewhere. -/
def ofLine (marked : Bool) (index : Nat) (line : List Char) : List Diagnostic :=
  let marker := "NativeTypeName".toList
  (if contains line "[NativeTypeName(".toList && !marked then
    [fault index "CS0246"
      ("The type or namespace name 'NativeTypeNameAttribute' could not be found " ++
        "(are you missing a using directive or an assembly reference?)")
      (((splitFirst? marker line).map (·.1.length)).getD 0)]
    else []) ++
  (if hasNativeBase line then
    [fault index "CS1008" "Type byte, sbyte, short, ushort, int, uint, long, or ulong expected"]
    else []) ++
  (if contains line ".operator=".toList then
    [fault index "CS1525" "Invalid expression term '='", fault index "CS1002" "; expected"]
    else []) ++
  (if contains line "(self)->vtbl".toList then
    [fault index "CS0242" "The operation in question is undefined on void pointers" 10,
      fault index "CS0242" "The operation in question is undefined on void pointers" 60]
    else []) ++
  (if contains line "bool __ret".toList && !contains line "!= 0".toList then
    [fault index "CS0029" "Cannot implicitly convert type 'byte' to 'bool'"]
    else []) ++
  (if occursWhere bareCall "realloc(".toList [] line then
    [fault index "CS0103" "The name 'realloc' does not exist in the current context"]
    else [])

def ofLines (marked : Bool) (index : Nat) : List (List Char) → List Diagnostic
  | [] => []
  | line :: rest => ofLine marked index line ++ ofLines marked (index + 1) rest

/-- The faults of a source. -/
def diagnose (text : String) : List Diagnostic :=
  let lines := splitAt '\n' text.toList
  let marked := lines.any fun line => contains line "class NativeTypeNameAttribute".toList
  ofLines marked 0 lines

end BindingRepair.KnownFaults
