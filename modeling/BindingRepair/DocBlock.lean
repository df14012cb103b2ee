
namespace BindingRepair

namespace DocBlock

def indentation (level : Nat) : String :=
  String.ofList (List.replicate (4 * level) ' ')

def line (level : Nat) (text : String) : String :=
  indentation level ++ "/// " ++ text

def lines (level : Nat) (fragments : List String) : List String :=
  line level "<summary>" :: fragments.map (line level) ++ [line level "</summary>"]

@[simp] theorem length_lines (level : Nat) (fragments : List String) :
    (lines level fragments).length = fragments.length + 2 := by
  simp [lines]

end DocBlock

end BindingRepair
