
namespace BindingRepair.Text

/-- Whether a number lies in one of some ascending ranges, both ends included. The search stops at
the first range that starts above the number. -/
def inRanges : List (Nat × Nat) → Nat → Bool
  | [], _ => false
  | (first, last) :: rest, n =>
    if n < first then false else if n ≤ last then true else inRanges rest n

end BindingRepair.Text
