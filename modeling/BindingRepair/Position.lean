
/-!
Positions in a sequence. A negative position counts from the end. To read or write, a position must
lie inside; to cut, it is moved to the nearer end.
-/

namespace BindingRepair

/-- The index that a position denotes in a sequence of `size` elements, if it lies inside. -/
def resolve? (size : Nat) (position : Int) : Option Nat :=
  let index := if position < 0 then position + size else position
  if 0 ≤ index ∧ index < size then some index.toNat else none

def cutIndex (size : Nat) (position : Int) : Nat :=
  min (if position < 0 then position + size else position).toNat size

theorem resolve?_ofNat {size index : Nat} (h : index < size) :
    resolve? size index = some index := by
  have hnonneg : ¬ (index : Int) < 0 := by omega
  simp [resolve?, hnonneg, h]

theorem cutIndex_ofNat {size index : Nat} (h : index ≤ size) :
    cutIndex size index = index := by
  have hnonneg : ¬ (index : Int) < 0 := by omega
  simp [cutIndex, hnonneg, h]

theorem cutIndex_le (size : Nat) (position : Int) : cutIndex size position ≤ size :=
  Nat.min_le_right _ _

end BindingRepair
