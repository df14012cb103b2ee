import BindingRepair.Position

/-!
Where the initial lines of a file are after others were inserted. Inserting before an initial line
moves that line and every later one.
-/

namespace BindingRepair

/-- The current line of each initial line, in order. -/
structure DriftIndex where
  currentLines : List Int
  deriving DecidableEq, Repr

namespace DriftIndex

def ofSize (n : Nat) : DriftIndex where
  currentLines := (List.range n).map Int.ofNat

def size (d : DriftIndex) : Nat :=
  d.currentLines.length

/-- Where an initial line is now. A negative line counts from the end. -/
def current? (d : DriftIndex) (line : Int) : Option Int :=
  (resolve? d.size line).bind (d.currentLines[·]?)

/-- How often line `index` of `size` is met on the way from `line` up to the end. From a negative
line the way leads through the lines it counts from the end, and then through all of them. -/
def visits (size : Nat) (line : Int) (index : Nat) : Nat :=
  (if line ≤ index then 1 else 0) + (if line < 0 ∧ line + size ≤ index then 1 else 0)

/-- Moves an initial line and the lines after it down by `count`. A line further before the start
than the file is long cannot be met. -/
def shift? (d : DriftIndex) (line count : Int) : Option DriftIndex :=
  if line < -(d.size : Int) then none
  else some { currentLines := d.currentLines.mapIdx fun index now =>
    now + count * visits d.size line index }

@[simp] theorem size_ofSize (n : Nat) : (ofSize n).size = n := by
  simp [ofSize, size]

theorem visits_of_nonneg {size : Nat} {line : Int} (h : 0 ≤ line) (index : Nat) :
    visits size line index = if line ≤ index then 1 else 0 := by
  have hline : ¬ line < 0 := by omega
  simp [visits, hline]

end DriftIndex

end BindingRepair
