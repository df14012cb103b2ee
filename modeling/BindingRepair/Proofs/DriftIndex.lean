import Mathlib.Algebra.Order.BigOperators.Group.List
import Mathlib.Algebra.Ring.Int.Defs
import BindingRepair.DriftIndex

namespace BindingRepair.DriftIndex

structure Shift where
  line : Int
  count : Int
  deriving DecidableEq, Repr

/-- One shift after the other, as long as each has a line to start from. -/
def shiftAll? (d : DriftIndex) (history : List Shift) : Option DriftIndex :=
  history.foldlM (fun d s => d.shift? s.line s.count) d

/-- How far a history moves an initial line. -/
def displacement (history : List Shift) (index : Nat) : Int :=
  ((history.filter fun s => s.line ≤ (index : Int)).map (·.count)).sum

def displaced (d : DriftIndex) (history : List Shift) : DriftIndex where
  currentLines := d.currentLines.mapIdx fun index now => now + displacement history index

variable {d : DriftIndex} {s : Shift} {history : List Shift} {index other : Nat}

theorem displacement_append (past later : List Shift) (index : Nat) :
    displacement (past ++ later) index = displacement past index + displacement later index := by
  simp [displacement]

theorem displacement_singleton (s : Shift) (index : Nat) :
    displacement [s] index = if s.line ≤ index then s.count else 0 := by
  by_cases moved : s.line ≤ index
  · simp [displacement, moved]
  · simp [displacement, moved]

theorem displacement_perm {reordered : List Shift} (perm : reordered.Perm history) (index : Nat) :
    displacement reordered index = displacement history index :=
  ((perm.filter _).map _).sum_eq

theorem displacement_mono (counts : ∀ s ∈ history, 0 ≤ s.count) (above : index ≤ other) :
    displacement history index ≤ displacement history other := by
  have fewer : (history.filter fun s => s.line ≤ (index : Int)).Sublist
      (history.filter fun s => s.line ≤ (other : Int)) := by
    refine List.monotone_filter_right history fun s moved => ?_
    rw [decide_eq_true_eq] at moved ⊢
    omega
  refine (fewer.map (·.count)).sum_le_sum fun count member => ?_
  obtain ⟨s, kept, rfl⟩ := List.mem_map.mp member
  exact counts s (List.mem_of_mem_filter kept)

@[simp] theorem size_displaced (d : DriftIndex) (history : List Shift) :
    (d.displaced history).size = d.size := by
  simp [displaced, size]

theorem displaced_nil (d : DriftIndex) : d.displaced [] = d := by
  obtain ⟨currentLines⟩ := d
  refine congrArg mk (List.ext_getElem (by simp) fun index _ _ => ?_)
  simp [displacement]

theorem displaced_append (d : DriftIndex) (past later : List Shift) :
    d.displaced (past ++ later) = (d.displaced past).displaced later := by
  simp only [displaced, List.mapIdx_mapIdx, displacement_append]
  congr 2
  funext index now
  exact (Int.add_assoc ..).symm

theorem displaced_perm {reordered : List Shift} (perm : reordered.Perm history) :
    d.displaced reordered = d.displaced history := by
  simp only [displaced, displacement_perm perm]

theorem inOrder_displaced (inOrder : d.currentLines.Pairwise (· < ·))
    (counts : ∀ s ∈ history, 0 ≤ s.count) :
    (d.displaced history).currentLines.Pairwise (· < ·) := by
  rw [List.pairwise_iff_getElem] at inOrder ⊢
  intro upper lower hupper hlower above
  simp only [displaced, List.length_mapIdx, List.getElem_mapIdx] at hupper hlower ⊢
  exact Int.add_lt_add_of_lt_of_le (inOrder upper lower hupper hlower above)
    (displacement_mono counts (Nat.le_of_lt above))

theorem inOrder_ofSize (n : Nat) : (ofSize n).currentLines.Pairwise (· < ·) := by
  rw [ofSize, List.pairwise_map]
  exact List.pairwise_lt_range.imp Int.ofNat_lt.mpr

theorem getElem?_displaced_ofSize {n : Nat} (inside : index < n) (history : List Shift) :
    ((ofSize n).displaced history).currentLines[index]? =
      some (index + displacement history index) := by
  simp [displaced, ofSize, inside]

theorem current?_displaced_ofSize {n : Nat} (inside : index < n) (history : List Shift) :
    ((ofSize n).displaced history).current? index =
      some (index + displacement history index) := by
  rw [current?, size_displaced, size_ofSize, resolve?_ofNat inside]
  exact getElem?_displaced_ofSize inside history

theorem shift?_eq_displaced (nonneg : 0 ≤ s.line) :
    d.shift? s.line s.count = some (d.displaced [s]) := by
  have met : ¬ s.line < -(d.size : Int) := by omega
  rw [shift?, if_neg met, displaced]
  congr 3
  funext index now
  rw [visits_of_nonneg nonneg, displacement_singleton]
  split <;> simp

theorem shiftAll?_eq_displaced (lines : ∀ s ∈ history, 0 ≤ s.line) :
    d.shiftAll? history = some (d.displaced history) := by
  induction history generalizing d with
  | nil => exact congrArg some (displaced_nil d).symm
  | cons s rest induction =>
      -- The rest of the history starts from the lines that the first shift has moved.
      have first := shift?_eq_displaced (d := d) (lines s List.mem_cons_self)
      have remaining := induction (d := d.displaced [s])
        fun later member => lines later (List.mem_cons_of_mem s member)
      rw [shiftAll?, List.foldlM_cons, first]
      exact remaining.trans (congrArg some (displaced_append d [s] rest).symm)

/-- Shifts from lines of the file or past its end never fail. They keep the number of lines, add up
above each line whatever their order, and leave the lines in order and apart. -/
theorem shiftAll?_accumulated_inOrder (n : Nat) (history : List Shift)
    (lines : ∀ s ∈ history, 0 ≤ s.line) (counts : ∀ s ∈ history, 0 ≤ s.count) :
    ∃ d, (ofSize n).shiftAll? history = some d ∧ d.size = n ∧
      (∀ index < n, d.currentLines[index]? = some (index + displacement history index) ∧
        d.current? index = some (index + displacement history index)) ∧
      d.currentLines.Pairwise (· < ·) ∧
      ∀ reordered, reordered.Perm history → (ofSize n).shiftAll? reordered = some d := by
  refine ⟨(ofSize n).displaced history, shiftAll?_eq_displaced lines, by simp,
    fun index inside => ⟨getElem?_displaced_ofSize inside history,
      current?_displaced_ofSize inside history⟩,
    inOrder_displaced (inOrder_ofSize n) counts, fun reordered perm => ?_⟩
  have reorderedLines : ∀ s ∈ reordered, 0 ≤ s.line :=
    fun s member => lines s (perm.mem_iff.mp member)
  rw [shiftAll?_eq_displaced reorderedLines, displaced_perm perm]

def interleaved : List Shift :=
  [⟨1, 4⟩, ⟨7, 2⟩, ⟨12, 3⟩, ⟨1, 1⟩]

theorem shiftAll?_accumulated_inOrder_interleaved :
    (∀ s ∈ interleaved, 0 ≤ s.line) ∧ (∀ s ∈ interleaved, 0 ≤ s.count) ∧
      ∃ d, (ofSize 10).shiftAll? interleaved = some d ∧ d.size = 10 ∧
        d.currentLines[0]? = some 0 ∧ d.current? 6 = some 11 ∧ d.current? 7 = some 14 ∧
        d.currentLines.Pairwise (· < ·) ∧
        (ofSize 10).shiftAll? interleaved.reverse = some d := by
  have lines : ∀ s ∈ interleaved, 0 ≤ s.line := by decide
  have counts : ∀ s ∈ interleaved, 0 ≤ s.count := by decide
  obtain ⟨d, done, size, places, inOrder, again⟩ :=
    shiftAll?_accumulated_inOrder 10 interleaved lines counts
  exact ⟨lines, counts, d, done, size, (places 0 (by decide)).1, (places 6 (by decide)).2,
    (places 7 (by decide)).2, inOrder, again _ (List.reverse_perm _)⟩

end BindingRepair.DriftIndex
