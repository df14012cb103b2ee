import Mathlib.Algebra.BigOperators.Group.List.Basic
import Mathlib.Algebra.GroupWithZero.Nat
import Mathlib.Algebra.Ring.Int.Defs
import Mathlib.Data.List.Induction
import BindingRepair.Documentation
import BindingRepair.Proofs.DriftIndex
import BindingRepair.Proofs.SourceBuffer

/-!
Documenting a source one correlation after the other, in whatever order their targets come, gives
what a single walk over the lines would give that puts above each line all that belongs there. What
carries this through the insertions is that the drift knows the height of everything inserted so far
above each line.
-/

namespace BindingRepair

def Correlation.block (c : Correlation) : List String :=
  DocBlock.lines c.level (c.native.fragments.getD [])

def Correlation.shift (c : Correlation) : DriftIndex.Shift where
  line := c.target.startLine
  count := c.block.length

namespace Documentation

/-! The merge of a source with its documentation. -/

/-- All that belongs above a line, in the order of the correlations. -/
def blocksAt (cs : List Correlation) (index : Nat) : List String :=
  (cs.filter fun c => c.target.startLine = (index : Int)).flatMap (·.block)

/-- Lines with their documentation, where the first of them has the number `first`. -/
def merge (cs : List Correlation) (first : Nat) (lines : List String) : List String :=
  (lines.zipIdx first).flatMap fun (line, index) => blocksAt cs index ++ [line]

/-- The height of all that belongs above a line or above one that precedes it. -/
def height (cs : List Correlation) (index : Nat) : Nat :=
  ((cs.filter fun c => c.target.startLine ≤ (index : Int)).map (·.block.length)).sum

variable {cs : List Correlation} {c : Correlation} {lines : List String} {index : Nat}
  {line : String}

theorem blocksAt_append (cs cs' : List Correlation) (index : Nat) :
    blocksAt (cs ++ cs') index = blocksAt cs index ++ blocksAt cs' index := by
  simp [blocksAt]

theorem height_append (cs cs' : List Correlation) (index : Nat) :
    height (cs ++ cs') index = height cs index + height cs' index := by
  simp [height]

theorem blocksAt_singleton (c : Correlation) (index : Nat) :
    blocksAt [c] index = if c.target.startLine = index then c.block else [] := by
  by_cases here : c.target.startLine = index
  · simp [blocksAt, here]
  · simp [blocksAt, here]

theorem length_blocksAt_singleton (c : Correlation) (index : Nat) :
    (blocksAt [c] index).length =
      if c.target.startLine = index then c.block.length else 0 := by
  rw [blocksAt_singleton]
  split <;> rfl

theorem height_singleton (c : Correlation) (index : Nat) :
    height [c] index = if c.target.startLine ≤ index then c.block.length else 0 := by
  by_cases above : c.target.startLine ≤ index
  · simp [height, above]
  · simp [height, above]

theorem height_zero (nonneg : ∀ c ∈ cs, 0 ≤ c.target.startLine) :
    height cs 0 = (blocksAt cs 0).length := by
  induction cs with
  | nil => rfl
  | cons c rest induction =>
      have later := induction fun other member => nonneg other (List.mem_cons_of_mem c member)
      have notAbove := nonneg c List.mem_cons_self
      rw [← List.singleton_append, height_append, blocksAt_append, List.length_append, later,
        height_singleton, length_blocksAt_singleton]
      split <;> split <;> omega

theorem height_succ (cs : List Correlation) (index : Nat) :
    height cs (index + 1) = height cs index + (blocksAt cs (index + 1)).length := by
  induction cs with
  | nil => rfl
  | cons c rest induction =>
      rw [← List.singleton_append, height_append, height_append, blocksAt_append,
        List.length_append, induction, height_singleton, height_singleton,
        length_blocksAt_singleton]
      split <;> split <;> split <;> omega

theorem merge_append (cs : List Correlation) (first : Nat) (above below : List String) :
    merge cs first (above ++ below) =
      merge cs first above ++ merge cs (first + above.length) below := by
  simp [merge, List.zipIdx_append]

theorem merge_cons (cs : List Correlation) (first : Nat) (line : String) (below : List String) :
    merge cs first (line :: below) =
      blocksAt cs first ++ line :: merge cs (first + 1) below := by
  simp [merge]

theorem merge_eq (cs : List Correlation) (present : lines[index]? = some line) :
    merge cs 0 lines = (merge cs 0 (lines.take index) ++ blocksAt cs index) ++
      line :: merge cs (index + 1) (lines.drop (index + 1)) := by
  obtain ⟨inside, rfl⟩ := List.getElem?_eq_some_iff.mp present
  have around : lines.take index ++ lines[index] :: lines.drop (index + 1) = lines := by
    rw [← List.drop_eq_getElem_cons inside, List.take_append_drop]
  calc
    merge cs 0 lines = merge cs 0 (lines.take index ++ lines[index] :: lines.drop (index + 1)) := by
      rw [around]
    _ = merge cs 0 (lines.take index) ++
        merge cs (0 + (lines.take index).length) (lines[index] :: lines.drop (index + 1)) :=
      merge_append ..
    _ = _ := by
      rw [List.length_take_of_le (Nat.le_of_lt inside), Nat.zero_add, merge_cons,
        List.append_assoc]

theorem merge_congr {cs cs' : List Correlation} {first : Nat} {lines : List String}
    (same : ∀ index, first ≤ index → index < first + lines.length →
      blocksAt cs index = blocksAt cs' index) : merge cs first lines = merge cs' first lines := by
  induction lines generalizing first with
  | nil => rfl
  | cons line below induction =>
      rw [merge_cons, merge_cons, same first (Nat.le_refl first) (by simp)]
      rw [induction fun index after before => same index (by omega) (by simp; omega)]

theorem length_merge (nonneg : ∀ c ∈ cs, 0 ≤ c.target.startLine) (above : List String) :
    (merge cs 0 above ++ blocksAt cs above.length).length =
      above.length + height cs above.length := by
  induction above using List.reverseRecOn with
  | nil => simp [merge, height_zero nonneg]
  | append_singleton above line induction =>
      have heights := height_succ cs above.length
      simp only [merge_append, merge_cons, List.length_append, List.length_cons] at induction ⊢
      simp only [Nat.zero_add, List.length_nil] at induction ⊢
      have nothing : merge cs (above.length + 1) [] = [] := rfl
      rw [nothing, List.length_nil]
      omega

theorem length_before (nonneg : ∀ c ∈ cs, 0 ≤ c.target.startLine)
    (present : lines[index]? = some line) :
    (merge cs 0 (lines.take index) ++ blocksAt cs index).length = index + height cs index := by
  have inside := (List.getElem?_eq_some_iff.mp present).1
  have measured := length_merge nonneg (lines.take index)
  rwa [List.length_take_of_le (Nat.le_of_lt inside)] at measured

theorem merge_getElem? (nonneg : ∀ c ∈ cs, 0 ≤ c.target.startLine)
    (present : lines[index]? = some line) :
    (merge cs 0 lines)[index + height cs index]? = some line := by
  rw [merge_eq cs present, ← length_before nonneg present,
    List.getElem?_append_right (Nat.le_refl _)]
  simp

theorem merge_insert (nonneg : ∀ c ∈ cs, 0 ≤ c.target.startLine)
    (place : c.target.startLine = index) (present : lines[index]? = some line) :
    (merge cs 0 lines).take (index + height cs index) ++ c.block ++
      (merge cs 0 lines).drop (index + height cs index) = merge (cs ++ [c]) 0 lines := by
  -- The merge changes only above the line itself, and just behind what is there already.
  have elsewhere : ∀ other : Nat, other ≠ index →
      blocksAt cs other = blocksAt (cs ++ [c]) other := by
    intro other differ
    have apart : ¬ c.target.startLine = other := by omega
    rw [blocksAt_append, blocksAt_singleton, if_neg apart, List.append_nil]
  have here : blocksAt (cs ++ [c]) index = blocksAt cs index ++ c.block := by
    rw [blocksAt_append, blocksAt_singleton, if_pos place]
  have above : merge (cs ++ [c]) 0 (lines.take index) = merge cs 0 (lines.take index) := by
    refine (merge_congr fun other _ before => elsewhere other ?_).symm
    have short := List.length_take_le index lines
    omega
  have below : merge (cs ++ [c]) (index + 1) (lines.drop (index + 1)) =
      merge cs (index + 1) (lines.drop (index + 1)) :=
    (merge_congr fun other after _ => elsewhere other (by omega)).symm
  rw [merge_eq (cs ++ [c]) present, merge_eq cs present, ← length_before nonneg present,
    List.take_left, List.drop_left, above, below, here]
  simp

/-! The drift. -/

def drifted (cs : List Correlation) (size : Nat) : DriftIndex where
  currentLines := (List.range size).map fun index => ((index + height cs index : Nat) : Int)

@[simp] theorem size_drifted (cs : List Correlation) (size : Nat) :
    (drifted cs size).size = size := by
  simp [drifted, DriftIndex.size]

theorem displacement_shifts (cs : List Correlation) (index : Nat) :
    DriftIndex.displacement (cs.map (·.shift)) index = height cs index := by
  induction cs with
  | nil => rfl
  | cons c rest induction =>
      rw [List.map_cons, ← List.singleton_append, DriftIndex.displacement_append, induction,
        DriftIndex.displacement_singleton, ← List.singleton_append (l := rest), height_append,
        height_singleton, Nat.cast_add]
      congr 1
      exact (Nat.cast_ite ..).symm

theorem drifted_eq_displaced (cs : List Correlation) (size : Nat) :
    drifted cs size = (DriftIndex.ofSize size).displaced (cs.map (·.shift)) := by
  refine congrArg DriftIndex.mk (List.ext_getElem ?_ fun index _ _ => ?_)
  · simp [DriftIndex.ofSize]
  · simp [DriftIndex.ofSize, displacement_shifts]

theorem current?_drifted (cs : List Correlation) {size : Nat} (inside : index < size) :
    (drifted cs size).current? index = some ((index + height cs index : Nat) : Int) := by
  rw [drifted_eq_displaced, DriftIndex.current?_displaced_ofSize inside, displacement_shifts,
    Nat.cast_add]

theorem shift?_drifted (cs : List Correlation) (size : Nat)
    (nonneg : 0 ≤ c.target.startLine) :
    (drifted cs size).shift? c.target.startLine c.block.length =
      some (drifted (cs ++ [c]) size) := by
  rw [drifted_eq_displaced, drifted_eq_displaced, List.map_append, DriftIndex.displaced_append]
  exact DriftIndex.shift?_eq_displaced (s := c.shift) nonneg

/-- What a state is when some correlations were inserted. -/
structure Merged (b : SourceBuffer) (cs : List Correlation) (s : State) : Prop where
  buffer : s.buffer = { b with lines := merge cs 0 b.lines }
  drift : s.drift = drifted cs b.size
  inserted : s.inserted = cs.length

theorem merged_ofBuffer (b : SourceBuffer) (trace : List Event) :
    Merged b [] { State.ofBuffer b with trace } := by
  refine { buffer := ?_, drift := ?_, inserted := rfl }
  · simp [State.ofBuffer, merge, blocksAt, ← List.map_eq_flatMap]
  · simp [State.ofBuffer, DriftIndex.ofSize, drifted, height]

theorem State.insert?_eq_some {s : State} {now : Int} {drift : DriftIndex}
    (current : s.drift.current? c.target.startLine = some now)
    (shifted : s.drift.shift? c.target.startLine c.block.length = some drift) :
    s.insert? c = some {
      buffer := s.buffer.insert now c.block
      drift
      inserted := s.inserted + 1
      trace := s.trace ++ [.documented c.native.kind c.target.name c.block.length] } := by
  unfold Correlation.block at shifted ⊢
  simp only [insert?, current, shifted]
  rfl

theorem Merged.insert? {b : SourceBuffer} {s : State} (merged : Merged b cs s)
    (nonneg : ∀ c ∈ cs, 0 ≤ c.target.startLine)
    (place : 0 ≤ c.target.startLine ∧ c.target.startLine < b.size) :
    ∃ after, s.insert? c = some after ∧ Merged b (cs ++ [c]) after := by
  obtain ⟨index, start⟩ := Int.eq_ofNat_of_zero_le place.1
  have inside : index < b.lines.length := by
    have below := place.2
    rw [start] at below
    exact Int.ofNat_lt.mp below
  have present : b.lines[index]? = some b.lines[index] := List.getElem?_eq_getElem inside
  have bound : index + height cs index ≤ s.buffer.size := by
    obtain ⟨standing, _⟩ := List.getElem?_eq_some_iff.mp (merge_getElem? nonneg present)
    rw [merged.buffer]
    exact Nat.le_of_lt standing
  have current : s.drift.current? c.target.startLine =
      some ((index + height cs index : Nat) : Int) := by
    rw [merged.drift, start]
    exact current?_drifted cs inside
  have shifted : s.drift.shift? c.target.startLine c.block.length =
      some (drifted (cs ++ [c]) b.size) := by
    rw [merged.drift]
    exact shift?_drifted cs b.size place.1
  refine ⟨_, State.insert?_eq_some current shifted, {
    buffer := ?_
    drift := rfl
    inserted := by simp [merged.inserted] }⟩
  rw [SourceBuffer.insert, cutIndex_ofNat bound, merged.buffer, merge_insert nonneg start present]

theorem Merged.insertAll {b : SourceBuffer} {s : State} {rest : List Correlation}
    (merged : Merged b cs s)
    (places : ∀ c ∈ cs ++ rest, 0 ≤ c.target.startLine ∧ c.target.startLine < b.size) :
    ∃ after, s.insertAll rest = (.ok (), after) ∧ Merged b (cs ++ rest) after := by
  induction rest generalizing cs s with
  | nil => exact ⟨s, rfl, by simpa using merged⟩
  | cons c rest induction =>
      have nonneg : ∀ c ∈ cs, 0 ≤ c.target.startLine :=
        fun c member => (places c (List.mem_append_left _ member)).1
      have place := places c (List.mem_append_right cs List.mem_cons_self)
      obtain ⟨next, inserted, mergedNext⟩ := merged.insert? nonneg place
      rw [← List.singleton_append, ← List.append_assoc] at places ⊢
      obtain ⟨after, finished, mergedAfter⟩ := induction mergedNext places
      refine ⟨after, ?_, mergedAfter⟩
      rw [List.singleton_append, State.insertAll, inserted]
      exact finished

/-- If each correlation has a target on a line of the file, documenting the file does not fail. It
gives what a single walk over the lines would give, counts each correlation, and its drift says
where each initial line is now. -/
theorem run_eq_merge (container : String) (tree : SyntaxTree) (natives : List NativeDeclaration)
    (b : SourceBuffer)
    (places : ∀ c ∈ Correlation.all container tree natives,
      0 ≤ c.target.startLine ∧ c.target.startLine < b.size) :
    ∃ s, run container tree natives b = (.ok (), s) ∧
      s.buffer = { b with lines := merge (Correlation.all container tree natives) 0 b.lines } ∧
      s.inserted = (Correlation.all container tree natives).length ∧
      s.drift.size = b.size ∧
      ∀ (index : Nat) (line : String), b.lines[index]? = some line →
        ∃ now : Nat, now = index + height (Correlation.all container tree natives) index ∧
          s.drift.current? index = some (now : Int) ∧ s.buffer.get? now = some line := by
  let cs := Correlation.all container tree natives
  have nonneg : ∀ c ∈ cs, 0 ≤ c.target.startLine := fun c member => (places c member).1
  obtain ⟨s, finished, merged⟩ :=
    (merged_ofBuffer b (warnings container tree)).insertAll (by simpa using places)
  rw [List.nil_append] at merged
  refine ⟨{ s with trace := s.trace ++ [.documentedTotal s.inserted] }, ?_, merged.buffer,
    merged.inserted, ?_, ?_⟩
  · rw [run, finished]
  · rw [merged.drift, size_drifted]
  · intro index line present
    have inside := (List.getElem?_eq_some_iff.mp present).1
    refine ⟨index + height cs index, rfl, ?_, ?_⟩
    · rw [merged.drift]
      exact current?_drifted cs inside
    · rw [SourceBuffer.get?_natCast, merged.buffer]
      exact merge_getElem? nonneg present

def interop : SourceBuffer where
  lines := ["struct S; class M : void F();", "enum E;"]
  trailingNewline := true

def interopTree : SyntaxTree where
  declarations := [
    { kind := .structType, name := "S", startLine := 0, endLine := 0 },
    { kind := .classType, name := "M", startLine := 0, endLine := 0,
      members := [{ name := "F", startLine := 0, endLine := 0 }] },
    { kind := .enumType, name := "E", startLine := 1, endLine := 1 }]

def interopNatives : List NativeDeclaration :=
  [{ name := "f", kind := .function, fragments := some ["Runs.", "Ends."] },
    { name := "s", kind := .structType, fragments := some ["A struct."] },
    { name := "e", kind := .enumType, fragments := some ["An enumeration."] }]

theorem run_eq_merge_interop :
    (∀ c ∈ Correlation.all "M" interopTree interopNatives,
        0 ≤ c.target.startLine ∧ c.target.startLine < interop.size) ∧
      ∃ s, run "M" interopTree interopNatives interop = (.ok (), s) ∧
        s.buffer.lines =
          ["    /// <summary>", "    /// A struct.", "    /// </summary>",
            "        /// <summary>", "        /// Runs.", "        /// Ends.",
            "        /// </summary>", "struct S; class M : void F();",
            "    /// <summary>", "    /// An enumeration.", "    /// </summary>", "enum E;"] ∧
        s.inserted = 3 ∧ s.drift.current? 1 = some 11 := by
  have correlated : Correlation.all "M" interopTree interopNatives =
      [⟨⟨"E", 1⟩, ⟨"e", .enumType, some ["An enumeration."]⟩, 1⟩,
        ⟨⟨"S", 0⟩, ⟨"s", .structType, some ["A struct."]⟩, 1⟩,
        ⟨⟨"F", 0⟩, ⟨"f", .function, some ["Runs.", "Ends."]⟩, 2⟩] := by
    decide +kernel
  have places : ∀ c ∈ Correlation.all "M" interopTree interopNatives,
      0 ≤ c.target.startLine ∧ c.target.startLine < interop.size := by
    rw [correlated]
    decide
  obtain ⟨s, finished, buffer, inserted, _, drift⟩ :=
    run_eq_merge "M" interopTree interopNatives interop places
  refine ⟨places, s, finished, ?_, ?_, ?_⟩
  · rw [buffer, correlated]
    rfl
  · rw [inserted, correlated]
    rfl
  · obtain ⟨now, rfl, current, _⟩ := drift 1 "enum E;" rfl
    rw [correlated] at current
    exact current

end Documentation

end BindingRepair
