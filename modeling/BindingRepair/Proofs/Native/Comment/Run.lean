import Mathlib.Data.List.Nodup
import Mathlib.Data.List.TakeWhile
import BindingRepair.Native.Comment
import BindingRepair.Proofs.Text.Line

namespace BindingRepair.Comment

open Text

variable {α : Type} {keep : α → Bool} {a : α} {as run rest : List α}

theorem runs_cons_of_dropped (dropped : keep a = false) (rest : List α) :
    runs keep (a :: rest) = runs keep rest := by
  rw [runs, dropped]
  rfl

theorem runs_append_of_dropped {front : List α} (dropped : ∀ a ∈ front, keep a = false)
    (rest : List α) : runs keep (front ++ rest) = runs keep rest := by
  induction front with
  | nil => rfl
  | cons a front induction =>
      rw [List.cons_append, runs_cons_of_dropped (dropped a List.mem_cons_self),
        induction fun b member => dropped b (List.mem_cons_of_mem a member)]

theorem runs_append_of_kept (nonempty : run ≠ []) (kept : ∀ a ∈ run, keep a = true)
    (ends : rest.head?.any keep = false) : runs keep (run ++ rest) = run :: runs keep rest := by
  induction run with
  | nil => exact absurd rfl nonempty
  | cons a run induction =>
      have keptFirst : keep a = true := kept a List.mem_cons_self
      rw [List.cons_append, runs, keptFirst]
      cases run with
      | nil => simp [ends]
      | cons b others =>
          have keptNext : keep b = true := kept b (by simp)
          have later := induction (by simp) fun c member => kept c (List.mem_cons_of_mem a member)
          rw [later]
          simp [keptNext]

theorem runs_intercalate {blank : α} {groups : List (List α)} (dropped : keep blank = false)
    (kept : ∀ group ∈ groups, group ≠ [] ∧ ∀ a ∈ group, keep a = true) {back : List α}
    (droppedBack : ∀ a ∈ back, keep a = false) :
    runs keep ([blank].intercalate groups ++ back) = groups := by
  induction groups with
  | nil => simpa [runs] using runs_append_of_dropped droppedBack []
  | cons group rest induction =>
      obtain ⟨nonempty, keptGroup⟩ := kept group List.mem_cons_self
      have later := induction fun other member => kept other (List.mem_cons_of_mem group member)
      cases rest with
      | nil =>
          have ends : back.head?.any keep = false := by
            cases back with
            | nil => rfl
            | cons a others => exact droppedBack a List.mem_cons_self
          rw [List.intercalate_singleton, runs_append_of_kept nonempty keptGroup ends]
          exact congrArg (group :: ·) later
      | cons next others =>
          have ends : ([blank] ++ ([blank].intercalate (next :: others) ++ back)).head?.any keep =
              false := dropped
          rw [List.intercalate_cons_cons, List.append_assoc, List.append_assoc,
            runs_append_of_kept nonempty keptGroup ends, List.singleton_append,
            runs_cons_of_dropped dropped, later]

/-- Induction over a list from one run to the next. -/
theorem runs_induction (keep : α → Bool) {motive : List α → Prop} (nil : motive [])
    (dropped : ∀ a rest, keep a = false → motive rest → motive (a :: rest))
    (run : ∀ run rest, run ≠ [] → (∀ a ∈ run, keep a = true) → rest.head?.any keep = false →
      motive rest → motive (run ++ rest)) (as : List α) : motive as := by
  match as with
  | [] => exact nil
  | a :: others =>
      cases kept : keep a with
      | false => exact dropped a others kept (runs_induction keep nil dropped run others)
      | true =>
          have ends : (others.dropWhile keep).head?.any keep = false := by
            have first := List.head?_dropWhile_not keep others
            cases head : (others.dropWhile keep).head? with
            | none => rfl
            | some b =>
                rw [head] at first
                exact first
          have parts : a :: others.takeWhile keep ++ others.dropWhile keep = a :: others := by
            rw [List.cons_append, List.takeWhile_append_dropWhile]
          rw [← parts]
          exact run (a :: others.takeWhile keep) (others.dropWhile keep) (by simp)
            (List.forall_mem_cons.mpr ⟨kept, fun b member => List.mem_takeWhile_imp member⟩) ends
            (runs_induction keep nil dropped run (others.dropWhile keep))
termination_by as.length
decreasing_by
  · exact Nat.lt_succ_self _
  · exact Nat.lt_succ_of_le (List.length_dropWhile_le keep others)

theorem kept_of_mem_runs (member : run ∈ runs keep as) :
    run ≠ [] ∧ run.Sublist as ∧ ∀ a ∈ run, keep a = true := by
  induction as using runs_induction keep with
  | nil => cases member
  | dropped b rest dropped induction =>
      rw [runs_cons_of_dropped dropped] at member
      obtain ⟨nonempty, part, kept⟩ := induction member
      exact ⟨nonempty, part.cons b, kept⟩
  | run first rest nonempty kept ends induction =>
      rw [runs_append_of_kept nonempty kept ends] at member
      rcases List.mem_cons.mp member with rfl | later
      · exact ⟨nonempty, List.sublist_append_left run rest, kept⟩
      · obtain ⟨nonempty, part, kept⟩ := induction later
        exact ⟨nonempty, part.trans (List.sublist_append_right first rest), kept⟩

theorem runs_eq_nil_iff : runs keep as = [] ↔ ∀ a ∈ as, keep a = false := by
  induction as using runs_induction keep with
  | nil => simp [runs]
  | dropped a rest dropped induction => simp [runs_cons_of_dropped dropped, induction, dropped]
  | run first rest nonempty kept ends induction =>
      obtain ⟨a, others, rfl⟩ := List.exists_cons_of_ne_nil nonempty
      rw [runs_append_of_kept nonempty kept ends]
      refine ⟨nofun, fun dropped => ?_⟩
      have both := (dropped a (by simp)).symm.trans (kept a List.mem_cons_self)
      cases both

/-- All numbers from `first` to right before `stop` are of the kind, and neither the one before nor
`stop` itself is. -/
structure MaximalRun (p : Nat → Prop) (first stop : Nat) : Prop where
  nonempty : first < stop
  inside : ∀ i, first ≤ i → i < stop → p i
  begins : ∀ i, i + 1 = first → ¬ p i
  ends : ¬ p stop

def KeptAt (keep : α → Bool) (as : List α) (i : Nat) : Prop :=
  as[i]?.any keep = true

theorem keptAt_zero : KeptAt keep as 0 ↔ as.head?.any keep = true := by
  rw [KeptAt, List.head?_eq_getElem?]

theorem keptAt_append_left (kept : ∀ a ∈ run, keep a = true) (rest : List α) {i : Nat}
    (inside : i < run.length) : KeptAt keep (run ++ rest) i := by
  rw [KeptAt, List.getElem?_append_left inside, List.getElem?_eq_getElem inside]
  exact kept _ (List.getElem_mem inside)

theorem keptAt_append_right (run rest : List α) (i : Nat) :
    KeptAt keep (run ++ rest) (run.length + i) ↔ KeptAt keep rest i := by
  rw [KeptAt, List.getElem?_append_right (Nat.le_add_right _ _), Nat.add_sub_cancel_left, KeptAt]

theorem maximalRun_add_iff {p q : Nat → Prop} {n i j : Nat} (same : ∀ k, p (n + k) ↔ q k)
    (apart : ∀ k, k + 1 = n → p k → ¬ q 0) : MaximalRun p (n + i) (n + j) ↔ MaximalRun q i j := by
  constructor
  · intro maximal
    refine ⟨by have := maximal.nonempty; omega, fun k above below => ?_, fun k before => ?_, ?_⟩
    · exact (same k).mp (maximal.inside (n + k) (by omega) (by omega))
    · exact mt (same k).mpr (maximal.begins (n + k) (by omega))
    · exact mt (same j).mpr maximal.ends
  · intro maximal
    have nonempty := maximal.nonempty
    refine ⟨by omega, fun k above below => ?_, fun k before => ?_, mt (same j).mp maximal.ends⟩
    · obtain ⟨m, rfl⟩ := Nat.exists_eq_add_of_le (Nat.le_of_add_right_le above)
      exact (same m).mpr (maximal.inside m (by omega) (by omega))
    · cases i with
      | zero => exact fun present => apart k before present (maximal.inside 0 (by omega) nonempty)
      | succ m =>
          obtain rfl : k = n + m := by omega
          exact mt (same m).mp (maximal.begins m rfl)

theorem maximalRun_cons_iff (dropped : keep a = false) {first stop : Nat} :
    MaximalRun (KeptAt keep (a :: rest)) first stop ↔
      ∃ i j, first = 1 + i ∧ stop = 1 + j ∧ MaximalRun (KeptAt keep rest) i j := by
  have absent : ¬ KeptAt keep (a :: rest) 0 := by simp [keptAt_zero, dropped]
  have behind {i j : Nat} : MaximalRun (KeptAt keep (a :: rest)) (1 + i) (1 + j) ↔
      MaximalRun (KeptAt keep rest) i j := by
    refine maximalRun_add_iff (keptAt_append_right [a] rest) fun k before present => ?_
    obtain rfl : k = 0 := by omega
    exact absurd present absent
  constructor
  · intro maximal
    have nonempty := maximal.nonempty
    have later : first ≠ 0 := by
      rintro rfl
      exact absent (maximal.inside 0 (by omega) nonempty)
    obtain ⟨i, rfl⟩ := Nat.exists_eq_add_of_le (Nat.one_le_iff_ne_zero.mpr later)
    obtain ⟨j, rfl⟩ := Nat.exists_eq_add_of_le (show 1 ≤ stop by omega)
    exact ⟨i, j, rfl, rfl, behind.mp maximal⟩
  · rintro ⟨i, j, rfl, rfl, maximal⟩
    exact behind.mpr maximal

theorem maximalRun_append_iff (nonempty : run ≠ []) (kept : ∀ a ∈ run, keep a = true)
    (ends : rest.head?.any keep = false) {first stop : Nat} :
    MaximalRun (KeptAt keep (run ++ rest)) first stop ↔
      (first = 0 ∧ stop = run.length) ∨
        ∃ i j, first = run.length + i ∧ stop = run.length + j ∧
          MaximalRun (KeptAt keep rest) i j := by
  have absent : ¬ KeptAt keep rest 0 := by simp [keptAt_zero, ends]
  have absentBehind : ¬ KeptAt keep (run ++ rest) run.length :=
    mt (keptAt_append_right run rest 0).mp absent
  have behind {i j : Nat} : MaximalRun (KeptAt keep (run ++ rest)) (run.length + i)
      (run.length + j) ↔ MaximalRun (KeptAt keep rest) i j :=
    maximalRun_add_iff (keptAt_append_right run rest) fun _ _ _ => absent
  constructor
  · intro maximal
    have nonempty := maximal.nonempty
    by_cases inside : first < run.length
    · have starts : first = 0 := by
        by_contra later
        exact maximal.begins (first - 1) (by omega) (keptAt_append_left kept rest (by omega))
      have notBefore : ¬ stop < run.length := fun before =>
        maximal.ends (keptAt_append_left kept rest before)
      have notBehind : ¬ run.length < stop := fun beyond =>
        absentBehind (maximal.inside run.length (by omega) beyond)
      exact .inl ⟨starts, by omega⟩
    · obtain ⟨i, rfl⟩ := Nat.exists_eq_add_of_le (Nat.le_of_not_lt inside)
      obtain ⟨j, rfl⟩ := Nat.exists_eq_add_of_le (show run.length ≤ stop by omega)
      exact .inr ⟨i, j, rfl, rfl, behind.mp maximal⟩
  · rintro (⟨rfl, rfl⟩ | ⟨i, j, rfl, rfl, maximal⟩)
    · exact ⟨List.length_pos_iff.mpr nonempty,
        fun i _ inside => keptAt_append_left kept rest inside, nofun, absentBehind⟩
    · exact behind.mpr maximal

def slice (as : List α) (span : Nat × Nat) : List α :=
  (as.take span.2).drop span.1

def shifted (n : Nat) (span : Nat × Nat) : Nat × Nat :=
  (n + span.1, n + span.2)

theorem shifted_injective (n : Nat) : Function.Injective (shifted n) := by
  rintro ⟨i, j⟩ ⟨k, m⟩ same
  simpa [shifted] using same

theorem mem_map_shifted {n first stop : Nat} {spans : List (Nat × Nat)} :
    (first, stop) ∈ spans.map (shifted n) ↔
      ∃ i j, first = n + i ∧ stop = n + j ∧ (i, j) ∈ spans := by
  simp only [List.mem_map, shifted, Prod.exists, Prod.mk.injEq]
  exact exists₂_congr fun i j => by rw [and_comm, and_assoc, eq_comm, eq_comm (a := n + j)]

theorem slice_shifted (front rest : List α) (span : Nat × Nat) :
    slice (front ++ rest) (shifted front.length span) = slice rest span := by
  rw [slice, shifted, List.take_length_add_append, List.drop_length_add_append, slice]

theorem map_slice_shifted (front rest : List α) (spans : List (Nat × Nat)) :
    (spans.map (shifted front.length)).map (slice (front ++ rest)) = spans.map (slice rest) := by
  rw [List.map_map]
  exact List.map_congr_left fun span _ => slice_shifted front rest span

theorem exists_spans (keep : α → Bool) (as : List α) :
    ∃ spans : List (Nat × Nat), spans.Nodup ∧
      (∀ first stop, (first, stop) ∈ spans ↔ MaximalRun (KeptAt keep as) first stop) ∧
      runs keep as = spans.map (slice as) := by
  induction as using runs_induction keep with
  | nil =>
      refine ⟨[], List.nodup_nil, fun first stop => ⟨nofun, fun maximal => ?_⟩, rfl⟩
      have inside := maximal.inside first (Nat.le_refl _) maximal.nonempty
      cases inside
  | dropped a rest dropped induction =>
      obtain ⟨spans, distinct, places, held⟩ := induction
      refine ⟨spans.map (shifted 1), distinct.map (shifted_injective 1), fun first stop => ?_, ?_⟩
      · rw [mem_map_shifted, maximalRun_cons_iff dropped]
        simp only [places]
      · rw [runs_cons_of_dropped dropped, held]
        exact (map_slice_shifted [a] rest spans).symm
  | run run rest nonempty kept ends induction =>
      obtain ⟨spans, distinct, places, held⟩ := induction
      have filled : 0 < run.length := List.length_pos_iff.mpr nonempty
      refine ⟨(0, run.length) :: spans.map (shifted run.length), ?_, fun first stop => ?_, ?_⟩
      · refine List.nodup_cons.mpr ⟨fun member => ?_, distinct.map (shifted_injective _)⟩
        obtain ⟨i, j, starts, same, member⟩ := mem_map_shifted.mp member
        omega
      · rw [List.mem_cons, mem_map_shifted, maximalRun_append_iff nonempty kept ends]
        simp only [places, Prod.mk.injEq]
      · have here : slice (run ++ rest) (0, run.length) = run := List.take_left
        rw [runs_append_of_kept nonempty kept ends, held, List.map_cons, map_slice_shifted, here]

end BindingRepair.Comment
