import Mathlib.Data.List.DropRight
import BindingRepair.Proofs.Text.Run

namespace BindingRepair.Text

variable {c : Char} {s t front back : List Char}

def Blank (s : List Char) : Prop :=
  ∀ c ∈ s, isBlank c = true

instance (s : List Char) : Decidable (Blank s) :=
  List.decidableBAll (fun c => isBlank c = true) s

theorem Blank.not_mem (blank : Blank s) (filled : isBlank c = false) : c ∉ s := by
  intro member
  rw [blank c member] at filled
  cases filled

theorem trimStart_sublist (s : List Char) : (trimStart s).Sublist s :=
  (List.dropWhile_suffix isBlank).sublist

theorem trimEnd_sublist (s : List Char) : (trimEnd s).Sublist s := by
  rw [trimEnd, ← List.reverse_sublist, List.reverse_reverse]
  exact (List.dropWhile_suffix isBlank).sublist

theorem trim_sublist (s : List Char) : (trim s).Sublist s :=
  (trimEnd_sublist _).trans (trimStart_sublist s)

theorem trimEnd_append_takeWhile (s : List Char) :
    trimEnd s ++ (s.reverse.takeWhile isBlank).reverse = s := by
  rw [trimEnd, ← List.reverse_append, List.takeWhile_append_dropWhile, List.reverse_reverse]

theorem stops_trimStart (s : List Char) : Stops isBlank (trimStart s) := by
  induction s with
  | nil => nofun
  | cons c s induction =>
      cases blank : isBlank c with
      | true => rwa [trimStart, List.dropWhile_cons_of_pos blank]
      | false =>
          rw [trimStart, List.dropWhile_cons_of_neg (by simp [blank])]
          exact stops_cons blank s

theorem trimStart_append_of_blank (blank : Blank front) (s : List Char) :
    trimStart (front ++ s) = trimStart s :=
  List.dropWhile_append_of_pos blank

theorem trimEnd_append_of_blank (s : List Char) (blank : Blank back) :
    trimEnd (s ++ back) = trimEnd s := by
  rw [trimEnd, trimEnd, List.reverse_append, List.dropWhile_append_of_pos]
  exact fun c member => blank c (List.mem_reverse.mp member)

theorem trimStart_eq_nil_iff : trimStart s = [] ↔ Blank s :=
  List.dropWhile_eq_nil_iff

theorem trimStart_append_cons (filled : isBlank c = false) (s t : List Char) :
    trimStart (s ++ c :: t) = trimStart s ++ c :: t := by
  induction s with
  | nil => exact (stops_cons filled t).dropWhile_eq
  | cons d s induction =>
      cases blank : isBlank d with
      | true =>
          rw [List.cons_append, trimStart, trimStart, List.dropWhile_cons_of_pos blank,
            List.dropWhile_cons_of_pos blank]
          exact induction
      | false =>
          have kept (more : List Char) : trimStart (d :: more) = d :: more :=
            (stops_cons blank more).dropWhile_eq
          rw [List.cons_append, kept, kept, List.cons_append]

theorem trimEnd_append_cons (filled : isBlank c = false) (s t : List Char) :
    trimEnd (s ++ c :: t) = s ++ c :: trimEnd t := by
  have mirrored : (s ++ c :: t).reverse = t.reverse ++ c :: s.reverse := by simp
  have behind : (t.reverse ++ c :: s.reverse).dropWhile isBlank =
      t.reverse.dropWhile isBlank ++ c :: s.reverse := trimStart_append_cons filled _ _
  rw [trimEnd, mirrored, behind]
  simp [trimEnd]

theorem trim_append_cons (filled : isBlank c = false) (s t : List Char) :
    trim (s ++ c :: t) = trimStart s ++ c :: trimEnd t := by
  rw [trim, trimStart_append_cons filled, trimEnd_append_cons filled]

theorem exists_of_not_blank (filled : ¬ Blank s) :
    ∃ before c after, s = before ++ c :: after ∧ isBlank c = false := by
  simp only [Blank, not_forall, Bool.not_eq_true] at filled
  obtain ⟨c, member, other⟩ := filled
  obtain ⟨before, after, rfl⟩ := List.append_of_mem member
  exact ⟨before, c, after, rfl, other⟩

theorem trim_eq_nil_iff : trim s = [] ↔ Blank s := by
  constructor
  · intro empty
    by_contra filled
    obtain ⟨before, c, after, rfl, other⟩ := exists_of_not_blank filled
    rw [trim_append_cons other] at empty
    simp at empty
  · intro blank
    rw [trim, trimStart_eq_nil_iff.mpr blank]
    rfl

theorem trim_append_of_blank (s : List Char) (blank : Blank back) : trim (s ++ back) = trim s := by
  by_cases empty : Blank s
  · have whole : Blank (s ++ back) := fun c member =>
      (List.mem_append.mp member).elim (empty c) (blank c)
    rw [trim_eq_nil_iff.mpr whole, trim_eq_nil_iff.mpr empty]
  · obtain ⟨before, c, after, rfl, filled⟩ := exists_of_not_blank empty
    rw [List.append_assoc, List.cons_append, trim_append_cons filled, trim_append_cons filled,
      trimEnd_append_of_blank _ blank]

theorem trim_blank_append (blank : Blank front) (s : List Char) : trim (front ++ s) = trim s := by
  rw [trim, trimStart_append_of_blank blank, trim]

theorem trim_trimStart (s : List Char) : trim (trimStart s) = trim s := by
  rw [trim, trim, trimStart, trimStart, List.dropWhile_idempotent]

theorem trim_trimEnd (s : List Char) : trim (trimEnd s) = trim s := by
  have blank : Blank (s.reverse.takeWhile isBlank).reverse :=
    fun c member => List.mem_takeWhile_imp (List.mem_reverse.mp member)
  rw [← trim_append_of_blank (trimEnd s) blank, trimEnd_append_takeWhile]

theorem stops_trim (s : List Char) : Stops isBlank (trim s) := by
  have begins : Stops isBlank (trim s ++ ((trimStart s).reverse.takeWhile isBlank).reverse) := by
    rw [trim, trimEnd_append_takeWhile]
    exact stops_trimStart s
  exact begins.of_append

theorem stops_reverse_trim (s : List Char) : Stops isBlank (trim s).reverse := by
  rw [trim, trimEnd, List.reverse_reverse]
  exact stops_trimStart (trimStart s).reverse

theorem trim_trim (s : List Char) : trim (trim s) = trim s :=
  trim_eq_self (stops_trim s) (stops_reverse_trim s)

theorem trim_blank_append_append (before : Blank front) (behind : Blank back)
    (begins : Stops isBlank s) (ends : Stops isBlank s.reverse) :
    trim (front ++ s ++ back) = s := by
  rw [trim_append_of_blank _ behind, trim_blank_append before, trim_eq_self begins ends]

end BindingRepair.Text
