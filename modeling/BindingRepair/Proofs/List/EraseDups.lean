import Mathlib.Data.List.Nodup

namespace BindingRepair.EraseDups

variable {α : Type} [BEq α]

/-- Induction along the recursion of `List.eraseDups`: behind an element, the rest of the list is
taken without it. -/
theorem inductionOn {motive : List α → Prop} (nil : motive [])
    (cons : ∀ a rest, motive (rest.filter fun b => !b == a) → motive (a :: rest)) :
    ∀ l, motive l
  | [] => nil
  | a :: rest => cons a rest (inductionOn nil cons _)
termination_by l => l.length
decreasing_by exact Nat.lt_succ_of_le (List.length_filter_le _ rest)

variable [LawfulBEq α]

theorem nodup (l : List α) : l.eraseDups.Nodup := by
  induction l using inductionOn with
  | nil => exact List.nodup_nil
  | cons a rest induction =>
      rw [List.eraseDups_cons, List.nodup_cons]
      refine ⟨fun member => ?_, induction⟩
      simp at member

theorem eq_self {l : List α} (distinct : l.Nodup) : l.eraseDups = l := by
  induction l with
  | nil => rfl
  | cons a rest induction =>
      obtain ⟨absent, distinctRest⟩ := List.nodup_cons.mp distinct
      have kept : (rest.filter fun b => !b == a) = rest :=
        List.filter_eq_self.mpr fun b member => by
          simpa using fun same : b = a => absent (same ▸ member)
      rw [List.eraseDups_cons, kept, induction distinctRest]

theorem eraseDups_filter (p : α → Bool) (l : List α) :
    (l.filter p).eraseDups = l.eraseDups.filter p := by
  induction l using inductionOn with
  | nil => rfl
  | cons a rest induction =>
      rw [List.eraseDups_cons]
      cases chosen : p a with
      | true =>
          rw [List.filter_cons_of_pos chosen, List.filter_cons_of_pos chosen,
            List.eraseDups_cons, ← induction]
          simp only [List.filter_filter, Bool.and_comm]
      | false =>
          have others : (rest.filter fun b => !b == a).filter p = rest.filter p := by
            rw [List.filter_filter]
            refine List.filter_congr fun b _ => ?_
            by_cases same : b = a
            · simp [same, chosen]
            · simp [same]
          rw [List.filter_cons_of_neg (by simp [chosen]),
            List.filter_cons_of_neg (by simp [chosen]), ← induction, others]

theorem append_eq (first second : List α) :
    (first ++ second).eraseDups =
      first.eraseDups ++ second.eraseDups.filter fun a => !first.eraseDups.contains a := by
  have same : (fun a => !first.elem a) = fun a => !first.eraseDups.contains a := by
    funext a
    rw [Bool.not_inj_iff, Bool.eq_iff_iff]
    simp
  rw [List.eraseDups_append, List.removeAll, eraseDups_filter, same]

theorem eraseDups_append (first second : List α) :
    (first.eraseDups ++ second.eraseDups).eraseDups = (first ++ second).eraseDups := by
  rw [append_eq, append_eq, eq_self (nodup first), eq_self (nodup second)]

end BindingRepair.EraseDups
