import BindingRepair.Proofs.Text.Rewriting
import BindingRepair.Text.LineBreak

namespace BindingRepair

namespace Text

/-- A text without characters that end lines. -/
def Unbroken (s : List Char) : Prop :=
  ∀ c ∈ s, isLineBreak c = false

-- Named, since a search over all characters would decide this as well, but never come to its end.
instance (s : List Char) : Decidable (Unbroken s) :=
  List.decidableBAll (fun c => isLineBreak c = false) s

theorem Unbroken.not_mem_lineFeed {s : List Char} (unbroken : Unbroken s) : '\n' ∉ s :=
  fun member => absurd (unbroken '\n' member) (by decide)

theorem Unbroken.of_sublist {s t : List Char} (unbroken : Unbroken t) (part : s.Sublist t) :
    Unbroken s :=
  fun c member => unbroken c (part.subset member)

theorem Unbroken.append {s t : List Char} (front : Unbroken s) (back : Unbroken t) :
    Unbroken (s ++ t) := by
  intro c member
  rcases List.mem_append.mp member with before | behind
  · exact front c before
  · exact back c behind

theorem mem_of_mem_intercalate {α : Type} {separator : List α} {parts : List (List α)} {a : α}
    (member : a ∈ separator.intercalate parts) : a ∈ separator ∨ ∃ part ∈ parts, a ∈ part := by
  induction parts with
  | nil => cases member
  | cons part rest induction =>
      cases rest with
      | nil =>
          rw [List.intercalate_singleton] at member
          exact .inr ⟨part, List.mem_cons_self, member⟩
      | cons next others =>
          rw [List.intercalate_cons_cons, List.mem_append, List.mem_append] at member
          rcases member with (inside | between) | later
          · exact .inr ⟨part, List.mem_cons_self, inside⟩
          · exact .inl between
          · rcases induction later with between | ⟨other, listed, inside⟩
            · exact .inl between
            · exact .inr ⟨other, List.mem_cons_of_mem part listed, inside⟩

theorem map_intercalate {α β : Type} (f : α → β) (separator : List α) (parts : List (List α)) :
    (separator.intercalate parts).map f =
      (separator.map f).intercalate (parts.map (List.map f)) := by
  induction parts with
  | nil => rfl
  | cons part rest induction =>
      cases rest with
      | nil => simp
      | cons next others =>
          rw [List.intercalate_cons_cons, List.map_append, List.map_append, induction]
          simp [List.intercalate_cons_cons]

theorem Unbroken.intercalate {separator : List Char} {parts : List (List Char)}
    (separates : Unbroken separator) (unbroken : ∀ part ∈ parts, Unbroken part) :
    Unbroken (separator.intercalate parts) := by
  intro c member
  rcases mem_of_mem_intercalate member with between | ⟨part, listed, inside⟩
  · exact separates c between
  · exact unbroken part listed c inside

theorem Unbroken.of_rewrites {old new s t : List Char} {n : Nat} (unbroken : Unbroken s)
    (unbrokenNew : Unbroken new) (rewritten : Rewrites old new n s t) : Unbroken t := by
  intro c member
  rcases rewritten.mem_or_mem member with before | inserted
  · exact unbroken c before
  · exact unbrokenNew c inserted

def rows (text : String) : List String :=
  splitOnChar '\n' text

theorem splitAt_of_not_mem {separator : Char} {s : List Char} (free : separator ∉ s) :
    splitAt separator s = [s] := by
  induction s with
  | nil => rfl
  | cons c rest induction =>
      have differ : ¬ c = separator := fun equality => free (by simp [equality])
      rw [splitAt, if_neg differ, induction fun member => free (List.mem_cons_of_mem c member)]
      rfl

theorem splitAt_append_cons {separator : Char} {s : List Char} (free : separator ∉ s)
    (rest : List Char) :
    splitAt separator (s ++ separator :: rest) = s :: splitAt separator rest := by
  induction s with
  | nil => simp [splitAt]
  | cons c cs induction =>
      have differ : ¬ c = separator := fun equality => free (by simp [equality])
      rw [List.cons_append, splitAt, if_neg differ,
        induction fun member => free (List.mem_cons_of_mem c member)]
      rfl

theorem splitAt_intercalate {separator : Char} {parts : List (List Char)}
    (nonempty : parts ≠ []) (free : ∀ part ∈ parts, separator ∉ part) :
    splitAt separator ([separator].intercalate parts) = parts := by
  induction parts with
  | nil => exact absurd rfl nonempty
  | cons part rest induction =>
      have freePart : separator ∉ part := free part List.mem_cons_self
      have freeRest : ∀ part ∈ rest, separator ∉ part :=
        fun part member => free part (List.mem_cons_of_mem _ member)
      cases rest with
      | nil => rw [List.intercalate_singleton, splitAt_of_not_mem freePart]
      | cons next others =>
          rw [List.intercalate_cons_cons, List.append_assoc, List.singleton_append,
            splitAt_append_cons freePart, induction (by simp) freeRest]

theorem map_ofList_toList (ls : List String) : (ls.map String.toList).map String.ofList = ls := by
  simp [Function.comp_def]

theorem map_toList_ofList (parts : List (List Char)) :
    (parts.map String.ofList).map String.toList = parts := by
  simp [Function.comp_def]

theorem toList_joinLines (ls : List String) :
    (joinLines ls).toList = ['\n'].intercalate (ls.map String.toList) := by
  rw [joinLines, String.toList_intercalate]
  rfl

theorem rows_joinLines {ls : List String} (nonempty : ls ≠ [])
    (unbroken : ∀ line ∈ ls, Unbroken line.toList) : rows (joinLines ls) = ls := by
  have free : ∀ part ∈ ls.map String.toList, '\n' ∉ part :=
    List.forall_mem_map.mpr fun line present => (unbroken line present).not_mem_lineFeed
  rw [rows, splitOnChar, toList_joinLines, splitAt_intercalate (by simpa using nonempty) free,
    map_ofList_toList]

end Text

end BindingRepair
