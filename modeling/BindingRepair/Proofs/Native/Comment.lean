import BindingRepair.Proofs.Native.Comment.Run
import BindingRepair.Proofs.Text.Trim

namespace BindingRepair

namespace Comment

open Text

theorem dropEnd_sublist (line : List Char) : (dropEnd line).Sublist line := by
  unfold dropEnd
  split
  · next rest ended =>
      refine (trimEnd_sublist rest.reverse).trans ?_
      rw [← List.reverse_sublist, ended, List.reverse_reverse]
      exact ((List.Sublist.refl rest).cons '*').cons '/'
  · exact List.Sublist.refl line

theorem dropMarker_sublist (line : List Char) : (dropMarker line).Sublist line := by
  unfold dropMarker
  split
  · exact List.sublist_append_right ['/', '*', '*'] _
  · exact List.sublist_append_right ['/', '*'] _
  · exact List.sublist_append_right ['*', '/'] _
  · exact List.sublist_append_right ['*'] _
  · exact List.sublist_append_right ['/', '/', '/', '!'] _
  · exact List.sublist_append_right ['/', '/', '/'] _
  · exact List.sublist_append_right ['/', '/', '!'] _
  · exact List.sublist_append_right ['/', '/'] _
  · exact List.Sublist.refl _

theorem content_sublist (line : List Char) : (content line).Sublist line :=
  calc
    List.Sublist (content line) (dropMarker (dropEnd (trim line))) := trim_sublist _
    List.Sublist _ (dropEnd (trim line)) := dropMarker_sublist _
    List.Sublist _ (trim line) := dropEnd_sublist _
    List.Sublist _ line := trim_sublist line

theorem unbroken_of_mem_paragraphs {comment : String} {paragraph : List (List Char)}
    (member : paragraph ∈ paragraphs comment) : ∀ line ∈ paragraph, Unbroken line := by
  intro line inside
  obtain ⟨_, part, _⟩ := kept_of_mem_runs member
  obtain ⟨raw, present, rfl⟩ := List.mem_map.mp (part.mem inside)
  exact (unbroken_of_mem_lines present).of_sublist (content_sublist raw)

theorem toList_fragment (paragraph : List (List Char)) :
    (fragment paragraph).toList = [' '].intercalate paragraph := by
  rw [fragment, String.toList_intercalate, map_toList_ofList]
  rfl

theorem unbroken_fragment {paragraph : List (List Char)}
    (unbroken : ∀ line ∈ paragraph, Unbroken line) : Unbroken (fragment paragraph).toList := by
  rw [toList_fragment]
  exact Unbroken.intercalate (by decide) unbroken

theorem fragments?_of_paragraphs {comment : String} (nonempty : paragraphs comment ≠ []) :
    fragments? (some comment) = some ((paragraphs comment).map fragment) := by
  simp only [fragments?, Option.map_some, Option.getD_some]

theorem fragments?_eq_none_iff {comment : String} :
    fragments? (some comment) = none ↔ paragraphs comment = [] := by
  constructor
  · intro nothing
    by_contra nonempty
    rw [fragments?_of_paragraphs nonempty] at nothing
    cases nothing
  · intro empty
    simp only [fragments?, Option.map_some, Option.getD_some, empty]

theorem unbroken_of_mem_fragments? {comment : Option String} {fragments : List String}
    (read : fragments? comment = some fragments) :
    ∀ text ∈ fragments, Unbroken text.toList := by
  cases comment with
  | none => cases read
  | some comment =>
      simp only [fragments?, Option.map_some, Option.getD_some] at read
      split at read
      · cases read
      · obtain rfl := Option.some.inj read
        intro text member
        obtain ⟨paragraph, present, rfl⟩ := List.mem_map.mp member
        exact unbroken_fragment (unbroken_of_mem_paragraphs present)

end Comment

end BindingRepair
