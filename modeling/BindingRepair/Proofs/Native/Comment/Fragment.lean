import Mathlib.Data.Set.Card
import BindingRepair.Proofs.Native.Comment
import BindingRepair.Proofs.Text.Run

namespace BindingRepair

namespace Text

variable {p : Char → Bool} {separator : List Char} {parts : List (List Char)}

theorem intercalate_ne_nil (nonempty : parts ≠ []) (filled : ∀ part ∈ parts, part ≠ []) :
    separator.intercalate parts ≠ [] := by
  cases parts with
  | nil => exact absurd rfl nonempty
  | cons part rest =>
      have first : part ≠ [] := filled part List.mem_cons_self
      cases rest with
      | nil => simpa using first
      | cons next others => simp [List.intercalate_cons_cons, first]

theorem stops_intercalate (filled : ∀ part ∈ parts, part ≠ [] ∧ Stops p part) :
    Stops p (separator.intercalate parts) := by
  cases parts with
  | nil => nofun
  | cons part rest =>
      obtain ⟨nonempty, begins⟩ := filled part List.mem_cons_self
      cases rest with
      | nil => simpa using begins
      | cons next others =>
          rw [List.intercalate_cons_cons, List.append_assoc]
          exact begins.append nonempty

theorem stops_reverse_intercalate (filled : ∀ part ∈ parts, part ≠ [] ∧ Stops p part.reverse) :
    Stops p (separator.intercalate parts).reverse := by
  induction parts with
  | nil => nofun
  | cons part rest induction =>
      have later := induction fun other member => filled other (List.mem_cons_of_mem part member)
      cases rest with
      | nil => simpa using (filled part List.mem_cons_self).2
      | cons next others =>
          have nonempty : separator.intercalate (next :: others) ≠ [] :=
            intercalate_ne_nil (by simp) fun other member =>
              (filled other (List.mem_cons_of_mem part member)).1
          rw [List.intercalate_cons_cons, List.reverse_append]
          exact later.append (by simpa using nonempty)

end Text

namespace Comment

open Text

variable {comment : String} {paragraph : List (List Char)}

/-- A text on one line that is not empty and has no white space around it. -/
structure IsClean (text : String) : Prop where
  nonempty : text.toList ≠ []
  unbroken : Unbroken text.toList
  begins : Stops isBlank text.toList
  ends : Stops isBlank text.toList.reverse

theorem isTelling_eq_false_iff {said : List Char} :
    isTelling said = false ↔ said ∈ [[], ['*'], ['/']] := by
  simp only [isTelling, Bool.not_eq_false', Bool.or_eq_true, decide_eq_true_eq, or_assoc,
    List.mem_cons, List.not_mem_nil, or_false]

theorem ne_nil_of_isTelling {said : List Char} (telling : isTelling said = true) : said ≠ [] := by
  rintro rfl
  cases telling

theorem isClean_of_mem_paragraphs (member : paragraph ∈ paragraphs comment) :
    IsClean (fragment paragraph) := by
  obtain ⟨nonempty, part, telling⟩ := kept_of_mem_runs member
  have trimmed : ∀ said ∈ paragraph, Stops isBlank said ∧ Stops isBlank said.reverse := by
    intro said inside
    obtain ⟨line, _, rfl⟩ := List.mem_map.mp (part.mem inside)
    exact ⟨stops_trim _, stops_reverse_trim _⟩
  refine { nonempty := ?_, unbroken := ?_, begins := ?_, ends := ?_ }
  · rw [toList_fragment]
    exact intercalate_ne_nil nonempty fun said inside => ne_nil_of_isTelling (telling said inside)
  · exact unbroken_fragment (unbroken_of_mem_paragraphs member)
  · rw [toList_fragment]
    exact stops_intercalate fun said inside =>
      ⟨ne_nil_of_isTelling (telling said inside), (trimmed said inside).1⟩
  · rw [toList_fragment]
    exact stops_reverse_intercalate fun said inside =>
      ⟨ne_nil_of_isTelling (telling said inside), (trimmed said inside).2⟩

theorem getD_fragments? (comment : String) :
    (fragments? (some comment)).getD [] = (paragraphs comment).map fragment := by
  by_cases empty : paragraphs comment = []
  · rw [fragments?_eq_none_iff.mpr empty, empty]
    rfl
  · rw [fragments?_of_paragraphs empty, Option.getD_some]

/-- The line with a number says something: what it says is neither empty nor a star or a slash
alone. -/
def TellsAt (comment : String) (row : Nat) : Prop :=
  ∃ line, (lines comment.toList)[row]? = some line ∧ content line ∉ [[], ['*'], ['/']]

theorem keptAt_eq_tellsAt (comment : String) :
    KeptAt isTelling ((lines comment.toList).map content) = TellsAt comment := by
  funext row
  have telling (said : List Char) : isTelling said = true ↔ said ∉ [[], ['*'], ['/']] := by
    rw [← isTelling_eq_false_iff, Bool.not_eq_false]
  rw [KeptAt, List.getElem?_map, Option.any_map, Option.any_eq_true, TellsAt]
  simp only [telling]

theorem slice_map {α β : Type} (f : α → β) (as : List α) (span : Nat × Nat) :
    slice (as.map f) span = (slice as span).map f := by
  rw [slice, slice, List.map_drop, List.map_take]

theorem exists_fragment_spans (comment : String) :
    ∃ spans : List (Nat × Nat), spans.Nodup ∧
      (∀ first stop, (first, stop) ∈ spans ↔ MaximalRun (TellsAt comment) first stop) ∧
      (fragments? (some comment)).getD [] =
        spans.map fun span => fragment ((slice (lines comment.toList) span).map content) := by
  obtain ⟨spans, distinct, places, held⟩ :=
    exists_spans isTelling ((lines comment.toList).map content)
  rw [keptAt_eq_tellsAt] at places
  refine ⟨spans, distinct, places, ?_⟩
  rw [getD_fragments?, paragraphs, held, List.map_map]
  exact List.map_congr_left fun span _ => congrArg fragment (slice_map content _ span)

theorem length_fragments? (comment : String) :
    ((fragments? (some comment)).getD []).length =
      {span : Nat × Nat | MaximalRun (TellsAt comment) span.1 span.2}.ncard := by
  obtain ⟨spans, distinct, places, read⟩ := exists_fragment_spans comment
  have runs : {span : Nat × Nat | MaximalRun (TellsAt comment) span.1 span.2} =
      ↑spans.toFinset := by
    ext ⟨first, stop⟩
    simp [places]
  rw [read, List.length_map, runs, Set.ncard_coe_finset, List.toFinset_card_of_nodup distinct]

/-- What is read of a comment is a fragment for each maximal run of lines that say something, and
each of them is clean. Nothing is read exactly if each line says nothing or is the rest of a mark
alone. -/
theorem fragments?_clean_counted (comment : String) :
    (∀ fragments, fragments? (some comment) = some fragments →
      fragments ≠ [] ∧ ∀ text ∈ fragments, IsClean text) ∧
    (fragments? (some comment) = none ↔
      ∀ line ∈ lines comment.toList, content line ∈ [[], ['*'], ['/']]) ∧
    ((fragments? (some comment)).getD []).length =
      {span : Nat × Nat | MaximalRun (TellsAt comment) span.1 span.2}.ncard := by
  refine ⟨fun fragments read => ?_, ?_, length_fragments? comment⟩
  · have listed := getD_fragments? comment
    rw [read, Option.getD_some] at listed
    subst listed
    constructor
    · intro empty
      rw [List.map_eq_nil_iff, ← fragments?_eq_none_iff] at empty
      rw [empty] at read
      cases read
    · intro text member
      obtain ⟨paragraph, present, rfl⟩ := List.mem_map.mp member
      exact isClean_of_mem_paragraphs present
  · rw [fragments?_eq_none_iff, paragraphs, runs_eq_nil_iff, List.forall_mem_map]
    simp only [isTelling_eq_false_iff]

theorem fragments?_clean_counted_mixed :
    fragments? (some "/** a\r\n * b\u2028 **\x0b//! c */") = some ["a b", "c"] ∧
      IsClean "a b" ∧ IsClean "c" ∧
      {span : Nat × Nat | MaximalRun (TellsAt "/** a\r\n * b\u2028 **\x0b//! c */") span.1
        span.2}.ncard = 2 := by
  have read : fragments? (some "/** a\r\n * b\u2028 **\x0b//! c */") = some ["a b", "c"] := by
    decide +kernel
  obtain ⟨clean, _, counted⟩ := fragments?_clean_counted "/** a\r\n * b\u2028 **\x0b//! c */"
  have each := (clean _ read).2
  refine ⟨read, each "a b" (by simp), each "c" (by simp), ?_⟩
  rw [← counted, read]
  rfl

end Comment

end BindingRepair
