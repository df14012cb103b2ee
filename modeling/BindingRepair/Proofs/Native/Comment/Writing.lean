import BindingRepair.Proofs.Native.Comment
import BindingRepair.Proofs.Text.Run

namespace BindingRepair

namespace Comment

open Text

/-- A line of text that a comment can hold: it says something, and it does not end the comment. -/
structure IsTextLine (line : String) : Prop where
  nonempty : line.toList ≠ []
  unbroken : Unbroken line.toList
  begins : Stops isBlank line.toList
  ends : Stops isBlank line.toList.reverse
  notStar : line.toList ≠ ['*']
  notSlash : line.toList ≠ ['/']
  goesOn : ¬ ['*', '/'] <:+ line.toList

instance (line : String) : Decidable (IsTextLine line) :=
  decidable_of_iff
    (line.toList ≠ [] ∧ Unbroken line.toList ∧ Stops isBlank line.toList ∧
      Stops isBlank line.toList.reverse ∧ line.toList ≠ ['*'] ∧ line.toList ≠ ['/'] ∧
      ¬ ['*', '/'] <:+ line.toList)
    ⟨fun ⟨nonempty, unbroken, begins, ends, notStar, notSlash, goesOn⟩ =>
      { nonempty, unbroken, begins, ends, notStar, notSlash, goesOn },
    fun text => ⟨text.nonempty, text.unbroken, text.begins, text.ends, text.notStar,
      text.notSlash, text.goesOn⟩⟩

/-- How comments are written: between two marks, or with a mark before each line. -/
inductive Style
  | block
  | lines

namespace Style

def mark : Style → String
  | block => " *"
  | lines => "///"

def opening : Style → List String
  | block => ["/**"]
  | lines => []

def closing : Style → List String
  | block => [" */"]
  | lines => []

def marks (style : Style) : List String :=
  style.mark :: (style.opening ++ style.closing)

/-- The lines of a comment. A mark alone parts two paragraphs. -/
def written (style : Style) (paragraphs : List (List String)) : List String :=
  style.opening ++
    ([style.mark].intercalate (paragraphs.map (List.map (style.mark ++ " " ++ ·))) ++
      style.closing)

def comment (style : Style) (paragraphs : List (List String)) : String :=
  joinLines (style.written paragraphs)

def sign (style : Style) : List Char :=
  trim style.mark.toList

end Style

variable {style : Style} {line : String} {paragraphs : List (List String)}

theorem dropEnd_of_not_suffix {s : List Char} (goesOn : ¬ ['*', '/'] <:+ s) : dropEnd s = s := by
  unfold dropEnd
  split
  · next rest ended =>
      refine absurd ⟨rest.reverse, ?_⟩ goesOn
      rw [← List.reverse_eq_iff.mpr ended.symm]
      simp
  · rfl

theorem not_suffix_append_space {s : List Char} (goesOn : ¬ ['*', '/'] <:+ s)
    (front : List Char) : ¬ ['*', '/'] <:+ front ++ ' ' :: s := by
  intro ends
  rcases List.suffix_or_suffix_of_suffix ends (List.suffix_append front (' ' :: s)) with
    inside | around
  · rcases List.suffix_cons_iff.mp inside with whole | later
    · exact absurd (List.cons.inj whole).1 (by decide)
    · exact goesOn later
  · have member : ' ' ∈ ['*', '/'] := around.subset List.mem_cons_self
    exact absurd member (by decide)

theorem content_of_mem_marks : ∀ mark ∈ style.marks, content mark.toList = [] := by
  cases style with
  | block => decide
  | lines => decide

theorem unbroken_of_mem_marks : ∀ mark ∈ style.marks, Unbroken mark.toList := by
  cases style with
  | block => decide
  | lines => decide

theorem nonempty_of_mem_marks : ∀ mark ∈ style.marks, mark.toList ≠ [] := by
  cases style with
  | block => decide
  | lines => decide

theorem IsTextLine.trim_eq (text : IsTextLine line) (style : Style) :
    trim (style.mark ++ " " ++ line).toList = style.sign ++ ' ' :: line.toList := by
  have ends (front : List Char) : Stops isBlank (front ++ ' ' :: line.toList).reverse := by
    rw [List.reverse_append, List.reverse_cons, List.append_assoc]
    exact text.ends.append (by simpa using text.nonempty)
  have space : " ".toList = [' '] := by decide
  rw [String.toList_append, String.toList_append, List.append_assoc, space,
    List.singleton_append]
  cases style with
  | block =>
      have mark : Style.block.mark.toList = [' ', '*'] := by decide
      have sign : Style.block.sign = ['*'] := by decide
      rw [mark, sign, List.cons_append, trim_cons_of_blank (by decide)]
      exact trim_eq_self (stops_cons (by decide) _) (ends ['*'])
  | lines =>
      have mark : Style.lines.mark.toList = ['/', '/', '/'] := by decide
      have sign : Style.lines.sign = ['/', '/', '/'] := by decide
      rw [mark, sign]
      exact trim_eq_self (stops_cons (by decide) _) (ends ['/', '/', '/'])

/-- Only the mark before a line is taken off, even if the line starts like another one. -/
theorem IsTextLine.content_eq (text : IsTextLine line) (style : Style) :
    content (style.mark ++ " " ++ line).toList = line.toList := by
  have unmarked : dropMarker (style.sign ++ ' ' :: line.toList) = ' ' :: line.toList := by
    cases style with
    | block => rfl
    | lines => rfl
  calc
    content (style.mark ++ " " ++ line).toList
      = trim (dropMarker (dropEnd (style.sign ++ ' ' :: line.toList))) := by
        rw [content, text.trim_eq]
    _ = trim (dropMarker (style.sign ++ ' ' :: line.toList)) := by
        rw [dropEnd_of_not_suffix (not_suffix_append_space text.goesOn style.sign)]
    _ = trim (' ' :: line.toList) := by rw [unmarked]
    _ = line.toList := by
        rw [trim_cons_of_blank (by decide), trim_eq_self text.begins text.ends]

theorem IsTextLine.isTelling (text : IsTextLine line) : isTelling line.toList = true := by
  simp [Comment.isTelling, text.nonempty, text.notStar, text.notSlash]

theorem mem_written (member : line ∈ style.written paragraphs) :
    line ∈ style.marks ∨
      ∃ paragraph ∈ paragraphs, ∃ text ∈ paragraph, line = style.mark ++ " " ++ text := by
  simp only [Style.written, List.mem_append] at member
  rcases member with opens | between | closes
  · exact .inl (by simp [Style.marks, opens])
  · rcases mem_of_mem_intercalate between with alone | ⟨group, listed, inside⟩
    · exact .inl (by simp [Style.marks, List.mem_singleton.mp alone])
    · obtain ⟨paragraph, present, rfl⟩ := List.mem_map.mp listed
      obtain ⟨text, held, rfl⟩ := List.mem_map.mp inside
      exact .inr ⟨paragraph, present, text, held, rfl⟩
  · exact .inl (by simp [Style.marks, closes])

theorem lines_comment (texts : ∀ paragraph ∈ paragraphs, ∀ line ∈ paragraph, IsTextLine line) :
    Text.lines (style.comment paragraphs).toList =
      (style.written paragraphs).map String.toList := by
  have whole : ∀ line ∈ style.written paragraphs, Unbroken line.toList ∧ line.toList ≠ [] := by
    intro line member
    rcases mem_written member with marks | ⟨paragraph, listed, text, inside, rfl⟩
    · exact ⟨unbroken_of_mem_marks line marks, nonempty_of_mem_marks line marks⟩
    · have markUnbroken : Unbroken style.mark.toList :=
        unbroken_of_mem_marks style.mark List.mem_cons_self
      rw [String.toList_append, String.toList_append]
      exact ⟨(markUnbroken.append (by decide)).append (texts paragraph listed text inside).unbroken,
        by simp⟩
  rw [Style.comment, toList_joinLines]
  refine lines_intercalate_lineFeed (fun part member => ?_) fun last => ?_
  · obtain ⟨line, present, rfl⟩ := List.mem_map.mp member
    exact (whole line present).1
  · obtain ⟨line, present, empty⟩ := List.mem_map.mp (List.mem_of_getLast? last)
    exact (whole line present).2 empty

theorem map_content_written
    (texts : ∀ paragraph ∈ paragraphs, ∀ line ∈ paragraph, IsTextLine line) :
    (style.written paragraphs).map (content ∘ String.toList) =
      style.opening.map (content ∘ String.toList) ++
        ([[]].intercalate (paragraphs.map (List.map String.toList)) ++
          style.closing.map (content ∘ String.toList)) := by
  have read : (paragraphs.map (List.map (style.mark ++ " " ++ ·))).map
      (List.map (content ∘ String.toList)) = paragraphs.map (List.map String.toList) := by
    rw [List.map_map]
    refine List.map_congr_left fun paragraph listed => ?_
    rw [Function.comp_apply, List.map_map]
    refine List.map_congr_left fun line inside => ?_
    rw [Function.comp_apply, Function.comp_apply,
      (texts paragraph listed line inside).content_eq style]
  have parting : [style.mark].map (content ∘ String.toList) = [[]] := by
    rw [List.map_singleton, Function.comp_apply,
      content_of_mem_marks style.mark List.mem_cons_self]
  rw [Style.written, List.map_append, List.map_append, map_intercalate, read, parting]

theorem not_isTelling_of_marks {marks : List String} (among : marks ⊆ style.marks) :
    ∀ said ∈ marks.map (content ∘ String.toList), isTelling said = false := by
  intro said member
  obtain ⟨mark, listed, rfl⟩ := List.mem_map.mp member
  rw [Function.comp_apply, content_of_mem_marks mark (among listed)]
  rfl

theorem paragraphs_comment (texts : ∀ paragraph ∈ paragraphs,
      paragraph ≠ [] ∧ ∀ line ∈ paragraph, IsTextLine line) :
    Comment.paragraphs (style.comment paragraphs) = paragraphs.map (List.map String.toList) := by
  have kept : ∀ group ∈ paragraphs.map (List.map String.toList),
      group ≠ [] ∧ ∀ said ∈ group, isTelling said = true := by
    intro group member
    obtain ⟨paragraph, listed, rfl⟩ := List.mem_map.mp member
    refine ⟨by simpa using (texts paragraph listed).1, fun said inside => ?_⟩
    obtain ⟨line, held, rfl⟩ := List.mem_map.mp inside
    exact ((texts paragraph listed).2 line held).isTelling
  have opens : style.opening ⊆ style.marks :=
    fun mark member => List.mem_cons_of_mem _ (List.mem_append_left _ member)
  have closes : style.closing ⊆ style.marks :=
    fun mark member => List.mem_cons_of_mem _ (List.mem_append_right _ member)
  rw [Comment.paragraphs, lines_comment fun paragraph listed => (texts paragraph listed).2,
    List.map_map, map_content_written fun paragraph listed => (texts paragraph listed).2,
    runs_append_of_dropped (not_isTelling_of_marks opens),
    runs_intercalate rfl kept (not_isTelling_of_marks closes)]

theorem fragment_map_toList (paragraph : List String) :
    fragment (paragraph.map String.toList) = " ".intercalate paragraph := by
  rw [fragment, map_ofList_toList]

/-- Of a comment, in whatever style it is written, just its paragraphs are read. -/
theorem fragments?_comment (style : Style) {paragraphs : List (List String)}
    (nonempty : paragraphs ≠ [])
    (texts : ∀ paragraph ∈ paragraphs, paragraph ≠ [] ∧ ∀ line ∈ paragraph, IsTextLine line) :
    fragments? (some (style.comment paragraphs)) =
      some (paragraphs.map (" ".intercalate ·)) := by
  have read : Comment.paragraphs (style.comment paragraphs) =
      paragraphs.map (List.map String.toList) := paragraphs_comment texts
  have joined : (paragraphs.map (List.map String.toList)).map fragment =
      paragraphs.map (" ".intercalate ·) := by
    rw [List.map_map]
    exact List.map_congr_left fun paragraph _ => fragment_map_toList paragraph
  rw [fragments?_of_paragraphs (by rw [read]; simpa using nonempty), read, joined]

theorem fragments?_comment_marked :
    fragments? (some "/**\n * /** a\n * *b*\n *\n * ! c\n */") = some ["/** a *b*", "! c"] ∧
    fragments? (some "/// /** a\n/// *b*\n///\n/// ! c") = some ["/** a *b*", "! c"] := by
  have block : Style.block.comment [["/** a", "*b*"], ["! c"]] =
      "/**\n * /** a\n * *b*\n *\n * ! c\n */" := by decide +kernel
  have lines : Style.lines.comment [["/** a", "*b*"], ["! c"]] =
      "/// /** a\n/// *b*\n///\n/// ! c" := by decide +kernel
  have joined : [["/** a", "*b*"], ["! c"]].map (" ".intercalate ·) = ["/** a *b*", "! c"] := by
    decide +kernel
  rw [← block, ← lines, ← joined]
  exact ⟨fragments?_comment .block (by decide) (by decide +kernel),
    fragments?_comment .lines (by decide) (by decide +kernel)⟩

end Comment

end BindingRepair
