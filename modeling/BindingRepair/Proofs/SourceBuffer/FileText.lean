import BindingRepair.Proofs.SourceBuffer

namespace BindingRepair

namespace SourceBuffer

variable {b : SourceBuffer} {text : String}

theorem toList_fileText (b : SourceBuffer) :
    b.fileText.toList = ['\n'].intercalate (b.lines.map String.toList) ++
      (if b.trailingNewline then ['\n'] else []) := by
  have joined : b.text.toList = ['\n'].intercalate (b.lines.map String.toList) :=
    Text.toList_joinLines b.lines
  rw [fileText]
  split
  · rw [String.toList_append, joined]
    rfl
  · rw [joined, List.append_nil]

theorem Unbroken.brokenByLineFeeds_fileText (unbroken : b.Unbroken) :
    Text.BrokenByLineFeeds b.fileText.toList := by
  rw [toList_fileText]
  refine (Text.brokenByLineFeeds_intercalate (List.forall_mem_map.mpr unbroken)).append ?_
  split
  · decide
  · exact nofun

theorem trailingNewline_ofText (feeds : Text.BrokenByLineFeeds text.toList) :
    (ofText text).trailingNewline = true ↔ text.toList.getLast? = some '\n' := by
  rw [ofText]
  cases last : text.toList.getLast? with
  | none => simp
  | some c =>
      have returned : c ≠ '\r' := by
        rintro rfl
        exact absurd (feeds '\r' (List.mem_of_getLast? last) (by decide)) (by decide)
      simp [returned]

theorem fileText_ofText (feeds : Text.BrokenByLineFeeds text.toList) :
    (ofText text).fileText = text := by
  have lines : (ofText text).lines.map String.toList = Text.lines text.toList := by
    simp [ofText, Text.splitLines]
  rw [← String.toList_inj, toList_fileText, lines]
  simp only [trailingNewline_ofText feeds]
  exact Text.intercalate_lines feeds

/-- A file that was written by a buffer stays as it is when it is read and written again; it is as
it was read exactly if nothing but line feeds ended its lines, and then line feeds behind it stay as
well. -/
theorem fileText_ofText_law (text : String) :
    (ofText (ofText text).fileText).fileText = (ofText text).fileText ∧
    ((ofText text).fileText = text ↔ Text.BrokenByLineFeeds text.toList) ∧
    ∀ blanks, Text.BrokenByLineFeeds text.toList →
      (ofText (text ++ String.ofList (List.replicate blanks '\n'))).fileText =
        text ++ String.ofList (List.replicate blanks '\n') := by
  have written := (unbroken_ofText text).brokenByLineFeeds_fileText
  refine ⟨fileText_ofText written, ⟨fun same => ?_, fileText_ofText⟩, fun blanks feeds => ?_⟩
  · rwa [same] at written
  · refine fileText_ofText ?_
    rw [String.toList_append, String.toList_ofList]
    exact feeds.append fun c member _ => List.eq_of_mem_replicate member

theorem fileText_ofText_law_mixed :
    (ofText "a\r\nb\x0c").fileText = "a\nb" ∧ (ofText "a\nb").fileText = "a\nb" ∧
      (ofText "a\nb\n\n").fileText = "a\nb\n\n" := by
  have read : (ofText "a\r\nb\x0c").fileText = "a\nb" := by decide
  obtain ⟨again, _⟩ := fileText_ofText_law "a\r\nb\x0c"
  obtain ⟨_, _, blank⟩ := fileText_ofText_law "a\nb"
  rw [read] at again
  exact ⟨read, again, blank 2 (by decide)⟩

end SourceBuffer

end BindingRepair
