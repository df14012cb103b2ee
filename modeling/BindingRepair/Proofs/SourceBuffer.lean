import BindingRepair.Proofs.Text.Line
import BindingRepair.SourceBuffer

namespace BindingRepair

attribute [ext] SourceBuffer

namespace SourceBuffer

def Unbroken (b : SourceBuffer) : Prop :=
  ∀ line ∈ b.lines, Text.Unbroken line.toList

theorem rows_text_getElem? {b : SourceBuffer} {index : Nat} {line : String}
    (unbroken : b.Unbroken) (present : b.lines[index]? = some line) :
    (Text.rows b.text)[index]? = some line := by
  have nonempty : b.lines ≠ [] := by
    intro empty
    simp [empty] at present
  rw [text, Text.rows_joinLines nonempty unbroken, present]

theorem get?_natCast (b : SourceBuffer) (index : Nat) : b.get? index = b.lines[index]? := by
  by_cases inside : index < b.size
  · simp [get?, resolve?_ofNat inside]
  · have outside : b.lines.length ≤ index := Nat.le_of_not_lt inside
    have nonneg : ¬ (index : Int) < 0 := by omega
    have beyond : ¬ (index : Int) < b.size := by omega
    simp [get?, resolve?, nonneg, beyond, List.getElem?_eq_none outside]

section

variable {b : SourceBuffer} {position : Int} {index : Nat} {line : String}

theorem exists_line (inside : 0 ≤ position ∧ position < b.size) :
    ∃ (index : Nat) (line : String), position = index ∧ b.lines[index]? = some line := by
  obtain ⟨index, place⟩ := Int.eq_ofNat_of_zero_le inside.1
  have within : index < b.lines.length := by
    have below := inside.2
    rw [place] at below
    exact Int.ofNat_lt.mp below
  exact ⟨index, b.lines[index], place, List.getElem?_eq_getElem within⟩

theorem inside_of_line (place : position = index) (present : b.lines[index]? = some line) :
    0 ≤ position ∧ position < b.size := by
  have within := (List.getElem?_eq_some_iff.mp present).1
  rw [place]
  exact ⟨Int.natCast_nonneg index, Int.ofNat_lt.mpr within⟩

theorem getD_get? (place : position = index) (present : b.lines[index]? = some line) :
    (b.get? position).getD "" = line := by
  rw [place, get?_natCast, present]
  rfl

end

theorem set?_natCast {b : SourceBuffer} {index : Nat} (inside : index < b.size)
    (line : String) : b.set? index line = some { b with lines := b.lines.set index line } := by
  simp [set?, resolve?_ofNat inside]

theorem insert_natCast {b : SourceBuffer} {place : Nat} (within : place ≤ b.size)
    (block : List String) :
    b.insert place block =
      { b with lines := b.lines.take place ++ block ++ b.lines.drop place } := by
  rw [insert, cutIndex_ofNat within]

theorem insert_of_lines {b : SourceBuffer} {above below : List String} {position : Int}
    (lines : b.lines = above ++ below) (place : position = above.length) (block : List String) :
    b.insert position block = { b with lines := above ++ block ++ below } := by
  have within : above.length ≤ b.size := by
    rw [size, lines, List.length_append]
    exact Nat.le_add_right _ _
  rw [place, insert_natCast within, lines, List.take_left, List.drop_left]

theorem insert_nil (b : SourceBuffer) (position : Int) : b.insert position [] = b := by
  simp [insert]

/-- Where a row is when lines were put in before a position. -/
def rowAfterInsert (position : Int) (count : Nat) (row : Int) : Int :=
  if row < position then row else row + count

theorem rowAfterInsert_lt_iff {position row : Int} {count : Nat} :
    rowAfterInsert position count row < position ↔ row < position := by
  unfold rowAfterInsert
  split
  · exact Iff.rfl
  · omega

section

variable {b : SourceBuffer} {position : Int}

theorem exists_lines_above (inside : 0 ≤ position ∧ position ≤ b.size) :
    ∃ above below, b.lines = above ++ below ∧ position = (above.length : Int) := by
  obtain ⟨place, rfl⟩ := Int.eq_ofNat_of_zero_le inside.1
  have within : place ≤ b.lines.length := Int.ofNat_le.mp inside.2
  refine ⟨b.lines.take place, b.lines.drop place, (List.take_append_drop _ _).symm, ?_⟩
  rw [List.length_take, Nat.min_eq_left within]

theorem get?_insert_rowAfterInsert (inside : 0 ≤ position ∧ position ≤ b.size)
    (block : List String) {row : Int} (nonneg : 0 ≤ row) :
    (b.insert position block).get? (rowAfterInsert position block.length row) = b.get? row := by
  obtain ⟨above, below, lines, rfl⟩ := exists_lines_above inside
  obtain ⟨index, rfl⟩ := Int.eq_ofNat_of_zero_le nonneg
  rw [insert_of_lines lines rfl, rowAfterInsert, get?_natCast b, lines]
  split
  · next higher =>
      have before : index < above.length := Int.ofNat_lt.mp higher
      rw [get?_natCast, List.append_assoc, List.getElem?_append_left before,
        List.getElem?_append_left before]
  · next lower =>
      have behind : above.length ≤ index := Int.ofNat_le.mp (Int.not_lt.mp lower)
      have moved : (index : Int) + block.length = (index + block.length : Nat) := rfl
      rw [moved, get?_natCast, List.getElem?_append_right behind,
        List.getElem?_append_right (by rw [List.length_append]; omega)]
      congr 1
      rw [List.length_append]
      omega

theorem get?_insert_inserted (inside : 0 ≤ position ∧ position ≤ b.size) (block : List String)
    {index : Nat} (within : index < block.length) :
    (b.insert position block).get? (position + index) = block[index]? := by
  obtain ⟨above, below, lines, rfl⟩ := exists_lines_above inside
  have moved : (above.length : Int) + index = (above.length + index : Nat) := rfl
  rw [insert_of_lines lines rfl, moved, get?_natCast, List.append_assoc,
    List.getElem?_append_right (Nat.le_add_right _ _), Nat.add_sub_cancel_left,
    List.getElem?_append_left within]

end

theorem Unbroken.set {b : SourceBuffer} (unbroken : b.Unbroken) (index : Nat) {line : String}
    (unbrokenLine : Text.Unbroken line.toList) :
    ({ b with lines := b.lines.set index line } : SourceBuffer).Unbroken := by
  intro other member
  rcases List.mem_or_eq_of_mem_set member with before | rfl
  · exact unbroken other before
  · exact unbrokenLine

theorem Unbroken.splice {b : SourceBuffer} (unbroken : b.Unbroken) (start stop : Nat)
    {block : List String} (unbrokenBlock : ∀ line ∈ block, Text.Unbroken line.toList) :
    ({ b with lines := b.lines.take start ++ block ++ b.lines.drop stop } :
      SourceBuffer).Unbroken := by
  intro line member
  rw [List.mem_append, List.mem_append] at member
  rcases member with (above | inserted) | below
  · exact unbroken line (List.mem_of_mem_take above)
  · exact unbrokenBlock line inserted
  · exact unbroken line (List.mem_of_mem_drop below)

theorem Unbroken.insert {b : SourceBuffer} (unbroken : b.Unbroken) (position : Int)
    {block : List String} (unbrokenBlock : ∀ line ∈ block, Text.Unbroken line.toList) :
    (b.insert position block).Unbroken :=
  unbroken.splice _ _ unbrokenBlock

theorem Unbroken.replaceSpan {b : SourceBuffer} (unbroken : b.Unbroken) (first last : Int)
    {block : List String} (unbrokenBlock : ∀ line ∈ block, Text.Unbroken line.toList) :
    (b.replaceSpan first last block).Unbroken :=
  unbroken.splice _ _ unbrokenBlock

theorem unbroken_ofText (text : String) : (ofText text).Unbroken :=
  fun _ member => Text.unbroken_of_mem_splitLines member

/-- A buffer with lines that are all whole, the last of them ended. -/
structure Settled (b : SourceBuffer) : Prop where
  unbroken : b.Unbroken
  nonempty : b.lines ≠ []
  ended : b.trailingNewline = true

theorem Settled.ofText_fileText {b : SourceBuffer} (settled : b.Settled) :
    ofText b.fileText = b := by
  obtain ⟨lines, trailingNewline⟩ := b
  obtain ⟨unbroken, nonempty, ended⟩ := settled
  obtain rfl : trailingNewline = true := ended
  have written : fileText { lines, trailingNewline := true } = Text.joinLines lines ++ "\n" := rfl
  have last : (Text.joinLines lines ++ "\n").toList.getLast? = some '\n' := by
    simp [String.toList_append]
  rw [written, ofText, Text.splitLines_joinLines nonempty unbroken, last]
  rfl

theorem settled_ofText {text : String} {c : Char} (last : text.toList.getLast? = some c)
    (ends : c = '\n' ∨ c = '\r') : (ofText text).Settled where
  unbroken := unbroken_ofText text
  nonempty := by
    have nonempty : text.toList ≠ [] := by
      intro empty
      rw [empty] at last
      cases last
    simpa [ofText, Text.splitLines] using Text.lines_ne_nil nonempty
  ended := by simpa [ofText, last] using ends

end SourceBuffer

end BindingRepair
