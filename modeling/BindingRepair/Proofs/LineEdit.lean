import BindingRepair.LineEdit
import BindingRepair.Proofs.Text.Replacement
import BindingRepair.Proofs.Text.Row
import BindingRepair.Proofs.Text.Trim

namespace BindingRepair.LineEdit

open Text

variable {line edited : List Char}

private theorem rewrites_of_replacedWhere {fits : List Char → List Char → Bool}
    {token new : List Char} (nonempty : token ≠ [])
    (answer : (if occursWhere fits token [] line then some (replaceWhere fits token new line)
      else none) = some edited) :
    ∃ n, 0 < n ∧ Rewrites token new n line edited := by
  obtain ⟨occurs, replaced⟩ := Option.ite_none_right_eq_some.mp answer
  obtain rfl := Option.some.inj replaced
  obtain ⟨n, rewritten, positive⟩ := exists_rewrites_replaceWhere fits nonempty new line
  exact ⟨n, positive occurs, rewritten⟩

theorem rewrites_of_nativeInteger? (answer : nativeInteger? line = some edited) :
    ∃ n, 0 < n ∧ Rewrites "nuint".toList "uint".toList n line edited := by
  unfold nativeInteger? at answer
  exact rewrites_of_replacedWhere (by decide) answer

theorem rewrites_of_sizeOperator? (answer : sizeOperator? line = some edited) :
    ∃ n, 0 < n ∧ Rewrites "sizeof".toList "(uint)sizeof".toList n line edited := by
  unfold sizeOperator? at answer
  exact rewrites_of_replacedWhere (by decide) answer

theorem rewrites_of_realloc? (answer : realloc? line = some edited) :
    ∃ n, 0 < n ∧ Rewrites "realloc".toList "NativeMemory.Realloc".toList n line edited := by
  unfold realloc? at answer
  exact rewrites_of_replacedWhere (by decide) answer

theorem rewrites_of_operatorCall? (answer : operatorCall? line = some edited) :
    ∃ n, 0 < n ∧ Rewrites operatorArtifact "=".toList n line edited := by
  obtain ⟨occurs, replaced⟩ := Option.ite_none_right_eq_some.mp answer
  obtain rfl := Option.some.inj replaced
  obtain ⟨n, rewritten, positive⟩ :=
    exists_rewrites_replaceAll (by decide : operatorArtifact ≠ []) "=".toList line
  exact ⟨n, positive occurs, rewritten⟩

theorem rewrites_of_boolReturn? (answer : boolReturn? line = some edited) :
    Rewrites callEnd ") != 0;".toList 1 line edited := by
  obtain ⟨occurs, replaced⟩ := Option.ite_none_right_eq_some.mp answer
  obtain rfl := Option.some.inj replaced
  exact rewrites_replaceLast _ ((Bool.and_eq_true _ _).mp occurs).2

theorem rewrites_of_byteArgument? (answer : byteArgument? line = some edited) :
    Rewrites callEnd " ? (byte)0x1 : (byte)0x0);".toList 1 line edited := by
  obtain ⟨occurs, replaced⟩ := Option.ite_none_right_eq_some.mp answer
  obtain rfl := Option.some.inj replaced
  exact rewrites_replaceLast _ occurs

def IsSeparator (c : Char) : Prop :=
  c = ',' ∨ c = '('

theorem splitLastArgument?_eq_none_iff {s : List Char} :
    splitLastArgument? s = none ↔ ∀ c ∈ s, ¬ IsSeparator c := by
  induction s with
  | nil => simp [splitLastArgument?]
  | cons c rest induction =>
      rw [splitLastArgument?, List.forall_mem_cons, ← induction]
      cases splitLastArgument? rest with
      | none => simp [IsSeparator]
      | some parts => simp

theorem parts_of_splitLastArgument? {s head argument : List Char}
    (split : splitLastArgument? s = some (head, argument)) :
    ∃ front c, s = front ++ c :: argument ∧ head = front ++ [c] ∧ IsSeparator c ∧
      ∀ d ∈ argument, ¬ IsSeparator d := by
  induction s generalizing head with
  | nil => cases split
  | cons c rest induction =>
      rw [splitLastArgument?] at split
      cases later : splitLastArgument? rest with
      | some parts =>
          simp only [later, Option.some.injEq, Prod.mk.injEq] at split
          obtain ⟨rfl, rfl⟩ := split
          obtain ⟨front, d, rfl, ends, separator, free⟩ := induction later
          exact ⟨c :: front, d, rfl, congrArg (c :: ·) ends, separator, free⟩
      | none =>
          simp only [later, Option.ite_none_right_eq_some, Option.some.injEq,
            Prod.mk.injEq] at split
          obtain ⟨separator, rfl, rfl⟩ := split
          exact ⟨[], c, rfl, rfl, by simpa [IsSeparator] using separator,
            splitLastArgument?_eq_none_iff.mp later⟩

theorem drop_trimEnd (s : List Char) :
    s.drop (trimEnd s).length = (s.reverse.takeWhile isBlank).reverse := by
  have whole := congrArg (List.drop (trimEnd s).length) (trimEnd_append_takeWhile s)
  rw [← whole, List.drop_left]

theorem take_trimStart (s : List Char) :
    s.take (s.length - (trimStart s).length) = s.takeWhile isBlank := by
  have whole : s.takeWhile isBlank ++ trimStart s = s := List.takeWhile_append_dropWhile
  have length : s.length - (trimStart s).length = (s.takeWhile isBlank).length := by
    have lengths := congrArg List.length whole
    rw [List.length_append] at lengths
    omega
  rw [length]
  exact (List.prefix_iff_eq_take.mp ⟨_, whole⟩).symm

/-- `LastArgument line head blanks path tail` says that the line ends in a call with a path of names
as its last argument. -/
structure LastArgument (line head blanks path tail : List Char) : Prop where
  whole : line = head ++ blanks ++ path ++ callEnd ++ tail
  starts : ∃ front c, head = front ++ [c] ∧ IsSeparator c
  blank : ∀ c ∈ blanks, isBlank c = true
  named : isPath path = true
  trailing : ∀ c ∈ tail, isBlank c = true

theorem exists_lastArgument_of_sizeArgument? (answer : sizeArgument? line = some edited) :
    ∃ head blanks path tail, LastArgument line head blanks path tail ∧
      edited = head ++ blanks ++ "(uint)".toList ++ path ++ callEnd ++ tail := by
  simp only [sizeArgument?] at answer
  split at answer
  · next call ended =>
      obtain ⟨⟨head, argument⟩, split, answer⟩ := Option.bind_eq_some_iff.mp answer
      obtain ⟨named, inserted⟩ := Option.ite_none_right_eq_some.mp answer
      obtain ⟨front, c, rfl, rfl, separator, _⟩ := parts_of_splitLastArgument? split
      rw [take_trimStart, drop_trimEnd] at inserted
      let blanks := argument.takeWhile isBlank
      let tail := (line.reverse.takeWhile isBlank).reverse
      have allBlank (s : List Char) : ∀ d ∈ s.takeWhile isBlank, isBlank d = true :=
        List.all_eq_true.mp List.all_takeWhile
      refine ⟨front ++ [c], blanks, trimStart argument, tail, ?_, (Option.some.inj inserted).symm⟩
      refine ⟨?_, ⟨front, c, rfl, separator⟩, allBlank argument, named, ?_⟩
      · calc
          line = trimEnd line ++ tail := (trimEnd_append_takeWhile line).symm
          _ = front ++ c :: argument ++ callEnd ++ tail := by
            rw [eq_of_splitLast?_eq_some ended, List.append_nil]
          _ = front ++ c :: (blanks ++ trimStart argument) ++ callEnd ++ tail := by
            rw [trimStart, List.takeWhile_append_dropWhile]
          _ = _ := by simp
      · intro d member
        exact allBlank line.reverse d (List.mem_reverse.mp member)
  · cases answer

theorem rewrites_of_sizeArgument? (answer : sizeArgument? line = some edited) :
    Rewrites [] "(uint)".toList 1 line edited := by
  obtain ⟨head, blanks, path, tail, last, rfl⟩ := exists_lastArgument_of_sizeArgument? answer
  have whole : line = head ++ blanks ++ [] ++ (path ++ callEnd ++ tail) := by
    rw [last.whole]
    simp
  have result : head ++ blanks ++ "(uint)".toList ++ path ++ callEnd ++ tail =
      head ++ blanks ++ "(uint)".toList ++ (path ++ callEnd ++ tail) := by
    simp only [List.append_assoc]
  rw [result, whole]
  exact .single _ _

theorem rewrites_of_uintArgument? (answer : uintArgument? line = some edited) :
    (∃ n, 0 < n ∧ Rewrites "sizeof".toList "(uint)sizeof".toList n line edited) ∨
      Rewrites [] "(uint)".toList 1 line edited := by
  unfold uintArgument? at answer
  split at answer
  · next fixed cast =>
      obtain rfl := Option.some.inj answer
      exact .inl (rewrites_of_sizeOperator? cast)
  · exact .inr (rewrites_of_sizeArgument? (Option.ite_none_right_eq_some.mp answer).2)

theorem changes_of_vtableCast? (answer : vtableCast? line = some edited) :
    ∃ front back opened n m,
      line = front ++ ')' :: back ∧
      Rewrites "(self)->".toList "self)->".toList n (front ++ back) opened ∧
      Rewrites addressCast "(&((".toList m opened edited := by
  obtain ⟨⟨before, rest⟩, found, answer⟩ := Option.bind_eq_some_iff.mp answer
  obtain ⟨⟨access, tail⟩, closed, rfl⟩ := Option.map_eq_some_iff.mp answer
  have whole : line = (before ++ vtableAccess ++ access) ++ ')' :: tail := by
    rw [eq_of_splitFirst?_eq_some found, eq_of_splitFirst?_eq_some closed]
    simp
  exact ⟨before ++ vtableAccess ++ access, tail, _, _, _, whole,
    rewrites_replaceAll (by decide) _ _, rewrites_replaceAll (by decide) _ _⟩

theorem count_lt_of_vtableCast? (answer : vtableCast? line = some edited) :
    edited.count ')' < line.count ')' := by
  obtain ⟨front, back, opened, n, m, rfl, opening, casting⟩ := changes_of_vtableCast? answer
  have afterOpening := opening.count_eq ')'
  have afterCasting := casting.count_eq ')'
  have sameOpened : "self)->".toList.count ')' = "(self)->".toList.count ')' := by decide
  have sameCast : "(&((".toList.count ')' = addressCast.count ')' := by decide
  rw [sameOpened] at afterOpening
  rw [sameCast] at afterCasting
  calc
    edited.count ')' = (front ++ back).count ')' := by omega
    _ < (front ++ ')' :: back).count ')' := by simp

end BindingRepair.LineEdit
