import BindingRepair.Proofs.LineEdit

namespace BindingRepair.LineEdit

open Text

/-- Two texts, nearest character first, that are the same as far back as an `f`. -/
inductive SameBack : List Char → List Char → Prop
  | refl (s : List Char) : SameBack s s
  | ends (s t : List Char) : SameBack ('f' :: s) ('f' :: t)
  | cons (c : Char) {s t : List Char} (rest : SameBack s t) : SameBack (c :: s) (c :: t)

theorem SameBack.clearBefore_eq {s t : List Char} (same : SameBack s t) :
    clearBefore s = clearBefore t := by
  cases same with
  | refl => rfl
  | ends => rfl
  | cons => rfl

theorem SameBack.isNone_after? {s t word : List Char} (same : SameBack s t) (free : 'f' ∉ word) :
    (after? word s).isNone = (after? word t).isNone := by
  induction word generalizing s t with
  | nil => rfl
  | cons c word induction =>
      have differ : c ≠ 'f' := fun equal => free (equal ▸ List.mem_cons_self)
      cases same with
      | refl => rfl
      | ends => simp [after?, differ]
      | cons d rest =>
          have later := induction rest fun member => free (List.mem_cons_of_mem c member)
          by_cases equal : c = d
          · simpa [after?, equal] using later
          · simp [after?, equal]

theorem uncastSize_congr {before out after : List Char} (same : SameBack before out) :
    uncastSize before after = uncastSize out after := by
  rw [uncastSize, uncastSize, same.clearBefore_eq, same.isNone_after? (by decide)]

theorem uncastSize_behind (before after : List Char) :
    uncastSize ('f' :: before) after = false := by
  have word : isWord 'f' = true := by decide
  simp [uncastSize, clearBefore, word]

theorem uncastSize_cast (before after : List Char) :
    uncastSize (')' :: 't' :: 'n' :: 'i' :: 'u' :: '(' :: before) after = false := by
  have cast : after? castBefore (')' :: 't' :: 'n' :: 'i' :: 'u' :: '(' :: before) =
      some before := rfl
  simp [uncastSize, cast]

theorem uncastSize_iff {before after : List Char} :
    uncastSize before after = true ↔
      (clearBefore before = true ∧ (after? castBefore before).isNone = true) ∧
        ∃ rest, after = '(' :: rest := by
  have opening : (after? ['('] after).isSome = true ↔ ∃ rest, after = '(' :: rest := by
    rw [Option.isSome_iff_exists]
    exact exists_congr fun rest => after?_eq_some_iff
  rw [uncastSize, Bool.and_eq_true, Bool.and_eq_true, opening]

theorem occursWhere_replaced {before out s t : List Char}
    (replaced : ReplacedWhere uncastSize ['s', 'i', 'z', 'e', 'o', 'f']
      ['(', 'u', 'i', 'n', 't', ')', 's', 'i', 'z', 'e', 'o', 'f'] before s t)
    (same : SameBack before out) :
    occursWhere uncastSize ['s', 'i', 'z', 'e', 'o', 'f'] out t = false := by
  induction replaced generalizing out with
  | nil => rfl
  | @keep before c s t misfit rest induction =>
      rw [occursWhere_cons, induction (same.cons c), Bool.or_false, Option.any_eq_false]
      intro after matched
      rw [after?_eq_some_iff] at matched
      have replaced := ReplacedWhere.keep c misfit rest
      rw [matched] at replaced
      obtain ⟨behind, whole, later⟩ := replaced.of_append (by decide)
      rw [whole, after?_eq_some_iff.mpr rfl] at misfit
      rw [Bool.eq_false_iff]
      intro fit
      rw [← uncastSize_congr same] at fit
      obtain ⟨clear, inside, rfl⟩ := uncastSize_iff.mp fit
      cases later with
      | keep d _ _ => exact absurd (uncastSize_iff.mpr ⟨clear, _, rfl⟩) (by simpa using misfit)
      | swap again => exact absurd again (by simp [uncastSize_behind])
  | @swap before s t fit rest induction =>
      have later := induction
        (.ends _ (['o', 'e', 'z', 'i', 's', ')', 't', 'n', 'i', 'u', '('] ++ out))
      simpa [occursWhere_cons, after?, uncastSize_cast] using later

theorem sizeOperator?_eq_none_of_edited {line edited : List Char}
    (answer : sizeOperator? line = some edited) : sizeOperator? edited = none := by
  obtain ⟨_, replaced⟩ := Option.ite_none_right_eq_some.mp answer
  obtain rfl := Option.some.inj replaced
  have none := occursWhere_replaced (replacedWhere_replaceWhere (by decide) line) (.refl [])
  exact if_neg (Bool.eq_false_iff.mp none)

theorem splitLastArgument?_append {front argument : List Char} {c : Char}
    (separator : IsSeparator c) (free : ∀ d ∈ argument, ¬ IsSeparator d) :
    splitLastArgument? (front ++ c :: argument) = some (front ++ [c], argument) := by
  induction front with
  | nil =>
      rw [List.nil_append, splitLastArgument?, splitLastArgument?_eq_none_iff.mpr free]
      rcases separator with rfl | rfl
      · rfl
      · rfl
  | cons d front induction => simp [splitLastArgument?, induction]

theorem mem_isPathFrom {starting : Bool} {s : List Char} (path : isPathFrom starting s = true)
    {c : Char} (member : c ∈ s) :
    isNameStart c = true ∨ isWord c = true ∨ c = '-' ∨ c = '>' ∨ c = '.' := by
  induction starting, s using isPathFrom.induct with
  | case1 => cases member
  | case2 d rest induction =>
      rw [isPathFrom, Bool.and_eq_true] at path
      rcases List.mem_cons.mp member with rfl | later
      · exact .inl path.1
      · exact induction path.2 later
  | case3 => cases member
  | case4 rest induction =>
      simp only [List.mem_cons] at member
      rcases member with rfl | rfl | later
      · simp
      · simp
      · exact induction path later
  | case5 rest induction =>
      rcases List.mem_cons.mp member with rfl | later
      · simp
      · exact induction path later
  | case6 d rest notArrow notDot induction =>
      rw [isPathFrom, Bool.and_eq_true] at path
      · rcases List.mem_cons.mp member with rfl | later
        · exact .inr (.inl path.1)
        · exact induction path.2 later
      · exact notArrow
      · exact notDot

theorem trimEnd_callEnd (s : List Char) : trimEnd (s ++ callEnd) = s ++ callEnd := by
  have last : isBlank ';' = false := by decide
  have ends : (s ++ callEnd).reverse = ';' :: ')' :: s.reverse := by simp [callEnd]
  rw [trimEnd, ends, List.dropWhile_cons_of_neg (by simp [last]), ← ends, List.reverse_reverse]

theorem splitLast?_callEnd (s : List Char) : splitLast? callEnd (s ++ callEnd) = some (s, []) := by
  induction s with
  | nil => rfl
  | cons c s induction => simp [splitLast?, induction]

theorem sizeArgument?_of_call {front argument tail : List Char} {c : Char}
    (separator : IsSeparator c) (free : ∀ d ∈ argument, ¬ IsSeparator d)
    (blank : ∀ d ∈ tail, isBlank d = true) :
    sizeArgument? (front ++ c :: argument ++ callEnd ++ tail) =
      if isPath (trimStart argument) then
        some (front ++ [c] ++ argument.take (argument.length - (trimStart argument).length) ++
          "(uint)".toList ++ trimStart argument ++ callEnd ++ tail)
      else none := by
  have body : trimEnd (front ++ c :: argument ++ callEnd ++ tail) =
      front ++ c :: argument ++ callEnd := by
    rw [trimEnd_append_of_blank _ blank, trimEnd_callEnd]
  simp only [sizeArgument?, body, splitLast?_callEnd, splitLastArgument?_append separator free,
    List.drop_left, Option.bind_some]

theorem not_mem_of_isPath {s : List Char} (path : isPath s = true) {c : Char} (member : c ∈ s) :
    ¬ IsSeparator c ∧ c ≠ ')' := by
  have allowed := mem_isPathFrom path member
  refine ⟨?_, ?_⟩
  · rintro (rfl | rfl)
    · exact absurd allowed (by decide)
    · exact absurd allowed (by decide)
  · rintro rfl
    exact absurd allowed (by decide)

section

variable {line head blanks path tail : List Char}

theorem LastArgument.ends_clear (last : LastArgument line head blanks path tail)
    {front : List Char} {c : Char} (ends : head ++ blanks = front ++ [c]) : c ≠ 'f' := by
  rintro rfl
  have final := congrArg List.getLast? ends
  rcases List.eq_nil_or_concat blanks with rfl | ⟨rest, d, rfl⟩
  · obtain ⟨start, d, rfl, separator⟩ := last.starts
    obtain rfl : d = 'f' := by simpa using final
    rcases separator with same | same
    · exact absurd same (by decide)
    · exact absurd same (by decide)
  · obtain rfl : d = 'f' := by simpa using final
    exact absurd (last.blank 'f' (by simp)) (by decide)

theorem LastArgument.no_opening (last : LastArgument line head blanks path tail) :
    '(' ∉ "uint)".toList ++ (path ++ callEnd ++ tail) := by
  intro member
  simp only [List.mem_append] at member
  rcases member with cast | (named | call) | blank
  · exact absurd cast (by decide)
  · exact (not_mem_of_isPath last.named named).1 (.inr rfl)
  · exact absurd call (by decide)
  · exact absurd (last.trailing '(' blank) (by decide)

theorem LastArgument.sizeArgument?_eq_none (last : LastArgument line head blanks path tail) :
    sizeArgument? (head ++ blanks ++ "(uint)".toList ++ path ++ callEnd ++ tail) = none := by
  have castFree : ∀ d ∈ "uint)".toList, ¬ IsSeparator d := by simp [IsSeparator]
  have free : ∀ d ∈ "uint)".toList ++ path, ¬ IsSeparator d := by
    intro d member
    rcases List.mem_append.mp member with cast | named
    · exact castFree d cast
    · exact (not_mem_of_isPath last.named named).1
  have whole : head ++ blanks ++ "(uint)".toList ++ path ++ callEnd ++ tail =
      head ++ blanks ++ '(' :: ("uint)".toList ++ path) ++ callEnd ++ tail := by
    simp
  have trimmed : trimStart ("uint)".toList ++ path) = "uint)".toList ++ path :=
    List.dropWhile_cons_of_neg (by decide)
  have unnamed : ¬ isPath ("uint)".toList ++ path) = true := by
    intro named
    have member : ')' ∈ "uint)".toList ++ path := List.mem_append_left path (by decide)
    exact (not_mem_of_isPath named member).2 rfl
  rw [whole, sizeArgument?_of_call (.inr rfl) free last.trailing, trimmed, if_neg unnamed]

theorem LastArgument.sizeOperator?_eq_none (last : LastArgument line head blanks path tail)
    (cast : sizeOperator? line = none) :
    sizeOperator? (head ++ blanks ++ "(uint)".toList ++ path ++ callEnd ++ tail) = none := by
  have unfit : ¬ occursWhere uncastSize "sizeof".toList [] line = true := by
    intro occurs
    rw [sizeOperator?, if_pos occurs] at cast
    cases cast
  refine if_neg fun occurs => unfit ?_
  obtain ⟨front, back, whole, fit⟩ := (occursWhere_iff (by decide)).mp occurs
  obtain ⟨clear, rest, rfl⟩ := uncastSize_iff.mp fit
  have here {between : List Char}
      (opened : head ++ blanks = front ++ "sizeof".toList ++ ['('] ++ between) :
      occursWhere uncastSize "sizeof".toList [] line = true := by
    refine (occursWhere_iff (by decide)).mpr ⟨front, '(' :: (between ++ path ++ callEnd ++ tail),
      ?_, uncastSize_iff.mpr ⟨clear, _, rfl⟩⟩
    rw [last.whole, opened]
    simp only [List.append_assoc, List.cons_append, List.nil_append]
  have around : front ++ "sizeof".toList ++ ['('] ++ rest =
      head ++ blanks ++ ("(uint)".toList ++ (path ++ callEnd ++ tail)) := by
    simpa using whole.symm
  rcases List.append_eq_append_iff.mp around with ⟨between, opened, _⟩ | ⟨inside, opened, behind⟩
  · exact here opened
  -- The parenthesis of the operator is the last before the cast, or it is the one of the cast.
  · cases inside with
    | nil =>
        have closed : head ++ blanks = front ++ "sizeof".toList ++ ['('] ++ [] := by
          simpa using opened.symm
        exact here closed
    | cons c inside =>
        exfalso
        rcases List.eq_nil_or_concat inside with rfl | ⟨start, d, rfl⟩
        · have ends : head ++ blanks = front ++ "sizeo".toList ++ ['f'] := by
            have dropped := congrArg List.dropLast opened
            simpa using dropped.symm
          exact last.ends_clear ends rfl
        · have same : front ++ "sizeof".toList ++ ['('] = head ++ blanks ++ c :: start ++ [d] := by
            simpa using opened
          obtain ⟨_, ends⟩ := List.append_inj' same rfl
          obtain rfl := (List.cons.inj ends).1
          have later : "uint)".toList ++ (path ++ callEnd ++ tail) = start ++ '(' :: rest := by
            simpa using congrArg List.tail behind
          exact last.no_opening (later ▸ List.mem_append_right start List.mem_cons_self)

end

def sizeRank (line : List Char) : Nat :=
  if (sizeOperator? line).isSome then 2 else if (sizeArgument? line).isSome then 1 else 0

theorem sizeRank_lt_of_uintArgument? {line edited : List Char}
    (answer : uintArgument? line = some edited) : sizeRank edited < sizeRank line := by
  unfold uintArgument? at answer
  cases cast : sizeOperator? line with
  | some fixed =>
      rw [cast] at answer
      obtain rfl := Option.some.inj answer
      have used := sizeOperator?_eq_none_of_edited cast
      simp only [sizeRank, cast, used, Option.isSome_some, Option.isSome_none, if_true,
        Bool.false_eq_true, if_false]
      split <;> decide
  | none =>
      rw [cast] at answer
      have sized := (Option.ite_none_right_eq_some.mp answer).2
      obtain ⟨head, blanks, path, tail, last, whole⟩ := exists_lastArgument_of_sizeArgument? sized
      have noOperator : sizeOperator? edited = none := whole ▸ last.sizeOperator?_eq_none cast
      have noArgument : sizeArgument? edited = none := whole ▸ last.sizeArgument?_eq_none
      simp [sizeRank, cast, sized, noOperator, noArgument]

end BindingRepair.LineEdit
