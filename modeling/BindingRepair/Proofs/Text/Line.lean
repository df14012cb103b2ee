import BindingRepair.Proofs.Text.Row

namespace BindingRepair.Text

variable {c : Char} {s line : List Char}

theorem consFirst_ne_nil {α : Type} (a : α) (ls : List (List α)) : consFirst a ls ≠ [] := by
  cases ls with
  | nil => simp
  | cons line rest => simp

theorem consFirst_append {α : Type} (a : α) {ls : List (List α)} (nonempty : ls ≠ [])
    (others : List (List α)) : consFirst a (ls ++ others) = consFirst a ls ++ others := by
  cases ls with
  | nil => exact absurd rfl nonempty
  | cons line rest => rfl

theorem mem_consFirst {α : Type} {a : α} {line : List α} {ls : List (List α)}
    (member : line ∈ consFirst a ls) :
    line ∈ ls ∨ ∃ rest, line = a :: rest ∧ (rest = [] ∨ rest ∈ ls) := by
  cases ls with
  | nil => exact .inr ⟨[], List.mem_singleton.mp member, .inl rfl⟩
  | cons first others =>
      rcases List.mem_cons.mp member with rfl | later
      · exact .inr ⟨first, rfl, .inr List.mem_cons_self⟩
      · exact .inl (List.mem_cons_of_mem _ later)

theorem lines_of_ordinary (ordinary : isLineBreak c = false) (rest : List Char) :
    lines (c :: rest) = consFirst c (lines rest) := by
  rw [lines, if_neg (by simp [ordinary])]
  rintro _ rfl
  cases ordinary

theorem lines_of_break {rest : List Char} (ends : isLineBreak c = true)
    (single : c = '\r' → rest.head? ≠ some '\n') : lines (c :: rest) = [] :: lines rest := by
  rw [lines, if_pos ends]
  rintro others returned rfl
  exact single returned rfl

theorem lines_lineFeed (rest : List Char) : lines ('\n' :: rest) = [] :: lines rest :=
  lines_of_break (by decide) nofun

theorem lines_ne_nil (nonempty : s ≠ []) : lines s ≠ [] := by
  fun_cases lines s with
  | case1 => exact absurd rfl nonempty
  | case2 rest => simp
  | case3 c rest _ ends => simp
  | case4 c rest _ ordinary => exact consFirst_ne_nil c _

theorem unbroken_of_mem_lines (member : line ∈ lines s) : Unbroken line := by
  fun_induction lines s generalizing line with
  | case1 => cases member
  | case2 rest induction =>
      rcases List.mem_cons.mp member with rfl | later
      · exact nofun
      · exact induction later
  | case3 c rest _ ends induction =>
      rcases List.mem_cons.mp member with rfl | later
      · exact nofun
      · exact induction later
  | case4 c rest _ ordinary induction =>
      rcases mem_consFirst member with later | ⟨tail, rfl, tailMember⟩
      · exact induction later
      · intro d present
        rcases List.mem_cons.mp present with rfl | present
        · simpa using ordinary
        · rcases tailMember with rfl | tailMember
          · cases present
          · exact induction tailMember d present

theorem lines_of_unbroken (unbroken : Unbroken s) (nonempty : s ≠ []) : lines s = [s] := by
  induction s with
  | nil => exact absurd rfl nonempty
  | cons c rest induction =>
      rw [lines_of_ordinary (unbroken c List.mem_cons_self)]
      cases rest with
      | nil => rfl
      | cons d others =>
          rw [induction (fun e member => unbroken e (List.mem_cons_of_mem c member)) (by simp)]
          rfl

theorem lines_append_lineFeed_of_unbroken (unbroken : Unbroken s) (rest : List Char) :
    lines (s ++ '\n' :: rest) = s :: lines rest := by
  induction s with
  | nil => exact lines_lineFeed rest
  | cons c cs induction =>
      have later := induction fun d member => unbroken d (List.mem_cons_of_mem c member)
      rw [List.cons_append, lines_of_ordinary (unbroken c List.mem_cons_self), later]
      rfl

theorem lines_flatMap_append_lineFeed {ls : List (List Char)}
    (unbroken : ∀ line ∈ ls, Unbroken line) : lines (ls.flatMap (· ++ ['\n'])) = ls := by
  induction ls with
  | nil => rfl
  | cons line rest induction =>
      have later := induction fun other member => unbroken other (List.mem_cons_of_mem line member)
      rw [List.flatMap_cons, List.append_assoc, List.singleton_append,
        lines_append_lineFeed_of_unbroken (unbroken line List.mem_cons_self), later]

theorem intercalate_lineFeed_append {ls : List (List Char)} (nonempty : ls ≠ []) :
    ['\n'].intercalate ls ++ ['\n'] = ls.flatMap (· ++ ['\n']) := by
  induction ls with
  | nil => exact absurd rfl nonempty
  | cons line rest induction =>
      cases rest with
      | nil => simp
      | cons next others =>
          have later := induction (by simp)
          rw [List.intercalate_cons_cons, List.append_assoc, later]
          simp

theorem lines_intercalate_lineFeed {ls : List (List Char)} (unbroken : ∀ line ∈ ls, Unbroken line)
    (filled : ls.getLast? ≠ some []) : lines (['\n'].intercalate ls) = ls := by
  induction ls with
  | nil => rfl
  | cons line rest induction =>
      have whole : Unbroken line := unbroken line List.mem_cons_self
      cases rest with
      | nil =>
          rw [List.intercalate_singleton]
          exact lines_of_unbroken whole fun empty => filled (by rw [empty]; rfl)
      | cons next others =>
          have later := induction
            (fun other member => unbroken other (List.mem_cons_of_mem line member))
            (by rwa [List.getLast?_cons_cons] at filled)
          rw [List.intercalate_cons_cons, List.append_assoc, List.singleton_append,
            lines_append_lineFeed_of_unbroken whole, later]

theorem intercalate_consFirst (separator : List Char) (c : Char) (ls : List (List Char)) :
    separator.intercalate (consFirst c ls) = c :: separator.intercalate ls := by
  cases ls with
  | nil => rfl
  | cons line rest =>
      cases rest with
      | nil => simp
      | cons next others => simp [List.intercalate_cons_cons]

def BrokenByLineFeeds (s : List Char) : Prop :=
  ∀ c ∈ s, isLineBreak c = true → c = '\n'

instance (s : List Char) : Decidable (BrokenByLineFeeds s) :=
  List.decidableBAll (fun c => isLineBreak c = true → c = '\n') s

theorem BrokenByLineFeeds.append {t : List Char} (front : BrokenByLineFeeds s)
    (back : BrokenByLineFeeds t) : BrokenByLineFeeds (s ++ t) := by
  intro c member
  rcases List.mem_append.mp member with before | behind
  · exact front c before
  · exact back c behind

theorem brokenByLineFeeds_intercalate {ls : List (List Char)}
    (unbroken : ∀ line ∈ ls, Unbroken line) : BrokenByLineFeeds (['\n'].intercalate ls) := by
  intro c member ends
  rcases mem_of_mem_intercalate member with between | ⟨line, listed, inside⟩
  · exact List.mem_singleton.mp between
  · exact absurd ends (by simp [unbroken line listed c inside])

theorem intercalate_lines (feeds : BrokenByLineFeeds s) :
    ['\n'].intercalate (lines s) ++ (if s.getLast? = some '\n' then ['\n'] else []) = s := by
  induction s with
  | nil => rfl
  | cons c rest induction =>
      have later := induction fun d member => feeds d (List.mem_cons_of_mem c member)
      cases ends : isLineBreak c with
      | true =>
          obtain rfl := feeds c List.mem_cons_self ends
          rw [lines_lineFeed]
          cases rest with
          | nil => rfl
          | cons d others =>
              have more : lines (d :: others) ≠ [] := lines_ne_nil (by simp)
              rw [List.intercalate_cons_of_ne_nil more, List.getLast?_cons_cons, List.append_assoc,
                later]
              rfl
      | false =>
          rw [lines_of_ordinary ends, intercalate_consFirst, List.cons_append]
          cases rest with
          | nil =>
              have other : c ≠ '\n' := by
                rintro rfl
                cases ends
              simp [other]
          | cons d others => rw [List.getLast?_cons_cons, later]

theorem splitLines_joinLines {ls : List String} (nonempty : ls ≠ [])
    (unbroken : ∀ line ∈ ls, Unbroken line.toList) : splitLines (joinLines ls ++ "\n") = ls := by
  have joined : (joinLines ls ++ "\n").toList =
      (ls.map String.toList).flatMap (· ++ ['\n']) := by
    rw [String.toList_append, toList_joinLines]
    exact intercalate_lineFeed_append (by simpa using nonempty)
  rw [splitLines, joined, lines_flatMap_append_lineFeed (List.forall_mem_map.mpr unbroken),
    map_ofList_toList]

theorem unbroken_of_mem_splitLines {text line : String} (member : line ∈ splitLines text) :
    Unbroken line.toList := by
  obtain ⟨chars, present, rfl⟩ := List.mem_map.mp member
  rw [String.toList_ofList]
  exact unbroken_of_mem_lines present

theorem lines_normalizeNewlines (s : List Char) : lines (normalizeNewlines s) = lines s := by
  fun_induction normalizeNewlines s with
  | case1 => rfl
  | case2 rest induction =>
      rw [lines_lineFeed, induction]
      rfl
  | case3 c rest apart induction =>
      by_cases returned : c = '\r'
      · subst returned
        have single : rest.head? ≠ some '\n' := by
          intro feeds
          obtain ⟨others, rfl⟩ := List.head?_eq_some_iff.mp feeds
          exact apart others rfl rfl
        rw [if_pos rfl, lines_lineFeed, lines_of_break (by decide) fun _ => single, induction]
      · rw [if_neg returned]
        cases ends : isLineBreak c with
        | true =>
            rw [lines_of_break ends fun same => absurd same returned,
              lines_of_break ends fun same => absurd same returned, induction]
        | false => rw [lines_of_ordinary ends, lines_of_ordinary ends, induction]

theorem toList_append_lineFeed (s t : String) :
    (s ++ "\n" ++ t).toList = s.toList ++ '\n' :: t.toList := by
  rw [String.toList_append, String.toList_append, List.append_assoc]
  rfl

theorem lines_append_lineFeed (s t : List Char) :
    ∃ seam, (seam = [] ∨ seam = [[]]) ∧ lines (s ++ '\n' :: t) = lines s ++ seam ++ lines t := by
  fun_induction lines s with
  | case1 => exact ⟨[[]], .inr rfl, lines_lineFeed t⟩
  | case2 rest induction =>
      obtain ⟨seam, shape, whole⟩ := induction
      exact ⟨seam, shape, by simp only [List.cons_append, lines, whole]⟩
  | case3 c rest apart ends induction =>
      obtain ⟨seam, shape, whole⟩ := induction
      cases rest with
      | nil =>
          by_cases returned : c = '\r'
          · subst returned
            exact ⟨[], .inl rfl, by simp only [List.cons_append, List.nil_append, lines]⟩
          · refine ⟨[[]], .inr rfl, ?_⟩
            rw [List.cons_append, lines_of_break ends fun same => absurd same returned]
            rw [List.nil_append, lines_lineFeed]
            rfl
      | cons d others =>
          refine ⟨seam, shape, ?_⟩
          rw [List.cons_append, lines_of_break ends, whole]
          · rfl
          · rintro rfl feeds
            exact apart others rfl (by rw [Option.some.inj feeds])
  | case4 c rest apart ordinary induction =>
      have notBreak : isLineBreak c = false := by simpa using ordinary
      rw [List.cons_append, lines_of_ordinary notBreak]
      cases rest with
      | nil => exact ⟨[], .inl rfl, by rw [List.nil_append, lines_lineFeed]; rfl⟩
      | cons d others =>
          obtain ⟨seam, shape, whole⟩ := induction
          refine ⟨seam, shape, ?_⟩
          rw [whole, List.append_assoc, List.append_assoc,
            consFirst_append c (lines_ne_nil (by simp))]

variable {separator : Char}

theorem splitAt_ne_nil (separator : Char) (s : List Char) : splitAt separator s ≠ [] := by
  fun_cases splitAt separator s with
  | case1 => simp
  | case2 rest => simp
  | case3 c rest other => exact consFirst_ne_nil c _

theorem not_mem_of_mem_splitAt {part : List Char} (member : part ∈ splitAt separator s) :
    separator ∉ part := by
  induction s generalizing part with
  | nil =>
      rw [List.mem_singleton.mp member]
      exact List.not_mem_nil
  | cons c rest induction =>
      rw [splitAt] at member
      split at member
      · rcases List.mem_cons.mp member with rfl | later
        · exact List.not_mem_nil
        · exact induction later
      · next other =>
          rcases mem_consFirst member with later | ⟨tail, rfl, tailMember⟩
          · exact induction later
          · have free : separator ∉ tail := by
              rcases tailMember with rfl | tailMember
              · exact List.not_mem_nil
              · exact induction tailMember
            exact List.not_mem_cons_of_ne_of_not_mem (Ne.symm other) free

theorem intercalate_splitAt (separator : Char) (s : List Char) :
    [separator].intercalate (splitAt separator s) = s := by
  induction s with
  | nil => rfl
  | cons c rest induction =>
      rw [splitAt]
      split
      · next same =>
          rw [List.intercalate_cons_of_ne_nil (splitAt_ne_nil separator rest), induction, same]
          rfl
      · rw [intercalate_consFirst, induction]

end BindingRepair.Text
