import BindingRepair.Proofs.Text.Replacement

namespace BindingRepair.Text

variable {token new front s t : List Char} {c : Char}

/-- The token starts nowhere in `front`, not even where it would run on into the text behind. -/
def StartsNowhere (token front behind : List Char) : Prop :=
  ∀ before c rest, front = before ++ c :: rest → ¬ token <+: c :: rest ++ behind

theorem startsNowhere_nil : StartsNowhere token [] s := by
  intro before c rest split
  simp at split

theorem startsNowhere_cons : StartsNowhere token (c :: front) s ↔
    ¬ token <+: c :: front ++ s ∧ StartsNowhere token front s := by
  constructor
  · intro nowhere
    refine ⟨nowhere [] c front rfl, fun before d rest split => ?_⟩
    exact nowhere (c :: before) d rest (by rw [split]; rfl)
  · rintro ⟨here, later⟩ before d rest split
    cases before with
    | nil =>
        obtain ⟨rfl, rfl⟩ := List.cons.inj split
        exact here
    | cons e before => exact later before d rest (List.cons.inj split).2

theorem StartsNowhere.append {other : List Char} (first : StartsNowhere token front (other ++ s))
    (second : StartsNowhere token other s) : StartsNowhere token (front ++ other) s := by
  induction front with
  | nil => exact second
  | cons c front induction =>
      obtain ⟨here, later⟩ := startsNowhere_cons.mp first
      exact startsNowhere_cons.mpr ⟨by simpa using here, induction later⟩

theorem StartsNowhere.of_start {longer : List Char} (nowhere : StartsNowhere token front s)
    (starts : token <+: longer) : StartsNowhere longer front s :=
  fun before c rest split occurs => nowhere before c rest split (starts.trans occurs)

theorem startsNowhere_of_not_mem (free : c ∉ front) : StartsNowhere (c :: token) front s := by
  rintro before d rest rfl occurs
  obtain rfl := (List.cons_prefix_cons.mp occurs).1
  exact free (by simp)

theorem startsNowhere_of_not_infix (free : ¬ token <:+: front)
    (uncontinued : ∀ start rest, token = start ++ c :: rest → start ≠ [] → ¬ start <:+ front) :
    StartsNowhere token front (c :: s) := by
  rintro before d rest rfl ⟨behind, whole⟩
  rcases List.append_eq_append_iff.mp whole with ⟨inside, same, _⟩ | ⟨beyond, same, continued⟩
  · exact free ⟨before, inside, by rw [same, List.append_assoc]⟩
  · cases beyond with
    | nil => exact free ⟨before, [], by simp [same]⟩
    | cons e beyond =>
        obtain ⟨rfl, _⟩ := List.cons.inj continued
        exact uncontinued (d :: rest) beyond same (by simp) (List.suffix_append before _)

theorem startsNowhere_of_not_infix_end (free : ¬ token <:+: front) :
    StartsNowhere token front [] := by
  rintro before c rest rfl ⟨behind, whole⟩
  exact free ⟨before, behind, by rw [List.append_assoc, whole, List.append_nil]⟩

theorem prefix_of_prefix_append (free : c ∉ token) (starts : token <+: s ++ c :: t) :
    token <+: s := by
  obtain ⟨behind, whole⟩ := starts
  rcases List.append_eq_append_iff.mp whole with ⟨inside, same, _⟩ | ⟨beyond, same, continued⟩
  · exact ⟨inside, same.symm⟩
  · cases beyond with
    | nil => exact ⟨[], by simpa using same⟩
    | cons e beyond =>
        obtain ⟨rfl, _⟩ := List.cons.inj continued
        exact absurd (same ▸ List.mem_append_right s List.mem_cons_self) free

theorem occursWhere_append_of_startsNowhere {fits : List Char → List Char → Bool}
    {before : List Char} (nowhere : StartsNowhere token front s) :
    occursWhere fits token before (front ++ s) =
      occursWhere fits token (front.reverse ++ before) s := by
  refine occursWhere_append fun start d rest split => ?_
  rw [after?_eq_none_iff.mpr (nowhere start d rest split)]
  rfl

theorem splitFirst?_append (nowhere : StartsNowhere token front (token ++ s)) :
    splitFirst? token (front ++ token ++ s) = some (front, s) := by
  induction front with
  | nil =>
      have here : after? token (token ++ s) = some s := after?_eq_some_iff.mpr rfl
      rw [List.nil_append]
      cases whole : token ++ s with
      | nil => simpa [splitFirst?, whole] using here
      | cons c rest => simp [splitFirst?, ← whole, here]
  | cons c front induction =>
      obtain ⟨misses, later⟩ := startsNowhere_cons.mp nowhere
      have here : after? token (c :: (front ++ token ++ s)) = none :=
        after?_eq_none_iff.mpr (by simpa using misses)
      rw [List.cons_append, List.cons_append, splitFirst?, here, induction later]
      rfl

theorem splitFirst?_eq_none_iff : splitFirst? token s = none ↔ ¬ token <:+: s := by
  rw [← contains_eq_false_iff, contains, Option.isSome_eq_false_iff, Option.isNone_iff_eq_none]

private theorem replaceWhereFrom_everywhere (before other : List Char) (skip : Nat)
    (s : List Char) :
    replaceWhereFrom (fun _ _ => true) token new before skip s =
      replaceWhereFrom (fun _ _ => true) token new other skip s := by
  induction s generalizing before other skip with
  | nil => cases skip <;> rfl
  | cons c cs induction =>
      cases skip with
      | zero =>
          rw [replaceWhereFrom, replaceWhereFrom, induction (c :: before) (c :: other) 0,
            induction (c :: before) (c :: other) (token.length - 1)]
      | succ skip => exact induction (c :: before) (c :: other) skip

theorem replaceAll_append (nowhere : StartsNowhere token front s) :
    replaceAll token new (front ++ s) = front ++ replaceAll token new s := by
  induction front with
  | nil => rfl
  | cons c front induction =>
      obtain ⟨misses, later⟩ := startsNowhere_cons.mp nowhere
      have missed : after? token (c :: (front ++ s)) = none := after?_eq_none_iff.mpr misses
      have here : ¬ (after? token (c :: (front ++ s))).any (fun _ => true) = true := by
        rw [missed]
        exact Bool.false_ne_true
      rw [List.cons_append, List.cons_append, ← induction later, replaceAll, replaceWhere,
        replaceWhereFrom, if_neg here, replaceWhereFrom_everywhere [c] []]
      rfl

theorem replaceAll_token (nonempty : token ≠ []) (s : List Char) :
    replaceAll token new (token ++ s) = new ++ replaceAll token new s := by
  obtain ⟨first, tail, rfl⟩ := List.exists_cons_of_ne_nil nonempty
  have matched : after? (first :: tail) (first :: (tail ++ s)) = some s :=
    after?_eq_some_iff.mpr rfl
  have here : (after? (first :: tail) (first :: (tail ++ s))).any (fun _ => true) = true := by
    rw [matched]
    rfl
  rw [List.cons_append, replaceAll, replaceWhere, replaceWhereFrom, if_pos here,
    replaceWhereFrom_skip, replaceWhereFrom_everywhere _ []]
  simp [replaceAll, replaceWhere]

theorem replaceAll_last (nonempty : token ≠ []) (nowhere : StartsNowhere token front (token ++ s))
    (last : StartsNowhere token s []) :
    replaceAll token new (front ++ token ++ s) = front ++ new ++ s := by
  have kept : replaceAll token new (s ++ []) = s ++ [] := replaceAll_append last
  rw [List.append_nil] at kept
  rw [List.append_assoc, replaceAll_append nowhere, replaceAll_token nonempty, kept,
    List.append_assoc]

/-- The token occurs between `front` and `back`, and nowhere later. -/
structure LastAt (token s front back : List Char) : Prop where
  whole : s = front ++ token ++ back
  latest : ∀ before after, s = before ++ token ++ after → before.length ≤ front.length

variable {back : List Char}

theorem LastAt.unique {other rest : List Char} (first : LastAt token s front back)
    (second : LastAt token s other rest) : front = other ∧ back = rest := by
  have same : front ++ (token ++ back) = other ++ (token ++ rest) := by
    rw [← List.append_assoc, ← List.append_assoc, ← first.whole, ← second.whole]
  have length : front.length = other.length :=
    Nat.le_antisymm (second.latest _ _ first.whole) (first.latest _ _ second.whole)
  obtain ⟨fronts, behind⟩ := List.append_inj same length
  exact ⟨fronts, List.append_cancel_left behind⟩

theorem lastAt_of_splitLast? (found : splitLast? token s = some (front, back)) :
    LastAt token s front back := by
  refine ⟨eq_of_splitLast?_eq_some found, fun before after whole => ?_⟩
  induction s generalizing front before with
  | nil => simp [List.append_eq_nil_iff.mp (List.append_eq_nil_iff.mp whole.symm).1]
  | cons c s induction =>
      cases before with
      | nil => simp
      | cons d before =>
          have inside : s = before ++ token ++ after := (List.cons.inj whole).2
          have occurs : contains s token = true := contains_iff.mpr ⟨before, after, inside.symm⟩
          obtain ⟨⟨start, rest⟩, later⟩ := Option.isSome_iff_exists.mp (isSome_splitLast? occurs)
          rw [splitLast?, later] at found
          obtain ⟨rfl, rfl⟩ := Prod.mk.inj (Option.some.inj found)
          exact Nat.succ_le_succ (induction later before inside)

theorem splitLast?_eq_some_iff :
    splitLast? token s = some (front, back) ↔ LastAt token s front back := by
  refine ⟨lastAt_of_splitLast?, fun last => ?_⟩
  have occurs : contains s token = true := contains_iff.mpr ⟨front, back, last.whole.symm⟩
  obtain ⟨⟨start, rest⟩, found⟩ := Option.isSome_iff_exists.mp (isSome_splitLast? occurs)
  obtain ⟨rfl, rfl⟩ := last.unique (lastAt_of_splitLast? found)
  exact found

theorem exists_lastAt_iff : (∃ front back, LastAt token s front back) ↔
    contains s token = true := by
  constructor
  · rintro ⟨front, back, last⟩
    exact contains_iff.mpr ⟨front, back, last.whole.symm⟩
  · intro occurs
    obtain ⟨⟨front, back⟩, found⟩ := Option.isSome_iff_exists.mp (isSome_splitLast? occurs)
    exact ⟨front, back, lastAt_of_splitLast? found⟩

theorem LastAt.replaceLast (last : LastAt token s front back) :
    replaceLast token new s = front ++ new ++ back := by
  rw [Text.replaceLast, splitLast?_eq_some_iff.mpr last]

end BindingRepair.Text
