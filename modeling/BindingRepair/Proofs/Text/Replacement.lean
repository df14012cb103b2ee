import BindingRepair.Proofs.Text.Rewriting

namespace BindingRepair.Text

variable {fits : List Char → List Char → Bool} {token new before s t : List Char}

theorem isSome_after?_iff :
    (after? token s).isSome = true ↔ token <+: s := by
  rw [Option.isSome_iff_exists]
  exact exists_congr fun rest => after?_eq_some_iff.trans eq_comm

theorem after?_eq_none_iff : after? token s = none ↔ ¬ token <+: s := by
  rw [← isSome_after?_iff, Option.not_isSome_iff_eq_none]

theorem after?_singleton (c : Char) (s : List Char) : after? [c] (c :: s) = some s :=
  after?_eq_some_iff.mpr rfl

theorem isSome_after?_singleton {c : Char} :
    (after? [c] s).isSome = true ↔ s.head? = some c := by
  rw [isSome_after?_iff, List.head?_eq_some_iff]
  exact exists_congr fun rest => eq_comm

theorem contains_iff : contains s token = true ↔ token <:+: s := by
  constructor
  · intro occurs
    obtain ⟨⟨front, back⟩, found⟩ := Option.isSome_iff_exists.mp occurs
    exact ⟨front, back, (eq_of_splitFirst?_eq_some found).symm⟩
  · rintro ⟨front, back, rfl⟩
    unfold contains
    induction front with
    | nil =>
        cases token with
        | nil => cases back <;> rfl
        | cons c cs =>
            have matched : after? (c :: cs) (c :: (cs ++ back)) = some back :=
              after?_eq_some_iff.mpr rfl
            simp [splitFirst?, matched]
    | cons c cs induction =>
        simp only [List.cons_append, splitFirst?]
        cases after? token (c :: (cs ++ token ++ back)) with
        | none => simpa using induction
        | some rest => rfl

theorem contains_eq_false_iff : contains s token = false ↔ ¬ token <:+: s := by
  rw [← contains_iff, Bool.not_eq_true]

theorem occursWhere_iff (nonempty : token ≠ []) :
    occursWhere fits token before s = true ↔
      ∃ front back, s = front ++ token ++ back ∧ fits (front.reverse ++ before) back = true := by
  induction s generalizing before with
  | nil => simp [occursWhere, nonempty]
  | cons c cs induction =>
      rw [occursWhere_cons, Bool.or_eq_true, Option.any_eq_true, induction]
      constructor
      · rintro (⟨back, matched, fit⟩ | ⟨front, back, rfl, fit⟩)
        · exact ⟨[], back, after?_eq_some_iff.mp matched, fit⟩
        · exact ⟨c :: front, back, rfl, by simpa using fit⟩
      · rintro ⟨front, back, whole, fit⟩
        cases front with
        | nil => exact .inl ⟨back, after?_eq_some_iff.mpr whole, fit⟩
        | cons d front =>
            obtain ⟨rfl, rfl⟩ := List.cons.inj whole
            exact .inr ⟨front, back, rfl, by simpa using fit⟩

/-- `ReplacedWhere fits token new before s t` says that `t` is `s` with every token replaced that
fits, where `before` is what precedes `s`, nearest character first. -/
inductive ReplacedWhere (fits : List Char → List Char → Bool) (token new : List Char) :
    List Char → List Char → List Char → Prop
  | nil {before : List Char} : ReplacedWhere fits token new before [] []
  | keep {before : List Char} (c : Char) {s t : List Char}
      (misfit : (after? token (c :: s)).any (fits before) = false)
      (rest : ReplacedWhere fits token new (c :: before) s t) :
      ReplacedWhere fits token new before (c :: s) (c :: t)
  | swap {before s t : List Char} (fit : fits before s = true)
      (rest : ReplacedWhere fits token new (token.reverse ++ before) s t) :
      ReplacedWhere fits token new before (token ++ s) (new ++ t)

theorem replacedWhere_replaceWhereFrom (nonempty : token ≠ []) (before : List Char)
    (skip : Nat) (s : List Char) :
    ReplacedWhere fits token new ((s.take skip).reverse ++ before) (s.drop skip)
      (replaceWhereFrom fits token new before skip s) := by
  induction s generalizing before skip with
  | nil => simpa [replaceWhereFrom] using ReplacedWhere.nil
  | cons c cs induction =>
      cases skip with
      | succ skip => simpa [replaceWhereFrom] using induction (c :: before) skip
      | zero =>
          rw [replaceWhereFrom, List.drop_zero, List.take_zero]
          cases here : (after? token (c :: cs)).any (fits before) with
          | false => exact .keep c here (induction (c :: before) 0)
          | true =>
              obtain ⟨rest, matched, fit⟩ := (Option.any_eq_true _ _).mp here
              obtain ⟨first, tail, rfl⟩ := List.exists_cons_of_ne_nil nonempty
              obtain ⟨rfl, rfl⟩ := List.cons.inj (after?_eq_some_iff.mp matched)
              exact .swap fit (by simpa using induction (c :: before) tail.length)

theorem replacedWhere_replaceWhere (nonempty : token ≠ []) (s : List Char) :
    ReplacedWhere fits token new [] s (replaceWhere fits token new s) :=
  replacedWhere_replaceWhereFrom nonempty [] 0 s

theorem ReplacedWhere.exists_rewrites (replaced : ReplacedWhere fits token new before s t) :
    ∃ n, Rewrites token new n s t ∧ (occursWhere fits token before s = true → 0 < n) := by
  induction replaced with
  | nil => exact ⟨0, .nil, nofun⟩
  | keep c misfit rest induction =>
      obtain ⟨n, rewritten, positive⟩ := induction
      refine ⟨n, .keep c rewritten, fun occurs => positive ?_⟩
      simpa [occursWhere_cons, misfit] using occurs
  | swap fit rest induction =>
      obtain ⟨n, rewritten, _⟩ := induction
      exact ⟨n + 1, .swap rewritten, fun _ => n.succ_pos⟩

theorem exists_rewrites_replaceWhere (fits : List Char → List Char → Bool)
    (nonempty : token ≠ []) (new s : List Char) :
    ∃ n, Rewrites token new n s (replaceWhere fits token new s) ∧
      (occursWhere fits token [] s = true → 0 < n) :=
  (replacedWhere_replaceWhere nonempty s).exists_rewrites

theorem exists_rewrites_replaceAll (nonempty : token ≠ []) (new s : List Char) :
    ∃ n, Rewrites token new n s (replaceAll token new s) ∧ (contains s token = true → 0 < n) := by
  obtain ⟨n, rewritten, positive⟩ :=
    exists_rewrites_replaceWhere (fun _ _ => true) nonempty new s
  refine ⟨n, rewritten, fun occurs => positive ?_⟩
  obtain ⟨front, back, whole⟩ := contains_iff.mp occurs
  exact (occursWhere_iff nonempty).mpr ⟨front, back, whole.symm, rfl⟩

theorem replaceWhereFrom_skip (before : List Char) (skip : Nat) (s : List Char) :
    replaceWhereFrom fits token new before skip s =
      replaceWhereFrom fits token new ((s.take skip).reverse ++ before) 0 (s.drop skip) := by
  induction s generalizing before skip with
  | nil => simp [replaceWhereFrom]
  | cons c cs induction =>
      cases skip with
      | zero => rfl
      | succ skip => simpa [replaceWhereFrom] using induction (c :: before) skip

/-- There is only one way to replace every token that fits. -/
theorem ReplacedWhere.eq_replaceWhereFrom (nonempty : token ≠ [])
    (replaced : ReplacedWhere fits token new before s t) :
    t = replaceWhereFrom fits token new before 0 s := by
  induction replaced with
  | nil => rfl
  | keep c misfit rest induction =>
      rw [replaceWhereFrom, if_neg (Bool.eq_false_iff.mp misfit), ← induction]
  | @swap before s t fit rest induction =>
      obtain ⟨first, tail, rfl⟩ := List.exists_cons_of_ne_nil nonempty
      have matched : after? (first :: tail) (first :: (tail ++ s)) = some s :=
        after?_eq_some_iff.mpr rfl
      have here : (after? (first :: tail) (first :: (tail ++ s))).any (fits before) = true := by
        rw [matched]
        exact fit
      rw [List.cons_append, replaceWhereFrom, if_pos here, replaceWhereFrom_skip, induction]
      simp

theorem ReplacedWhere.eq_replaceWhere (nonempty : token ≠ [])
    (replaced : ReplacedWhere fits token new [] s t) : t = replaceWhere fits token new s :=
  replaced.eq_replaceWhereFrom nonempty

theorem ReplacedWhere.keepAll {front : List Char}
    (misfits : ∀ a c b, front = a ++ c :: b →
      (after? token (c :: b ++ s)).any (fits (a.reverse ++ before)) = false)
    (rest : ReplacedWhere fits token new (front.reverse ++ before) s t) :
    ReplacedWhere fits token new before (front ++ s) (front ++ t) := by
  induction front generalizing before with
  | nil => exact rest
  | cons c front induction =>
      refine .keep c (misfits [] c front rfl) (induction ?_ (by simpa using rest))
      rintro a d b rfl
      simpa using misfits (c :: a) d b rfl

theorem occursWhere_append {front : List Char}
    (misfits : ∀ a c b, front = a ++ c :: b →
      (after? token (c :: b ++ s)).any (fits (a.reverse ++ before)) = false) :
    occursWhere fits token before (front ++ s) =
      occursWhere fits token (front.reverse ++ before) s := by
  induction front generalizing before with
  | nil => rfl
  | cons c front induction =>
      have misfit : (after? token (c :: (front ++ s))).any (fits before) = false :=
        misfits [] c front rfl
      have later : ∀ a d b, front = a ++ d :: b →
          (after? token (d :: b ++ s)).any (fits (a.reverse ++ c :: before)) = false := by
        rintro a d b rfl
        simpa using misfits (c :: a) d b rfl
      rw [List.cons_append, occursWhere_cons, misfit, Bool.false_or, induction later]
      simp

theorem ReplacedWhere.of_append {front : List Char} {first : Char}
    (replaced : ReplacedWhere fits token (first :: new) before s (front ++ t))
    (free : first ∉ front) :
    ∃ rest, s = front ++ rest ∧
      ReplacedWhere fits token (first :: new) (front.reverse ++ before) rest t := by
  induction front generalizing before s with
  | nil => exact ⟨s, rfl, replaced⟩
  | cons c front induction =>
      have freeLater : first ∉ front := fun member => free (List.mem_cons_of_mem c member)
      generalize whole : c :: front ++ t = text at replaced
      cases replaced with
      | nil => cases whole
      | keep d misfit later =>
          obtain ⟨rfl, rfl⟩ := List.cons.inj whole
          obtain ⟨rest, rfl, behind⟩ := induction later freeLater
          exact ⟨rest, rfl, by simpa using behind⟩
      | swap fit later =>
          obtain ⟨rfl, _⟩ := List.cons.inj whole
          exact absurd List.mem_cons_self free

end BindingRepair.Text
