import BindingRepair.Text.Search

/-!
Rewriting a text: some occurrences of a token give way to another text, and all else stays as it is.
To replace all occurrences, or the last one, is such a rewriting, and what it does to the length of a
text, to its characters, and to its pairs of neighbouring characters can be read off the number of
occurrences that gave way.
-/

namespace BindingRepair.Text

theorem after?_eq_some_iff {token s rest : List Char} :
    after? token s = some rest ↔ s = token ++ rest := by
  induction token generalizing s with
  | nil => simp [eq_comm]
  | cons head tail induction =>
      cases s with
      | nil => simp [after?]
      | cons c cs =>
          by_cases same : head = c
          · subst same
            simp [after?, induction]
          · have differ : ¬ c = head := fun equality => same equality.symm
            simp [after?, same, differ]

theorem eq_of_splitFirst?_eq_some {token s before rest : List Char}
    (found : splitFirst? token s = some (before, rest)) : s = before ++ token ++ rest := by
  induction s generalizing before with
  | nil =>
      simp only [splitFirst?, Option.map_eq_some_iff, Prod.mk.injEq] at found
      obtain ⟨_, matched, rfl, rfl⟩ := found
      simpa using after?_eq_some_iff.mp matched
  | cons c cs induction =>
      rw [splitFirst?] at found
      cases matched : after? token (c :: cs) with
      | some after =>
          simp only [matched, Option.some.injEq, Prod.mk.injEq] at found
          obtain ⟨rfl, rfl⟩ := found
          simpa using after?_eq_some_iff.mp matched
      | none =>
          simp only [matched, Option.map_eq_some_iff, Prod.mk.injEq, Prod.exists] at found
          obtain ⟨front, _, later, rfl, rfl⟩ := found
          rw [induction later]
          rfl

theorem eq_of_splitLast?_eq_some {token s before rest : List Char}
    (found : splitLast? token s = some (before, rest)) : s = before ++ token ++ rest := by
  induction s generalizing before with
  | nil =>
      simp only [splitLast?, Option.map_eq_some_iff, Prod.mk.injEq] at found
      obtain ⟨_, matched, rfl, rfl⟩ := found
      simpa using after?_eq_some_iff.mp matched
  | cons c cs induction =>
      rw [splitLast?] at found
      cases later : splitLast? token cs with
      | some split =>
          simp only [later, Option.some.injEq, Prod.mk.injEq] at found
          obtain ⟨rfl, rfl⟩ := found
          rw [induction later]
          rfl
      | none =>
          simp only [later, Option.map_eq_some_iff, Prod.mk.injEq] at found
          obtain ⟨_, matched, rfl, rfl⟩ := found
          simpa using after?_eq_some_iff.mp matched

theorem isSome_splitLast? {token s : List Char} (occurs : contains s token = true) :
    (splitLast? token s).isSome = true := by
  unfold contains at occurs
  induction s with
  | nil => simpa [splitFirst?, splitLast?] using occurs
  | cons c cs induction =>
      rw [splitFirst?] at occurs
      rw [splitLast?]
      cases later : splitLast? token cs with
      | some split => rfl
      | none =>
          cases matched : after? token (c :: cs) with
          | some rest => rfl
          | none =>
              simp only [matched, Option.isSome_map] at occurs
              simpa [later] using induction occurs

theorem occursWhere_cons (fits : List Char → List Char → Bool) (token before : List Char)
    (c : Char) (cs : List Char) :
    occursWhere fits token before (c :: cs) =
      ((after? token (c :: cs)).any (fits before) ||
        occursWhere fits token (c :: before) cs) := by
  rw [occursWhere]
  cases after? token (c :: cs) <;> rfl

/-- `Rewrites old new n s t` says that `n` occurrences of `old` in `s`, which do not overlap, have
given way to `new` in `t`. -/
inductive Rewrites (old new : List Char) : Nat → List Char → List Char → Prop
  | nil : Rewrites old new 0 [] []
  | keep (c : Char) {n : Nat} {s t : List Char} (rest : Rewrites old new n s t) :
      Rewrites old new n (c :: s) (c :: t)
  | swap {n : Nat} {s t : List Char} (rest : Rewrites old new n s t) :
      Rewrites old new (n + 1) (old ++ s) (new ++ t)

namespace Rewrites

variable {old new s t : List Char} {n : Nat}

theorem refl (s : List Char) : Rewrites old new 0 s s := by
  induction s with
  | nil => exact .nil
  | cons c cs induction => exact .keep c induction

theorem prepend (front : List Char) (rest : Rewrites old new n s t) :
    Rewrites old new n (front ++ s) (front ++ t) := by
  induction front with
  | nil => exact rest
  | cons c cs induction => exact .keep c induction

theorem single (front back : List Char) :
    Rewrites old new 1 (front ++ old ++ back) (front ++ new ++ back) := by
  rw [List.append_assoc, List.append_assoc]
  exact prepend front (.swap (.refl back))

theorem length_eq (rewritten : Rewrites old new n s t) :
    t.length + n * old.length = s.length + n * new.length := by
  induction rewritten with
  | nil => simp
  | keep c rest induction =>
      simp only [List.length_cons]
      omega
  | swap rest induction =>
      simp only [List.length_append, Nat.add_mul, Nat.one_mul]
      omega

theorem count_eq (c : Char) (rewritten : Rewrites old new n s t) :
    t.count c + n * old.count c = s.count c + n * new.count c := by
  induction rewritten with
  | nil => simp
  | keep d rest induction =>
      simp only [List.count_cons]
      omega
  | swap rest induction =>
      simp only [List.count_append, Nat.add_mul, Nat.one_mul]
      omega

theorem mem_or_mem {c : Char} (rewritten : Rewrites old new n s t) (member : c ∈ t) :
    c ∈ s ∨ c ∈ new := by
  induction rewritten with
  | nil => exact .inl member
  | keep d rest induction =>
      rcases List.mem_cons.mp member with rfl | later
      · exact .inl List.mem_cons_self
      · exact (induction later).imp_left (List.mem_cons_of_mem d)
  | swap rest induction =>
      rcases List.mem_append.mp member with here | later
      · exact .inr here
      · exact (induction later).imp_left (List.mem_append_right old)

theorem isInfix (rewritten : Rewrites old new n s t) (positive : 0 < n) : new <:+: t := by
  induction rewritten with
  | nil => cases positive
  | keep c rest induction => exact List.infix_cons (induction positive)
  | swap rest => exact ⟨[], _, rfl⟩

theorem head?_eq_some {c : Char} (rewritten : Rewrites old new n s t) (nonempty : new ≠ [])
    (starts : new.head? ≠ some c) (head : t.head? = some c) : s.head? = some c := by
  cases rewritten with
  | nil => exact head
  | keep d rest => exact head
  | swap rest =>
      obtain ⟨first, tail, rfl⟩ := List.exists_cons_of_ne_nil nonempty
      exact absurd head starts

end Rewrites

def adjacent (a b : Char) : List Char → Nat
  | [] => 0
  | c :: rest => (if c = a ∧ rest.head? = some b then 1 else 0) + adjacent a b rest

theorem adjacent_add_le (a b : Char) (s t : List Char) :
    adjacent a b s + adjacent a b t ≤ adjacent a b (s ++ t) := by
  induction s with
  | nil => simp [adjacent]
  | cons c cs induction =>
      have kept : (if c = a ∧ cs.head? = some b then 1 else 0) ≤
          if c = a ∧ (cs ++ t).head? = some b then 1 else 0 := by
        cases cs with
        | nil => simp
        | cons d ds => simp
      simp only [List.cons_append, adjacent]
      omega

theorem adjacent_append {a b : Char} {s : List Char} (ends : s.getLast? ≠ some a)
    (t : List Char) : adjacent a b (s ++ t) = adjacent a b s + adjacent a b t := by
  induction s with
  | nil => simp [adjacent]
  | cons c cs induction =>
      cases cs with
      | nil =>
          have differ : c ≠ a := by simpa using ends
          simp [adjacent, differ]
      | cons d ds =>
          have later := induction (by simpa [List.getLast?_cons_cons] using ends)
          change (if c = a ∧ some d = some b then 1 else 0) + adjacent a b (d :: ds ++ t) =
            (if c = a ∧ some d = some b then 1 else 0) + adjacent a b (d :: ds) +
              adjacent a b t
          rw [later, Nat.add_assoc]

theorem Rewrites.adjacent_le {old new s t : List Char} {n : Nat} {a b : Char}
    (rewritten : Rewrites old new n s t) (nonempty : new ≠ [])
    (starts : new.head? ≠ some b) (ends : new.getLast? ≠ some a) :
    adjacent a b t + n * adjacent a b old ≤ adjacent a b s + n * adjacent a b new := by
  induction rewritten with
  | nil => simp
  | @keep c n s t rest induction =>
      have noNew : (if c = a ∧ t.head? = some b then 1 else 0) ≤
          if c = a ∧ s.head? = some b then 1 else 0 := by
        by_cases pair : c = a ∧ t.head? = some b
        · have before : s.head? = some b := rest.head?_eq_some nonempty starts pair.2
          simp [pair, before]
        · simp [pair]
      simp only [adjacent]
      omega
  | @swap n s t rest induction =>
      have atLeast := adjacent_add_le a b old s
      rw [adjacent_append ends, Nat.add_mul, Nat.add_mul]
      omega

/-- How often a token occurs in a text from a point on, from left to right and without overlap. -/
def occurrencesFrom (token : List Char) : Nat → List Char → Nat
  | _, [] => 0
  | skip + 1, _ :: cs => occurrencesFrom token skip cs
  | 0, c :: cs =>
    if (after? token (c :: cs)).isSome then occurrencesFrom token (token.length - 1) cs + 1
    else occurrencesFrom token 0 cs

/-- How often a token occurs in a text, from left to right and without overlap. -/
def occurrences (token s : List Char) : Nat :=
  occurrencesFrom token 0 s

theorem rewrites_replaceAllFrom {old : List Char} (nonempty : old ≠ []) (new before : List Char)
    (skip : Nat) (s : List Char) :
    Rewrites old new (occurrencesFrom old skip s) (s.drop skip)
      (replaceWhereFrom (fun _ _ => true) old new before skip s) := by
  induction s generalizing before skip with
  | nil => simpa [occurrencesFrom, replaceWhereFrom] using Rewrites.nil
  | cons c cs induction =>
      cases skip with
      | succ skip => exact induction (c :: before) skip
      | zero =>
          rw [occurrencesFrom, replaceWhereFrom, List.drop_zero]
          cases matched : after? old (c :: cs) with
          | none => exact .keep c (induction (c :: before) 0)
          | some rest =>
              obtain ⟨first, tail, rfl⟩ := List.exists_cons_of_ne_nil nonempty
              obtain ⟨rfl, rfl⟩ := List.cons.inj (after?_eq_some_iff.mp matched)
              exact .swap (by simpa using induction (c :: before) tail.length)

theorem rewrites_replaceAll {old : List Char} (nonempty : old ≠ []) (new s : List Char) :
    Rewrites old new (occurrences old s) s (replaceAll old new s) :=
  rewrites_replaceAllFrom nonempty new [] 0 s

theorem rewrites_replaceLast {old s : List Char} (new : List Char)
    (occurs : contains s old = true) : Rewrites old new 1 s (replaceLast old new s) := by
  obtain ⟨⟨before, rest⟩, found⟩ := Option.isSome_iff_exists.mp (isSome_splitLast? occurs)
  rw [replaceLast, found, eq_of_splitLast?_eq_some found]
  exact .single before rest

end BindingRepair.Text
