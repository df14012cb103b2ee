import BindingRepair.Proofs.Text.Rewriting

namespace BindingRepair.Text

def OpensFirst (s : List Char) : Prop :=
  ∀ front, front <+: s → front.count ')' ≤ front.count '('

/-- A text that opens as many parentheses as it closes, each of them before it is closed. -/
def Balanced (s : List Char) : Prop :=
  s.count '(' = s.count ')' ∧ OpensFirst s

/-- How many parentheses are open behind a text, if `depth` are open before it and none is closed
that is not open. -/
def openAfter? : Nat → List Char → Option Nat
  | depth, [] => some depth
  | depth, '(' :: rest => openAfter? (depth + 1) rest
  | 0, ')' :: _ => none
  | depth + 1, ')' :: rest => openAfter? depth rest
  | depth, _ :: rest => openAfter? depth rest

section

variable {depth after : Nat} {c : Char} {s t : List Char}

theorem openAfter?_cons_other (notOpening : c ≠ '(') (notClosing : c ≠ ')') (depth : Nat)
    (rest : List Char) : openAfter? depth (c :: rest) = openAfter? depth rest := by
  rw [openAfter?]
  · exact notOpening
  · exact fun _ => notClosing
  · exact fun _ _ => notClosing

theorem openAfter?_append (depth : Nat) (s t : List Char) :
    openAfter? depth (s ++ t) = (openAfter? depth s).bind fun depth => openAfter? depth t := by
  induction s generalizing depth with
  | nil => rfl
  | cons c rest induction =>
      by_cases opening : c = '('
      · subst opening
        exact induction (depth + 1)
      · by_cases closing : c = ')'
        · subst closing
          cases depth with
          | zero => rfl
          | succ depth => exact induction depth
        · rw [List.cons_append, openAfter?_cons_other opening closing,
            openAfter?_cons_other opening closing]
          exact induction depth

private theorem forall_prefix_cons_iff {property : List Char → Prop} (empty : property []) :
    (∀ front, front <+: c :: s → property front) ↔
      ∀ front, front <+: s → property (c :: front) := by
  constructor
  · intro all front inside
    exact all (c :: front) ((List.prefix_cons_inj c).mpr inside)
  · intro all front inside
    rcases List.prefix_cons_iff.mp inside with rfl | ⟨rest, rfl, inside⟩
    · exact empty
    · exact all rest ((List.prefix_cons_inj c).mp inside)

theorem openAfter?_eq_some_iff :
    openAfter? depth s = some after ↔
      depth + s.count '(' = after + s.count ')' ∧
        ∀ front, front <+: s → front.count ')' ≤ depth + front.count '(' := by
  induction s generalizing depth with
  | nil => simp [openAfter?]
  | cons c rest induction =>
      rw [forall_prefix_cons_iff (by simp)]
      by_cases opening : c = '('
      · subst opening
        rw [openAfter?, induction]
        simp [Nat.add_assoc, Nat.add_comm 1]
      · by_cases closing : c = ')'
        · subst closing
          cases depth with
          | zero =>
              constructor
              · nofun
              · intro ⟨_, opened⟩
                simpa using opened [] List.nil_prefix
          | succ depth =>
              rw [openAfter?, induction]
              simp only [List.count_cons_self, List.count_cons_of_ne opening, ← Nat.add_assoc,
                Nat.add_right_comm depth 1, Nat.add_left_inj, Nat.add_le_add_iff_right]
        · rw [openAfter?_cons_other opening closing, induction]
          simp [opening, closing]

theorem balanced_iff : Balanced s ↔ openAfter? 0 s = some 0 := by
  simp [openAfter?_eq_some_iff, Balanced, OpensFirst]

instance (s : List Char) : Decidable (Balanced s) :=
  decidable_of_iff _ balanced_iff.symm

end

theorem Rewrites.openAfter?_eq {old new s t : List Char} {n : Nat}
    (rewritten : Rewrites old new n s t)
    (same : ∀ depth, openAfter? depth new = openAfter? depth old) (depth : Nat) :
    openAfter? depth t = openAfter? depth s := by
  induction rewritten generalizing depth with
  | nil => rfl
  | @keep c _ s t rest induction =>
      calc
        openAfter? depth (c :: t) =
            (openAfter? depth [c]).bind fun depth => openAfter? depth t :=
          openAfter?_append depth [c] t
        _ = (openAfter? depth [c]).bind fun depth => openAfter? depth s :=
          congrArg _ (funext induction)
        _ = openAfter? depth (c :: s) := (openAfter?_append depth [c] s).symm
  | swap rest induction =>
      rw [openAfter?_append, openAfter?_append, same]
      exact congrArg _ (funext induction)

theorem Balanced.of_rewrites {old new s t : List Char} {n : Nat} (balanced : Balanced s)
    (rewritten : Rewrites old new n s t)
    (same : ∀ depth, openAfter? depth new = openAfter? depth old) : Balanced t := by
  rw [balanced_iff, rewritten.openAfter?_eq same]
  exact balanced_iff.mp balanced

end BindingRepair.Text
