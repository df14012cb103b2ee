import BindingRepair.Proofs.RuleRegistry
import BindingRepair.Proofs.Text.Parentheses

/-!
What the standard rules do to parentheses. Every edit but one puts a token in the place of another
that opens and closes as much. The edit of a cast drops one closing parenthesis, and opening ones
with each pointer that it finds closed, and brings in one with each address that it finds: it keeps
a line balanced only where these numbers agree.
-/

namespace BindingRepair

open Text

theorem StandardEdit.balanced {d : Diagnostic} {line edited : List Char}
    (edit : StandardEdit d line edited) (kind : d.kind ≠ .voidPointerOperation)
    (balanced : Balanced line) : Balanced edited := by
  cases edit with
  | nativeInteger _ answer =>
      obtain ⟨n, _, rewritten⟩ := LineEdit.rewrites_of_nativeInteger? answer
      exact balanced.of_rewrites rewritten fun depth => by cases depth <;> rfl
  | operatorCall _ answer =>
      obtain ⟨n, _, rewritten⟩ := LineEdit.rewrites_of_operatorCall? answer
      exact balanced.of_rewrites rewritten fun depth => by cases depth <;> rfl
  | vtableCast same => exact absurd same kind
  | boolReturn _ answer =>
      refine balanced.of_rewrites (LineEdit.rewrites_of_boolReturn? answer) fun depth => ?_
      cases depth <;> rfl
  | uintArgument _ _ answer =>
      rcases LineEdit.rewrites_of_uintArgument? answer with ⟨n, _, rewritten⟩ | rewritten
      · exact balanced.of_rewrites rewritten fun depth => by cases depth <;> rfl
      · exact balanced.of_rewrites rewritten fun depth => by cases depth <;> rfl
  | byteArgument _ _ answer =>
      refine balanced.of_rewrites (LineEdit.rewrites_of_byteArgument? answer) fun depth => ?_
      cases depth <;> rfl
  | realloc _ _ answer =>
      obtain ⟨n, _, rewritten⟩ := LineEdit.rewrites_of_realloc? answer
      exact balanced.of_rewrites rewritten fun depth => by cases depth <;> rfl

namespace LineEdit

theorem count_openPointers (s : List Char) :
    (replaceAll "(self)->".toList "self)->".toList s).count '(' + occurrences "(self)->".toList s =
        s.count '(' ∧
      (replaceAll "(self)->".toList "self)->".toList s).count ')' = s.count ')' := by
  have rewritten := rewrites_replaceAll (by decide : "(self)->".toList ≠ []) "self)->".toList s
  have openings := rewritten.count_eq '('
  have closings := rewritten.count_eq ')'
  have lost : "(self)->".toList.count '(' = 1 ∧ "self)->".toList.count '(' = 0 := by decide
  have kept : "(self)->".toList.count ')' = 1 ∧ "self)->".toList.count ')' = 1 := by decide
  rw [lost.1, lost.2] at openings
  rw [kept.1, kept.2] at closings
  omega

theorem count_castAddresses (s : List Char) :
    (replaceAll addressCast "(&((".toList s).count '(' = s.count '(' + occurrences addressCast s ∧
      (replaceAll addressCast "(&((".toList s).count ')' = s.count ')' := by
  have rewritten := rewrites_replaceAll (by decide : addressCast ≠ []) "(&((".toList s
  have openings := rewritten.count_eq '('
  have closings := rewritten.count_eq ')'
  have gained : addressCast.count '(' = 2 ∧ "(&((".toList.count '(' = 3 := by decide
  have kept : addressCast.count ')' = 0 ∧ "(&((".toList.count ')' = 0 := by decide
  rw [gained.1, gained.2] at openings
  rw [kept.1, kept.2] at closings
  omega

def castUnclosed (line : List Char) : List Char :=
  match splitFirst? vtableAccess line with
  | none => line
  | some (before, rest) =>
    match splitFirst? [')'] rest with
    | none => line
    | some (access, tail) => before ++ vtableAccess ++ access ++ tail

def castsOpened (line : List Char) : List Char :=
  replaceAll "(self)->".toList "self)->".toList (castUnclosed line)

variable {line edited : List Char}

theorem eq_of_vtableCast? (answer : vtableCast? line = some edited) :
    edited = replaceAll addressCast "(&((".toList (castsOpened line) ∧
      ∃ front back, line = front ++ ')' :: back ∧ castUnclosed line = front ++ back := by
  obtain ⟨⟨before, rest⟩, found, answer⟩ := Option.bind_eq_some_iff.mp answer
  obtain ⟨⟨access, tail⟩, closed, rfl⟩ := Option.map_eq_some_iff.mp answer
  have unclosed : castUnclosed line = before ++ vtableAccess ++ access ++ tail := by
    simp only [castUnclosed, found, closed]
  refine ⟨by rw [castsOpened, unclosed], before ++ vtableAccess ++ access, tail, ?_, unclosed⟩
  rw [eq_of_splitFirst?_eq_some found, eq_of_splitFirst?_eq_some closed]
  simp

theorem balanced_vtableCast?_iff (answer : vtableCast? line = some edited)
    (balanced : Balanced line) :
    Balanced edited ↔
      occurrences "(self)->".toList (castUnclosed line) =
          occurrences addressCast (castsOpened line) + 1 ∧
        OpensFirst edited := by
  obtain ⟨rfl, front, back, whole, unclosed⟩ := eq_of_vtableCast? answer
  refine and_congr_left fun _ => ?_
  obtain ⟨openings, closings⟩ := count_openPointers (castUnclosed line)
  obtain ⟨castOpenings, castClosings⟩ := count_castAddresses (castsOpened line)
  have total := balanced.1
  have sameOpenings : line.count '(' = (castUnclosed line).count '(' := by
    rw [unclosed, whole]
    simp
  have oneClosing : line.count ')' = (castUnclosed line).count ')' + 1 := by
    rw [unclosed, whole]
    simp [Nat.add_assoc]
  rw [← castsOpened] at openings closings
  omega

end LineEdit

namespace PatchRule

/-- A balanced line stays balanced under every standard rule but the one for casts. That one drops a
closing parenthesis, and then opens up the cast of each pointer and casts each address: the line
stays balanced exactly if one more pointer than addresses gives way, and no parenthesis closes that
has not been opened. -/
theorem balanced_replacement {rule : PatchRule} (standard : rule ∈ RuleRegistry.standardRules)
    {d : Diagnostic} {line new : String} {ctx : PassContext} {outcome : PatchOutcome}
    (applied : rule.apply d line ctx = .ok outcome) (replaced : .replace new ∈ outcome.actions)
    (balanced : Balanced line.toList) :
    (rule.kind ≠ .voidPointerOperation → Balanced new.toList) ∧
      (rule.kind = .voidPointerOperation →
        (Balanced new.toList ↔
          occurrences "(self)->".toList (LineEdit.castUnclosed line.toList) =
              occurrences LineEdit.addressCast (LineEdit.castsOpened line.toList) + 1 ∧
            OpensFirst new.toList)) := by
  obtain ⟨code, kind, edit⟩ := exists_standardEdit standard applied replaced
  constructor
  · intro other
    refine edit.balanced ?_ balanced
    rwa [Diagnostic.kind, kind]
  · intro cast
    exact LineEdit.balanced_vtableCast?_iff (edit.vtableCast_of_kind (kind.trans cast)) balanced

def keyboardCall : String :=
  "((Keyboard*)(self)->vtbl)->is_down(&(Keyboard*)(self)->container, vk);"

def keyboardCallMended : String :=
  "((Keyboard*)self)->vtbl->is_down(&((Keyboard*)self)->container, vk);"

theorem balanced_replacement_keyboardCall :
    (vtableCast ∈ RuleRegistry.standardRules ∧
      vtableCast.apply { code := "CS0242" } keyboardCall emptyContext =
        .ok { actions := [.replace keyboardCallMended] } ∧
      Balanced keyboardCall.toList ∧ Balanced keyboardCallMended.toList) ∧
    (boolReturn ∈ RuleRegistry.standardRules ∧
      boolReturn.apply { code := "CS0029" } "bool __ret = is_down(vk);" emptyContext =
        .ok { actions := [.replace "bool __ret = is_down(vk) != 0;"] } ∧
      Balanced "bool __ret = is_down(vk);".toList ∧
      Balanced "bool __ret = is_down(vk) != 0;".toList) := by
  constructor
  · have standard : vtableCast ∈ RuleRegistry.standardRules := by
      simp [RuleRegistry.standardRules]
    have applied : vtableCast.apply { code := "CS0242" } keyboardCall emptyContext =
        .ok { actions := [.replace keyboardCallMended] } := rfl
    have balanced : Balanced keyboardCall.toList := by decide
    have opens : OpensFirst keyboardCallMended.toList := by
      have balanced : Balanced keyboardCallMended.toList := by decide
      exact balanced.2
    have pointers : occurrences "(self)->".toList (LineEdit.castUnclosed keyboardCall.toList) =
        occurrences LineEdit.addressCast (LineEdit.castsOpened keyboardCall.toList) + 1 := by
      decide
    have kept := (balanced_replacement standard applied List.mem_cons_self balanced).2 rfl
    exact ⟨standard, applied, balanced, kept.mpr ⟨pointers, opens⟩⟩
  · have standard : boolReturn ∈ RuleRegistry.standardRules := by
      simp [RuleRegistry.standardRules]
    have applied : boolReturn.apply { code := "CS0029" } "bool __ret = is_down(vk);" emptyContext =
        .ok { actions := [.replace "bool __ret = is_down(vk) != 0;"] } := rfl
    have balanced : Balanced "bool __ret = is_down(vk);".toList := by decide
    have kept := (balanced_replacement standard applied List.mem_cons_self balanced).1 (by decide)
    exact ⟨standard, applied, balanced, kept⟩

/-- An address that is cast to no pointer gets a parenthesis that nothing closes. -/
theorem not_forall_balanced :
    ¬ ∀ rule ∈ RuleRegistry.standardRules, ∀ (d : Diagnostic) (line new : String)
      (ctx : PassContext) (outcome : PatchOutcome), rule.apply d line ctx = .ok outcome →
      .replace new ∈ outcome.actions → Balanced line.toList → Balanced new.toList := by
  intro claim
  have standard : vtableCast ∈ RuleRegistry.standardRules := by
    simp [RuleRegistry.standardRules]
  have balanced := claim vtableCast standard { code := "CS0242" } "((T*)(self)->vtbl)->f(&(x));"
    "((T*)self)->vtbl->f(&((x));" emptyContext _ rfl List.mem_cons_self (by decide)
  exact absurd balanced (by decide)

end PatchRule

end BindingRepair
