import Mathlib.Algebra.GroupWithZero.Nat
import Mathlib.Algebra.Order.Group.Nat
import Mathlib.Algebra.Order.Monoid.Prod
import BindingRepair.Proofs.Patching.Pass

/-!
Patching comes to an end, whatever the compiler answers, unless a marker has to be defined or an
argument to be cast. Mending a cast uses up a closing parenthesis, and no other edit brings one in;
every other edit makes its line lighter, where the pairs of characters that it takes away weigh more
than the characters that it puts in.
-/

namespace BindingRepair

open Text

/-- What a line weighs. A comparison with zero takes away a call that ends its statement, and brings
in five characters; a call that is directed elsewhere loses its `re`, and grows by thirteen. -/
def lineWeight (line : List Char) : Nat :=
  line.length + 6 * adjacent ')' ';' line + 14 * adjacent 'r' 'e' line

/-- The rank of a line: how many parentheses it closes, and then what it weighs. -/
def lineRank (line : List Char) : ℕ ×ₗ ℕ :=
  toLex (line.count ')', lineWeight line)

theorem lineRank_lt_of_count {edited line : List Char}
    (fewer : edited.count ')' < line.count ')') : lineRank edited < lineRank line :=
  Prod.Lex.toLex_lt_toLex.mpr (.inl fewer)

/-- A token that closes as many parentheses as another and weighs less, and that makes no weighty
pair with what stands next to it. -/
def Lightens (old new : List Char) : Prop :=
  new ≠ [] ∧ new.count ')' = old.count ')' ∧ lineWeight new < lineWeight old ∧
    (new.head? ≠ some ';' ∧ new.head? ≠ some 'e') ∧
    (new.getLast? ≠ some ')' ∧ new.getLast? ≠ some 'r')

instance (old new : List Char) : Decidable (Lightens old new) :=
  inferInstanceAs (Decidable (_ ∧ _))

theorem lineRank_lt_of_rewrites {old new line edited : List Char} {n : Nat} (positive : 0 < n)
    (rewritten : Rewrites old new n line edited) (lightens : Lightens old new) :
    lineRank edited < lineRank line := by
  obtain ⟨nonempty, closings, lighter, starts, ends⟩ := lightens
  have sameClosings : edited.count ')' = line.count ')' := by
    have counted := rewritten.count_eq ')'
    rw [closings] at counted
    omega
  have length := rewritten.length_eq
  have calls := rewritten.adjacent_le nonempty starts.1 ends.1
  have names := rewritten.adjacent_le nonempty starts.2 ends.2
  have scaled : n * lineWeight new < n * lineWeight old :=
    Nat.mul_lt_mul_of_pos_left lighter positive
  refine Prod.Lex.toLex_lt_toLex.mpr (.inr ⟨sameClosings, ?_⟩)
  simp only [lineWeight, Nat.mul_add, Nat.mul_left_comm n] at scaled ⊢
  omega

theorem lineRank_lt_of_vtableCast? {line edited : List Char}
    (answer : LineEdit.vtableCast? line = some edited) : lineRank edited < lineRank line :=
  lineRank_lt_of_count (LineEdit.count_lt_of_vtableCast? answer)

theorem StandardEdit.lineRank_lt {d : Diagnostic} {line edited : List Char}
    (edit : StandardEdit d line edited) (kind : d.kind ≠ .argumentConversion) :
    lineRank edited < lineRank line := by
  cases edit with
  | nativeInteger _ answer =>
      obtain ⟨n, positive, rewritten⟩ := LineEdit.rewrites_of_nativeInteger? answer
      exact lineRank_lt_of_rewrites positive rewritten (by decide)
  | operatorCall _ answer =>
      obtain ⟨n, positive, rewritten⟩ := LineEdit.rewrites_of_operatorCall? answer
      exact lineRank_lt_of_rewrites positive rewritten (by decide)
  | vtableCast _ _ answer => exact lineRank_lt_of_vtableCast? answer
  | boolReturn _ answer =>
      exact lineRank_lt_of_rewrites Nat.one_pos (LineEdit.rewrites_of_boolReturn? answer)
        (by decide)
  | uintArgument same => exact absurd same kind
  | byteArgument same => exact absurd same kind
  | realloc _ _ answer =>
      obtain ⟨n, positive, rewritten⟩ := LineEdit.rewrites_of_realloc? answer
      exact lineRank_lt_of_rewrites positive rewritten (by decide)

def rank (lines : List String) : ℕ ×ₗ ℕ :=
  (lines.map fun line => lineRank line.toList).sum

theorem rank_set_lt {lines : List String} {index : Nat} {line new : String}
    (present : lines[index]? = some line) (lower : lineRank new.toList < lineRank line.toList) :
    rank (lines.set index new) < rank lines := by
  induction lines generalizing index with
  | nil => cases present
  | cons first rest induction =>
      cases index with
      | zero =>
          obtain rfl := Option.some.inj present
          simp only [rank, List.set_cons_zero, List.map_cons, List.sum_cons]
          exact add_lt_add_left lower _
      | succ index =>
          have later := induction present
          simp only [rank, List.set_cons_succ, List.map_cons, List.sum_cons] at later ⊢
          exact add_lt_add_right later _

/-- The diagnostic asks neither for the definition of a marker nor for the cast of an argument. -/
def Diagnostic.Mild (d : Diagnostic) : Prop :=
  d.kind ≠ .missingType ∧ d.kind ≠ .argumentConversion

theorem Diagnostic.mild_of_code {d : Diagnostic} (noMarker : d.code ≠ "CS0246")
    (noCast : d.code ≠ "CS1503") : d.Mild := by
  constructor
  · intro kind
    have coded := DiagnosticKind.mem_codes_of_ofCode (by decide) kind
    exact noMarker (by simpa [DiagnosticKind.codes] using coded)
  · intro kind
    have coded := DiagnosticKind.mem_codes_of_ofCode (by decide) kind
    exact noCast (by simpa [DiagnosticKind.codes] using coded)

namespace Patching

variable {setup : Setup}

theorem StandardMends.rank_lt {pass : Nat} {ctx : PassContext} {errors : List Diagnostic}
    {s after : State} {result : Except Refusal Unit}
    (mends : StandardMends pass ctx errors s result after) (mild : ∀ d ∈ errors, d.Mild) :
    after.buffer.lines = s.buffer.lines ∨ rank after.buffer.lines < rank s.buffer.lines := by
  induction mends with
  | done => exact .inl rfl
  | outside => exact .inl rfl
  | refused => simp
  | alreadyPatched place present known fixed later induction =>
      exact induction fun d member => mild d (List.mem_cons_of_mem _ member)
  | tolerated place present kind unfixed related later induction =>
      exact induction fun d member => mild d (List.mem_cons_of_mem _ member)
  | @edited ctx d rest s after index line new result place present unfixed edit later induction =>
      have lower := edit.lineRank_lt (mild d List.mem_cons_self).2
      rw [← String.toList_ofList (l := new)] at lower
      have mended := rank_set_lt present lower
      -- The errors that are still to come change nothing, or lower the rank once more.
      rcases induction fun d member => mild d (List.mem_cons_of_mem _ member) with
        same | lowered
      · exact .inr (same ▸ mended)
      · exact .inr (lowered.trans mended)
  | defined place present kind => exact absurd kind (mild _ List.mem_cons_self).1

theorem onePass_rank_lt (standard : setup.registry = .standard)
    (mild : ∀ earlier text result, setup.compiler.answer earlier text = .ok result →
      ∀ d ∈ result.errors, d.Mild) {s next : State} (again : onePass setup s = .again next) :
    rank next.buffer.lines < rank s.buffer.lines := by
  have passes := passes_onePass setup s
  rw [again] at passes
  cases passes with
  | again mended changed =>
      have mends := (standard ▸ mended.mends).standard
      rcases mends.rank_lt (mild _ _ _ mended.answer) with same | lower
      · exact absurd same changed
      · exact lower

/-- A run ends if every pass that asks for another one descends in a well-founded order. -/
theorem exists_run_eq_some {α : Type} [Preorder α] [WellFoundedLT α] (measure : State → α)
    (descends : ∀ s next, onePass setup s = .again next → measure next < measure s) (s : State) :
    ∃ passes result, (run setup passes s).result = some result := by
  induction s using WellFounded.induction (InvImage.wf measure wellFounded_lt) with
  | _ s induction =>
      cases passed : onePass setup s with
      | ended result after => exact ⟨1, result, by simp [run, passed]⟩
      | again next =>
          obtain ⟨passes, result, ended⟩ := induction next (descends s next passed)
          exact ⟨passes + 1, result, by simpa [run, passed] using ended⟩

/-- With the standard rules and a compiler that reports neither a missing type nor an argument that
does not convert, each pass that does not end the run lowers the rank of the lines, and so every run
ends. -/
theorem run_ends (setup : Setup) (standard : setup.registry = .standard)
    (mild : ∀ earlier text result, setup.compiler.answer earlier text = .ok result →
      ∀ d ∈ result.errors, d.code ≠ "CS0246" ∧ d.code ≠ "CS1503") :
    (∀ s next, onePass setup s = .again next → rank next.buffer.lines < rank s.buffer.lines) ∧
      ∀ s, ∃ passes result, (run setup passes s).result = some result := by
  have descends : ∀ s next, onePass setup s = .again next →
      rank next.buffer.lines < rank s.buffer.lines :=
    fun s next => onePass_rank_lt standard fun earlier text result answer d member =>
      Diagnostic.mild_of_code (mild earlier text result answer d member).1
        (mild earlier text result answer d member).2
  exact ⟨descends, exists_run_eq_some (fun s => rank s.buffer.lines) descends⟩

def castReported : Setup where
  compiler := .ofDiagnose (fun _ => {}) fun _ => [{ code := "CS0242" }]
  registry := .standard
  file := "Interop.cs"
  attributeDefinitions := []

def nestedCast : State where
  buffer := { lines := ["f(((self)->vtbl)->g)(&(x));"] }
  report := { file := "Interop.cs" }

theorem run_ends_nestedCast :
    (∃ next, onePass castReported nestedCast = .again next ∧
        rank next.buffer.lines < rank nestedCast.buffer.lines) ∧
      ∃ passes result, (run castReported passes nestedCast).result = some result := by
  have ends := run_ends castReported rfl fun earlier text result answer d member => by
    obtain rfl := Except.ok.inj answer
    obtain rfl := List.mem_singleton.mp member
    decide
  exact ⟨⟨_, rfl, ends.1 _ _ rfl⟩, ends.2 nestedCast⟩

end Patching

end BindingRepair
