import BindingRepair.Proofs.LineEdit.Size
import BindingRepair.Proofs.Patching.Termination

namespace BindingRepair.PatchRule

open Text

/-- `Reapplied rule d contexts line k last` says that the rule makes `last` of a line in `k`
applications, each to what the one before it made, for the same diagnostic. -/
inductive Reapplied (rule : PatchRule) (d : Diagnostic) (contexts : Nat → PassContext)
    (line : String) : Nat → String → Prop
  | start : Reapplied rule d contexts line 0 line
  | again {k : Nat} {last next : String} {outcome : PatchOutcome}
      (earlier : Reapplied rule d contexts line k last)
      (applied : rule.apply d last (contexts k) = .ok outcome)
      (replaced : .replace next ∈ outcome.actions) :
      Reapplied rule d contexts line (k + 1) next

/-- The rule refuses what it has made of the line, after finitely many applications. -/
def Exhausts (rule : PatchRule) (d : Diagnostic) (contexts : Nat → PassContext)
    (line : String) : Prop :=
  ∃ k last contradiction, Reapplied rule d contexts line k last ∧
    rule.apply d last (contexts k) = .error contradiction

def Replaces (rule : PatchRule) : Prop :=
  ∃ d line ctx outcome new, rule.apply d line ctx = .ok outcome ∧ .replace new ∈ outcome.actions

variable {rule : PatchRule} {d : Diagnostic} {contexts : Nat → PassContext} {line : String}

theorem Replaces.kind_ne (standard : rule ∈ RuleRegistry.standardRules) (replaces : rule.Replaces) :
    rule.kind ≠ .missingType ∧ rule.kind ≠ .unexpectedToken := by
  obtain ⟨d, line, ctx, outcome, new, applied, replaced⟩ := replaces
  obtain ⟨code, kind, edit⟩ := exists_standardEdit standard applied replaced
  exact kind ▸ edit.kind_ne

theorem refused_or_edited (standard : rule ∈ RuleRegistry.standardRules)
    (replaces : rule.Replaces) (d : Diagnostic) (line : String) (ctx : PassContext) :
    (∃ contradiction, rule.apply d line ctx = .error contradiction) ∨
      ∃ code new, DiagnosticKind.ofCode code = rule.kind ∧
        StandardEdit { d with code } line.toList new ∧
        rule.apply d line ctx = .ok { actions := [.replace (String.ofList new)] } := by
  obtain ⟨noMarker, noCompanion⟩ := replaces.kind_ne standard
  cases applied : rule.apply d line ctx with
  | error contradiction => exact .inl ⟨contradiction, rfl⟩
  | ok outcome =>
      obtain ⟨code, kind, answer⟩ := exists_standardAnswer standard applied
      cases answer with
      | alreadyPatched _ fixed => cases fixed
      | tolerated companion => exact absurd (kind.symm.trans companion) noCompanion
      | @edited _ new edit => exact .inr ⟨code, new, kind, edit, rfl⟩
      | defined marker => exact absurd (kind.symm.trans marker) noMarker

/-- A rule refuses in the end if whatever it puts for a line is lower in a well-founded order. -/
theorem exhausts_of_descends {α : Type} [Preorder α] [WellFoundedLT α] (rank : String → α)
    (descends : ∀ line ctx, (∃ contradiction, rule.apply d line ctx = .error contradiction) ∨
      ∃ new, rule.apply d line ctx = .ok { actions := [.replace new] } ∧ rank new < rank line)
    (line : String) : rule.Exhausts d contexts line := by
  have refuses (k : Nat) (last : String) (reached : Reapplied rule d contexts line k last) :
      rule.Exhausts d contexts line := by
    induction last using WellFounded.induction (InvImage.wf rank wellFounded_lt) generalizing k with
    | _ last induction =>
        rcases descends last (contexts k) with ⟨contradiction, refused⟩ | ⟨new, applied, lower⟩
        · exact ⟨k, last, contradiction, reached, refused⟩
        · exact induction new lower (k + 1) (reached.again applied List.mem_cons_self)
  exact refuses 0 line .start

theorem exhausts_of_kind_ne (standard : rule ∈ RuleRegistry.standardRules)
    (replaces : rule.Replaces) (noCast : rule.kind ≠ .argumentConversion) (line : String) :
    rule.Exhausts d contexts line := by
  refine exhausts_of_descends (fun line => lineRank line.toList) (fun line ctx => ?_) line
  refine (refused_or_edited standard replaces d line ctx).imp_right ?_
  rintro ⟨code, new, kind, edit, applied⟩
  have unlike : ({ d with code } : Diagnostic).kind ≠ .argumentConversion := by
    rwa [Diagnostic.kind, kind]
  refine ⟨_, applied, ?_⟩
  rw [String.toList_ofList]
  exact edit.lineRank_lt unlike

theorem byteArgument?_of_applied {ctx : PassContext} {outcome : PatchOutcome} {new : String}
    (target : conversionTarget d = "byte") (applied : argumentCast.apply d line ctx = .ok outcome)
    (replaced : .replace new ∈ outcome.actions) :
    LineEdit.byteArgument? line.toList = some new.toList := by
  rw [apply_argumentCast_byte target] at applied
  obtain ⟨text, answer, rfl⟩ := edited_eq_ok applied
  rw [answer, PatchAction.replace.inj (List.mem_singleton.mp replaced), String.toList_ofList]

theorem exhausts_argumentCast_of_ne (noByte : conversionTarget d ≠ "byte") (line : String) :
    argumentCast.Exhausts d contexts line := by
  refine exhausts_of_descends (fun line => LineEdit.sizeRank line.toList) (fun line ctx => ?_) line
  by_cases size : conversionTarget d = "uint"
  · unfold conversionTarget at size
    cases answer : LineEdit.uintArgument? line.toList with
    | none => exact .inl ⟨.noSizeArgument, by simp [argumentCast, edited, size, answer]⟩
    | some new =>
        refine .inr ⟨String.ofList new, by simp [argumentCast, edited, size, answer], ?_⟩
        rw [String.toList_ofList]
        exact LineEdit.sizeRank_lt_of_uintArgument? answer
  · unfold conversionTarget at size noByte
    exact .inl ⟨.unexpectedTarget (conversionTarget d),
      by simp [argumentCast, conversionTarget, size, noByte]⟩

/-- The byte that an argument becomes is followed by the end of the call that the edit looks for. -/
theorem not_exhausts_argumentCast (target : conversionTarget d = "byte")
    (call : contains line.toList LineEdit.callEnd = true) :
    ¬ argumentCast.Exhausts d contexts line := by
  rintro ⟨k, last, contradiction, reached, refused⟩
  have kept : contains last.toList LineEdit.callEnd = true := by
    cases reached with
    | start => exact call
    | again earlier applied replaced =>
        have answer := byteArgument?_of_applied target applied replaced
        have ends : LineEdit.callEnd <:+: " ? (byte)0x1 : (byte)0x0);".toList :=
          ⟨" ? (byte)0x1 : (byte)0x0".toList, [], rfl⟩
        have rewritten := LineEdit.rewrites_of_byteArgument? answer
        exact contains_iff.mpr (ends.trans (rewritten.isInfix Nat.one_pos))
  rw [apply_argumentCast_byte target, LineEdit.byteArgument?, if_pos kept] at refused
  cases refused

theorem argumentCast_mem : argumentCast ∈ RuleRegistry.standardRules := by
  simp [RuleRegistry.standardRules]

theorem eq_argumentCast (standard : rule ∈ RuleRegistry.standardRules)
    (kind : rule.kind = .argumentConversion) : rule = argumentCast := by
  simp only [RuleRegistry.standardRules, List.mem_cons, List.not_mem_nil, or_false] at standard
  rcases standard with rfl | rfl | rfl | rfl | rfl | rfl | rfl | rfl
  · cases kind
  · cases kind
  · cases kind
  · cases kind
  · cases kind
  · cases kind
  · rfl
  · cases kind

/-- Whatever the diagnostic, the contexts and the line, a standard rule that replaces lines refuses
after finitely many applications, unless it makes bytes of the arguments of a call. -/
theorem exhausts_iff (standard : rule ∈ RuleRegistry.standardRules) (replaces : rule.Replaces)
    (d : Diagnostic) (contexts : Nat → PassContext) (line : String) :
    rule.Exhausts d contexts line ↔
      ¬ (rule.kind = .argumentConversion ∧ conversionTarget d = "byte" ∧
        contains line.toList LineEdit.callEnd = true) := by
  constructor
  · rintro exhausts ⟨kind, target, call⟩
    obtain rfl := eq_argumentCast standard kind
    exact not_exhausts_argumentCast target call exhausts
  · intro other
    by_cases kind : rule.kind = .argumentConversion
    · obtain rfl := eq_argumentCast standard kind
      by_cases target : conversionTarget d = "byte"
      · have noCall : ¬ contains line.toList LineEdit.callEnd = true :=
          fun call => other ⟨rfl, target, call⟩
        refine ⟨0, line, .noCallArgument, .start, ?_⟩
        rw [apply_argumentCast_byte target, LineEdit.byteArgument?, if_neg noCall]
        rfl
      · exact exhausts_argumentCast_of_ne target line
    · exact exhausts_of_kind_ne standard replaces kind line

def blockCopy : String :=
  "Unsafe.CopyBlock(to, sizeof(Point), size);"

def sizeExpected : Diagnostic where
  code := "CS1503"
  message := "Argument 3: cannot convert from 'ulong' to 'uint'"

def byteExpected : Diagnostic where
  code := "CS1503"
  message := "Argument 1: cannot convert from 'bool' to 'byte'"

theorem exhausts_iff_blockCopy :
    argumentCast ∈ RuleRegistry.standardRules ∧ argumentCast.Replaces ∧
      argumentCast.Exhausts sizeExpected (fun _ => emptyContext) blockCopy := by
  have replaces : argumentCast.Replaces :=
    ⟨sizeExpected, blockCopy, emptyContext, _, _, rfl, List.mem_cons_self⟩
  have other : conversionTarget sizeExpected ≠ "byte" := by decide
  exact ⟨argumentCast_mem, replaces,
    (exhausts_iff argumentCast_mem replaces _ _ _).mpr fun byte => other byte.2.1⟩

theorem not_forall_exhausts :
    ¬ ∀ rule ∈ RuleRegistry.standardRules, rule.Replaces →
      ∀ d contexts line, rule.Exhausts d contexts line := by
  intro claim
  have replaces : argumentCast.Replaces :=
    ⟨byteExpected, "f(x);", emptyContext, _, _, rfl, List.mem_cons_self⟩
  exact not_exhausts_argumentCast (by decide) (by decide)
    (claim argumentCast argumentCast_mem replaces byteExpected (fun _ => emptyContext) "f(x);")

end BindingRepair.PatchRule
