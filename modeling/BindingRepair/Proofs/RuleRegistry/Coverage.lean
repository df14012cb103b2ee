import Mathlib.Data.List.Nodup
import Mathlib.Data.List.Perm.Basic
import BindingRepair.Proofs.RuleRegistry

namespace BindingRepair

namespace DiagnosticKind

theorem ofCode_ne_unknown_iff {code : String} :
    ofCode code ≠ .unknown ↔ code ∈ codes.map (·.1) := by
  constructor
  · intro known
    exact List.mem_map_of_mem (mem_codes_of_ofCode known rfl)
  · intro coded
    obtain ⟨entry, listed, rfl⟩ := List.mem_map.mp coded
    have known : ∀ entry ∈ codes, ofCode entry.1 ≠ .unknown := by decide
    exact known entry listed

theorem perm_known_iff {kinds : List DiagnosticKind} :
    kinds.Perm known ↔
      kinds.Nodup ∧ .unknown ∉ kinds ∧ ∀ kind, kind ≠ .unknown → kind ∈ kinds := by
  have distinctKnown : known.Nodup := by decide
  constructor
  · intro same
    refine ⟨same.nodup_iff.mpr distinctKnown, ?_, fun kind other => ?_⟩
    · rw [same.mem_iff, mem_known]
      exact fun other => other rfl
    · rwa [same.mem_iff, mem_known]
  · rintro ⟨distinct, absent, covered⟩
    refine (List.perm_ext_iff_of_nodup distinct distinctKnown).mpr fun kind => ?_
    rw [mem_known]
    refine ⟨fun member => ?_, covered kind⟩
    rintro rfl
    exact absent member

end DiagnosticKind

namespace RuleRegistry

variable {registry : RuleRegistry} {rules before : List PatchRule}

theorem register_eq_ok_iff {rule : PatchRule} {more : List PatchRule} :
    register rules rule = .ok more ↔
      rule.kind ∉ rules.map (·.kind) ∧ more = rules ++ [rule] := by
  have taken : rules.any (·.kind = rule.kind) = true ↔ rule.kind ∈ rules.map (·.kind) := by
    simp
  unfold register
  split
  · next present => simp [taken.mp present]
  · next absent => simp [mt taken.mpr absent, eq_comm]

theorem foldlM_register_eq_ok_iff (distinct : (before.map (·.kind)).Nodup)
    {all : List PatchRule} :
    rules.foldlM register before = .ok all ↔
      ((before ++ rules).map (·.kind)).Nodup ∧ all = before ++ rules := by
  induction rules generalizing before with
  | nil =>
      rw [List.append_nil]
      constructor
      · intro registered
        exact ⟨distinct, (Except.ok.inj registered).symm⟩
      · rintro ⟨_, rfl⟩
        rfl
  | cons rule rest induction =>
      rw [List.foldlM_cons]
      cases registered : register before rule with
      | error refused =>
          -- A rule is refused only if its kind came before, and then not all kinds are distinct.
          refine ⟨nofun, ?_⟩
          rintro ⟨distinctAll, _⟩
          have accepted : register before rule = .ok (before ++ [rule]) := by
            refine register_eq_ok_iff.mpr ⟨fun present => ?_, rfl⟩
            rw [List.map_append, List.map_cons] at distinctAll
            exact List.disjoint_of_nodup_append distinctAll present List.mem_cons_self
          rw [registered] at accepted
          cases accepted
      | ok more =>
          obtain ⟨absent, rfl⟩ := register_eq_ok_iff.mp registered
          have distinctMore : ((before ++ [rule]).map (·.kind)).Nodup := by
            rw [List.map_append, List.map_singleton]
            exact List.nodup_append.mpr ⟨distinct, List.nodup_singleton _, by
              rintro kind present other here rfl
              exact absent (List.mem_singleton.mp here ▸ present)⟩
          have later := induction distinctMore
          rw [List.append_assoc, List.singleton_append] at later
          exact later

theorem close_eq_ok_iff :
    close rules = .ok registry ↔
      (.unknown ∉ rules.map (·.kind) ∧ ∀ kind, kind ≠ .unknown → kind ∈ rules.map (·.kind)) ∧
        registry.rules = rules := by
  have mapped (kind : DiagnosticKind) :
      rules.any (·.kind = kind) = true ↔ kind ∈ rules.map (·.kind) := by
    simp
  have found (kind : DiagnosticKind) :
      (rules.find? (·.kind = kind)).isSome = true ↔ kind ∈ rules.map (·.kind) := by
    simp
  unfold close
  split
  · next present =>
      refine ⟨nofun, ?_⟩
      rintro ⟨⟨absent, _⟩, _⟩
      exact absurd ((mapped .unknown).mp present) absent
  · next absent =>
      dsimp only
      split
      · next covered =>
          constructor
          · intro closed
            obtain rfl := Except.ok.inj closed
            refine ⟨⟨mt (mapped .unknown).mpr absent, fun kind other => ?_⟩, rfl⟩
            have kept := List.filter_eq_nil_iff.mp covered kind
              ((DiagnosticKind.mem_known kind).mpr other)
            exact (found kind).mp (by simpa using kept)
          · rintro ⟨_, rfl⟩
            rfl
      · next uncovered =>
          refine ⟨nofun, ?_⟩
          rintro ⟨⟨_, covered⟩, _⟩
          refine absurd (List.filter_eq_nil_iff.mpr fun kind member => ?_) uncovered
          have other : kind ≠ .unknown := (DiagnosticKind.mem_known kind).mp member
          simpa using (found kind).mpr (covered kind other)

theorem ofRules_eq_ok_iff :
    ofRules rules = .ok registry ↔
      (rules.map (·.kind)).Perm DiagnosticKind.known ∧ registry.rules = rules := by
  have folded {all : List PatchRule} :
      rules.foldlM register [] = .ok all ↔ (rules.map (·.kind)).Nodup ∧ all = rules :=
    foldlM_register_eq_ok_iff (by simp)
  rw [DiagnosticKind.perm_known_iff, ofRules]
  cases registered : rules.foldlM register [] with
  | error refused =>
      refine ⟨nofun, ?_⟩
      rintro ⟨⟨distinct, _⟩, _⟩
      rw [folded.mpr ⟨distinct, rfl⟩] at registered
      cases registered
  | ok all =>
      obtain ⟨distinct, rfl⟩ := folded.mp registered
      exact close_eq_ok_iff.trans
        ⟨fun ⟨covered, same⟩ => ⟨⟨distinct, covered⟩, same⟩,
          fun ⟨⟨_, covered⟩, same⟩ => ⟨covered, same⟩⟩

theorem rule_unique (made : ofRules rules = .ok registry) (kind : DiagnosticKind)
    (known : kind ≠ .unknown) :
    registry.rule kind known ∈ rules ∧
      ∀ other ∈ rules, other.kind = kind → other = registry.rule kind known := by
  obtain ⟨covers, rfl⟩ := ofRules_eq_ok_iff.mp made
  have distinct : (registry.rules.map (·.kind)).Nodup :=
    (DiagnosticKind.perm_known_iff.mp covers).1
  refine ⟨rule_mem kind known, fun other member same => ?_⟩
  exact List.inj_on_of_nodup_map distinct member (rule_mem kind known)
    (same.trans (kind_rule kind known).symm)

theorem dispatch_eq_mapError {d : Diagnostic} {line : String} {ctx : PassContext}
    (known : d.kind ≠ .unknown) (unfixed : d.line ∉ ctx.fixedLines) :
    registry.dispatch d line ctx =
      ((registry.rule d.kind known).apply d line ctx).mapError (contradicted ctx.file d) := by
  rw [dispatch_of_unfixed known unfixed]
  cases (registry.rule d.kind known).apply d line ctx with
  | ok outcome => rfl
  | error contradiction => rfl

theorem refused_as_unknown_iff {d : Diagnostic} {line : String} {ctx : PassContext} :
    (∃ refusal, registry.dispatch d line ctx = .error refusal ∧ refusal.reason = .unknownCode) ↔
      d.kind = .unknown := by
  constructor
  · rintro ⟨refusal, refused, reason⟩
    by_contra known
    by_cases fixed : d.line ∈ ctx.fixedLines
    · rw [dispatch_of_fixed known fixed] at refused
      cases refused
    · rw [dispatch_of_unfixed known fixed] at refused
      split at refused
      · cases refused
      · cases refused
        cases reason
  · intro unknown
    exact ⟨_, dispatch_of_unknown unknown, rfl⟩

/-- Rules make a registry exactly if they are one for each kind that is known. A diagnostic is then
refused as unknown exactly if its code belongs to no kind, whatever its line. Any other is passed
over on a line that was fixed, and else it is put before the one rule for its kind, which there
is. -/
theorem dispatch_closed (rules : List PatchRule) :
    ((∃ registry, ofRules rules = .ok registry) ↔
      (rules.map (·.kind)).Perm DiagnosticKind.known) ∧
    ∀ registry, ofRules rules = .ok registry →
      ∀ (d : Diagnostic) (line : String) (ctx : PassContext),
        ((∃ refusal, registry.dispatch d line ctx = .error refusal ∧
            refusal.reason = .unknownCode) ↔
          d.code ∉ DiagnosticKind.codes.map (·.1)) ∧
        (d.code ∈ DiagnosticKind.codes.map (·.1) → d.line ∈ ctx.fixedLines →
          registry.route d ctx = .pass ∧
          registry.dispatch d line ctx = .ok { actions := [.skip .alreadyPatched] }) ∧
        (d.code ∈ DiagnosticKind.codes.map (·.1) → d.line ∉ ctx.fixedLines →
          ∃ rule, registry.rule? d.kind = some rule ∧
            rule ∈ rules ∧ rule.kind = d.kind ∧
            (∀ other ∈ rules, other.kind = d.kind → other = rule) ∧
            registry.route d ctx = .consult rule ∧
            registry.dispatch d line ctx =
              (rule.apply d line ctx).mapError (contradicted ctx.file d)) := by
  refine ⟨⟨fun ⟨registry, made⟩ => (ofRules_eq_ok_iff.mp made).1, fun covers => ?_⟩, ?_⟩
  · have covered := (DiagnosticKind.perm_known_iff.mp covers).2.2
    let registry : RuleRegistry := {
      rules
      covers := fun kind known => by
        simpa using covered kind known }
    exact ⟨registry, ofRules_eq_ok_iff.mpr ⟨covers, rfl⟩⟩
  · intro registry made d line ctx
    have coded : d.code ∈ DiagnosticKind.codes.map (·.1) ↔ d.kind ≠ .unknown :=
      DiagnosticKind.ofCode_ne_unknown_iff.symm
    refine ⟨?_, fun present fixed => ?_, fun present unfixed => ?_⟩
    · rw [refused_as_unknown_iff, coded, not_not]
    · have known := coded.mp present
      exact ⟨route_of_fixed known fixed, dispatch_of_fixed known fixed⟩
    · have known := coded.mp present
      obtain ⟨member, unique⟩ := rule_unique made d.kind known
      exact ⟨registry.rule d.kind known, rule?_eq_some d.kind known, member,
        kind_rule d.kind known, unique, route_of_unfixed known unfixed,
        dispatch_eq_mapError known unfixed⟩

def bareRealloc : Diagnostic where
  code := "CS0103"
  message := "The name 'realloc' does not exist"

theorem dispatch_closed_reversed :
    ∃ registry, ofRules standardRules.reverse = .ok registry ∧
      (∃ refusal,
        registry.dispatch { bareRealloc with code := "CS9999" } "p = realloc(p);"
          { PatchRule.emptyContext with fixedLines := [0] } = .error refusal ∧
        refusal.reason = .unknownCode) ∧
      registry.dispatch bareRealloc "p = realloc(p);"
        { PatchRule.emptyContext with fixedLines := [0] } =
          .ok { actions := [.skip .alreadyPatched] } ∧
      registry.dispatch bareRealloc "p = realloc(p);" PatchRule.emptyContext =
        .ok { actions := [.replace "p = NativeMemory.Realloc(p);"] } := by
  obtain ⟨registry, made⟩ := (dispatch_closed standardRules.reverse).1.mpr (by decide)
  have served := (dispatch_closed standardRules.reverse).2 registry made
  refine ⟨registry, made, (served _ _ _).1.mpr (by decide),
    ((served _ _ _).2.1 (by decide) (by decide)).2, ?_⟩
  obtain ⟨rule, _, _, _, unique, _, answer⟩ :=
    (served bareRealloc "p = realloc(p);" PatchRule.emptyContext).2.2 (by decide) (by decide)
  have asked : PatchRule.realloc.apply bareRealloc "p = realloc(p);" PatchRule.emptyContext =
      .ok { actions := [.replace "p = NativeMemory.Realloc(p);"] } := by decide +kernel
  rw [answer, ← unique PatchRule.realloc (by simp [standardRules]) (by decide), asked]
  rfl

end RuleRegistry

end BindingRepair
