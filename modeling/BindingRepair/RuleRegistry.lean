import BindingRepair.MarkerAttribute
import BindingRepair.Text.Quoted

/-!
Registries of rules. A registry has a rule for every kind of diagnostic but the unknown one, so that
a diagnostic with a known code always finds its rule.
-/

namespace BindingRepair

inductive RegistryError
  | noSuchKind (label : String)
  | duplicate (kind : DiagnosticKind)
  | ruleForUnknown
  | uncovered (kinds : List DiagnosticKind)
  deriving DecidableEq, Repr

def RegistryError.message : RegistryError → String
  | noSuchKind label => Text.quoted label ++ " is not a valid DiagnosticKind"
  | duplicate kind => "Duplicate rule for " ++ kind.label
  | ruleForUnknown => "Unknown diagnostics cannot have a rule"
  | uncovered kinds => "No rule for: " ++ ", ".intercalate (kinds.map (·.label))

structure RuleRegistry where
  rules : List PatchRule
  covers : ∀ kind, kind ≠ .unknown → (rules.find? (·.kind = kind)).isSome

namespace RuleRegistry

def register (rules : List PatchRule) (rule : PatchRule) : Except RegistryError (List PatchRule) :=
  if rules.any (·.kind = rule.kind) then .error (.duplicate rule.kind) else .ok (rules ++ [rule])

def close (rules : List PatchRule) : Except RegistryError RuleRegistry :=
  if rules.any (·.kind = .unknown) then .error .ruleForUnknown
  else
    let uncovered := DiagnosticKind.known.filter fun kind => (rules.find? (·.kind = kind)).isNone
    if h : uncovered = [] then
      .ok {
        rules
        covers := fun kind hkind => by
          have hall := List.filter_eq_nil_iff.mp h kind ((DiagnosticKind.mem_known kind).mpr hkind)
          simpa using hall }
    else .error (.uncovered uncovered)

def ofRules (rules : List PatchRule) : Except RegistryError RuleRegistry :=
  rules.foldlM register [] >>= close

/-- The registry with one rule for each of some labels, which are read as they come. -/
def ofLabels (rule : DiagnosticKind → PatchRule) (labels : List String) :
    Except RegistryError RuleRegistry :=
  labels.foldlM (fun rules label =>
    match DiagnosticKind.ofLabel? label with
    | some kind => register rules (rule kind)
    | none => .error (.noSuchKind label)) [] >>= close

def rule? (registry : RuleRegistry) (kind : DiagnosticKind) : Option PatchRule :=
  registry.rules.find? (·.kind = kind)

def rule (registry : RuleRegistry) (kind : DiagnosticKind) (h : kind ≠ .unknown) : PatchRule :=
  (registry.rule? kind).get (registry.covers kind h)

def labels (registry : RuleRegistry) : List String :=
  (DiagnosticKind.known.filter fun kind => (registry.rule? kind).isSome).map (·.label)

/-- What happens to a diagnostic: it is refused, passed over, or put before a rule. -/
inductive Route
  | refuse
  | pass
  | consult (rule : PatchRule)

def route (registry : RuleRegistry) (d : Diagnostic) (ctx : PassContext) : Route :=
  if h : d.kind = .unknown then .refuse
  else if ctx.fixedLines.contains d.line then .pass
  else .consult (registry.rule d.kind h)

def contradicted (file : String) (d : Diagnostic) (c : Contradiction) : Refusal where
  file
  diagnostic := d
  reason := .signatureMissing
  detail := some c.detail

def dispatch (registry : RuleRegistry) (d : Diagnostic) (line : String) (ctx : PassContext) :
    Except Refusal PatchOutcome :=
  match registry.route d ctx with
  | .refuse => .error { file := ctx.file, diagnostic := d, reason := .unknownCode }
  | .pass => .ok { actions := [.skip .alreadyPatched] }
  | .consult rule =>
    match rule.apply d line ctx with
    | .ok outcome => .ok outcome
    | .error c => .error (contradicted ctx.file d c)

/-- The rule for each kind that is known. The unknown kind has none of its own. -/
def standardRules : List PatchRule :=
  [.markerAttribute, .nativeInteger, .operatorCall, .operatorCompanion, .vtableCast, .boolReturn,
    .argumentCast, .realloc]

def standard : RuleRegistry where
  rules := standardRules
  covers := fun kind hkind => by
    cases kind with
    | unknown => exact absurd rfl hkind
    | _ => rfl

end RuleRegistry

end BindingRepair
