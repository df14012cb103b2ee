import BindingRepair.Proofs.Patching.Pass

namespace BindingRepair

/-- What was answered about a diagnostic. -/
structure Answer where
  diagnostic : Diagnostic
  outcome : PatchOutcome
  deriving DecidableEq, Repr

namespace Answer

def skips (a : Answer) : Bool :=
  a.outcome.actions.all (·.isSkip)

def patches (code : String) (a : Answer) : Bool :=
  !a.skips && a.diagnostic.code = code

def restarts (a : Answer) : Bool :=
  a.outcome.restart

end Answer

namespace Patching

variable {registry : RuleRegistry} {pass : Nat} {d : Diagnostic} {ctx : PassContext}
  {s after : State} {errors : List Diagnostic} {result : Except Refusal Unit}

/-- What the rules answer about the errors of a pass, in order, up to the first that is refused or
whose answer ends the pass. -/
def answers (registry : RuleRegistry) (pass : Nat) :
    PassContext → List Diagnostic → State → List Answer
  | _, [], _ => []
  | ctx, d :: rest, s =>
    if 0 ≤ d.line ∧ d.line < s.buffer.size then
      let line := (s.buffer.get? d.line).getD ""
      match registry.dispatch d line ctx with
      | .error _ => []
      | .ok outcome =>
        ⟨d, outcome⟩ ::
          if outcome.restart then []
          else answers registry pass (afterOutcome d outcome ctx) rest
            (applyOutcome pass d outcome (noteConsulted registry d line ctx s))
    else []

section

variable {rest : List Diagnostic} {index : Nat} {line : String} {outcome : PatchOutcome}

theorem answers_of_outside (outside : ¬ (0 ≤ d.line ∧ d.line < s.buffer.size)) :
    answers registry pass ctx (d :: rest) s = [] := by
  rw [answers, if_neg outside]

theorem answers_of_present (place : d.line = index)
    (present : s.buffer.lines[index]? = some line) :
    answers registry pass ctx (d :: rest) s =
      match registry.dispatch d line ctx with
      | .error _ => []
      | .ok outcome =>
        ⟨d, outcome⟩ ::
          if outcome.restart then []
          else answers registry pass (afterOutcome d outcome ctx) rest
            (applyOutcome pass d outcome (noteConsulted registry d line ctx s)) := by
  rw [answers, if_pos (SourceBuffer.inside_of_line place present)]
  simp only [SourceBuffer.getD_get? place present]

theorem answers_of_refused (place : d.line = index)
    (present : s.buffer.lines[index]? = some line) {refusal : Refusal}
    (answer : registry.dispatch d line ctx = .error refusal) :
    answers registry pass ctx (d :: rest) s = [] := by
  rw [answers_of_present place present, answer]

theorem answers_of_restarted (place : d.line = index)
    (present : s.buffer.lines[index]? = some line)
    (answer : registry.dispatch d line ctx = .ok outcome) (restarts : outcome.restart = true) :
    answers registry pass ctx (d :: rest) s = [⟨d, outcome⟩] := by
  rw [answers_of_present place present, answer]
  simp only [restarts, if_true]

theorem answers_of_next (place : d.line = index)
    (present : s.buffer.lines[index]? = some line)
    (answer : registry.dispatch d line ctx = .ok outcome) (stays : outcome.restart = false) :
    answers registry pass ctx (d :: rest) s =
      ⟨d, outcome⟩ :: answers registry pass (afterOutcome d outcome ctx) rest
        (applyOutcome pass d outcome (noteConsulted registry d line ctx s)) := by
  rw [answers_of_present place present, answer]
  simp only [stays, Bool.false_eq_true, if_false]

end

theorem Mends.exists_dispatch (mends : Mends registry pass ctx errors s result after) {a : Answer}
    (member : a ∈ answers registry pass ctx errors s) :
    ∃ line seen, registry.dispatch a.diagnostic line seen = .ok a.outcome := by
  induction mends with
  | done => cases member
  | outside outside =>
      rw [answers_of_outside outside] at member
      cases member
  | refused place present answer =>
      rw [answers_of_refused place present answer] at member
      cases member
  | restarted place present answer restarts =>
      rw [answers_of_restarted place present answer restarts] at member
      rw [List.mem_singleton.mp member]
      exact ⟨_, _, answer⟩
  | next place present answer stays later induction =>
      rw [answers_of_next place present answer stays] at member
      rcases List.mem_cons.mp member with rfl | member
      · exact ⟨_, _, answer⟩
      · exact induction member

variable {setup : Setup}

def passAnswers (setup : Setup) (s : State) : List Answer :=
  match setup.compiler.answer s.earlier s.buffer.text with
  | .error _ => []
  | .ok result =>
    answers setup.registry (s.report.passes + 1) (setup.contextOf result) result.errors
      ((s.recompiled setup.compiler).note
        (.passFaulty (s.report.passes + 1) result.errors.length))

/-- All that the rules answer in a run. -/
def runAnswers (setup : Setup) : Nat → State → List Answer
  | 0, _ => []
  | passes + 1, s =>
    passAnswers setup s ++
      match onePass setup s with
      | .again next => runAnswers setup passes next
      | .ended _ _ => []

theorem Mended.answers_eq {result : CompileResult} {outcome : Except Refusal Unit}
    (mended : Mended setup s result outcome after) :
    passAnswers setup s =
      answers setup.registry (s.report.passes + 1) (setup.contextOf result) result.errors
        ((s.recompiled setup.compiler).note
          (.passFaulty (s.report.passes + 1) result.errors.length)) := by
  rw [passAnswers, mended.answer]

theorem exists_dispatch_of_mem_passAnswers {a : Answer} (member : a ∈ passAnswers setup s) :
    ∃ line seen, setup.registry.dispatch a.diagnostic line seen = .ok a.outcome := by
  unfold passAnswers at member
  split at member
  · cases member
  · exact (mends_mendErrors _ _ _ _ _).exists_dispatch member

end Patching

end BindingRepair
