import BindingRepair.Patching
import BindingRepair.Proofs.RuleRegistry
import BindingRepair.Proofs.SourceBuffer

/-!
What a pass does. The errors of a compile are taken one by one, and under the standard rules each of
them leads to one of few changes of the state. What is to hold throughout a pass has to be shown for
these changes only.
-/

namespace BindingRepair

namespace MarkerAttribute

def define (usings : List Declaration) (space : Declaration) (definitions : List (List String))
    (b : SourceBuffer) : SourceBuffer :=
  let missing := missingUsings usings
  let shift : Int :=
    if usingPosition usings ≤ bodyPosition space then missing.length else 0
  let withUsings := if missing = [] then b else b.insert (usingPosition usings) missing
  withUsings.insert (bodyPosition space + shift) (definitionBlock definitions)

theorem unbroken_missingUsings (usings : List Declaration) :
    ∀ line ∈ missingUsings usings, Text.Unbroken line.toList := by
  intro line member
  have required : ∀ line ∈ requiredUsings, Text.Unbroken line.toList := by decide
  exact required line (List.mem_filter.mp member).1

theorem unbroken_definitionBlock {definitions : List (List String)}
    (unbroken : ∀ definition ∈ definitions, ∀ line ∈ definition, Text.Unbroken line.toList) :
    ∀ line ∈ definitionBlock definitions, Text.Unbroken line.toList := by
  intro line member
  obtain ⟨definition, present, member⟩ := List.mem_flatMap.mp member
  rcases List.mem_append.mp member with inside | empty
  · exact unbroken definition present line inside
  · rw [List.mem_singleton.mp empty]
    decide

theorem unbroken_define {b : SourceBuffer} {definitions : List (List String)}
    (unbroken : b.Unbroken)
    (unbrokenDefinitions : ∀ definition ∈ definitions, ∀ line ∈ definition,
      Text.Unbroken line.toList)
    (usings : List Declaration) (space : Declaration) :
    (define usings space definitions b).Unbroken := by
  have withUsings : (if missingUsings usings = [] then b
      else b.insert (usingPosition usings) (missingUsings usings)).Unbroken := by
    split
    · exact unbroken
    · exact unbroken.insert _ (unbroken_missingUsings usings)
  exact withUsings.insert _ (unbroken_definitionBlock unbrokenDefinitions)

section

variable (usings : List Declaration) (space : Declaration) (definitions : List (List String))
  (b : SourceBuffer)

@[simp] theorem trailingNewline_define :
    (define usings space definitions b).trailingNewline = b.trailingNewline := by
  simp only [define]
  split
  · rfl
  · rfl

theorem size_define : (define usings space definitions b).size =
    b.size + (missingUsings usings).length + (definitionBlock definitions).length := by
  simp only [define]
  split
  · next none => simp [none]
  · simp

end

end MarkerAttribute

namespace Patching

variable {registry : RuleRegistry} {pass : Nat} {d : Diagnostic} {ctx : PassContext} {s : State}

/-! What is done with an answer. -/

@[simp] theorem State.buffer_note (e : Event) : (s.note e).buffer = s.buffer := rfl

@[simp] theorem State.trace_note (e : Event) : (s.note e).trace = s.trace ++ [e] := rfl

theorem noteConsulted_of_fixed (fixed : d.line ∈ ctx.fixedLines) (line : String) :
    noteConsulted registry d line ctx s = s := by
  unfold noteConsulted RuleRegistry.route
  by_cases known : d.kind = .unknown
  · simp [known]
  · simp [known, fixed]

theorem noteConsulted_of_unfixed (known : d.kind ≠ .unknown) (unfixed : d.line ∉ ctx.fixedLines)
    (line : String) : noteConsulted registry d line ctx s = s.note (.consulted d line ctx) := by
  simp [noteConsulted, RuleRegistry.route, known, unfixed]

theorem noteConsulted_cases (line : String) :
    noteConsulted registry d line ctx s = s ∨
      d.line ∉ ctx.fixedLines ∧
        noteConsulted registry d line ctx s = s.note (.consulted d line ctx) := by
  by_cases fixed : d.line ∈ ctx.fixedLines
  · exact .inl (noteConsulted_of_fixed fixed line)
  · by_cases known : d.kind = .unknown
    · exact .inl (by simp [noteConsulted, RuleRegistry.route, known])
    · exact .inr ⟨fixed, noteConsulted_of_unfixed known fixed line⟩

@[simp] theorem buffer_noteConsulted (line : String) :
    (noteConsulted registry d line ctx s).buffer = s.buffer := by
  rcases noteConsulted_cases line with same | ⟨_, noted⟩
  · rw [same]
  · rw [noted, State.buffer_note]

def State.skip (s : State) (pass : Nat) (d : Diagnostic) (reason : SkipReason) : State :=
  { s.note (.skipped pass d reason) with
    report := { s.report with skipped := s.report.skipped + 1 } }

def State.edit (s : State) (pass : Nat) (d : Diagnostic) (index : Nat) (line : String) : State :=
  { s with
    buffer := { s.buffer with lines := s.buffer.lines.set index line }
    report := s.report.countPatch d.code
    trace := s.trace ++ [.patched pass d] }

def State.define (s : State) (pass : Nat) (d : Diagnostic) (usings : List Declaration)
    (space : Declaration) (definitions : List (List String)) : State :=
  { s with
    buffer := MarkerAttribute.define usings space definitions s.buffer
    report := s.report.countPatch d.code
    trace := s.trace ++ [.patched pass d] }

section

variable (reason : SkipReason) (index : Nat) (line : String) (usings : List Declaration)
  (space : Declaration) (definitions : List (List String))

@[simp] theorem State.buffer_skip : (s.skip pass d reason).buffer = s.buffer := rfl

@[simp] theorem State.trace_skip :
    (s.skip pass d reason).trace = s.trace ++ [.skipped pass d reason] := rfl

@[simp] theorem State.buffer_edit : (s.edit pass d index line).buffer =
    { s.buffer with lines := s.buffer.lines.set index line } := rfl

@[simp] theorem State.trace_edit :
    (s.edit pass d index line).trace = s.trace ++ [.patched pass d] := rfl

@[simp] theorem State.buffer_define : (s.define pass d usings space definitions).buffer =
    MarkerAttribute.define usings space definitions s.buffer := rfl

@[simp] theorem State.trace_define :
    (s.define pass d usings space definitions).trace = s.trace ++ [.patched pass d] := rfl

end

@[simp] theorem buffer_restart : (restart pass d s).buffer = s.buffer := rfl

@[simp] theorem trace_restart :
    (restart pass d s).trace = s.trace ++ [.restarted pass d] := rfl

theorem applyOutcome_skip (reason : SkipReason) :
    applyOutcome pass d { actions := [.skip reason] } s = s.skip pass d reason := rfl

theorem applyOutcome_replace {index : Nat} (place : d.line = index)
    (inside : index < s.buffer.size) (line : String) :
    applyOutcome pass d { actions := [.replace line] } s = s.edit pass d index line := by
  simp [applyOutcome, State.perform, State.note, PatchAction.isSkip, place, State.edit,
    SourceBuffer.set?_natCast inside]

theorem applyOutcome_insertions (usings : List Declaration) (space : Declaration)
    (definitions : List (List String)) (restarts : Bool) :
    applyOutcome pass d
        { actions := MarkerAttribute.insertions usings space definitions
          restart := restarts } s = s.define pass d usings space definitions := by
  by_cases missing : MarkerAttribute.missingUsings usings = []
  · simp [applyOutcome, MarkerAttribute.insertions, MarkerAttribute.define, missing,
      State.perform, State.note, State.define, PatchAction.isSkip]
  · simp [applyOutcome, MarkerAttribute.insertions, MarkerAttribute.define, missing,
      State.perform, State.note, State.define, PatchAction.isSkip]

theorem afterOutcome_skip (reason : SkipReason) :
    afterOutcome d { actions := [.skip reason] } ctx = ctx := rfl

theorem afterOutcome_replace (line : String) :
    afterOutcome d { actions := [.replace line] } ctx =
      { ctx with fixedLines := d.line :: ctx.fixedLines } := rfl

/-- `Mends registry pass ctx errors s result after` says that taking the errors one by one leads
from the state `s` to the state `after`. -/
inductive Mends (registry : RuleRegistry) (pass : Nat) :
    PassContext → List Diagnostic → State → Except Refusal Unit → State → Prop
  | done {ctx : PassContext} {s : State} : Mends registry pass ctx [] s (.ok ()) s
  | outside {ctx : PassContext} {d : Diagnostic} {rest : List Diagnostic} {s : State}
      (outside : ¬ (0 ≤ d.line ∧ d.line < s.buffer.size)) :
      Mends registry pass ctx (d :: rest) s
        (.error (RuleRegistry.contradicted ctx.file d .outsideSource)) s
  | refused {ctx : PassContext} {d : Diagnostic} {rest : List Diagnostic} {s : State}
      {index : Nat} {line : String} {refusal : Refusal} (place : d.line = index)
      (present : s.buffer.lines[index]? = some line)
      (answer : registry.dispatch d line ctx = .error refusal) :
      Mends registry pass ctx (d :: rest) s (.error refusal)
        (noteConsulted registry d line ctx s)
  | restarted {ctx : PassContext} {d : Diagnostic} {rest : List Diagnostic} {s : State}
      {index : Nat} {line : String} {outcome : PatchOutcome} (place : d.line = index)
      (present : s.buffer.lines[index]? = some line)
      (answer : registry.dispatch d line ctx = .ok outcome) (restarts : outcome.restart = true) :
      Mends registry pass ctx (d :: rest) s (.ok ())
        (restart pass d (applyOutcome pass d outcome (noteConsulted registry d line ctx s)))
  | next {ctx : PassContext} {d : Diagnostic} {rest : List Diagnostic} {s after : State}
      {index : Nat} {line : String} {outcome : PatchOutcome} {result : Except Refusal Unit}
      (place : d.line = index) (present : s.buffer.lines[index]? = some line)
      (answer : registry.dispatch d line ctx = .ok outcome) (stays : outcome.restart = false)
      (later : Mends registry pass (afterOutcome d outcome ctx) rest
        (applyOutcome pass d outcome (noteConsulted registry d line ctx s)) result after) :
      Mends registry pass ctx (d :: rest) s result after

theorem mendErrors_of_present {rest : List Diagnostic} {index : Nat} {line : String}
    (place : d.line = index) (present : s.buffer.lines[index]? = some line) :
    mendErrors registry pass ctx (d :: rest) s =
      match registry.dispatch d line ctx with
      | .error refusal => (.error refusal, noteConsulted registry d line ctx s)
      | .ok outcome =>
        if outcome.restart then
          (.ok (), restart pass d
            (applyOutcome pass d outcome (noteConsulted registry d line ctx s)))
        else
          mendErrors registry pass (afterOutcome d outcome ctx) rest
            (applyOutcome pass d outcome (noteConsulted registry d line ctx s)) := by
  rw [mendErrors, if_pos (SourceBuffer.inside_of_line place present)]
  cases answer : registry.dispatch d line ctx with
  | error refusal => simp only [SourceBuffer.getD_get? place present, answer]
  | ok outcome => simp only [SourceBuffer.getD_get? place present, answer]

theorem mends_mendErrors (registry : RuleRegistry) (pass : Nat) (ctx : PassContext)
    (errors : List Diagnostic) (s : State) :
    Mends registry pass ctx errors s (mendErrors registry pass ctx errors s).1
      (mendErrors registry pass ctx errors s).2 := by
  induction errors generalizing ctx s with
  | nil => exact .done
  | cons d rest induction =>
      by_cases inside : 0 ≤ d.line ∧ d.line < s.buffer.size
      · obtain ⟨index, line, place, present⟩ := SourceBuffer.exists_line inside
        rw [mendErrors_of_present place present]
        cases answer : registry.dispatch d line ctx with
        | error refusal => exact .refused place present answer
        | ok outcome =>
            cases restarts : outcome.restart with
            | true =>
                simp only [restarts, if_true]
                exact .restarted place present answer restarts
            | false =>
                simp only [restarts, Bool.false_eq_true, if_false]
                exact .next place present answer restarts (induction _ _)
      · rw [mendErrors, if_neg inside]
        exact .outside inside

theorem Mends.mendErrors_eq {errors : List Diagnostic} {result : Except Refusal Unit}
    {after : State} (mends : Mends registry pass ctx errors s result after) :
    mendErrors registry pass ctx errors s = (result, after) := by
  induction mends with
  | done => rfl
  | outside outside => rw [mendErrors, if_neg outside]
  | refused place present answer => rw [mendErrors_of_present place present, answer]
  | restarted place present answer restarts =>
      rw [mendErrors_of_present place present, answer]
      simp only [restarts, if_true]
  | next place present answer stays later induction =>
      rw [mendErrors_of_present place present, answer]
      simp only [stays, Bool.false_eq_true, if_false]
      exact induction

/-! The errors of a pass under the standard rules. -/

/-- What `Mends` comes to under the standard rules: every way in which they can deal with a
diagnostic, when they do so, and the state that this leads to. -/
inductive StandardMends (pass : Nat) :
    PassContext → List Diagnostic → State → Except Refusal Unit → State → Prop
  | done {ctx : PassContext} {s : State} : StandardMends pass ctx [] s (.ok ()) s
  | outside {ctx : PassContext} {d : Diagnostic} {rest : List Diagnostic} {s : State}
      (outside : ¬ (0 ≤ d.line ∧ d.line < s.buffer.size)) :
      StandardMends pass ctx (d :: rest) s
        (.error (RuleRegistry.contradicted ctx.file d .outsideSource)) s
  | refused {ctx : PassContext} {d : Diagnostic} {rest : List Diagnostic} {s : State}
      {index : Nat} {line : String} {refusal : Refusal} (place : d.line = index)
      (present : s.buffer.lines[index]? = some line)
      (answer : RuleRegistry.standard.dispatch d line ctx = .error refusal) :
      StandardMends pass ctx (d :: rest) s (.error refusal)
        (noteConsulted .standard d line ctx s)
  | alreadyPatched {ctx : PassContext} {d : Diagnostic} {rest : List Diagnostic}
      {s after : State} {index : Nat} {line : String} {result : Except Refusal Unit}
      (place : d.line = index) (present : s.buffer.lines[index]? = some line)
      (known : d.kind ≠ .unknown) (fixed : d.line ∈ ctx.fixedLines)
      (later : StandardMends pass ctx rest (s.skip pass d .alreadyPatched) result after) :
      StandardMends pass ctx (d :: rest) s result after
  | tolerated {ctx : PassContext} {d term : Diagnostic} {rest others : List Diagnostic}
      {s after : State} {index : Nat} {line : String} {result : Except Refusal Unit}
      (place : d.line = index) (present : s.buffer.lines[index]? = some line)
      (kind : d.kind = .unexpectedToken) (unfixed : d.line ∉ ctx.fixedLines)
      (related : PatchRule.relatedTerms d ctx.errors = term :: others)
      (later : StandardMends pass ctx rest
        ((s.note (.consulted d line ctx)).skip pass d (.followsFrom term.code term.line))
        result after) :
      StandardMends pass ctx (d :: rest) s result after
  | edited {ctx : PassContext} {d : Diagnostic} {rest : List Diagnostic} {s after : State}
      {index : Nat} {line : String} {new : List Char} {result : Except Refusal Unit}
      (place : d.line = index) (present : s.buffer.lines[index]? = some line)
      (unfixed : d.line ∉ ctx.fixedLines) (edit : StandardEdit d line.toList new)
      (later : StandardMends pass { ctx with fixedLines := d.line :: ctx.fixedLines } rest
        ((s.note (.consulted d line ctx)).edit pass d index (String.ofList new)) result after) :
      StandardMends pass ctx (d :: rest) s result after
  | defined {ctx : PassContext} {d : Diagnostic} {rest : List Diagnostic} {s : State}
      {index : Nat} {line : String} {space : Declaration} {others : List Declaration}
      (place : d.line = index) (present : s.buffer.lines[index]? = some line)
      (kind : d.kind = .missingType) (unfixed : d.line ∉ ctx.fixedLines)
      (missing : MarkerAttribute.isMissing d.message = true)
      (undefined : ctx.tree.find? .classType MarkerAttribute.className = none)
      (spaces : ctx.tree.ofKind .namespaceBlock = space :: others) :
      StandardMends pass ctx (d :: rest) s (.ok ())
        (restart pass d ((s.note (.consulted d line ctx)).define pass d
          (ctx.tree.ofKind .usingDirective) space ctx.attributeDefinitions))

theorem Mends.standard {errors : List Diagnostic} {result : Except Refusal Unit} {after : State}
    (mends : Mends .standard pass ctx errors s result after) :
    StandardMends pass ctx errors s result after := by
  induction mends with
  | done => exact .done
  | outside outside => exact .outside outside
  | refused place present answer => exact .refused place present answer
  | restarted place present answer restarts =>
      have known := (RuleRegistry.dispatch_eq_ok answer).1
      cases RuleRegistry.standardAnswer_of_dispatch answer with
      | alreadyPatched => cases restarts
      | tolerated => cases restarts
      | edited => cases restarts
      | defined kind unfixed missing undefined spaces =>
          rw [applyOutcome_insertions, noteConsulted_of_unfixed known unfixed]
          exact .defined place present kind unfixed missing undefined spaces
  | next place present answer stays later induction =>
      have known := (RuleRegistry.dispatch_eq_ok answer).1
      cases RuleRegistry.standardAnswer_of_dispatch answer with
      | alreadyPatched _ fixed =>
          rw [applyOutcome_skip, afterOutcome_skip, noteConsulted_of_fixed fixed] at induction
          exact .alreadyPatched place present known fixed induction
      | tolerated kind unfixed related =>
          rw [applyOutcome_skip, afterOutcome_skip,
            noteConsulted_of_unfixed known unfixed] at induction
          exact .tolerated place present kind unfixed related induction
      | edited unfixed edit =>
          have inside := (List.getElem?_eq_some_iff.mp present).1
          rw [noteConsulted_of_unfixed known unfixed, afterOutcome_replace,
            applyOutcome_replace place (by simpa [SourceBuffer.size] using inside)] at induction
          exact .edited place present unfixed edit induction
      | defined => cases stays

theorem StandardMends.unbroken {errors : List Diagnostic} {result : Except Refusal Unit}
    {after : State} (mends : StandardMends pass ctx errors s result after)
    (unbroken : s.buffer.Unbroken)
    (definitions : ∀ definition ∈ ctx.attributeDefinitions, ∀ line ∈ definition,
      Text.Unbroken line.toList) : after.buffer.Unbroken := by
  induction mends with
  | done => exact unbroken
  | outside => exact unbroken
  | refused => simpa using unbroken
  | alreadyPatched _ _ _ _ _ induction => exact induction unbroken definitions
  | tolerated _ _ _ _ _ _ induction => exact induction unbroken definitions
  | edited place present unfixed edit later induction =>
      refine induction (unbroken.set _ ?_) definitions
      rw [String.toList_ofList]
      exact edit.unbroken (unbroken _ (List.mem_of_getElem? present))
  | defined => exact MarkerAttribute.unbroken_define unbroken definitions _ _

theorem StandardMends.keeps {errors : List Diagnostic} {result : Except Refusal Unit}
    {after : State} (mends : StandardMends pass ctx errors s result after) :
    after.buffer.trailingNewline = s.buffer.trailingNewline ∧
      s.buffer.size ≤ after.buffer.size := by
  induction mends with
  | done => exact ⟨rfl, Nat.le_refl _⟩
  | outside => exact ⟨rfl, Nat.le_refl _⟩
  | refused => simp
  | alreadyPatched _ _ _ _ _ induction => exact induction
  | tolerated _ _ _ _ _ _ induction => exact induction
  | edited _ _ _ _ _ induction => simpa [SourceBuffer.size] using induction
  | defined =>
      refine ⟨by simp, ?_⟩
      simp only [buffer_restart, State.buffer_define, State.buffer_note]
      rw [MarkerAttribute.size_define]
      omega

end Patching

end BindingRepair
