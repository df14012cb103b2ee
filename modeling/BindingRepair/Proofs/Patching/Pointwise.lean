import BindingRepair.Proofs.Patching.Account

/-!
A pass as a map over the compiled lines. Where no marker is missing, a pass moves no line, and what
the rules answer about a diagnostic hangs on the line as it was compiled, on whether another one was
fixed on it before, and on nothing else that the pass has done. So each line is rewritten for the
first diagnostic on it that has a rewriting, and the others are passed over.
-/

namespace BindingRepair

/-! Rules do not look at the lines that were fixed. -/

namespace RuleRegistry

variable {d : Diagnostic} {line : String} {ctx : PassContext}

theorem apply_fixedLines {rule : PatchRule} (member : rule ∈ standardRules)
    (d : Diagnostic) (line : String) (ctx : PassContext) (fixed : List Int) :
    rule.apply d line { ctx with fixedLines := fixed } = rule.apply d line ctx := by
  simp only [standardRules, List.mem_cons, List.not_mem_nil, or_false] at member
  rcases member with rfl | rfl | rfl | rfl | rfl | rfl | rfl | rfl
  all_goals rfl

theorem dispatch_fixedLines {fixed : List Int} (same : d.line ∈ fixed ↔ d.line ∈ ctx.fixedLines) :
    standard.dispatch d line { ctx with fixedLines := fixed } = standard.dispatch d line ctx := by
  by_cases known : d.kind = .unknown
  · rw [dispatch_of_unknown known, dispatch_of_unknown known]
  · by_cases fixedBefore : d.line ∈ ctx.fixedLines
    · rw [dispatch_of_fixed known fixedBefore, dispatch_of_fixed known (same.mpr fixedBefore)]
    · rw [dispatch_of_unfixed known fixedBefore,
        dispatch_of_unfixed known fun member => fixedBefore (same.mp member),
        apply_fixedLines (rule_mem d.kind known)]

end RuleRegistry

/-! The turns of a pass. -/

/-- A diagnostic when its turn comes in a pass, and whether its line is fixed by then. -/
structure Turn where
  diagnostic : Diagnostic
  fixed : Bool
  deriving DecidableEq, Repr

namespace Turn

/-- The lines that are fixed after the turn of a diagnostic: a token that follows from another error
fixes none. -/
def fix (fixed : List Int) (d : Diagnostic) : List Int :=
  if d.kind = .unexpectedToken || fixed.contains d.line then fixed else d.line :: fixed

def all (fixed : List Int) : List Diagnostic → List Turn
  | [] => []
  | d :: rest => ⟨d, fixed.contains d.line⟩ :: all (fix fixed d) rest

theorem mem_fix {fixed : List Int} {d : Diagnostic} {line : Int} :
    line ∈ fix fixed d ↔ line ∈ fixed ∨ d.line = line ∧ d.kind ≠ .unexpectedToken := by
  by_cases token : d.kind = .unexpectedToken
  · simp [fix, token]
  · by_cases member : d.line ∈ fixed
    · simp only [fix, token, member, List.contains_iff_mem, decide_false, Bool.false_or, if_true]
      refine ⟨.inl, fun either => ?_⟩
      rcases either with before | ⟨rfl, _⟩
      · exact before
      · exact member
    · simp [fix, token, member, or_comm, eq_comm]

theorem mem_foldl_fix {fixed : List Int} {ds : List Diagnostic} {line : Int} :
    line ∈ ds.foldl fix fixed ↔
      line ∈ fixed ∨ ∃ d ∈ ds, d.line = line ∧ d.kind ≠ .unexpectedToken := by
  induction ds generalizing fixed with
  | nil => simp
  | cons d rest induction => simp [induction, mem_fix, or_assoc]

theorem all_append (fixed : List Int) (ds others : List Diagnostic) :
    all fixed (ds ++ others) = all fixed ds ++ all (ds.foldl fix fixed) others := by
  induction ds generalizing fixed with
  | nil => rfl
  | cons d rest induction => simp [all, induction]

@[simp] theorem length_all (fixed : List Int) (ds : List Diagnostic) :
    (all fixed ds).length = ds.length := by
  induction ds generalizing fixed with
  | nil => rfl
  | cons d rest induction => simp [all, induction]

theorem getElem?_all (fixed : List Int) (before rest : List Diagnostic) (d : Diagnostic) :
    (all fixed (before ++ d :: rest))[before.length]? =
      some ⟨d, (before.foldl fix fixed).contains d.line⟩ := by
  rw [all_append, List.getElem?_append_right (by simp)]
  simp [all]

/-- What the standard rules answer at a turn in a pass over the buffer `b`. -/
def verdict (ctx : PassContext) (b : SourceBuffer) (t : Turn) : Except Refusal PatchOutcome :=
  if 0 ≤ t.diagnostic.line ∧ t.diagnostic.line < b.size then
    RuleRegistry.standard.dispatch t.diagnostic ((b.get? t.diagnostic.line).getD "")
      { ctx with fixedLines := if t.fixed then [t.diagnostic.line] else [] }
  else .error (RuleRegistry.contradicted ctx.file t.diagnostic .outsideSource)

theorem verdict_of_outside {ctx : PassContext} {b : SourceBuffer} {t : Turn}
    (outside : ¬ (0 ≤ t.diagnostic.line ∧ t.diagnostic.line < b.size)) :
    verdict ctx b t =
      .error (RuleRegistry.contradicted ctx.file t.diagnostic .outsideSource) := by
  rw [verdict, if_neg outside]

theorem dispatch_of_verdict {ctx : PassContext} {b : SourceBuffer} {t : Turn}
    {outcome : PatchOutcome} (answer : verdict ctx b t = .ok outcome) :
    ∃ (index : Nat) (line : String), t.diagnostic.line = index ∧ b.lines[index]? = some line ∧
      RuleRegistry.standard.dispatch t.diagnostic line
        { ctx with fixedLines := if t.fixed then [t.diagnostic.line] else [] } = .ok outcome := by
  unfold verdict at answer
  split at answer
  · next inside =>
      obtain ⟨index, line, place, present⟩ := SourceBuffer.exists_line inside
      rw [SourceBuffer.getD_get? place present] at answer
      exact ⟨index, line, place, present, answer⟩
  · cases answer

theorem diagnostic_mem_of_mem_all {fixed : List Int} {ds : List Diagnostic} {t : Turn}
    (member : t ∈ all fixed ds) : t.diagnostic ∈ ds := by
  induction ds generalizing fixed with
  | nil => cases member
  | cons d rest induction =>
      rcases List.mem_cons.mp member with rfl | later
      · exact List.mem_cons_self
      · exact List.mem_cons_of_mem _ (induction later)

end Turn

namespace Patching

variable {pass : Nat} {d : Diagnostic} {ctx : PassContext} {s after : State} {b : SourceBuffer}
  {errors : List Diagnostic} {result : Except Refusal Unit} {index : Nat} {line : String}
  {outcome : PatchOutcome}

/-- In a pass over the buffer `b` the lines that are not fixed stand as they did in `b`. -/
structure Agrees (b : SourceBuffer) (ctx : PassContext) (s : State) : Prop where
  size : s.buffer.size = b.size
  unfixed : ∀ index : Nat, (index : Int) ∉ ctx.fixedLines →
    s.buffer.lines[index]? = b.lines[index]?

/-- Whether an answer leaves the lines where they are. -/
inductive Steady (d : Diagnostic) (line : String) (ctx : PassContext) : PatchOutcome → Prop
  | skip (reason : SkipReason) (idle : d.kind = .unexpectedToken ∨ d.line ∈ ctx.fixedLines) :
      Steady d line ctx { actions := [.skip reason] }
  | edit {new : List Char} (unfixed : d.line ∉ ctx.fixedLines)
      (edit : StandardEdit d line.toList new) :
      Steady d line ctx { actions := [.replace (String.ofList new)] }

theorem steady_of_dispatch (noMarker : d.kind ≠ .missingType)
    (answer : RuleRegistry.standard.dispatch d line ctx = .ok outcome) :
    Steady d line ctx outcome := by
  cases RuleRegistry.standardAnswer_of_dispatch answer with
  | alreadyPatched known fixed => exact .skip _ (.inr fixed)
  | tolerated kind => exact .skip _ (.inl kind)
  | edited unfixed edit => exact .edit unfixed edit
  | defined kind => exact absurd kind noMarker

theorem Steady.stays (steady : Steady d line ctx outcome) : outcome.restart = false := by
  cases steady with
  | skip => rfl
  | edit => rfl

theorem Steady.fixedLines (steady : Steady d line ctx outcome) :
    (afterOutcome d outcome ctx).fixedLines = Turn.fix ctx.fixedLines d := by
  cases steady with
  | skip reason idle =>
      rw [afterOutcome_skip, Turn.fix]
      rcases idle with token | fixed
      · simp [token]
      · simp [fixed]
  | edit unfixed edit => simp [afterOutcome_replace, Turn.fix, edit.kind_ne.2, unfixed]

theorem Steady.buffer (pass : Nat) (steady : Steady d line ctx outcome) (place : d.line = index)
    (present : s.buffer.lines[index]? = some line) :
    (applyOutcome pass d outcome (noteConsulted .standard d line ctx s)).buffer =
      match outcome.actions with
      | [.replace new] => { s.buffer with lines := s.buffer.lines.set index new }
      | _ => s.buffer := by
  have same : (noteConsulted .standard d line ctx s).buffer = s.buffer := buffer_noteConsulted line
  cases steady with
  | skip => rw [applyOutcome_skip, State.buffer_skip, same]
  | edit =>
      have inside : index < (noteConsulted .standard d line ctx s).buffer.size := by
        rw [same]
        exact (List.getElem?_eq_some_iff.mp present).1
      rw [applyOutcome_replace place inside, State.buffer_edit, same]

theorem Steady.agrees (steady : Steady d line ctx outcome) (agrees : Agrees b ctx s)
    (place : d.line = index) (present : s.buffer.lines[index]? = some line) :
    Agrees b (afterOutcome d outcome ctx)
      (applyOutcome pass d outcome (noteConsulted .standard d line ctx s)) := by
  have mended := steady.buffer pass place present
  cases steady with
  | skip =>
      constructor
      · rw [mended]
        exact agrees.size
      · intro other free
        rw [mended]
        exact agrees.unfixed other free
  | edit =>
      rw [afterOutcome_replace]
      constructor
      · rw [mended]
        exact List.length_set.trans agrees.size
      · intro other free
        have apart : index ≠ other := by
          rintro rfl
          exact free (place ▸ List.mem_cons_self)
        rw [mended]
        exact (List.getElem?_set_ne apart).trans
          (agrees.unfixed other fun member => free (List.mem_cons_of_mem _ member))

theorem Agrees.verdict_eq (agrees : Agrees b ctx s) (place : d.line = index)
    (present : s.buffer.lines[index]? = some line) :
    Turn.verdict ctx b ⟨d, ctx.fixedLines.contains d.line⟩ =
      RuleRegistry.standard.dispatch d line ctx := by
  have inside : 0 ≤ d.line ∧ d.line < b.size := by
    rw [← agrees.size]
    exact SourceBuffer.inside_of_line place present
  rw [Turn.verdict, if_pos inside]
  by_cases fixed : d.line ∈ ctx.fixedLines
  · simp only [List.contains_iff_mem.mpr fixed, if_true]
    by_cases known : d.kind = .unknown
    · rw [RuleRegistry.dispatch_of_unknown known, RuleRegistry.dispatch_of_unknown known]
    · rw [RuleRegistry.dispatch_of_fixed known fixed,
        RuleRegistry.dispatch_of_fixed known List.mem_cons_self]
  · have compiled : b.lines[index]? = some line := by
      rw [← agrees.unfixed index (place ▸ fixed), present]
    rw [SourceBuffer.getD_get? place compiled, RuleRegistry.dispatch_fixedLines]
    simp [fixed]

theorem verdict_afterOutcome (d : Diagnostic) (outcome : PatchOutcome) (ctx : PassContext) :
    Turn.verdict (afterOutcome d outcome ctx) = Turn.verdict ctx := by
  rw [afterOutcome]
  split
  · rfl
  · rfl

/-- A pass gives each diagnostic what is due to it by the compiled lines, up to the first one that
is refused. -/
theorem Mends.verdicts (mends : Mends .standard pass ctx errors s result after)
    (noMarker : ∀ d ∈ errors, d.kind ≠ .missingType) (agrees : Agrees b ctx s) :
    (result = .ok () →
      (answers .standard pass ctx errors s).map (fun a => (a.diagnostic, .ok a.outcome)) =
        (Turn.all ctx.fixedLines errors).map fun t => (t.diagnostic, t.verdict ctx b)) ∧
      ∀ refusal, result = .error refusal →
        ∃ t ∈ Turn.all ctx.fixedLines errors, t.verdict ctx b = .error refusal := by
  induction mends with
  | done => exact ⟨fun _ => rfl, nofun⟩
  | outside outside =>
      refine ⟨nofun, fun refusal refused => ⟨_, List.mem_cons_self, ?_⟩⟩
      obtain rfl := Except.error.inj refused
      exact Turn.verdict_of_outside (by rwa [← agrees.size])
  | refused place present answer =>
      refine ⟨nofun, fun refusal refused => ⟨_, List.mem_cons_self, ?_⟩⟩
      obtain rfl := Except.error.inj refused
      rw [agrees.verdict_eq place present, answer]
  | @restarted ctx d rest s index line outcome place present answer restarts =>
      have steady := steady_of_dispatch (noMarker d List.mem_cons_self) answer
      rw [steady.stays] at restarts
      cases restarts
  | @next ctx d rest s after index line outcome result place present answer stays later
      induction =>
      have steady := steady_of_dispatch (noMarker d List.mem_cons_self) answer
      -- What is still to come is answered for the same lines `b`, with one more of them fixed.
      obtain ⟨finished, refused⟩ :=
        induction (fun e member => noMarker e (List.mem_cons_of_mem _ member))
          (steady.agrees agrees place present)
      rw [steady.fixedLines, verdict_afterOutcome] at finished refused
      constructor
      · intro ended
        rw [answers_of_next place present answer stays, List.map_cons, finished ended, Turn.all,
          List.map_cons, agrees.verdict_eq place present, answer]
      · intro refusal ended
        obtain ⟨t, member, error⟩ := refused refusal ended
        exact ⟨t, List.mem_cons_of_mem _ member, error⟩

/-- `Redrawn fixed given b after` says what the answers `given` have made of the lines of `b` where
some lines were fixed before. -/
structure Redrawn (fixed : List Int) (given : List Answer) (b after : SourceBuffer) : Prop where
  size : after.size = b.size
  spared : ∀ index : Nat, (index : Int) ∈ fixed →
    ∀ a ∈ given, a.diagnostic.line = index → a.skips = true
  kept : ∀ index : Nat, (∀ a ∈ given, a.diagnostic.line = index → a.skips = true) →
    after.lines[index]? = b.lines[index]?
  edited : ∀ (d : Diagnostic) (new : String) (index : Nat),
    ⟨d, { actions := [.replace new] }⟩ ∈ given → d.line = index →
      after.lines[index]? = some new

theorem Redrawn.nil (fixed : List Int) (b : SourceBuffer) : Redrawn fixed [] b b where
  size := rfl
  spared := nofun
  kept _ _ := rfl
  edited := nofun

theorem Steady.redrawn (steady : Steady d line ctx outcome) (place : d.line = index)
    (present : s.buffer.lines[index]? = some line) {given : List Answer} {last : SourceBuffer}
    (later : Redrawn (Turn.fix ctx.fixedLines d) given
      (applyOutcome pass d outcome (noteConsulted .standard d line ctx s)).buffer last) :
    Redrawn ctx.fixedLines (⟨d, outcome⟩ :: given) s.buffer last := by
  obtain ⟨size, spared, kept, edited⟩ := later
  have inside := (List.getElem?_eq_some_iff.mp present).1
  rw [steady.buffer pass place present] at size kept
  constructor
  · cases steady with
    | skip => exact size
    | edit => exact size.trans List.length_set
  · intro other fixed a member same
    rcases List.mem_cons.mp member with rfl | member
    · cases steady with
      | skip => rfl
      | edit unfixed => exact absurd (same ▸ fixed) unfixed
    · exact spared other (Turn.mem_fix.mpr (.inl fixed)) a member same
  · intro other skips
    rw [kept other fun a member => skips a (List.mem_cons_of_mem _ member)]
    cases steady with
    | skip => rfl
    | edit =>
        have apart : index ≠ other := by
          rintro rfl
          cases skips _ List.mem_cons_self place
        exact List.getElem?_set_ne apart
  · intro e new other member same
    rcases List.mem_cons.mp member with first | member
    · obtain ⟨rfl, rfl⟩ := Answer.mk.inj first
      obtain rfl : index = other := Int.ofNat.inj (place.symm.trans same)
      cases steady with
      | edit unfixed edit =>
          have fixed : (index : Int) ∈ Turn.fix ctx.fixedLines e :=
            Turn.mem_fix.mpr (.inr ⟨place, edit.kind_ne.2⟩)
          rw [kept index (spared index fixed)]
          exact List.getElem?_set_self inside
    · exact edited e new other member same

theorem Mends.redrawn (mends : Mends .standard pass ctx errors s result after)
    (noMarker : ∀ d ∈ errors, d.kind ≠ .missingType) :
    Redrawn ctx.fixedLines (answers .standard pass ctx errors s) s.buffer after.buffer := by
  induction mends with
  | done => exact .nil _ _
  | outside outside =>
      rw [answers_of_outside outside]
      exact .nil _ _
  | refused place present answer =>
      rw [answers_of_refused place present answer, buffer_noteConsulted]
      exact .nil _ _
  | @restarted ctx d rest s index line outcome place present answer restarts =>
      rw [(steady_of_dispatch (noMarker d List.mem_cons_self) answer).stays] at restarts
      cases restarts
  | @next ctx d rest s after index line outcome result place present answer stays later
      induction =>
      have steady := steady_of_dispatch (noMarker d List.mem_cons_self) answer
      have redrawn := induction fun e member => noMarker e (List.mem_cons_of_mem _ member)
      rw [steady.fixedLines] at redrawn
      rw [answers_of_next place present answer stays]
      exact steady.redrawn place present redrawn

section

variable {setup : Setup} {compiled : CompileResult}

theorem Mended.redrawn {outcome : Except Refusal Unit}
    (mended : Mended setup s compiled outcome after) (standard : setup.registry = .standard)
    (noMarker : ∀ d ∈ compiled.errors, d.kind ≠ .missingType) :
    Redrawn [] (passAnswers setup s) s.buffer after.buffer := by
  rw [mended.answers_eq, standard]
  exact (standard ▸ mended.mends).redrawn noMarker

variable (mended : Mended setup s compiled (.ok ()) after) (standard : setup.registry = .standard)
  (noMarker : ∀ d ∈ compiled.errors, d.kind ≠ .missingType) {before rest : List Diagnostic}

include mended standard noMarker

theorem Mended.verdicts : (passAnswers setup s).map (fun a => (a.diagnostic, .ok a.outcome)) =
    (Turn.all [] compiled.errors).map fun t =>
      (t.diagnostic, t.verdict (setup.contextOf compiled) s.buffer) := by
  rw [mended.answers_eq, standard]
  exact ((standard ▸ mended.mends).verdicts noMarker ⟨rfl, fun _ _ => rfl⟩).1 rfl

theorem Mended.answer_at (split : compiled.errors = before ++ d :: rest) :
    ∃ outcome, (passAnswers setup s)[before.length]? = some ⟨d, outcome⟩ ∧
      Turn.verdict (setup.contextOf compiled) s.buffer
        ⟨d, (before.foldl Turn.fix []).contains d.line⟩ = .ok outcome := by
  have verdicts := congrArg (·[before.length]?) (mended.verdicts standard noMarker)
  simp only [List.getElem?_map, split, Turn.getElem?_all, Option.map_some] at verdicts
  obtain ⟨answer, found, same⟩ := Option.map_eq_some_iff.mp verdicts
  obtain ⟨rfl, verdict⟩ := Prod.mk.inj same
  exact ⟨answer.outcome, found, verdict.symm⟩

theorem Mended.steady (member : ⟨d, outcome⟩ ∈ passAnswers setup s) :
    d ∈ compiled.errors ∧ ∃ line ctx, Steady d line ctx outcome := by
  have listed : (d, Except.ok outcome) ∈ (Turn.all [] compiled.errors).map fun t =>
      (t.diagnostic, t.verdict (setup.contextOf compiled) s.buffer) := by
    rw [← mended.verdicts standard noMarker]
    exact List.mem_map_of_mem member
  obtain ⟨t, turn, due⟩ := List.mem_map.mp listed
  obtain ⟨rfl, verdict⟩ := Prod.mk.inj due
  have reported := Turn.diagnostic_mem_of_mem_all turn
  obtain ⟨_, _, _, _, answer⟩ := Turn.dispatch_of_verdict verdict
  exact ⟨reported, _, _, steady_of_dispatch (noMarker _ reported) answer⟩

theorem Mended.skips_of_tolerated {position : Int}
    (tolerated : ∀ d ∈ compiled.errors, d.line = position → d.kind = .unexpectedToken) :
    ∀ a ∈ passAnswers setup s, a.diagnostic.line = position → a.skips = true := by
  intro ⟨d, outcome⟩ member same
  obtain ⟨reported, _, _, steady⟩ := mended.steady standard noMarker member
  cases steady with
  | skip => rfl
  | edit unfixed edit => exact absurd (tolerated d reported same) edit.kind_ne.2

theorem Mended.rewritten (split : compiled.errors = before ++ d :: rest)
    (present : s.buffer.lines[index]? = some line) (place : d.line = index)
    (kind : d.kind ≠ .unexpectedToken)
    (first : ∀ e ∈ before, e.line = index → e.kind = .unexpectedToken) :
    ∃ rule new, RuleRegistry.standard.rule? d.kind = some rule ∧
      rule.apply d line (setup.contextOf compiled) = .ok { actions := [.replace new] } ∧
      after.buffer.lines[index]? = some new := by
  -- The tokens before it that follow from other errors have fixed no line.
  have free : d.line ∉ before.foldl Turn.fix [] := by
    intro fixed
    rcases Turn.mem_foldl_fix.mp fixed with none | ⟨e, member, same, other⟩
    · cases none
    · exact other (first e member (same.trans place))
  obtain ⟨outcome, found, verdict⟩ := mended.answer_at standard noMarker split
  rw [List.contains_eq_mem, decide_eq_false free] at verdict
  obtain ⟨here, shown, at_, compiledLine, answer⟩ := Turn.dispatch_of_verdict verdict
  obtain rfl : here = index := Int.ofNat.inj (at_.symm.trans place)
  obtain rfl := Option.some.inj (compiledLine.symm.trans present)
  have reported : d ∈ compiled.errors := by simp [split]
  cases steady_of_dispatch (noMarker d reported) answer with
  | skip reason idle =>
      rcases idle with token | fixed
      · exact absurd token kind
      · cases fixed
  | edit unfixed edit =>
      obtain ⟨_, ⟨fixed, _⟩ | ⟨_, rule, named, applied⟩⟩ := RuleRegistry.dispatch_eq_ok answer
      · exact absurd fixed unfixed
      · exact ⟨rule, _, named, applied,
          (mended.redrawn standard noMarker).edited d _ here (List.mem_of_getElem? found) place⟩

theorem Mended.skipped (split : compiled.errors = before ++ d :: rest)
    (fixed : ∃ e ∈ before, e.line = d.line ∧ e.kind ≠ .unexpectedToken) :
    (passAnswers setup s)[before.length]? =
      some ⟨d, { actions := [.skip .alreadyPatched] }⟩ := by
  have member : d.line ∈ before.foldl Turn.fix [] := Turn.mem_foldl_fix.mpr (.inr fixed)
  obtain ⟨outcome, found, verdict⟩ := mended.answer_at standard noMarker split
  rw [List.contains_eq_mem, decide_eq_true member] at verdict
  obtain ⟨here, shown, at_, compiledLine, answer⟩ := Turn.dispatch_of_verdict verdict
  obtain ⟨_, ⟨_, rfl⟩ | ⟨unfixed, _⟩⟩ := RuleRegistry.dispatch_eq_ok answer
  · exact found
  · exact absurd List.mem_cons_self unfixed

end

/-- A pass in which no marker is missing, and that refuses no error, is a map over the lines that
were compiled: a line on which nothing but tokens that follow from other errors is reported stays as
it is, and any other becomes what the rule of the first other diagnostic on it makes of it, when it
is asked about the compiled line with no lines fixed. All later ones on that line are skipped. -/
theorem onePass_pointwise (setup : Setup) (standard : setup.registry = .standard) (s : State)
    (compiled : CompileResult)
    (answered : setup.compiler.answer s.earlier s.buffer.text = .ok compiled)
    (noMarker : ∀ d ∈ compiled.errors, d.code ≠ "CS0246")
    (unrefused : ∀ error after, onePass setup s ≠ .ended (.error error) after) :
    (onePass setup s).state.buffer.size = s.buffer.size ∧
      ∀ (index : Nat) (line : String), s.buffer.lines[index]? = some line →
        ((∀ d ∈ compiled.errors, d.line = index → d.kind = .unexpectedToken) →
          (onePass setup s).state.buffer.lines[index]? = some line) ∧
        ∀ (before rest : List Diagnostic) (d : Diagnostic),
          compiled.errors = before ++ d :: rest → d.line = index → d.kind ≠ .unexpectedToken →
          (∀ e ∈ before, e.line = index → e.kind = .unexpectedToken) →
          (∃ rule new, RuleRegistry.standard.rule? d.kind = some rule ∧
            rule.apply d line (setup.contextOf compiled) =
              .ok { actions := [.replace new] } ∧
            (onePass setup s).state.buffer.lines[index]? = some new) ∧
          ∀ (between behind : List Diagnostic) (later : Diagnostic),
            rest = between ++ later :: behind → later.line = index →
            (passAnswers setup s)[before.length + 1 + between.length]? =
              some ⟨later, { actions := [.skip .alreadyPatched] }⟩ := by
  have known : ∀ d ∈ compiled.errors, d.kind ≠ .missingType :=
    fun d member kind => noMarker d member (Diagnostic.kind_eq_missingType_iff.mp kind)
  have passes := passes_onePass setup s
  generalize ending : onePass setup s = ended at passes unrefused ⊢
  cases passes with
  | failed => exact absurd rfl (unrefused _ _)
  | refused => exact absurd rfl (unrefused _ _)
  | stuck => exact absurd rfl (unrefused _ _)
  | clean answer faultless =>
      obtain rfl := Except.ok.inj (answered.symm.trans answer)
      refine ⟨rfl, fun index line present => ⟨fun _ => present, fun before rest d split => ?_⟩⟩
      simp [faultless] at split
  | again mended =>
      obtain rfl := Except.ok.inj (answered.symm.trans mended.answer)
      have redrawn := mended.redrawn standard known
      refine ⟨redrawn.size, fun index line present => ⟨fun tolerated => ?_, ?_⟩⟩
      · rw [PassEnd.state,
          redrawn.kept index (mended.skips_of_tolerated standard known tolerated), present]
      · intro before rest d split place kind first
        refine ⟨mended.rewritten standard known split present place kind first, ?_⟩
        intro between behind later behindSplit same
        have whole : compiled.errors = (before ++ d :: between) ++ later :: behind := by
          simp [split, behindSplit]
        have skipped := mended.skipped standard known whole
          ⟨d, by simp, place.trans same.symm, kind⟩
        simpa [Nat.add_assoc, Nat.add_comm 1] using skipped

def interleaved : State where
  buffer := { lines := ["a.operator=(b)", "enum E : nuint;", "\x7d"] }
  report := { file := "Interop.cs" }

def interleavedErrors : List Diagnostic :=
  [{ code := "CS1002" }, { code := "CS1008", line := 1 }, { code := "CS1525" },
    { code := "CS1513", line := 1 }, { code := "CS0103" }]

def interleavedSetup : Setup where
  compiler := .ofReports (fun _ => {}) [interleavedErrors]
  registry := .standard
  file := "Interop.cs"
  attributeDefinitions := []

theorem onePass_pointwise_interleaved :
    (onePass interleavedSetup interleaved).state.buffer.lines =
        ["a=(b)", "enum E : uint;", "\x7d"] ∧
      (onePass interleavedSetup interleaved).state.buffer.lines[2]? = some "\x7d" ∧
      (∃ rule new, RuleRegistry.standard.rule? .invalidExpressionTerm = some rule ∧
        rule.apply { code := "CS1525" } "a.operator=(b)" {
          file := "Interop.cs"
          tree := {}
          errors := interleavedErrors
          attributeDefinitions := [] } = .ok { actions := [.replace new] } ∧
        (onePass interleavedSetup interleaved).state.buffer.lines[0]? = some new) ∧
      (passAnswers interleavedSetup interleaved)[4]? =
        some ⟨{ code := "CS0103" }, { actions := [.skip .alreadyPatched] }⟩ := by
  obtain ⟨next, again⟩ : ∃ next, onePass interleavedSetup interleaved = .again next := ⟨_, rfl⟩
  obtain ⟨_, pointwise⟩ := onePass_pointwise interleavedSetup rfl interleaved
    { tree := {}, diagnostics := interleavedErrors, success := false } rfl (by decide)
    (fun _ _ ended => by cases again.symm.trans ended)
  obtain ⟨rewritten, skipped⟩ := (pointwise 0 "a.operator=(b)" rfl).2
    [{ code := "CS1002" }, { code := "CS1008", line := 1 }]
    [{ code := "CS1513", line := 1 }, { code := "CS0103" }] { code := "CS1525" } rfl rfl
    (by decide) (by decide)
  exact ⟨rfl, (pointwise 2 "\x7d" rfl).1 (by decide), rewritten,
    skipped [{ code := "CS1513", line := 1 }] [] { code := "CS0103" } rfl rfl⟩

end Patching

end BindingRepair
