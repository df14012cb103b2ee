import BindingRepair.Proofs.Patching.Pass

/-!
No rule works on stale positions. Whenever a rule is asked about a diagnostic, the line that it is
shown is the row of that number in the text compiled last, and the tree and the errors that it can
see are those of the same compile. What carries this through a pass is that a line which was not
replaced since the compile still stands where the compile saw it.
-/

namespace BindingRepair

namespace Event

def isConsultation : Event → Bool
  | consulted .. => true
  | _ => false

def isRestart : Event → Bool
  | restarted .. => true
  | _ => false

def patchedLine? : Event → Option Int
  | patched _ d => some d.line
  | _ => none

end Event

namespace Patching

/-- The latest compile among some events succeeded, with `since` as the events after it. -/
def LatestCompile (events : List Event) (text : String) (result : CompileResult)
    (since : List Event) : Prop :=
  ∃ before announced, events = before ++ .compiled text (.ok result) announced :: since ∧
    ∀ e ∈ since, e.compiledText? = none

theorem LatestCompile.note {events since : List Event} {text : String} {result : CompileResult}
    (latest : LatestCompile events text result since) {e : Event}
    (other : e.compiledText? = none) :
    LatestCompile (events ++ [e]) text result (since ++ [e]) := by
  obtain ⟨before, announced, rfl, none⟩ := latest
  refine ⟨before, announced, by simp, fun later member => ?_⟩
  rcases List.mem_append.mp member with earlier | last
  · exact none later earlier
  · rw [List.mem_singleton.mp last]
    exact other

/-- What a rule is shown when it is asked after some events: the line as the latest compile saw it,
with the tree and the errors of that compile. Nothing was done to that line since. -/
structure ShownFresh (events : List Event) (d : Diagnostic) (line : String) (ctx : PassContext)
    (text : String) (result : CompileResult) (since : List Event) : Prop where
  latest : LatestCompile events text result since
  reported : d ∈ result.errors
  nonneg : 0 ≤ d.line
  row : (Text.rows text)[d.line.toNat]? = some line
  tree : ctx.tree = result.tree
  errors : ctx.errors = result.errors
  unpatched : ∀ e ∈ since, e.patchedLine? ≠ some d.line
  unmoved : ∀ e ∈ since, e.isRestart = false

/-- Every rule that was asked was shown what the latest compile before it saw. -/
def Fresh (events : List Event) : Prop :=
  ∀ before d line ctx after, events = before ++ .consulted d line ctx :: after →
    ∃ text result since, ShownFresh before d line ctx text result since

theorem fresh_nil : Fresh [] := by
  intro before d line ctx after equation
  simp at equation

theorem append_singleton_eq_append_cons {α : Type} {events before after : List α} {e e' : α}
    (equation : events ++ [e] = before ++ e' :: after) :
    events = before ∧ e = e' ∨ ∃ rest, events = before ++ e' :: rest := by
  rcases List.eq_nil_or_concat after with rfl | ⟨rest, last, rfl⟩
  · obtain ⟨same, heads⟩ := List.append_inj' equation rfl
    exact .inl ⟨same, by simpa using heads⟩
  · rw [List.concat_eq_append, ← List.cons_append, ← List.append_assoc] at equation
    exact .inr ⟨rest, (List.append_inj' equation rfl).1⟩

theorem Fresh.note {events : List Event} (fresh : Fresh events) {e : Event}
    (other : e.isConsultation = false) : Fresh (events ++ [e]) := by
  intro before d line ctx after equation
  rcases append_singleton_eq_append_cons equation with ⟨_, rfl⟩ | ⟨rest, earlier⟩
  · cases other
  · exact fresh before d line ctx rest earlier

theorem Fresh.consulted {events : List Event} (fresh : Fresh events) {d : Diagnostic}
    {line : String} {ctx : PassContext} {text : String} {result : CompileResult}
    {since : List Event} (shown : ShownFresh events d line ctx text result since) :
    Fresh (events ++ [.consulted d line ctx]) := by
  intro before d' line' ctx' after equation
  rcases append_singleton_eq_append_cons equation with ⟨rfl, same⟩ | ⟨rest, earlier⟩
  · cases same
    exact ⟨text, result, since, shown⟩
  · exact fresh before d' line' ctx' rest earlier

/-- `Follows b result ctx s` says that in a pass over the compiled buffer `b` the state has come to
`s`: lines that are not fixed stand as they did in `b`, and only fixed lines were patched. -/
structure Follows (b : SourceBuffer) (result : CompileResult) (ctx : PassContext) (s : State) :
    Prop where
  tree : ctx.tree = result.tree
  errors : ctx.errors = result.errors
  unfixed : ∀ index : Nat, (index : Int) ∉ ctx.fixedLines →
    s.buffer.lines[index]? = b.lines[index]?
  fresh : Fresh s.trace
  since : ∃ since, LatestCompile s.trace b.text result since ∧
    (∀ e ∈ since, ∀ position, e.patchedLine? = some position → position ∈ ctx.fixedLines) ∧
    ∀ e ∈ since, e.isRestart = false

namespace Follows

variable {b : SourceBuffer} {result : CompileResult} {ctx : PassContext} {s : State}
  {d : Diagnostic} {index : Nat} {line : String}

theorem shownFresh (follows : Follows b result ctx s) (unbroken : b.Unbroken)
    (reported : d ∈ result.errors) (place : d.line = index)
    (present : s.buffer.lines[index]? = some line) (unfixed : d.line ∉ ctx.fixedLines) :
    ∃ since, ShownFresh s.trace d line ctx b.text result since := by
  obtain ⟨since, latest, patched, unmoved⟩ := follows.since
  have compiled : b.lines[index]? = some line := by
    rw [← follows.unfixed index (place ▸ unfixed), present]
  refine ⟨since, {
    latest, reported, unmoved
    nonneg := by omega
    row := ?_
    tree := follows.tree
    errors := follows.errors
    unpatched := ?_ }⟩
  · rw [place, Int.toNat_natCast]
    exact SourceBuffer.rows_text_getElem? unbroken compiled
  · intro e member same
    exact unfixed (patched e member d.line same)

theorem step (follows : Follows b result ctx s) {ctx' : PassContext} {s' : State} {e : Event}
    (tree : ctx'.tree = ctx.tree) (errors : ctx'.errors = ctx.errors)
    (fixed : ∀ position ∈ ctx.fixedLines, position ∈ ctx'.fixedLines)
    (untouched : ∀ index : Nat, (index : Int) ∉ ctx'.fixedLines →
      s'.buffer.lines[index]? = s.buffer.lines[index]?)
    (trace : s'.trace = s.trace ++ [e]) (fresh : Fresh s'.trace)
    (notCompiled : e.compiledText? = none)
    (patches : ∀ position, e.patchedLine? = some position → position ∈ ctx'.fixedLines)
    (notRestarted : e.isRestart = false) : Follows b result ctx' s' := by
  obtain ⟨since, latest, patched, unmoved⟩ := follows.since
  refine {
    tree := tree.trans follows.tree
    errors := errors.trans follows.errors
    unfixed := fun index free => ?_
    fresh
    since := ⟨since ++ [e], trace ▸ latest.note notCompiled, ?_, ?_⟩ }
  · rw [untouched index free]
    exact follows.unfixed index fun member => free (fixed index member)
  · intro other member position named
    rcases List.mem_append.mp member with earlier | last
    · exact fixed position (patched other earlier position named)
    · rw [List.mem_singleton.mp last] at named
      exact patches position named
  · intro other member
    rcases List.mem_append.mp member with earlier | last
    · exact unmoved other earlier
    · rw [List.mem_singleton.mp last]
      exact notRestarted

theorem consulted (follows : Follows b result ctx s) (unbroken : b.Unbroken)
    (reported : d ∈ result.errors) (place : d.line = index)
    (present : s.buffer.lines[index]? = some line) (unfixed : d.line ∉ ctx.fixedLines) :
    Follows b result ctx (s.note (.consulted d line ctx)) := by
  obtain ⟨since, shown⟩ := follows.shownFresh unbroken reported place present unfixed
  exact follows.step rfl rfl (fun _ member => member) (fun _ _ => rfl) rfl
    (follows.fresh.consulted shown) rfl nofun rfl

theorem skip (follows : Follows b result ctx s) (pass : Nat) (reason : SkipReason) :
    Follows b result ctx (s.skip pass d reason) :=
  follows.step rfl rfl (fun _ member => member) (fun _ _ => rfl) rfl
    (follows.fresh.note rfl) rfl nofun rfl

theorem edit (follows : Follows b result ctx s) (pass : Nat) (place : d.line = index)
    (new : String) :
    Follows b result { ctx with fixedLines := d.line :: ctx.fixedLines }
      (s.edit pass d index new) := by
  refine follows.step rfl rfl (fun _ member => List.mem_cons_of_mem _ member) ?_ rfl
    (follows.fresh.note rfl) rfl ?_ rfl
  · intro other free
    have differ : index ≠ other := by
      rintro rfl
      exact free (place ▸ List.mem_cons_self)
    exact List.getElem?_set_ne differ
  · intro position named
    rw [← Option.some.inj named]
    exact List.mem_cons_self

end Follows

theorem StandardMends.fresh {b : SourceBuffer} {result : CompileResult} {pass : Nat}
    {ctx : PassContext} {errors : List Diagnostic} {s after : State}
    {ended : Except Refusal Unit} (mends : StandardMends pass ctx errors s ended after)
    (unbroken : b.Unbroken) (reported : ∀ d ∈ errors, d ∈ result.errors)
    (follows : Follows b result ctx s) : Fresh after.trace := by
  induction mends with
  | done => exact follows.fresh
  | outside => exact follows.fresh
  | @refused ctx d rest s index line refusal place present answer =>
      rcases noteConsulted_cases line with same | ⟨unfixed, noted⟩
      · rw [same]
        exact follows.fresh
      · rw [noted]
        exact (follows.consulted unbroken (reported _ List.mem_cons_self) place present
          unfixed).fresh
  | alreadyPatched place present known fixed later induction =>
      exact induction (fun d member => reported d (List.mem_cons_of_mem _ member))
        (follows.skip _ _)
  | tolerated place present kind unfixed related later induction =>
      have asked := follows.consulted unbroken (reported _ List.mem_cons_self) place present
        unfixed
      exact induction (fun d member => reported d (List.mem_cons_of_mem _ member))
        (asked.skip _ _)
  | edited place present unfixed edit later induction =>
      have asked := follows.consulted unbroken (reported _ List.mem_cons_self) place present
        unfixed
      exact induction (fun d member => reported d (List.mem_cons_of_mem _ member))
        (asked.edit _ place _)
  | defined place present kind unfixed missing undefined spaces =>
      have asked := follows.consulted unbroken (reported _ List.mem_cons_self) place present
        unfixed
      exact (asked.fresh.note (by rfl)).note (by rfl)

variable {setup : Setup}

theorem Mended.fresh {s after : State} {result : CompileResult} {ended : Except Refusal Unit}
    (mended : Mended setup s result ended after) (standard : setup.registry = .standard)
    (unbroken : s.buffer.Unbroken) (fresh : Fresh s.trace) : Fresh after.trace := by
  have mends := (standard ▸ mended.mends).standard
  have compiled := s.trace_recompiled mended.answer
  refine mends.fresh unbroken (fun _ member => member) {
    tree := rfl
    errors := rfl
    unfixed := fun _ _ => rfl
    fresh := ?_
    since := ⟨[.passFaulty (s.report.passes + 1) result.errors.length], ?_, ?_, ?_⟩ }
  · rw [State.trace_note, compiled]
    exact (fresh.note (by rfl)).note (by rfl)
  · refine ⟨s.trace, setup.compiler.announces, ?_, ?_⟩
    · rw [State.trace_note, compiled, List.append_assoc]
      rfl
    · intro e member
      rw [List.mem_singleton.mp member]
      rfl
  · intro e member position named
    rw [List.mem_singleton.mp member] at named
    cases named
  · intro e member
    rw [List.mem_singleton.mp member]
    rfl

theorem Passes.fresh {s : State} {ending : PassEnd} (passes : Passes setup s ending)
    (standard : setup.registry = .standard)
    (definitions : ∀ definition ∈ setup.attributeDefinitions, ∀ line ∈ definition,
      Text.Unbroken line.toList)
    (unbroken : s.buffer.Unbroken) (fresh : Fresh s.trace) :
    ending.state.buffer.Unbroken ∧ Fresh ending.state.trace := by
  cases passes with
  | failed answer =>
      refine ⟨unbroken, ?_⟩
      rw [PassEnd.state, State.trace_recompiled answer]
      exact fresh.note rfl
  | clean answer faultless =>
      refine ⟨unbroken, ?_⟩
      rw [PassEnd.state, State.trace_note, State.trace_recompiled answer]
      exact (fresh.note (by rfl)).note (by rfl)
  | refused mended =>
      exact ⟨mended.unbroken standard unbroken definitions,
        mended.fresh standard unbroken fresh⟩
  | stuck mended =>
      exact ⟨mended.unbroken standard unbroken definitions,
        mended.fresh standard unbroken fresh⟩
  | again mended =>
      exact ⟨mended.unbroken standard unbroken definitions,
        mended.fresh standard unbroken fresh⟩

/-- Whenever a standard rule is asked about a diagnostic in a run on a buffer without broken lines,
the line that it is shown is the row of that number in the text compiled last, it sees the tree and
the errors of that compile, and since then neither was that line patched nor any line moved. -/
theorem consulted_shownFresh (setup : Setup) (standard : setup.registry = .standard)
    (definitions : ∀ definition ∈ setup.attributeDefinitions, ∀ line ∈ definition,
      Text.Unbroken line.toList)
    (buffer : SourceBuffer) (unbroken : buffer.Unbroken) (report : RunReport)
    (earlier : List String) (passes : Nat) (before after : List Event) (d : Diagnostic)
    (line : String) (ctx : PassContext)
    (asked : (run setup passes { buffer, report, earlier }).state.trace =
      before ++ .consulted d line ctx :: after) :
    ∃ text result since, ShownFresh before d line ctx text result since := by
  have preserved : ∀ s : State, s.buffer.Unbroken ∧ Fresh s.trace →
      (onePass setup s).state.buffer.Unbroken ∧ Fresh (onePass setup s).state.trace :=
    fun s holds => (passes_onePass setup s).fresh standard definitions holds.1 holds.2
  let start : State := { buffer, report, earlier }
  have initial : start.buffer.Unbroken ∧ Fresh start.trace := ⟨unbroken, fresh_nil⟩
  exact (run_preserves preserved passes initial).2 before d line ctx after asked

def markedEnum : SourceBuffer where
  lines := ["namespace N \x7b", "enum E : nuint \x7b A \x7d", "\x7d"]

def markedEnumTree : SyntaxTree where
  declarations := [{ kind := .namespaceBlock, name := "N", startLine := 0, endLine := 2 }]

def nativeBase (line : Int) : Diagnostic where
  code := "CS1008"
  line

def markedEnumSetup : Setup where
  compiler := .ofReports (fun _ => markedEnumTree)
    [[{ code := "CS0246", message := "NativeTypeName", line := 1 }, nativeBase 1], [nativeBase 5]]
  registry := .standard
  file := "Interop.cs"
  attributeDefinitions := [["class A;"]]

def markedEnumTrace : List Event :=
  (run markedEnumSetup 3 { buffer := markedEnum, report := { file := "Interop.cs" } }).state.trace

theorem consulted_shownFresh_markedEnum :
    let ctx : PassContext := {
      file := "Interop.cs"
      tree := markedEnumTree
      errors := [nativeBase 5]
      attributeDefinitions := [["class A;"]] }
    markedEnumTrace = markedEnumTrace.take 7 ++
        .consulted (nativeBase 5) "enum E : nuint \x7b A \x7d" ctx :: markedEnumTrace.drop 8 ∧
      ∃ text result since, ShownFresh (markedEnumTrace.take 7) (nativeBase 5)
        "enum E : nuint \x7b A \x7d" ctx text result since :=
  ⟨rfl, consulted_shownFresh markedEnumSetup rfl (by decide) markedEnum
    (by unfold SourceBuffer.Unbroken; decide) { file := "Interop.cs" } [] 3
    (markedEnumTrace.take 7) (markedEnumTrace.drop 8) (nativeBase 5)
    "enum E : nuint \x7b A \x7d" _ rfl⟩

end Patching

end BindingRepair
