import BindingRepair.Proofs.Patching.Mending

namespace BindingRepair.Patching

variable {setup : Setup} {s : State}

def State.recompiled (s : State) (compiler : Compiler) : State :=
  ({ s with report := { s.report with passes := s.report.passes + 1 } }.compile compiler).2

theorem State.trace_recompiled {compiler : Compiler}
    {answer : Except CompilerFailure CompileResult}
    (answered : compiler.answer s.earlier s.buffer.text = answer) :
    (s.recompiled compiler).trace =
      s.trace ++ [.compiled s.buffer.text answer compiler.announces] := by
  rw [← answered]
  rfl

def Setup.contextOf (setup : Setup) (result : CompileResult) : PassContext where
  file := setup.file
  tree := result.tree
  errors := result.errors
  attributeDefinitions := setup.attributeDefinitions

/-- `Mended setup s result outcome after` says that the compiler answers the source with errors, and
that mending them leads to the state `after`. -/
structure Mended (setup : Setup) (s : State) (result : CompileResult)
    (outcome : Except Refusal Unit) (after : State) : Prop where
  answer : setup.compiler.answer s.earlier s.buffer.text = .ok result
  faulty : result.errors ≠ []
  mends : Mends setup.registry (s.report.passes + 1) (setup.contextOf result) result.errors
    ((s.recompiled setup.compiler).note
      (.passFaulty (s.report.passes + 1) result.errors.length)) outcome after

inductive Passes (setup : Setup) (s : State) : PassEnd → Prop
  | failed {failure : CompilerFailure}
      (answer : setup.compiler.answer s.earlier s.buffer.text = .error failure) :
      Passes setup s (.ended (.error (.compiler failure)) (s.recompiled setup.compiler))
  | clean {result : CompileResult}
      (answer : setup.compiler.answer s.earlier s.buffer.text = .ok result)
      (faultless : result.errors = []) :
      Passes setup s (.ended (.ok result)
        ((s.recompiled setup.compiler).note (.passClean (s.report.passes + 1))))
  | refused {result : CompileResult} {refusal : Refusal} {after : State}
      (mended : Mended setup s result (.error refusal) after) :
      Passes setup s (.ended (.error (.refused refusal)) after)
  | stuck {result : CompileResult} {first : Diagnostic} {after : State}
      (mended : Mended setup s result (.ok ()) after)
      (unchanged : after.buffer.lines = s.buffer.lines) :
      Passes setup s (.ended (.error (.noProgress setup.file (s.report.passes + 1)
        result.errors.length first)) after)
  | again {result : CompileResult} {after : State}
      (mended : Mended setup s result (.ok ()) after)
      (changed : after.buffer.lines ≠ s.buffer.lines) :
      Passes setup s (.again after)

theorem onePass_eq (setup : Setup) (s : State) : onePass setup s =
    match setup.compiler.answer s.earlier s.buffer.text with
    | .error failure => .ended (.error (.compiler failure)) (s.recompiled setup.compiler)
    | .ok result =>
      match result.errors with
      | [] =>
        .ended (.ok result) ((s.recompiled setup.compiler).note (.passClean (s.report.passes + 1)))
      | first :: _ => mendPass setup result first (s.recompiled setup.compiler) := by
  have compiled :
      { s with report := { s.report with passes := s.report.passes + 1 } }.compile
          setup.compiler =
        (setup.compiler.answer s.earlier s.buffer.text, s.recompiled setup.compiler) := rfl
  rw [onePass, compiled]
  cases setup.compiler.answer s.earlier s.buffer.text with
  | error failure => rfl
  | ok result => rfl

theorem onePass_of_failed {failure : CompilerFailure}
    (failed : setup.compiler.answer s.earlier s.buffer.text = .error failure) :
    onePass setup s = .ended (.error (.compiler failure)) (s.recompiled setup.compiler) := by
  rw [onePass_eq, failed]

theorem onePass_of_faultless {result : CompileResult}
    (answer : setup.compiler.answer s.earlier s.buffer.text = .ok result)
    (faultless : result.errors = []) :
    onePass setup s = .ended (.ok result)
      ((s.recompiled setup.compiler).note (.passClean (s.report.passes + 1))) := by
  rw [onePass_eq, answer]
  simp only [faultless]

theorem exists_mended {result : CompileResult}
    (answer : setup.compiler.answer s.earlier s.buffer.text = .ok result)
    (faulty : result.errors ≠ []) : ∃ outcome after, Mended setup s result outcome after :=
  ⟨_, _, answer, faulty, mends_mendErrors _ _ _ _ _⟩

/-- How a pass over the errors of a source ends when mending them has led to the state `after`. -/
def Setup.conclude (setup : Setup) (s : State) (errors : List Diagnostic) (first : Diagnostic) :
    Except Refusal Unit → State → PassEnd
  | .error refusal, after => .ended (.error (.refused refusal)) after
  | .ok (), after =>
    if after.buffer.lines = s.buffer.lines then
      .ended (.error (.noProgress setup.file (s.report.passes + 1) errors.length first)) after
    else .again after

theorem onePass_of_mended {result : CompileResult} {outcome : Except Refusal Unit} {after : State}
    {first : Diagnostic} {others : List Diagnostic} (mended : Mended setup s result outcome after)
    (reported : result.errors = first :: others) :
    onePass setup s = setup.conclude s result.errors first outcome after := by
  have passed : onePass setup s = mendPass setup result first (s.recompiled setup.compiler) := by
    rw [onePass_eq, mended.answer]
    simp only [reported]
  rw [passed]
  simp only [mendPass]
  split
  · next ended =>
      cases ended.symm.trans mended.mends.mendErrors_eq
      rfl
  · next ended =>
      cases ended.symm.trans mended.mends.mendErrors_eq
      rfl

theorem passes_onePass (setup : Setup) (s : State) : Passes setup s (onePass setup s) := by
  cases answer : setup.compiler.answer s.earlier s.buffer.text with
  | error failure =>
      rw [onePass_of_failed answer]
      exact .failed answer
  | ok result =>
      cases reported : result.errors with
      | nil =>
          rw [onePass_of_faultless answer reported]
          exact .clean answer reported
      | cons first others =>
          obtain ⟨outcome, after, mended⟩ := exists_mended answer (by simp [reported])
          rw [onePass_of_mended mended reported]
          cases outcome with
          | error refusal => exact .refused mended
          | ok done =>
              rw [Setup.conclude]
              split
              · next unchanged => exact .stuck mended unchanged
              · next changed => exact .again mended changed

def PassEnd.state : PassEnd → State
  | again s => s
  | ended _ s => s

theorem Mended.unbroken {s after : State} {result : CompileResult} {ended : Except Refusal Unit}
    (mended : Mended setup s result ended after) (standard : setup.registry = .standard)
    (unbroken : s.buffer.Unbroken)
    (definitions : ∀ definition ∈ setup.attributeDefinitions, ∀ line ∈ definition,
      Text.Unbroken line.toList) : after.buffer.Unbroken := by
  have mends := (standard ▸ mended.mends).standard
  exact mends.unbroken unbroken definitions

theorem Mended.settled {after : State} {result : CompileResult} {ended : Except Refusal Unit}
    (mended : Mended setup s result ended after) (standard : setup.registry = .standard)
    (definitions : ∀ definition ∈ setup.attributeDefinitions, ∀ line ∈ definition,
      Text.Unbroken line.toList) (settled : s.buffer.Settled) : after.buffer.Settled := by
  have mends := (standard ▸ mended.mends).standard
  obtain ⟨newline, grown⟩ := mends.keeps
  have present : 0 < s.buffer.size := List.length_pos_iff.mpr settled.nonempty
  exact {
    unbroken := mended.unbroken standard settled.unbroken definitions
    nonempty := List.length_pos_iff.mp (Nat.lt_of_lt_of_le present grown)
    ended := newline.trans settled.ended }

theorem Passes.preserves {ending : PassEnd} (passes : Passes setup s ending)
    {property : SourceBuffer → Prop}
    (preserved : ∀ result outcome after, Mended setup s result outcome after →
      property after.buffer) (initial : property s.buffer) : property ending.state.buffer := by
  cases passes with
  | failed answer => exact initial
  | clean answer faultless => exact initial
  | refused mended => exact preserved _ _ _ mended
  | stuck mended unchanged => exact preserved _ _ _ mended
  | again mended changed => exact preserved _ _ _ mended

theorem unbroken_onePass (standard : setup.registry = .standard)
    (definitions : ∀ definition ∈ setup.attributeDefinitions, ∀ line ∈ definition,
      Text.Unbroken line.toList) (s : State) (unbroken : s.buffer.Unbroken) :
    (onePass setup s).state.buffer.Unbroken :=
  (passes_onePass setup s).preserves
    (fun _ _ _ mended => mended.unbroken standard unbroken definitions) unbroken

theorem run_preserves {property : State → Prop}
    (preserved : ∀ s, property s → property (onePass setup s).state)
    (passes : Nat) (initial : property s) : property (run setup passes s).state := by
  induction passes generalizing s with
  | zero => exact initial
  | succ passes induction =>
      have after := preserved s initial
      rw [run]
      cases passed : onePass setup s with
      | ended result end_ =>
          rw [passed] at after
          exact after
      | again next =>
          rw [passed] at after
          exact induction after

/-- `Reaches setup n s t` says that `n` passes, after each of which there is another, lead from the
state `s` to the state `t`. -/
inductive Reaches (setup : Setup) : Nat → State → State → Prop
  | start {s : State} : Reaches setup 0 s s
  | pass {n : Nat} {s next t : State} (again : onePass setup s = .again next)
      (later : Reaches setup n next t) : Reaches setup (n + 1) s t

theorem Reaches.run_add {n : Nat} {t : State} (reaches : Reaches setup n s t) (more : Nat) :
    run setup (n + more) s = run setup more t := by
  induction reaches with
  | start => rw [Nat.zero_add]
  | pass again later induction =>
      rw [Nat.succ_add, run, again]
      exact induction

theorem Reaches.run_eq {n passes : Nat} {t after : State}
    {result : Except PatchError CompileResult} (reaches : Reaches setup n s t)
    (within : n < passes) (ending : onePass setup t = .ended result after) :
    run setup passes s = { result := some result, state := after } := by
  obtain ⟨more, rfl⟩ := Nat.exists_eq_add_of_lt within
  rw [Nat.add_assoc, reaches.run_add, run, ending]

theorem exists_reaches_of_run {passes : Nat} {result : Except PatchError CompileResult}
    (ended : (run setup passes s).result = some result) :
    ∃ n t, n < passes ∧ Reaches setup n s t ∧
      onePass setup t = .ended result (run setup passes s).state := by
  induction passes generalizing s with
  | zero => cases ended
  | succ passes induction =>
      rw [run] at ended ⊢
      cases passed : onePass setup s with
      | again next =>
          simp only [passed] at ended ⊢
          obtain ⟨n, t, within, reaches, ending⟩ := induction ended
          exact ⟨n + 1, t, Nat.succ_lt_succ within, .pass passed reaches, ending⟩
      | ended answered after =>
          simp only [passed, Option.some.injEq] at ended ⊢
          exact ⟨0, s, Nat.succ_pos passes, .start, ended ▸ passed⟩

theorem exists_onePass_of_run {passes : Nat} {result : Except PatchError CompileResult}
    (ended : (run setup passes s).result = some result) :
    ∃ t, onePass setup t = .ended result (run setup passes s).state := by
  obtain ⟨_, t, _, _, ending⟩ := exists_reaches_of_run ended
  exact ⟨t, ending⟩

/-- The state `s` was reached by a compile of its buffer that reported no errors. -/
structure Clean (setup : Setup) (result : CompileResult) (s : State) : Prop where
  latest : ∃ earlier, s.earlier = s.buffer.text :: earlier ∧
    setup.compiler.answer earlier s.buffer.text = .ok result
  faultless : result.errors = []
  trace : ∃ before, s.trace = before ++
    [.compiled s.buffer.text (.ok result) setup.compiler.announces,
      .passClean s.report.passes]

theorem Clean.answer {result : CompileResult} (clean : Clean setup result s) :
    ∃ earlier, setup.compiler.answer earlier s.buffer.text = .ok result := by
  obtain ⟨earlier, _, answer⟩ := clean.latest
  exact ⟨earlier, answer⟩

/-- A run that succeeds ends with a clean compile. -/
theorem clean_of_run {passes : Nat} {result : CompileResult}
    (succeeded : (run setup passes s).result = some (.ok result)) :
    Clean setup result (run setup passes s).state := by
  obtain ⟨t, ending⟩ := exists_onePass_of_run succeeded
  have passed := passes_onePass setup t
  rw [ending] at passed
  generalize (run setup passes s).state = after at passed ⊢
  cases passed with
  | clean answer faultless =>
      refine ⟨⟨t.earlier, rfl, answer⟩, faultless, t.trace, ?_⟩
      rw [State.trace_note, State.trace_recompiled answer, List.append_assoc]
      rfl

end BindingRepair.Patching
