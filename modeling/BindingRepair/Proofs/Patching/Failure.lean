import BindingRepair.Proofs.Patching.Pass

namespace BindingRepair.Patching

variable {setup : Setup} {s : State} {passes : Nat}

inductive PassFails (setup : Setup) (s : State) : PatchError → Prop
  | compile {failure : CompilerFailure}
      (failed : setup.compiler.answer s.earlier s.buffer.text = .error failure) :
      PassFails setup s (.compiler failure)
  | rule {result : CompileResult} {refusal : Refusal} {after : State}
      (mended : Mended setup s result (.error refusal) after) :
      PassFails setup s (.refused refusal)
  | stuck {result : CompileResult} {first : Diagnostic} {others : List Diagnostic} {after : State}
      (mended : Mended setup s result (.ok ()) after) (reported : result.errors = first :: others)
      (unchanged : after.buffer.lines = s.buffer.lines) :
      PassFails setup s (.noProgress setup.file (s.report.passes + 1) result.errors.length first)

theorem passFails_iff {e : PatchError} :
    PassFails setup s e ↔ ∃ after, onePass setup s = .ended (.error e) after := by
  constructor
  · intro fails
    cases fails with
    | compile failed => exact ⟨_, onePass_of_failed failed⟩
    | rule mended =>
        obtain ⟨first, others, reported⟩ := List.exists_cons_of_ne_nil mended.faulty
        exact ⟨_, onePass_of_mended mended reported⟩
    | stuck mended reported unchanged =>
        rw [onePass_of_mended mended reported, Setup.conclude, if_pos unchanged]
        exact ⟨_, rfl⟩
  · rintro ⟨after, ended⟩
    cases answer : setup.compiler.answer s.earlier s.buffer.text with
    | error failure =>
        rw [onePass_of_failed answer] at ended
        cases ended
        exact .compile answer
    | ok result =>
        cases reported : result.errors with
        | nil =>
            rw [onePass_of_faultless answer reported] at ended
            cases ended
        | cons first others =>
            obtain ⟨outcome, last, mended⟩ := exists_mended answer (by simp [reported])
            rw [onePass_of_mended mended reported] at ended
            cases outcome with
            | error refusal =>
                cases ended
                exact .rule mended
            | ok done =>
                rw [Setup.conclude] at ended
                split at ended
                · next unchanged =>
                    cases ended
                    exact .stuck mended reported unchanged
                · cases ended

theorem run_eq_error_iff {e : PatchError} :
    (run setup passes s).result = some (.error e) ↔
      ∃ n t, n < passes ∧ Reaches setup n s t ∧ PassFails setup t e := by
  constructor
  · intro failed
    obtain ⟨n, t, within, reaches, ending⟩ := exists_reaches_of_run failed
    exact ⟨n, t, within, reaches, passFails_iff.mpr ⟨_, ending⟩⟩
  · rintro ⟨n, t, within, reaches, fails⟩
    obtain ⟨after, ending⟩ := passFails_iff.mp fails
    rw [reaches.run_eq within ending]

end BindingRepair.Patching
