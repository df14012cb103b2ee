import BindingRepair.Proofs.Build.Diagnostics
import BindingRepair.Proofs.List.EraseDups

namespace BindingRepair

namespace Build

theorem nodup_diagnosticsIn {sourceName output : String} {diagnostics : List Diagnostic}
    (read : diagnosticsIn sourceName output = .ok diagnostics) : diagnostics.Nodup := by
  obtain ⟨all, _, rfl⟩ := diagnosticsIn_eq_ok_iff.mp read
  exact EraseDups.nodup all

theorem diagnosticsIn_append_lineFeed (sourceName first second : String) :
    diagnosticsIn sourceName (first ++ "\n" ++ second) = do
      let earlier ← diagnosticsIn sourceName first
      let later ← diagnosticsIn sourceName second
      return (earlier ++ later).eraseDups := by
  simp only [diagnosticsIn, messagesIn_append_lineFeed, List.mapM_append, bind_assoc, pure_bind,
    EraseDups.eraseDups_append]

theorem diagnosticsIn_received (sourceName stream : String) :
    diagnosticsIn sourceName (received stream) = diagnosticsIn sourceName stream := by
  rw [diagnosticsIn, messagesIn_received]
  rfl

/-- What is found in two outputs with a line feed between them is what is found in each, without the
repeats; and in no output is anything found twice. So a build has the diagnostics of its first
stream, and behind them those of its second stream that the first does not tell. If a number has too
many digits in the one or the other, then in both together. -/
theorem diagnostics_of_streams :
    (∀ sourceName first second : String,
      diagnosticsIn sourceName (first ++ "\n" ++ second) = do
        let earlier ← diagnosticsIn sourceName first
        let later ← diagnosticsIn sourceName second
        return (earlier ++ later).eraseDups) ∧
    (∀ (sourceName output : String) (diagnostics : List Diagnostic),
      diagnosticsIn sourceName output = .ok diagnostics → diagnostics.Nodup) ∧
    ∀ b : Build, b.diagnostics = do
      let first ← diagnosticsIn sourceName b.stdout
      let second ← diagnosticsIn sourceName b.stderr
      return first ++ second.filter fun d => !first.contains d := by
  refine ⟨diagnosticsIn_append_lineFeed, fun _ _ _ => nodup_diagnosticsIn, fun b => ?_⟩
  rw [diagnostics, output, diagnosticsIn_append_lineFeed, diagnosticsIn_received,
    diagnosticsIn_received]
  cases early : diagnosticsIn sourceName b.stdout with
  | error e => rfl
  | ok first =>
      cases late : diagnosticsIn sourceName b.stderr with
      | error e => rfl
      | ok second =>
          have joined : (first ++ second).eraseDups =
              first ++ second.filter fun d => !first.contains d := by
            rw [EraseDups.append_eq, EraseDups.eq_self (nodup_diagnosticsIn early),
              EraseDups.eq_self (nodup_diagnosticsIn late)]
          exact congrArg Except.ok joined

def severedBuild : Build where
  stdout := "Interop.cs(1,1): error CS1008: a\r"
  stderr := "Interop.cs(1,1): error CS1008: a\nInterop.cs(2,1): error CS1001: b"

theorem diagnostics_of_streams_severed :
    severedBuild.diagnostics = .ok [{ code := "CS1008", message := "a" },
      { code := "CS1001", message := "b", line := 1 }] ∧
    [({ code := "CS1008", message := "a" } : Diagnostic),
      { code := "CS1001", message := "b", line := 1 }].Nodup := by
  obtain ⟨_, distinct, streams⟩ := diagnostics_of_streams
  have read : severedBuild.diagnostics = .ok [{ code := "CS1008", message := "a" },
      { code := "CS1001", message := "b", line := 1 }] := by
    have first : diagnosticsIn sourceName severedBuild.stdout =
        .ok [{ code := "CS1008", message := "a" }] := by decide +kernel
    have second : diagnosticsIn sourceName severedBuild.stderr =
        .ok [{ code := "CS1008", message := "a" },
          { code := "CS1001", message := "b", line := 1 }] := by decide +kernel
    rw [streams, first, second]
    rfl
  exact ⟨read, distinct sourceName severedBuild.output _ read⟩

end Build

end BindingRepair
