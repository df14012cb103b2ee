import BindingRepair.Build.Output
import BindingRepair.Proofs.List.Traversal
import BindingRepair.Proofs.Text.Line
import BindingRepair.Proofs.Text.Run

namespace BindingRepair

open Text

namespace BuildReport

variable {r : BuildReport} {d : Diagnostic} {e : LongNumeral}

def numerals (r : BuildReport) : List (List Char) :=
  [r.line, r.column]

def Readable (r : BuildReport) : Prop :=
  ∀ digits ∈ r.numerals, digits.length ≤ digitLimit

/-- The first of the numbers that has too many digits. -/
def long? (r : BuildReport) : Option LongNumeral :=
  (r.numerals.find? (digitLimit < ·.length)).map fun digits => ⟨digits.length⟩

theorem long?_eq_none_iff : r.long? = none ↔ r.Readable := by
  simp [long?, Readable]

theorem diagnostic_eq (r : BuildReport) : r.diagnostic = r.long?.elim (.ok {
      code := r.code
      severity := r.severity
      message := r.message
      line := (digitsValue r.line : Int) - 1
      column := (digitsValue r.column : Int) - 1 }) .error := by
  rw [diagnostic, long?, numerals, readDigits, readDigits]
  by_cases line : digitLimit < r.line.length
  · simp [line, bind, Except.bind]
  · by_cases column : digitLimit < r.column.length
    · simp [line, column, bind, Except.bind]
    · simp [line, column, bind, Except.bind, pure, Except.pure]

theorem diagnostic_eq_ok_iff : r.diagnostic = .ok d ↔ r.Readable ∧ d = {
      code := r.code
      severity := r.severity
      message := r.message
      line := (digitsValue r.line : Int) - 1
      column := (digitsValue r.column : Int) - 1 } := by
  rw [diagnostic_eq, ← long?_eq_none_iff]
  cases r.long? with
  | none => simp [eq_comm]
  | some e => simp

theorem diagnostic_eq_error_iff : r.diagnostic = .error e ↔ r.long? = some e := by
  rw [diagnostic_eq]
  cases r.long? with
  | none => simp
  | some e => simp

end BuildReport

namespace Build

variable {sourceName output : String} {diagnostics : List Diagnostic} {d : Diagnostic}

theorem messagesIn_append_lineFeed (sourceName first second : String) :
    messagesIn sourceName (first ++ "\n" ++ second) =
      messagesIn sourceName first ++ messagesIn sourceName second := by
  obtain ⟨seam, shape, whole⟩ := lines_append_lineFeed first.toList second.toList
  have silent : seam.filterMap BuildMessage.ofLine? = [] := by
    rcases shape with rfl | rfl
    · rfl
    · rfl
  simp only [messagesIn, toList_append_lineFeed, whole, List.filterMap_append, silent,
    List.append_nil, List.filter_append]

theorem messagesIn_received (sourceName stream : String) :
    messagesIn sourceName (received stream) = messagesIn sourceName stream := by
  rw [messagesIn, received, String.toList_ofList, lines_normalizeNewlines]
  rfl

theorem mem_messagesIn {m : BuildMessage} : m ∈ messagesIn sourceName output ↔
    ∃ line ∈ lines output.toList, BuildMessage.ofLine? line = some m ∧
      m.fileName = sourceName.toList := by
  simp only [messagesIn, List.mem_filter, List.mem_filterMap, decide_eq_true_eq]
  constructor
  · rintro ⟨⟨line, member, read⟩, file⟩
    exact ⟨line, member, read, file⟩
  · rintro ⟨line, member, read, file⟩
    exact ⟨⟨line, member, read⟩, file⟩

/-- The numbers in the messages of an output about a file, as they are written. -/
def numeralsIn (sourceName output : String) : List (List Char) :=
  (messagesIn sourceName output).flatMap fun m => m.numerals

theorem diagnosticsIn_eq_ok_iff : diagnosticsIn sourceName output = .ok diagnostics ↔
    ∃ all, (messagesIn sourceName output).mapM (·.diagnostic) = .ok all ∧
      diagnostics = all.eraseDups := by
  rw [diagnosticsIn]
  cases (messagesIn sourceName output).mapM (·.diagnostic) with
  | error e => simp [bind, Except.bind]
  | ok all => simp [bind, Except.bind, pure, Except.pure, eq_comm]

theorem mem_diagnosticsIn (read : diagnosticsIn sourceName output = .ok diagnostics) :
    d ∈ diagnostics ↔ ∃ m ∈ messagesIn sourceName output, m.diagnostic = .ok d := by
  obtain ⟨all, passed, rfl⟩ := diagnosticsIn_eq_ok_iff.mp read
  rw [List.mem_eraseDups, Traversal.mem_of_mapM_eq_ok passed]

theorem exists_diagnostic_of_mem {m : BuildMessage}
    (read : diagnosticsIn sourceName output = .ok diagnostics)
    (member : m ∈ messagesIn sourceName output) : ∃ d ∈ diagnostics, m.diagnostic = .ok d := by
  obtain ⟨all, passed, rfl⟩ := diagnosticsIn_eq_ok_iff.mp read
  simpa using Traversal.exists_of_mapM_eq_ok passed member

theorem diagnosticsIn_eq_error_iff {e : LongNumeral} :
    diagnosticsIn sourceName output = .error e ↔
      ∃ digits, (numeralsIn sourceName output).find? (digitLimit < ·.length) = some digits ∧
        e = ⟨digits.length⟩ := by
  have stopped : diagnosticsIn sourceName output = .error e ↔
      (messagesIn sourceName output).mapM (·.diagnostic) = .error e := by
    rw [diagnosticsIn]
    cases (messagesIn sourceName output).mapM (·.diagnostic) <;>
      simp [bind, Except.bind, pure, Except.pure]
  have step (m : BuildMessage) (e : LongNumeral) := m.diagnostic_eq_error_iff (e := e)
  have told : (messagesIn sourceName output).findSome? (·.long?) =
      ((numeralsIn sourceName output).find? (digitLimit < ·.length)).map (⟨·.length⟩) := by
    rw [numeralsIn, List.find?_flatMap, List.map_findSome?]
    rfl
  rw [stopped, Traversal.mapM_eq_error_iff step, told, Option.map_eq_some_iff]
  simp only [eq_comm]

/-- Whether no number in the messages of an output about a file has too many digits. -/
def Readable (sourceName output : String) : Prop :=
  ∀ digits ∈ numeralsIn sourceName output, digits.length ≤ digitLimit

theorem find?_numeralsIn_eq_none_iff :
    (numeralsIn sourceName output).find? (digitLimit < ·.length) = none ↔
      Readable sourceName output := by
  simp [Readable]

theorem readable_of_diagnosticsIn (read : diagnosticsIn sourceName output = .ok diagnostics) :
    Readable sourceName output := by
  rw [← find?_numeralsIn_eq_none_iff]
  refine Option.eq_none_iff_forall_ne_some.mpr fun digits long => ?_
  cases read.symm.trans (diagnosticsIn_eq_error_iff.mpr ⟨digits, long, rfl⟩)

end Build

end BindingRepair
