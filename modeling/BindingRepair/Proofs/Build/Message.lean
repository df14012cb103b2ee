import BindingRepair.Proofs.Build.Diagnostics
import BindingRepair.Proofs.Text.Replacement

namespace BindingRepair

open Text

namespace BuildMessage

/-! What each step of the reader makes of what is printed for it. -/

variable {s rest name : List Char} {c : Char} {n line column : Nat} {severity : Severity}

theorem digits?_append {digits : List Char} (nonempty : digits ≠ [])
    (inside : ∀ c ∈ digits, c.isDigit = true) (stops : Stops isDigit rest) :
    digits? (digits ++ rest) = some (digits, rest) := by
  obtain ⟨first, others, rfl⟩ := List.exists_cons_of_ne_nil nonempty
  rw [digits?, span_append (fun c member => isDigit_of_isDigit (inside c member)) stops]

theorem digits?_toDigits (n : Nat) (stops : Stops isDigit rest) :
    digits? (Nat.toDigits 10 n ++ rest) = some (Nat.toDigits 10 n, rest) :=
  digits?_append Nat.toDigits_ne_nil (fun _ => isDigit_of_mem_toDigits) stops

theorem nextDigits?_toDigits (n : Nat) (stops : Stops isDigit rest) :
    nextDigits? (',' :: (Nat.toDigits 10 n ++ rest)) = some (Nat.toDigits 10 n, rest) := by
  rw [nextDigits?, after?_singleton, Option.bind_some, digits?_toDigits n stops]

theorem place?_toDigits (line column : Nat) (rest : List Char) :
    place? (Nat.toDigits 10 line ++ ',' :: (Nat.toDigits 10 column ++ ')' :: rest)) =
      some ((Nat.toDigits 10 line, Nat.toDigits 10 column), rest) := by
  have first (s : List Char) :
      digits? (Nat.toDigits 10 line ++ ',' :: s) = some (Nat.toDigits 10 line, ',' :: s) :=
    digits?_toDigits line (stops_cons (by decide) s)
  have second : nextDigits? (',' :: (Nat.toDigits 10 column ++ ')' :: rest)) =
      some (Nat.toDigits 10 column, ')' :: rest) :=
    nextDigits?_toDigits column (stops_cons (by decide) rest)
  have single : placeEnd? (')' :: rest) = none := rfl
  simp [place?, first, second, single, after?_singleton]

theorem colon?_colon (stops : Stops isBlank rest) : colon? (':' :: ' ' :: rest) = some rest := by
  have colon : Stops isBlank (':' :: ' ' :: rest) := stops_cons (by decide) _
  have space : trimStart (' ' :: rest) = rest := by
    rw [trimStart, List.dropWhile_cons_of_pos (by decide), stops.dropWhile_eq]
  rw [colon?, trimStart, colon.dropWhile_eq, after?_singleton, Option.map_some, space]

theorem severity?_label (printed : severity ∈ severities) :
    severity? (severity.label.toList ++ rest) = some (severity, rest) := by
  simp only [severities, List.mem_cons, List.not_mem_nil, or_false] at printed
  rcases printed with rfl | rfl | rfl
  · rfl
  · rfl
  · rfl

theorem gap?_space (stops : Stops isBlank rest) : gap? (' ' :: rest) = some rest := by
  have blank : isBlank ' ' = true := by decide
  rw [gap?, if_pos blank, trimStart, stops.dropWhile_eq]

/-- A code: capital letters from `A` to `Z`, and then digits from `0` to `9`. -/
def IsCode (s : List Char) : Prop :=
  ∃ letters digits, s = letters ++ digits ∧
    (letters ≠ [] ∧ ∀ c ∈ letters, isCapital c = true) ∧
    digits ≠ [] ∧ ∀ c ∈ digits, c.isDigit = true

theorem isCapital_of_isDigit (digit : c.isDigit = true) : isCapital c = false := by
  have bounds : 48 ≤ c.toNat ∧ c.toNat ≤ 57 := Char.isDigit_iff_toNat.mp digit
  refine Bool.eq_false_iff.mpr fun capital => ?_
  have above : 65 ≤ c.toNat := of_decide_eq_true (Bool.and_eq_true_iff.mp capital).1
  omega

theorem code?_of_isCode (code : IsCode s) (rest : List Char) :
    code? (s ++ ':' :: rest) = some (s, ':' :: rest) := by
  obtain ⟨letters, digits, rfl, ⟨lettersNonempty, capitals⟩, digitsNonempty, ascii⟩ := code
  obtain ⟨letter, lettersRest, rfl⟩ := List.exists_cons_of_ne_nil lettersNonempty
  have behind : Stops isCapital (digits ++ ':' :: rest) := by
    obtain ⟨digit, digitsRest, rfl⟩ := List.exists_cons_of_ne_nil digitsNonempty
    exact stops_cons (isCapital_of_isDigit (ascii digit List.mem_cons_self)) _
  have colon : Stops isDigit (':' :: rest) := stops_cons (by decide) rest
  rw [code?, List.append_assoc, span_append capitals behind]
  simp only [digits?_append digitsNonempty ascii colon, Option.map_some]

/-- What a message can say: some text, without an opening bracket, and with no white space around
it. -/
structure IsRemark (s : List Char) : Prop where
  nonempty : s ≠ []
  unbroken : Unbroken s
  plain : '[' ∉ s
  begins : Stops isBlank s
  ends : Stops isBlank s.reverse

theorem isProject_of_not_mem (closed : ']' ∉ name) :
    isProject (' ' :: '[' :: (name ++ [']'])) = true := by
  have behind : Stops isBlank ('[' :: (name ++ [']'])) := stops_cons (by decide) _
  have kept : (name ++ [']']).dropWhile (fun c => decide (c ≠ ']')) = [']'] := by
    have inside : ∀ c ∈ name, decide (c ≠ ']') = true :=
      fun c member => decide_eq_true fun same => closed (same ▸ member)
    rw [List.dropWhile_append_of_pos inside]
    rfl
  rw [isProject, gap?_space behind]
  simp only [kept]
  rfl

theorem head?_trimStart_of_isProject (project : isProject (c :: s) = true) :
    isBlank c = true ∧ (trimStart s).head? = some '[' := by
  rw [isProject, gap?] at project
  cases blank : isBlank c with
  | false => simp [blank] at project
  | true =>
      rw [if_pos blank] at project
      split at project
      · next opened => exact ⟨rfl, by rw [Option.some.inj opened]; rfl⟩
      · cases project

theorem say_append (plain : '[' ∉ s) (ends : Stops isBlank s.reverse) (closed : ']' ∉ name) :
    say (s ++ ' ' :: '[' :: (name ++ [']'])) = s := by
  induction s with
  | nil => simp [say, isProject_of_not_mem closed]
  | cons c s induction =>
      have endsLater : Stops isBlank s.reverse := by
        rw [List.reverse_cons] at ends
        exact ends.of_append
      have later : say (s ++ ' ' :: '[' :: (name ++ [']'])) = s :=
        induction (fun member => plain (List.mem_cons_of_mem c member)) endsLater
      have filled : (c :: (s ++ ' ' :: '[' :: (name ++ [']']))).all isBlank = false := by
        have bracket : isBlank '[' = false := by decide
        simp [bracket]
      have unfinished : isProject (c :: (s ++ ' ' :: '[' :: (name ++ [']']))) = false := by
        refine Bool.eq_false_iff.mpr fun project => ?_
        obtain ⟨blank, opened⟩ := head?_trimStart_of_isProject project
        have more : s ≠ [] := by
          rintro rfl
          exact absurd (ends c rfl) (by simp [blank])
        obtain ⟨d, rest, member, whole⟩ := exists_trimStart_append more endsLater
          (' ' :: '[' :: (name ++ [']']))
        rw [whole] at opened
        exact plain (Option.some.inj opened ▸ List.mem_cons_of_mem c member)
      rw [List.cons_append, say, filled, unfinished, Bool.or_false, if_neg Bool.false_ne_true,
        later]

/-! Whole messages. -/

theorem isBlank_of_isCapital (capital : isCapital c = true) : isBlank c = false := by
  obtain ⟨above, below⟩ := Bool.and_eq_true_iff.mp capital
  have bounds : 65 ≤ c.toNat ∧ c.toNat ≤ 90 := ⟨of_decide_eq_true above, of_decide_eq_true below⟩
  exact isBlank_of_bounds (by omega) (by omega)

theorem IsCode.begins (code : IsCode s) (rest : List Char) : Stops isBlank (s ++ rest) := by
  obtain ⟨letters, digits, rfl, ⟨nonempty, capitals⟩, _⟩ := code
  obtain ⟨letter, others, rfl⟩ := List.exists_cons_of_ne_nil nonempty
  exact stops_cons (isBlank_of_isCapital (capitals letter List.mem_cons_self)) _

theorem IsCode.unbroken (code : IsCode s) : Unbroken s := by
  obtain ⟨letters, digits, rfl, ⟨_, capitals⟩, _, ascii⟩ := code
  refine Unbroken.append (fun c member => ?_) fun c member => ?_
  · exact isLineBreak_of_not_blank (isBlank_of_isCapital (capitals c member))
  · exact isLineBreak_of_not_blank (isBlank_of_isDigit (ascii c member))

theorem unbroken_label (printed : severity ∈ severities) : Unbroken severity.label.toList := by
  simp only [severities, List.mem_cons, List.not_mem_nil, or_false] at printed
  rcases printed with rfl | rfl | rfl
  · decide
  · decide
  · decide

theorem begins_label (printed : severity ∈ severities) (rest : List Char) :
    Stops isBlank (severity.label.toList ++ rest) := by
  simp only [severities, List.mem_cons, List.not_mem_nil, or_false] at printed
  rcases printed with rfl | rfl | rfl
  · exact stops_cons (by decide) _
  · exact stops_cons (by decide) _
  · exact stops_cons (by decide) _

theorem report?_printed {code remark : List Char} (line column : Nat)
    (printed : severity ∈ severities) (coded : IsCode code) (said : IsRemark remark)
    (closed : ']' ∉ name) :
    report? (Nat.toDigits 10 line ++ ',' :: (Nat.toDigits 10 column ++ ')' :: ':' :: ' ' ::
        (severity.label.toList ++ ' ' :: (code ++ ':' :: ' ' ::
          (remark ++ ' ' :: '[' :: (name ++ [']'])))))) =
      some {
        line := Nat.toDigits 10 line
        column := Nat.toDigits 10 column
        severity
        code := String.ofList code
        message := String.ofList remark } := by
  simp only [report?, place?_toDigits, colon?_colon (begins_label printed _),
    severity?_label printed, gap?_space (coded.begins _), code?_of_isCode coded,
    colon?_colon (said.begins.append said.nonempty), say_append said.plain said.ends closed,
    Option.bind_eq_bind, Option.bind_some]
  rfl

theorem split?_append {path : List Char} {report : BuildReport} (nonempty : path ≠ [])
    (plain : '(' ∉ path) (reported : report? rest = some report) :
    split? (path ++ '(' :: rest) = some { report with path } := by
  induction path with
  | nil => exact absurd rfl nonempty
  | cons c path induction =>
      cases path with
      | nil => simp [split?, after?_singleton, reported]
      | cons next others =>
          have later := induction (by simp) fun member => plain (List.mem_cons_of_mem c member)
          have longer : next ≠ '(' := fun same => plain (by simp [same])
          have missed : after? ['('] (next :: (others ++ '(' :: rest)) = none := by
            simp [after?, Ne.symm longer]
          rw [List.cons_append, split?, later]
          simp [missed]

def ofDiagnostic (path : List Char) (d : Diagnostic) : BuildMessage where
  path
  line := Nat.toDigits 10 (d.line + 1).toNat
  column := Nat.toDigits 10 (d.column + 1).toNat
  severity := d.severity
  code := d.code
  message := d.message

end BuildMessage

/-- A message about the source, as a build prints it: with the project that was built. -/
structure SourceMessage where
  path : List Char
  diagnostic : Diagnostic
  project : String
  about : (BuildMessage.ofDiagnostic path diagnostic).fileName = Build.sourceName.toList
  pathBegins : Stops isBlank path
  pathPlain : '(' ∉ path
  pathUnbroken : Unbroken path
  lineNonneg : 0 ≤ diagnostic.line
  columnNonneg : 0 ≤ diagnostic.column
  severe : diagnostic.severity ∈ BuildMessage.severities
  coded : BuildMessage.IsCode diagnostic.code.toList
  said : BuildMessage.IsRemark diagnostic.message.toList
  projectClosed : ']' ∉ project.toList
  projectUnbroken : Unbroken project.toList

namespace SourceMessage

def text (m : SourceMessage) : String :=
  String.ofList m.path ++ "(" ++ decimal (m.diagnostic.line + 1) ++ "," ++
    decimal (m.diagnostic.column + 1) ++ "): " ++ m.diagnostic.severity.label ++ " " ++
    m.diagnostic.code ++ ": " ++ m.diagnostic.message ++ " [" ++ m.project ++ "]"

def printed (m : SourceMessage) : List Char :=
  Nat.toDigits 10 (m.diagnostic.line + 1).toNat ++ ',' ::
    (Nat.toDigits 10 (m.diagnostic.column + 1).toNat ++ ')' :: ':' :: ' ' ::
      (m.diagnostic.severity.label.toList ++ ' ' :: (m.diagnostic.code.toList ++ ':' :: ' ' ::
        (m.diagnostic.message.toList ++ ' ' :: '[' :: (m.project.toList ++ [']'])))))

theorem toList_text (m : SourceMessage) : m.text.toList = m.path ++ '(' :: m.printed := by
  have line : 0 ≤ m.diagnostic.line + 1 := Int.add_nonneg m.lineNonneg (by decide)
  have column : 0 ≤ m.diagnostic.column + 1 := Int.add_nonneg m.columnNonneg (by decide)
  have literals : "(".toList = ['('] ∧ ",".toList = [','] ∧ "): ".toList = [')', ':', ' '] ∧
      " ".toList = [' '] ∧ ": ".toList = [':', ' '] ∧ " [".toList = [' ', '['] ∧
      "]".toList = [']'] := by decide
  obtain ⟨opening, comma, closing, space, colon, bracket, last⟩ := literals
  unfold text
  simp only [String.toList_append, String.toList_ofList, toList_decimal line,
    toList_decimal column, opening, comma, closing, space, colon, bracket, last, printed,
    List.append_assoc, List.cons_append, List.nil_append]

def written (m : SourceMessage) : BuildMessage :=
  .ofDiagnostic m.path m.diagnostic

theorem report?_printed (m : SourceMessage) :
    BuildMessage.report? m.printed = some m.written.toBuildReport := by
  rw [printed, BuildMessage.report?_printed _ _ m.severe m.coded m.said m.projectClosed,
    String.ofList_toList, String.ofList_toList]
  rfl

/-- Whether the numbers of the place have no more digits than are read. -/
def Within (m : SourceMessage) : Prop :=
  m.diagnostic.line + 1 < 10 ^ digitLimit ∧ m.diagnostic.column + 1 < 10 ^ digitLimit

theorem readable_written_iff (m : SourceMessage) : m.written.Readable ↔ m.Within := by
  have short {place : Int} (nonneg : 0 ≤ place) :
      (Nat.toDigits 10 (place + 1).toNat).length ≤ digitLimit ↔ place + 1 < 10 ^ digitLimit := by
    rw [length_toDigits_le_limit, Int.toNat_of_nonneg (by omega)]
  rw [Within, ← short m.lineNonneg, ← short m.columnNonneg]
  simp [BuildReport.Readable, BuildReport.numerals, written, BuildMessage.ofDiagnostic]

theorem diagnostic_written_eq_ok_iff (m : SourceMessage) (d : Diagnostic) :
    m.written.diagnostic = .ok d ↔ m.Within ∧ d = m.diagnostic := by
  have back {place : Int} (nonneg : 0 ≤ place) :
      (digitsValue (Nat.toDigits 10 (place + 1).toNat) : Int) - 1 = place := by
    rw [digitsValue_toDigits]
    omega
  rw [BuildReport.diagnostic_eq_ok_iff, m.readable_written_iff]
  simp [written, BuildMessage.ofDiagnostic, back m.lineNonneg, back m.columnNonneg]

theorem path_ne_nil (m : SourceMessage) : m.path ≠ [] := by
  intro empty
  have unnamed : BuildMessage.fileName (.ofDiagnostic m.path m.diagnostic) = [] := by
    rw [BuildMessage.fileName, BuildMessage.ofDiagnostic, empty]
    rfl
  exact absurd (unnamed.symm.trans m.about) (by decide)

theorem ofLine?_text (m : SourceMessage) :
    BuildMessage.ofLine? m.text.toList = some m.written := by
  have begins : Stops isBlank m.text.toList := by
    rw [m.toList_text]
    exact m.pathBegins.append m.path_ne_nil
  have ends : Stops isBlank m.text.toList.reverse := by
    unfold text
    rw [String.toList_append, List.reverse_append]
    exact stops_cons (by decide) _
  rw [BuildMessage.ofLine?, trim_eq_self begins ends, m.toList_text]
  exact BuildMessage.split?_append m.path_ne_nil m.pathPlain m.report?_printed

theorem unbroken_text (m : SourceMessage) : Unbroken m.text.toList := by
  have line : Unbroken (decimal (m.diagnostic.line + 1)).toList :=
    unbroken_decimal (Int.add_nonneg m.lineNonneg (by decide))
  have column : Unbroken (decimal (m.diagnostic.column + 1)).toList :=
    unbroken_decimal (Int.add_nonneg m.columnNonneg (by decide))
  have path : Unbroken (String.ofList m.path).toList := by
    rw [String.toList_ofList]
    exact m.pathUnbroken
  have place := (((path.append (by decide : Unbroken "(".toList)).append line).append
    (by decide : Unbroken ",".toList)).append column
  have verdict := (((place.append (by decide : Unbroken "): ".toList)).append
    (BuildMessage.unbroken_label m.severe)).append (by decide : Unbroken " ".toList)).append
      m.coded.unbroken
  have said := (verdict.append (by decide : Unbroken ": ".toList)).append m.said.unbroken
  unfold text
  simpa only [String.toList_append] using
    ((said.append (by decide : Unbroken " [".toList)).append m.projectUnbroken).append
      (by decide : Unbroken "]".toList)

end SourceMessage

namespace Build

theorem messagesIn_text (m : SourceMessage) : messagesIn sourceName m.text = [m.written] := by
  have nonempty : m.text.toList ≠ [] := by
    rw [m.toList_text]
    simp
  rw [messagesIn, lines_of_unbroken m.unbroken_text nonempty]
  have about : m.written.fileName = sourceName.toList := m.about
  simp [m.ofLine?_text, about]

/-- A part of an output: a message about the source, or text without one. -/
inductive OutputPart
  | message (m : SourceMessage)
  | other (text : String) (silent : ∀ line ∈ lines text.toList, ∀ m,
      BuildMessage.ofLine? line = some m → m.fileName ≠ sourceName.toList)

namespace OutputPart

def text : OutputPart → String
  | message m => m.text
  | other text _ => text

def message? : OutputPart → Option SourceMessage
  | message m => some m
  | other _ _ => none

def diagnostic? (part : OutputPart) : Option Diagnostic :=
  part.message?.map (·.diagnostic)

theorem messagesIn_text (part : OutputPart) :
    messagesIn sourceName part.text = part.message?.toList.map (·.written) := by
  cases part with
  | message m => exact Build.messagesIn_text m
  | other text silent =>
      refine List.eq_nil_iff_forall_not_mem.mpr fun m member => ?_
      obtain ⟨line, present, read, about⟩ := mem_messagesIn.mp member
      exact silent line present m read about

end OutputPart

theorem messagesIn_joinLines (parts : List OutputPart) :
    messagesIn sourceName (joinLines (parts.map (·.text))) =
      (parts.filterMap (·.message?)).map (·.written) := by
  induction parts with
  | nil => rfl
  | cons part rest induction =>
      have head : (part :: rest).filterMap (·.message?) =
          part.message?.toList ++ rest.filterMap (·.message?) := by
        rw [List.filterMap_cons]
        cases part.message? <;> rfl
      rw [head, List.map_append, ← part.messagesIn_text, ← induction]
      cases rest with
      | nil =>
          have silent : messagesIn sourceName (joinLines []) = [] := rfl
          rw [List.map_nil, silent, List.append_nil, List.map_singleton, joinLines,
            String.intercalate_singleton]
      | cons next others =>
          rw [← messagesIn_append_lineFeed]
          simp only [joinLines, List.map_cons, String.intercalate_cons_cons]

theorem diagnosticsIn_joinLines_iff {parts : List OutputPart} {diagnostics : List Diagnostic} :
    diagnosticsIn sourceName (joinLines (parts.map (·.text))) = .ok diagnostics ↔
      (∀ m ∈ parts.filterMap (·.message?), m.Within) ∧
      diagnostics = (parts.filterMap (·.diagnostic?)).eraseDups := by
  have each (ms : List SourceMessage) (all : List Diagnostic) :
      (ms.map (·.written)).mapM (·.diagnostic) = .ok all ↔
        (∀ m ∈ ms, m.Within) ∧ all = ms.map (·.diagnostic) := by
    rw [List.mapM_map]
    exact Traversal.mapM_eq_ok_iff_forall SourceMessage.diagnostic_written_eq_ok_iff
  have said : parts.filterMap (·.diagnostic?) =
      (parts.filterMap (·.message?)).map (·.diagnostic) := by
    rw [List.map_filterMap]
    rfl
  rw [diagnosticsIn_eq_ok_iff, messagesIn_joinLines, said]
  constructor
  · rintro ⟨all, passed, rfl⟩
    obtain ⟨within, rfl⟩ := (each _ all).mp passed
    exact ⟨within, rfl⟩
  · rintro ⟨within, rfl⟩
    exact ⟨_, (each _ _).mpr ⟨within, rfl⟩, rfl⟩

/-- An output is read if no line or column in its messages has too many digits. Then the diagnostics
in it are those of its messages, each once, in the order in which they were first printed. -/
theorem diagnosticsIn_joinLines (parts : List OutputPart) (diagnostics : List Diagnostic) :
    diagnosticsIn sourceName (joinLines (parts.map (·.text))) = .ok diagnostics ↔
      (∀ d ∈ parts.filterMap (·.diagnostic?),
        d.line + 1 < 10 ^ digitLimit ∧ d.column + 1 < 10 ^ digitLimit) ∧
      diagnostics = (parts.filterMap (·.diagnostic?)).eraseDups := by
  rw [diagnosticsIn_joinLines_iff]
  refine and_congr_left fun _ => ?_
  constructor
  · intro within d member
    obtain ⟨part, present, said⟩ := List.mem_filterMap.mp member
    obtain ⟨m, message, rfl⟩ := Option.map_eq_some_iff.mp said
    exact within m (List.mem_filterMap.mpr ⟨part, present, message⟩)
  · intro within m member
    obtain ⟨part, present, message⟩ := List.mem_filterMap.mp member
    refine within m.diagnostic (List.mem_filterMap.mpr ⟨part, present, ?_⟩)
    rw [OutputPart.diagnostic?, message, Option.map_some]

def typeExpected (line : Nat) (severity : Severity)
    (printed : severity ∈ BuildMessage.severities) : SourceMessage where
  path := "C:\\w\\Interop.cs".toList
  diagnostic := { code := "CS1008", severity, message := "Type byte, or long expected", line }
  project := "C:\\w\\[x.csproj"
  about := rfl
  pathBegins := by decide
  pathPlain := by decide
  pathUnbroken := by decide
  lineNonneg := Int.natCast_nonneg line
  columnNonneg := Int.le_refl 0
  severe := printed
  coded :=
    have code : BuildMessage.IsCode "CS1008".toList :=
      ⟨"CS".toList, "1008".toList, by decide, ⟨by decide, List.all_eq_true.mp (by decide)⟩,
        by decide, List.all_eq_true.mp (by decide)⟩
    code
  said :=
    have remark : BuildMessage.IsRemark "Type byte, or long expected".toList :=
      ⟨by decide, by decide, by decide, by decide, by decide⟩
    remark
  projectClosed := by decide
  projectUnbroken := by decide

def repeatedMessage : List OutputPart :=
  [.message (typeExpected 9 .error (by decide)),
    .other "Interop.cs: error (1,1)" (by
      intro line member m read
      obtain rfl := List.mem_singleton.mp member
      cases read),
    .message (typeExpected 9 .error (by decide))]

theorem diagnosticsIn_joinLines_repeated :
    diagnosticsIn sourceName
        "C:\\w\\Interop.cs(10,1): error CS1008: Type byte, or long expected [C:\\w\\[x.csproj]
Interop.cs: error (1,1)
C:\\w\\Interop.cs(10,1): error CS1008: Type byte, or long expected [C:\\w\\[x.csproj]" =
      .ok [{ code := "CS1008", message := "Type byte, or long expected", line := 9 }] := by
  have output : joinLines (repeatedMessage.map (·.text)) =
      "C:\\w\\Interop.cs(10,1): error CS1008: Type byte, or long expected [C:\\w\\[x.csproj]
Interop.cs: error (1,1)
C:\\w\\Interop.cs(10,1): error CS1008: Type byte, or long expected [C:\\w\\[x.csproj]" := by
    decide +kernel
  have said : repeatedMessage.filterMap (·.diagnostic?) =
      List.replicate 2 { code := "CS1008", message := "Type byte, or long expected", line := 9 } :=
    rfl
  have short : ((10 : Nat) : Int) < 10 ^ digitLimit ∧ ((1 : Nat) : Int) < 10 ^ digitLimit :=
    ⟨length_toDigits_le_limit.mp (by decide), length_toDigits_le_limit.mp (by decide)⟩
  rw [← output]
  refine (diagnosticsIn_joinLines repeatedMessage _).mpr ⟨fun d member => ?_, rfl⟩
  rw [said] at member
  rw [List.eq_of_mem_replicate member]
  exact short

theorem natCast_pred_pow (n : Nat) : ((10 ^ n - 1 : Nat) : Int) + 1 = 10 ^ n := by
  have positive : 0 < 10 ^ n := Nat.pow_pos (by decide)
  rw [← Int.natCast_succ, Nat.succ_eq_add_one, Nat.sub_add_cancel positive, Int.natCast_pow]
  rfl

theorem not_within_typeExpected {severity : Severity}
    (printed : severity ∈ BuildMessage.severities) :
    ¬ (typeExpected (10 ^ digitLimit - 1) severity printed).Within := by
  rintro ⟨line, _⟩
  exact absurd (natCast_pred_pow digitLimit) (Int.ne_of_lt line)

theorem not_forall_diagnosticsIn_joinLines :
    ¬ ∀ parts : List OutputPart, diagnosticsIn sourceName (joinLines (parts.map (·.text))) =
      .ok (parts.filterMap (·.diagnostic?)).eraseDups := by
  intro always
  have read := always [.message (typeExpected (10 ^ digitLimit - 1) .error (by decide))]
  obtain ⟨within, _⟩ := diagnosticsIn_joinLines_iff.mp read
  exact not_within_typeExpected _ (within _ List.mem_cons_self)

end Build

end BindingRepair
