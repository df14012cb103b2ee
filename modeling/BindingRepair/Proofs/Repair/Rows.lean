import BindingRepair.Proofs.Correlation
import BindingRepair.Proofs.Native.Comment
import BindingRepair.Proofs.Repair
import BindingRepair.Proofs.Resource.Manifest
import BindingRepair.Proofs.StructLayout

/-!
Rows during a repair. Whoever is given a whole text counts its rows by line feeds, and the buffer
counts lines. Both agree for every text that a repair gives to the compiler, and for the one that it
returns: whatever brings lines into the buffer, brings in none that holds a character that ends
lines.
-/

namespace BindingRepair

theorem DocBlock.unbroken_line (level : Nat) {text : String}
    (unbroken : Text.Unbroken text.toList) : Text.Unbroken (line level text).toList := by
  have blanks : Text.Unbroken (indentation level).toList := by
    rw [indentation, String.toList_ofList]
    intro c member
    rw [List.eq_of_mem_replicate member]
    decide
  rw [line, String.toList_append, String.toList_append]
  exact (blanks.append (by decide)).append unbroken

theorem DocBlock.unbroken_lines (level : Nat) {fragments : List String}
    (unbroken : ∀ text ∈ fragments, Text.Unbroken text.toList) :
    ∀ line ∈ lines level fragments, Text.Unbroken line.toList := by
  intro line member
  rcases List.mem_append.mp member with opened | closed
  · rcases List.mem_cons.mp opened with rfl | inside
    · exact unbroken_line level (by decide)
    · obtain ⟨text, present, rfl⟩ := List.mem_map.mp inside
      exact unbroken_line level (unbroken text present)
  · rw [List.mem_singleton.mp closed]
    exact unbroken_line level (by decide)

def NativeDeclaration.Commented (n : NativeDeclaration) : Prop :=
  ∃ comment, n.fragments = Comment.fragments? comment

namespace Documentation

theorem State.unbroken_insert? {s after : State} {c : Correlation}
    (inserted : s.insert? c = some after) (unbroken : s.buffer.Unbroken)
    (commented : c.native.Commented) : after.buffer.Unbroken := by
  obtain ⟨now, drift, rfl⟩ := exists_of_insert? inserted
  refine unbroken.insert _ (DocBlock.unbroken_lines c.level fun text member => ?_)
  obtain ⟨comment, said⟩ := commented
  cases read : Comment.fragments? comment with
  | none =>
      rw [said, read] at member
      cases member
  | some fragments =>
      rw [said, read] at member
      exact Comment.unbroken_of_mem_fragments? read text member

theorem unbroken_run {b : SourceBuffer} {natives : List NativeDeclaration}
    (unbroken : b.Unbroken) (commented : ∀ n ∈ natives, n.Commented) (container : String)
    (tree : SyntaxTree) : (run container tree natives b).2.buffer.Unbroken := by
  refine run_preserves (·.buffer.Unbroken) unbroken (fun c member s after inserted whole => ?_)
    fun s whole => whole
  have native := (Correlation.native_mem_of_mem_all member).1
  exact State.unbroken_insert? inserted whole (commented c.native native)

end Documentation

/-- A reader that takes documentation from comments only, and gives nothing to the compiler. -/
structure HeaderReader.ReadsComments (headers : HeaderReader) : Prop where
  commented : ∀ header natives events, headers.read header = (.ok natives, events) →
    ∀ n ∈ natives, n.Commented
  silent : ∀ header, compiles (headers.read header).2 = []

theorem HeaderReader.readsComments_constant {natives : List NativeDeclaration}
    (commented : ∀ n ∈ natives, n.Commented) : (constant (.ok natives)).ReadsComments where
  commented := by
    intro _ _ _ read
    cases read
    exact commented
  silent _ := rfl

theorem Cursor.commented_of_native? {header : PathName} {c : Cursor} {n : NativeDeclaration}
    (listed : c.native? header = some n) : n.Commented := by
  unfold native? at listed
  split at listed
  · cases listed
  · repeat' split at listed
    all_goals cases listed
    exact ⟨c.comment, rfl⟩

theorem HeaderUnit.commented_of_natives {u : HeaderUnit} {header : PathName}
    {natives : List NativeDeclaration} (read : u.natives header = .ok natives) :
    ∀ n ∈ natives, n.Commented := by
  unfold HeaderUnit.natives at read
  split at read
  · cases read
  · cases read
    intro n member
    obtain ⟨c, _, listed⟩ := List.mem_filterMap.mp member
    exact Cursor.commented_of_native? listed

theorem HeaderReader.readsComments_ofUnits (unit? : PathName → Option HeaderUnit) :
    (ofUnits unit?).ReadsComments where
  commented := by
    intro header natives events read
    simp only [ofUnits] at read
    split at read
    · cases read
    · next unit found =>
        split at read
        · next answered =>
            cases read
            exact HeaderUnit.commented_of_natives answered
        · cases read
  silent := by
    intro header
    simp only [ofUnits]
    split
    · rfl
    · split
      · rfl
      · rfl

namespace RepairSetup

variable {setup : RepairSetup} {templates : TemplateSet} {tree : SyntaxTree}
  {s : Patching.State} {b : SourceBuffer}

/-- The buffer with the documentation of a header, if none of it fails. -/
def documented? (setup : RepairSetup) (header : PathName) (tree : SyntaxTree)
    (b : SourceBuffer) : Option SourceBuffer :=
  match setup.headers.read header with
  | (.error _, _) => none
  | (.ok natives, _) =>
    match Documentation.run setup.container tree natives b with
    | (.error _, _) => none
    | (.ok (), d) => some d.buffer

/-- The buffers of a repair: those that are given to the compiler, in order, and the one that is
returned, if one is. -/
structure Buffers where
  compiled : List SourceBuffer := []
  returned : Option SourceBuffer := none

def completeBuffers (setup : RepairSetup) (templates : TemplateSet) (tree : SyntaxTree)
    (s : Patching.State) : Buffers :=
  let laid := (templates.structLayouts.apply tree s.buffer).buffer
  { compiled := [laid]
    returned :=
      match setup.compiler.answer s.earlier laid.text with
      | .error _ => none
      | .ok result => setup.documented? templates.header result.tree laid }

def buffers (setup : RepairSetup) (passes : Nat) (file source : String) : Buffers :=
  match setup.resources.load with
  | .error _ => {}
  | .ok templates =>
    let patched := setup.patch templates passes file source
    let compiled := Patching.compiledBuffers (setup.patching file templates) passes
      ((start file source).note (.progress "Fixing compile errors..."))
    match patched.result with
    | some (.ok result) =>
      let completed := setup.completeBuffers templates result.tree patched.state
      { completed with compiled := compiled ++ completed.compiled }
    | _ => { compiled }

/-- The text that a repair returns, if it returns one. -/
def returnedText? (outcome : RepairOutcome) : Option String :=
  match outcome.result with
  | some (.ok text) => some text
  | _ => none

theorem returnedText?_eq_some_iff {outcome : RepairOutcome} {text : String} :
    returnedText? outcome = some text ↔ outcome.result = some (.ok text) := by
  unfold returnedText?
  split
  · next returned same => simp [same]
  · next other => simpa using other text

theorem returnedText?_document (header : PathName) :
    returnedText? (setup.document header tree s) =
      (setup.documented? header tree s.buffer).map (·.fileText) := by
  cases read : setup.headers.read header with
  | mk answer events =>
      cases answer with
      | error e =>
          simp only [document, documented?, read]
          rfl
      | ok natives =>
          cases ran : Documentation.run setup.container tree natives s.buffer with
          | mk result d =>
              simp only [document, documented?, read, Patching.State.buffer_note, ran]
              cases result with
              | error e => rfl
              | ok done => rfl

theorem complete_buffers (comments : setup.headers.ReadsComments) (templates : TemplateSet)
    (tree : SyntaxTree) (s : Patching.State) :
    (compiles (setup.complete templates tree s).trace).map (·.1) =
        (compiles s.trace).map (·.1) ++
          (setup.completeBuffers templates tree s).compiled.map (·.text) ∧
      returnedText? (setup.complete templates tree s) =
        (setup.completeBuffers templates tree s).returned.map (·.fileText) := by
  have silent := StructLayouts.compiles_apply templates.structLayouts tree s.buffer
  simp only [complete, completeBuffers, Patching.State.compile]
  cases answer : setup.compiler.answer s.earlier
      (templates.structLayouts.apply tree s.buffer).buffer.text with
  | error failure =>
      simp only
      refine ⟨?_, rfl⟩
      simp [silent]
  | ok result =>
      simp only
      refine ⟨?_, returnedText?_document _⟩
      rw [(document_keeps (comments.silent _)).1]
      simp [silent]

theorem repair_buffers (standard : setup.registry = .standard)
    (comments : setup.headers.ReadsComments) (passes : Nat) (file source : String) :
    (compiles (setup.repair passes file source).trace).map (·.1) =
        (setup.buffers passes file source).compiled.map (·.text) ∧
      returnedText? (setup.repair passes file source) =
        (setup.buffers passes file source).returned.map (·.fileText) := by
  cases loaded : setup.resources.load with
  | error e =>
      simp only [repair, buffers, loaded]
      exact ⟨rfl, rfl⟩
  | ok templates =>
      have started : Patching.run (setup.patching file templates) passes
          ((start file source).note (.progress "Fixing compile errors...")) =
          setup.patch templates passes file source := rfl
      have patching : (setup.patching file templates).registry = .standard := standard
      have compiled := Patching.compiles_run patching passes
        ((start file source).note (.progress "Fixing compile errors..."))
      rw [started] at compiled
      rw [repair_of_loaded loaded]
      simp only [buffers, loaded]
      cases ended : (setup.patch templates passes file source).result with
      | none => exact ⟨compiled, rfl⟩
      | some answered =>
          cases answered with
          | error e => exact ⟨compiled, rfl⟩
          | ok result =>
              simp only
              obtain ⟨texts, returned⟩ := complete_buffers comments templates result.tree
                (setup.patch templates passes file source).state
              refine ⟨?_, returned⟩
              rw [texts, compiled]
              simp [start]

theorem unbroken_documented? (comments : setup.headers.ReadsComments) {header : PathName}
    {d : SourceBuffer} (unbroken : b.Unbroken)
    (documented : setup.documented? header tree b = some d) : d.Unbroken := by
  unfold documented? at documented
  split at documented
  · cases documented
  · next natives events read =>
      have inserted := Documentation.unbroken_run unbroken (comments.commented _ _ _ read)
        setup.container tree
      split at documented
      · cases documented
      · next ran =>
          rw [ran] at inserted
          rw [← Option.some.inj documented]
          exact inserted

structure Buffers.Unbroken (bs : Buffers) : Prop where
  compiled : ∀ b ∈ bs.compiled, b.Unbroken
  returned : ∀ b, bs.returned = some b → b.Unbroken

theorem unbroken_completeBuffers (comments : setup.headers.ReadsComments)
    (templates : TemplateSet) (unbrokenTemplates : templates.Unbroken) (tree : SyntaxTree)
    (unbroken : s.buffer.Unbroken) : (setup.completeBuffers templates tree s).Unbroken := by
  have laid := StructLayouts.unbroken_apply tree unbroken unbrokenTemplates.layouts
  constructor
  · intro b member
    rw [List.mem_singleton.mp member]
    exact laid
  · intro b returned
    simp only [completeBuffers] at returned
    split at returned
    · cases returned
    · exact unbroken_documented? comments laid returned

theorem unbroken_buffers (standard : setup.registry = .standard)
    (comments : setup.headers.ReadsComments) (passes : Nat) (file source : String) :
    (setup.buffers passes file source).Unbroken := by
  unfold buffers
  cases loaded : setup.resources.load with
  | error e => exact ⟨nofun, nofun⟩
  | ok templates =>
      have unbroken := Resources.unbroken_of_load loaded
      have patching : (setup.patching file templates).registry = .standard := standard
      have preserved := Patching.unbroken_onePass patching unbroken.definitions
      have initial : ((start file source).note
          (.progress "Fixing compile errors...")).buffer.Unbroken :=
        SourceBuffer.unbroken_ofText source
      have compiled := Patching.forall_mem_compiledBuffers preserved passes initial
      have patched : (setup.patch templates passes file source).state.buffer.Unbroken :=
        Patching.run_preserves preserved passes initial
      simp only
      split
      · next result ended =>
          have completed := unbroken_completeBuffers comments templates unbroken result.tree patched
          refine ⟨fun b member => ?_, completed.returned⟩
          rcases List.mem_append.mp member with earlier | last
          · exact compiled b earlier
          · exact completed.compiled b last
      · exact ⟨compiled, nofun⟩

/-- At every compile of a repair and when it returns, no line of the buffer holds a character that
ends lines, and so the rows of the text are the lines of the buffer, if there are any. -/
theorem repair_rows (setup : RepairSetup) (standard : setup.registry = .standard)
    (comments : setup.headers.ReadsComments) (passes : Nat) (file source : String) :
    (compiles (setup.repair passes file source).trace).map (·.1) =
        (setup.buffers passes file source).compiled.map (·.text) ∧
      (∀ text, (setup.repair passes file source).result = some (.ok text) ↔
        ∃ b, (setup.buffers passes file source).returned = some b ∧ b.fileText = text) ∧
      ∀ b, b ∈ (setup.buffers passes file source).compiled ∨
          (setup.buffers passes file source).returned = some b →
        (∀ line ∈ b.lines, ∀ c ∈ line.toList, Text.isLineBreak c = false) ∧
          (b.lines ≠ [] → Text.rows b.text = b.lines) := by
  obtain ⟨texts, returned⟩ := repair_buffers standard comments passes file source
  have unbroken := unbroken_buffers standard comments passes file source
  refine ⟨texts, fun text => ?_, fun b seen => ?_⟩
  · rw [← returnedText?_eq_some_iff, returned, Option.map_eq_some_iff]
  · have whole : b.Unbroken := by
      rcases seen with compiled | last
      · exact unbroken.compiled b compiled
      · exact unbroken.returned b last
    exact ⟨whole, fun nonempty => Text.rows_joinLines nonempty whole⟩

def declaredTree : SyntaxTree where
  declarations := [
    { kind := .enumType, name := "E", startLine := 0, endLine := 0 },
    { kind := .structType, name := "S", startLine := 1, endLine := 1 }]

def brokenLayout : RepairSetup where
  compiler := .ofDiagnose (fun _ => declaredTree) integralBase
  registry := .standard
  resources := {
    files := {
      files := [(["S.cx"], Text.encodeUtf8 "[Layout]\x0bstruct S;"), (["memflow.h"], [])] }
    directory := {}
    manifest := {
      attributeTemplates := []
      structTemplates := .ofList [("S", "S.cx")] } }
  headers := .constant (.ok [{
    name := "E"
    kind := .enumType
    fragments := Comment.fragments? (some "/** Says\u2028 * this. */") }])
  container := "Methods"

def brokenSource : String := "enum E : nuint;\u0085struct S;\r\n"

def documentedLayout : String :=
  "    /// <summary>\n    /// Says this.\n    /// </summary>\nenum E : uint;\n[Layout]\nstruct S;\n"

theorem repair_rows_brokenLayout :
    ∃ b, (brokenLayout.buffers 2 "Interop.cs" brokenSource).returned = some b ∧
      b.fileText = documentedLayout ∧
      (∀ line ∈ b.lines, ∀ c ∈ line.toList, Text.isLineBreak c = false) ∧
      (b.lines ≠ [] → Text.rows b.text = b.lines) := by
  have comments : brokenLayout.headers.ReadsComments :=
    HeaderReader.readsComments_constant fun n member =>
      ⟨some "/** Says\u2028 * this. */", by rw [List.mem_singleton.mp member]⟩
  obtain ⟨_, returned, rows⟩ := repair_rows brokenLayout rfl comments 2 "Interop.cs" brokenSource
  obtain ⟨b, found, text⟩ := (returned documentedLayout).mp (by decide +kernel)
  exact ⟨b, found, text, rows b (.inr found)⟩

end RepairSetup

end BindingRepair
