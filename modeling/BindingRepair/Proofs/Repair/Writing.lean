import BindingRepair.CommandLine.Run
import BindingRepair.Proofs.FileTree
import BindingRepair.Proofs.Patching.Failure
import BindingRepair.Proofs.Repair

/-!
When a file is written. Each step of a repair can fail, and a repair fails exactly when one of the
steps that it comes to does. Only when none has failed is there a text, and only then is the file
written, once, with that text.
-/

namespace BindingRepair

namespace RepairSetup

variable {setup : RepairSetup} {templates : TemplateSet} {header path : PathName}
  {tree : SyntaxTree} {s : Patching.State} {passes : Nat} {file source text : String}
  {files : FileTree} {e : RepairError}

inductive DocumentFails (setup : RepairSetup) (header : PathName) (tree : SyntaxTree)
    (b : SourceBuffer) : RepairError → Prop
  | header {e : HeaderError} (failed : (setup.headers.read header).1 = .error e) :
      DocumentFails setup header tree b (.header e)
  | stray {natives : List NativeDeclaration} {e : StrayTarget}
      (read : (setup.headers.read header).1 = .ok natives)
      (failed : (Documentation.run setup.container tree natives b).1 = .error e) :
      DocumentFails setup header tree b (.stray e)

/-- The failures behind patching, which has led to the state `s`. Structs are laid out without fail.
-/
inductive CompleteFails (setup : RepairSetup) (templates : TemplateSet) (tree : SyntaxTree)
    (s : Patching.State) : RepairError → Prop
  | compile {failure : CompilerFailure}
      (failed : setup.compiler.answer s.earlier
        (templates.structLayouts.apply tree s.buffer).buffer.text = .error failure) :
      CompleteFails setup templates tree s (.compiler failure)
  | document {last : CompileResult} {e : RepairError}
      (compiled : setup.compiler.answer s.earlier
        (templates.structLayouts.apply tree s.buffer).buffer.text = .ok last)
      (fails : DocumentFails setup templates.header last.tree
        (templates.structLayouts.apply tree s.buffer).buffer e) :
      CompleteFails setup templates tree s e

/-- The failures of the repair of a source, in at most so many passes. -/
inductive RepairFails (setup : RepairSetup) (passes : Nat) (file source : String) :
    RepairError → Prop
  | resource {e : ResourceError} (failed : setup.resources.load = .error e) :
      RepairFails setup passes file source (.resource e)
  | patch {templates : TemplateSet} {n : Nat} {t : Patching.State} {e : PatchError}
      (loaded : setup.resources.load = .ok templates) (within : n < passes)
      (reaches : Patching.Reaches (setup.patching file templates) n
        ((start file source).note (.progress "Fixing compile errors...")) t)
      (fails : Patching.PassFails (setup.patching file templates) t e) :
      RepairFails setup passes file source (.patch e)
  | complete {templates : TemplateSet} {clean : CompileResult} {e : RepairError}
      (loaded : setup.resources.load = .ok templates)
      (patched : (setup.patch templates passes file source).result = some (.ok clean))
      (fails : CompleteFails setup templates clean.tree
        (setup.patch templates passes file source).state e) :
      RepairFails setup passes file source e

/-- The failures of the repair of a file. -/
inductive Fails (setup : RepairSetup) (passes : Nat) (path : PathName) (files : FileTree) :
    RepairError → Prop
  | missing (absent : files.readText? path = none) :
      Fails setup passes path files (.targetMissing path)
  | undecodable {e : Text.OctetError} (failed : files.readText? path = some (.error e)) :
      Fails setup passes path files (.targetUndecodable e)
  | repair {source : String} {e : RepairError} (read : files.readText? path = some (.ok source))
      (fails : RepairFails setup passes path.text source e) : Fails setup passes path files e

theorem document_eq_error_iff : (setup.document header tree s).result = some (.error e) ↔
    DocumentFails setup header tree s.buffer e := by
  constructor
  · intro failed
    cases read : setup.headers.read header with
    | mk answer events =>
        cases answer with
        | error e =>
            simp only [document, read] at failed
            cases failed
            exact .header (congrArg Prod.fst read)
        | ok natives =>
            cases ran : Documentation.run setup.container tree natives s.buffer with
            | mk result d =>
                simp only [document, read, Patching.State.buffer_note, ran] at failed
                cases result with
                | error e =>
                    cases failed
                    exact .stray (congrArg Prod.fst read) (congrArg Prod.fst ran)
                | ok done => cases failed
  · intro fails
    cases read : setup.headers.read header with
    | mk answer events =>
        cases fails with
        | header failed =>
            cases (congrArg Prod.fst read).symm.trans failed
            simp only [document, read]
            rfl
        | @stray natives e given failed =>
            cases (congrArg Prod.fst read).symm.trans given
            cases ran : Documentation.run setup.container tree natives s.buffer with
            | mk result d =>
                cases (congrArg Prod.fst ran).symm.trans failed
                simp only [document, read, Patching.State.buffer_note, ran]
                rfl

theorem complete_eq_error_iff : (setup.complete templates tree s).result = some (.error e) ↔
    CompleteFails setup templates tree s e := by
  constructor
  · intro failed
    cases answer : setup.compiler.answer s.earlier
        (templates.structLayouts.apply tree s.buffer).buffer.text with
    | error failure =>
        simp only [complete, Patching.State.compile, answer] at failed
        cases failed
        exact .compile answer
    | ok last =>
        simp only [complete, Patching.State.compile, answer] at failed
        exact .document answer (document_eq_error_iff.mp failed)
  · intro fails
    cases fails with
    | compile answer =>
        simp only [complete, Patching.State.compile, answer]
        rfl
    | document answer fails =>
        simp only [complete, Patching.State.compile, answer]
        exact document_eq_error_iff.mpr fails

theorem repair_eq_error_iff : (setup.repair passes file source).result = some (.error e) ↔
    RepairFails setup passes file source e := by
  constructor
  · intro failed
    cases loaded : setup.resources.load with
    | error e =>
        simp only [repair, loaded] at failed
        cases failed
        exact .resource loaded
    | ok templates =>
        rw [repair_of_loaded loaded] at failed
        cases ended : (setup.patch templates passes file source).result with
        | none =>
            rw [ended] at failed
            cases failed
        | some answered =>
            rw [ended] at failed
            cases answered with
            | error e =>
                cases failed
                obtain ⟨n, t, within, reaches, fails⟩ := Patching.run_eq_error_iff.mp ended
                exact .patch loaded within reaches fails
            | ok clean => exact .complete loaded ended (complete_eq_error_iff.mp failed)
  · intro fails
    cases fails with
    | resource failed =>
        simp only [repair, failed]
        rfl
    | patch loaded within reaches fails =>
        have ended : (setup.patch _ passes file source).result = some (.error _) :=
          Patching.run_eq_error_iff.mpr ⟨_, _, within, reaches, fails⟩
        rw [repair_of_loaded loaded, ended]
        rfl
    | complete loaded patched fails =>
        rw [repair_of_loaded loaded, patched]
        exact complete_eq_error_iff.mpr fails

theorem repairFile_of_read (setup : RepairSetup) (passes : Nat)
    (read : files.readText? path = some (.ok source)) :
    (setup.repairFile passes path files).1.result =
        (setup.repair passes path.text source).result ∧
      (setup.repairFile passes path files).2 =
        match (setup.repair passes path.text source).result with
        | some (.ok text) => files.writeText path text
        | _ => files := by
  simp only [repairFile, read]
  cases ended : (setup.repair passes path.text source).result with
  | none => exact ⟨rfl, rfl⟩
  | some answered =>
      cases answered with
      | error e => exact ⟨rfl, rfl⟩
      | ok text => exact ⟨rfl, rfl⟩

theorem repairFile_eq_error_iff :
    (setup.repairFile passes path files).1.result = some (.error e) ↔
      Fails setup passes path files e := by
  constructor
  · intro failed
    cases read : files.readText? path with
    | none =>
        simp only [repairFile, read] at failed
        cases failed
        exact .missing read
    | some answer =>
        cases answer with
        | error e =>
            simp only [repairFile, read] at failed
            cases failed
            exact .undecodable read
        | ok source =>
            rw [(repairFile_of_read setup passes read).1] at failed
            exact .repair read (repair_eq_error_iff.mp failed)
  · intro fails
    cases fails with
    | missing absent =>
        simp only [repairFile, absent]
        rfl
    | undecodable failed =>
        simp only [repairFile, failed]
        rfl
    | repair read fails =>
        rw [(repairFile_of_read setup passes read).1]
        exact repair_eq_error_iff.mpr fails

theorem files_eq_of_unreturned
    (unreturned : ∀ text, (setup.repairFile passes path files).1.result ≠ some (.ok text)) :
    (setup.repairFile passes path files).2 = files := by
  cases read : files.readText? path with
  | none => simp only [repairFile, read]
  | some answer =>
      cases answer with
      | error e => simp only [repairFile, read]
      | ok source =>
          obtain ⟨result, after⟩ := repairFile_of_read setup passes read
          rw [result] at unreturned
          rw [after]
          split
          · next text returned => exact absurd returned (unreturned text)
          · rfl

theorem written_of_returned
    (returned : (setup.repairFile passes path files).1.result = some (.ok text)) :
    ∃ source, files.readText? path = some (.ok source) ∧
      (setup.repair passes path.text source).result = some (.ok text) ∧
      (setup.repairFile passes path files).2 = files.writeText path text ∧
      files.Written path text (setup.repairFile passes path files).2 := by
  cases read : files.readText? path with
  | none =>
      simp only [repairFile, read] at returned
      cases returned
  | some answer =>
      cases answer with
      | error e =>
          simp only [repairFile, read] at returned
          cases returned
      | ok source =>
          obtain ⟨result, after⟩ := repairFile_of_read setup passes read
          rw [result] at returned
          rw [returned] at after
          obtain ⟨octets, present⟩ := FileTree.read?_of_readText? read
          exact ⟨source, rfl, returned, after, after ▸ FileTree.written_writeText present text⟩

end RepairSetup

namespace CommandLine

variable {env : Environment} {passes : Nat} {threshold : Int} {path : PathName}
  {arguments : List String}

theorem files_repair (env : Environment) (passes : Nat) (threshold : Int) (path : PathName) :
    (repair env passes threshold path).files =
      ((repairSetup env).repairFile passes path env.files).2 := by
  simp only [repair]
  split
  · rfl
  · rfl
  · split
    · rfl
    · rfl

theorem exit_repair_eq_zero_iff : (repair env passes threshold path).exit = .ok 0 ↔
    ∃ text, ((repairSetup env).repairFile passes path env.files).1.result = some (.ok text) := by
  simp only [repair]
  split
  · next unfinished => simp [unfinished]
  · next text returned => simp [returned]
  · next e failed =>
      split
      · simp [failed]
      · simp [failed]

theorem run_of_exit_zero (success : (run env passes arguments).exit = .ok 0) :
    wish arguments = .help ∨
      ∃ path source text, target env.settings arguments = some path ∧
        env.files.readText? path = some (.ok source) ∧
        ((repairSetup env).repair passes path.text source).result = some (.ok text) ∧
        (run env passes arguments).files = env.files.writeText path text ∧
        env.files.Written path text (run env passes arguments).files := by
  unfold run at success ⊢
  cases wished : wish arguments with
  | help => exact .inl rfl
  | refused why =>
      simp only [wished] at success
      cases success
  | repair operand =>
      simp only [wished] at success ⊢
      cases level : Log.threshold env.logLevel with
      | error e =>
          simp only [level] at success
          cases success
      | ok threshold =>
          simp only [level] at success ⊢
          obtain ⟨text, returned⟩ := exit_repair_eq_zero_iff.mp success
          obtain ⟨source, read, repaired, written⟩ := RepairSetup.written_of_returned returned
          rw [← files_repair env passes threshold] at written
          exact .inr ⟨_, source, text, by rw [target, wished], read, repaired, written⟩

theorem files_of_exit_ne_zero (failure : (run env passes arguments).exit ≠ .ok 0) :
    (run env passes arguments).files = env.files := by
  unfold run at failure ⊢
  cases wished : wish arguments with
  | help => rfl
  | refused why => rfl
  | repair operand =>
      simp only [wished] at failure ⊢
      cases level : Log.threshold env.logLevel with
      | error e => rfl
      | ok threshold =>
          simp only [level] at failure ⊢
          rw [files_repair]
          apply RepairSetup.files_eq_of_unreturned
          intro text returned
          exact failure (exit_repair_eq_zero_iff.mpr ⟨text, returned⟩)

end CommandLine

/-- A repair writes all or nothing. If it returns a text, the file that it read has been written,
once, with that text, and nothing else has changed; and if not, because one of its steps has failed
or because it has not come to an end within its passes, nothing has changed at all. A run of the
command line that exits with success has written the file, unless it was asked for help, and one that
exits in any other way has written none. -/
theorem write_all_or_nothing :
    (∀ (setup : RepairSetup) (passes : Nat) (path : PathName) (files : FileTree),
      let outcome := (setup.repairFile passes path files).1
      let after := (setup.repairFile passes path files).2
      (∀ text, outcome.result = some (.ok text) →
        ∃ source, files.readText? path = some (.ok source) ∧
          (setup.repair passes path.text source).result = some (.ok text) ∧
          after = files.writeText path text ∧ files.Written path text after) ∧
      (∀ e, setup.Fails passes path files e → outcome.result = some (.error e) ∧ after = files) ∧
      (∀ e, outcome.result = some (.error e) → setup.Fails passes path files e) ∧
      ((∀ text, outcome.result ≠ some (.ok text)) → after = files)) ∧
    ∀ (env : CommandLine.Environment) (passes : Nat) (arguments : List String),
      let ended := CommandLine.run env passes arguments
      (ended.exit = .ok 0 → CommandLine.wish arguments = .help ∨
        ∃ path source text, CommandLine.target env.settings arguments = some path ∧
          env.files.readText? path = some (.ok source) ∧
          ((CommandLine.repairSetup env).repair passes path.text source).result =
            some (.ok text) ∧
          ended.files = env.files.writeText path text ∧
          env.files.Written path text ended.files) ∧
      (ended.exit ≠ .ok 0 → ended.files = env.files) := by
  refine ⟨fun setup passes path files => ⟨?_, ?_, ?_, ?_⟩, fun env passes arguments => ⟨?_, ?_⟩⟩
  · intro text returned
    exact RepairSetup.written_of_returned returned
  · intro e fails
    have failed := RepairSetup.repairFile_eq_error_iff.mpr fails
    refine ⟨failed, RepairSetup.files_eq_of_unreturned ?_⟩
    intro text returned
    cases failed.symm.trans returned
  · intro e failed
    exact RepairSetup.repairFile_eq_error_iff.mp failed
  · exact RepairSetup.files_eq_of_unreturned
  · exact CommandLine.run_of_exit_zero
  · exact CommandLine.files_of_exit_ne_zero

def structFile : PathName :=
  .ofText "Interop.cs"

def structFiles : FileTree where
  files := [(["Interop.cs"], Text.encodeUtf8 "struct S;"),
    (["NativeTypeNameAttribute.cx"], []), (["NativeInheritanceAttribute.cx"], []),
    (["S.cx"], Text.encodeUtf8 "enum E : nuint;"), (["memflow.h"], [])]

def crashingSecond : Compiler where
  answer
    | [], _ => .ok { tree := {}, diagnostics := [{ code := "CS1008" }], success := false }
    | _, _ => .error (.crashed 1 "")

def structEnvironment : CommandLine.Environment where
  settings := {
    interopFile := "Interop.cs"
    resourceDirectory := ""
    normalizedStructs := "S" }
  compiler := .ofDiagnose (fun _ => RepairSetup.structTree) RepairSetup.integralBase
  headers := .constant (.ok [])
  files := structFiles
  moment := ""

def crashingEnvironment : CommandLine.Environment :=
  { structEnvironment with compiler := crashingSecond }

theorem write_all_or_nothing_struct :
    (RepairSetup.nativeLayout.repairFile 1 structFile structFiles).2.read? structFile =
        some (Text.encodeUtf8 "enum E : nuint;") ∧
      (RepairSetup.nativeLayout.repairFile 1 (.ofText "Other.cs") structFiles).2 = structFiles ∧
      (CommandLine.run structEnvironment 1 ["Interop.cs"]).files.read? structFile =
        some (Text.encodeUtf8 "enum E : nuint;") ∧
      (CommandLine.run crashingEnvironment 2 ["S.cx"]).exit = .ok 1 ∧
      (CommandLine.run crashingEnvironment 2 ["S.cx"]).files = structFiles := by
  obtain ⟨repairs, runs⟩ := write_all_or_nothing
  have crashed : (CommandLine.run crashingEnvironment 2 ["S.cx"]).exit = .ok 1 := by
    decide +kernel
  refine ⟨?_, ?_, ?_, crashed, ?_⟩
  · obtain ⟨_, _, _, _, written⟩ :=
      (repairs RepairSetup.nativeLayout 1 structFile structFiles).1 "enum E : nuint;"
        (by decide +kernel)
    exact written.content
  · exact ((repairs _ 1 (.ofText "Other.cs") structFiles).2.1 _ (.missing (by decide +kernel))).2
  · rcases (runs structEnvironment 1 ["Interop.cs"]).1 (by decide +kernel) with
      help | ⟨path, source, text, target, read, repaired, _, written⟩
    · cases help.symm.trans (by decide : _ = CommandLine.Wish.repair (some "Interop.cs"))
    · obtain rfl : structFile = path := by
        exact Option.some.inj ((by decide : some structFile = _).trans target)
      obtain rfl : "struct S;" = source := by
        have only : structFiles.readText? structFile = some (.ok "struct S;") := by decide +kernel
        exact Except.ok.inj (Option.some.inj (only.symm.trans read))
      obtain rfl : "enum E : nuint;" = text := by
        have only : ((CommandLine.repairSetup structEnvironment).repair 1 structFile.text
            "struct S;").result = some (.ok "enum E : nuint;") := by decide +kernel
        exact Except.ok.inj (Option.some.inj (only.symm.trans repaired))
      exact written.content
  · exact (runs crashingEnvironment 2 ["S.cx"]).2 (by rw [crashed]; decide)

end BindingRepair
