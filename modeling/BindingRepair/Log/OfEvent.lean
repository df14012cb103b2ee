import BindingRepair.Event
import BindingRepair.Log.Record

namespace BindingRepair

open Log

private def patchLogger : String := "codegenfix.services.patch_service"

private def structLogger : String := "codegenfix.services.struct_service"

private def commentLogger : String := "codegenfix.services.comment_service"

private def pipelineLogger : String := "codegenfix.services.pipeline_service"

private def passText (pass : Nat) : String :=
  "Pass " ++ Text.decimalNat pass

private def passEntry (pass : Nat) : String × Value :=
  ("pass_no", .number pass)

def Event.record? : Event → Option Record
  | .progress _ => none
  | .compiled text answer announced =>
    match answer with
    | .ok result =>
      if announced then
        some {
          level := debug
          logger := "codegenfix.oracle.dotnet"
          message := "Compiled " ++ Text.decimalNat (text.toList.count '\n' + 1) ++ " lines: " ++
            Text.decimalNat result.diagnostics.length ++ " diagnostics" }
      else none
    | .error _ => none
  | .passClean pass => some {
      logger := patchLogger
      message := passText pass ++ ": no errors left"
      attached := [passEntry pass] }
  | .passFaulty pass errors => some {
      logger := patchLogger
      message := passText pass ++ ": " ++ Text.decimalNat errors ++ " errors"
      attached := [passEntry pass] }
  | .consulted _ _ _ => none
  | .skipped pass d reason => some {
      level := debug
      logger := patchLogger
      message := "Skipped " ++ d.describe ++ ": " ++ reason.text
      attached := [passEntry pass] }
  | .patched pass d => some {
      logger := patchLogger
      message := "Patched " ++ d.describe
      attached := [passEntry pass, ("diagnostic", .text d.code)] }
  | .restarted pass d => some {
      logger := patchLogger
      message := passText pass ++ ": structural insertion for " ++ d.code ++ ", recompiling"
      attached := [passEntry pass, ("diagnostic", .text d.describe)] }
  | .structMissing name => some {
      level := warning
      logger := structLogger
      message := "Struct " ++ name ++ " not found, template not applied" }
  | .structReplaced name first last => some {
      logger := structLogger
      message := "Replaced struct " ++ name ++ " (L" ++ Text.decimal first ++ "-L" ++
        Text.decimal last ++ ") with its template" }
  | .containerMissing name => some {
      level := warning
      logger := commentLogger
      message := "Container class " ++ name ++ " not found, functions left undocumented" }
  | .documented kind target lines => some {
      level := debug
      logger := commentLogger
      message := "Documented " ++ kind.label ++ " " ++ target ++ " (" ++ Text.decimalNat lines ++
        " lines)" }
  | .documentedTotal blocks => some {
      logger := commentLogger
      message := "Inserted " ++ Text.decimalNat blocks ++ " documentation blocks" }
  | .headerRead declarations file => some {
      logger := "codegenfix.header.clang_parser"
      message := "Parsed " ++ Text.decimalNat declarations ++ " native declarations from " ++ file }
  | .completed file => some {
      logger := pipelineLogger
      message := "Run complete"
      attached := [("file", .text file)] }
  | .reported report => some {
      logger := pipelineLogger
      message := "Report: " ++ report.describe
      attached := [("file", .text report.file)] }

end BindingRepair
