import BindingRepair.Native.Declaration
import BindingRepair.Rule
import BindingRepair.RunReport

namespace BindingRepair

inductive Event
  | progress (message : String)
  /-- A text was given to the compiler; `announced` says whether the log notes the answer. -/
  | compiled (text : String) (answer : Except CompilerFailure CompileResult) (announced : Bool)
  | passClean (pass : Nat)
  | passFaulty (pass : Nat) (errors : Nat)
  | consulted (diagnostic : Diagnostic) (line : String) (context : PassContext)
  | skipped (pass : Nat) (diagnostic : Diagnostic) (reason : SkipReason)
  | patched (pass : Nat) (diagnostic : Diagnostic)
  | restarted (pass : Nat) (diagnostic : Diagnostic)
  | structMissing (name : String)
  | structReplaced (name : String) (first last : Int)
  | containerMissing (name : String)
  | documented (kind : NativeKind) (target : String) (lines : Nat)
  | documentedTotal (blocks : Nat)
  | headerRead (declarations : Nat) (file : String)
  | completed (file : String)
  | reported (report : RunReport)

namespace Event

def compiledText? : Event → Option String
  | compiled text _ _ => some text
  | _ => none

def progress? : Event → Option String
  | progress message => some message
  | _ => none

end Event

end BindingRepair
