import BindingRepair.Text.LineBreak
import BindingRepair.Text.Numeral
import BindingRepair.Text.Quoted
import BindingRepair.Text.Search
import BindingRepair.Text.Word
import BindingRepair.Text.CaseFold
import BindingRepair.SourceBuffer
import BindingRepair.DriftIndex
import BindingRepair.Diagnostic
import BindingRepair.SyntaxNode.Outline
import BindingRepair.RuleRegistry
import BindingRepair.Patching
import BindingRepair.Log.OfEvent
import BindingRepair.Log.Timestamp
import BindingRepair.Source.Reader
import BindingRepair.StructLayout
import BindingRepair.Native.Comment
import BindingRepair.Documentation
import BindingRepair.Build.Output
import BindingRepair.Build.Project
import BindingRepair.KnownFaults
import BindingRepair.Resource.Manifest
import BindingRepair.Resource.Packaged
import BindingRepair.Native.Token
import BindingRepair.Native.Preprocessed
import BindingRepair.Native.Reader
import BindingRepair.Repair
import BindingRepair.CommandLine.Run
import BindingRepair.Main
import BindingRepair.Proofs.Text.Rewriting
import BindingRepair.Proofs.Text.Row
import BindingRepair.Proofs.SourceBuffer
import BindingRepair.Proofs.LineEdit
import BindingRepair.Proofs.RuleRegistry
import BindingRepair.Proofs.Patching.Mending
import BindingRepair.Proofs.Patching.Pass
import BindingRepair.Proofs.Patching.Freshness
import BindingRepair.Proofs.Patching.Termination
import BindingRepair.Proofs.DriftIndex
import BindingRepair.Proofs.Documentation
import BindingRepair.Proofs.Repair
import BindingRepair.Proofs.Patching.Progress
import BindingRepair.Proofs.Patching.Idempotence
import BindingRepair.Proofs.Correlation
import BindingRepair.Proofs.Native.Comment
import BindingRepair.Proofs.Repair.Rows
import BindingRepair.Proofs.Build.Output
import BindingRepair.Proofs.Patching.Account
import BindingRepair.Proofs.Patching.Pointwise
import BindingRepair.Proofs.Patching.Reordering
import BindingRepair.Proofs.FileTree
import BindingRepair.Proofs.Patching.Failure
import BindingRepair.Proofs.Repair.Writing
import BindingRepair.Proofs.StructLayout.Nesting
import BindingRepair.Proofs.Correlation.Reordering
import BindingRepair.Proofs.Rule.Balance
import BindingRepair.Proofs.Text.Replacement
import BindingRepair.Proofs.LineEdit.Size
import BindingRepair.Proofs.Rule.Exhaustion
import BindingRepair.Proofs.MarkerAttribute
import BindingRepair.Proofs.LineEdit.Words
import BindingRepair.Proofs.LineEdit.VtableCast
import BindingRepair.Proofs.LineEdit.Insertion
import BindingRepair.Proofs.Build.Message
import BindingRepair.Proofs.Build.Streams
import BindingRepair.Proofs.SourceBuffer.FileText
import BindingRepair.Proofs.Native.Comment.Writing
import BindingRepair.Proofs.SyntaxNode.Outline
import BindingRepair.Proofs.RuleRegistry.Coverage
import BindingRepair.Proofs.Settings
import BindingRepair.Proofs.Native.Comment.Fragment
import BindingRepair.Proofs.SyntaxNode.MemberName
