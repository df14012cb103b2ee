import BindingRepair.Correlation
import BindingRepair.DocBlock
import BindingRepair.DriftIndex
import BindingRepair.Event
import BindingRepair.SourceBuffer

namespace BindingRepair

structure StrayTarget where
  line : Int
  deriving DecidableEq, Repr

def StrayTarget.message (_ : StrayTarget) : String :=
  "list index out of range"

namespace Documentation

structure State where
  buffer : SourceBuffer
  drift : DriftIndex
  inserted : Nat := 0
  trace : List Event := []

namespace State

def ofBuffer (b : SourceBuffer) : State where
  buffer := b
  drift := .ofSize b.size

def insert? (s : State) (c : Correlation) : Option State := do
  let block := DocBlock.lines c.level (c.native.fragments.getD [])
  let now ← s.drift.current? c.target.startLine
  let drift ← s.drift.shift? c.target.startLine block.length
  return {
    buffer := s.buffer.insert now block
    drift
    inserted := s.inserted + 1
    trace := s.trace ++ [.documented c.native.kind c.target.name block.length] }

/-- Puts the documentation of all correlations in its place, up to one that has none. -/
def insertAll : State → List Correlation → Except StrayTarget Unit × State
  | s, [] => (.ok (), s)
  | s, c :: rest =>
    match s.insert? c with
    | some s => insertAll s rest
    | none => (.error ⟨c.target.startLine⟩, s)

end State

def warnings (container : String) (tree : SyntaxTree) : List Event :=
  match Correlation.container? container tree with
  | some _ => []
  | none => [.containerMissing container]

def run (container : String) (tree : SyntaxTree) (natives : List NativeDeclaration)
    (b : SourceBuffer) : Except StrayTarget Unit × State :=
  let start := { State.ofBuffer b with trace := warnings container tree }
  match start.insertAll (Correlation.all container tree natives) with
  | (.ok (), s) => (.ok (), { s with trace := s.trace ++ [.documentedTotal s.inserted] })
  | (.error e, s) => (.error e, s)

end Documentation

end BindingRepair
