import BindingRepair.Event
import BindingRepair.OrderedMap
import BindingRepair.SourceBuffer

/-!
Layouts of structs that are written by hand. Each replaces the struct of its name, whole and word
for word. Structs are replaced from the last to the first, so that those above keep their lines.
-/

namespace BindingRepair

abbrev StructLayouts := OrderedMap (List String)

/-- A struct that is to be replaced, from its first line to its last. -/
structure StructSpan where
  first : Int
  last : Int
  name : String
  lines : List String
  deriving DecidableEq, Repr

namespace StructSpan

/-- The order of spans: by their first lines, then their last ones, then their names. -/
def precedes (a b : StructSpan) : Bool :=
  a.first < b.first ||
    (a.first = b.first && (a.last < b.last || (a.last = b.last && a.name ≤ b.name)))

def find? (tree : SyntaxTree) (layout : String × List String) : Option StructSpan :=
  (tree.find? .structType layout.1).map fun d =>
    { first := d.startLine, last := d.endLine, name := layout.1, lines := layout.2 }

def replace (s : StructSpan) (b : SourceBuffer) : SourceBuffer :=
  b.replaceSpan s.first s.last s.lines

end StructSpan

structure LaidOut where
  buffer : SourceBuffer
  names : List String
  trace : List Event

namespace StructLayouts

def spans (layouts : StructLayouts) (tree : SyntaxTree) : List StructSpan :=
  (layouts.entries.filterMap (StructSpan.find? tree)).mergeSort StructSpan.precedes

def missing (layouts : StructLayouts) (tree : SyntaxTree) : List String :=
  layouts.names.filter fun name => (tree.find? .structType name).isNone

def apply (layouts : StructLayouts) (tree : SyntaxTree) (b : SourceBuffer) : LaidOut :=
  let spans := layouts.spans tree
  { buffer := spans.foldr StructSpan.replace b
    names := spans.map (·.name)
    trace := (layouts.missing tree).map .structMissing ++
      spans.reverse.map fun s => .structReplaced s.name s.first s.last }

end StructLayouts

end BindingRepair
