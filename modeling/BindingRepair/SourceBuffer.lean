import BindingRepair.Position
import BindingRepair.Text.LineBreak

/-!
The file under repair as a sequence of lines. Lines are counted from zero. The buffer remembers
whether the file ended in a line feed or carriage return, and writes it back with a line feed there.
-/

namespace BindingRepair

structure SourceBuffer where
  lines : List String
  trailingNewline : Bool := false
  deriving DecidableEq, Repr

namespace SourceBuffer

def ofText (text : String) : SourceBuffer where
  lines := Text.splitLines text
  trailingNewline :=
    match text.toList.getLast? with
    | some c => c = '\n' || c = '\r'
    | none => false

def size (b : SourceBuffer) : Nat :=
  b.lines.length

def get? (b : SourceBuffer) (position : Int) : Option String :=
  (resolve? b.size position).bind (b.lines[·]?)

def set? (b : SourceBuffer) (position : Int) (line : String) : Option SourceBuffer :=
  (resolve? b.size position).map fun index => { b with lines := b.lines.set index line }

def insert (b : SourceBuffer) (position : Int) (block : List String) : SourceBuffer :=
  let cut := cutIndex b.size position
  { b with lines := b.lines.take cut ++ block ++ b.lines.drop cut }

def replaceSpan (b : SourceBuffer) (first last : Int) (block : List String) : SourceBuffer :=
  let start := cutIndex b.size first
  let stop := max start (cutIndex b.size (last + 1))
  { b with lines := b.lines.take start ++ block ++ b.lines.drop stop }

def text (b : SourceBuffer) : String :=
  Text.joinLines b.lines

def fileText (b : SourceBuffer) : String :=
  if b.trailingNewline then b.text ++ "\n" else b.text

@[simp] theorem trailingNewline_insert (b : SourceBuffer) (position : Int)
    (block : List String) : (b.insert position block).trailingNewline = b.trailingNewline := rfl

@[simp] theorem size_insert (b : SourceBuffer) (position : Int) (block : List String) :
    (b.insert position block).size = b.size + block.length := by
  have h := cutIndex_le b.size position
  simp only [size] at h ⊢
  simp only [insert, size, List.length_append, List.length_take, List.length_drop]
  omega

end SourceBuffer

end BindingRepair
