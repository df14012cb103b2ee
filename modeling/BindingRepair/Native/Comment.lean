import BindingRepair.Text.Blank
import BindingRepair.Text.LineBreak

/-!
Documentation comments of a native header. A comment is read line by line: what marks it as a
comment is taken off, and lines in a row make up a paragraph. A line that says nothing parts two
paragraphs.
-/

namespace BindingRepair

namespace Comment

/-- A line without the mark that ends a comment, and without the white space before that. -/
def dropEnd (line : List Char) : List Char :=
  match line.reverse with
  | '/' :: '*' :: rest => Text.trimEnd rest.reverse
  | _ => line

def dropMarker : List Char → List Char
  | '/' :: '*' :: '*' :: rest => rest
  | '/' :: '*' :: rest => rest
  | '*' :: '/' :: rest => rest
  | '*' :: rest => rest
  | '/' :: '/' :: '/' :: '!' :: rest => rest
  | '/' :: '/' :: '/' :: rest => rest
  | '/' :: '/' :: '!' :: rest => rest
  | '/' :: '/' :: rest => rest
  | line => line

def content (line : List Char) : List Char :=
  Text.trim (dropMarker (dropEnd (Text.trim line)))

def isTelling (content : List Char) : Bool :=
  !(content = [] || content = ['*'] || content = ['/'])

def runs {α : Type} (keep : α → Bool) : List α → List (List α)
  | [] => []
  | a :: rest =>
    if !keep a then runs keep rest
    else if rest.head?.any keep then Text.consFirst a (runs keep rest)
    else [a] :: runs keep rest

def paragraphs (comment : String) : List (List (List Char)) :=
  runs isTelling ((Text.lines comment.toList).map content)

def fragment (paragraph : List (List Char)) : String :=
  " ".intercalate (paragraph.map String.ofList)

def fragments? (comment : Option String) : Option (List String) :=
  match (comment.map paragraphs).getD [] with
  | [] => none
  | paragraphs => some (paragraphs.map fragment)

end Comment

end BindingRepair
