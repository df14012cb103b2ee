import BindingRepair.Text.LineBreak

/-!
Names of files by the directories that lead to them. A component that is empty or a dot counts for
nothing; one that goes back up is kept, since what it leads to is for the directories to say.
-/

namespace BindingRepair

structure PathName where
  root : String := ""
  parts : List String := []
  deriving DecidableEq, Repr

namespace PathName

/-- The slashes with which a text starts. Two alone are kept; more count as one. -/
def rootOf (text : String) : String :=
  match (text.toList.takeWhile (· = '/')).length with
  | 0 => ""
  | 2 => "//"
  | _ => "/"

def ofText (text : String) : PathName where
  root := rootOf text
  parts := (Text.splitOnChar '/' text).filter fun part => part ≠ "" && part ≠ "."

def text (p : PathName) : String :=
  if p.root = "" && p.parts.isEmpty then "." else p.root ++ "/".intercalate p.parts

/-- A path inside a directory; one that starts at the root does not depend on it. -/
def join (directory p : PathName) : PathName :=
  if p.root = "" then { directory with parts := directory.parts ++ p.parts } else p

def child (directory : PathName) (name : String) : PathName :=
  directory.join (.ofText name)

def parent (p : PathName) : PathName :=
  { p with parts := p.parts.dropLast }

/-- The components once every step back up is taken: it undoes the step before it. -/
def settle (before : List String) : List String → List String
  | [] => before.reverse
  | part :: rest =>
    if part = ".." then settle before.tail rest else settle (part :: before) rest

def settled (p : PathName) : PathName :=
  { p with parts := settle [] p.parts }

def name (p : PathName) : String :=
  p.parts.getLast?.getD ""

end PathName

end BindingRepair
