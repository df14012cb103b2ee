import BindingRepair.Event
import BindingRepair.Native.Comment
import BindingRepair.PathName

namespace BindingRepair

structure Cursor where
  kind : Option NativeKind
  spelling : String := ""
  file : Option PathName := none
  isDefinition : Bool := true
  isAnonymous : Bool := false
  comment : Option String := none
  deriving DecidableEq, Repr

/-- Something wrong with a header. From severity three on it is an error. -/
structure HeaderFault where
  severity : Int
  spelling : String
  line : Int
  deriving DecidableEq, Repr

def HeaderFault.isError (f : HeaderFault) : Bool :=
  3 ≤ f.severity

structure HeaderUnit where
  cursors : List Cursor := []
  faults : List HeaderFault := []
  deriving DecidableEq, Repr

inductive HeaderError
  | notFound (path : PathName)
  | broken (path : PathName) (fault : HeaderFault)
  | other (kind text : String)
  deriving DecidableEq, Repr

def HeaderError.message : HeaderError → String
  | notFound path => "Native header not found: " ++ path.text
  | broken path fault => path.text ++ ": L" ++ Text.decimal fault.line ++ ": " ++ fault.spelling
  | other _ text => text

namespace Cursor

/-- The declaration at a cursor, if it belongs to a header and has a name. A struct must be defined
there. -/
def native? (header : PathName) (c : Cursor) : Option NativeDeclaration :=
  match c.kind with
  | none => none
  | some kind =>
    if c.file.map (·.settled) ≠ some header.settled then none
    else if kind = .structType && !c.isDefinition then none
    else if c.spelling = "" || c.isAnonymous then none
    else some { name := c.spelling, kind, fragments := Comment.fragments? c.comment }

end Cursor

namespace HeaderUnit

def natives (u : HeaderUnit) (header : PathName) :
    Except HeaderError (List NativeDeclaration) :=
  match u.faults.find? (·.isError) with
  | some fault => .error (.broken header fault)
  | none => .ok (u.cursors.filterMap (Cursor.native? header))

/-- The options under which a header is read if none are given: it is C of the year 2011. -/
def defaultOptions : List String := ["-x", "c", "-std=c11"]

def options (given : List String) : List String :=
  if given.isEmpty then defaultOptions else given

end HeaderUnit

/-- A source of native declarations: what it answers for a header, and what it notes. -/
structure HeaderReader where
  read : PathName → Except HeaderError (List NativeDeclaration) × List Event

namespace HeaderReader

def constant (answer : Except HeaderError (List NativeDeclaration)) : HeaderReader where
  read _ := (answer, [])

/-- Answers what the units of headers hold. A header without a unit is not there. -/
def ofUnits (unit? : PathName → Option HeaderUnit) : HeaderReader where
  read header :=
    match unit? header with
    | none => (.error (.notFound header), [])
    | some unit =>
      match unit.natives header with
      | .ok natives => (.ok natives, [.headerRead natives.length header.name])
      | .error e => (.error e, [])

end HeaderReader

end BindingRepair
