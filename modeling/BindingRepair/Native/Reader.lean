import BindingRepair.Native.Grammar.Reading
import BindingRepair.Native.Preprocessed

/-!
Reading headers of C: the enums, structs and functions that they declare outside all others, in
order, with the remarks in front of them. All declarations of one thing share a remark.
-/

namespace BindingRepair.Native

namespace Finding

def remarkAt (headers : Array OpenedHeader) (place : Place) : Option String :=
  (headers[place.file]?).bind fun h => Remark.before? h.text h.remarks place.offset

/-- The remark of a declaration itself. If a macro brought its name in, it is looked for where the
macro was used, and then where the first token is written. -/
def remark? (headers : Array OpenedHeader) (f : Finding) : Option String :=
  if !f.hasRemarks then none
  else if !f.token.isExpanded then remarkAt headers f.token.place
  else remarkAt headers f.token.place <|> f.first.written.bind (remarkAt headers)

/-- The declarations of the same thing as one of them, in the order in which they are asked for
their remarks: itself, those before it from the latest on, and those behind it from the latest
on. -/
def sharers (all : List Finding) (index : Nat) (f : Finding) : List Finding :=
  let same (list : List Finding) : List Finding := list.filter (·.subject = f.subject)
  f :: (same (all.take index)).reverse ++ (same (all.drop (index + 1))).reverse

end Finding

def isListed (f : Finding) : Bool :=
  f.token.place.file = 0 && f.name.isSome && (f.kind ≠ .structType || f.isDefinition)

/-- The remarks of declarations: all that are declarations of one thing have that of the first of
them that is listed, or that it finds. -/
def remarks (headers : Array OpenedHeader) (all : List Finding) : List (Option String) :=
  let indexed := (List.range all.length).zip all
  indexed.map fun (_, f) =>
    let first := indexed.find? fun (_, g) => g.subject = f.subject && isListed g
    match first with
    | none => f.remark? headers
    | some (index, g) => (Finding.sharers all index g).findSome? (Finding.remark? headers)

def unitOf (p : Preprocessed) : Except HeaderFault HeaderUnit := do
  let found ← Parsing.found p.tokens
  let cursors := (found.zip (remarks p.headers found)).map fun (f, comment) =>
    { kind := some f.kind
      spelling := f.name.getD ""
      file := (p.headers[f.token.place.file]?).map (·.path)
      isDefinition := f.isDefinition
      isAnonymous := f.name.isNone
      comment : Cursor }
  return { cursors }

def unitOf? (files : FileTree) (header : PathName) : Option HeaderUnit :=
  (Preprocessed.ofFile? files header).map fun preprocessed =>
    match preprocessed.bind unitOf with
    | .ok unit => unit
    | .error fault => { faults := [fault] }

def headerReader (files : FileTree) : HeaderReader :=
  .ofUnits (unitOf? files)

end BindingRepair.Native
