import BindingRepair.Native.Conversion
import BindingRepair.Native.Grammar.Readers

namespace BindingRepair.Native.Value

structure Filling where
  parts : List (Int × Constant) := []
  isKnown : Bool := true
  count : Nat := 0
  deriving Inhabited

abbrev Items := List (List Designator × Initializer)

abbrev Fill := Except HeaderFault (Filling × Items)

namespace Filling

def addConstant (f : Filling) (place : Int) (c : Option Constant) : Filling :=
  match c with
  | none => { f with isKnown := false }
  | some (.image parts) =>
    { f with parts := parts.map (fun (p, c) => (p + place, c)) ++ f.parts }
  | some c => { f with parts := (place, c) :: f.parts }

end Filling

def tokenOf : Initializer → Token
  | .value t _ => t
  | .list t _ => t

def fault {α : Type} (i : Initializer) (spelling : String) : Except HeaderFault α :=
  .error ((tokenOf i).fault spelling)

def holdsText (u : TypeTable) (element : CType) (encoding : Encoding) : Bool :=
  match u.integer? element with
  | none => false
  | some i =>
    match encoding with
    | .plain | .utf8 => i.rank = .char
    | .utf16 => i.rank = .short && !i.isSigned
    | .utf32 => i.rank = .int && !i.isSigned
    | .wide => i.rank = .int && i.isSigned

def text? : Initializer → Option (Encoding × List Nat)
  | .value _ o => o.text
  | .list _ [([], .value _ o)] => o.text
  | _ => none

def fillText (encoding : Encoding) (units : List Nat) (length : Length) (place : Int)
    (f : Filling) : Filling :=
  let size :=
    match length with
    | .fixed n => n
    | _ => units.length + 1
  let kept := units.take size
  let i : IntegerType := if encoding.unitBits = 8 then .char else .long
  let parts := ((List.range kept.length).zip kept).map fun (index, unit) =>
    (place + (encoding.unitBits * index : Nat), Constant.number (i.wrap unit))
  { f with parts := parts ++ f.parts, count := size }

/-- The parts of an object that are given values in order: all members of a struct that have names
or hold members, or the first of a union. -/
def membersOf (r : RecordType) : List Member :=
  (r.members.getD []).filter fun m => m.name.isSome || m.width.isNone

/-- The index of the member that a name means, or of the one inside which it is. -/
def memberIndex? (u : TypeTable) (members : List Member) (name : String) : Option (Nat × Bool) := do
  let index ← members.findIdx? fun m => (u.findMember u.depth [m] name).isSome
  let m ← members[index]?
  return (index, m.name ≠ some name)

/-- The part at an index: its type, its place, and the index behind it. -/
def part? (u : TypeTable) (type : CType) (place : Int) (index : Nat) : Option (CType × Int × Nat) :=
  match type.bare with
  | .array element length =>
    let isBeyond : Bool := match length with
      | .fixed n => n ≤ index
      | _ => false
    if isBeyond then none
    else some (element, place + (8 * index * u.size element : Nat), index + 1)
  | .vector element count =>
    if count ≤ index then none
    else some (element, place + (8 * index * u.size element : Nat), index + 1)
  | .record id =>
    let r := u.record id
    let members := membersOf r
    if r.isUnion && 0 < index then none
    else (members[index]?).map fun m => (m.type, place + m.place, index + 1)
  | _ => if index = 0 then some (type, place, 1) else none

def reach (type : CType) (index : Nat) (f : Filling) : Filling :=
  match type.bare with
  | .array .. => { f with count := max f.count (index + 1) }
  | _ => f

/-- Whether a value is given to a part as a whole. Otherwise the part takes as many values as it
has parts. -/
def isWhole (w : World) (type : CType) (i : Initializer) : Bool :=
  match i with
  | .list .. => true
  | .value _ o =>
    match type.bare with
    | .array element _ => o.text.any fun (encoding, _) => holdsText w.types element encoding
    | .record _ | .vector .. => Conversion.admits w type (o.use w)
    | _ => true

/-- Whether a value for an array without a length lacks braces, or stands too deep inside others. -/
def needsBraces (type : CType) (isOuter : Bool) (i : Initializer) : Bool :=
  match type.bare, i with
  | .array _ .unknown, .list _ items => !isOuter && !items.isEmpty
  | .array _ .unknown, .value _ o => o.text.isNone
  | _, _ => false

mutual

def fill (w : World) : Nat → CType → Int → Bool → Initializer → Filling → Except HeaderFault Filling
  | 0, _, _, _, i, _ => fault i "initializers are nested too deeply"
  | steps + 1, type, place, isOuter, i, f =>
    let u := w.types
    match type.value with
    | .array element length =>
      match text? i with
      | some (encoding, units) =>
        if holdsText u element encoding then .ok (fillText encoding units length place f)
        else
          match i with
          | .list _ items => fillAll w steps type place isOuter items f
          | .value .. => fault i "array initializer must be an initializer list or string literal"
      | none =>
        match i with
        | .list _ items => fillAll w steps type place isOuter items f
        | .value _ o =>
          if o.type.isAnything then .ok { f with isKnown := false }
          else if o.isPlace && o.type.isArray && u.areCompatible o.type.bare type.bare then
            let count :=
              match o.type.bare with
              | .array _ (.fixed n) => n
              | _ => 0
            .ok { f.addConstant place (Operand.read w o.spot o.type) with count }
          else fault i "array initializer must be an initializer list"
    | .record _ | .vector .. =>
      match i with
      | .list _ items => fillAll w steps type place isOuter items f
      | .value _ o => fillOne w type place i o f
    | _ =>
      match i with
      | .value _ o => fillOne w type place i o f
      | .list _ [] => .ok f
      | .list _ (([], first) :: _) => fill w steps type place false first f
      | .list _ _ => fault i "designator in initializer for scalar type"

def fillOne (w : World) (type : CType) (place : Int) (i : Initializer) (o : Operand)
    (f : Filling) : Except HeaderFault Filling :=
  let o := o.use w
  if Conversion.admits w type o then
    .ok (f.addConstant place (o.constant.bind (Constant.convert w.types type)))
  else fault i "initializing with an expression of incompatible type"

/-- Gives all values of a list in braces. Values that are left over do not count. -/
def fillAll (w : World) (steps : Nat) (type : CType) (place : Int) (isOuter : Bool) (items : Items)
    (f : Filling) : Except HeaderFault Filling :=
  match steps with
  | 0 => .ok f
  | steps + 1 => do
    let (f, _) ← fillFrom w steps type place 0 true isOuter items { f with count := 0 }
    return f

/-- Gives values to the parts of an object from an index on. Only a list in braces may name
parts. -/
def fillFrom (w : World) (steps : Nat) (type : CType) (place : Int) (index : Nat)
    (isBraced isOuter : Bool) (items : Items) (f : Filling) : Fill :=
  match steps with
  | 0 => .ok (f, [])
  | steps + 1 =>
    match items with
    | [] => .ok (f, [])
    | ([], i) :: rest =>
      match part? w.types type place index with
      | none =>
        if isBraced then fillFrom w steps type place index isBraced isOuter rest f
        else .ok (f, items)
      | some (partType, partPlace, next) => do
        let (f, rest) ← fillPart w steps partType partPlace isOuter (i, rest) (reach type index f)
        fillFrom w steps type place next isBraced isOuter rest f
    | (d :: ds, i) :: rest =>
      if !isBraced then .ok (f, items)
      else do
        let (f, next, rest) ← fillNamed w steps type place isOuter (d, ds) (i, rest) f
        fillFrom w steps type place next isBraced isOuter rest f

def fillPart (w : World) (steps : Nat) (type : CType) (place : Int) (isOuter : Bool)
    (items : Initializer × Items) (f : Filling) : Fill :=
  match steps with
  | 0 => .ok (f, [])
  | steps + 1 =>
    let (i, rest) := items
    if needsBraces type isOuter i then fault i "flexible array requires brace-enclosed initializer"
    else if isWhole w type i then do
      let count := f.count
      let f ← fill w steps type place false i f
      return ({ f with count }, rest)
    else if (part? w.types type place 0).isNone then
      fault i "initializer for aggregate with no elements requires explicit braces"
    else fillFrom w steps type place 0 false false (([], i) :: rest) f

/-- Gives a value to a part that is named, perhaps to a part of it, and answers at which index the
list goes on. -/
def fillNamed (w : World) (steps : Nat) (type : CType) (place : Int) (isOuter : Bool)
    (path : Designator × List Designator) (items : Initializer × Items) (f : Filling) :
    Except HeaderFault (Filling × Nat × Items) :=
  match steps with
  | 0 => .ok (f, 0, [])
  | steps + 1 =>
    let (d, ds) := path
    let (i, rest) := items
    let inside (partType : CType) (partPlace : Int) (path : List Designator) (f : Filling) :
        Fill :=
      match path with
      | [] => fillPart w steps partType partPlace isOuter (i, rest) f
      | d :: ds => do
        let (f, next, rest) ← fillNamed w steps partType partPlace false (d, ds) (i, rest) f
        fillFrom w steps partType partPlace next false false rest f
    match type.bare, d with
    | .record id, .member name =>
      let members := membersOf (w.types.record id)
      match memberIndex? w.types members name with
      | none => fault i ("field designator '" ++ name ++ "' does not refer to any field")
      | some (index, isInside) =>
        match members[index]? with
        | none => .ok (f, 0, rest)
        | some m => do
          let path := if isInside then d :: ds else ds
          let (f, rest) ← inside m.type (place + m.place) path f
          return (f, if (w.types.record id).isUnion then members.length else index + 1, rest)
    | .array element length, .elements first last =>
      let isBeyond : Bool := match length with
        | .fixed n => n ≤ last
        | _ => false
      if isBeyond || last < first then fault i "array designator index exceeds array bounds"
      else do
        let partPlace := place + (8 * first * w.types.size element : Nat)
        let (f, rest) ← inside element partPlace ds (reach type last f)
        return (f, last + 1, rest)
    | _, _ => fault i "a designator does not fit the type"

end

def stepLimit : Nat := 1000000000

/-- Gives a value to an object, and answers its type, which may have had no length before, and its
contents, if they are known. -/
def complete (type : CType) (i : Initializer) : Parse (CType × Option (List (Int × Constant))) := do
  let w ← Parse.world
  match fill w stepLimit type 0 true i {} with
  | .error e => throw e
  | .ok f =>
    let type :=
      match type.bare with
      | .array element .unknown =>
        (CType.array element (.fixed f.count)).qualify type.qualifiers
      | _ => type
    return (type, if f.isKnown then some f.parts else none)

end BindingRepair.Native.Value
