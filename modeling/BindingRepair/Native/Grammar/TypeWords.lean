import BindingRepair.Native.Type

namespace BindingRepair.Native

inductive TypeLength
  | short
  | long
  | longLong
  deriving DecidableEq, Repr

structure TypeWords where
  isSigned : Option Bool := none
  length : Option TypeLength := none
  isComplex : Bool := false
  kind : Option String := none
  type : Option CType := none
  deriving Inhabited

namespace TypeWords

def saysType (w : TypeWords) : Bool :=
  w.isSigned.isSome || w.length.isSome || w.isComplex || w.kind.isSome || w.type.isSome

def kinds : List String :=
  ["void", "char", "int", "float", "double", "_Bool", "__int128", "_Float16", "__fp16", "__bf16",
    "__float128"]

def add (w : TypeWords) (word : String) : Option TypeWords :=
  match word with
  | "signed" => if w.isSigned = some false then none else some { w with isSigned := some true }
  | "unsigned" => if w.isSigned = some true then none else some { w with isSigned := some false }
  | "short" =>
    if w.length.isNone || w.length = some .short then some { w with length := some .short }
    else none
  | "long" =>
    match w.length with
    | none => some { w with length := some .long }
    | some .long => some { w with length := some .longLong }
    | _ => none
  | "_Complex" => some { w with isComplex := true }
  | word =>
    if kinds.contains word && w.kind.isNone && w.type.isNone then some { w with kind := some word }
    else none

def addType (w : TypeWords) (t : CType) : Option TypeWords :=
  if w.kind.isNone && w.type.isNone then some { w with type := some t } else none

def plainType? (w : TypeWords) (kind : String) : Option CType :=
  let isSigned := w.isSigned.getD true
  match kind, w.length, w.isSigned with
  | "int", length, _ =>
    let rank : Rank :=
      match length with
      | none => .int
      | some .short => .short
      | some .long => .long
      | some .longLong => .longLong
    some (.integer { rank, isSigned })
  | "double", some .long, none => some (.floating .extended)
  | "char", none, none => some .char
  | "char", none, some isSigned => some (.integer { rank := .char, isSigned })
  | "__int128", none, _ => some (.integer { rank := .int128, isSigned })
  | "void", none, none => some .void
  | "float", none, none => some (.floating .single)
  | "double", none, none => some .double
  | "_Bool", none, none => some (.integer .bool)
  | "_Float16", none, none => some (.floating .half)
  | "__fp16", none, none => some (.floating .halfStorage)
  | "__bf16", none, none => some (.floating .brain)
  | "__float128", none, none => some (.floating .quadruple)
  | _, _, _ => none

def type? (w : TypeWords) : Option CType :=
  match w.type with
  | some (.integer { rank := .precise width, .. }) =>
    let isSigned := w.isSigned.getD true
    if w.length.isSome || w.isComplex || width = 0 || (isSigned && width < 2) then none
    else some (.integer { rank := .precise width, isSigned })
  | some t => if w.isSigned.isSome || w.length.isSome || w.isComplex then none else some t
  | none =>
    let isLine := w.isSigned.isSome || w.length.any (· ≠ .long)
    let kind := w.kind.getD (if w.isComplex && !isLine then "double" else "int")
    match plainType? w kind with
    | none => none
    | some t =>
      if !w.isComplex then some t
      else
        match t with
        | .void => none
        | .integer { rank := .bool, .. } => none
        | .integer { rank := .int128, .. } => none
        | .floating .halfStorage => none
        | .floating .brain => none
        | t => some (.complex t)

end TypeWords

end BindingRepair.Native
