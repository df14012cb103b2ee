import BindingRepair.Native.Type.Table

namespace BindingRepair.Native

/-- What is asked for besides the members: no gaps, a greatest alignment of members, and a least
alignment of the whole. A limit of zero is none. -/
structure LayoutRequest where
  isUnion : Bool := false
  isPacked : Bool := false
  limit : Nat := 0
  alignment : Nat := 0

/-- A member before it has a place. An alignment of zero is that of the type. -/
structure PlainMember where
  name : Option String := none
  type : CType
  width : Option Nat := none
  isPacked : Bool := false
  alignment : Nat := 0

/-- The members that have a place so far, the latest first. The end of them is in bits; the size and
the alignment are in bytes. -/
structure Layout where
  members : List Member := []
  stop : Nat := 0
  size : Nat := 0
  alignment : Nat := 1

namespace Layout

def roundUp (n step : Nat) : Nat :=
  (n + step - 1) / step * step

def add (request : LayoutRequest) (l : Layout) (m : PlainMember) (place bits alignment : Nat) :
    Layout where
  members := { name := m.name, type := m.type, place, width := m.width } :: l.members
  stop := if request.isUnion then 0 else place + bits
  size := max l.size ((place + bits + 7) / 8)
  alignment := max l.alignment alignment

def placeBits (u : TypeTable) (request : LayoutRequest) (l : Layout) (m : PlainMember)
    (width : Nat) : Layout :=
  let natural := u.alignment m.type
  let isPacked := request.isPacked || m.isPacked
  let alignment := if isPacked && width ≠ 0 then 1 else natural
  let alignment := max alignment m.alignment
  let alignment :=
    if request.limit = 0 || width = 0 then alignment
    else if isPacked then min (max natural m.alignment) request.limit
    else min alignment request.limit
  let unit := 8 * u.size m.type
  let doesNotFit := request.limit = 0 && unit < l.stop % (8 * alignment) + width
  let place :=
    if width = 0 || doesNotFit then roundUp l.stop (8 * alignment)
    else if m.alignment ≠ 0 && (request.limit = 0 || m.alignment ≤ request.limit) then
      roundUp l.stop (8 * m.alignment)
    else l.stop
  l.add request m place width (if m.name.isNone then 1 else alignment)

def placeWhole (u : TypeTable) (request : LayoutRequest) (l : Layout) (m : PlainMember) : Layout :=
  let isPacked := request.isPacked || m.isPacked
  let alignment := max (if isPacked then 1 else u.alignment m.type) m.alignment
  let alignment := if request.limit = 0 then alignment else min alignment request.limit
  let place := roundUp l.stop (8 * alignment)
  l.add request m place (8 * u.size m.type) alignment

def ofMembers (u : TypeTable) (request : LayoutRequest) (members : List PlainMember) : Layout :=
  let l := members.foldl (fun l m =>
    match m.width with
    | some width => placeBits u request l m width
    | none => placeWhole u request l m) {}
  let alignment := max l.alignment request.alignment
  { l with members := l.members.reverse, alignment, size := roundUp l.size alignment }

end Layout

end BindingRepair.Native
