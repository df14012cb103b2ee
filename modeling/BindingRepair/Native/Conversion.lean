import BindingRepair.Native.Operand

namespace BindingRepair.Native.Conversion

/-- Whether pointers to one type may be given where pointers to another are asked for. Only
functions that are not compatible are refused. -/
def admitsTarget (u : TypeTable) (wanted given : CType) : Bool :=
  !(wanted.isFunction && given.isFunction) || u.areCompatible wanted.bare given.bare

def admitsType (u : TypeTable) (wanted given : CType) (isNothing : Bool) : Bool :=
  let wanted := wanted.value
  let given := given.value
  wanted.isAnything || given.isAnything ||
    match wanted, given with
    | .pointer s, .pointer t => isNothing || admitsTarget u s t
    | .pointer _, t => isNothing && u.isInteger t
    | .integer { rank := .bool, .. }, .pointer _ => true
    | .vector s n, .vector t m => u.size (.vector s n) = u.size (.vector t m)
    | .record id, .record other => id = other
    | s, t => u.isArithmetic s && u.isArithmetic t

def admits (w : World) (wanted : CType) (o : Operand) : Bool :=
  admitsType w.types wanted o.type (o.isNothing w) ||
    match wanted.bare with
    | .record id =>
      let r := w.types.record id
      r.isTransparent &&
        (r.members.getD []).any fun m => admitsType w.types m.type o.type (o.isNothing w)
    | _ => false

def allowsCast (w : World) (wanted : CType) (o : Operand) : Bool :=
  let u := w.types
  let given := o.type.value
  let wanted := wanted.value
  wanted.isVoid || wanted.isAnything || given.isAnything ||
    match wanted, given with
    | .pointer _, .pointer _ => true
    | .pointer _, t => u.isInteger t
    | .record id, .record other => id = other || isMember u id given
    | .record id, _ => isMember u id given
    | .vector s n, .vector t m => u.size (.vector s n) = u.size (.vector t m)
    | .vector s n, t =>
      u.isInteger t && u.size t = u.size (.vector s n) || (u.isArithmetic t && 0 < n)
    | s, .vector t n => u.isInteger s && u.size s = u.size (.vector t n)
    | s, .pointer _ => u.isInteger s
    | s, t => u.isArithmetic s && u.isArithmetic t
where
  isMember (u : TypeTable) (id : Nat) (given : CType) : Bool :=
    let r := u.record id
    r.isUnion && (r.members.getD []).any fun m => u.areCompatible m.type.bare given

def cast (w : World) (wanted : CType) (o : Operand) : Operand :=
  let value :=
    match wanted.value, o.type.value with
    | .record _, .record _ => o
    | .record id, _ =>
      { o with type := .record id, constant := o.constant.map fun c => .image [(0, c)] }
    | wanted, _ => o.convert w wanted
  let isStrict := o.isStrict && w.types.isInteger wanted && w.types.isReal o.type
  let isNull := match wanted with
    | .pointer .void => o.isNothing w
    | _ => false
  { value with isStrict, isNull }

end BindingRepair.Native.Conversion
