import BindingRepair.Native.Type.Table

namespace BindingRepair.Native

namespace TypeTable

def promoteInteger (t : IntegerType) : IntegerType :=
  match t.rank with
  | .bool | .char | .short => .int
  | _ => t

def promoteArgument (u : TypeTable) (t : CType) : CType :=
  match u.integer? t with
  | some i => .integer (promoteInteger i)
  | none =>
    match t.value with
    | .floating .single | .floating .half => .double
    | _ => t.bare

def isPromoted (u : TypeTable) (t : CType) : Bool :=
  match t.bare with
  | .integer i => promoteInteger i = i
  | .enumeration id => promoteInteger (u.enumeration id).carrier = (u.enumeration id).carrier
  | .floating .single | .floating .half => false
  | _ => true

mutual

def isCompatible (u : TypeTable) : Nat → CType → CType → Bool
  | 0, _, _ => true
  | steps + 1, s, t =>
    s.isAnything || t.isAnything ||
    (s.qualifiers.agree t.qualifiers &&
      match s.bare, t.bare with
      | .void, .void => true
      | .integer i, .integer j => i = j
      | .integer i, .enumeration id => isCarrier u i id
      | .enumeration id, .integer i => isCarrier u i id
      | .enumeration id, .enumeration other => id = other
      | .floating f, .floating g => f = g
      | .complex part, .complex other => isCompatible u steps part other
      | .pointer target, .pointer other => isCompatible u steps target other
      | .array element length, .array other otherLength =>
        isCompatible u steps element other && areLengths length otherLength
      | .function result parameters isVariadic, .function other otherParameters isOtherVariadic =>
        isCompatible u steps result.bare other.bare &&
          areParameters u steps parameters isVariadic otherParameters isOtherVariadic
      | .record id, .record other => id = other
      | .vector element count, .vector other otherCount =>
        isCompatible u steps element other && count = otherCount
      | .atomic part, .atomic other => isCompatible u steps part other
      | _, _ => false)

def isCarrier (u : TypeTable) (i : IntegerType) (id : Nat) : Bool :=
  let e := u.enumeration id
  e.isComplete && e.carrier = i

def areLengths : Length → Length → Bool
  | .fixed n, .fixed m => n = m
  | _, _ => true

/-- Whether functions may have these parameters. Where one of them says nothing, the other must take
what arguments become on their own. -/
def areParameters (u : TypeTable) (steps : Nat) (given : Option (List CType)) (isVariadic : Bool)
    (other : Option (List CType)) (isOtherVariadic : Bool) : Bool :=
  match steps with
  | 0 => true
  | steps + 1 =>
    match given, other with
    | none, none => true
    | some list, none => !isVariadic && list.all u.isPromoted
    | none, some list => !isOtherVariadic && list.all u.isPromoted
    | some list, some others =>
      isVariadic = isOtherVariadic && list.length = others.length &&
        (list.zip others).all fun (s, t) =>
          isCompatible u steps s.bare t.bare || isTransparentFor u steps s.bare t.bare ||
            isTransparentFor u steps t.bare s.bare

def isTransparentFor (u : TypeTable) (steps : Nat) (s t : CType) : Bool :=
  match steps with
  | 0 => false
  | steps + 1 =>
    match s with
    | .record id =>
      let r := u.record id
      r.isTransparent && (r.members.getD []).any fun m => isCompatible u steps m.type.bare t
    | _ => false

end

def comparisonDepth : Nat := 10000

def areCompatible (u : TypeTable) (s t : CType) : Bool :=
  u.isCompatible comparisonDepth s t

def compose : Nat → CType → CType → CType
  | 0, s, _ => s
  | steps + 1, s, t =>
    match s, t with
    | .anything, t => t
    | .qualified q s, t => .qualified q (compose steps s t.bare)
    | s, .qualified _ t => compose steps s t
    | .pointer target, .pointer other => .pointer (compose steps target other)
    | .array element length, .array other otherLength =>
      let length :=
        match length, otherLength with
        | .fixed n, _ => .fixed n
        | _, .fixed n => .fixed n
        | length, _ => length
      .array (compose steps element other) length
    | .function result parameters isVariadic, .function other otherParameters isOtherVariadic =>
      let result := compose steps result other
      match parameters, otherParameters with
      | none, none => .function result none isVariadic
      | some list, none => .function result (some list) isVariadic
      | none, some list => .function result (some list) isOtherVariadic
      | some list, some others =>
        .function result (some ((list.zip others).map fun (s, t) => compose steps s t)) isVariadic
    | s, _ => s

def composite (s t : CType) : CType :=
  compose comparisonDepth s t

end TypeTable

end BindingRepair.Native
