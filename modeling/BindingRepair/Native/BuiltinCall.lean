import BindingRepair.Native.Builtin
import BindingRepair.Native.Conversion

namespace BindingRepair.Native.BuiltinCall

def bits (width : Nat) (n : Int) : List Bool :=
  let n := (n % (1 <<< width : Int)).toNat
  (List.range width).map fun i => n.testBit i

def ofBits (bits : List Bool) : Int :=
  bits.foldr (fun b n => 2 * n + if b then 1 else 0) 0

def turnBytes (bytes : Nat) (n : Int) : Int :=
  let all := bits (8 * bytes) n
  ofBits ((List.range bytes).flatMap fun i => (all.drop (8 * (bytes - 1 - i))).take 8)

def rotate (width : Nat) (n : Int) (by_ : Int) : Int :=
  let all := bits width n
  let shift := (by_ % width).toNat
  ofBits (all.drop (width - shift) ++ all.take (width - shift))

def onBits? (function : String) (width : Nat) (n : Int) : Option Int :=
  let all := bits width n
  let count : Int := all.count true
  match function with
  | "popcount" => some count
  | "parity" => some (count % 2)
  | "clz" => if count = 0 then none else some ((all.reverse.takeWhile (!·)).length)
  | "ctz" => if count = 0 then none else some ((all.takeWhile (!·)).length)
  | "ffs" => if count = 0 then some 0 else some ((all.takeWhile (!·)).length + 1)
  | "clrsb" =>
    let sign := all.getLastD false
    some ((all.reverse.takeWhile (· = sign)).length - 1)
  | _ => none

/-- The names of functions on bits, with the letters that tell of the length of their arguments. -/
def bitFunction? (name : String) : Option (String × IntegerType) :=
  ["popcount", "parity", "clz", "ctz", "ffs", "clrsb"].findSome? fun function =>
    [("", IntegerType.unsignedInt), ("l", .unsignedLong), ("ll", .unsignedLongLong),
      ("s", { rank := .short, isSigned := false })].findSome? fun (ending, type) =>
        if name = function ++ ending then some (function, type) else none

def nameless? (name : String) : Option (Float × FloatingType) :=
  let infinity : Float := 1.0 / 0.0
  [("huge_val", infinity), ("inf", infinity), ("nan", 0.0 / 0.0), ("nans", 0.0 / 0.0)].findSome?
    fun (function, x) =>
      [("", FloatingType.double), ("f", .single), ("l", .extended), ("f16", .half),
        ("f128", .quadruple)].findSome? fun (ending, type) =>
          if name = function ++ ending then some (x, type) else none

def onReal? (question : String) (x : Float) : Option Int :=
  let holds (b : Bool) : Option Int := some (if b then 1 else 0)
  match question with
  | "isnan" => holds x.isNaN
  | "isinf" => holds x.isInf
  | "isinf_sign" => some (if x.isInf then if x < 0 then -1 else 1 else 0)
  | "isfinite" => holds (x.isFinite)
  | "isnormal" => holds (x.isFinite && !(x.abs < 2.2250738585072014e-308))
  | "signbit" | "signbitf" | "signbitl" => holds (x < 0 || 1.0 / x < 0)
  | _ => none

def number? (o : Operand) : Option Int :=
  match o.constant with
  | some (.number n) => some n
  | _ => none

def realFunction? (name : String) (arguments : List Operand) : Option Operand :=
  let reals := arguments.map fun o =>
    match o.constant with
    | some (.real x) => some x
    | some (.number n) => some (Constant.ofInt n)
    | _ => none
  [("", FloatingType.double), ("f", .single), ("l", .extended), ("f16", .half),
    ("f128", .quadruple)].findSome? fun (ending, type) =>
      let answer (x : Option Float) : Operand :=
        .ofValue (.floating type) (x.map fun x => .real (Constant.round type x))
      if name = "fabs" ++ ending then some (answer ((reals.head?.join).map Float.abs))
      else if name = "copysign" ++ ending || name = "fmax" ++ ending || name = "fmin" ++ ending then
        match reals with
        | [some x, some y] =>
          let isNegative := y < 0 || 1.0 / y < 0
          some (answer (some (
            if name = "copysign" ++ ending then if isNegative then -x.abs else x.abs
            else if name = "fmax" ++ ending then if x < y || x.isNaN then y else x
            else if y < x || x.isNaN then y else x)))
        | _ => some (answer none)
      else none

/-- What a call of a function stands for whose name behind the common mark is given. Arguments are
used values. -/
def answer (w : World) (name : String) (arguments : List Operand) : Operand :=
  let u := w.types
  let known (i : IntegerType) (n : Option Int) : Operand :=
    .ofValue (.integer i) (n.map fun n => .number (i.wrap n)) n.isSome
  let first : Operand := arguments.headD (.ofValue .anything none)
  let second : Operand := (arguments[1]?).getD (.ofValue .anything none)
  let argument (i : IntegerType) : Option Int := (number? first).map i.wrap
  match bitFunction? name, nameless? name, realFunction? name arguments with
  | some (function, i), _, _ =>
    known .int ((argument i).bind (onBits? function i.rank.width))
  | _, some (x, type), _ => .ofValue (.floating type) (some (.real x))
  | _, _, some o => o
  | _, _, _ =>
    let sized (function : String) (f : Nat → Int → Option Int) : Option Operand :=
      [(8, Rank.char), (16, .short), (32, .int), (64, .long)].findSome? fun (width, rank) =>
        if name = function ++ toString width then
          let i : IntegerType := { rank, isSigned := false }
          some (known i ((argument i).bind (f width)))
        else none
    let turned := sized "bswap" (fun width n => some (turnBytes (width / 8) n)) <|>
      sized "bitreverse" (fun width n => some (ofBits (bits width n).reverse)) <|>
      sized "rotateleft" (fun width n => (number? second).map (rotate width n)) <|>
      sized "rotateright" (fun width n => (number? second).map fun m => rotate width n (-m))
    match turned with
    | some o => o
    | none =>
      match name with
      | "constant_p" => known .int (some (if first.constant.isSome then 1 else 0))
      | "expect" | "expect_with_probability" =>
        .ofValue .long (first.constant.bind (Constant.convert u .long)) first.isStrict
      | "abs" => known .int ((argument .int).map fun n => n.natAbs)
      | "labs" => known .long ((argument .long).map fun n => n.natAbs)
      | "llabs" => known .longLong ((argument .longLong).map fun n => n.natAbs)
      | "strlen" =>
        let length := first.text.map fun (_, units) => ((units.takeWhile (· ≠ 0)).length : Int)
        known .unsignedLong length
      | "classify_type" | "LINE" | "COLUMN" => .ofValue .int (some .fixed) true
      | "FILE" | "FUNCTION" | "FILE_NAME" =>
        .ofValue (.pointer (CType.char.qualify { isConst := true })) (some .fixed)
      | "object_size" | "dynamic_object_size" => .ofValue .unsignedLong (some .fixed) true
      | "assume_aligned" | "launder" | "addressof" => first
      | "complex" =>
        let parts := arguments.map (·.constant)
        let constant :=
          match parts with
          | [some (.real x), some (.real y)] => some (Constant.complex x y)
          | _ => none
        .ofValue (.complex first.type) constant
      | "isless" | "isgreater" | "islessequal" | "isgreaterequal" | "islessgreater"
      | "isunordered" =>
        .ofValue .int (if arguments.all (·.constant.isSome) then some .fixed else none)
      | "fpclassify" => .ofValue .int (if arguments.all (·.constant.isSome) then some .fixed else none)
      | "trap" | "unreachable" | "abort" | "debugtrap" => .ofValue .void none
      | name =>
        match first.constant with
        | some (.real x) =>
          match onReal? name x with
          | some n => known .int (some n)
          | none => .ofValue .anything none
        | _ => .ofValue .anything none

end BindingRepair.Native.BuiltinCall
