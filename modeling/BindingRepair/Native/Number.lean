import BindingRepair.Native.Lexeme

namespace BindingRepair.Native

structure NumberSuffix where
  isUnsigned : Bool := false
  isSized : Bool := false
  longs : Nat := 0
  isFloat : Bool := false
  isHalf : Bool := false
  isQuad : Bool := false
  isBitPrecise : Bool := false
  isImaginary : Bool := false
  deriving DecidableEq, Repr

structure NumberDigits where
  base : Nat
  digits : List Nat
  fraction : Nat := 0
  exponent : Int := 0
  isFloating : Bool := false
  deriving DecidableEq, Repr

structure NumberLiteral extends NumberDigits where
  suffix : NumberSuffix
  deriving DecidableEq, Repr

namespace NumberSuffix

def read (isFloating : Bool) (s : NumberSuffix) : List Char → Option NumberSuffix
  | [] => some s
  | 'f' :: '1' :: '6' :: rest | 'F' :: '1' :: '6' :: rest =>
    if isFloating && !s.isSized then
      read isFloating { s with isSized := true, isHalf := true } rest
    else none
  | 'w' :: 'b' :: rest | 'W' :: 'B' :: rest =>
    if !isFloating && !s.isSized then
      read isFloating { s with isSized := true, isBitPrecise := true } rest
    else none
  | 'l' :: 'l' :: rest | 'L' :: 'L' :: rest =>
    if !isFloating && !s.isSized then
      read isFloating { s with isSized := true, longs := 2 } rest
    else none
  | c :: rest =>
    if (c = 'f' || c = 'F') && isFloating && !s.isSized then
      read isFloating { s with isSized := true, isFloat := true } rest
    else if (c = 'q' || c = 'Q') && isFloating && !s.isSized then
      read isFloating { s with isSized := true, isQuad := true } rest
    else if (c = 'u' || c = 'U') && !isFloating && !s.isUnsigned then
      read isFloating { s with isUnsigned := true } rest
    else if (c = 'l' || c = 'L') && !s.isSized then
      read isFloating { s with isSized := true, longs := 1 } rest
    else if "iIjJ".toList.contains c && !s.isImaginary then
      read isFloating { s with isImaginary := true } rest
    else none

end NumberSuffix

namespace NumberLiteral

def digitsOf (base : Nat) (s : List Char) : List Nat × List Char :=
  let isDigit (c : Char) : Bool := (Lexeme.hexDigit? c).any (· < base)
  let (digits, rest) := s.span isDigit
  (digits.filterMap Lexeme.hexDigit?, rest)

def exponent? (marks : List Char) (s : List Char) : Option (Option (Int × List Char)) :=
  match s with
  | mark :: rest =>
    if !marks.contains mark then some none
    else
      let (isNegative, rest) :=
        match rest with
        | '-' :: rest => (true, rest)
        | '+' :: rest => (false, rest)
        | rest => (false, rest)
      match digitsOf 10 rest with
      | ([], _) => none
      | (digits, rest) =>
        let value : Nat := digits.foldl (fun value d => 10 * value + d) 0
        some (some (if isNegative then -value else value, rest))
  | [] => some none

/-- Reads what may follow the first digits: a point with further digits, and an exponent. -/
def readTail (base : Nat) (whole : List Nat) (rest : List Char) :
    Option (NumberDigits × List Char) :=
  let marks := if base = 16 then ['p', 'P'] else ['e', 'E']
  let (fraction, hasPoint, rest) :=
    match rest with
    | '.' :: rest =>
      let (fraction, rest) := digitsOf base rest
      (fraction, true, rest)
    | rest => ([], false, rest)
  if base = 16 && hasPoint && (whole ++ fraction).isEmpty then none
  else
    match exponent? marks rest with
    | none => none
    | some none =>
      if base = 16 && hasPoint then none
      else
        some ({ base, digits := whole ++ fraction, fraction := fraction.length,
                isFloating := hasPoint }, rest)
    | some (some (exponent, rest)) =>
      some ({ base, digits := whole ++ fraction, fraction := fraction.length, exponent,
              isFloating := true }, rest)

def readDigits (s : List Char) : Option (NumberDigits × List Char) :=
  match s with
  | '0' :: x :: c :: rest =>
    if (x = 'x' || x = 'X') && ((Lexeme.hexDigit? c).isSome || c = '.') then
      let (whole, rest) := digitsOf 16 (c :: rest)
      readTail 16 whole rest
    else if (x = 'b' || x = 'B') && (c = '0' || c = '1') then
      let (digits, rest) := digitsOf 2 (c :: rest)
      if rest.head?.any Char.isDigit then none else some ({ base := 2, digits }, rest)
    else octal s
  | '0' :: _ => octal s
  | s =>
    let (whole, rest) := digitsOf 10 s
    readTail 10 whole rest
where
  octal (s : List Char) : Option (NumberDigits × List Char) :=
    let (decimal, behind) := digitsOf 10 s
    if behind.head?.any fun c => c = '.' || c = 'e' || c = 'E' then readTail 10 decimal behind
    else
      let (digits, rest) := digitsOf 8 s
      if rest.head?.any Char.isDigit then none else some ({ base := 8, digits }, rest)

def read? (text : String) : Option NumberLiteral := do
  let (digits, rest) ← readDigits text.toList
  let suffix ← NumberSuffix.read digits.isFloating {} rest
  return { toNumberDigits := digits, suffix }

def value (n : NumberLiteral) : Nat :=
  n.digits.foldl (fun value d => n.base * value + d) 0

/-- The value of a number with a point or an exponent, as precisely as a double can be. -/
def floatValue (n : NumberLiteral) : Float :=
  if n.base = 16 then
    Float.scaleB n.value.toFloat (n.exponent - 4 * n.fraction)
  else
    let exponent := n.exponent - n.fraction
    let exponent := max (-5000) (min 5000 exponent)
    if exponent < 0 then .ofScientific n.value true exponent.natAbs
    else .ofScientific n.value false exponent.natAbs

end NumberLiteral

end BindingRepair.Native
