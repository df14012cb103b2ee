import BindingRepair.Text.Blank
import BindingRepair.Text.Decimal
import BindingRepair.Text.Digit

namespace BindingRepair.Text

def digitLimit : Nat := 4300

structure LongNumeral where
  digits : Nat
  deriving DecidableEq, Repr

def LongNumeral.message (e : LongNumeral) : String :=
  "Exceeds the limit (" ++ decimalNat digitLimit ++
    " digits) for integer string conversion: value has " ++ decimalNat e.digits ++
    " digits; use sys.set_int_max_str_digits() to increase the limit"

def readDigits (digits : List Char) : Except LongNumeral Nat :=
  if digitLimit < digits.length then .error ⟨digits.length⟩ else .ok (digitsValue digits)

/-- White space that may surround a number: none of the four characters that separate records. -/
def isNumeralMargin (c : Char) : Bool :=
  isBlank c && !(0x1c ≤ c.toNat && c.toNat ≤ 0x1f)

def isSpacedNumeral : List Char → Bool
  | [] => false
  | [c] => isDigit c
  | c :: '_' :: rest => isDigit c && isSpacedNumeral rest
  | c :: rest => isDigit c && isSpacedNumeral rest

/-- The number that a text writes without a sign. Too many digits count before what follows them. -/
def readNat? (s : List Char) : Option (Except LongNumeral Nat) :=
  let numeral := s.takeWhile fun c => isDigit c || c = '_'
  if isSpacedNumeral numeral then
    match readDigits (numeral.filter isDigit) with
    | .error e => some (.error e)
    | .ok n => if numeral = s then some (.ok n) else none
  else none

def readInt? (s : String) : Option (Except LongNumeral Int) :=
  match ((s.toList.dropWhile isNumeralMargin).reverse.dropWhile isNumeralMargin).reverse with
  | '-' :: digits => (readNat? digits).map (·.map fun n => -(n : Int))
  | '+' :: digits => (readNat? digits).map (·.map Int.ofNat)
  | digits => (readNat? digits).map (·.map Int.ofNat)

end BindingRepair.Text
