import BindingRepair.Native.Literal
import BindingRepair.Native.Number

/-!
Conditions of directives: whole numbers of 64 bits with or without a sign, what is defined, and the
operators of C on them. A name that stands for nothing is zero. What does not bear on the value is
read, but may divide by zero.
-/

namespace BindingRepair.Native.Condition

structure Value where
  number : Int
  isUnsigned : Bool := false
  deriving DecidableEq, Repr

namespace Value

def of (isUnsigned : Bool) (n : Int) : Value where
  number :=
    let n := n % (1 <<< 64)
    if isUnsigned || n < 1 <<< 63 then n else n - 1 <<< 64
  isUnsigned

def ofBool (b : Bool) : Value where
  number := if b then 1 else 0

def holds (v : Value) : Bool :=
  v.number ≠ 0

def bitwise (f : Nat → Nat → Nat) (isUnsigned : Bool) (a b : Int) : Value :=
  .of isUnsigned (f (a % (1 <<< 64)).toNat (b % (1 <<< 64)).toNat)

end Value

def binding? (symbol : String) : Option Nat :=
  match symbol with
  | "," => some 1
  | "?" => some 2
  | "||" => some 3
  | "&&" => some 4
  | "|" => some 5
  | "^" => some 6
  | "&" => some 7
  | "==" | "!=" => some 8
  | "<" | ">" | "<=" | ">=" => some 9
  | "<<" | ">>" => some 10
  | "+" | "-" => some 11
  | "*" | "/" | "%" => some 12
  | _ => none

/-- The value of an operator between two values, of which the second is not zero if it divides. -/
def apply (symbol : String) (a b : Value) : Value :=
  let isUnsigned := a.isUnsigned || b.isUnsigned
  let x := (Value.of isUnsigned a.number).number
  let y := (Value.of isUnsigned b.number).number
  let shift := (Value.of true b.number).number.toNat
  match symbol with
  | "," => b
  | "||" => .ofBool (a.holds || b.holds)
  | "&&" => .ofBool (a.holds && b.holds)
  | "|" => .bitwise (· ||| ·) isUnsigned x y
  | "^" => .bitwise (· ^^^ ·) isUnsigned x y
  | "&" => .bitwise (· &&& ·) isUnsigned x y
  | "==" => .ofBool (x = y)
  | "!=" => .ofBool (x ≠ y)
  | "<" => .ofBool (x < y)
  | ">" => .ofBool (x > y)
  | "<=" => .ofBool (x ≤ y)
  | ">=" => .ofBool (x ≥ y)
  | "<<" => .of a.isUnsigned (if shift < 64 then a.number <<< shift else 0)
  | ">>" => .of a.isUnsigned (a.number >>> min shift 63)
  | "+" => .of isUnsigned (x + y)
  | "-" => .of isUnsigned (x - y)
  | "*" => .of isUnsigned (x * y)
  | "/" => .of isUnsigned (Int.tdiv x y)
  | "%" => .of isUnsigned (Int.tmod x y)
  | _ => a

def number (t : Token) : Except HeaderFault Value :=
  match NumberLiteral.read? t.text with
  | none => .error (t.fault "invalid number in a condition")
  | some n =>
    if n.isFloating || n.suffix.isImaginary then
      .error (t.fault "floating point literal in preprocessor expression")
    else if 1 <<< 64 ≤ n.value then .error (t.fault "integer literal is too large")
    else .ok (.of (n.suffix.isUnsigned || 1 <<< 63 ≤ n.value) n.value)

def character (t : Token) : Except HeaderFault Value :=
  match Literal.character? t.text with
  | none => .error (t.fault "invalid character in a condition")
  | some (encoding, n) => .ok (.of (encoding = .utf16 || encoding = .utf32) n)

def answerDefined (isDefined : String → Bool) (question : Token) :
    List Token → Except HeaderFault (Value × List Token)
  | [] => .error (question.fault "macro name missing")
  | t :: rest =>
    if t.isWord then .ok (.ofBool (isDefined t.text), rest)
    else if t.isSymbol "(" then
      match rest with
      | name :: closer :: rest =>
        if name.isWord && closer.isSymbol ")" then .ok (.ofBool (isDefined name.text), rest)
        else .error (name.fault "missing ')' after 'defined'")
      | _ => .error (t.fault "missing ')' after 'defined'")
    else .error (t.fault "macro name must be an identifier")

mutual

def operand (isDefined : String → Bool) (last : Token) :
    Nat → Bool → List Token → Except HeaderFault (Value × List Token)
  | 0, _, _ => .error (last.fault "a condition is too long")
  | _, _, [] => .error (last.fault "expected value in expression")
  | steps + 1, isLive, t :: rest =>
    match t.kind with
    | .number => return (← number t, rest)
    | .character => return (← character t, rest)
    | .word =>
      if t.text = "defined" then answerDefined isDefined t rest else .ok ({ number := 0 }, rest)
    | .symbol => do
      match Token.canonical t.text with
      | "!" =>
        let (a, rest) ← operand isDefined t steps isLive rest
        return (.ofBool !a.holds, rest)
      | "-" =>
        let (a, rest) ← operand isDefined t steps isLive rest
        return (.of a.isUnsigned (-a.number), rest)
      | "+" => operand isDefined t steps isLive rest
      | "~" =>
        let (a, rest) ← operand isDefined t steps isLive rest
        return (.of a.isUnsigned (-a.number - 1), rest)
      | "(" =>
        match ← value isDefined t steps isLive 1 rest with
        | (a, closer :: rest) =>
          if closer.isSymbol ")" then return (a, rest)
          else throw (closer.fault "expected ')' in preprocessor expression")
        | (_, []) => throw (t.fault "expected ')' in preprocessor expression")
      | _ => throw (t.fault "invalid token at start of a preprocessor expression")
    | _ => .error (t.fault "invalid token at start of a preprocessor expression")

def value (isDefined : String → Bool) (last : Token) :
    Nat → Bool → Nat → List Token → Except HeaderFault (Value × List Token)
  | 0, _, _, _ => .error (last.fault "a condition is too long")
  | steps + 1, isLive, level, tokens => do
    let (a, rest) ← operand isDefined last steps isLive tokens
    continueValue isDefined last steps isLive level a rest

def continueValue (isDefined : String → Bool) (last : Token) :
    Nat → Bool → Nat → Value → List Token → Except HeaderFault (Value × List Token)
  | 0, _, _, _, _ => .error (last.fault "a condition is too long")
  | _, _, _, a, [] => .ok (a, [])
  | steps + 1, isLive, level, a, t :: rest =>
    if t.isSymbol ")" || t.isSymbol ":" then .ok (a, t :: rest)
    else
      match if t.kind = .symbol then binding? t.text else none with
      | none => .error (t.fault "token is not a valid binary operator in a condition")
      | some binding =>
        if binding < level then .ok (a, t :: rest)
        else if t.text = "?" then do
          match ← value isDefined t steps (isLive && a.holds) 1 rest with
          | (b, colon :: rest) =>
            if !colon.isSymbol ":" then throw (colon.fault "expected ':'")
            let (c, rest) ← value isDefined t steps (isLive && !a.holds) 2 rest
            let chosen := Value.of (b.isUnsigned || c.isUnsigned) (if a.holds then b else c).number
            continueValue isDefined last steps isLive level chosen rest
          | (_, []) => throw (t.fault "expected ':'")
        else do
          let isNext := isLive &&
            (if t.text = "&&" then a.holds else if t.text = "||" then !a.holds else true)
          let (b, rest) ← value isDefined t steps isNext (binding + 1) rest
          if (t.text = "/" || t.text = "%") && !b.holds then
            if isLive then throw (t.fault "division by zero in preprocessor expression")
            continueValue isDefined last steps isLive level { a with number := 0 } rest
          else continueValue isDefined last steps isLive level (apply t.text a b) rest

end

/-- The value of a whole condition, in which all macros are expanded. A comma may only stand in
parentheses. -/
def evaluate (isDefined : String → Bool) (directive : Token) (tokens : List Token) :
    Except HeaderFault Bool := do
  match ← value isDefined directive (3 * tokens.length + 3) true 2 tokens with
  | (v, []) => return v.holds
  | (_, t :: _) => throw (t.fault "expected end of line in preprocessor expression")

end BindingRepair.Native.Condition
