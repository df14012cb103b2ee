import BindingRepair.Native.Lexeme

namespace BindingRepair.Native

inductive Encoding
  | plain
  | utf8
  | utf16
  | utf32
  | wide
  deriving DecidableEq, Repr

namespace Encoding

def unitBits : Encoding → Nat
  | plain => 8
  | utf8 => 8
  | utf16 => 16
  | utf32 => 32
  | wide => 32

/-- The encoding that a mark in front of a quote asks for, and how long the mark is. -/
def ofText (s : List Char) : Encoding × Nat :=
  match s with
  | 'u' :: '8' :: '"' :: _ => (utf8, 2)
  | 'u' :: _ => (utf16, 1)
  | 'U' :: _ => (utf32, 1)
  | 'L' :: _ => (wide, 1)
  | _ => (plain, 0)

def units (e : Encoding) (c : Char) : List Nat :=
  match e with
  | plain | utf8 => (String.singleton c).toUTF8.toList.map UInt8.toNat
  | utf16 =>
    let n := c.toNat
    if n < 0x10000 then [n]
    else [0xd800 + (n - 0x10000) / 0x400, 0xdc00 + (n - 0x10000) % 0x400]
  | utf32 | wide => [c.toNat]

end Encoding

namespace Literal

/-- One element of a text: a character, or a unit that is named by its number. -/
inductive Element
  | character (c : Char)
  | unit (n : Nat)
  deriving DecidableEq, Repr

/-- The escapes of one letter. The last two are those of no standard. -/
def simpleEscapes : List (Char × Nat) :=
  [('\'', 39), ('"', 34), ('?', 63), ('\\', 92), ('a', 7), ('b', 8), ('f', 12), ('n', 10),
    ('r', 13), ('t', 9), ('v', 11), ('e', 27), ('E', 27)]

/-- A character that is named by its code point. Those of ASCII are not to be named so, up to three
of them. -/
def named? (digits : Nat) (s : List Char) : Option Element :=
  match Lexeme.hexValue? digits s with
  | none => none
  | some n =>
    if 0xd800 ≤ n && n ≤ 0xdfff || 0x10ffff < n then none
    else if n < 0xa0 && !(n = 0x24 || n = 0x40 || n = 0x60) then none
    else some (.character (Char.ofNat n))

def escape? : List Char → Option (Element × Nat)
  | [] => none
  | 'x' :: rest =>
    let digits := rest.takeWhile fun c => (Lexeme.hexDigit? c).isSome
    if digits.isEmpty then none
    else (Lexeme.hexValue? digits.length digits).map fun n => (.unit n, 1 + digits.length)
  | 'u' :: rest => (named? 4 (rest.take 4)).map (·, 5)
  | 'U' :: rest => (named? 8 (rest.take 8)).map (·, 9)
  | c :: rest =>
    match simpleEscapes.lookup c with
    | some n => some (.unit n, 1)
    | none =>
      let isOctal (d : Char) : Bool := '0' ≤ d && d ≤ '7'
      if isOctal c then
        let digits := ((c :: rest).take 3).takeWhile isOctal
        some (.unit (digits.foldl (fun n d => 8 * n + (d.toNat - '0'.toNat)) 0), digits.length)
      else some (.character c, 1)

/-- The elements of a text without its quotes; `skip` counts the characters at its start that were
read before. -/
def elements? (skip : Nat) : List Char → Option (List Element)
  | [] => some []
  | c :: rest =>
    match skip with
    | skip + 1 => elements? skip rest
    | 0 =>
      if c = '\\' then
        (escape? rest).bind fun (e, length) => (elements? length rest).map (e :: ·)
      else (elements? 0 rest).map (.character c :: ·)

def Element.units? (e : Encoding) : Element → Option (List Nat)
  | .character c => some (e.units c)
  | .unit n => if n < 1 <<< e.unitBits then some [n] else none

def inside (marks : Nat) (text : String) : List Char :=
  ((text.toList.drop (marks + 1)).dropLast)

def string? (text : String) : Option (Encoding × List Element) :=
  let (encoding, marks) := Encoding.ofText text.toList
  (elements? 0 (inside marks text)).map (encoding, ·)

/-- The encoding of strings in a row, and their units. All that have a mark must have the same. -/
def strings? (texts : List String) : Option (Encoding × List Nat) := do
  let strings ← texts.mapM string?
  let marked := (strings.map (·.1)).filter (· ≠ .plain)
  let encoding := marked.headD .plain
  if marked.all (· = encoding) then
    let units ← (strings.flatMap (·.2)).mapM (Element.units? encoding)
    return (encoding, units.flatten)
  else none

def Element.unit? (e : Encoding) (element : Element) : Option Nat :=
  match element, e with
  | .character c, .plain => if isAscii c then some c.toNat else none
  | element, e =>
    match element.units? e with
    | some [n] => some n
    | _ => none

def signed (bits n : Nat) : Int :=
  let n := n % 1 <<< bits
  if n < 1 <<< (bits - 1) then n else (n : Int) - 1 <<< bits

/-- The encoding and the value of a character constant. Plain characters in a row make one
number. -/
def character? (text : String) : Option (Encoding × Int) := do
  let (encoding, marks) := Encoding.ofText text.toList
  let elements ← elements? 0 (inside marks text)
  let units ← elements.mapM (Element.unit? encoding)
  match encoding, units with
  | .plain, [n] => return (.plain, signed 8 n)
  | .plain, units => return (.plain, signed 32 (units.foldl (fun value n => 256 * value + n) 0))
  | .wide, [n] => return (.wide, signed 32 n)
  | encoding, [n] => return (encoding, n)
  | _, _ => none

end Literal

end BindingRepair.Native
