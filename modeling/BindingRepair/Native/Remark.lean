import BindingRepair.Native.Character

namespace BindingRepair.Native

structure Remark where
  start : Nat
  stop : Nat
  isTrailing : Bool
  deriving DecidableEq, Repr

namespace Remark

/-- Whether a comment is meant for documentation: its third character says so. The marks around it
must be whole. -/
def isDocumentation (text : List Char) : Bool :=
  match text with
  | '/' :: '/' :: mark :: _ => mark = '/' || mark = '!'
  | '/' :: '*' :: mark :: _ => (mark = '*' || mark = '!') && text.reverse.take 2 = ['/', '*']
  | _ => false

def pointsBack (text : List Char) : Bool :=
  text[3]? = some '<'

/-- Whether there is only white space in a text, and so many line ends at most. -/
def isGap : Nat → List Char → Bool
  | _, [] => true
  | 0, c :: rest => isSpace c && isGap 0 rest
  | n + 1, '\r' :: '\n' :: rest => isGap n rest
  | n + 1, '\n' :: '\r' :: rest => isGap n rest
  | n + 1, c :: rest => if endsLine c then isGap n rest else isSpace c && isGap (n + 1) rest

def between (text : Array Char) (start stop : Nat) : List Char :=
  (text.extract start stop).toList

/-- The remarks, the latest first, once a comment was read. It joins the one before it if both stand
on the same side of what they document and no empty line parts them. -/
def add (text : Array Char) (start stop : Nat) (remarks : List Remark) : List Remark :=
  let comment := between text start stop
  if !isDocumentation comment then remarks
  else
    let isTrailing := pointsBack comment
    match remarks with
    | [] => [{ start, stop, isTrailing }]
    | last :: rest =>
      if last.isTrailing = isTrailing && isGap 1 (between text last.stop start) then
        { start := last.start, stop, isTrailing := pointsBack (between text last.start stop) } ::
          rest
      else { start, stop, isTrailing } :: last :: rest

def parting : List Char := [';', '{', '}', '#', '@']

def before? (text : Array Char) (remarks : List Remark) (offset : Nat) : Option String :=
  match remarks.find? (·.start < offset) with
  | none => none
  | some r =>
    if r.isTrailing || (between text r.stop offset).any parting.contains then none
    else some (String.ofList (between text r.start r.stop))

end Remark

end BindingRepair.Native
