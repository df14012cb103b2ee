import BindingRepair.Source.Literal

namespace BindingRepair.Source

def directivePieces (s : List Char) : List (List Char) :=
  match s with
  | [] => []
  | '/' :: '/' :: _ => []
  | '"' :: rest =>
    let length := (rest.takeWhile (· ≠ '"')).length
    ('"' :: rest.take (length + 1)) :: directivePieces (rest.drop (length + 1))
  | c :: rest =>
    if c = ' ' || ('\t' ≤ c && c ≤ '\r') then directivePieces rest
    else
      let length := (rest.takeWhile Text.isIdentifierPart).length
      if Text.isIdentifierPart c then
        (c :: rest.take length) :: directivePieces (rest.drop length)
      else [c] :: directivePieces rest
termination_by s.length
decreasing_by all_goals simp only [List.length_drop, List.length_cons]; omega

namespace DirectivePiece

def isNumber (piece : List Char) : Bool :=
  !piece.isEmpty && digitsLength isDecimal piece = piece.length

def isString (piece : List Char) : Bool :=
  piece.head? = some '"' && 2 ≤ piece.length && piece.getLast? = some '"'

def isWordOrNumber (piece : List Char) : Bool :=
  isNumber piece || 0 < wordLength piece

def isSeries : List (List Char) → Bool
  | [piece] => isWordOrNumber piece
  | piece :: comma :: rest => isWordOrNumber piece && comma = [','] && isSeries rest
  | [] => false

def behindPosition? : List (List Char) → Option (List (List Char))
  | opening :: line :: comma :: column :: closing :: rest =>
    if opening = ['('] && isNumber line && comma = [','] && isNumber column && closing = [')'] then
      some rest
    else none
  | _ => none

end DirectivePiece

open DirectivePiece

/-- What may follow the word `line`: where the next line is said to stand. -/
def isLinePlace (pieces : List (List Char)) : Bool :=
  let isSpan :=
    match behindPosition? pieces with
    | some (['-'] :: second) =>
      match behindPosition? second with
      | some [file] => isString file
      | some [offset, file] => isNumber offset && isString file
      | _ => false
    | _ => false
  match pieces with
  | [piece] => piece = "default".toList || piece = "hidden".toList || isNumber piece
  | [piece, file] => isNumber piece && isString file
  | _ => isSpan

def isPragma : List (List Char) → Bool
  | [checksum, first, second, third] =>
    checksum = "checksum".toList && [first, second, third].all isString ||
      isWarning [checksum, first, second, third]
  | pieces => isWarning pieces
where
  isWarning : List (List Char) → Bool
    | warning :: state :: codes =>
      warning = "warning".toList && (state = "disable".toList || state = "restore".toList) &&
        (codes.isEmpty || isSeries codes)
    | _ => false

def isNullable : List (List Char) → Bool
  | state :: targets =>
    ["enable", "disable", "restore"].any (fun word => state = word.toList) &&
      (targets.isEmpty || targets = ["annotations".toList] || targets = ["warnings".toList])
  | [] => false

def isDirective (line : List Char) : Bool :=
  let behind? (word : String) : Option (List Char) :=
    if word.toList.isPrefixOf line then some (line.drop word.length) else none
  let isMessage (word : String) : Bool :=
    (behind? word).any fun rest => !(directivePieces rest).isEmpty
  (behind? "region").isSome || (behind? "endregion").isSome ||
    isMessage "error" || isMessage "warning" || isMessage "define" || isMessage "undef" ||
    (behind? "nullable").any (fun rest => isNullable (directivePieces rest)) ||
    (behind? "pragma").any (fun rest => isPragma (directivePieces rest)) ||
    (behind? "line").any fun rest => isLinePlace (directivePieces rest)

end BindingRepair.Source
