
namespace BindingRepair.Text

def after? : List Char → List Char → Option (List Char)
  | [], s => some s
  | _ :: _, [] => none
  | p :: ps, c :: cs => if p = c then after? ps cs else none

@[simp] theorem after?_nil (s : List Char) : after? [] s = some s := rfl

def splitFirst? (pattern : List Char) : List Char → Option (List Char × List Char)
  | [] => (after? pattern []).map ([], ·)
  | c :: cs =>
    match after? pattern (c :: cs) with
    | some rest => some ([], rest)
    | none => (splitFirst? pattern cs).map fun (before, rest) => (c :: before, rest)

def splitLast? (pattern : List Char) : List Char → Option (List Char × List Char)
  | [] => (after? pattern []).map ([], ·)
  | c :: cs =>
    match splitLast? pattern cs with
    | some (before, rest) => some (c :: before, rest)
    | none => (after? pattern (c :: cs)).map ([], ·)

def contains (s pattern : List Char) : Bool :=
  (splitFirst? pattern s).isSome

/-- Replaces the last occurrence of a text; a text without one stays as it is. -/
def replaceLast (old new s : List Char) : List Char :=
  match splitLast? old s with
  | some (before, rest) => before ++ new ++ rest
  | none => s

/-- Whether a token occurs where what precedes it (nearest character first) and what follows it
fit. -/
def occursWhere (fits : List Char → List Char → Bool) (token : List Char)
    (before : List Char) : List Char → Bool
  | [] => false
  | c :: cs =>
    (match after? token (c :: cs) with
      | some rest => fits before rest
      | none => false) ||
    occursWhere fits token (c :: before) cs

/-- Replaces a token wherever it occurs in fitting surroundings, from left to right and without
overlap. Surroundings are those of the text as it was; `skip` counts the characters of an occurrence
that are still to be passed over. -/
def replaceWhereFrom (fits : List Char → List Char → Bool) (token new : List Char)
    (before : List Char) : Nat → List Char → List Char
  | _, [] => []
  | skip + 1, c :: cs => replaceWhereFrom fits token new (c :: before) skip cs
  | 0, c :: cs =>
    if (after? token (c :: cs)).any (fits before) then
      new ++ replaceWhereFrom fits token new (c :: before) (token.length - 1) cs
    else
      c :: replaceWhereFrom fits token new (c :: before) 0 cs

def replaceWhere (fits : List Char → List Char → Bool) (token new s : List Char) : List Char :=
  replaceWhereFrom fits token new [] 0 s

def replaceAll (old new s : List Char) : List Char :=
  replaceWhere (fun _ _ => true) old new s

end BindingRepair.Text
