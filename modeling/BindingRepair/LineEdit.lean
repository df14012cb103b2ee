import BindingRepair.Text.Blank
import BindingRepair.Text.Search
import BindingRepair.Text.Word

namespace BindingRepair.LineEdit

open Text

/-- The surroundings of a whole word. -/
def wholeWord (before after : List Char) : Bool :=
  clearBefore before && clearAfter after

def nativeInteger? (line : List Char) : Option (List Char) :=
  if occursWhere wholeWord "nuint".toList [] line then
    some (replaceWhere wholeWord "nuint".toList "uint".toList line)
  else none

/-- What is left of an assignment operator that was called like a method. -/
def operatorArtifact : List Char := ".operator=".toList

def operatorCall? (line : List Char) : Option (List Char) :=
  if contains line operatorArtifact then some (replaceAll operatorArtifact "=".toList line)
  else none

def vtableAccess : List Char := "(self)->vtbl".toList

def addressCast : List Char := "(&(".toList

def hasVtableCast (line : List Char) : Bool :=
  contains line vtableAccess && contains line addressCast

/-- The parenthesis that closes the cast moves from behind the access to the table to behind `self`,
and the address that follows is taken after its cast. -/
def vtableCast? (line : List Char) : Option (List Char) :=
  (splitFirst? vtableAccess line).bind fun (before, rest) =>
    (splitFirst? [')'] rest).map fun (access, tail) =>
      replaceAll addressCast "(&((".toList
        (replaceAll "(self)->".toList "self)->".toList (before ++ vtableAccess ++ access ++ tail))

def callEnd : List Char := ");".toList

def boolReturn? (line : List Char) : Option (List Char) :=
  if contains line "bool __ret".toList && contains line callEnd then
    some (replaceLast callEnd ") != 0;".toList line)
  else none

def byteArgument? (line : List Char) : Option (List Char) :=
  if contains line callEnd then
    some (replaceLast callEnd " ? (byte)0x1 : (byte)0x0);".toList line)
  else none

def castBefore : List Char := "(uint)".toList.reverse

def uncastSize (before after : List Char) : Bool :=
  clearBefore before && (after? castBefore before).isNone && (after? ['('] after).isSome

def sizeOperator? (line : List Char) : Option (List Char) :=
  if occursWhere uncastSize "sizeof".toList [] line then
    some (replaceWhere uncastSize "sizeof".toList "(uint)sizeof".toList line)
  else none

def isNameStart (c : Char) : Bool :=
  c.isAlpha || c = '_'

/-- Whether a text is a path of names with dots or arrows between them. `starting` says that a name
must start here. -/
def isPathFrom : Bool → List Char → Bool
  | true, [] => false
  | true, c :: rest => isNameStart c && isPathFrom false rest
  | false, [] => true
  | false, '-' :: '>' :: rest => isPathFrom true rest
  | false, '.' :: rest => isPathFrom true rest
  | false, c :: rest => isWord c && isPathFrom false rest

def isPath (s : List Char) : Bool :=
  isPathFrom true s

/-- What precedes the last argument of a text: it starts after a comma or an opening parenthesis. -/
def splitLastArgument? : List Char → Option (List Char × List Char)
  | [] => none
  | c :: rest =>
    match splitLastArgument? rest with
    | some (head, argument) => some (c :: head, argument)
    | none => if c = ',' || c = '(' then some ([c], rest) else none

/-- The last argument of a call at the end of a line is cast to the type of sizes, if it is a path
of names. -/
def sizeArgument? (line : List Char) : Option (List Char) :=
  let body := trimEnd line
  let tail := line.drop body.length
  match splitLast? callEnd body with
  | some (call, []) =>
    (splitLastArgument? call).bind fun (head, argument) =>
      let path := trimStart argument
      if isPath path then
        some (head ++ argument.take (argument.length - path.length) ++ "(uint)".toList ++ path ++
          callEnd ++ tail)
      else none
  | _ => none

/-- An argument becomes a size: size operators are cast, or else the size of a block copy. -/
def uintArgument? (line : List Char) : Option (List Char) :=
  match sizeOperator? line with
  | some fixed => some fixed
  | none => if contains line "CopyBlock".toList then sizeArgument? line else none

def bareCall (before after : List Char) : Bool :=
  clearBefore before && before.head? ≠ some '.' && (after? ['('] (trimStart after)).isSome

def realloc? (line : List Char) : Option (List Char) :=
  if occursWhere bareCall "realloc".toList [] line then
    some (replaceWhere bareCall "realloc".toList "NativeMemory.Realloc".toList line)
  else none

def quotedName? (s : List Char) : Option (List Char) :=
  let name := s.takeWhile (· ≠ '\'')
  if name ≠ [] && (s.drop name.length).head? = some '\'' then some name else none

/-- The type that a message wants a value converted to: the first name in quotes after the word
`to`. -/
def conversionTarget? (before : List Char) : List Char → Option (List Char)
  | [] => none
  | c :: rest =>
    let here :=
      if clearBefore before then (after? "to '".toList (c :: rest)).bind quotedName? else none
    match here with
    | some name => some name
    | none => conversionTarget? (c :: before) rest

end BindingRepair.LineEdit
