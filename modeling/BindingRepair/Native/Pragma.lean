import BindingRepair.Native.Preprocessing

namespace BindingRepair.Native.Pragma

/-- The pragmas that are passed on: layouts and visibility, and those that belong into functions. -/
def passed : List String :=
  ["pack", "unroll", "nounroll", "unroll_and_jam", "nounroll_and_jam"]

def quotedName? : List Token → Option String
  | opener :: name :: closer :: _ =>
    if opener.isSymbol "(" && name.kind = .string && closer.isSymbol ")" then
      some (String.ofList ((name.text.toList.drop 1).dropLast))
    else none
  | _ => none

def passedText (tokens : List Token) : String :=
  " ".intercalate (tokens.map (·.text))

def pass (p : Preprocessing) (place : Token) (tokens : List Token) : Preprocessing :=
  let t : Token := { place with kind := .pragma, text := passedText tokens }
  { p with tokens := t :: p.tokens }

def isMessage (tokens : List Token) : Bool :=
  match tokens with
  | opener :: rest =>
    if opener.isSymbol "(" then
      match rest.dropWhile (·.kind = .string) with
      | closer :: after => rest.head?.any (·.kind = .string) && closer.isSymbol ")" && after.isEmpty
      | [] => false
    else tokens.all (·.kind = .string)
  | [] => false

def isLinkerComment (tokens : List Token) : Bool :=
  let kinds := ["lib", "linker", "compiler", "exestr", "user"]
  match tokens with
  | opener :: kind :: rest =>
    opener.isSymbol "(" && kinds.contains kind.text &&
      match rest with
      | [closer] => closer.isSymbol ")"
      | comma :: rest =>
        comma.isSymbol "," && isMessage ({ opener with text := "(" } :: rest) ||
          (kind.text ≠ "lib" && kinds.contains kind.text)
      | [] => false
  | _ => false

def obeyVendor (files : FileTree) (p : Preprocessing) (place : Token) (vendor : String)
    (tokens : List Token) : Except HeaderFault Preprocessing :=
  match tokens with
  | [] => .ok p
  | verb :: rest =>
    match verb.text with
    | "poison" =>
      match rest.find? (!·.isWord) with
      | some t => .error (t.fault "can only poison identifier tokens")
      | none => .ok { p with poisoned := rest.map (·.text) ++ p.poisoned }
    | "dependency" =>
      match Inquiry.headerName? p.macros 1 (rest.take 1) with
      | some (false, name) =>
        if files.isFile (p.visit.path.parent.child name) then .ok p
        else .error (verb.fault ("'" ++ name ++ "' file not found"))
      | _ => .error (verb.fault "expected \"FILENAME\" or <FILENAME>")
    | "error" | "warning" =>
      if vendor = "GCC" && (verb.text = "error" || !isMessage rest) then
        .error (verb.fault "a pragma is an error, or lacks its message")
      else .ok p
    | "optimize" =>
      let isSwitch := match rest with
        | [t] => t.isNamed "on" || t.isNamed "off"
        | _ => false
      if vendor = "clang" && !isSwitch then .error (verb.fault "expected 'on' or 'off'") else .ok p
    | "attribute" =>
      match vendor, rest.head?.map (·.text) with
      | "clang", some "push" => .ok { p with attributes := p.attributes + 1 }
      | "clang", some "pop" =>
        if p.attributes = 0 then .error (verb.fault "attribute pop with no matching push")
        else .ok { p with attributes := p.attributes - 1 }
      | _, _ => .ok p
    | "visibility" => .ok (if vendor = "GCC" then pass p place (verb :: rest) else p)
    | "loop" => .ok (if vendor = "clang" then pass p place [verb] else p)
    | "assume_nonnull" =>
      match vendor, rest.head?.map (·.text) with
      | "clang", some "begin" =>
        if p.nonnull = 0 then .ok { p with nonnull := 1 }
        else .error (verb.fault "already inside '#pragma clang assume_nonnull'")
      | "clang", some "end" =>
        if p.nonnull = 1 then .ok { p with nonnull := 0 }
        else .error (verb.fault "not currently inside '#pragma clang assume_nonnull'")
      | "clang", _ => .error (verb.fault "expected 'begin' or 'end'")
      | _, _ => .ok p
    | _ => .ok p

def obey (files : FileTree) (p : Preprocessing) (place : Token) (tokens : List Token) :
    Except HeaderFault Preprocessing :=
  match tokens with
  | [] => .ok p
  | verb :: rest =>
    let named (change : Preprocessing → String → Preprocessing) :
        Except HeaderFault Preprocessing :=
      match quotedName? rest with
      | some name => .ok (change p name)
      | none => .error (verb.fault ("pragma " ++ verb.text ++ " requires a parenthesized string"))
    match verb.text with
    | "once" =>
      .ok (if p.visit.level = 0 then p else { p with once := p.visit.path.settled :: p.once })
    | "GCC" => obeyVendor files p place "GCC" rest
    | "clang" => obeyVendor files p place "clang" rest
    | "push_macro" => named .save
    | "pop_macro" => named .restore
    | "comment" =>
      if isLinkerComment rest then .ok p else .error (verb.fault "a pragma comment is malformed")
    | "message" => do
      let (rest, p) ← p.expandAll files false rest
      if isMessage rest then return p
      else throw (verb.fault "pragma message requires parenthesized string")
    | word =>
      if passed.contains word then do
        let (rest, p) ← p.expandAll files false rest
        return pass p place (verb :: rest)
      else .ok p

def operand (text : String) : List Char :=
  let s := text.toList
  let s := if s.head? = some 'L' then s.drop 1 else s
  unescape ((s.drop 1).dropLast)
where
  unescape : List Char → List Char
    | '\\' :: c :: rest =>
      if c = '"' || c = '\\' then c :: unescape rest else '\\' :: unescape (c :: rest)
    | c :: rest => c :: unescape rest
    | [] => []

def addAll (files : FileTree) (p : Preprocessing) : Nat → List Token →
    Except HeaderFault Preprocessing
  | 0, _ => .ok p
  | _, [] => .ok p
  | steps + 1, t :: tokens =>
    if !t.isNamed "_Pragma" then addAll files { p with tokens := t :: p.tokens } steps tokens
    else
      match tokens with
      | opener :: s :: closer :: rest =>
        if opener.isSymbol "(" && s.kind = .string && closer.isSymbol ")" then do
          let lines := Line.ofText 0 (operand s.text)
          let inside := lines.flatMap fun line => line.tokens.map fun u =>
            { u with place := t.place, written := none }
          addAll files (← obey files p t inside) steps rest
        else .error (t.fault "_Pragma takes a parenthesized string literal")
      | _ => .error (t.fault "_Pragma takes a parenthesized string literal")

end BindingRepair.Native.Pragma
