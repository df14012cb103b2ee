import BindingRepair.Native.Grammar.Tag
import BindingRepair.Native.Grammar.TypeWords

namespace BindingRepair.Native

structure SpecifierState where
  words : TypeWords := {}
  qualifiers : Qualifiers := {}
  isAtomic : Bool := false
  isNonnull : Bool := false
  storage : Option Storage := none
  isTypedef : Bool := false
  isThreadLocal : Bool := false
  isInline : Bool := false
  isNoreturn : Bool := false
  isInferred : Bool := false
  alignments : List Nat := []
  attributes : Attributes := {}
  tag : Option TagUse := none

namespace SpecifierState

def storageOf? : String → Option Storage
  | "extern" | "__private_extern__" => some .externStorage
  | "static" => some .staticStorage
  | "auto" => some .autoStorage
  | "register" => some .registerStorage
  | _ => none

def qualifierOf? : String → Option Qualifiers
  | "const" => some { isConst := true }
  | "volatile" => some { isVolatile := true }
  | "restrict" => some { isRestrict := true }
  | _ => none

def addStorage (s : SpecifierState) (storage : Storage) : Option SpecifierState :=
  if s.isTypedef || s.storage.any (· ≠ storage) then none
  else if s.isThreadLocal && (storage = .autoStorage || storage = .registerStorage) then none
  else some { s with storage := some storage }

def isIgnored (word : String) : Bool :=
  ["__cdecl", "__stdcall", "__fastcall", "__thiscall", "__vectorcall", "__regcall", "__pascal",
    "__module_private__", "__funcref"].contains word

def isNullability (word : String) : Bool :=
  ["_Nonnull", "_Nullable", "_Nullable_result", "_Null_unspecified"].contains word

end SpecifierState

namespace Specifiers

open SpecifierState

def checkAtomic (at_ : Token) (t : CType) : Parse Unit := do
  let u ← Parse.types
  if t.isArray || t.isFunction || !(u.isComplete t || t.isAnything) then
    Parse.failAt at_ "_Atomic cannot be applied to this type"

/-- Reads the type of an expression, or a type, behind the word that asks for it. -/
def typeofType (r : Readers) : Parse CType :=
  Parse.bracketed "(" ")" do
    if ← Expression.startsType (← Parse.peek) then r.typeName
    else
      let at_ ← Parse.peek
      let o ← r.expression
      if o.width.isSome then Parse.failAt at_ "invalid application of 'typeof' to bit-field"
      return o.type

def preciseType (r : Readers) : Parse CType :=
  Parse.bracketed "(" ")" do
    let at_ ← Parse.peek
    let (_, n) ← Expression.constantNumber r
    if n ≤ 0 || 8388608 < n then Parse.failAt at_ "bit sizes of this number are not supported"
    return .integer { rank := .precise n.toNat }

def alignment (r : Readers) : Parse Nat := do
  let at_ ← Parse.peek
  Parse.bracketed "(" ")" do
    if ← Expression.startsType (← Parse.peek) then
      let t ← r.typeName
      let u ← Parse.types
      if t.isFunction || !(u.isComplete t || t.isVoid || t.isAnything) then
        Parse.failAt at_ "invalid application of '_Alignas' to an incomplete type"
      return u.alignment t
    else
      let (_, n) ← Expression.constantNumber r
      if n = 0 then return 0 else Attribute.alignment at_ n

def word (r : Readers) (s : SpecifierState) (t : Token) (keyword : String) :
    Parse (Option SpecifierState) := do
  let combined (next : Option SpecifierState) : Parse (Option SpecifierState) := do
    match next with
    | none => Parse.fail "cannot combine with previous declaration specifier"
    | some next =>
      discard Parse.next
      return some next
  let typed (read : Parse CType) : Parse (Option SpecifierState) := do
    let type ← read
    match s.words.addType type with
    | some words => return some { s with words }
    | none => Parse.failAt t "cannot combine with previous declaration specifier"
  match storageOf? keyword, qualifierOf? keyword, Tag.kindOf? t with
  | some storage, _, _ => combined (s.addStorage storage)
  | _, some q, _ => combined (some { s with qualifiers := s.qualifiers.union q })
  | _, _, some kind =>
    let (tag, type) ← Tag.read r kind
    match s.words.addType type with
    | some words => return some { s with words, tag := some tag }
    | none => Parse.failAt t "cannot combine with previous declaration specifier"
  | _, _, _ =>
    match keyword with
    | "typedef" =>
      combined (if s.storage.isSome || s.isThreadLocal then none
        else some { s with isTypedef := true })
    | "_Thread_local" =>
      let isBad := s.isTypedef || s.storage = some .autoStorage || s.storage = some .registerStorage
      combined (if isBad then none else some { s with isThreadLocal := true })
    | "inline" => combined (some { s with isInline := true })
    | "_Noreturn" => combined (some { s with isNoreturn := true })
    | "_Alignas" =>
      discard Parse.next
      let n ← alignment r
      return some { s with alignments := n :: s.alignments }
    | "__attribute" => return some { s with attributes := s.attributes ++ (← Attribute.list r) }
    | "_Atomic" =>
      discard Parse.next
      if ← Parse.isNext "(" then
        typed do
          let type ← Parse.bracketed "(" ")" r.typeName
          checkAtomic t type
          match type with
          | .qualified q inner =>
            if !(q.agree {}) then Parse.failAt t "_Atomic cannot be applied to qualified type"
            return .atomic inner
          | .atomic _ => Parse.failAt t "_Atomic cannot be applied to atomic type"
          | type => return .atomic type
      else return some { s with isAtomic := true }
    | "__typeof" =>
      discard Parse.next
      typed (typeofType r)
    | "_BitInt" =>
      discard Parse.next
      typed (preciseType r)
    | "__auto_type" =>
      discard Parse.next
      let s := { s with isInferred := true }
      match s.words.addType .anything with
      | some words => return some { s with words }
      | none => Parse.failAt t "cannot combine with previous declaration specifier"
    | "_Imaginary" | "_Decimal32" | "_Decimal64" | "_Decimal128" | "__ibm128" =>
      Parse.fail "a type is not supported"
    | keyword =>
      if isIgnored keyword then
        discard Parse.next
        return some s
      else if isNullability keyword then
        discard Parse.next
        return some { s with isNonnull := true }
      else if TypeWords.kinds.contains keyword ||
          ["signed", "unsigned", "short", "long", "_Complex"].contains keyword then
        combined ((s.words.add keyword).map fun words => { s with words })
      else return none

/-- Takes all specifiers that come next. A name is one only if nothing was said about the type. -/
def collect (r : Readers) : Parse SpecifierState :=
  Parse.iterate (fun (s : SpecifierState) => do
    let t ← Parse.peek
    match t.keyword? with
    | some keyword =>
      match ← word r s t keyword with
      | some s => return .inl s
      | none => return .inr s
    | none =>
      if t.kind = .pragma && t.text.startsWith "pack" then
        Parse.pragma false
        return .inl s
      else if ← Attribute.areInBrackets then
        return .inl { s with attributes := s.attributes ++ (← Attribute.inBrackets r) }
      else if t.isName && !s.words.saysType then
        match ← Parse.lookup? t.text with
        | some { meaning := .typeName, type, .. } =>
          discard Parse.next
          match s.words.addType type with
          | some words => return .inl { s with words }
          | none => return .inr s
        | _ => return .inr s
      else return .inr s) {}

def typeOf (first : Token) (s : SpecifierState) : Parse CType := do
  match s.words.type? with
  | none =>
    if s.words.saysType then Parse.failAt first "a combination of type words is invalid"
    else return .int
  | some type =>
    let type ←
      if s.isAtomic then
        checkAtomic first type
        pure (match type with
          | .atomic t => .atomic t
          | .qualified q (.atomic t) => .qualified q (.atomic t)
          | t => CType.qualify t.qualifiers (.atomic t.bare))
      else pure type
    if s.qualifiers.isRestrict && !type.isPointer && !type.isAnything then
      Parse.failAt first "restrict requires a pointer or reference"
    if s.qualifiers.isRestrict && (type.target?.any CType.isFunction) then
      Parse.failAt first "pointer to function type may not be 'restrict' qualified"
    if s.isNonnull && !type.isPointer && !type.isAnything then
      Parse.failAt first "nullability specifier cannot be applied to non-pointer type"
    return if type.isFunction then type else type.qualify s.qualifiers

def check (setting : Setting) (first : Token) (s : SpecifierState) : Parse Unit := do
  match setting with
  | .parameter =>
    if s.isTypedef || s.isThreadLocal || s.storage.any (· ≠ .registerStorage) then
      Parse.failAt first "invalid storage class specifier in function declarator"
    if s.isInline || s.isNoreturn then Parse.failAt first "a parameter is not a function"
    if !s.alignments.isEmpty then
      Parse.failAt first "'_Alignas' attribute cannot be applied to a function parameter"
  | .typeName =>
    if s.isTypedef || s.isThreadLocal || s.storage.isSome then
      Parse.failAt first "type name does not allow storage class to be specified"
    if s.isInline || s.isNoreturn then
      Parse.failAt first "type name does not allow function specifier to be specified"
    if !s.alignments.isEmpty then
      Parse.failAt first "'_Alignas' attribute cannot be applied to types"
  | _ => pure ()
  if setting ≠ .file then
    if !s.words.saysType then Parse.fail "type specifier missing"
    if s.isInferred then Parse.failAt first "'__auto_type' not allowed here"

def read (r : Readers) (setting : Setting) : Parse Specifiers := do
  let first ← Parse.peek
  let s ← collect r
  let type ← Attribute.apply first s.attributes (← typeOf first s)
  check setting first s
  return {
    first
    type
    storage := s.storage
    isTypedef := s.isTypedef
    isThreadLocal := s.isThreadLocal
    isInline := s.isInline
    isNoreturn := s.isNoreturn
    isInferred := s.isInferred
    hasType := s.words.saysType
    alignments := s.alignments
    attributes := { s.attributes with vectorCount := none, vectorBytes := none, mode := none }
    tag := s.tag }

def typeName (r : Readers) : Parse CType := do
  let s ← r.specifiers .typeName
  let d ← r.declarator .typeName
  if d.hasStrayParameterArray false then
    Parse.failAt s.first "'static' or qualifiers used outside of function prototype"
  d.typeOf s.first s.type

end Specifiers

end BindingRepair.Native
