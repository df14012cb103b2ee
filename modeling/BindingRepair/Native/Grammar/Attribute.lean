import BindingRepair.Native.Feature
import BindingRepair.Native.Grammar.Primary

namespace BindingRepair.Native.Attribute

inductive ArgumentKind
  | number
  | text
  | any
  deriving DecidableEq, Repr

structure Shape where
  least : Nat := 0
  most : Nat := 0
  kind : ArgumentKind := .any

def plainNames : List String :=
  Builtin.words [
    "packed noreturn const pure unused used weak always_inline noinline cold hot naked nothrow",
    "gnu_inline may_alias transparent_union flatten leaf artificial returns_nonnull returns_twice",
    "common nocommon warn_unused_result no_instrument_function nodebug flag_enum stdcall cdecl",
    "fastcall thiscall vectorcall regcall pascal ms_abi sysv_abi retain noduplicate convergent",
    "no_sanitize_address no_sanitize_thread no_sanitize_memory no_split_stack no_stack_protector",
    "analyzer_noreturn weak_import overloadable no_destroy always_destroy uninitialized",
    "minsize optnone nomerge warn_unused internal_linkage preserve_all preserve_most",
    "nouwtable trivial_abi noescape objc_exception not_tail_called selectany"]

def shapes : List (String × Shape) :=
  [("aligned", ⟨0, 1, .number⟩), ("vector_size", ⟨1, 1, .number⟩),
    ("ext_vector_type", ⟨1, 1, .number⟩), ("mode", ⟨1, 1, .any⟩), ("section", ⟨1, 1, .text⟩),
    ("visibility", ⟨1, 1, .text⟩), ("type_visibility", ⟨1, 1, .text⟩), ("alias", ⟨1, 1, .text⟩),
    ("ifunc", ⟨1, 1, .text⟩), ("weakref", ⟨0, 1, .text⟩), ("tls_model", ⟨1, 1, .text⟩),
    ("deprecated", ⟨0, 2, .text⟩), ("unavailable", ⟨0, 1, .text⟩), ("error", ⟨1, 1, .text⟩),
    ("warning", ⟨1, 1, .text⟩), ("target", ⟨1, 1, .text⟩), ("no_sanitize", ⟨1, 100, .text⟩),
    ("annotate", ⟨1, 100, .any⟩), ("alloc_size", ⟨1, 2, .number⟩), ("nonnull", ⟨0, 100, .number⟩),
    ("format", ⟨3, 3, .any⟩), ("format_arg", ⟨1, 1, .number⟩), ("sentinel", ⟨0, 2, .number⟩),
    ("constructor", ⟨0, 1, .number⟩), ("destructor", ⟨0, 1, .number⟩),
    ("regparm", ⟨1, 1, .number⟩), ("assume_aligned", ⟨1, 2, .number⟩),
    ("alloc_align", ⟨1, 1, .number⟩), ("address_space", ⟨1, 1, .number⟩),
    ("align_value", ⟨1, 1, .number⟩), ("min_vector_width", ⟨1, 1, .number⟩),
    ("enum_extensibility", ⟨1, 1, .any⟩), ("pass_object_size", ⟨1, 1, .number⟩),
    ("pass_dynamic_object_size", ⟨1, 1, .number⟩), ("cleanup", ⟨1, 1, .any⟩),
    ("malloc", ⟨0, 2, .any⟩), ("asm", ⟨1, 1, .text⟩)]

def unreadNames : List String :=
  Builtin.words [
    "availability external_source_symbol objc_bridge objc_bridge_mutable objc_bridge_related",
    "argument_with_type_tag pointer_with_type_tag type_tag_for_datatype swift_newtype swift_wrapper",
    "enable_if diagnose_if guarded_by pt_guarded_by acquired_after acquired_before",
    "acquire_capability acquire_shared_capability release_capability release_shared_capability",
    "requires_capability requires_shared_capability try_acquire_capability locks_excluded",
    "assert_capability lock_returned exclusive_locks_required shared_locks_required capability",
    "exclusive_lock_function shared_lock_function unlock_function iboutletcollection ns_error_domain",
    "ownership_holds ownership_returns ownership_takes callback swift_async swift_name swift_attr",
    "swift_private swift_bridge swift_error objc_runtime_name preferred_name vec_type_hint"]

def namingNames : List String :=
  ["mode", "format", "enum_extensibility", "objc_method_family", "malloc"]

/-- An argument: a name that need not be declared, or a value. -/
inductive Argument
  | name (t : Token)
  | value (t : Token) (o : Operand)
  deriving Inhabited

def skipBalanced : Parse Unit := do
  Parse.expect "("
  Parse.iterate (fun (depth : Nat) => do
    if ← Parse.isAtEnd then Parse.fail "expected ')'"
    let t ← Parse.next
    if t.isSymbol "(" then return .inl (depth + 1)
    else if t.isSymbol ")" then return if depth = 0 then .inr () else .inl (depth - 1)
    else return .inl depth) 0

def arguments (r : Readers) (name : String) : Parse (List Argument) :=
  Parse.bracketed "(" ")" do
    let mayName := namingNames.contains name || !Feature.attributes.contains name
    let first ← Parse.peek
    let second ← Parse.peekSecond
    if first.isSymbol ")" then return []
    let value : Parse Argument := do
      let t ← Parse.peek
      return .value t (← r.assignment)
    if mayName && first.isName && (second.isSymbol ")" || second.isSymbol ",") then
      discard Parse.next
      if ← Parse.accept "," then return .name first :: (← Parse.separated value)
      else return [.name first]
    else Parse.separated value

def number (t : Token) (a : Argument) : Parse Int := do
  match a with
  | .value _ o =>
    let w ← Parse.world
    let o := o.use w
    match o.constant with
    | some (.number n) => if w.types.isInteger o.type then return n else pure ()
    | some .fixed => return 1
    | _ => pure ()
    Parse.failAt t "attribute requires an integer constant"
  | .name t => Parse.failAt t "attribute requires an integer constant"

def check (t : Token) (name : String) (given : List Argument) : Parse Unit := do
  if plainNames.contains name && !given.isEmpty then
    Parse.failAt t ("'" ++ name ++ "' attribute takes no arguments")
  match shapes.lookup name with
  | none => pure ()
  | some shape =>
    if given.length < shape.least || shape.most < given.length then
      Parse.failAt t ("wrong number of arguments of attribute '" ++ name ++ "'")
    match shape.kind with
    | .any => pure ()
    | .number => given.forM fun a => discard (number t a)
    | .text => given.forM fun a =>
      match a with
      | .value _ { text := some (.plain, _), .. } => pure ()
      | _ => Parse.failAt t ("attribute '" ++ name ++ "' requires a string")

def alignment (t : Token) (n : Int) : Parse Nat := do
  let n' := n.toNat
  if n ≤ 0 || n' ≠ 1 <<< n'.log2 then Parse.failAt t "requested alignment is not a power of 2"
  if 1 <<< 32 < n' then Parse.failAt t "requested alignment is too great"
  return n'

def meaning (t : Token) (name : String) (given : List Argument) : Parse Attributes := do
  let first := given.head?
  let firstNumber : Parse Int := first.elim (pure 0) (number t)
  match name with
  | "aligned" =>
    if given.isEmpty then return { alignment := 16 }
    else return { alignment := ← alignment t (← firstNumber) }
  | "packed" => return { isPacked := true }
  | "transparent_union" => return { isTransparent := true }
  | "overloadable" => return { isOverloadable := true }
  | "weak" | "weakref" => return { isWeak := true }
  | "vector_size" =>
    let n ← firstNumber
    if n ≤ 0 then Parse.failAt t "zero vector size"
    return { vectorBytes := some n.toNat }
  | "ext_vector_type" =>
    let n ← firstNumber
    if n ≤ 0 then Parse.failAt t "zero vector size"
    return { vectorCount := some n.toNat }
  | "mode" =>
    match first with
    | some (.name n) => return { mode := some (Feature.plainName n.text) }
    | _ => Parse.failAt t "'mode' attribute requires an identifier"
  | "nonnull" | "alloc_size" | "format_arg" | "alloc_align" =>
    return { indices := ← given.mapM (number t) }
  | "format" =>
    match given with
    | [.name _, a, b] =>
      let index ← number t a
      discard (number t b)
      return { indices := [index] }
    | _ => Parse.failAt t "'format' attribute requires an identifier"
  | _ => return {}

def single (r : Readers) : Parse Attributes := do
  let t ← Parse.peek
  if !t.isWord then return {}
  else
    discard Parse.next
    let name := Feature.plainName t.text
    if !(← Parse.isNext "(") then
      check t name []
      meaning t name []
    else if unreadNames.contains name then
      skipBalanced
      return {}
    else
      let given ← arguments r name
      check t name given
      meaning t name given

def list (r : Readers) : Parse Attributes := do
  discard Parse.next
  Parse.bracketed "(" ")" do
    Parse.bracketed "(" ")" do
      Parse.iterate (fun (a : Attributes) => do
        if ← Parse.accept "," then return .inl a
        else if ← Parse.isNext ")" then return .inr a
        else
          if !(← Parse.peek).isWord then Parse.fail "expected ')'"
          let b ← single r
          if !(← Parse.isNext ",") && !(← Parse.isNext ")") then Parse.fail "expected ')'"
          return .inl (a ++ b)) {}

def areInBrackets : Parse Bool := do
  return (← Parse.isNext "[") && (← Parse.peekSecond).isSymbol "["

def bracketedOne (r : Readers) : Parse Attributes := do
  let t ← Parse.next
  if !t.isWord then Parse.failAt t "expected an attribute"
  let isScoped ← do
    if ← Parse.accept ":" then
      Parse.expect ":"
      pure true
    else pure false
  let name ← if isScoped then Parse.next else pure t
  if !name.isWord then Parse.failAt name "expected an attribute"
  let isKnown := isScoped && (Feature.plainName t.text = "gnu" || Feature.plainName t.text = "clang")
  let word := Feature.plainName name.text
  if ← Parse.isNext "(" then
    if isKnown && !unreadNames.contains word then
      let given ← arguments r word
      check name word given
      meaning name word given
    else
      skipBalanced
      return {}
  else if isKnown then
    check name word []
    meaning name word []
  else return {}

def inBrackets (r : Readers) : Parse Attributes :=
  Parse.iterate (fun (a : Attributes) => do
    if !(← areInBrackets) then return .inr a
    else
      let b ← Parse.bracketed "[" "]" do
        Parse.bracketed "[" "]" do
          Parse.iterate (fun (a : Attributes) => do
            if ← Parse.accept "," then return .inl a
            else if ← Parse.isNext "]" then return .inr a
            else
              let b ← bracketedOne r
              if !(← Parse.isNext ",") && !(← Parse.isNext "]") then Parse.fail "expected ']'"
              return .inl (a ++ b)) {}
      return .inl (a ++ b)) {}

def all (r : Readers) : Parse Attributes :=
  Parse.iterate (fun (a : Attributes) => do
    if ← Parse.isNextKeyword "__attribute" then return .inl (a ++ (← list r))
    else if ← areInBrackets then return .inl (a ++ (← inBrackets r))
    else return .inr a) {}

def assemblerName : Parse Unit := do
  if ← Parse.acceptKeyword "__asm" then
    Parse.bracketed "(" ")" do
      if (← Parse.peek).kind ≠ .string then Parse.fail "expected string literal in 'asm'"
      discard Expression.moreStrings

def ofMode? (mode : String) (isSigned isFloating : Bool) : Option CType :=
  let integer (rank : Rank) : Option CType :=
    if isFloating then none else some (.integer { rank, isSigned })
  let real (f : FloatingType) : Option CType := if isFloating then some (.floating f) else none
  match mode with
  | "QI" | "byte" => integer .char
  | "HI" => integer .short
  | "SI" => integer .int
  | "DI" | "word" | "pointer" | "unwind_word" => integer .long
  | "TI" => integer .int128
  | "HF" => real .half
  | "SF" => real .single
  | "DF" => real .double
  | "XF" => real .extended
  | "TF" => real .quadruple
  | _ => none

def apply (t : Token) (a : Attributes) (type : CType) : Parse CType := do
  let u ← Parse.types
  let type ←
    match a.mode with
    | none => pure type
    | some mode =>
      let isComplex := mode.length = 2 && mode.toList.getLast? = some 'C'
      let isSigned := ((u.integer? type).map (·.isSigned)).getD true
      match if isComplex then some type else ofMode? mode isSigned (TypeTable.isFloating type) with
      | some changed =>
        if !u.isInteger type && !TypeTable.isFloating type && !isComplex then
          Parse.failAt t "mode attribute only supported for integer and floating-point types"
        pure (changed.qualify type.qualifiers)
      | none => Parse.failAt t "unknown machine mode"
  let vector (count : Nat) : Parse CType := do
    let isElement := match type.bare with
      | .integer { rank := .bool, .. } => a.vectorCount.isSome
      | .integer _ | .floating _ | .anything => true
      | .pointer _ => false
      | _ => false
    if !isElement then Parse.failAt t "invalid vector element type"
    return (CType.vector type.bare count).qualify type.qualifiers
  match a.vectorBytes, a.vectorCount with
  | some bytes, _ =>
    let size := u.size type
    if size = 0 || bytes % size ≠ 0 then
      Parse.failAt t "vector size not an integral multiple of component size"
    vector (bytes / size)
  | none, some count => vector count
  | none, none => return type

end BindingRepair.Native.Attribute
