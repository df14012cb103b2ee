import BindingRepair.Proofs.LineEdit.Words
import BindingRepair.Proofs.Text.Occurrence

namespace BindingRepair

namespace LineEdit

open Text

/-- A name starts with a letter without accents or an underscore; word characters follow. -/
def IsName (s : List Char) : Prop :=
  ∃ c rest, s = c :: rest ∧ isNameStart c = true ∧ ∀ d ∈ rest, isWord d = true

/-- Names that are joined by arrows and dots. -/
inductive NamePath : List Char → Prop
  | name {name : List Char} (named : IsName name) : NamePath name
  | join {name joint path : List Char} (named : IsName name)
      (joins : joint = "->".toList ∨ joint = ".".toList) (rest : NamePath path) :
      NamePath (name ++ joint ++ path)

variable {name path s : List Char} {c : Char}

theorem IsName.append_word (named : IsName name) (word : isWord c = true) :
    IsName (name ++ [c]) := by
  obtain ⟨first, rest, rfl, starts, words⟩ := named
  refine ⟨first, rest ++ [c], rfl, starts, fun d member => ?_⟩
  rcases List.mem_append.mp member with inside | last
  · exact words d inside
  · rwa [List.mem_singleton.mp last]

theorem isPathFrom_word (word : isWord c = true) :
    isPathFrom false (c :: s) = isPathFrom false s := by
  have noArrow : c ≠ '-' := fun same => absurd (same ▸ word) (by decide)
  have noDot : c ≠ '.' := fun same => absurd (same ▸ word) (by decide)
  rw [isPathFrom, word, Bool.true_and]
  · exact fun rest same => absurd same noArrow
  · exact noDot

theorem isPath_name_append (named : IsName name) :
    isPath (name ++ s) = isPathFrom false s := by
  obtain ⟨c, rest, rfl, starts, words⟩ := named
  rw [isPath, List.cons_append, isPathFrom, starts, Bool.true_and]
  induction rest with
  | nil => rfl
  | cons d rest induction =>
      obtain ⟨here, later⟩ := List.forall_mem_cons.mp words
      rw [List.cons_append, isPathFrom_word here, induction later]

theorem NamePath.isPath_eq (path : NamePath s) : isPath s = true := by
  induction path with
  | @name name named => simpa [isPathFrom] using isPath_name_append (s := []) named
  | join named joins rest induction =>
      rw [List.append_assoc, isPath_name_append named]
      rcases joins with rfl | rfl
      · exact induction
      · exact induction

theorem namePath_of_isPathFrom {starting : Bool} (path : isPathFrom starting s = true)
    (begun : if starting then name = [] else IsName name) : NamePath (name ++ s) := by
  induction starting, s using isPathFrom.induct generalizing name with
  | case1 => cases path
  | case2 c rest induction =>
      obtain ⟨starts, later⟩ := Bool.and_eq_true_iff.mp path
      obtain rfl : name = [] := begun
      have named : IsName [c] := ⟨c, [], rfl, starts, by simp⟩
      exact induction later named
  | case3 => simpa using NamePath.name begun
  | case4 rest induction =>
      have later : NamePath ([] ++ rest) := induction path rfl
      simpa using NamePath.join begun (.inl rfl) later
  | case5 rest induction =>
      have later : NamePath ([] ++ rest) := induction path rfl
      simpa using NamePath.join begun (.inr rfl) later
  | case6 c rest notArrow notDot induction =>
      rw [isPathFrom, Bool.and_eq_true] at path
      · simpa using induction path.2 (IsName.append_word begun path.1)
      · exact notArrow
      · exact notDot

theorem isPath_iff : isPath s = true ↔ NamePath s :=
  ⟨fun path => namePath_of_isPathFrom path rfl, NamePath.isPath_eq⟩

theorem NamePath.starts (path : NamePath s) :
    ∃ c rest, isNameStart c = true ∧ s = c :: rest := by
  cases path with
  | name named =>
      obtain ⟨c, rest, rfl, starts, _⟩ := named
      exact ⟨c, rest, starts, rfl⟩
  | join named joins later =>
      obtain ⟨c, rest, rfl, starts, _⟩ := named
      exact ⟨c, _, starts, rfl⟩

theorem isBlank_of_isNameStart (starts : isNameStart c = true) : isBlank c = false := by
  rcases Bool.or_eq_true_iff.mp starts with letter | underscore
  · have upperBounds (upper : c.isUpper = true) : 65 ≤ c.toNat ∧ c.toNat ≤ 90 :=
      of_decide_eq_true upper
    have lowerBounds (lower : c.isLower = true) : 97 ≤ c.toNat ∧ c.toNat ≤ 122 :=
      (Bool.and_eq_true_iff.mp lower).imp of_decide_eq_true of_decide_eq_true
    have bounds := (Bool.or_eq_true_iff.mp letter).imp upperBounds lowerBounds
    exact isBlank_of_bounds (by omega) (by omega)
  · rw [of_decide_eq_true underscore]
    decide

/-- A line that ends in a call with a path of names as its last argument, cut apart: what precedes
the argument, white space, the path, and white space behind the call. -/
@[ext]
structure PathCall where
  head : List Char
  blanks : List Char
  path : List Char
  tail : List Char
  separated : head.getLast? = some ',' ∨ head.getLast? = some '('
  blank : ∀ c ∈ blanks, isBlank c = true
  named : NamePath path
  trailing : ∀ c ∈ tail, isBlank c = true

namespace PathCall

def text (call : PathCall) : List Char :=
  call.head ++ call.blanks ++ call.path ++ callEnd ++ call.tail

def cast (call : PathCall) : List Char :=
  call.head ++ call.blanks ++ "(uint)".toList ++ call.path ++ callEnd ++ call.tail

variable {line : List Char}

def ofLastArgument {head blanks path tail : List Char}
    (last : LastArgument line head blanks path tail) : PathCall where
  head
  blanks
  path
  tail
  separated := by
    obtain ⟨front, c, rfl, separator⟩ := last.starts
    simpa [IsSeparator] using separator
  blank := last.blank
  named := isPath_iff.mp last.named
  trailing := last.trailing

theorem lastArgument (call : PathCall) :
    LastArgument call.text call.head call.blanks call.path call.tail where
  whole := rfl
  starts := by
    rcases call.separated with ends | ends
    · obtain ⟨front, whole⟩ := List.getLast?_eq_some_iff.mp ends
      exact ⟨front, ',', whole, .inl rfl⟩
    · obtain ⟨front, whole⟩ := List.getLast?_eq_some_iff.mp ends
      exact ⟨front, '(', whole, .inr rfl⟩
  blank := call.blank
  named := call.named.isPath_eq
  trailing := call.trailing

theorem not_separator (call : PathCall) : ∀ c ∈ call.blanks ++ call.path, ¬ IsSeparator c := by
  intro c member
  rcases List.mem_append.mp member with blank | named
  · rintro (rfl | rfl)
    · exact absurd (call.blank _ blank) (by decide)
    · exact absurd (call.blank _ blank) (by decide)
  · exact (not_mem_of_isPath call.named.isPath_eq named).1

theorem trimEnd_text (call : PathCall) :
    trimEnd call.text = call.head ++ call.blanks ++ call.path ++ callEnd := by
  rw [text, trimEnd_append_of_blank _ call.trailing, trimEnd_callEnd]

theorem trimStart_argument (call : PathCall) :
    trimStart (call.blanks ++ call.path) = call.path := by
  rw [trimStart, List.dropWhile_append_of_pos call.blank]
  obtain ⟨c, rest, starts, whole⟩ := call.named.starts
  rw [whole]
  exact (stops_cons (isBlank_of_isNameStart starts) rest).dropWhile_eq

theorem splitLastArgument?_call (call : PathCall) :
    splitLastArgument? (call.head ++ call.blanks ++ call.path) =
      some (call.head, call.blanks ++ call.path) := by
  obtain ⟨front, c, whole, separator⟩ := call.lastArgument.starts
  rw [whole, List.append_assoc, List.append_assoc]
  exact splitLastArgument?_append separator call.not_separator

theorem text_injective {call other : PathCall} (same : call.text = other.text) : call = other := by
  have bodies := congrArg trimEnd same
  rw [trimEnd_text, trimEnd_text] at bodies
  have tails : call.tail = other.tail := by
    unfold text at same
    rw [bodies] at same
    exact List.append_cancel_left same
  have calls := congrArg splitLastArgument? (List.append_cancel_right bodies)
  rw [splitLastArgument?_call, splitLastArgument?_call] at calls
  obtain ⟨heads, arguments⟩ := Prod.mk.inj (Option.some.inj calls)
  have paths := congrArg trimStart arguments
  rw [trimStart_argument, trimStart_argument] at paths
  rw [paths] at arguments
  exact PathCall.ext heads (List.append_cancel_right arguments) paths tails

theorem sizeArgument?_text (call : PathCall) : sizeArgument? call.text = some call.cast := by
  obtain ⟨front, c, whole, separator⟩ := call.lastArgument.starts
  have cut : call.text = front ++ c :: (call.blanks ++ call.path) ++ callEnd ++ call.tail := by
    simp [text, whole]
  have blanks : (call.blanks ++ call.path).take
      ((call.blanks ++ call.path).length - call.path.length) = call.blanks := by
    simp
  rw [cut, sizeArgument?_of_call separator call.not_separator call.trailing,
    call.trimStart_argument, if_pos call.named.isPath_eq, blanks, ← whole]
  rfl

end PathCall

theorem sizeArgument?_eq_some_iff {line edited : List Char} :
    sizeArgument? line = some edited ↔
      ∃ call : PathCall, call.text = line ∧ edited = call.cast := by
  constructor
  · intro answer
    obtain ⟨head, blanks, path, tail, last, whole⟩ := exists_lastArgument_of_sizeArgument? answer
    exact ⟨.ofLastArgument last, last.whole.symm, whole⟩
  · rintro ⟨call, rfl, rfl⟩
    exact call.sizeArgument?_text

theorem sizeArgument?_eq_none_iff {line : List Char} :
    sizeArgument? line = none ↔ ¬ ∃ call : PathCall, call.text = line := by
  constructor
  · rintro none ⟨call, rfl⟩
    rw [call.sizeArgument?_text] at none
    cases none
  · intro silent
    refine Option.eq_none_iff_forall_ne_some.mpr fun edited answer => silent ?_
    obtain ⟨call, whole, _⟩ := sizeArgument?_eq_some_iff.mp answer
    exact ⟨call, whole⟩

variable {line edited : List Char}

theorem replacesLast_iff {token new : List Char} :
    contains line token = true ∧ some (replaceLast token new line) = some edited ↔
      ∃ front back, LastAt token line front back ∧ edited = front ++ new ++ back := by
  rw [← exists_lastAt_iff, Option.some_inj]
  constructor
  · rintro ⟨⟨front, back, last⟩, rfl⟩
    exact ⟨front, back, last, last.replaceLast⟩
  · rintro ⟨front, back, last, rfl⟩
    exact ⟨⟨front, back, last⟩, last.replaceLast⟩

theorem boolReturn?_eq_some_iff : boolReturn? line = some edited ↔
    contains line "bool __ret".toList = true ∧ ∃ front back, LastAt callEnd line front back ∧
      edited = front ++ ")".toList ++ " != 0".toList ++ ";".toList ++ back := by
  have text : ") != 0;".toList = ")".toList ++ " != 0".toList ++ ";".toList := rfl
  rw [boolReturn?, Option.ite_none_right_eq_some, Bool.and_eq_true, and_assoc, replacesLast_iff,
    text]
  simp only [List.append_assoc]

theorem byteArgument?_eq_some_iff : byteArgument? line = some edited ↔
    ∃ front back, LastAt callEnd line front back ∧
      edited = front ++ " ? (byte)0x1 : (byte)0x0".toList ++ callEnd ++ back := by
  have text : " ? (byte)0x1 : (byte)0x0);".toList =
    " ? (byte)0x1 : (byte)0x0".toList ++ callEnd := rfl
  rw [byteArgument?, Option.ite_none_right_eq_some, replacesLast_iff, text]
  simp only [List.append_assoc]

theorem uintArgument?_of_cast (cast : ¬ uncastSizes.Occurs line) : uintArgument? line =
    if contains line "CopyBlock".toList then sizeArgument? line else none := by
  rw [uintArgument?, madeBy_sizeOperator?.eq_none _ cast]

end LineEdit

namespace PatchRule

open Text LineEdit

/-- A truth value that a call returns or takes, and a last argument that becomes a size, are converted
by one insertion: where the last call of the line ends, or before the argument. -/
theorem conversions_insert (d : Diagnostic) (line new : String) (ctx : PassContext) :
    (boolReturn.apply d line ctx = .ok { actions := [.replace new] } ↔
      contains line.toList "bool __ret".toList = true ∧
        ∃ front back, LastAt ");".toList line.toList front back ∧
          new.toList = front ++ ")".toList ++ " != 0".toList ++ ";".toList ++ back) ∧
    (conversionTarget d = "byte" →
      (argumentCast.apply d line ctx = .ok { actions := [.replace new] } ↔
        ∃ front back, LastAt ");".toList line.toList front back ∧
          new.toList = front ++ " ? (byte)0x1 : (byte)0x0".toList ++ ");".toList ++ back)) ∧
    (conversionTarget d = "uint" → ¬ uncastSizes.Occurs line.toList →
      (argumentCast.apply d line ctx = .ok { actions := [.replace new] } ↔
        contains line.toList "CopyBlock".toList = true ∧
          ∃ call : PathCall, call.text = line.toList ∧
            (∀ other : PathCall, other.text = line.toList → other = call) ∧
            new.toList = call.cast) ∧
      ((∃ contradiction, argumentCast.apply d line ctx = .error contradiction) ↔
        contains line.toList "CopyBlock".toList = false ∨
          ¬ ∃ call : PathCall, call.text = line.toList)) := by
  refine ⟨?_, fun target => ?_, fun target uncast => ?_⟩
  · exact edited_eq_replace_iff.trans boolReturn?_eq_some_iff
  · rw [apply_argumentCast_byte target]
    exact edited_eq_replace_iff.trans byteArgument?_eq_some_iff
  · rw [apply_argumentCast_uint target, uintArgument?_of_cast uncast]
    constructor
    · rw [edited_eq_replace_iff, Option.ite_none_right_eq_some, sizeArgument?_eq_some_iff]
      refine and_congr_right fun _ => exists_congr fun call => and_congr_right fun whole => ?_
      exact (and_iff_right fun other same => PathCall.text_injective (same.trans whole.symm)).symm
    · rw [edited_eq_error_iff, ← sizeArgument?_eq_none_iff]
      cases contains line.toList "CopyBlock".toList with
      | true => simp
      | false => simp

def boolArgument : Diagnostic where
  code := "CS1503"
  message := "Argument 3: cannot convert from 'bool' to 'byte'"

theorem conversions_insert_mixed :
    boolReturn.apply { code := "CS0029" } "bool __ret = f(g(a); b);" emptyContext =
        .ok { actions := [.replace "bool __ret = f(g(a); b) != 0;"] } ∧
      conversionTarget boolArgument = "byte" ∧
      argumentCast.apply boolArgument "self->set(); f(x, down); " emptyContext =
        .ok { actions := [.replace "self->set(); f(x, down ? (byte)0x1 : (byte)0x0); "] } ∧
      conversionTarget nuintArgument = "uint" ∧
      ¬ uncastSizes.Occurs "CopyBlock(a, (b),\t it->né.n); ".toList ∧
      argumentCast.apply nuintArgument "CopyBlock(a, (b),\t it->né.n); " emptyContext =
        .ok { actions := [.replace "CopyBlock(a, (b),\t (uint)it->né.n); "] } := by
  have byte : conversionTarget boolArgument = "byte" := by decide
  have uint : conversionTarget nuintArgument = "uint" := by decide
  have uncast : ¬ uncastSizes.Occurs "CopyBlock(a, (b),\t it->né.n); ".toList := by
    rw [← foundBy_uncastSize.occursWhere_iff]
    decide
  refine ⟨?_, byte, ?_, uint, uncast, ?_⟩
  · refine (conversions_insert _ _ _ _).1.mpr
      ⟨by decide, "bool __ret = f(g(a); b".toList, [], ?_, ?_⟩
    · exact splitLast?_eq_some_iff.mp (by decide)
    · decide
  · refine ((conversions_insert _ _ _ _).2.1 byte).mpr
      ⟨"self->set(); f(x, down".toList, " ".toList, ?_, ?_⟩
    · exact splitLast?_eq_some_iff.mp (by decide)
    · decide
  · have answer : sizeArgument? "CopyBlock(a, (b),\t it->né.n); ".toList =
        some "CopyBlock(a, (b),\t (uint)it->né.n); ".toList := by decide
    obtain ⟨call, whole, cast⟩ := sizeArgument?_eq_some_iff.mp answer
    have only (other : PathCall) (same : other.text = _) : other = call :=
      PathCall.text_injective (same.trans whole.symm)
    exact ((conversions_insert _ _ _ _).2.2 uint uncast).1.mpr
      ⟨by decide, call, whole, only, cast⟩

end PatchRule

end BindingRepair
