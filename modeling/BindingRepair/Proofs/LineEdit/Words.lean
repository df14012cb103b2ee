import BindingRepair.Proofs.LineEdit.Size
import BindingRepair.Proofs.RuleRegistry
import BindingRepair.Proofs.Text.Piece

namespace BindingRepair

namespace LineEdit

open Text

def nativeIntegers : WordChange where
  old := "nuint".toList
  new := "uint".toList
  fits _ _ := true

def bareCalls : WordChange where
  old := "realloc".toList
  new := "NativeMemory.Realloc".toList
  fits before after := before.getLast? ≠ some '.' && (trimStart after).head? = some '('

def uncastSizes : WordChange where
  old := "sizeof".toList
  new := "(uint)sizeof".toList
  fits before after := ¬ "(uint)".toList <:+ before && after.head? = some '('

theorem isNone_after?_castBefore {before : List Char} :
    (after? castBefore before.reverse).isNone = true ↔ ¬ "(uint)".toList <:+ before := by
  rw [← List.reverse_prefix, ← isSome_after?_iff, Option.not_isSome_iff_eq_none,
    Option.isNone_iff_eq_none]
  rfl

theorem bareCalls_fits_iff {before after : List Char} : bareCalls.fits before after = true ↔
    before.getLast? ≠ some '.' ∧ (trimStart after).head? = some '(' :=
  Bool.and_eq_true_iff.trans (and_congr decide_eq_true_iff decide_eq_true_iff)

theorem uncastSizes_fits_iff {before after : List Char} : uncastSizes.fits before after = true ↔
    ¬ "(uint)".toList <:+ before ∧ after.head? = some '(' :=
  Bool.and_eq_true_iff.trans (and_congr decide_eq_true_iff decide_eq_true_iff)

theorem bareCall_iff {before after : List Char} : bareCall before after = true ↔
    (clearBefore before = true ∧ before.head? ≠ some '.') ∧ (trimStart after).head? = some '(' := by
  simp only [bareCall, Bool.and_eq_true, decide_eq_true_eq, isSome_after?_singleton]

theorem foundBy_wholeWord : nativeIntegers.FoundBy wholeWord where
  nonempty := by decide
  letters := List.all_eq_true.mp (by decide)
  fits_iff before after := by
    have always : nativeIntegers.fits before after = true := rfl
    simp [wholeWord, always]

theorem foundBy_bareCall : bareCalls.FoundBy bareCall where
  nonempty := by decide
  letters := List.all_eq_true.mp (by decide)
  fits_iff before after := by
    rw [bareCall_iff, bareCalls_fits_iff, List.head?_reverse]
    constructor
    · rintro ⟨⟨starts, noDot⟩, called⟩
      exact ⟨starts, clearAfter_of_head?_trimStart (by decide) called, noDot, called⟩
    · rintro ⟨starts, _, noDot, called⟩
      exact ⟨⟨starts, noDot⟩, called⟩

theorem foundBy_uncastSize : uncastSizes.FoundBy uncastSize where
  nonempty := by decide
  letters := List.all_eq_true.mp (by decide)
  fits_iff before after := by
    rw [uncastSizes_fits_iff, uncastSize, Bool.and_eq_true, Bool.and_eq_true,
      isNone_after?_castBefore, isSome_after?_singleton]
    constructor
    · rintro ⟨⟨starts, uncast⟩, applied⟩
      exact ⟨starts, clearAfter_of_head? (by decide) applied, uncast, applied⟩
    · rintro ⟨starts, _, uncast, applied⟩
      exact ⟨⟨starts, uncast⟩, applied⟩

theorem startsNowhere_uint (s : List Char) : StartsNowhere "nuint".toList "uint".toList s := by
  simp [startsNowhere_cons, startsNowhere_nil]

theorem startsNowhere_managed (s : List Char) :
    StartsNowhere "realloc".toList "NativeMemory.Realloc".toList s := by
  have only : StartsNowhere "realloc".toList ('r' :: "y.Realloc".toList) s :=
    startsNowhere_cons.mpr ⟨by simp, startsNowhere_of_not_mem (by decide)⟩
  exact StartsNowhere.append (startsNowhere_of_not_mem (by decide : 'r' ∉ "NativeMemo".toList)) only

theorem occursWhere_wholeWord_replaced (line : List Char) :
    occursWhere wholeWord "nuint".toList []
      (replaceWhere wholeWord "nuint".toList "uint".toList line) = false := by
  refine foundBy_wholeWord.occursWhere_replaced (fun c before out after => rfl) ?_
    (by decide) startsNowhere_uint
    (replacedWhere_replaceWhere foundBy_wholeWord.nonempty line) fun after => rfl
  intro before s t inside replaced out fit
  rw [wholeWord, clearAfter_congr (foundBy_wholeWord.head?_eq_of_replaced inside replaced)]
  exact fit

theorem head?_trimStart_of_replaced {before s t : List Char}
    (replaced : ReplacedWhere bareCall bareCalls.old bareCalls.new before s t)
    (called : (trimStart t).head? = some '(') : (trimStart s).head? = some '(' := by
  obtain ⟨rest, opened⟩ := List.head?_eq_some_iff.mp called
  have blank : ∀ c ∈ t.takeWhile isBlank, isBlank c = true :=
    List.all_eq_true.mp List.all_takeWhile
  have whole : t = t.takeWhile isBlank ++ ['('] ++ rest := by
    calc
      t = t.takeWhile isBlank ++ trimStart t := List.takeWhile_append_dropWhile.symm
      _ = _ := by rw [opened]; simp
  have free : 'N' ∉ t.takeWhile isBlank ++ ['('] := by
    intro member
    rcases List.mem_append.mp member with blanks | parenthesis
    · exact absurd (blank 'N' blanks) (by decide)
    · exact absurd parenthesis (by decide)
  rw [whole] at replaced
  obtain ⟨behind, rfl, _⟩ := ReplacedWhere.of_append replaced free
  rw [List.append_assoc, trimStart, List.dropWhile_append_of_pos blank]
  rfl

theorem occursWhere_bareCall_replaced (line : List Char) :
    occursWhere bareCall "realloc".toList []
      (replaceWhere bareCall "realloc".toList "NativeMemory.Realloc".toList line) = false := by
  refine foundBy_bareCall.occursWhere_replaced (fun c before out after => rfl) ?_
    (by decide) startsNowhere_managed
    (replacedWhere_replaceWhere foundBy_bareCall.nonempty line) fun after => rfl
  intro before s t inside replaced out fit
  rw [bareCall_iff] at fit ⊢
  exact fit.imp_right (head?_trimStart_of_replaced replaced)

theorem madeBy_nativeInteger? : nativeIntegers.MadeBy nativeInteger? :=
  foundBy_wholeWord.madeBy (fun _ => rfl) occursWhere_wholeWord_replaced

theorem madeBy_realloc? : bareCalls.MadeBy realloc? :=
  foundBy_bareCall.madeBy (fun _ => rfl) occursWhere_bareCall_replaced

theorem madeBy_sizeOperator? : uncastSizes.MadeBy sizeOperator? :=
  foundBy_uncastSize.madeBy (fun _ => rfl) fun line =>
    occursWhere_replaced (replacedWhere_replaceWhere (by decide) line) (.refl [])

end LineEdit

namespace PatchRule

open Text LineEdit

/-- Where a word of the line gives way, the rule puts the changed line in its place, and no word of
that one would give way. -/
def ChangesWords (rule : PatchRule) (d : Diagnostic) (change : WordChange) : Prop :=
  ∀ (line : String) (ctx : PassContext), change.Occurs line.toList →
    rule.apply d line ctx =
        .ok { actions := [.replace (String.ofList (change.apply line.toList))] } ∧
      ¬ change.Occurs (change.apply line.toList)

/-- The rule refuses exactly the lines in which no word gives way. -/
def NeedsWords (rule : PatchRule) (d : Diagnostic) (change : WordChange) : Prop :=
  ∀ (line : String) (ctx : PassContext),
    (∃ contradiction, rule.apply d line ctx = .error contradiction) ↔
      ¬ change.Occurs line.toList

section

variable {rule : PatchRule} {d : Diagnostic} {change : WordChange}
  {edit : List Char → Option (List Char)} {otherwise : Contradiction}

theorem changesWords_of_edit (made : change.MadeBy edit)
    (applies : ∀ line ctx, change.Occurs line.toList →
      rule.apply d line ctx = edited (edit line.toList) otherwise) :
    rule.ChangesWords d change := by
  intro line ctx occurs
  refine ⟨?_, made.exhausted line.toList⟩
  rw [applies line ctx occurs, made.eq_some _ occurs]
  rfl

theorem needsWords_of_edit (made : change.MadeBy edit)
    (applies : ∀ line ctx, rule.apply d line ctx = edited (edit line.toList) otherwise) :
    rule.NeedsWords d change := by
  intro line ctx
  rw [applies, edited_eq_error_iff]
  constructor
  · intro refused occurs
    rw [made.eq_some _ occurs] at refused
    cases refused
  · exact made.eq_none _

end

/-- The rules for native integers, for calls of `realloc`, and for arguments that become sizes
change lines word by word. -/
theorem changesWords (d : Diagnostic) :
    (nativeInteger.ChangesWords d nativeIntegers ∧ nativeInteger.NeedsWords d nativeIntegers) ∧
    (contains d.message.toList "'realloc'".toList = true →
      realloc.ChangesWords d bareCalls ∧ realloc.NeedsWords d bareCalls) ∧
    (conversionTarget d = "uint" → argumentCast.ChangesWords d uncastSizes) := by
  refine ⟨⟨?_, ?_⟩, fun named => ⟨?_, ?_⟩, fun target => ?_⟩
  · exact changesWords_of_edit madeBy_nativeInteger? fun line ctx _ => rfl
  · exact needsWords_of_edit madeBy_nativeInteger? fun line ctx => rfl
  · exact changesWords_of_edit madeBy_realloc? fun line ctx _ => if_pos named
  · exact needsWords_of_edit madeBy_realloc? fun line ctx => if_pos named
  · have applies (line : String) (ctx : PassContext) (occurs : uncastSizes.Occurs line.toList) :
        argumentCast.apply d line ctx = edited (sizeOperator? line.toList) .noSizeArgument := by
      rw [apply_argumentCast_uint target, uintArgument?, madeBy_sizeOperator?.eq_some _ occurs]
    exact changesWords_of_edit madeBy_sizeOperator? applies

def undefinedRealloc : Diagnostic where
  code := "CS0103"
  message := "The name 'realloc' does not exist in the current context"

def nuintArgument : Diagnostic where
  code := "CS1503"
  message := "Argument 3: cannot convert from 'nuint' to 'uint'"

theorem changesWords_mixed :
    nativeInteger.apply { code := "CS1008" } "enum nuint_é : nuint, énuint" emptyContext =
        .ok { actions := [.replace "enum nuint_é : uint, énuint"] } ∧
      contains undefinedRealloc.message.toList "'realloc'".toList = true ∧
      realloc.apply undefinedRealloc "x.realloc(érealloc(realloc\t(p)))" emptyContext =
        .ok { actions := [.replace "x.realloc(érealloc(NativeMemory.Realloc\t(p)))"] } ∧
      conversionTarget nuintArgument = "uint" ∧
      argumentCast.apply nuintArgument "f(sizeof(uint)sizeof(T), sizeof (T));" emptyContext =
        .ok { actions := [.replace "f((uint)sizeof(uint)sizeof(T), sizeof (T));"] } := by
  have named : contains undefinedRealloc.message.toList "'realloc'".toList = true := by decide
  have target : conversionTarget nuintArgument = "uint" := by decide
  have integers := (changesWords { code := "CS1008" }).1.1 "enum nuint_é : nuint, énuint"
    emptyContext ((foundBy_wholeWord.occursWhere_iff _).mp (by decide))
  have calls := ((changesWords undefinedRealloc).2.1 named).1
    "x.realloc(érealloc(realloc\t(p)))" emptyContext
    ((foundBy_bareCall.occursWhere_iff _).mp (by decide))
  have sizes := (changesWords nuintArgument).2.2 target "f(sizeof(uint)sizeof(T), sizeof (T));"
    emptyContext ((foundBy_uncastSize.occursWhere_iff _).mp (by decide))
  exact ⟨integers.1, named, calls.1, target, sizes.1⟩

end PatchRule

end BindingRepair
