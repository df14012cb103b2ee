import BindingRepair.Proofs.Text.Occurrence
import BindingRepair.Proofs.Text.Run
import BindingRepair.Text.Blank
import BindingRepair.Text.Word

/-!
Lines as words and the characters between them. A line has one reading in which every word is a
maximal run of word characters. Where a token is replaced only as a word of its own, the replacement
can be read off the words: each that is the token, between neighbours that fit, gives way, and
nothing else changes.
-/

namespace BindingRepair.Text

/-- A maximal run of word characters, or a character between such runs. -/
inductive Piece
  | word (run : List Char)
  | mark (c : Char)
  deriving DecidableEq, Repr

def Piece.text : Piece → List Char
  | word run => run
  | mark c => [c]

@[simp] theorem Piece.text_word (run : List Char) : (word run).text = run := rfl

@[simp] theorem Piece.text_mark (c : Char) : (mark c).text = [c] := rfl

def joined (ps : List Piece) : List Char :=
  ps.flatMap Piece.text

@[simp] theorem joined_nil : joined [] = [] := rfl

@[simp] theorem joined_cons (piece : Piece) (ps : List Piece) :
    joined (piece :: ps) = piece.text ++ joined ps := rfl

theorem joined_mark (c : Char) (ps : List Piece) : joined (.mark c :: ps) = c :: joined ps := rfl

theorem joined_word (run : List Char) (ps : List Piece) :
    joined (.word run :: ps) = run ++ joined ps := rfl

def consWord (c : Char) : List Piece → List Piece
  | .word run :: rest => .word (c :: run) :: rest
  | rest => .word [c] :: rest

def pieces : List Char → List Piece
  | [] => []
  | c :: rest => if isWord c then consWord c (pieces rest) else .mark c :: pieces rest

/-- Pieces whose words are maximal runs: of word characters alone, and with none behind them. -/
inductive Parted : List Piece → Prop
  | nil : Parted []
  | mark {c : Char} {rest : List Piece} (other : isWord c = false) (parted : Parted rest) :
      Parted (.mark c :: rest)
  | word {run : List Char} {rest : List Piece} (nonempty : run ≠ [])
      (letters : ∀ c ∈ run, isWord c = true) (ends : clearAfter (joined rest) = true)
      (parted : Parted rest) : Parted (.word run :: rest)

theorem joined_consWord (c : Char) (ps : List Piece) :
    joined (consWord c ps) = c :: joined ps := by
  fun_cases consWord c ps with
  | case1 run rest => rfl
  | case2 rest other => rfl

theorem joined_pieces (s : List Char) : joined (pieces s) = s := by
  induction s with
  | nil => rfl
  | cons c rest induction =>
      rw [pieces]
      split
      · rw [joined_consWord, induction]
      · rw [joined_mark, induction]

theorem Parted.consWord {c : Char} {ps : List Piece} (letter : isWord c = true)
    (parted : Parted ps) : Parted (consWord c ps) := by
  cases parted with
  | nil => exact .word (by simp) (by simpa using letter) rfl .nil
  | @mark d rest other parted =>
      have ends : clearAfter (joined (.mark d :: rest)) = true := by
        simpa [clearAfter] using other
      exact .word (by simp) (by simpa using letter) ends (.mark other parted)
  | word nonempty letters ends parted =>
      exact .word (by simp) (List.forall_mem_cons.mpr ⟨letter, letters⟩) ends parted

theorem parted_pieces (s : List Char) : Parted (pieces s) := by
  induction s with
  | nil => exact .nil
  | cons c rest induction =>
      rw [pieces]
      split
      · next letter => exact induction.consWord letter
      · next other => exact .mark (Bool.eq_false_iff.mpr other) induction

theorem pieces_append_of_letters {run rest : List Char} (nonempty : run ≠ [])
    (letters : ∀ c ∈ run, isWord c = true) (ends : clearAfter rest = true) :
    pieces (run ++ rest) = .word run :: pieces rest := by
  induction run with
  | nil => exact absurd rfl nonempty
  | cons c run induction =>
      obtain ⟨letter, letters⟩ := List.forall_mem_cons.mp letters
      rw [List.cons_append, pieces, if_pos letter]
      cases run with
      | nil =>
          cases rest with
          | nil => rfl
          | cons d rest =>
              have other : ¬ isWord d = true := by simpa [clearAfter] using ends
              rw [List.nil_append, pieces, if_neg other]
              rfl
      | cons d run =>
          rw [induction (by simp) letters]
          rfl

/-- The reading of a line whose words are maximal runs, of which there is no other. -/
theorem pieces_eq_iff {s : List Char} {ps : List Piece} :
    pieces s = ps ↔ Parted ps ∧ joined ps = s := by
  constructor
  · rintro rfl
    exact ⟨parted_pieces s, joined_pieces s⟩
  · rintro ⟨parted, rfl⟩
    induction parted with
    | nil => rfl
    | mark other parted induction =>
        rw [joined_mark, pieces, if_neg (by simp [other]), induction]
    | word nonempty letters ends parted induction =>
        rw [joined_word, pieces_append_of_letters nonempty letters ends, induction]

theorem isWord_of_isBlank {c : Char} (blank : isBlank c = true) : isWord c = false := by
  have apart : ∀ range ∈ blankRanges, ∀ offset ≤ range.2 - range.1,
      inRanges wordRanges (range.1 + offset) = false := by
    decide +kernel
  obtain ⟨range, member, above, below⟩ := exists_of_inRanges blank
  have place : range.1 + (c.toNat - range.1) = c.toNat := by omega
  rw [isWord, ← place]
  exact apart range member (c.toNat - range.1) (by omega)

theorem clearAfter_congr {s t : List Char} (same : s.head? = t.head?) :
    clearAfter s = clearAfter t := by
  cases s with
  | nil =>
      cases t with
      | nil => rfl
      | cons d t => cases same
  | cons c s =>
      cases t with
      | nil => cases same
      | cons d t =>
          obtain rfl := Option.some.inj same
          rfl

theorem clearAfter_of_head? {c : Char} {s : List Char} (other : isWord c = false)
    (head : s.head? = some c) : clearAfter s = true := by
  obtain ⟨rest, rfl⟩ := List.head?_eq_some_iff.mp head
  simp [clearAfter, other]

theorem clearAfter_of_head?_trimStart {c : Char} {s : List Char} (other : isWord c = false)
    (head : (trimStart s).head? = some c) : clearAfter s = true := by
  cases s with
  | nil => rfl
  | cons d s =>
      cases blank : isBlank d with
      | true => simp [clearAfter, isWord_of_isBlank blank]
      | false =>
          rw [trimStart, List.dropWhile_cons_of_neg (by simp [blank])] at head
          exact clearAfter_of_head? other head

theorem clearAfter_of_letters {run : List Char} (nonempty : run ≠ [])
    (letters : ∀ c ∈ run, isWord c = true) (after : List Char) :
    clearAfter (run ++ after) = false := by
  obtain ⟨c, rest, rfl⟩ := List.exists_cons_of_ne_nil nonempty
  simpa [clearAfter] using letters c List.mem_cons_self

theorem clearBefore_of_letters {run : List Char} (nonempty : run ≠ [])
    (letters : ∀ c ∈ run, isWord c = true) (before : List Char) :
    clearBefore (run.reverse ++ before) = false := by
  obtain ⟨start, c, rfl⟩ := (List.eq_nil_or_concat run).resolve_left nonempty
  simpa [clearBefore] using letters c (by simp)

theorem clearBefore_of_getLast? {s : List Char} (ends : s.getLast?.any isWord = true)
    (before : List Char) : clearBefore (s.reverse ++ before) = false := by
  obtain ⟨c, last, letter⟩ := (Option.any_eq_true _ _).mp ends
  obtain ⟨start, rfl⟩ := List.getLast?_eq_some_iff.mp last
  simp [clearBefore, letter]

theorem letters_append_inj {run other s t : List Char} (letters : ∀ c ∈ run, isWord c = true)
    (otherLetters : ∀ c ∈ other, isWord c = true) (ends : clearAfter s = true)
    (otherEnds : clearAfter t = true) (same : run ++ s = other ++ t) : run = other ∧ s = t := by
  induction run generalizing other with
  | nil =>
      cases other with
      | nil => exact ⟨rfl, same⟩
      | cons c other =>
          obtain rfl : s = c :: other ++ t := same
          rw [clearAfter_of_letters (by simp) otherLetters] at ends
          cases ends
  | cons c run induction =>
      cases other with
      | nil =>
          obtain rfl : c :: run ++ s = t := same
          rw [clearAfter_of_letters (by simp) letters] at otherEnds
          cases otherEnds
      | cons d other =>
          obtain ⟨rfl, later⟩ := List.cons.inj same
          obtain ⟨rfl, rest⟩ := induction (List.forall_mem_cons.mp letters).2
            (List.forall_mem_cons.mp otherLetters).2 later
          exact ⟨rfl, rest⟩

/-! Words that give way. -/

/-- A word that gives way to another text wherever the text of its line before it, and that behind
it, fit. -/
structure WordChange where
  old : List Char
  new : List Char
  fits : List Char → List Char → Bool

namespace WordChange

def OccursFrom (change : WordChange) (before : List Char) (ps : List Piece) : Prop :=
  ∃ front back, ps = front ++ .word change.old :: back ∧
    change.fits (before ++ joined front) (joined back) = true

/-- Whether a word of the line gives way. -/
def Occurs (change : WordChange) (line : List Char) : Prop :=
  change.OccursFrom [] (pieces line)

def applyFrom (change : WordChange) (before : List Char) : List Piece → List Char
  | [] => []
  | piece :: rest =>
    (if piece = .word change.old ∧ change.fits before (joined rest) = true then change.new
      else piece.text) ++ change.applyFrom (before ++ piece.text) rest

/-- The line with the new text for each word that gives way. -/
def apply (change : WordChange) (line : List Char) : List Char :=
  change.applyFrom [] (pieces line)

variable {change : WordChange} {before : List Char} {ps : List Piece}

theorem occursFrom_cons {piece : Piece} {rest : List Piece} :
    change.OccursFrom before (piece :: rest) ↔
      (piece = .word change.old ∧ change.fits before (joined rest) = true) ∨
        change.OccursFrom (before ++ piece.text) rest := by
  constructor
  · rintro ⟨front, back, whole, fit⟩
    cases front with
    | nil =>
        obtain ⟨rfl, rfl⟩ := List.cons.inj whole
        exact .inl ⟨rfl, by simpa using fit⟩
    | cons first front =>
        obtain ⟨rfl, rfl⟩ := List.cons.inj whole
        exact .inr ⟨front, back, rfl, by simpa using fit⟩
  · rintro (⟨rfl, fit⟩ | ⟨front, back, rfl, fit⟩)
    · exact ⟨[], rest, rfl, by simpa using fit⟩
    · exact ⟨piece :: front, back, rfl, by simpa using fit⟩

theorem applyFrom_mark (c : Char) (rest : List Piece) :
    change.applyFrom before (.mark c :: rest) = c :: change.applyFrom (before ++ [c]) rest := by
  simp [applyFrom]

/-- `change.FoundBy fits` says that a search for `old` in surroundings that `fits` accepts, the
nearest character before it first, finds the words that give way. -/
structure FoundBy (change : WordChange) (fits : List Char → List Char → Bool) : Prop where
  nonempty : change.old ≠ []
  letters : ∀ c ∈ change.old, isWord c = true
  fits_iff : ∀ before after, fits before.reverse after = true ↔
    clearBefore before.reverse = true ∧ clearAfter after = true ∧ change.fits before after = true

namespace FoundBy

variable {fits : List Char → List Char → Bool} {out s t : List Char}

theorem any_mark (found : change.FoundBy fits) {c : Char} (other : isWord c = false)
    (before rest : List Char) : (after? change.old (c :: rest)).any (fits before) = false := by
  rw [Option.any_eq_false]
  intro after matched
  obtain ⟨first, tail, whole⟩ := List.exists_cons_of_ne_nil found.nonempty
  have letter : isWord first = true := found.letters first (by simp [whole])
  rw [after?_eq_some_iff, whole] at matched
  obtain ⟨rfl, _⟩ := List.cons.inj matched
  rw [letter] at other
  cases other

theorem any_word (found : change.FoundBy fits) {a b run rest : List Char} {c : Char}
    (starts : clearBefore before.reverse = true) (letters : ∀ d ∈ run, isWord d = true)
    (ends : clearAfter rest = true) (split : run = a ++ c :: b) :
    (after? change.old (c :: b ++ rest)).any (fits (a.reverse ++ before.reverse)) = true ↔
      a = [] ∧ run = change.old ∧ change.fits before rest = true := by
  rw [Option.any_eq_true]
  constructor
  · rintro ⟨after, matched, fit⟩
    rw [← List.reverse_append, found.fits_iff, List.reverse_append] at fit
    obtain ⟨clear, stops, fit⟩ := fit
    cases a with
    | nil =>
        rw [List.nil_append] at split
        rw [after?_eq_some_iff, ← split] at matched
        obtain ⟨same, rfl⟩ := letters_append_inj letters found.letters ends stops matched
        exact ⟨rfl, same, by simpa using fit⟩
    | cons d a =>
        have inside : ∀ e ∈ d :: a, isWord e = true :=
          fun e member => letters e (split ▸ List.mem_append_left _ member)
        rw [clearBefore_of_letters (by simp) inside] at clear
        cases clear
  · rintro ⟨rfl, rfl, fit⟩
    refine ⟨rest, after?_eq_some_iff.mpr (by rw [split]; rfl), ?_⟩
    exact (found.fits_iff before rest).mpr ⟨starts, ends, fit⟩

private theorem clearBefore_mark {c : Char} (other : isWord c = false) (before : List Char) :
    clearBefore (before ++ [c]).reverse = true := by
  simp [clearBefore, other]

private theorem starts_of_letters {run : List Char} {rest : List Piece} (nonempty : run ≠ [])
    (letters : ∀ c ∈ run, isWord c = true)
    (clear : clearBefore before.reverse = true ∨ clearAfter (joined (.word run :: rest)) = true) :
    clearBefore before.reverse = true := by
  refine clear.resolve_right ?_
  rw [joined_word, clearAfter_of_letters nonempty letters]
  exact Bool.false_ne_true

private theorem misfits_of_unchosen (found : change.FoundBy fits) {run rest : List Char}
    (starts : clearBefore before.reverse = true) (letters : ∀ c ∈ run, isWord c = true)
    (ends : clearAfter rest = true)
    (unchosen : ¬ (run = change.old ∧ change.fits before rest = true))
    (a : List Char) (c : Char) (b : List Char) (split : run = a ++ c :: b) :
    (after? change.old (c :: b ++ rest)).any (fits (a.reverse ++ before.reverse)) = false := by
  rw [Bool.eq_false_iff, ne_eq, found.any_word starts letters ends split]
  exact fun accepted => unchosen accepted.2

theorem replacedWhere_applyFrom (found : change.FoundBy fits) (parted : Parted ps)
    (clear : clearBefore before.reverse = true ∨ clearAfter (joined ps) = true) :
    ReplacedWhere fits change.old change.new before.reverse (joined ps)
      (change.applyFrom before ps) := by
  induction parted generalizing before with
  | nil => exact .nil
  | @mark c rest other parted induction =>
      have later := induction (.inl (clearBefore_mark other before))
      rw [applyFrom_mark, joined_mark]
      exact .keep c (found.any_mark other _ _) (by simpa using later)
  | @word run rest nonempty letters ends parted induction =>
      have starts := starts_of_letters nonempty letters clear
      have clearRest : clearBefore (before ++ run).reverse = true ∨
        clearAfter (joined rest) = true := .inr ends
      have later := induction clearRest
      rw [List.reverse_append] at later
      rw [applyFrom, joined_word]
      by_cases chosen : run = change.old ∧ change.fits before (joined rest) = true
      · obtain ⟨rfl, fit⟩ := chosen
        rw [if_pos ⟨rfl, fit⟩]
        exact .swap ((found.fits_iff _ _).mpr ⟨starts, ends, fit⟩) later
      · rw [if_neg (by simpa using chosen)]
        exact .keepAll (found.misfits_of_unchosen starts letters ends chosen) later

theorem occursWhere_joined_iff (found : change.FoundBy fits) (parted : Parted ps)
    (clear : clearBefore before.reverse = true ∨ clearAfter (joined ps) = true) :
    occursWhere fits change.old before.reverse (joined ps) = true ↔
      change.OccursFrom before ps := by
  induction parted generalizing before with
  | nil => simp [occursWhere, OccursFrom]
  | @mark c rest other parted induction =>
      have later := induction (.inl (clearBefore_mark other before))
      rw [joined_mark, occursWhere_cons, found.any_mark other, Bool.false_or, occursFrom_cons]
      simpa using later
  | @word run rest nonempty letters ends parted induction =>
      have starts := starts_of_letters nonempty letters clear
      have clearRest : clearBefore (before ++ run).reverse = true ∨
        clearAfter (joined rest) = true := .inr ends
      have later := induction clearRest
      rw [List.reverse_append] at later
      rw [joined_word, occursFrom_cons]
      by_cases chosen : run = change.old ∧ change.fits before (joined rest) = true
      · obtain ⟨c, tail, whole⟩ := List.exists_cons_of_ne_nil nonempty
        have here := (found.any_word (a := []) starts letters ends whole).mpr ⟨rfl, chosen⟩
        have occurs :
            occursWhere fits change.old before.reverse (run ++ joined rest) = true := by
          rw [whole, List.cons_append, occursWhere_cons, Bool.or_eq_true]
          exact .inl here
        exact iff_of_true occurs (.inl ⟨congrArg Piece.word chosen.1, chosen.2⟩)
      · rw [occursWhere_append (found.misfits_of_unchosen starts letters ends chosen), later]
        simp [chosen]

theorem replaceWhere_eq (found : change.FoundBy fits) (line : List Char) :
    replaceWhere fits change.old change.new line = change.apply line := by
  have start : clearBefore ([] : List Char).reverse = true := rfl
  have replaced := found.replacedWhere_applyFrom (parted_pieces line) (.inl start)
  rw [joined_pieces] at replaced
  exact (replaced.eq_replaceWhere found.nonempty).symm

theorem occursWhere_iff (found : change.FoundBy fits) (line : List Char) :
    occursWhere fits change.old [] line = true ↔ change.Occurs line := by
  have start : clearBefore ([] : List Char).reverse = true := rfl
  have occurs := found.occursWhere_joined_iff (parted_pieces line) (.inl start)
  rwa [joined_pieces] at occurs

theorem clearBefore_of_fits (found : change.FoundBy fits) (fit : fits before s = true) :
    clearBefore before = true := by
  rw [← before.reverse_reverse, found.fits_iff, List.reverse_reverse] at fit
  exact fit.1

theorem head?_eq_of_replaced (found : change.FoundBy fits) (inside : clearBefore before = false)
    (replaced : ReplacedWhere fits change.old change.new before s t) : s.head? = t.head? := by
  cases replaced with
  | nil => rfl
  | keep c misfit rest => rfl
  | swap fit rest =>
      rw [found.clearBefore_of_fits fit] at inside
      cases inside

theorem of_letters_append (found : change.FoundBy fits) {run : List Char}
    (letters : ∀ c ∈ run, isWord c = true) (inside : clearBefore before = false)
    (replaced : ReplacedWhere fits change.old change.new before s (run ++ t)) :
    ∃ rest, s = run ++ rest ∧
      ReplacedWhere fits change.old change.new (run.reverse ++ before) rest t := by
  induction run generalizing before s with
  | nil => exact ⟨s, rfl, replaced⟩
  | cons c run induction =>
      obtain ⟨letter, letters⟩ := List.forall_mem_cons.mp letters
      generalize whole : c :: run ++ t = text at replaced
      cases replaced with
      | nil => cases whole
      | keep d misfit later =>
          obtain ⟨rfl, rfl⟩ := List.cons.inj whole
          obtain ⟨rest, rfl, behind⟩ := induction letters (by simp [clearBefore, letter]) later
          exact ⟨rest, rfl, by simpa using behind⟩
      | swap fit later =>
          rw [found.clearBefore_of_fits fit] at inside
          cases inside

/-- A text in which every word gave way that does has none left, if the test looks no further back
than to the nearest character, accepts no more behind a word than before the replacement, and the
word starts nowhere in the new text, which ends in a word of its own. -/
theorem occursWhere_replaced (found : change.FoundBy fits)
    (near : ∀ c before out after, fits (c :: before) after = fits (c :: out) after)
    (stays : ∀ {before s t}, clearBefore before = false →
      ReplacedWhere fits change.old change.new before s t →
      ∀ out, fits out t = true → fits out s = true)
    (ends : change.new.getLast?.any isWord = true)
    (fresh : ∀ t, StartsNowhere change.old change.new t)
    (replaced : ReplacedWhere fits change.old change.new before s t)
    (same : ∀ after, fits before after = fits out after) :
    occursWhere fits change.old out t = false := by
  induction replaced generalizing out with
  | nil => rfl
  | @keep before c s t misfit rest induction =>
      rw [occursWhere_cons, induction (near c before out), Bool.or_false, Option.any_eq_false]
      intro after matched
      rw [after?_eq_some_iff] at matched
      obtain ⟨first, tail, whole⟩ := List.exists_cons_of_ne_nil found.nonempty
      have letters : ∀ d ∈ first :: tail, isWord d = true := whole ▸ found.letters
      rw [whole] at matched
      obtain ⟨rfl, rfl⟩ := List.cons.inj matched
      have inside : clearBefore (c :: before) = false := by simp [clearBefore, letters]
      obtain ⟨behind, rfl, later⟩ :=
        found.of_letters_append (List.forall_mem_cons.mp letters).2 inside rest
      have stood : after? change.old (c :: (tail ++ behind)) = some behind :=
        after?_eq_some_iff.mpr (by rw [whole]; rfl)
      rw [stood] at misfit
      rw [Bool.eq_false_iff]
      intro fit
      rw [← same] at fit
      have within : clearBefore (tail.reverse ++ c :: before) = false := by
        simpa using clearBefore_of_letters (List.cons_ne_nil c tail) letters before
      exact absurd (stays within later before fit) (by simpa using misfit)
  | @swap before s t fit rest induction =>
      rw [occursWhere_append_of_startsNowhere (fresh t)]
      refine induction fun after => ?_
      have refused {around : List Char} (inside : clearBefore around = false) :
          fits around after = false := by
        rw [Bool.eq_false_iff]
        intro fit
        rw [found.clearBefore_of_fits fit] at inside
        cases inside
      rw [refused (clearBefore_of_letters found.nonempty found.letters before),
        refused (clearBefore_of_getLast? ends out)]

end FoundBy

/-- `change.MadeBy edit` says that the edit changes the words of a line, answers nothing where no
word gives way, and leaves none behind that would. -/
structure MadeBy (change : WordChange) (edit : List Char → Option (List Char)) : Prop where
  eq_some : ∀ line, change.Occurs line → edit line = some (change.apply line)
  eq_none : ∀ line, ¬ change.Occurs line → edit line = none
  exhausted : ∀ line, ¬ change.Occurs (change.apply line)

theorem FoundBy.madeBy {fits : List Char → List Char → Bool} {edit : List Char → Option (List Char)}
    (found : change.FoundBy fits)
    (edits : ∀ line, edit line = if occursWhere fits change.old [] line then
      some (replaceWhere fits change.old change.new line) else none)
    (exhausted : ∀ line,
      occursWhere fits change.old [] (replaceWhere fits change.old change.new line) = false) :
    change.MadeBy edit where
  eq_some line occurs := by
    rw [edits, if_pos ((found.occursWhere_iff line).mpr occurs), found.replaceWhere_eq]
  eq_none line silent := by
    rw [edits, if_neg fun occurs => silent ((found.occursWhere_iff line).mp occurs)]
  exhausted line := by
    rw [← found.occursWhere_iff, ← found.replaceWhere_eq, exhausted]
    exact Bool.false_ne_true

end WordChange

end BindingRepair.Text
