import Mathlib.Algebra.Group.Int.Defs
import Mathlib.Algebra.Group.Nat.Defs
import Mathlib.Data.List.Basic
import Mathlib.Data.List.TakeDrop
import BindingRepair.Proofs.Text.Row
import BindingRepair.Text.Blank
import BindingRepair.Text.Numeral

namespace BindingRepair.Text

variable {p : Char → Bool} {run rest s t : List Char} {c : Char}

/-- No character of the class comes next. -/
def Stops (p : Char → Bool) (s : List Char) : Prop :=
  ∀ c, s.head? = some c → p c = false

theorem stops_cons (other : p c = false) (rest : List Char) : Stops p (c :: rest) := by
  intro d first
  rwa [← Option.some.inj first]

instance (p : Char → Bool) : (s : List Char) → Decidable (Stops p s)
  | [] => isTrue nofun
  | c :: rest => decidable_of_iff (p c = false) ⟨(stops_cons · rest), fun stops => stops c rfl⟩

theorem Stops.append (stops : Stops p s) (nonempty : s ≠ []) : Stops p (s ++ t) := by
  obtain ⟨c, rest, rfl⟩ := List.exists_cons_of_ne_nil nonempty
  exact stops_cons (stops c rfl) (rest ++ t)

theorem Stops.of_append (stops : Stops p (s ++ t)) : Stops p s := by
  cases s with
  | nil => nofun
  | cons c rest => exact stops_cons (stops c rfl) rest

theorem Stops.dropWhile_eq (stops : Stops p s) : s.dropWhile p = s := by
  cases s with
  | nil => rfl
  | cons c rest => exact List.dropWhile_cons_of_neg (by simp [stops c rfl])

theorem Stops.takeWhile_eq (stops : Stops p s) : s.takeWhile p = [] := by
  cases s with
  | nil => rfl
  | cons c rest => exact List.takeWhile_cons_of_neg (by simp [stops c rfl])

theorem span_append (inside : ∀ c ∈ run, p c = true) (stops : Stops p rest) :
    (run ++ rest).span p = (run, rest) := by
  rw [List.span_eq_takeWhile_dropWhile, List.takeWhile_append_of_pos inside,
    List.dropWhile_append_of_pos inside, stops.takeWhile_eq, stops.dropWhile_eq, List.append_nil]

theorem exists_trimStart_append (nonempty : s ≠ []) (ends : Stops isBlank s.reverse)
    (t : List Char) : ∃ c rest, c ∈ s ∧ trimStart (s ++ t) = c :: rest := by
  induction s with
  | nil => exact absurd rfl nonempty
  | cons c s induction =>
      cases blank : isBlank c with
      | false =>
          have begins : Stops isBlank (c :: (s ++ t)) := stops_cons blank _
          exact ⟨c, s ++ t, List.mem_cons_self, begins.dropWhile_eq⟩
      | true =>
          rw [List.reverse_cons] at ends
          have more : s ≠ [] := by
            rintro rfl
            exact absurd (ends c rfl) (by simp [blank])
          obtain ⟨d, rest, member, whole⟩ := induction more ends.of_append
          refine ⟨d, rest, List.mem_cons_of_mem c member, ?_⟩
          rw [List.cons_append, trimStart, List.dropWhile_cons_of_pos blank]
          exact whole

theorem trim_eq_self (begins : Stops isBlank s) (ends : Stops isBlank s.reverse) : trim s = s := by
  rw [trim, trimEnd, trimStart, begins.dropWhile_eq, ends.dropWhile_eq, List.reverse_reverse]

theorem trim_cons_of_blank (blank : isBlank c = true) (s : List Char) : trim (c :: s) = trim s := by
  rw [trim, trim, trimStart, trimStart, List.dropWhile_cons_of_pos blank]

theorem exists_of_inRanges {ranges : List (Nat × Nat)} {n : Nat}
    (inside : inRanges ranges n = true) : ∃ range ∈ ranges, range.1 ≤ n ∧ n ≤ range.2 := by
  fun_induction inRanges ranges n with
  | case1 => cases inside
  | case2 => cases inside
  | case3 first last rest n above below =>
      exact ⟨(first, last), List.mem_cons_self, Nat.not_lt.mp above, below⟩
  | case4 first last rest n above beyond induction =>
      obtain ⟨range, member, bounds⟩ := induction inside
      exact ⟨range, List.mem_cons_of_mem _ member, bounds⟩

theorem isBlank_of_bounds (above : 32 < c.toNat) (below : c.toNat < 127) : isBlank c = false := by
  have ranges : ∀ range ∈ blankRanges, range.2 ≤ 32 ∨ 127 ≤ range.1 := by decide
  refine Bool.eq_false_iff.mpr fun blank => ?_
  obtain ⟨range, member, first, last⟩ := exists_of_inRanges blank
  rcases ranges range member with low | high
  · omega
  · omega

theorem isLineBreak_of_not_blank (filled : isBlank c = false) : isLineBreak c = false := by
  have blank : ['\n', '\r', '\x0b', '\x0c', '\x1c', '\x1d', '\x1e', '\u0085', '\u2028',
      '\u2029'].all isBlank = true := by decide
  refine Bool.eq_false_iff.mpr fun ends => ?_
  rw [isLineBreak, List.contains_iff_mem] at ends
  rw [List.all_eq_true.mp blank c ends] at filled
  cases filled

theorem isDigit_of_mem_toDigits {n : Nat} (member : c ∈ Nat.toDigits 10 n) : c.isDigit = true :=
  Nat.isDigit_of_mem_toDigits (by decide) (by decide) member

theorem digitValue?_of_isDigit (digit : c.isDigit = true) :
    digitValue? c = some (c.toNat - 48) := by
  have bounds : 48 ≤ c.toNat ∧ c.toNat ≤ 57 := Char.isDigit_iff_toNat.mp digit
  have first : zeroDigits.find? (fun base => base ≤ c.toNat && c.toNat < base + 10) = some 48 :=
    List.find?_cons_of_pos (by simp; omega)
  rw [digitValue?, first]
  rfl

theorem isDigit_of_isDigit (digit : c.isDigit = true) : isDigit c = true := by
  rw [isDigit, digitValue?_of_isDigit digit]
  rfl

theorem toList_decimal {n : Int} (nonneg : 0 ≤ n) :
    (decimal n).toList = Nat.toDigits 10 n.toNat := by
  obtain ⟨m, rfl⟩ := Int.eq_ofNat_of_zero_le nonneg
  exact String.toList_ofList

theorem isBlank_of_isDigit (digit : c.isDigit = true) : isBlank c = false := by
  have bounds : 48 ≤ c.toNat ∧ c.toNat ≤ 57 := Char.isDigit_iff_toNat.mp digit
  exact isBlank_of_bounds (by omega) (by omega)

theorem unbroken_decimal {n : Int} (nonneg : 0 ≤ n) : Unbroken (decimal n).toList := by
  intro c member
  rw [toList_decimal nonneg] at member
  exact isLineBreak_of_not_blank (isBlank_of_isDigit (isDigit_of_mem_toDigits member))

theorem digitsValue_toDigits (n : Nat) : digitsValue (Nat.toDigits 10 n) = n := by
  calc
    digitsValue (Nat.toDigits 10 n) = Nat.ofDigitChars 10 (Nat.toDigits 10 n) 0 := by
      rw [digitsValue, Nat.ofDigitChars_eq_foldl]
      refine List.foldl_ext _ _ 0 fun value c member => ?_
      rw [digitValue?_of_isDigit (isDigit_of_mem_toDigits member)]
      rfl
    _ = n := Nat.ofDigitChars_ten_toDigits

theorem length_toDigits_le_limit {n : Nat} :
    (Nat.toDigits 10 n).length ≤ digitLimit ↔ (n : Int) < 10 ^ digitLimit := by
  have bound : ((10 ^ digitLimit : Nat) : Int) = 10 ^ digitLimit := Int.natCast_pow 10 digitLimit
  rw [Nat.length_toDigits_le_iff (by decide) (by decide), ← bound, Int.ofNat_lt]

end BindingRepair.Text
