import BindingRepair.Text.Decimal
import BindingRepair.Text.Quoted

namespace BindingRepair

structure RunReport where
  file : String
  passes : Nat := 0
  patches : List (String × Nat) := []
  skipped : Nat := 0
  restarts : Nat := 0
  structsNormalized : List String := []
  commentsInserted : Nat := 0
  deriving DecidableEq, Repr

namespace RunReport

def increment (code : String) : List (String × Nat) → List (String × Nat)
  | [] => [(code, 1)]
  | (other, count) :: rest =>
    if other = code then (other, count + 1) :: rest else (other, count) :: increment code rest

def countPatch (r : RunReport) (code : String) : RunReport :=
  { r with patches := increment code r.patches }

def sortedPatches (r : RunReport) : List (String × Nat) :=
  r.patches.mergeSort fun a b => a.1 ≤ b.1

def total : List (String × Nat) → Nat
  | [] => 0
  | (_, count) :: rest => count + total rest

def patchTotal (r : RunReport) : Nat :=
  total r.patches

def patchCount (r : RunReport) (code : String) : Nat :=
  (r.patches.lookup code).getD 0

theorem total_increment (code : String) (patches : List (String × Nat)) :
    total (increment code patches) = total patches + 1 := by
  induction patches with
  | nil => rfl
  | cons entry rest induction =>
    obtain ⟨other, count⟩ := entry
    by_cases h : other = code
    · simp only [increment, h, if_true, total]; omega
    · simp only [increment, h, if_false, total, induction]; omega

def entry (name value : String) : String :=
  Text.quoted name ++ ": " ++ value

def bracketed (left right : String) (items : List String) : String :=
  left ++ ", ".intercalate items ++ right

def describe (r : RunReport) : String :=
  bracketed "\x7b" "\x7d" [
    entry "file" (Text.quoted r.file),
    entry "passes" (Text.decimalNat r.passes),
    entry "patches" (bracketed "\x7b" "\x7d"
      (r.sortedPatches.map fun (code, count) => entry code (Text.decimalNat count))),
    entry "patch_total" (Text.decimalNat r.patchTotal),
    entry "skipped" (Text.decimalNat r.skipped),
    entry "restarts" (Text.decimalNat r.restarts),
    entry "structs_normalized" (bracketed "[" "]" (r.structsNormalized.map Text.quoted)),
    entry "comments_inserted" (Text.decimalNat r.commentsInserted)]

end RunReport

end BindingRepair
