import Mathlib.Data.List.Pairwise
import BindingRepair.Documentation
import BindingRepair.Proofs.Correlation.Matching

/-!
The order of a header. What a native declaration documents depends on those of its own kind and
name only. Where the targets of each kind stand on lines of their own, these lines say in which
order they are documented, and the header has no say in it.
-/

namespace BindingRepair

open Text (foldCase)

namespace Correlation

variable {natives others : List NativeDeclaration} {kind : NativeKind} {targets : List Target}
  {level : Nat}

/-- For each kind and name two lists have the same native declarations, in the same order. So each
of them is a permutation of the other. -/
def SameByName (natives others : List NativeDeclaration) : Prop :=
  ∀ (kind : NativeKind) (name : String),
    natives.filter (fun n => n.kind = kind && foldCase n.name = name) =
      others.filter fun n => n.kind = kind && foldCase n.name = name

theorem find?_documented (natives : List NativeDeclaration) (kind : NativeKind) (name : String) :
    natives.find? (fun n => n.kind = kind && n.isDocumented && foldCase n.name = name) =
      (natives.filter fun n => n.kind = kind && foldCase n.name = name).find? (·.isDocumented) := by
  rw [List.find?_filter]
  congr 1
  funext n
  rw [Bool.eq_iff_iff]
  simp only [Bool.and_eq_true, decide_eq_true_eq, and_right_comm]

theorem SameByName.mem_ofKind_iff (same : SameByName natives others) {c : Correlation} :
    c ∈ ofKind kind targets level natives ↔ c ∈ ofKind kind targets level others := by
  rw [mem_ofKind, mem_ofKind, find?_documented, find?_documented, same kind]

theorem nodup_ofKind (kind : NativeKind) (targets : List Target) (level : Nat)
    (natives : List NativeDeclaration) : (ofKind kind targets level natives).Nodup :=
  (pairwise_name_ofKind kind targets level natives).imp fun differ same =>
    differ (congrArg (fun c : Correlation => foldCase c.target.name) same)

theorem SameByName.ofKind_eq (same : SameByName natives others)
    (apart : (ofKind kind targets level natives).Pairwise fun a b =>
      a.target.startLine ≠ b.target.startLine) :
    ofKind kind targets level natives = ofKind kind targets level others := by
  have perm : (ofKind kind targets level natives).Perm (ofKind kind targets level others) :=
    (List.perm_ext_iff_of_nodup (nodup_ofKind ..) (nodup_ofKind ..)).mpr fun c =>
      same.mem_ofKind_iff
  have sorted (natives : List NativeDeclaration) :
      (ofKind kind targets level natives).Pairwise fun a b =>
        a.target.startLine ≤ b.target.startLine :=
    pairwise_mergeSort_key (fun c : Correlation => c.target.startLine) _
  refine List.Perm.eq_of_pairwise ?_ (sorted natives) (sorted others) perm
  intro a b member memberToo above below
  by_contra differ
  have : Std.Symm fun a b : Correlation => a.target.startLine ≠ b.target.startLine :=
    ⟨fun _ _ => Ne.symm⟩
  exact apart.forall member (same.mem_ofKind_iff.mpr memberToo) differ (Int.le_antisymm above below)

theorem SameByName.all_eq (same : SameByName natives others) {container : String}
    {tree : SyntaxTree}
    (apart : (all container tree natives).Pairwise fun a b =>
      a.native.kind = b.native.kind → a.target.startLine ≠ b.target.startLine) :
    all container tree natives = all container tree others := by
  rw [all_eq_flatMap] at apart
  rw [all_eq_flatMap, all_eq_flatMap]
  refine List.flatMap_congr fun g member => same.ofKind_eq ?_
  refine ((List.pairwise_flatMap.mp apart).1 g member).imp_of_mem ?_
  intro a b first second differ
  apply differ
  rw [(native_of_mem_ofKind first).1, (native_of_mem_ofKind second).1]

end Correlation

namespace Documentation

open Correlation

/-- It does not matter in which order a header declares things that differ in kind or name. If the
targets of each kind that get documented stand on lines of their own, the correlations are the same,
and so is all that documenting a file does. -/
theorem run_reordered (container : String) (tree : SyntaxTree)
    (natives reordered : List NativeDeclaration) (b : SourceBuffer)
    (same : SameByName natives reordered)
    (apart : (all container tree natives).Pairwise fun a b =>
      a.native.kind = b.native.kind → a.target.startLine ≠ b.target.startLine) :
    all container tree natives = all container tree reordered ∧
      run container tree natives b = run container tree reordered b := by
  have correlated : all container tree natives = all container tree reordered :=
    same.all_eq apart
  exact ⟨correlated, by rw [run, correlated, run]⟩

def shuffledTree : SyntaxTree where
  declarations := [
    { kind := .structType, name := "S", startLine := 0, endLine := 0 },
    { kind := .classType, name := "M", startLine := 1, endLine := 4,
      members := [{ name := "F", startLine := 2, endLine := 2 },
        { name := "G", startLine := 3, endLine := 3 }] }]

def shuffled : SourceBuffer where
  lines := ["struct S;", "class M \x7b", "void F();", "void G();", "\x7d"]

def shuffledNatives : List NativeDeclaration :=
  [{ name := "g", kind := .function, fragments := some ["Goes."] },
    { name := "f", kind := .function },
    { name := "s", kind := .structType, fragments := some ["A struct."] },
    { name := "F", kind := .function, fragments := some ["Falls."] },
    { name := "f", kind := .function, fragments := some ["Flies."] }]

def reshuffledNatives : List NativeDeclaration :=
  [{ name := "s", kind := .structType, fragments := some ["A struct."] },
    { name := "f", kind := .function },
    { name := "F", kind := .function, fragments := some ["Falls."] },
    { name := "f", kind := .function, fragments := some ["Flies."] },
    { name := "g", kind := .function, fragments := some ["Goes."] }]

theorem sameByName_reshuffled : SameByName shuffledNatives reshuffledNatives := by
  intro kind name
  have differ : foldCase "g" ≠ foldCase "f" := by decide +kernel
  have fold : foldCase "F" = foldCase "f" := by decide +kernel
  cases kind with
  | enumType => rfl
  | structType => rfl
  | function =>
      by_cases isFirst : foldCase "g" = name
      · have other : foldCase "f" ≠ name := fun same => differ (isFirst.trans same.symm)
        simp [shuffledNatives, reshuffledNatives, fold, isFirst, other]
      · simp [shuffledNatives, reshuffledNatives, List.filter_cons, fold, isFirst]

theorem ofKind_shuffled : ofKind .function (functions "m" shuffledTree) 2 shuffledNatives =
    [⟨⟨"F", 2⟩, ⟨"F", .function, some ["Falls."]⟩, 2⟩,
      ⟨⟨"G", 3⟩, ⟨"g", .function, some ["Goes."]⟩, 2⟩] := by
  have found : ((documented .function shuffledNatives).filterMap fun native =>
      (findTarget? (functions "m" shuffledTree) native.name).map fun target =>
        ({ target, native, level := 2 } : Correlation)) =
      [⟨⟨"G", 3⟩, ⟨"g", .function, some ["Goes."]⟩, 2⟩,
        ⟨⟨"F", 2⟩, ⟨"F", .function, some ["Falls."]⟩, 2⟩] := by
    decide +kernel
  rw [ofKind, found]
  simp [List.mergeSort, List.MergeSort.Internal.splitInTwo]

theorem run_reordered_reshuffled :
    SameByName shuffledNatives reshuffledNatives ∧
      ((all "m" shuffledTree shuffledNatives).Pairwise fun a b =>
        a.native.kind = b.native.kind → a.target.startLine ≠ b.target.startLine) ∧
      all "m" shuffledTree reshuffledNatives =
        [⟨⟨"S", 0⟩, ⟨"s", .structType, some ["A struct."]⟩, 1⟩,
          ⟨⟨"F", 2⟩, ⟨"F", .function, some ["Falls."]⟩, 2⟩,
          ⟨⟨"G", 3⟩, ⟨"g", .function, some ["Goes."]⟩, 2⟩] ∧
      (run "m" shuffledTree reshuffledNatives shuffled).2.inserted = 3 := by
  have correlated : all "m" shuffledTree shuffledNatives =
      [⟨⟨"S", 0⟩, ⟨"s", .structType, some ["A struct."]⟩, 1⟩,
        ⟨⟨"F", 2⟩, ⟨"F", .function, some ["Falls."]⟩, 2⟩,
        ⟨⟨"G", 3⟩, ⟨"g", .function, some ["Goes."]⟩, 2⟩] := by
    rw [all, ofKind_shuffled]
    decide +kernel
  have apart : (all "m" shuffledTree shuffledNatives).Pairwise fun a b =>
      a.native.kind = b.native.kind → a.target.startLine ≠ b.target.startLine := by
    rw [correlated]
    decide
  obtain ⟨same, finished⟩ := run_reordered "m" shuffledTree shuffledNatives reshuffledNatives
    shuffled sameByName_reshuffled apart
  refine ⟨sameByName_reshuffled, apart, ?_, ?_⟩
  · rw [← same, correlated]
  · rw [← finished, run, correlated]
    rfl

end Documentation

end BindingRepair
