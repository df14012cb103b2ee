import Mathlib.Data.List.Basic
import BindingRepair.Proofs.Correlation

namespace BindingRepair

open Text (foldCase)

namespace Correlation

section

variable {α : Type} {name : α → String} {as : List α} {a : α}

theorem mem_firstOfName :
    a ∈ firstOfName name as ↔ as.find? (name · = name a) = some a := by
  induction as with
  | nil => simp [firstOfName]
  | cons first rest induction =>
      by_cases same : name first = name a
      · rw [firstOfName, List.find?_cons_of_pos (by simpa using same)]
        simp [same, eq_comm]
      · have differ : a ≠ first := fun equal => same (congrArg name equal.symm)
        rw [firstOfName, List.find?_cons_of_neg (by simpa using same), ← induction]
        simp [differ, Ne.symm same]

theorem pairwise_firstOfName (name : α → String) (as : List α) :
    (firstOfName name as).Pairwise fun a b =>
      (as.map name).idxOf (name a) < (as.map name).idxOf (name b) := by
  induction as with
  | nil => exact .nil
  | cons first rest induction =>
      have later : ∀ b ∈ (firstOfName name rest).filter (name · ≠ name first),
          ((first :: rest).map name).idxOf (name b) = (rest.map name).idxOf (name b) + 1 := by
        intro b member
        have differ : name b ≠ name first := by simpa using (List.mem_filter.mp member).2
        rw [List.map_cons, List.idxOf_cons_ne _ differ.symm]
      refine List.pairwise_cons.mpr ⟨fun b member => ?_, ?_⟩
      · rw [later b member, List.map_cons, List.idxOf_cons_self]
        exact Nat.succ_pos _
      · refine (induction.filter _).imp_of_mem fun member memberToo before => ?_
        rw [later _ member, later _ memberToo]
        exact Nat.succ_lt_succ before

end

section

variable {α : Type} (key : α → Int)

theorem key_trans (a b c : α) (before : decide (key a ≤ key b) = true)
    (after : decide (key b ≤ key c) = true) : decide (key a ≤ key c) = true :=
  decide_eq_true (Int.le_trans (of_decide_eq_true before) (of_decide_eq_true after))

theorem key_total (a b : α) : (decide (key a ≤ key b) || decide (key b ≤ key a)) = true := by
  simpa using Int.le_total (key a) (key b)

theorem pairwise_mergeSort_key (as : List α) :
    (as.mergeSort fun a b => key a ≤ key b).Pairwise fun a b => key a ≤ key b :=
  (List.pairwise_mergeSort (key_trans key) (key_total key) as).imp of_decide_eq_true

theorem filter_mergeSort_key (value : Int) (as : List α) :
    (as.mergeSort fun a b => key a ≤ key b).filter (key · = value) =
      as.filter (key · = value) := by
  have level : (as.filter (key · = value)).Pairwise fun a b => decide (key a ≤ key b) = true := by
    refine List.pairwise_of_forall_mem_list fun a member b memberToo => decide_eq_true ?_
    have here : key a = value := by simpa using (List.mem_filter.mp member).2
    have hereToo : key b = value := by simpa using (List.mem_filter.mp memberToo).2
    exact Int.le_of_eq (here.trans hereToo.symm)
  have kept := (List.sublist_mergeSort (key_trans key) (key_total key) level
    List.filter_sublist).filter (key · = value)
  rw [List.filter_filter] at kept
  simp only [Bool.and_self] at kept
  exact (kept.eq_of_length
    ((List.mergeSort_perm as fun a b => key a ≤ key b).filter _).length_eq.symm).symm

theorem pairwise_mergeSort_of_rank {rank : α → Nat} {as : List α}
    (ranked : as.Pairwise fun a b => rank a < rank b) :
    (as.mergeSort fun a b => key a ≤ key b).Pairwise fun a b =>
      key a < key b ∨ key a = key b ∧ rank a < rank b := by
  refine List.pairwise_iff_forall_sublist.mpr fun {a b} sublist => ?_
  have sorted := List.pairwise_iff_forall_sublist.mp (pairwise_mergeSort_key key as) sublist
  rcases Int.lt_or_eq_of_le sorted with before | level
  · exact .inl before
  · have among := sublist.filter (key · = key b)
    rw [filter_mergeSort_key] at among
    have pair : [a, b].filter (key · = key b) = [a, b] := by simp [level]
    rw [pair] at among
    exact .inr ⟨level,
      List.pairwise_iff_forall_sublist.mp ranked (among.trans List.filter_sublist)⟩

end

/-- The place of the name of a native declaration among the names of the documented ones of its
kind, where each name counts from where it is met first. -/
def firstMention (natives : List NativeDeclaration) (n : NativeDeclaration) : Nat :=
  ((natives.filter fun m => m.kind = n.kind && m.isDocumented).map (foldCase ·.name)).idxOf
    (foldCase n.name)

def matched (kind : NativeKind) (targets : List Target) (level : Nat)
    (natives : List NativeDeclaration) : List Correlation :=
  (documented kind natives).filterMap fun native =>
    (findTarget? targets native.name).map fun target => { target, native, level }

variable {kind : NativeKind} {targets : List Target} {level : Nat}
  {natives : List NativeDeclaration} {c : Correlation}

theorem mem_documented {n : NativeDeclaration} : n ∈ documented kind natives ↔
    natives.find? (fun m => m.kind = kind && m.isDocumented && foldCase m.name = foldCase n.name) =
      some n := by
  rw [documented, mem_firstOfName, List.find?_filter]
  simp only [Bool.and_eq_true, decide_eq_true_eq, Bool.decide_and, Bool.decide_eq_true]

theorem kind_name_of_find? {n : NativeDeclaration} {name : String}
    (found : natives.find? (fun m => m.kind = kind && m.isDocumented && foldCase m.name = name) =
      some n) : n.kind = kind ∧ foldCase n.name = name := by
  have met := List.find?_some found
  simp only [Bool.and_eq_true, decide_eq_true_eq] at met
  exact ⟨met.1.1, met.2⟩

theorem mem_ofKind : c ∈ ofKind kind targets level natives ↔
    c.level = level ∧
      targets.find? (fun t => foldCase t.name = foldCase c.target.name) = some c.target ∧
      natives.find? (fun n => n.kind = kind && n.isDocumented &&
        foldCase n.name = foldCase c.target.name) = some c.native := by
  rw [ofKind, List.mem_mergeSort, List.mem_filterMap]
  constructor
  · rintro ⟨native, first, correlated⟩
    obtain ⟨target, found, rfl⟩ := Option.map_eq_some_iff.mp correlated
    have same : foldCase target.name = foldCase native.name := by
      simpa using List.find?_some found
    refine ⟨rfl, ?_, ?_⟩
    · rw [same]
      exact found
    · rw [same]
      exact mem_documented.mp first
  · rintro ⟨rfl, found, first⟩
    have same := (kind_name_of_find? first).2
    rw [← same] at found first
    refine ⟨c.native, mem_documented.mpr first, ?_⟩
    rw [findTarget?, found]
    rfl

theorem native_of_mem_ofKind (member : c ∈ ofKind kind targets level natives) :
    c.native.kind = kind ∧ foldCase c.native.name = foldCase c.target.name :=
  kind_name_of_find? (mem_ofKind.mp member).2.2

theorem pairwise_matched (kind : NativeKind) (targets : List Target) (level : Nat)
    (natives : List NativeDeclaration) :
    (matched kind targets level natives).Pairwise fun a b =>
      firstMention natives a.native < firstMention natives b.native := by
  have mention : ∀ n ∈ documented kind natives, firstMention natives n =
      ((natives.filter fun m => m.kind = kind && m.isDocumented).map (foldCase ·.name)).idxOf
        (foldCase n.name) := by
    intro n member
    rw [firstMention, (kind_name_of_find? (mem_documented.mp member)).1]
  have first : (documented kind natives).Pairwise fun m n =>
      firstMention natives m < firstMention natives n := by
    have places := pairwise_firstOfName (fun n : NativeDeclaration => foldCase n.name)
      (natives.filter fun n => n.kind = kind && n.isDocumented)
    refine List.Pairwise.imp_of_mem ?_ places
    intro m n member memberToo before
    rw [mention m member, mention n memberToo]
    exact before
  refine first.filterMap _ ?_
  intro m n before a correlated b correlatedToo
  obtain ⟨_, _, rfl⟩ := Option.map_eq_some_iff.mp correlated
  obtain ⟨_, _, rfl⟩ := Option.map_eq_some_iff.mp correlatedToo
  exact before

theorem pairwise_ofKind (kind : NativeKind) (targets : List Target) (level : Nat)
    (natives : List NativeDeclaration) :
    (ofKind kind targets level natives).Pairwise fun a b =>
      a.target.startLine < b.target.startLine ∨ a.target.startLine = b.target.startLine ∧
        firstMention natives a.native < firstMention natives b.native :=
  pairwise_mergeSort_of_rank (·.target.startLine) (pairwise_matched kind targets level natives)

theorem pairwise_name_ofKind (kind : NativeKind) (targets : List Target) (level : Nat)
    (natives : List NativeDeclaration) :
    (ofKind kind targets level natives).Pairwise fun a b =>
      foldCase a.target.name ≠ foldCase b.target.name := by
  have perm : (ofKind kind targets level natives).Perm (matched kind targets level natives) :=
    List.mergeSort_perm _ _
  refine (perm.pairwise_iff Ne.symm).mpr ?_
  refine (pairwise_matched kind targets level natives).imp_of_mem ?_
  intro a b member memberToo before same
  obtain ⟨kindFirst, name⟩ := native_of_mem_ofKind (perm.mem_iff.mpr member)
  obtain ⟨kindSecond, nameToo⟩ := native_of_mem_ofKind (perm.mem_iff.mpr memberToo)
  rw [firstMention, firstMention, kindFirst, kindSecond, name, nameToo, same] at before
  exact Nat.lt_irrefl _ before

/-- Targets that the native declarations of one kind document, and how far that is indented. -/
structure Group where
  kind : NativeKind
  targets : List Target
  level : Nat

/-- The enumerations, the structs, and the members of the first class with the container's name. -/
def groups (container : String) (tree : SyntaxTree) : List Group :=
  [{ kind := .enumType
     targets := (tree.declarations.filter (·.kind = .enumType)).map (·.target)
     level := 1 },
    { kind := .structType
      targets := (tree.declarations.filter (·.kind = .structType)).map (·.target)
      level := 1 },
    { kind := .function
      targets :=
        match tree.declarations.find? fun d =>
            d.kind = .classType && foldCase d.name = foldCase container with
        | some d => d.members.map (·.target)
        | none => []
      level := 2 }]

/-- Both sides of a correlation are the first of their name, the target in its group and the native
declaration among the documented ones of the group's kind. -/
structure Group.Correlates (g : Group) (natives : List NativeDeclaration) (c : Correlation) :
    Prop where
  level : c.level = g.level
  target : g.targets.find? (fun t => foldCase t.name = foldCase c.target.name) = some c.target
  native : natives.find? (fun n => n.kind = g.kind && n.isDocumented &&
    foldCase n.name = foldCase c.target.name) = some c.native

end Correlation

/-- The place of a kind among the kinds. -/
def NativeKind.place : NativeKind → Nat
  | enumType => 0
  | structType => 1
  | function => 2

namespace Correlation

/-- The order of correlations: by kinds, then by lines, then by native names. -/
def Precedes (natives : List NativeDeclaration) (a b : Correlation) : Prop :=
  a.native.kind.place < b.native.kind.place ∨ a.native.kind = b.native.kind ∧
    (a.target.startLine < b.target.startLine ∨ a.target.startLine = b.target.startLine ∧
      firstMention natives a.native < firstMention natives b.native)

theorem functions_eq (container : String) (tree : SyntaxTree) : functions container tree =
    match tree.declarations.find? fun d =>
        d.kind = .classType && foldCase d.name = foldCase container with
    | some d => d.members.map (·.target)
    | none => [] := by
  have found : container? container tree = tree.declarations.find? fun d =>
      d.kind = .classType && foldCase d.name = foldCase container := by
    rw [container?, SyntaxTree.findFolded?, SyntaxTree.ofKind, List.find?_filter]
    simp only [decide_eq_true_eq, Bool.decide_and]
  rw [functions, found]
  cases tree.declarations.find? fun d =>
      d.kind = .classType && foldCase d.name = foldCase container with
  | none => rfl
  | some d => rfl

theorem all_eq_flatMap (container : String) (tree : SyntaxTree)
    (natives : List NativeDeclaration) : all container tree natives =
      (groups container tree).flatMap fun g => ofKind g.kind g.targets g.level natives := by
  rw [all, functions_eq]
  simp [groups, SyntaxTree.ofKind]

theorem pairwise_place_groups (container : String) (tree : SyntaxTree) :
    (groups container tree).Pairwise fun g h => g.kind.place < h.kind.place := by
  simp [groups, NativeKind.place]

theorem mem_all {container : String} {tree : SyntaxTree} :
    c ∈ all container tree natives ↔ ∃ g ∈ groups container tree, g.Correlates natives c := by
  rw [all_eq_flatMap, List.mem_flatMap]
  refine exists_congr fun g => and_congr_right fun _ => ?_
  rw [mem_ofKind]
  exact ⟨fun ⟨level, target, native⟩ => ⟨level, target, native⟩,
    fun ⟨level, target, native⟩ => ⟨level, target, native⟩⟩

theorem nodup_name_all (container : String) (tree : SyntaxTree)
    (natives : List NativeDeclaration) :
    ((all container tree natives).map fun c => (c.native.kind, foldCase c.target.name)).Nodup := by
  rw [all_eq_flatMap]
  refine List.pairwise_map.mpr (List.pairwise_flatMap.mpr ⟨fun g _ => ?_,
    (pairwise_place_groups container tree).imp ?_⟩)
  · refine (pairwise_name_ofKind g.kind g.targets g.level natives).imp ?_
    intro a b differ same
    exact differ (Prod.mk.inj same).2
  · intro g h before a member b memberToo same
    have kinds := (Prod.mk.inj same).1
    rw [(native_of_mem_ofKind member).1, (native_of_mem_ofKind memberToo).1] at kinds
    rw [kinds] at before
    exact Nat.lt_irrefl _ before

theorem pairwise_all (container : String) (tree : SyntaxTree) (natives : List NativeDeclaration) :
    (all container tree natives).Pairwise (Precedes natives) := by
  rw [all_eq_flatMap]
  refine List.pairwise_flatMap.mpr ⟨fun g _ => ?_, (pairwise_place_groups container tree).imp ?_⟩
  · refine (pairwise_ofKind g.kind g.targets g.level natives).imp_of_mem ?_
    intro a b member memberToo ordered
    refine .inr ⟨?_, ordered⟩
    rw [(native_of_mem_ofKind member).1, (native_of_mem_ofKind memberToo).1]
  · intro g h before a member b memberToo
    refine .inl ?_
    rwa [(native_of_mem_ofKind member).1, (native_of_mem_ofKind memberToo).1]

/-- A correlation is listed exactly if its target and its native declaration are the first of their
name in a group. No name of a group is listed twice. The list is in the order of correlations. -/
theorem all_exact (container : String) (tree : SyntaxTree) (natives : List NativeDeclaration) :
    (∀ c, c ∈ all container tree natives ↔
        ∃ g ∈ groups container tree, g.Correlates natives c) ∧
      ((all container tree natives).map fun c =>
        (c.native.kind, foldCase c.target.name)).Nodup ∧
      (all container tree natives).Pairwise (Precedes natives) :=
  ⟨fun _ => mem_all, nodup_name_all container tree natives, pairwise_all container tree natives⟩

end Correlation

end BindingRepair
