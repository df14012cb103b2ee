import BindingRepair.Correlation

namespace BindingRepair.Correlation

variable {α : Type} {natives : List NativeDeclaration}

theorem mem_of_mem_firstOfName {name : α → String} {as : List α} {a : α}
    (member : a ∈ firstOfName name as) : a ∈ as := by
  induction as with
  | nil => cases member
  | cons first rest induction =>
      rcases List.mem_cons.mp member with rfl | later
      · exact List.mem_cons_self
      · exact List.mem_cons_of_mem first (induction (List.mem_filter.mp later).1)

theorem native_mem_of_mem_ofKind {kind : NativeKind} {targets : List Target} {level : Nat}
    {c : Correlation} (member : c ∈ ofKind kind targets level natives) :
    c.native ∈ natives ∧ c.native.isDocumented = true := by
  rw [ofKind, List.mem_mergeSort] at member
  obtain ⟨native, first, correlated⟩ := List.mem_filterMap.mp member
  obtain ⟨target, _, rfl⟩ := Option.map_eq_some_iff.mp correlated
  obtain ⟨given, counts⟩ := List.mem_filter.mp (mem_of_mem_firstOfName first)
  exact ⟨given, (Bool.and_eq_true_iff.mp counts).2⟩

theorem native_mem_of_mem_all {container : String} {tree : SyntaxTree} {c : Correlation}
    (member : c ∈ all container tree natives) :
    c.native ∈ natives ∧ c.native.isDocumented = true := by
  rcases List.mem_append.mp member with types | function
  · rcases List.mem_append.mp types with enumType | structType
    · exact native_mem_of_mem_ofKind enumType
    · exact native_mem_of_mem_ofKind structType
  · exact native_mem_of_mem_ofKind function

end BindingRepair.Correlation
