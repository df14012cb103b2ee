import Mathlib.Data.List.Induction
import Mathlib.Data.List.Nodup
import BindingRepair.OrderedMap

namespace BindingRepair.OrderedMap

variable {α : Type} {name : String} {value : α} {entries : List (String × α)}
  {map : OrderedMap α}

theorem mem_assign {entry : String × α} (member : entry ∈ assign name value entries) :
    entry = (name, value) ∨ entry ∈ entries := by
  induction entries with
  | nil => exact .inl (List.mem_singleton.mp member)
  | cons first rest induction =>
      obtain ⟨other, old⟩ := first
      rw [assign] at member
      split at member
      · next same =>
          rcases List.mem_cons.mp member with rfl | later
          · exact .inl (by rw [same])
          · exact .inr (List.mem_cons_of_mem _ later)
      · rcases List.mem_cons.mp member with rfl | later
        · exact .inr List.mem_cons_self
        · exact (induction later).imp_right (List.mem_cons_of_mem _)

theorem assign_of_not_mem (absent : name ∉ entries.map (·.1)) :
    assign name value entries = entries ++ [(name, value)] := by
  induction entries with
  | nil => rfl
  | cons entry rest induction =>
      obtain ⟨differ, later⟩ := List.ne_and_not_mem_of_not_mem_cons absent
      rw [assign, if_neg differ.symm, induction later, List.cons_append]

theorem lookup_cons_eq_ite {κ : Type} [BEq κ] [LawfulBEq κ] [DecidableEq κ] (entry : κ × α)
    (rest : List (κ × α)) (other : κ) :
    (entry :: rest).lookup other = if other = entry.1 then some entry.2 else rest.lookup other := by
  rw [List.lookup_cons]
  by_cases same : other = entry.1
  · simp [same]
  · simp [same, beq_eq_false_iff_ne.mpr same]

theorem lookup_assign (other : String) :
    (assign name value entries).lookup other =
      if other = name then some value else entries.lookup other := by
  induction entries with
  | nil => exact lookup_cons_eq_ite (name, value) [] other
  | cons entry rest induction =>
      obtain ⟨first, old⟩ := entry
      rw [assign]
      split
      · next same =>
          subst same
          rw [lookup_cons_eq_ite, lookup_cons_eq_ite]
          split <;> rfl
      · next differ =>
          rw [lookup_cons_eq_ite, lookup_cons_eq_ite, induction]
          by_cases here : other = first
          · simp [here, differ]
          · simp [here]

theorem ofList_concat (entries : List (String × α)) (entry : String × α) :
    ofList (entries ++ [entry]) = (ofList entries).insert entry.1 entry.2 := by
  rw [ofList, List.foldl_append]
  rfl

theorem mem_entries_ofList {entry : String × α} (member : entry ∈ (ofList entries).entries) :
    entry ∈ entries := by
  induction entries using List.reverseRecOn with
  | nil => cases member
  | append_singleton rest last induction =>
      rw [ofList_concat, entries_insert] at member
      rcases mem_assign member with rfl | before
      · simp
      · exact List.mem_append_left _ (induction before)

theorem names_ofList (entries : List (String × α)) :
    (ofList entries).names = (entries.map (·.1)).eraseDups := by
  induction entries using List.reverseRecOn with
  | nil => rfl
  | append_singleton rest last induction =>
      have before : (ofList rest).entries.map (·.1) = (rest.map (·.1)).eraseDups := induction
      rw [ofList_concat, OrderedMap.names, entries_insert, names_assign, before, List.map_append,
        List.eraseDups_append]
      by_cases present : last.1 ∈ rest.map (·.1)
      · have dropped : (List.map (·.1) [last]).removeAll (rest.map (·.1)) = [] := by
          simpa [List.removeAll] using present
        rw [if_pos (List.mem_eraseDups.mpr present), dropped, List.eraseDups_nil, List.append_nil]
      · have kept : (List.map (·.1) [last]).removeAll (rest.map (·.1)) = [last.1] := by
          simpa [List.removeAll] using present
        rw [if_neg (mt List.mem_eraseDups.mp present), kept]
        rfl

theorem get?_ofList (entries : List (String × α)) (name : String) :
    (ofList entries).get? name = entries.reverse.lookup name := by
  induction entries using List.reverseRecOn with
  | nil => rfl
  | append_singleton rest last induction =>
      have before : (ofList rest).entries.lookup name = rest.reverse.lookup name := induction
      rw [ofList_concat, get?, entries_insert, lookup_assign, before, List.reverse_concat,
        lookup_cons_eq_ite]

theorem entries_ofList_of_nodup (distinct : (entries.map (·.1)).Nodup) :
    (ofList entries).entries = entries := by
  induction entries using List.reverseRecOn with
  | nil => rfl
  | append_singleton rest last induction =>
      rw [List.map_append, List.map_singleton] at distinct
      have absent : last.1 ∉ rest.map (·.1) := fun present =>
        List.disjoint_of_nodup_append distinct present (List.mem_singleton_self _)
      rw [ofList_concat, entries_insert, induction (List.Nodup.of_append_left distinct),
        assign_of_not_mem absent]

theorem ofList_entries (map : OrderedMap α) : ofList map.entries = map := by
  obtain ⟨entries, distinct⟩ := map
  have same := entries_ofList_of_nodup distinct
  cases made : ofList entries with
  | mk others _ =>
      rw [made] at same
      subst same
      rfl

end BindingRepair.OrderedMap
