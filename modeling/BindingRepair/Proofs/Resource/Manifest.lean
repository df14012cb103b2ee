import BindingRepair.Proofs.OrderedMap
import BindingRepair.Proofs.Text.Line
import BindingRepair.Resource.Manifest

namespace BindingRepair

theorem bind_eq_ok {ε α β : Type} {x : Except ε α} {f : α → Except ε β} {b : β} :
    x >>= f = .ok b ↔ ∃ a, x = .ok a ∧ f a = .ok b := by
  cases x with
  | error e =>
      constructor
      · nofun
      · rintro ⟨a, failed, _⟩
        cases failed
  | ok a =>
      constructor
      · intro answer
        exact ⟨a, rfl, answer⟩
      · rintro ⟨other, same, answer⟩
        cases same
        exact answer

theorem exists_of_mapM {ε α β : Type} {f : α → Except ε β} {as : List α} {bs : List β}
    (answered : as.mapM f = .ok bs) : ∀ b ∈ bs, ∃ a, f a = .ok b := by
  induction as generalizing bs with
  | nil =>
      cases answered
      exact nofun
  | cons a rest induction =>
      rw [List.mapM_cons] at answered
      obtain ⟨b, first, answered⟩ := bind_eq_ok.mp answered
      obtain ⟨others, later, answered⟩ := bind_eq_ok.mp answered
      cases answered
      intro other member
      rcases List.mem_cons.mp member with rfl | member
      · exact ⟨a, first⟩
      · exact induction later other member

structure TemplateSet.Unbroken (templates : TemplateSet) : Prop where
  definitions : ∀ definition ∈ templates.attributeDefinitions, ∀ line ∈ definition,
    Text.Unbroken line.toList
  layouts : ∀ layout ∈ templates.structLayouts.entries, ∀ line ∈ layout.2,
    Text.Unbroken line.toList

namespace Resources

theorem unbroken_of_readTemplate {r : Resources} {name : String} {lines : List String}
    (read : r.readTemplate name = .ok lines) : ∀ line ∈ lines, Text.Unbroken line.toList := by
  unfold readTemplate at read
  split at read
  · cases read
  · cases read
  · cases read
    intro line member
    exact Text.unbroken_of_mem_splitLines member

theorem unbroken_of_load {r : Resources} {templates : TemplateSet}
    (loaded : r.load = .ok templates) : templates.Unbroken := by
  unfold load at loaded
  split at loaded
  · obtain ⟨definitions, readDefinitions, loaded⟩ := bind_eq_ok.mp loaded
    obtain ⟨layouts, readLayouts, loaded⟩ := bind_eq_ok.mp loaded
    cases loaded
    constructor
    · intro definition member
      obtain ⟨name, read⟩ := exists_of_mapM readDefinitions definition member
      exact unbroken_of_readTemplate read
    · intro layout member
      obtain ⟨entry, read⟩ :=
        exists_of_mapM readLayouts layout (OrderedMap.mem_entries_ofList member)
      obtain ⟨lines, readLines, named⟩ := bind_eq_ok.mp read
      cases named
      exact unbroken_of_readTemplate readLines
  · cases loaded

end Resources

end BindingRepair
