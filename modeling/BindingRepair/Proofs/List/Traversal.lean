import Mathlib.Data.List.Basic

namespace BindingRepair.Traversal

variable {α β ε : Type} {f : α → Except ε β} {l : List α} {results : List β}

theorem mapM_eq_ok_iff : l.mapM f = .ok results ↔ l.map f = results.map .ok := by
  induction l generalizing results with
  | nil => cases results <;> simp [pure, Except.pure]
  | cons a rest induction =>
      rw [List.mapM_cons]
      cases first : f a with
      | error e => cases results <;> simp [bind, Except.bind, first]
      | ok b =>
          cases others : rest.mapM f with
          | error e => cases results <;> simp [bind, Except.bind, first, ← induction, others]
          | ok bs =>
              cases results <;>
                simp [bind, Except.bind, pure, Except.pure, first, ← induction, others]

theorem mem_of_mapM_eq_ok {b : β} (passed : l.mapM f = .ok results) :
    b ∈ results ↔ ∃ a ∈ l, f a = .ok b := by
  have answers : l.map f = results.map .ok := mapM_eq_ok_iff.mp passed
  have member : Except.ok b ∈ results.map (.ok : β → Except ε β) ↔ b ∈ results := by simp
  rw [← member, ← answers, List.mem_map]

theorem exists_of_mapM_eq_ok {a : α} (passed : l.mapM f = .ok results) (member : a ∈ l) :
    ∃ b ∈ results, f a = .ok b := by
  have answered : f a ∈ results.map (.ok : β → Except ε β) :=
    mapM_eq_ok_iff.mp passed ▸ List.mem_map_of_mem member
  obtain ⟨b, result, answer⟩ := List.mem_map.mp answered
  exact ⟨b, result, answer.symm⟩

theorem mapM_eq_ok_iff_forall {p : α → Prop} {g : α → β}
    (step : ∀ a b, f a = .ok b ↔ p a ∧ b = g a) :
    l.mapM f = .ok results ↔ (∀ a ∈ l, p a) ∧ results = l.map g := by
  constructor
  · intro passed
    have steps : ∀ a ∈ l, p a ∧ f a = .ok (g a) := by
      intro a member
      obtain ⟨b, _, answer⟩ := exists_of_mapM_eq_ok passed member
      obtain ⟨met, rfl⟩ := (step a b).mp answer
      exact ⟨met, answer⟩
    have answers : (l.map g).map (.ok : β → Except ε β) = results.map .ok := by
      rw [← mapM_eq_ok_iff.mp passed, List.map_map]
      exact List.map_congr_left fun a member => (steps a member).2.symm
    have injective : Function.Injective (.ok : β → Except ε β) := fun _ _ => Except.ok.inj
    exact ⟨fun a member => (steps a member).1, (injective.list_map answers).symm⟩
  · rintro ⟨met, rfl⟩
    rw [mapM_eq_ok_iff, List.map_map]
    exact List.map_congr_left fun a member => (step a (g a)).mpr ⟨met a member, rfl⟩

/-- Where a step fails with what `failure?` tells of it, a pass fails with the first that is told. -/
theorem mapM_eq_error_iff {failure? : α → Option ε} {e : ε}
    (step : ∀ a e, f a = .error e ↔ failure? a = some e) :
    l.mapM f = .error e ↔ l.findSome? failure? = some e := by
  induction l with
  | nil => simp [pure, Except.pure]
  | cons a rest induction =>
      rw [List.mapM_cons]
      cases first : f a with
      | error e => simp [bind, Except.bind, (step a e).mp first]
      | ok b =>
          have silent : failure? a = none := by
            refine Option.eq_none_iff_forall_ne_some.mpr fun e told => ?_
            cases first.symm.trans ((step a e).mpr told)
          rw [List.findSome?_cons_of_isNone (by simp [silent]), ← induction]
          cases rest.mapM f <;> simp [bind, Except.bind, pure, Except.pure]

end BindingRepair.Traversal
