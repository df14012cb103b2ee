
namespace BindingRepair

structure OrderedMap (α : Type) where
  entries : List (String × α)
  nodup : (entries.map (·.1)).Nodup

namespace OrderedMap

variable {α : Type}

/-- Gives a name a value: in its place if it has one, and else at the end. -/
def assign (name : String) (value : α) : List (String × α) → List (String × α)
  | [] => [(name, value)]
  | (other, old) :: rest =>
    if other = name then (other, value) :: rest else (other, old) :: assign name value rest

theorem names_assign (name : String) (value : α) (entries : List (String × α)) :
    (assign name value entries).map (·.1) =
      if name ∈ entries.map (·.1) then entries.map (·.1) else entries.map (·.1) ++ [name] := by
  induction entries with
  | nil => rfl
  | cons entry rest induction =>
    obtain ⟨other, old⟩ := entry
    by_cases h : other = name
    · simp [assign, h]
    · have hname : ¬ name = other := fun hsame => h hsame.symm
      simp only [assign, h, if_false, List.map_cons, List.mem_cons, hname, false_or, induction]
      split <;> rfl

def empty : OrderedMap α where
  entries := []
  nodup := List.nodup_nil

def insert (map : OrderedMap α) (name : String) (value : α) : OrderedMap α where
  entries := assign name value map.entries
  nodup := by
    rw [names_assign]
    split
    · exact map.nodup
    · next h =>
      refine List.nodup_append.mpr ⟨map.nodup, by simp, fun a ha b hb hsame => h ?_⟩
      rw [List.mem_singleton] at hb
      rwa [← hb, ← hsame]

def ofList (entries : List (String × α)) : OrderedMap α :=
  entries.foldl (fun map (name, value) => map.insert name value) empty

def names (map : OrderedMap α) : List String :=
  map.entries.map (·.1)

def values (map : OrderedMap α) : List α :=
  map.entries.map (·.2)

def get? (map : OrderedMap α) (name : String) : Option α :=
  map.entries.lookup name

@[simp] theorem entries_insert (map : OrderedMap α) (name : String) (value : α) :
    (map.insert name value).entries = assign name value map.entries := rfl

end OrderedMap

end BindingRepair
