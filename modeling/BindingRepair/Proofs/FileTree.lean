import BindingRepair.FileTree
import BindingRepair.Proofs.OrderedMap

namespace BindingRepair.FileTree

section

variable {place : List String} {octets : List UInt8}

theorem map_replaceAt (files : List (List String × List UInt8)) :
    (replaceAt place octets files).map (·.1) = files.map (·.1) := by
  induction files with
  | nil => rfl
  | cons entry rest induction =>
      obtain ⟨name, old⟩ := entry
      by_cases same : name = place
      · simp [replaceAt, same]
      · simp [replaceAt, same, induction]

theorem lookup_replaceAt (files : List (List String × List UInt8)) (other : List String) :
    (replaceAt place octets files).lookup other =
      if other = place then (files.lookup place).map fun _ => octets else files.lookup other := by
  induction files with
  | nil => simp [replaceAt]
  | cons entry rest induction =>
      obtain ⟨name, old⟩ := entry
      rw [replaceAt]
      by_cases same : name = place
      · subst same
        rw [if_pos rfl]
        simp only [OrderedMap.lookup_cons_eq_ite]
        by_cases asked : other = name
        · simp [asked]
        · simp [asked]
      · rw [if_neg same]
        simp only [OrderedMap.lookup_cons_eq_ite, induction]
        by_cases asked : other = name
        · simp [asked, same]
        · simp [asked, Ne.symm same]

end

variable {t t' : FileTree} {path other : PathName} {text : String}

theorem isDirectory_congr (directories : t'.directories = t.directories)
    (names : t'.files.map (·.1) = t.files.map (·.1)) (place : List String) :
    t'.isDirectory place = t.isDirectory place := by
  have any := congrArg (List.any · fun file => place.isPrefixOf file && place ≠ file) names
  simp only [List.any_map] at any
  simp only [isDirectory, directories]
  exact congrArg _ any

theorem placeFrom?_congr (directories : t'.directories = t.directories)
    (names : t'.files.map (·.1) = t.files.map (·.1)) (directory parts : List String) :
    t'.placeFrom? directory parts = t.placeFrom? directory parts := by
  induction parts generalizing directory with
  | nil => rfl
  | cons part rest induction =>
      simp only [placeFrom?, isDirectory_congr directories names, induction]

/-- What has changed after a text was written to the file that a path leads to. -/
structure Written (t : FileTree) (path : PathName) (text : String) (t' : FileTree) : Prop where
  directories : t'.directories = t.directories
  names : t'.files.map (·.1) = t.files.map (·.1)
  content : t'.read? path = some (Text.encodeUtf8 text)
  elsewhere : ∀ other : PathName,
    t.placeFrom? [] other.parts ≠ t.placeFrom? [] path.parts → t'.read? other = t.read? other

theorem written_writeText {old : List UInt8} (present : t.read? path = some old) (text : String) :
    t.Written path text (t.writeText path text) := by
  obtain ⟨place, leads, found⟩ := Option.bind_eq_some_iff.mp present
  have made : t.writeText path text =
      { t with files := replaceAt place (Text.encodeUtf8 text) t.files } := by
    rw [writeText, leads]
  have names : (t.writeText path text).files.map (·.1) = t.files.map (·.1) := by
    rw [made]
    exact map_replaceAt t.files
  have directories : (t.writeText path text).directories = t.directories := by rw [made]
  refine ⟨directories, names, ?_, ?_⟩
  · rw [read?, placeFrom?_congr directories names, leads, made]
    have written : t.files.lookup place = some old := found
    exact (lookup_replaceAt t.files place).trans (by rw [if_pos rfl, written]; rfl)
  · intro other apart
    rw [read?, read?, placeFrom?_congr directories names, made]
    cases otherPlace : t.placeFrom? [] other.parts with
    | none => rfl
    | some elsewhere =>
        have different : elsewhere ≠ place := by
          rintro rfl
          exact apart (otherPlace.trans leads.symm)
        exact (lookup_replaceAt t.files elsewhere).trans (if_neg different)

theorem read?_of_readText? {answer : Except Text.OctetError String}
    (read : t.readText? path = some answer) : ∃ octets, t.read? path = some octets := by
  obtain ⟨octets, present, _⟩ := Option.map_eq_some_iff.mp read
  exact ⟨octets, present⟩

end BindingRepair.FileTree
