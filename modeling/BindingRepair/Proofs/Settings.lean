import Mathlib.Data.List.Forall2
import Mathlib.Data.List.Infix
import BindingRepair.Proofs.OrderedMap
import BindingRepair.Proofs.Text.Line
import BindingRepair.Proofs.Text.Occurrence
import BindingRepair.Proofs.Text.Trim
import BindingRepair.Settings

namespace BindingRepair.Settings

open Text

variable {part before after : List Char} {entry : String × String}

/-- What a part of the list says that is not blank: the struct is named before the first equals sign
and the template behind it. A template that is not named has the name of the struct. -/
inductive Says : List Char → String × String → Prop
  | named {before after : List Char} (first : '=' ∉ before) (filled : ¬ Blank after) :
      Says (before ++ '=' :: after) (String.ofList (trim before), String.ofList (trim after))
  | unnamed {before after : List Char} (first : '=' ∉ before) (blank : Blank after) :
      Says (before ++ '=' :: after)
        (String.ofList (trim before), String.ofList (trim before) ++ ".cx")
  | alone {part : List Char} (free : '=' ∉ part) :
      Says part (String.ofList (trim part), String.ofList (trim part) ++ ".cx")

theorem structEntry_append (first : '=' ∉ before) :
    structEntry (before ++ '=' :: after) =
      (String.ofList (trim before),
        if Blank after then String.ofList (trim before) ++ ".cx"
        else String.ofList (trim after)) := by
  have split : splitFirst? ['='] (before ++ '=' :: after) = some (before, after) := by
    have nowhere : StartsNowhere ['='] before (['='] ++ after) := startsNowhere_of_not_mem first
    simpa using splitFirst?_append nowhere
  rw [structEntry, split, Option.getD_some]
  dsimp only
  cases left : trim after with
  | nil => simp [trim_eq_nil_iff.mp left]
  | cons c rest =>
      have filled : ¬ Blank after := fun blank => by
        rw [trim_eq_nil_iff.mpr blank] at left
        cases left
      simp [filled]

theorem structEntry_of_not_mem (free : '=' ∉ part) :
    structEntry part = (String.ofList (trim part), String.ofList (trim part) ++ ".cx") := by
  have missing : splitFirst? ['='] part = none :=
    splitFirst?_eq_none_iff.mpr (mt (List.singleton_infix_iff '=' part).mp free)
  have nothing : trim [] = [] := rfl
  rw [structEntry, missing, Option.getD_none]
  simp [nothing]

theorem structEntry_trim_append (first : '=' ∉ before) (after : List Char) :
    structEntry (trim (before ++ '=' :: after)) = structEntry (before ++ '=' :: after) := by
  have firstLeft : '=' ∉ trimStart before := fun member =>
    first ((trimStart_sublist before).subset member)
  have sameBlank : Blank (trimEnd after) ↔ Blank after := by
    rw [← trim_eq_nil_iff, ← trim_eq_nil_iff, trim_trimEnd]
  rw [trim_append_cons (by decide), structEntry_append firstLeft, structEntry_append first,
    trim_trimStart, trim_trimEnd]
  simp only [sameBlank]

theorem says_iff : Says part entry ↔ structEntry (trim part) = entry := by
  constructor
  · intro said
    cases said with
    | named first filled =>
        rw [structEntry_trim_append first, structEntry_append first, if_neg filled]
    | unnamed first blank =>
        rw [structEntry_trim_append first, structEntry_append first, if_pos blank]
    | alone free =>
        have freeInside : '=' ∉ trim part := fun member => free ((trim_sublist part).subset member)
        rw [structEntry_of_not_mem freeInside, trim_trim]
  · rintro rfl
    by_cases present : '=' ∈ part
    · obtain ⟨before, after, rfl, first⟩ := List.eq_append_cons_of_mem present
      rw [structEntry_trim_append first, structEntry_append first]
      split
      · next blank => exact .unnamed first blank
      · next filled => exact .named first filled
    · have freeInside : '=' ∉ trim part := fun member => present ((trim_sublist part).subset member)
      rw [structEntry_of_not_mem freeInside, trim_trim]
      exact .alone present

theorem map_structEntry_items (text : String) :
    (items text).map structEntry =
      ((splitAt ',' text.toList).filter fun part => !decide (Blank part)).map
        (structEntry ∘ trim) := by
  have kept : (fun item : List Char => decide (item ≠ [])) ∘ trim =
      fun part => !decide (Blank part) := by
    funext part
    simp [trim_eq_nil_iff]
  rw [items, List.filter_map, List.map_map, kept]

theorem forall₂_says (parts : List (List Char)) :
    List.Forall₂ Says parts (parts.map (structEntry ∘ trim)) := by
  rw [List.forall₂_map_right_iff, List.forall₂_same]
  exact fun part _ => says_iff.mpr rfl

structure Space where
  chars : List Char
  blank : Blank chars

/-- A part of a list that is written: white space alone, or a name and a template with white space
around each. -/
inductive Part
  | gap (space : Space)
  | pair (name template : String) (beforeName behindName beforeTemplate behindTemplate : Space)

namespace Part

def text : Part → List Char
  | .gap space => space.chars
  | .pair name template beforeName behindName beforeTemplate behindTemplate =>
    (beforeName.chars ++ name.toList ++ behindName.chars) ++
      '=' :: (beforeTemplate.chars ++ template.toList ++ behindTemplate.chars)

def entry? : Part → Option (String × String)
  | .gap _ => none
  | .pair name template _ _ _ _ => some (name, template)

end Part

def written (parts : List Part) : String :=
  String.ofList ([','].intercalate (parts.map Part.text))

/-- A name and a template that a list can hold: neither has white space around it or a comma in it,
the name holds no equals sign, and the template is not empty. -/
structure Writable (entry : String × String) : Prop where
  nameBegins : Stops isBlank entry.1.toList
  nameEnds : Stops isBlank entry.1.toList.reverse
  nameCommaFree : ',' ∉ entry.1.toList
  nameEqualsFree : '=' ∉ entry.1.toList
  templateBegins : Stops isBlank entry.2.toList
  templateEnds : Stops isBlank entry.2.toList.reverse
  templateCommaFree : ',' ∉ entry.2.toList
  templateNonempty : entry.2 ≠ ""

instance (entry : String × String) : Decidable (Writable entry) :=
  decidable_of_iff
    ((Stops isBlank entry.1.toList ∧ Stops isBlank entry.1.toList.reverse ∧
        ',' ∉ entry.1.toList ∧ '=' ∉ entry.1.toList) ∧
      Stops isBlank entry.2.toList ∧ Stops isBlank entry.2.toList.reverse ∧
        ',' ∉ entry.2.toList ∧ entry.2 ≠ "")
    ⟨fun ⟨⟨nameBegins, nameEnds, nameCommaFree, nameEqualsFree⟩,
        templateBegins, templateEnds, templateCommaFree, templateNonempty⟩ =>
      { nameBegins, nameEnds, nameCommaFree, nameEqualsFree, templateBegins, templateEnds,
        templateCommaFree, templateNonempty },
    fun entry => ⟨⟨entry.nameBegins, entry.nameEnds, entry.nameCommaFree, entry.nameEqualsFree⟩,
      entry.templateBegins, entry.templateEnds, entry.templateCommaFree,
      entry.templateNonempty⟩⟩

theorem Space.not_mem (space : Space) {c : Char} (filled : isBlank c = false) : c ∉ space.chars :=
  space.blank.not_mem filled

namespace Part

variable {listed : Part} {name template : String}
  {beforeName behindName beforeTemplate behindTemplate : Space}

theorem comma_not_mem_text (writable : ∀ entry ∈ listed.entry?, Writable entry) :
    ',' ∉ listed.text := by
  have outside (space : Space) : ',' ∉ space.chars := space.not_mem (by decide)
  cases listed with
  | gap space => exact outside space
  | pair name template =>
      have entry := writable (name, template) rfl
      simp [text, outside, entry.nameCommaFree, entry.templateCommaFree]

theorem says_text (writable : Writable (name, template)) :
    Says (pair name template beforeName behindName beforeTemplate behindTemplate).text
      (name, template) := by
  have first : '=' ∉ beforeName.chars ++ name.toList ++ behindName.chars := by
    have outside (space : Space) : '=' ∉ space.chars := space.not_mem (by decide)
    simp [outside, writable.nameEqualsFree]
  have named : trim (beforeName.chars ++ name.toList ++ behindName.chars) = name.toList :=
    trim_blank_append_append beforeName.blank behindName.blank writable.nameBegins writable.nameEnds
  have templated : trim (beforeTemplate.chars ++ template.toList ++ behindTemplate.chars) =
      template.toList :=
    trim_blank_append_append beforeTemplate.blank behindTemplate.blank writable.templateBegins
      writable.templateEnds
  have filled : ¬ Blank (beforeTemplate.chars ++ template.toList ++ behindTemplate.chars) := by
    rw [← trim_eq_nil_iff, templated, String.toList_eq_nil_iff]
    exact writable.templateNonempty
  have said := Says.named first filled
  rw [named, templated, String.ofList_toList, String.ofList_toList] at said
  exact said

theorem not_blank_text :
    ¬ Blank (pair name template beforeName behindName beforeTemplate behindTemplate).text :=
  fun blank => absurd (blank '=' (by simp [text])) (by decide)

end Part

theorem said_parts {parts : List Part}
    (writable : ∀ entry ∈ parts.filterMap Part.entry?, Writable entry) :
    ((parts.map Part.text).filter fun part => !decide (Blank part)).map (structEntry ∘ trim) =
      parts.filterMap Part.entry? := by
  induction parts with
  | nil => rfl
  | cons listed rest induction =>
      rw [List.map_cons]
      cases listed with
      | gap space =>
          have blank : Blank (Part.gap space).text := space.blank
          rw [List.filter_cons_of_neg (by simp [blank]), induction writable]
          rfl
      | pair name template =>
          obtain ⟨first, later⟩ := List.forall_mem_cons.mp writable
          rw [List.filter_cons_of_pos (by simp [Part.not_blank_text]), List.map_cons,
            induction later, Function.comp_apply, says_iff.mp (Part.says_text first)]
          rfl

theorem map_structEntry_written {parts : List Part}
    (writable : ∀ entry ∈ parts.filterMap Part.entry?, Writable entry) :
    (items (written parts)).map structEntry = parts.filterMap Part.entry? := by
  rw [map_structEntry_items, written, String.toList_ofList]
  cases parts with
  | nil => rfl
  | cons listed rest =>
      have free : ∀ part ∈ (listed :: rest).map Part.text, ',' ∉ part := by
        intro part member
        obtain ⟨other, present, rfl⟩ := List.mem_map.mp member
        exact Part.comma_not_mem_text fun entry stands =>
          writable entry (List.mem_filterMap.mpr ⟨other, present, stands⟩)
      rw [splitAt_intercalate (by simp) free, said_parts writable]

/-- A map is read back from any list of its entries, whatever white space stands around them. And
of any text at all each part that is not blank is read as it says: the names stand in the order in
which they come first, each with the template with which it comes last. -/
theorem structTemplates_reads_back :
    (∀ (map : OrderedMap String) (parts : List Part), (∀ entry ∈ map.entries, Writable entry) →
      parts.filterMap Part.entry? = map.entries → structTemplates (written parts) = map) ∧
    ∀ text : String, ∃ (parts : List (List Char)) (said : List (String × String)),
      text.toList = [','].intercalate parts ∧ (∀ part ∈ parts, ',' ∉ part) ∧
      List.Forall₂ Says (parts.filter fun part => !decide (Blank part)) said ∧
      (structTemplates text).names = (said.map (·.1)).eraseDups ∧
      ∀ name, (structTemplates text).get? name = said.reverse.lookup name := by
  constructor
  · intro map parts writable listed
    rw [structTemplates, map_structEntry_written (by rwa [listed]), listed,
      OrderedMap.ofList_entries]
  · intro text
    have read := map_structEntry_items text
    refine ⟨splitAt ',' text.toList, _, (intercalate_splitAt ',' text.toList).symm,
      fun part => not_mem_of_mem_splitAt, forall₂_says _, ?_, fun name => ?_⟩
    · rw [structTemplates, read, OrderedMap.names_ofList]
    · rw [structTemplates, read, OrderedMap.get?_ofList]

example : (structTemplates "A, B = x ,A=y,=z").entries = [("A", "y"), ("B", "x"), ("", "z")] := by
  decide +kernel

theorem structTemplates_reads_back_padded :
    structTemplates " , ProcessInfo = ProcessInfo.cx\t,,Rect=\u3000=a=b.cx" =
      .ofList [("ProcessInfo", "ProcessInfo.cx"), ("Rect", "=a=b.cx")] := by
  let none : Space := ⟨[], by decide⟩
  let space : Space := ⟨[' '], by decide⟩
  let tabulator : Space := ⟨['\t'], by decide⟩
  let wide : Space := ⟨['\u3000'], by decide⟩
  let parts : List Part := [.gap space, .pair "ProcessInfo" "ProcessInfo.cx" space space space
    tabulator, .gap none, .pair "Rect" "=a=b.cx" none none wide none]
  have text : written parts = " , ProcessInfo = ProcessInfo.cx\t,,Rect=\u3000=a=b.cx" := by
    decide +kernel
  rw [← text]
  exact structTemplates_reads_back.1 _ parts (by decide +kernel) (by decide +kernel)

end BindingRepair.Settings
