import BindingRepair.Proofs.RuleRegistry
import BindingRepair.Proofs.Text.Occurrence

namespace BindingRepair

namespace LineEdit

open Text

variable {tail front type method back s : List Char} {c : Char}

/-- A member of `self`, which stands in parentheses behind a cast. -/
def selfAccess : List Char := "(self)->".toList

def pointerCast (type : List Char) : List Char :=
  '(' :: type ++ "*)".toList

theorem startsNowhere_pointerCast (starless : '*' ∉ tail) (inside : c ∈ tail) (outside : c ∉ type)
    (opened : '(' ∉ type) : StartsNowhere ('(' :: tail) (pointerCast type) s := by
  refine startsNowhere_cons.mpr ⟨fun starts => ?_, startsNowhere_of_not_mem (by simp [opened])⟩
  have begun : tail <+: type ++ '*' :: (')' :: s) := by
    simpa using (List.cons_prefix_cons.mp starts).2
  exact outside ((prefix_of_prefix_append starless begun).subset inside)

theorem startsNowhere_opening {first : Char} (free : contains front ('(' :: first :: tail) = false)
    (single : first ≠ '(')
    (uncontinued : ∀ start rest, '(' :: first :: tail = start ++ '(' :: rest → start ≠ [] →
      ¬ start <:+ front)
    (inCast : StartsNowhere ('(' :: first :: tail) (pointerCast type) s) :
    StartsNowhere ('(' :: first :: tail) (front ++ '(' :: pointerCast type) s := by
  have inFront : StartsNowhere ('(' :: first :: tail) front ('(' :: pointerCast type ++ s) :=
    startsNowhere_of_not_infix (contains_eq_false_iff.mp free) uncontinued
  refine inFront.append (startsNowhere_cons.mpr ⟨fun starts => single ?_, inCast⟩)
  exact (List.cons_prefix_cons.mp (List.cons_prefix_cons.mp starts).2).1

theorem selfAccess_in_cast (opened : '(' ∉ type) (closed : ')' ∉ type) :
    StartsNowhere selfAccess (pointerCast type) s :=
  startsNowhere_pointerCast (c := ')') (by decide) (by decide) closed opened

theorem selfAccess_in_opening (free : contains front selfAccess = false) (opened : '(' ∉ type)
    (closed : ')' ∉ type) : StartsNowhere selfAccess (front ++ '(' :: pointerCast type) s := by
  refine startsNowhere_opening free (by decide) (fun start rest split nonempty => ?_)
    (selfAccess_in_cast opened closed)
  obtain ⟨d, start, rfl⟩ := List.exists_cons_of_ne_nil nonempty
  have behind : "self)->".toList = start ++ '(' :: rest := (List.cons.inj split).2
  exact absurd (behind ▸ List.mem_append_right start List.mem_cons_self) (by decide)

theorem addressCast_in_opening (free : contains front addressCast = false)
    (uncontinued : ¬ "(&".toList <:+ front) (opened : '(' ∉ type) :
    StartsNowhere addressCast (front ++ '(' :: pointerCast type) s := by
  refine startsNowhere_opening free (by decide) (fun start rest split nonempty => ?_)
    (startsNowhere_pointerCast (c := '(') (by decide) (by decide) opened opened)
  rcases start with _ | ⟨d, _ | ⟨e, start⟩⟩
  · exact absurd rfl nonempty
  · exact absurd (List.cons.inj (List.cons.inj split).2).1 (by decide)
  · obtain ⟨rfl, second⟩ := List.cons.inj split
    obtain ⟨rfl, third⟩ := List.cons.inj second
    cases start with
    | nil => exact uncontinued
    | cons f start => cases start <;> cases third

theorem startsNowhere_back {word : List Char} (plain : '(' ∉ word)
    (free : contains back ('(' :: tail) = false) :
    StartsNowhere ('(' :: tail) (word ++ back) [] :=
  (startsNowhere_of_not_mem plain).append
    (startsNowhere_of_not_infix_end (contains_eq_false_iff.mp free))

theorem replaceAll_selfAccess (free : contains front selfAccess = false)
    (freeBack : contains back selfAccess = false) (opened : '(' ∉ type) (closed : ')' ∉ type)
    (plain : '(' ∉ method) :
    replaceAll selfAccess "self)->".toList
        (front ++ '(' :: pointerCast type ++ (selfAccess ++
          ("vtbl->".toList ++ method ++ ("(&".toList ++ pointerCast type) ++ selfAccess ++
            ("container".toList ++ back)))) =
      front ++ '(' :: pointerCast type ++ ("self)->".toList ++
          ("vtbl->".toList ++ method ++ ("(&".toList ++ pointerCast type) ++ "self)->".toList ++
            ("container".toList ++ back))) := by
  have inCall (s : List Char) : StartsNowhere selfAccess
      ("vtbl->".toList ++ method ++ ("(&".toList ++ pointerCast type)) s := by
    have inMethod : '(' ∉ "vtbl->".toList ++ method := List.not_mem_append (by decide) plain
    refine (startsNowhere_of_not_mem inMethod).append ?_
    refine startsNowhere_cons.mpr ⟨fun starts => ?_, startsNowhere_cons.mpr ⟨fun starts => ?_,
      selfAccess_in_cast opened closed⟩⟩
    · exact absurd (List.cons_prefix_cons.mp (List.cons_prefix_cons.mp starts).2).1 (by decide)
    · exact absurd (List.cons_prefix_cons.mp starts).1 (by decide)
  rw [replaceAll_append (selfAccess_in_opening free opened closed), replaceAll_token (by decide),
    replaceAll_last (by decide) (inCall _) (startsNowhere_back (by decide) freeBack)]

theorem replaceAll_addressCast (free : contains front addressCast = false)
    (uncontinued : ¬ "(&".toList <:+ front) (freeBack : contains back addressCast = false)
    (opened : '(' ∉ type) (plain : '(' ∉ method) :
    replaceAll addressCast "(&((".toList
        (front ++ '(' :: pointerCast type ++ ("self)->vtbl->".toList ++ method) ++ addressCast ++
          (type ++ "*)self)->container".toList ++ back)) =
      front ++ '(' :: pointerCast type ++ ("self)->vtbl->".toList ++ method) ++ "(&((".toList ++
          (type ++ "*)self)->container".toList ++ back) := by
  have inMethod : '(' ∉ "self)->vtbl->".toList ++ method := List.not_mem_append (by decide) plain
  have inSelf : '(' ∉ type ++ "*)self)->container".toList := List.not_mem_append opened (by decide)
  exact replaceAll_last (by decide)
    ((addressCast_in_opening free uncontinued opened).append (startsNowhere_of_not_mem inMethod))
    (startsNowhere_back inSelf freeBack)

/-- The call as the generator writes it: the casts apply to the table and to the container. -/
def memberCast (front type method back : String) : String :=
  front ++ "((" ++ type ++ "*)(self)->vtbl)->" ++ method ++ "(&(" ++ type ++
    "*)(self)->container" ++ back

/-- The call with the casts applied to `self`. -/
def selfCast (front type method back : String) : String :=
  front ++ "((" ++ type ++ "*)self)->vtbl->" ++ method ++ "(&((" ++ type ++
    "*)self)->container" ++ back

section

variable {front type method back : String}

theorem toList_memberCast : (memberCast front type method back).toList =
    front.toList ++ '(' :: pointerCast type.toList ++ vtableAccess ++ (')' :: ("->".toList ++
      (method.toList ++ ("(&".toList ++ (pointerCast type.toList ++ (selfAccess ++
        ("container".toList ++ back.toList))))))) := by
  have opening : "((".toList = '(' :: ['('] := rfl
  have access : "*)(self)->vtbl)->".toList =
    "*)".toList ++ (vtableAccess ++ (')' :: "->".toList)) := rfl
  have address : "(&(".toList = "(&".toList ++ ['('] := rfl
  have container : "*)(self)->container".toList =
    "*)".toList ++ (selfAccess ++ "container".toList) := rfl
  simp only [memberCast, String.toList_append]
  rw [opening, access, address, container]
  simp only [pointerCast, List.append_assoc, List.cons_append, List.nil_append]

theorem toList_selfCast : (selfCast front type method back).toList =
    front.toList ++ '(' :: pointerCast type.toList ++
      ("self)->vtbl->".toList ++ method.toList) ++ "(&((".toList ++
        (type.toList ++ "*)self)->container".toList ++ back.toList) := by
  have opening : "((".toList = '(' :: ['('] := rfl
  have access : "*)self)->vtbl->".toList = "*)".toList ++ "self)->vtbl->".toList := rfl
  simp only [selfCast, String.toList_append]
  rw [opening, access]
  simp only [pointerCast, List.append_assoc, List.cons_append, List.nil_append]

theorem hasVtableCast_memberCast :
    hasVtableCast (memberCast front type method back).toList = true := by
  have address : addressCast = "(&".toList ++ ['('] := rfl
  rw [toList_memberCast]
  refine Bool.and_eq_true_iff.mpr ⟨contains_iff.mpr ⟨_, _, rfl⟩, contains_iff.mpr ?_⟩
  refine ⟨front.toList ++ '(' :: pointerCast type.toList ++ vtableAccess ++
      (')' :: ("->".toList ++ method.toList)),
    type.toList ++ "*)".toList ++ selfAccess ++ "container".toList ++ back.toList, ?_⟩
  rw [address]
  simp only [pointerCast, List.append_assoc, List.cons_append, List.nil_append]

theorem vtableCast?_memberCast (free : contains front.toList selfAccess = false)
    (freeAddress : contains front.toList addressCast = false)
    (uncontinued : ¬ "(&".toList <:+ front.toList)
    (freeBack : contains back.toList selfAccess = false)
    (freeBackAddress : contains back.toList addressCast = false)
    (opened : '(' ∉ type.toList) (closed : ')' ∉ type.toList) (plain : '(' ∉ method.toList) :
    vtableCast? (memberCast front type method back).toList =
      some (selfCast front type method back).toList := by
  have found (rest : List Char) : splitFirst? vtableAccess
      (front.toList ++ '(' :: pointerCast type.toList ++ vtableAccess ++ (')' :: rest)) =
      some (front.toList ++ '(' :: pointerCast type.toList, ')' :: rest) :=
    splitFirst?_append ((selfAccess_in_opening free opened closed).of_start ⟨"vtbl".toList, rfl⟩)
  have closing (rest : List Char) : splitFirst? [')'] (')' :: rest) = some ([], rest) := rfl
  have selves := replaceAll_selfAccess free freeBack opened closed plain
  have addresses :=
    replaceAll_addressCast freeAddress uncontinued freeBackAddress opened plain
  have access : vtableAccess = selfAccess ++ "vtbl".toList := rfl
  have member : "vtbl->".toList = "vtbl".toList ++ "->".toList := rfl
  have address : addressCast = "(&".toList ++ ['('] := rfl
  have selfMember : "self)->vtbl->".toList = "self)->".toList ++ "vtbl->".toList := rfl
  have castContainer : "*)self)->container".toList =
    "*)".toList ++ ("self)->".toList ++ "container".toList) := rfl
  rw [toList_memberCast, toList_selfCast, ← addresses, vtableCast?, found]
  simp only [Option.bind_some, closing, Option.map_some, Option.some.injEq]
  calc
    _ = replaceAll addressCast "(&((".toList (replaceAll selfAccess "self)->".toList
          (front.toList ++ '(' :: pointerCast type.toList ++ (selfAccess ++
            ("vtbl->".toList ++ method.toList ++ ("(&".toList ++ pointerCast type.toList) ++
              selfAccess ++ ("container".toList ++ back.toList))))) := by
      rw [access, member]
      simp only [List.append_assoc, List.cons_append, List.nil_append]
      rfl
    _ = _ := by
      rw [selves, selfMember, castContainer, address]
      simp only [pointerCast, List.append_assoc, List.cons_append, List.nil_append]

end

end LineEdit

namespace PatchRule

open Text LineEdit

/-- The rule for operations on untyped pointers casts `self` where a line casts its table and its
container. -/
theorem vtableCast_of_memberCast (d : Diagnostic) (ctx : PassContext)
    (front type method back : String)
    (opened : '(' ∉ type.toList) (closed : ')' ∉ type.toList) (plain : '(' ∉ method.toList)
    (free : contains front.toList "(self)->".toList = false)
    (freeAddress : contains front.toList "(&(".toList = false)
    (uncontinued : ¬ "(&".toList <:+ front.toList)
    (freeBack : contains back.toList "(self)->".toList = false)
    (freeBackAddress : contains back.toList "(&(".toList = false) :
    vtableCast.apply d (memberCast front type method back) ctx =
      .ok { actions := [.replace (selfCast front type method back)] } := by
  have edit := vtableCast?_memberCast free freeAddress uncontinued freeBack freeBackAddress opened
    closed plain
  have applied : vtableCast.apply d (memberCast front type method back) ctx =
      edited (vtableCast? (memberCast front type method back).toList) .vtableNotParenthesized :=
    if_pos hasVtableCast_memberCast
  rw [applied, edit, edited, String.ofList_toList]

theorem vtableCast_of_memberCast_keyboard :
    vtableCast.apply { code := "CS0242" }
        "bool __ret = ((Keyboard*)(self)->vtbl)->is_down(&(Keyboard*)(self)->container, vk);"
        emptyContext =
      .ok { actions := [.replace
        "bool __ret = ((Keyboard*)self)->vtbl->is_down(&((Keyboard*)self)->container, vk);"] } :=
  vtableCast_of_memberCast { code := "CS0242" } emptyContext "bool __ret = " "Keyboard" "is_down"
    ", vk);" (by decide) (by decide) (by decide) (by decide) (by decide) (by decide) (by decide)
    (by decide)

end PatchRule

end BindingRepair
