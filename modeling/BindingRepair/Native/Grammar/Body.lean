import BindingRepair.Native.Token

/-!
Bodies of functions are passed over. Brackets are matched, and so are the two marks of a choice; a
bracket that fits one further out ends all that is open inside.
-/

namespace BindingRepair.Native.Body

structure Counts where
  round : Nat := 0
  square : Nat := 0
  curly : Nat := 0

/-- Something that is open: the symbol that closes it, and whether nothing was read in it. -/
structure Level where
  closer : String
  isNew : Bool := true

def skip (counts : Counts) : List Level → List Token → List Token
  | [], tokens => tokens
  | _, [] => []
  | level :: outer, t :: tokens =>
    let deeper (closer : String) (counts : Counts) : List Token :=
      skip counts ({ closer } :: { level with isNew := false } :: outer) tokens
    let onward (counts : Counts) : List Token :=
      skip counts ({ level with isNew := false } :: outer) tokens
    let seen (levels : List Level) : List Level :=
      match levels with
      | [] => []
      | level :: outer => { level with isNew := false } :: outer
    let closed : Counts :=
      match t.text with
      | ")" => { counts with round := counts.round - 1 }
      | "]" | ":>" => { counts with square := counts.square - 1 }
      | "\x7d" | "%>" => { counts with curly := counts.curly - 1 }
      | _ => counts
    if t.isSymbol level.closer then skip closed (seen outer) tokens
    else if t.isSymbol "(" then deeper ")" { counts with round := counts.round + 1 }
    else if t.isSymbol "[" then deeper "]" { counts with square := counts.square + 1 }
    else if t.isSymbol "\x7b" then deeper "\x7d" { counts with curly := counts.curly + 1 }
    else if t.isSymbol "?" then deeper ":" counts
    else
      let fitsOuter := (t.isSymbol ")" && 0 < counts.round) ||
        (t.isSymbol "]" && 0 < counts.square) || (t.isSymbol "\x7d" && 0 < counts.curly)
      if fitsOuter && !level.isNew then skip counts (seen outer) (t :: tokens)
      else onward closed
termination_by levels tokens => (tokens.length, levels.length)
decreasing_by
  all_goals simp_wf
  all_goals first
    | (apply Prod.Lex.left; omega)
    | (cases outer <;> simp [Prod.lex_def])

def behind (tokens : List Token) : List Token :=
  skip { curly := 1 } [{ closer := "\x7d" }] tokens.tail

end BindingRepair.Native.Body
