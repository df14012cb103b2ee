/-!
Phrases: what may stand in a row, as regular expressions over symbols. The places of a phrase are its
occurrences of symbols, numbered from left to right. To read a phrase is to walk from place to place:
its outline tells with which places one may start, which may follow which, and with which one may
end.
-/

namespace BindingRepair.Source

inductive Phrase (σ : Type)
  | empty
  | symbol (s : σ)
  | seq (first second : Phrase σ)
  | alt (first second : Phrase σ)
  | plus (p : Phrase σ)

namespace Phrase

variable {σ : Type}

def row : List (Phrase σ) → Phrase σ
  | [] => empty
  | [p] => p
  | p :: rest => seq p (row rest)

def oneOf : List (Phrase σ) → Phrase σ
  | [] => empty
  | [p] => p
  | p :: rest => alt p (oneOf rest)

def opt (p : Phrase σ) : Phrase σ :=
  alt p empty

def many (p : Phrase σ) : Phrase σ :=
  opt (plus p)

def list (separator p : Phrase σ) : Phrase σ :=
  seq p (many (seq separator p))

def list₂ (separator p : Phrase σ) : Phrase σ :=
  seq p (plus (seq separator p))

end Phrase

structure Outline (σ : Type) where
  symbols : List σ
  canSkip : Bool
  first : List Nat
  last : List Nat
  links : List (Nat × Nat)

namespace Outline

variable {σ : Type}

def all (froms tos : List Nat) : List (Nat × Nat) :=
  froms.flatMap fun a => tos.map fun b => (a, b)

def seq (a b : Outline σ) : Outline σ where
  symbols := a.symbols ++ b.symbols
  canSkip := a.canSkip && b.canSkip
  first := if a.canSkip then a.first ++ b.first else a.first
  last := if b.canSkip then a.last ++ b.last else b.last
  links := a.links ++ b.links ++ all a.last b.first

def alt (a b : Outline σ) : Outline σ where
  symbols := a.symbols ++ b.symbols
  canSkip := a.canSkip || b.canSkip
  first := a.first ++ b.first
  last := a.last ++ b.last
  links := a.links ++ b.links

def plus (a : Outline σ) : Outline σ :=
  { a with links := a.links ++ all a.last a.first }

end Outline

def Phrase.outline {σ : Type} (start : Nat) : Phrase σ → Outline σ
  | .empty => ⟨[], true, [], [], []⟩
  | .symbol s => ⟨[s], false, [start], [start], []⟩
  | .seq p q =>
    let a := p.outline start
    a.seq (q.outline (start + a.symbols.length))
  | .alt p q =>
    let a := p.outline start
    a.alt (q.outline (start + a.symbols.length))
  | .plus p => (p.outline start).plus

end BindingRepair.Source
