import Std.Data.HashMap
import BindingRepair.Source.Grammar.Declaration

namespace BindingRepair.Source

structure Network where
  symbols : Array Symbol := #[]
  owners : Array Rule := #[]
  following : Array (List Nat) := #[]
  isLast : Array Bool := #[]
  entries : Std.HashMap Rule (List Nat) := {}
  terminals : List Terminal := []
  /-- The terminals with which the symbol at each place can begin, as a set of bits. -/
  starts : Array Nat := #[]

namespace Network

def add (n : Network) (p : Production) : Network :=
  let outline := p.phrase.outline n.symbols.size
  let size := outline.symbols.length
  let following := n.following ++ Array.replicate size []
  let isLast := n.isLast ++ Array.replicate size false
  { n with
    symbols := n.symbols ++ outline.symbols.toArray
    owners := n.owners ++ Array.replicate size p.rule
    following := outline.links.foldl (fun next (a, b) => next.modify a (b :: ·)) following
    isLast := outline.last.foldl (fun marks place => marks.setIfInBounds place true) isLast
    entries := n.entries.alter p.rule fun known => some (known.getD [] ++ outline.first) }

def bit (terminals : List Terminal) (t : Terminal) : Nat :=
  1 <<< terminals.idxOf t

/-- The terminals with which each rule can begin, after so many rounds of looking them up in each
other. -/
def ruleStarts (n : Network) (terminals : List Terminal) :
    Nat → Std.HashMap Rule Nat → Std.HashMap Rule Nat
  | 0, known => known
  | rounds + 1, known =>
    let ofPlace (place : Nat) : Nat :=
      match n.symbols[place]? with
      | some (.terminal t) => bit terminals t
      | some (.rule r _) => known.getD r 0
      | none => 0
    ruleStarts n terminals rounds (n.entries.fold
      (fun known rule places => known.insert rule (places.foldl (fun set p => set ||| ofPlace p) 0))
      known)

def ofProductions (productions : List Production) : Network :=
  let n := productions.foldl add {}
  let terminals := (n.symbols.toList.filterMap fun
    | .terminal t => some t
    | .rule .. => none).eraseDups
  let known := ruleStarts n terminals n.entries.size {}
  { n with
    terminals
    starts := n.symbols.map fun
      | .terminal t => bit terminals t
      | .rule r _ => known.getD r 0 }

def reading (n : Network) (t : Token) : Nat :=
  (n.terminals.foldl (fun (set, bit) terminal =>
    (if terminal.admits t then set ||| bit else set, 2 * bit)) (0, 1)).1

end Network

def network : Network :=
  .ofProductions grammar

end BindingRepair.Source
