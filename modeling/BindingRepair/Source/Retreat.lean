import BindingRepair.Source.Chart

namespace BindingRepair.Source

structure Frame where
  bin : Nat
  item : Option Progress
  depth : Nat
  nodes : List SyntaxNode

structure Retreat where
  bin : Nat
  depth : Nat
  nodes : List SyntaxNode
  items : List Progress

namespace Chart

def upTo (chart : Chart) (bin : Nat) : Chart where
  tokens := chart.tokens.extract 0 bin
  waiting := chart.waiting.extract 0 bin

/-- The items at a bin that wait for some rules, or for rules with which those start, if they have
passed a place. Not more than `fuel` rules are looked at. -/
def enclosing (chart : Chart) (bin : Nat) : Nat → List Rule → List Rule → List Progress
  | 0, _, _ => []
  | _, _, [] => []
  | fuel + 1, seen, rule :: rest =>
    if seen.contains rule then enclosing chart bin fuel seen rest
    else
      let items := (chart.waiting[bin]?.bind (·[rule]?)).getD []
      let outer := (items.filter (·.trail.isEmpty)).filterMap fun item =>
        network.owners[item.place]?
      items.filter (!·.trail.isEmpty) ++ enclosing chart bin fuel (rule :: seen) (outer ++ rest)

def back (chart : Chart) (frame : Frame) : List Frame :=
  match frame.item with
  | none => []
  | some item =>
    match item.trail with
    | [] => []
    | step :: trail =>
      let since := item.found.take (item.found.length - step.found.length)
      let nodes := nodesOf since ++ frame.nodes
      let at? (outer : Option Progress) : Frame :=
        { bin := step.bin, item := outer, depth := frame.depth + 1, nodes }
      if !trail.isEmpty then [at? (some { item with
        place := step.place, bin := step.bin, found := step.found, trail })]
      else if step.bin = 0 then [at? none]
      else
        let owner := (network.owners[step.place]?).toList
        (chart.enclosing step.bin (network.symbols.size + 1) [] owner).map fun outer =>
          at? (some outer)

def wayBack (chart : Chart) : Nat → List (Nat × Option (Nat × Nat)) → List Frame → List Frame
  | 0, _, frames => frames
  | depth + 1, seen, frames =>
    let (seen, further) := (frames.flatMap chart.back).foldl keepNew (seen, [])
    if further.isEmpty then frames else frames ++ wayBack chart depth seen further.reverse
where
  keepNew : List (Nat × Option (Nat × Nat)) × List Frame → Frame →
      List (Nat × Option (Nat × Nat)) × List Frame
    | (seen, kept), frame =>
      let key := (frame.bin, frame.item.map fun item => (item.place, item.origin))
      if seen.contains key then (seen, kept) else (key :: seen, frame :: kept)

/-- All nodes found on the way back to the start, and how many symbols that is. -/
def fromStart (chart : Chart) : Nat → Frame → List SyntaxNode × Nat
  | 0, frame => (frame.nodes, frame.depth)
  | fuel + 1, frame =>
    match chart.back frame with
    | [] => (frame.nodes, frame.depth)
    | next :: _ => fromStart chart fuel next

def passing (bin : Bin) : List Progress :=
  let items := bin.scans.map Prod.snd ++ bin.waiting.fold (fun all _ items => items ++ all) []
  items.filter (!·.trail.isEmpty)

def framesAt (chart : Chart) (items : List Progress) : List Frame :=
  items.map fun item => { bin := chart.tokens.size, item := some item, depth := 0, nodes := [] }

end Chart

namespace Retreat

def ofFrames (frames : List Frame) : List Retreat :=
  let bins := ((frames.map (·.bin)).eraseDups).mergeSort (· ≥ ·)
  bins.filterMap fun bin =>
    match frames.filter (·.bin = bin) with
    | [] => none
    | first :: rest => some {
        bin
        depth := rest.foldl (fun depth frame => min depth frame.depth) first.depth
        nodes := first.nodes
        items := (first :: rest).filterMap (·.item) }

/-- What is expected after the return, with what was found since standing as a damaged part. -/
def events (r : Retreat) : List Event :=
  let damaged : List Part :=
    if r.nodes.isEmpty then [] else [(none, { kind := "ERROR", children := r.nodes })]
  let restarts := if r.bin = 0 then startEvents.map fun
      | .expect item => .expect { item with found := damaged }
      | event => event
    else []
  restarts ++ r.items.flatMap fun item =>
    match item.trail with
    | [] => []
    | step :: trail =>
      Chart.behind r.bin { item with
        place := step.place, bin := step.bin, found := step.found, trail } (damaged ++ item.found)

end Retreat

end BindingRepair.Source
