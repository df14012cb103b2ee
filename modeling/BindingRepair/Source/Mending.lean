import BindingRepair.Source.Retreat

/-!
Damaged sources. Where no reading of a source goes on, the source is mended: a token is put in that
is missing, or tokens are left out. Several versions are read side by side, each with what its
mending costs, and the cheapest counts in the end. A version that is clearly worse than another is
given up before.
-/

namespace BindingRepair.Source

def faultCost : Nat := 500

def missingCost : Nat := 110

/-- The cost of a token, or of what was read as one symbol, that is left out. -/
def symbolCost : Nat := 100

def rowCost : Nat := 30

/-- How much of a difference in costs, times what was read with it, decides between two versions. -/
def decisiveCost : Nat := 1800

def byteCount (s : List Char) : Nat :=
  s.foldl (fun n c => n + c.utf8Size) 0

def textCost (tokens : List Token) : Nat :=
  match tokens with
  | [] => 0
  | first :: rest =>
    byteCount first.text + rest.foldl (fun n t => n + byteCount t.lead + byteCount t.text) 0 +
      rowCost * ((tokens.getLast?.map (·.endRow)).getD first.row - first.row)

/-- The cost of some tokens as symbols. What the language does not know is no symbol. -/
def tokenCost (tokens : List Token) : Nat :=
  symbolCost * (tokens.filter (·.kind ≠ .unknown)).length

structure Fault where
  retreats : List Retreat
  before : List SyntaxNode × Nat
  skipped : List Token := []

inductive Condition
  | reading
  | stuck
  | skipping (fault : Fault)

structure Version where
  chart : Chart
  events : List Event
  rest : List Token
  cost : Nat := 0
  progress : Nat := 0
  condition : Condition := .reading

structure Mended where
  cost : Nat
  nodes : List SyntaxNode

structure Standing where
  cost : Nat
  isFaulty : Bool
  progress : Nat

inductive Preference
  | decidedLeft
  | left
  | neither
  | right
  | decidedRight
  deriving DecidableEq

def Preference.swap : Preference → Preference
  | decidedLeft => decidedRight
  | left => right
  | neither => neither
  | right => left
  | decidedRight => decidedLeft

namespace Standing

def againstDearer (a b : Standing) : Preference :=
  if decisiveCost < (b.cost - a.cost) * (1 + a.progress) then .decidedLeft else .left

def compare (a b : Standing) : Preference :=
  if !a.isFaulty && b.isFaulty then if a.cost < b.cost then .decidedLeft else .left
  else if a.isFaulty && !b.isFaulty then if b.cost < a.cost then .decidedRight else .right
  else if a.cost < b.cost then a.againstDearer b
  else if b.cost < a.cost then (b.againstDearer a).swap
  else .neither

end Standing

namespace Version

def standing (v : Version) : Standing :=
  match v.condition with
  | .reading => ⟨v.cost, false, v.progress⟩
  | .stuck => ⟨v.cost + faultCost + symbolCost, true, v.progress⟩
  | .skipping fault =>
    ⟨v.cost + faultCost + textCost fault.skipped.reverse + tokenCost fault.skipped, true, v.progress⟩

/-- Whether a standing at some distance from the end is beaten by a version that is at least as near
to it, or by a source that is mended already. -/
def isBeaten (others : List Version) (done : Option Mended) (distance : Nat) (s : Standing) : Bool :=
  done.any (·.cost ≤ s.cost) || others.any fun other =>
    match other.condition with
    | .stuck => false
    | _ => other.rest.length ≤ distance && s.compare other.standing = .decidedRight

def isKeyword (t : Token) : Bool :=
  t.isWord && network.terminals.any fun terminal => terminal = .word (String.ofList t.text)

/-- Whether a reading goes on with a token, or ends well if there is none. Behind a fault a word with
a meaning of its own has that meaning. -/
def goesOn (chart : Chart) (events : List Event) : Option Token → Bool
  | none => (chart.whole? events).isSome
  | some t =>
    let bin := chart.bin (network.reading t) events
    bin.scans.any fun (terminal, _) =>
      terminal ≠ .name || !isKeyword t || freeWords.any t.is

/-- Tokens that cannot be told from others behind a fault: the rest of a text in which expressions
stand. -/
def isLost (t : Token) : Bool :=
  [.textPart, .textEnd, .format, .holeEnd, .lost].contains t.kind

def giveUp (v : Version) (fault : Fault) (rest : List Token) : Mended where
  cost := v.cost + faultCost + symbolCost * fault.before.2 +
    textCost (v.chart.tokens.toList ++ fault.skipped.reverse ++ rest) +
    tokenCost (fault.skipped ++ rest)
  nodes := fault.before.1

def leftOut (v : Version) (fault : Fault) (r : Retreat) : List Token :=
  (v.chart.tokens.toList.drop r.bin) ++ fault.skipped.reverse

def goBack (v : Version) (fault : Fault) (r : Retreat) : Version :=
  let out := v.leftOut fault r
  { chart := v.chart.upTo r.bin
    events := r.events
    rest :=
      match v.rest with
      | [] => []
      | t :: rest => { t with lead := out.flatMap (fun u => u.lead ++ u.text) ++ t.lead } :: rest
    cost := v.cost + faultCost + textCost out + symbolCost * r.depth + tokenCost fault.skipped }

/-- The versions that go back from a fault to the nearest bin where the next token is expected: one
or none. -/
def returning (v : Version) (fault : Fault) (others : List Version) (done : Option Mended) :
    List Version :=
  let near := fault.retreats.filter fun r => r.bin < v.chart.tokens.size || !fault.skipped.isEmpty
  let worth := near.takeWhile fun r =>
    !isBeaten others done v.rest.length
      ⟨v.standing.cost + symbolCost * r.depth + textCost (v.leftOut fault r), false, 0⟩
  match worth.find? fun r => goesOn (v.chart.upTo r.bin) r.events v.rest.head? with
  | some r => [v.goBack fault r]
  | none => []

/-- How many of some tokens belong to the text in which expressions stand that opens with the first of
them, behind `depth` openings of such texts. -/
def openedLength (depth : Nat) : List Token → Nat
  | [] => 0
  | t :: rest =>
    if t.kind = .textStart then 1 + openedLength (depth + 1) rest
    else if depth = 0 then 0
    else if t.kind = .textEnd then 1 + openedLength (depth - 1) rest
    else 1 + openedLength depth rest

/-- One step behind a fault: back, or on without the next token, or without the whole text that it
opens. -/
def recover (v : Version) (fault : Fault) (others : List Version) (done : Option Mended) :
    List Version × Option Mended :=
  match v.rest with
  | [] => (v.returning fault others done, some (v.giveUp fault []))
  | t :: rest =>
    if isLost t then ([], some (v.giveUp fault (t :: rest)))
    else
      let back := if t.kind = .unknown then [] else v.returning fault others done
      let count := max 1 (openedLength 0 (t :: rest))
      let next := { v with
        rest := (t :: rest).drop count
        progress := v.progress + 2
        condition := .skipping { fault with
          skipped := ((t :: rest).take count).reverse ++ fault.skipped } }
      let skipping : Standing := { next.standing with isFaulty := false }
      (if isBeaten others done v.rest.length skipping then back else next :: back, none)

def missingToken (chart : Chart) : Token :=
  let row := (chart.tokens.back?.map (·.endRow)).getD 0
  { kind := .unknown, text := [], row, endRow := row }

/-- The version in which a terminal that is missing was put in. It must be the last of some rule, so
that the reading goes on behind that. -/
def withMissing? (v : Version) (bin : Bin) (terminal : Terminal) : Option Version :=
  let items := (bin.scans.filter (·.1 = terminal)).map (·.2)
  let (chart, events) := v.chart.push bin (missingToken v.chart) items
  let ends := events.filter fun
    | .finish .. => true
    | _ => false
  if goesOn chart ends v.rest.head? then
    some { v with chart, events, cost := v.cost + faultCost + missingCost, condition := .reading }
  else none

/-- The versions with which reading goes on where a version is stuck: in one of them the source is
left out from here on, and in another, if there is one, a token is put in. -/
def afterFault (v : Version) : Version × List Version :=
  let bin := v.chart.bin ((1 <<< network.terminals.length) - 1) v.events
  let frames := v.chart.framesAt (Chart.passing bin)
  let start : Frame := { bin := 0, item := none, depth := 0, nodes := [] }
  let frames := if v.chart.tokens.isEmpty then [start] else frames
  let before :=
    match frames with
    | [] => ([], 0)
    | frame :: _ => v.chart.fromStart (v.chart.tokens.size + 1) frame
  let retreats := Retreat.ofFrames (v.chart.wayBack 16 [] frames)
  let terminals := (bin.scans.map (·.1)).eraseDups
  let ordered := (.name :: network.terminals).filter fun t =>
    t ≠ .tightSemicolon && terminals.contains t
  let mended :=
    if v.rest.head?.any fun t => t.kind = .unknown || isLost t then none
    else ordered.findSome? (v.withMissing? bin)
  ({ v with progress := 0, condition := .skipping { retreats, before } }, mended.toList)

end Version

structure Versions where
  all : List Version
  done : Option Mended := none

namespace Versions

def better (a b : Option Mended) : Option Mended :=
  match a, b with
  | some x, some y => if y.cost < x.cost then b else a
  | some _, none => a
  | none, _ => b

/-- One step of a version among others: those it becomes, and the source if it is read to its
end. -/
def stepOf (v : Version) (others : List Version) (done : Option Mended) :
    List Version × Option Mended :=
  match v.condition with
  | .stuck => ([v], none)
  | .skipping fault => v.recover fault others done
  | .reading =>
    match v.rest with
    | [] =>
      match v.chart.whole? v.events with
      | some found => ([], some ⟨v.cost, nodesOf found⟩)
      | none => ([{ v with condition := .stuck }], none)
    | t :: rest =>
      match v.chart.next? v.events t with
      | some (chart, events) => ([{ v with chart, events, rest, progress := v.progress + 2 }], none)
      | none => ([{ v with condition := .stuck }], none)

def stepAll (moved : List Version) (done : Option Mended) : List Version → Versions
  | [] => { all := moved, done }
  | v :: waiting =>
    let (next, found) := stepOf v (moved ++ waiting) done
    stepAll (moved ++ next) (better done found) waiting

def insert (v : Version) : List Version → List Version
  | [] => [v]
  | other :: rest =>
    match other.standing.compare v.standing with
    | .decidedLeft => other :: rest
    | .left | .neither => other :: insert v rest
    | .right => v :: insert other rest
    | .decidedRight => insert v rest

def isStuck (v : Version) : Bool :=
  match v.condition with
  | .stuck => true
  | _ => false

/-- Goes on with the best version if it is stuck, and leaves out all others that are. -/
def resume (vs : Versions) : Versions :=
  match vs.all with
  | [] => vs
  | first :: rest =>
    let rest := rest.filter (!isStuck ·)
    if isStuck first then
      let (skipping, mended) := first.afterFault
      let (next, found) := stepOf skipping (rest ++ mended) vs.done
      { all := next.take 1 ++ rest ++ mended ++ next.drop 1, done := better vs.done found }
    else { vs with all := first :: rest }

/-- The least that a version costs which is not at a fault, or which is just to be mended. -/
def leastCost? (all : List Version) : Option Nat :=
  let sound := ((all.map Version.standing).filter (!·.isFaulty)).map (·.cost)
  let resumed := (all.head?.filter isStuck).map fun v => v.cost + faultCost
  (resumed.toList ++ sound).min?

/-- Reads on in all versions, until a source that is mended is cheaper than all of them, but not more
than `fuel` steps. -/
def run : Nat → Versions → Option Mended
  | 0, vs => vs.done
  | fuel + 1, vs =>
    let vs := stepAll [] vs.done vs.all
    let all := (vs.all.foldl (fun kept v => insert v kept) []).take 6
    let least := leastCost? all
    if all.isEmpty || vs.done.any fun done => least.all (done.cost < ·) then vs.done
    else run fuel (resume { vs with all })

end Versions

def mendedNodes (tokens : List Token) : List SyntaxNode :=
  let start : Version := { chart := {}, events := startEvents, rest := tokens }
  ((Versions.run (4 * tokens.length + 100) { all := [start] }).map (·.nodes)).getD []

end BindingRepair.Source
