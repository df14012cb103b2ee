import Std.Data.HashSet
import BindingRepair.SyntaxNode
import BindingRepair.Source.Network

/-!
Reading tokens by the grammar. Before each token stands a bin of items: places at which the reading
may be, each with the bin at which its rule was entered and with the nodes found in the rule so far.
All readings go on side by side; of two that find the same rule in the same tokens the first counts.
-/

namespace BindingRepair.Source

abbrev Part := Option Field × SyntaxNode

inductive Shape
  | node (kind : String)
  | leaf (kind : String)
  /-- Nothing of its own: the nodes found in it count as found around it. -/
  | open
  | closed

def Rule.shape : Rule → Shape
  | .unit | .unitItem | .declaration => .open
  | .usingDirective => .leaf "using_directive"
  | .namespaceDeclaration => .node "namespace_declaration"
  | .fileNamespace => .node "file_scoped_namespace_declaration"
  | .namespaceName => .leaf "name"
  | .identifier => .leaf "identifier"
  | .classDeclaration => .node "class_declaration"
  | .structDeclaration => .node "struct_declaration"
  | .enumDeclaration => .node "enum_declaration"
  | .interfaceDeclaration => .node "interface_declaration"
  | .declarationList => .node "declaration_list"
  | .enumMemberList => .node "enum_member_declaration_list"
  | .methodDeclaration => .node "method_declaration"
  | .fieldDeclaration => .node "field_declaration"
  | .delegateDeclaration => .node "delegate_declaration"
  | .propertyDeclaration => .node "property_declaration"
  | .eventFieldDeclaration => .node "event_field_declaration"
  | .constructorDeclaration => .node "constructor_declaration"
  | .variableDeclaration => .node "variable_declaration"
  | .variableDeclarator => .node "variable_declarator"
  | _ => .closed

def freeWords : List String :=
  ["alias", "ascending", "by", "descending", "equals", "file", "from", "global", "group", "into",
    "join", "let", "notnull", "on", "orderby", "scoped", "select", "unmanaged", "var", "when",
    "where", "yield"]

structure Step where
  place : Nat
  bin : Nat
  found : List Part

structure Progress where
  place : Nat
  origin : Nat
  bin : Nat
  found : List Part := []
  trail : List Step := []

inductive Event
  | expect (item : Progress)
  | finish (rule : Rule) (origin : Nat) (found : List Part)

structure Bin where
  waiting : Std.HashMap Rule (List Progress) := {}
  scans : List (Terminal × Progress) := []
  expected : Std.HashSet (Nat × Nat) := {}
  finished : Std.HashSet (Rule × Nat) := {}
  whole : Option (List Part) := none

structure Chart where
  tokens : Array Token := #[]
  waiting : Array (Std.HashMap Rule (List Progress)) := #[]

namespace Chart

def spanning (chart : Chart) (origin : Nat) (kind : String) : SyntaxNode where
  kind
  startRow := (chart.tokens[origin]?.map (·.row)).getD 0
  endRow := (chart.tokens.back?.map (·.endRow)).getD 0

def contribution (chart : Chart) (rule : Rule) (origin : Nat) (role : Option Field)
    (found : List Part) : List Part :=
  match rule.shape with
  | .closed => []
  | .open => found
  | .leaf kind =>
    [(role, { chart.spanning origin kind with
      text := sourceText (chart.tokens.extract origin chart.tokens.size).toList })]
  | .node kind =>
    let parts := found.reverse
    let fieldsAt := parts.zipIdx.filterMap fun ((field, _), index) =>
      field.map fun
        | .name => ("name", index)
        | .body => ("body", index)
    [(role, { chart.spanning origin kind with
      children := parts.map (·.2)
      fields := fieldsAt })]

def behind (bin : Nat) (item : Progress) (found : List Part) : List Event :=
  let trail := ⟨item.place, item.bin, item.found⟩ :: item.trail
  let next := (network.following[item.place]?.getD []).map fun place =>
    Event.expect { place, origin := item.origin, bin, found, trail }
  match network.isLast[item.place]?, network.owners[item.place]? with
  | some true, some rule => .finish rule item.origin found :: next
  | _, _ => next

/-- Takes an event in, in front of a token that can be read as some terminals. Answers with the
events that follow from it. -/
def take (chart : Chart) (reading : Nat) (bin : Bin) : Event → Bin × List Event
  | .expect item =>
    if (network.starts[item.place]?.getD 0) &&& reading = 0 ||
        bin.expected.contains (item.place, item.origin) then (bin, [])
    else
      let bin := { bin with expected := bin.expected.insert (item.place, item.origin) }
      match network.symbols[item.place]? with
      | none => (bin, [])
      | some (.terminal t) => ({ bin with scans := (t, item) :: bin.scans }, [])
      | some (.rule rule _) =>
        let known := bin.waiting[rule]?
        ({ bin with waiting := bin.waiting.insert rule (item :: known.getD []) },
          if known.isSome then []
          else ((network.entries[rule]?).getD []).map fun place =>
            .expect { place, origin := chart.tokens.size, bin := chart.tokens.size })
  | .finish rule origin found =>
    if bin.finished.contains (rule, origin) then (bin, [])
    else
      let bin := { bin with finished := bin.finished.insert (rule, origin) }
      let bin := if rule = .unit && origin = 0 then { bin with whole := some found } else bin
      let waiting := ((chart.waiting[origin]?.bind (·[rule]?)).getD []).reverse
      (bin, waiting.flatMap fun item =>
        let role :=
          match network.symbols[item.place]? with
          | some (.rule _ field) => field
          | _ => none
        behind chart.tokens.size item (chart.contribution rule origin role found ++ item.found))

/-- Takes events in, with all that follows from them, but not more than `fuel` of them. -/
def takeAll (chart : Chart) (reading : Nat) : Nat → Bin → List Event → Bin
  | _, bin, [] => bin
  | 0, bin, _ => bin
  | fuel + 1, bin, event :: rest =>
    let (bin, more) := chart.take reading bin event
    takeAll chart reading fuel bin (more ++ rest)

/-- More events than there can be in front of one token, each item and each rule being taken in
once. -/
def fuel (chart : Chart) : Nat :=
  let places := network.symbols.size + 1
  places * places * (chart.tokens.size + 2)

def bin (chart : Chart) (reading : Nat) (events : List Event) : Bin :=
  chart.takeAll reading chart.fuel {} events

/-- Whether a token is read where a terminal is expected. A word with a meaning of its own names
nothing where that meaning is expected, unless it is free. -/
def fits (bin : Bin) (t : Token) (terminal : Terminal) : Bool :=
  terminal ≠ .name || !t.isWord || freeWords.any t.is ||
    !bin.scans.any fun (other, _) => other = .word (String.ofList t.text)

/-- Reads one more token, from the bin in front of it, at some of the places where it is expected.
Answers with the events behind it. -/
def push (chart : Chart) (bin : Bin) (t : Token) (items : List Progress) : Chart × List Event :=
  ({ tokens := chart.tokens.push t, waiting := chart.waiting.push bin.waiting },
    items.flatMap fun item => behind (chart.tokens.size + 1) item item.found)

def next? (chart : Chart) (events : List Event) (t : Token) : Option (Chart × List Event) :=
  let bin := chart.bin (network.reading t) events
  match bin.scans.reverse.filter fun (terminal, _) => fits bin t terminal with
  | [] => none
  | scans => some (chart.push bin t (scans.map (·.2)))

def whole? (chart : Chart) (events : List Event) : Option (List Part) :=
  (chart.bin 0 events).whole

/-- Reads tokens behind those of a chart, and answers with what was found in all of them, if they are
a whole source. -/
def read (chart : Chart) (events : List Event) : List Token → Option (List Part)
  | [] => chart.whole? events
  | t :: rest =>
    match chart.next? events t with
    | none => none
    | some (chart, events) => read chart events rest

end Chart

def startEvents : List Event :=
  ((network.entries[Rule.unit]?).getD []).map fun place =>
    .expect { place, origin := 0, bin := 0 }

def nodesOf (found : List Part) : List SyntaxNode :=
  found.reverse.map (·.2)

def nodes? (tokens : List Token) : Option (List SyntaxNode) :=
  if tokens.isEmpty then some [] else (Chart.read {} startEvents tokens).map nodesOf

end BindingRepair.Source
