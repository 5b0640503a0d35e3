import CiteForm.Yaml.Event.Parse
import CiteForm.Yaml.Schema
/-!
# YAML nodes

A document is composed from its events into a graph of nodes: scalars, sequences and mappings,
each with its tag, numbered in the order they start. A collection holds the numbers of its
members. An anchor names a node from where it starts, so an alias inside a collection may
stand for that collection itself; an alias stands for the node its anchor named before it,
and both places hold the same number.

A node without a tag gets one here: a plain scalar, or one tagged `!`, by its text; any other
scalar `str`; collections `seq` and `map`.

A text holds at most one document.

Reading runs inside a host whose calls nest at most `callLimit` deep, and composing a
collection takes a call within the call that composes its parent. A document nested too deep
for that room is a fault. The calls in progress when the parser produces an event are counted
from the calls already made when reading began: for a node at level `k` (the root is at level
1) they are `2 k + 9` when it is the first member of its collection or a mapping's value, and
`2 k + 8` for a later member; for the end of a collection at level `k`, `2 k + 9` when it is
empty and `2 k + 8` otherwise. Scanning adds to that: nothing once the scanner has met the end
of the text, one call to look over the possible keys, or, when it has to read a token, three
calls for a member and five for an end.

* `Node`, `Graph` — nodes and the graph of a document.
* `Graph.ofText?` — the graph of a text's only document, or none for an empty text.
-/

namespace CiteForm.Yaml

/-- What a node holds: a scalar's text, or the numbers of a collection's members. -/
inductive Content where
  | scalar (value : String)
  | seq (items : List Nat)
  | map (pairs : List (Nat × Nat))
  deriving Inhabited

/-- A node of a document: its tag, what it holds, and where it starts. -/
structure Node where
  tag : String
  content : Content
  start : Mark
  deriving Inhabited

/-- The word for a node's kind in messages. -/
def Node.kindName (n : Node) : String :=
  match n.content with
  | .scalar _ => "scalar"
  | .seq _ => "sequence"
  | .map _ => "mapping"

/-- Whether a node is a scalar. -/
def Node.isScalar (n : Node) : Bool :=
  match n.content with
  | .scalar _ => true
  | _ => false

/-- The nodes of a document by number; the root is number 0. -/
abbrev Graph := Array Node

/-- The state of composing: the parser, the anchored node numbers, the nodes so far, and the
calls already in progress when reading began. -/
structure Composer where
  parser : Parser
  anchors : List (String × Nat)
  nodes : Array Node
  outer : Nat
  deriving Inhabited

/-- Composing, which may fail with a load error. -/
abbrev ComposeM := StateT Composer (Except LoadError)

namespace Composer

/-- Runs a step of the parser. -/
def parse (m : ParseM α) : ComposeM α := fun c => do
  let (a, p) ← m.run c.parser
  pure (a, { c with parser := p })

/-- The next event; the end of the stream when there is none. -/
def peekEvent : ComposeM Event := do
  return (← parse Parser.peekEvent).getD default

/-- Takes the next event. -/
def nextEvent : ComposeM Event := do
  return (← parse Parser.nextEvent).getD default

/-- Adds a node; its number. -/
def add (n : Node) : ComposeM Nat := do
  let i := (← get).nodes.size
  modify fun c => { c with nodes := c.nodes.push n }
  return i

/-- Sets what a collection holds, once its members are composed. -/
def fill (i : Nat) (content : Content) : ComposeM Unit :=
  modify fun c => { c with nodes := c.nodes.modify i fun n => { n with content := content } }

/-- Names a node by an anchor. -/
def remember (anchor : Option String) (i : Nat) : ComposeM Unit :=
  match anchor with
  | some a => modify fun c => { c with anchors := (a, i) :: c.anchors.filter (·.1 != a) }
  | none => pure ()

/-- The tag of a scalar: its own, else by its text if written plain or tagged `!`, else a
string. -/
def scalarTag (tag : Option String) (plainImplicit : Bool) (value : String) : String :=
  match tag with
  | some t => if t == "!" then byText else t
  | none => if plainImplicit then byText else stdTag "str"
where
  byText := (implicitTag value).getD (stdTag "str")

/-- The tag of a collection: its own, else `default`. -/
def collectionTag (tag : Option String) (default : String) : String :=
  match tag with
  | some t => if t == "!" then default else t
  | none => default

/-- Whether the next event ends a collection. -/
def atEnd : ComposeM Bool := do
  match (← peekEvent).kind with
  | .sequenceEnd | .mappingEnd | .streamEnd => return true
  | _ => return false

/-- How many calls may be in progress at once; reading that needs more fails. -/
def callLimit : Nat := 1000

/-- The fault of a document that needs more nested calls than there is room for. -/
def tooDeep : LoadError := .fault ⟨"RecursionError", "maximum recursion depth exceeded"⟩

/-- Whether the scanner has met the end of the text, and how many tokens it has read. -/
def progress : ComposeM (Bool × Nat) := do
  let s := (← get).parser.scanner
  return (s.done, s.tokensTaken + s.tokens.size)

/-- Fails as too deep when the event just produced took more calls than there is room for:
`calls` past those in progress when reading began, and the calls of scanning, measured
against the scanner's progress `before` the event: none when it had met the end of the text,
`scanning` when it read a token since, and one otherwise. -/
def fits (calls : Nat) (before : Bool × Nat) (scanning : Nat) : ComposeM Unit := do
  let (finished, read) := before
  let (_, readNow) ← progress
  let extra := if finished then 0 else if readNow == read then 1 else scanning
  if callLimit < (← get).outer + calls + extra then throw tooDeep

/-- Produces the next event of a collection at `level` and tells whether it ends the
collection; `first` when no member came before. -/
def nextInCollection (level : Nat) (first : Bool) : ComposeM Bool := do
  let before ← progress
  let isEnd ← atEnd
  if isEnd then fits (2 * level + if first then 9 else 8) before 5
  else fits (2 * (level + 1) + if first then 9 else 8) before 3
  return isEnd

/-- Composes the node whose events come next, at `depth` collections within the root, and gives
its number; `fuel` bounds the depth of nesting. -/
def node (depth : Nat) : Nat → ComposeM Nat
  | 0 => throw (.at_ "document nested too deep" default)
  | fuel + 1 => do
    let e ← peekEvent
    if let .reference a := e.kind then
      let _ ← nextEvent
      match (← get).anchors.lookup a with
      | some i => return i
      | none => throw (.at_ ("found undefined alias " ++ Text.quote a) e.start)
    if let some a := e.kind.anchor? then
      if let some first := (← get).anchors.lookup a then
        let firstStart := ((← get).nodes[first]?.map Node.start).getD default
        throw (.within ("found duplicate anchor " ++ Text.quote a ++ "; first occurrence")
          firstStart "second occurrence" e.start)
    let width := (← get).parser.limit
    match e.kind with
    | .scalar anchor tag pi _ value _ =>
      let _ ← nextEvent
      let i ← add ⟨scalarTag tag pi value, .scalar value, e.start⟩
      remember anchor i
      return i
    | .sequenceStart anchor tag _ _ =>
      let _ ← nextEvent
      let i ← add ⟨collectionTag tag (stdTag "seq"), .seq [], e.start⟩
      remember anchor i
      let mut items := #[]
      for _ in [0:width] do
        if ← nextInCollection (depth + 1) items.isEmpty then break
        items := items.push (← node (depth + 1) fuel)
      let _ ← nextEvent
      fill i (.seq items.toList)
      return i
    | .mappingStart anchor tag _ _ =>
      let _ ← nextEvent
      let i ← add ⟨collectionTag tag (stdTag "map"), .map [], e.start⟩
      remember anchor i
      let mut pairs := #[]
      for _ in [0:width] do
        if ← nextInCollection (depth + 1) pairs.isEmpty then break
        let k ← node (depth + 1) fuel
        let before ← progress
        let _ ← peekEvent
        fits (2 * (depth + 2) + 9) before 3
        let v ← node (depth + 1) fuel
        pairs := pairs.push (k, v)
      let _ ← nextEvent
      fill i (.map pairs.toList)
      return i
    | _ => throw (.at_ "expected a node" e.start)

/-- Composes the only document of the stream, if there is one. -/
def single : ComposeM Bool := do
  let _ ← nextEvent
  let fuel := (← get).parser.limit
  let isEnd : Event → Bool := fun e => match e.kind with
    | .streamEnd => true
    | _ => false
  let found ← if isEnd (← peekEvent) then pure false else do
    let _ ← nextEvent
    let _ ← node 0 fuel
    let _ ← nextEvent
    modify fun c => { c with anchors := [] }
    pure true
  let e ← peekEvent
  if !isEnd e then
    let e ← nextEvent
    let rootStart := ((← get).nodes[0]?.map Node.start).getD default
    throw (.within "expected a single document in the stream" rootStart
      "but found another document" e.start)
  let _ ← nextEvent
  return found

end Composer

/-- The graph of a text's only document, or none when it has none; `outer` calls are in
progress when reading begins. -/
def Graph.ofText? (keep : Text.Keep) (outer : Nat) (cs : List Char) :
    Except LoadError (Option Graph) :=
  (Composer.single.run ⟨Parser.init keep cs, [], #[], outer⟩).map fun (found, c) =>
    if found then some c.nodes else none

end CiteForm.Yaml
