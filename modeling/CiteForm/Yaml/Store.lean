import CiteForm.Yaml.Value
/-!
# Building the values of a YAML document

The values of a document's nodes are built into a store, where a collection holds the numbers
of its members, so that values may be shared and may even hold themselves. Each node is built
once, and an alias yields the value of its node.

A scalar is built at once. A mapping under a scalar's tag stands for the text of its first
entry with the key `=`, followed on as long as that is again such a mapping. A collection is built empty and filled later, once every
collection met before it is filled: values are built breadth first, so of two faults the one
nearer the top is reported.

Filling a mapping first resolves its merge keys: an entry `<<` is taken out, and the entries of
the mapping it names, or of each mapping of the list it names (the last first), are put in
front, each after resolving its own merge keys; a key `=` becomes the string `=`. Resolving
changes the nodes themselves, so a mapping that merges one holding itself takes in its own
entries. A key that is a collection is refused. Of two equal keys the first stays, with the
later value; a NaN equals only itself.

A set keeps a mapping's keys. An ordered map and a list of pairs are sequences of mappings of
one entry each, and each becomes a pair.

* `Store`, `Part` — the built values, and a part of a document among them.
* `Graph.build` — the values of a graph's nodes.
-/

namespace CiteForm.Yaml

/-- Built values by number; a collection holds the numbers of its members. -/
abbrev Store := Array (Level Nat)

/-- A part of a built document: the store and the number of one value in it. -/
structure Part where
  store : Store
  index : Nat

/-- A part shows the level of its value, with members as parts of the same store. -/
instance : Document Part where
  level p := ((p.store[p.index]?).getD (.scalar .null)).mapParts fun i => ⟨p.store, i⟩

/-- The tags whose values are built from a scalar. -/
def scalarTags : List String :=
  ["null", "bool", "int", "float", "binary", "timestamp", "str"].map stdTag

/-- The tags whose values are collections. -/
def collectionTags : List String :=
  ["seq", "map", "set", "omap", "pairs"].map stdTag

/-- A fault of building, at a mark, in an optional context. -/
def buildError (context : Option (String × Mark)) (problem : String) (m : Mark) : LoadError :=
  .marked { context := context.map Prod.fst, contextMark := context.map Prod.snd,
            problem := some problem, problemMark := some m }

/-- The state of building: the nodes (which resolving merge keys changes), the value of each
node built so far, the store, the collections still to fill with the next one's place, the
value every `.nan` shares once built, how the run keeps surrogates, and the calls in progress
when reading began. -/
structure Build where
  nodes : Graph
  built : Array (Option Nat)
  store : Store
  queue : Array (Nat × Nat)
  next : Nat
  shared : Option Nat
  keep : Text.Keep
  outer : Nat

/-- Building, which may fail with a load error. -/
abbrev BuildM := StateT Build (Except LoadError)

namespace Build

/-- A node by number. -/
def node (n : Nat) : BuildM Node := return (← get).nodes[n]?.getD default

/-- The entries of a mapping node; none for other nodes. -/
def pairsOf (nd : Node) : List (Nat × Nat) :=
  match nd.content with
  | .map ps => ps
  | _ => []

/-- Sets the entries of a mapping node. -/
def setPairs (n : Nat) (ps : List (Nat × Nat)) : BuildM Unit :=
  modify fun b => { b with nodes := b.nodes.modify n fun nd => { nd with content := .map ps } }

/-- Sets the tag of a node. -/
def setTag (n : Nat) (t : String) : BuildM Unit :=
  modify fun b => { b with nodes := b.nodes.modify n fun nd => { nd with tag := t } }

/-- Adds a value to the store; its number. -/
def add (l : Level Nat) : BuildM Nat := do
  let i := (← get).store.size
  modify fun b => { b with store := b.store.push l }
  return i

/-- Sets a value of the store. -/
def setValue (v : Nat) (l : Level Nat) : BuildM Unit :=
  modify fun b => { b with store := b.store.set! v l }

/-- Notes the value built for a node. -/
def record (n v : Nat) : BuildM Unit :=
  modify fun b => { b with built := b.built.set! n (some v) }

/-- Whether two values are the same key: one value, or equal scalars. -/
def sameKey (store : Store) (a b : Nat) : Bool :=
  a == b ||
    match store[a]?, store[b]? with
    | some (.scalar x), some (.scalar y) => x.sameKey y
    | _, _ => false

/-- Whether a value is a collection that cannot be a key. -/
def isUnhashable (store : Store) (v : Nat) : Bool :=
  match store[v]? with
  | some (.seq _) | some (.map _) | some (.set _) => true
  | _ => false

/-- Puts an entry into a mapping's entries: an equal key keeps its place and takes the
value. -/
def put (store : Store) (es : Array (Nat × Nat)) (k x : Nat) : Array (Nat × Nat) :=
  match es.findIdx? (fun e => sameKey store e.1 k) with
  | some i => es.modify i fun e => (e.1, x)
  | none => es.push (k, x)

/-- How many nodes may be looked at in a row for the text of a scalar, with `outer` calls in
progress when reading began: building a member of a collection takes nine calls past those,
looking at a node one more each, and reading the last one's text one more. -/
def valueRoom (outer : Nat) : Nat := Composer.callLimit + 1 - (outer + 10)

/-- The text that node `n` gives a value of a scalar tag: a scalar's own text, or for a mapping
the text that the value of its first entry with a key tagged `value` gives; any other node is
refused. Entries are looked up as they are now, after the merge keys resolved so far.
Following more than `fuel` entries, as round a loop, runs out of room. -/
def scalarText (n : Nat) : Nat → BuildM String
  | 0 => throw Composer.tooDeep
  | fuel + 1 => do
    let nd ← node n
    let refuse : BuildM String :=
      throw (buildError none ("expected a scalar node, but found " ++ nd.kindName) nd.start)
    match nd.content with
    | .scalar text => return text
    | .map ps =>
      let mut found := none
      for (k, x) in ps do
        if (← node k).tag == stdTag "value" then
          found := some x
          break
      match found with
      | some x => scalarText x fuel
      | none => refuse
    | .seq _ => refuse

/-- The value of a node: built at once for a scalar, built empty and queued for a
collection. A timestamp is read from the node's own text, which a mapping lacks. -/
def construct (n : Nat) : BuildM Nat := do
  if let some (some v) := (← get).built[n]? then return v
  let nd ← node n
  let t := nd.tag
  if scalarTags.contains t then
    let text ← scalarText n (valueRoom (← get).outer)
    if t == stdTag "timestamp" && !nd.isScalar then
      throw (.fault ⟨"TypeError", "expected string or bytes-like object, got 'list'"⟩)
    if t == stdTag "float" && isSharedNaN text then
      if let some v := (← get).shared then
        record n v
        return v
      let v ← add (.scalar (.float (0.0 / 0.0)))
      modify fun b => { b with shared := some v }
      record n v
      return v
    let s ← match scalarValue (← get).keep t text nd.start with
      | .ok s => pure s
      | .error e => throw e
    let v ← add (.scalar s)
    record n v
    return v
  else if collectionTags.contains t then
    let v ← add
      (if t == stdTag "map" then .map [] else if t == stdTag "set" then .set [] else .seq [])
    record n v
    modify fun b => { b with queue := b.queue.push (n, v) }
    return v
  else
    throw (buildError none ("could not determine a constructor for the tag " ++ Text.quote t)
      nd.start)

/-- Resolves the merge keys of mapping node `n`; `fuel` bounds the depth of merges within
merges and `steps` the entries looked at on each level. -/
def flatten (steps : Nat) : Nat → Nat → BuildM Unit
  | 0, _ => pure ()
  | fuel + 1, n => do
    let start := (← node n).start
    let mut merged : List (Nat × Nat) := []
    let mut index := 0
    for _ in [0:steps] do
      let ps := pairsOf (← node n)
      match ps[index]? with
      | none => break
      | some (k, x) =>
        let kn ← node k
        if kn.tag == stdTag "merge" then
          setPairs n (ps.eraseIdx index)
          let xn ← node x
          match xn.content with
          | .map _ =>
            flatten steps fuel x
            merged := merged ++ pairsOf (← node x)
          | .seq subs =>
            let mut parts : List (List (Nat × Nat)) := []
            for sub in subs do
              let sn ← node sub
              match sn.content with
              | .map _ =>
                flatten steps fuel sub
                parts := pairsOf (← node sub) :: parts
              | _ =>
                throw (buildError (some ("while constructing a mapping", start))
                  ("expected a mapping for merging, but found " ++ sn.kindName) sn.start)
            for part in parts do
              merged := merged ++ part
          | _ =>
            throw (buildError (some ("while constructing a mapping", start))
              ("expected a mapping or list of mappings for merging, but found " ++ xn.kindName)
              xn.start)
        else
          if kn.tag == stdTag "value" then setTag k (stdTag "str")
          index := index + 1
    if !merged.isEmpty then setPairs n (merged ++ pairsOf (← node n))

/-- Fills the value `v` of collection node `n`; `fuel` and `steps` bound merging. -/
def fill (steps fuel n v : Nat) : BuildM Unit := do
  let nd ← node n
  let t := nd.tag
  if t == stdTag "seq" then
    match nd.content with
    | .seq items => setValue v (.seq (← items.mapM construct))
    | _ => throw (buildError none ("expected a sequence node, but found " ++ nd.kindName) nd.start)
  else if t == stdTag "map" || t == stdTag "set" then
    match nd.content with
    | .map _ =>
      flatten steps fuel n
      let mut entries : Array (Nat × Nat) := #[]
      for (k, x) in pairsOf (← node n) do
        let kv ← construct k
        if isUnhashable (← get).store kv then
          throw (buildError (some ("while constructing a mapping", nd.start)) "found unhashable key"
            (← node k).start)
        let xv ← construct x
        entries := put (← get).store entries kv xv
      setValue v
        (if t == stdTag "map" then .map entries.toList else .set (entries.toList.map Prod.fst))
    | _ => throw (buildError none ("expected a mapping node, but found " ++ nd.kindName) nd.start)
  else
    let what := if t == stdTag "omap" then "while constructing an ordered map"
      else "while constructing pairs"
    match nd.content with
    | .seq items =>
      let mut out : Array Nat := #[]
      for sub in items do
        let sn ← node sub
        match sn.content with
        | .map [(k, x)] =>
          let kv ← construct k
          let xv ← construct x
          out := out.push (← add (.tuple [kv, xv]))
        | .map ps =>
          throw (buildError (some (what, nd.start))
            ("expected a single mapping item, but found " ++ toString ps.length ++ " items")
            sn.start)
        | _ =>
          throw (buildError (some (what, nd.start))
            ("expected a mapping of length 1, but found " ++ sn.kindName) sn.start)
      setValue v (.seq out.toList)
    | _ =>
      throw (buildError (some (what, nd.start)) ("expected a sequence, but found " ++ nd.kindName)
        nd.start)

/-- Fills the queued collections in order, each filling queuing those it meets. -/
def drain (steps fuel : Nat) : Nat → BuildM Unit
  | 0 => pure ()
  | k + 1 => do
    let b ← get
    match b.queue[b.next]? with
    | none => pure ()
    | some (n, v) =>
      set { b with next := b.next + 1 }
      fill steps fuel n v
      drain steps fuel k

end Build

/-- The values of a graph's nodes, built with `outer` calls in progress when reading began:
the part of the root. -/
def Graph.build (keep : Text.Keep) (outer : Nat) (g : Graph) : Except LoadError Part := do
  let entries := g.foldl (fun acc nd => acc + (Build.pairsOf nd).length) 0
  let merges := g.foldl (fun acc nd => acc + ((Build.pairsOf nd).filter fun e =>
    (g[e.1]?.map Node.tag) == some (stdTag "merge")).length) 0
  let steps := (entries + 1) * (merges + 1)
  let start : Build :=
    { nodes := g, built := Array.replicate g.size none, store := #[], queue := #[], next := 0,
      shared := none, keep := keep, outer := outer }
  let run : BuildM Nat := do
    let root ← Build.construct 0
    Build.drain steps (merges + 1) (g.size + 1)
    return root
  let (root, b) ← run.run start
  return ⟨b.store, root⟩

end CiteForm.Yaml
