import CiteForm.Yaml.Event
import CiteForm.Yaml.Token.Scan
/-!
# Parsing YAML tokens into events

The parser turns tokens into events, one at a time, as a machine whose state says what may
come next; a stack holds the states to return to after a nested node. Block collections are
closed by block end tokens, flow collections by their brackets, and a block sequence may
stand without indentation as the value of a mapping entry.

Tags are resolved here: a handle is replaced by its prefix, `!` and `!!` have their default
prefixes, and `%TAG` directives add others for their document.

* `Parser.init` — a parser at the start of a text.
* `Parser.peekEvent`, `Parser.nextEvent` — the next event, without and with taking it.
-/

namespace CiteForm.Yaml

/-- What a parser expects next. -/
inductive Step where
  | streamStart
  | implicitDocumentStart
  | documentStart
  | documentEnd
  | documentContent
  | blockNode
  | blockSequenceFirstEntry
  | blockSequenceEntry
  | indentlessSequenceEntry
  | blockMappingFirstKey
  | blockMappingKey
  | blockMappingValue
  | flowSequenceFirstEntry
  | flowSequenceEntry
  | flowSequenceEntryMappingKey
  | flowSequenceEntryMappingValue
  | flowSequenceEntryMappingEnd
  | flowMappingFirstKey
  | flowMappingKey
  | flowMappingValue
  | flowMappingEmptyValue
  deriving DecidableEq, Repr, Inhabited

/-- The state of a parser. -/
structure Parser where
  scanner : Scanner
  step : Option Step
  steps : List Step
  marks : List Mark
  current : Option Event
  tagHandles : List (String × String)
  /-- A bound on the number of tokens and events of the text. -/
  limit : Nat
  deriving Inhabited

/-- Parsing, which may fail with a marked error. -/
abbrev ParseM := StateT Parser (Except LoadError)

namespace Parser

/-- The handles every document knows. -/
def defaultHandles : List (String × String) :=
  [("!", "!"), ("!!", "tag:yaml.org,2002:")]

/-- A parser at the start of a text. -/
def init (keep : Text.Keep) (cs : List Char) : Parser :=
  { scanner := Scanner.init keep cs, step := some .streamStart, steps := [], marks := [],
    current := none, tagHandles := defaultHandles, limit := 4 * cs.length + 8 }

/-- Runs a step of the scanner. -/
def scan (m : ScanM α) : ParseM α := fun p => do
  let (a, s) ← m.run p.scanner
  pure (a, { p with scanner := s })

/-- The next token. -/
def peekToken : ParseM Token := scan Scanner.peekToken

/-- Takes the next token. -/
def nextToken : ParseM Token := scan Scanner.nextToken

/-- Whether the next token is of a kind `p` accepts. -/
def check (p : Token.Kind → Bool) : ParseM Bool := return p (← peekToken).kind

/-- Sets what comes next. -/
def goTo (st : Step) : ParseM Unit := modify fun p => { p with step := some st }

/-- Remembers a state to return to. -/
def pushStep (st : Step) : ParseM Unit := modify fun p => { p with steps := st :: p.steps }

/-- Returns to the last state remembered. -/
def popStep : ParseM Unit := modify fun p =>
  match p.steps with
  | st :: rest => { p with step := some st, steps := rest }
  | [] => { p with step := none }

/-- Remembers where a collection began. -/
def pushMark (m : Mark) : ParseM Unit := modify fun p => { p with marks := m :: p.marks }

/-- Forgets where the innermost collection began. -/
def popMark : ParseM Unit := modify fun p => { p with marks := p.marks.drop 1 }

/-- Where the innermost collection began. -/
def topMark : ParseM Mark := return (← get).marks.headD default

/-- A token kind as an error message names it. -/
def tokenName (t : Token) : String := Text.quote t.kind.name

/-- An empty plain scalar at a mark. -/
def emptyScalar (m : Mark) : Event := ⟨.scalar none none true false "" none, m, m⟩

/-! ### Token classes -/

def isDirective : Token.Kind → Bool | .directive _ _ => true | _ => false
def isDocumentStart : Token.Kind → Bool | .documentStart => true | _ => false
def isDocumentEnd : Token.Kind → Bool | .documentEnd => true | _ => false
def isStreamEnd : Token.Kind → Bool | .streamEnd => true | _ => false
def isBlockEntry : Token.Kind → Bool | .blockEntry => true | _ => false
def isBlockEnd : Token.Kind → Bool | .blockEnd => true | _ => false
def isKey : Token.Kind → Bool | .key => true | _ => false
def isValue : Token.Kind → Bool | .value => true | _ => false
def isFlowEntry : Token.Kind → Bool | .flowEntry => true | _ => false
def isFlowSequenceEnd : Token.Kind → Bool | .flowSequenceEnd => true | _ => false
def isFlowMappingEnd : Token.Kind → Bool | .flowMappingEnd => true | _ => false

/-! ### Documents -/

/-- Reads the directives before a document and sets its tag handles. -/
def directives : ParseM Unit := do
  modify fun p => { p with tagHandles := [] }
  let rec go : Nat → Option (Nat × Nat) → ParseM Unit
    | 0, _ => pure ()
    | n + 1, version => do
      let t ← peekToken
      match t.kind with
      | .directive _ (.version major minor) =>
        let _ ← nextToken
        if version.isSome then throw (.at_ "found duplicate YAML directive" t.start)
        if major != 1 then
          throw (.at_ "found incompatible YAML document (version 1.* is required)" t.start)
        go n (some (major, minor))
      | .directive _ (.tagPrefix handle pre) =>
        let _ ← nextToken
        if ((← get).tagHandles.lookup handle).isSome then
          throw (.at_ ("duplicate tag handle " ++ Text.quote handle) t.start)
        modify fun p => { p with tagHandles := p.tagHandles ++ [(handle, pre)] }
        go n version
      | .directive _ .other =>
        let _ ← nextToken
        go n version
      | _ => pure ()
  go (← get).limit none
  let p ← get
  let extra := defaultHandles.filter fun (h, _) => (p.tagHandles.lookup h).isNone
  set { p with tagHandles := p.tagHandles ++ extra }

/-- An explicit document start, or the end of the stream. -/
def documentStart : ParseM Event := do
  let rec skipEnds : Nat → ParseM Unit
    | 0 => pure ()
    | n + 1 => do
      if ← check isDocumentEnd then
        let _ ← nextToken
        skipEnds n
  skipEnds (← get).limit
  if ← check isStreamEnd then
    let t ← nextToken
    modify fun p => { p with step := none }
    return ⟨.streamEnd, t.start, t.stop⟩
  let start := (← peekToken).start
  directives
  if !(← check isDocumentStart) then
    let t ← peekToken
    throw (.at_ ("expected '<document start>', but found " ++ tokenName t) t.start)
  let t ← nextToken
  pushStep .documentEnd
  goTo .documentContent
  return ⟨.documentStart true, start, t.stop⟩

/-- A document without `---`, or else an explicit one. -/
def implicitDocumentStart : ParseM Event := do
  let k := (← peekToken).kind
  if isDirective k || isDocumentStart k || isStreamEnd k then documentStart
  else
    modify fun p => { p with tagHandles := defaultHandles }
    let t ← peekToken
    pushStep .documentEnd
    goTo .blockNode
    return ⟨.documentStart false, t.start, t.start⟩

/-- The end of a document, explicit with `...` or not. -/
def documentEnd : ParseM Event := do
  let t ← peekToken
  goTo .documentStart
  if isDocumentEnd t.kind then
    let t' ← nextToken
    return ⟨.documentEnd true, t.start, t'.stop⟩
  return ⟨.documentEnd false, t.start, t.start⟩

/-! ### Nodes -/

/-- A node: an alias, or properties followed by a scalar or the start of a collection. In
block context a block collection may start here; with `indentless`, also a sequence of
`-` entries at the indentation of the enclosing mapping. -/
def node (block indentless : Bool) : ParseM Event := do
  let t ← peekToken
  if let .reference name := t.kind then
    let _ ← nextToken
    popStep
    return ⟨.reference name, t.start, t.stop⟩
  -- the properties: an anchor and a tag, in either order
  let mut anchor : Option String := none
  let mut tag : Option (Option String × String) := none
  let mut startMark : Option Mark := none
  let mut stopMark : Option Mark := none
  let mut tagMark : Option Mark := none
  match t.kind with
  | .anchor a =>
    let _ ← nextToken
    anchor := some a
    startMark := some t.start
    stopMark := some t.stop
    let t2 ← peekToken
    if let .tag h s := t2.kind then
      let _ ← nextToken
      tag := some (h, s)
      tagMark := some t2.start
      stopMark := some t2.stop
  | .tag h s =>
    let _ ← nextToken
    tag := some (h, s)
    startMark := some t.start
    tagMark := some t.start
    stopMark := some t.stop
    let t2 ← peekToken
    if let .anchor a := t2.kind then
      let _ ← nextToken
      anchor := some a
      stopMark := some t2.stop
  | _ => pure ()
  let tagName : Option String ← match tag with
    | some (some h, suffix) =>
      match (← get).tagHandles.lookup h with
      | some pre => pure (some (pre ++ suffix))
      | none =>
        throw (.within "while parsing a node" (startMark.getD default)
          ("found undefined tag handle " ++ Text.quote h) (tagMark.getD default))
    | some (none, suffix) => pure (some suffix)
    | none => pure none
  let next ← peekToken
  let start := startMark.getD next.start
  let stop := stopMark.getD next.start
  let implicit := tagName.isNone || tagName == some "!"
  if indentless && isBlockEntry next.kind then
    goTo .indentlessSequenceEntry
    return ⟨.sequenceStart anchor tagName implicit false, start, next.stop⟩
  match next.kind with
  | .scalar v plain style =>
    let _ ← nextToken
    let (pi, qi) :=
      if (plain && tagName.isNone) || tagName == some "!" then (true, false)
      else if tagName.isNone then (false, true)
      else (false, false)
    popStep
    return ⟨.scalar anchor tagName pi qi v style, start, next.stop⟩
  | .flowSequenceStart =>
    goTo .flowSequenceFirstEntry
    return ⟨.sequenceStart anchor tagName implicit true, start, next.stop⟩
  | .flowMappingStart =>
    goTo .flowMappingFirstKey
    return ⟨.mappingStart anchor tagName implicit true, start, next.stop⟩
  | .blockSequenceStart =>
    if block then
      goTo .blockSequenceFirstEntry
      return ⟨.sequenceStart anchor tagName implicit false, start, next.start⟩
  | .blockMappingStart =>
    if block then
      goTo .blockMappingFirstKey
      return ⟨.mappingStart anchor tagName implicit false, start, next.start⟩
  | _ => pure ()
  if anchor.isSome || tagName.isSome then
    popStep
    return ⟨.scalar anchor tagName implicit false "" none, start, stop⟩
  throw (.within ("while parsing a " ++ (if block then "block" else "flow") ++ " node") start
    ("expected the node content, but found " ++ tokenName next) next.start)

/-! ### Block collections -/

/-- An entry of a block sequence, or its end. -/
def blockSequenceEntry : ParseM Event := do
  if ← check isBlockEntry then
    let t ← nextToken
    let k := (← peekToken).kind
    if !(isBlockEntry k || isBlockEnd k) then
      pushStep .blockSequenceEntry
      return ← node true false
    goTo .blockSequenceEntry
    return emptyScalar t.stop
  let t ← peekToken
  if !isBlockEnd t.kind then
    throw (.within "while parsing a block collection" (← topMark)
      ("expected <block end>, but found " ++ tokenName t) t.start)
  let t ← nextToken
  popStep
  popMark
  return ⟨.sequenceEnd, t.start, t.stop⟩

/-- An entry of a sequence written without indentation, or its end. -/
def indentlessSequenceEntry : ParseM Event := do
  if ← check isBlockEntry then
    let t ← nextToken
    let k := (← peekToken).kind
    if !(isBlockEntry k || isKey k || isValue k || isBlockEnd k) then
      pushStep .indentlessSequenceEntry
      return ← node true false
    goTo .indentlessSequenceEntry
    return emptyScalar t.stop
  let t ← peekToken
  popStep
  return ⟨.sequenceEnd, t.start, t.start⟩

/-- A key of a block mapping, or its end. -/
def blockMappingKey : ParseM Event := do
  if ← check isKey then
    let t ← nextToken
    let k := (← peekToken).kind
    if !(isKey k || isValue k || isBlockEnd k) then
      pushStep .blockMappingValue
      return ← node true true
    goTo .blockMappingValue
    return emptyScalar t.stop
  let t ← peekToken
  if !isBlockEnd t.kind then
    throw (.within "while parsing a block mapping" (← topMark)
      ("expected <block end>, but found " ++ tokenName t) t.start)
  let t ← nextToken
  popStep
  popMark
  return ⟨.mappingEnd, t.start, t.stop⟩

/-- A value of a block mapping; an empty one when there is no `:`. -/
def blockMappingValue : ParseM Event := do
  if ← check isValue then
    let t ← nextToken
    let k := (← peekToken).kind
    if !(isKey k || isValue k || isBlockEnd k) then
      pushStep .blockMappingKey
      return ← node true true
    goTo .blockMappingKey
    return emptyScalar t.stop
  goTo .blockMappingKey
  return emptyScalar (← peekToken).start

/-! ### Flow collections -/

/-- An entry of a flow sequence, or its end; entries after the first follow a `,`. -/
def flowSequenceEntry (first : Bool) : ParseM Event := do
  if !(← check isFlowSequenceEnd) then
    if !first then
      if ← check isFlowEntry then
        let _ ← nextToken
      else
        let t ← peekToken
        throw (.within "while parsing a flow sequence" (← topMark)
          ("expected ',' or ']', but got " ++ tokenName t) t.start)
    let t ← peekToken
    if isKey t.kind then
      goTo .flowSequenceEntryMappingKey
      return ⟨.mappingStart none none true true, t.start, t.stop⟩
    else if !isFlowSequenceEnd t.kind then
      pushStep .flowSequenceEntry
      return ← node false false
  let t ← nextToken
  popStep
  popMark
  return ⟨.sequenceEnd, t.start, t.stop⟩

/-- The key of a single-pair mapping inside a flow sequence. -/
def flowSequenceEntryMappingKey : ParseM Event := do
  let t ← nextToken
  let k := (← peekToken).kind
  if !(isValue k || isFlowEntry k || isFlowSequenceEnd k) then
    pushStep .flowSequenceEntryMappingValue
    return ← node false false
  goTo .flowSequenceEntryMappingValue
  return emptyScalar t.stop

/-- The value of a single-pair mapping inside a flow sequence. -/
def flowSequenceEntryMappingValue : ParseM Event := do
  if ← check isValue then
    let t ← nextToken
    let k := (← peekToken).kind
    if !(isFlowEntry k || isFlowSequenceEnd k) then
      pushStep .flowSequenceEntryMappingEnd
      return ← node false false
    goTo .flowSequenceEntryMappingEnd
    return emptyScalar t.stop
  goTo .flowSequenceEntryMappingEnd
  return emptyScalar (← peekToken).start

/-- The end of a single-pair mapping inside a flow sequence. -/
def flowSequenceEntryMappingEnd : ParseM Event := do
  goTo .flowSequenceEntry
  let t ← peekToken
  return ⟨.mappingEnd, t.start, t.start⟩

/-- A key of a flow mapping, or its end; keys after the first follow a `,`. -/
def flowMappingKey (first : Bool) : ParseM Event := do
  if !(← check isFlowMappingEnd) then
    if !first then
      if ← check isFlowEntry then
        let _ ← nextToken
      else
        let t ← peekToken
        throw (.within "while parsing a flow mapping" (← topMark)
          ("expected ',' or '\x7d', but got " ++ tokenName t) t.start)
    if ← check isKey then
      let t ← nextToken
      let k := (← peekToken).kind
      if !(isValue k || isFlowEntry k || isFlowMappingEnd k) then
        pushStep .flowMappingValue
        return ← node false false
      goTo .flowMappingValue
      return emptyScalar t.stop
    else if !(← check isFlowMappingEnd) then
      pushStep .flowMappingEmptyValue
      return ← node false false
  let t ← nextToken
  popStep
  popMark
  return ⟨.mappingEnd, t.start, t.stop⟩

/-- A value of a flow mapping; an empty one when there is no `:`. -/
def flowMappingValue : ParseM Event := do
  if ← check isValue then
    let t ← nextToken
    let k := (← peekToken).kind
    if !(isFlowEntry k || isFlowMappingEnd k) then
      pushStep .flowMappingKey
      return ← node false false
    goTo .flowMappingKey
    return emptyScalar t.stop
  goTo .flowMappingKey
  return emptyScalar (← peekToken).start

/-- The state machine's step. -/
def run : Step → ParseM Event
  | .streamStart => do
    let t ← nextToken
    goTo .implicitDocumentStart
    return ⟨.streamStart, t.start, t.stop⟩
  | .implicitDocumentStart => implicitDocumentStart
  | .documentStart => documentStart
  | .documentEnd => documentEnd
  | .documentContent => do
    let t ← peekToken
    if isDirective t.kind || isDocumentStart t.kind || isDocumentEnd t.kind ||
        isStreamEnd t.kind then
      popStep
      return emptyScalar t.start
    node true false
  | .blockNode => node true false
  | .blockSequenceFirstEntry => do
    pushMark (← nextToken).start
    blockSequenceEntry
  | .blockSequenceEntry => blockSequenceEntry
  | .indentlessSequenceEntry => indentlessSequenceEntry
  | .blockMappingFirstKey => do
    pushMark (← nextToken).start
    blockMappingKey
  | .blockMappingKey => blockMappingKey
  | .blockMappingValue => blockMappingValue
  | .flowSequenceFirstEntry => do
    pushMark (← nextToken).start
    flowSequenceEntry true
  | .flowSequenceEntry => flowSequenceEntry false
  | .flowSequenceEntryMappingKey => flowSequenceEntryMappingKey
  | .flowSequenceEntryMappingValue => flowSequenceEntryMappingValue
  | .flowSequenceEntryMappingEnd => flowSequenceEntryMappingEnd
  | .flowMappingFirstKey => do
    pushMark (← nextToken).start
    flowMappingKey true
  | .flowMappingKey => flowMappingKey false
  | .flowMappingValue => flowMappingValue
  | .flowMappingEmptyValue => do
    goTo .flowMappingKey
    return emptyScalar (← peekToken).start

/-- The next event, without taking it; none after the end of the stream. -/
def peekEvent : ParseM (Option Event) := do
  let p ← get
  match p.current, p.step with
  | some e, _ => return some e
  | none, some st =>
    let e ← run st
    modify fun p => { p with current := some e }
    return some e
  | none, none => return none

/-- Takes the next event. -/
def nextEvent : ParseM (Option Event) := do
  let e ← peekEvent
  modify fun p => { p with current := none }
  return e

end Parser

end CiteForm.Yaml
