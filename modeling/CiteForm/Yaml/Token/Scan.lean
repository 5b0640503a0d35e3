import CiteForm.Yaml.Token
import CiteForm.Yaml.Cursor
import CiteForm.Text.Utf8
/-!
# Scanning YAML text into tokens

The scanner reads tokens on demand. Most tokens are told by their first character; block
structure comes from indentation, which opens a block collection when a line starts further
right and closes it when a line starts further left.

A plain or quoted scalar, an alias or a flow collection may turn out to be the key of a
mapping entry: that is known only when a `:` follows on the same line. The scanner keeps
such a possible simple key for each level of flow nesting, and when the `:` comes, it puts a
key token, and in block context the start of a block mapping, in front of the key's tokens.
A key that a block line requires but that no `:` follows is an error.

So that a key can still be put in front, a token is handed out only once no possible key
could come before it.

Every look at the text goes through `touch`, which fails with the first forbidden character
once reading reaches the piece of text that holds it.

* `Scanner.init` — a scanner at the start of a text.
* `Scanner.peekToken`, `Scanner.nextToken` — the next token, without and with taking it.
-/

namespace CiteForm.Yaml

/-- A place where a mapping key may have begun. -/
structure SimpleKey where
  tokenNumber : Nat
  required : Bool
  index : Nat
  line : Nat
  mark : Mark
  deriving Inhabited

/-- The state of a scanner. -/
structure Scanner where
  cur : Cursor
  done : Bool
  flowLevel : Int
  tokens : Array Token
  tokensTaken : Nat
  indent : Int
  indents : List Int
  allowSimpleKey : Bool
  possibleKeys : List (Int × SimpleKey)
  /-- The first forbidden character of the text, its index, and where the piece of text
  holding it starts. -/
  guard : Option (Nat × Nat × Char)
  /-- A bound on the steps of any loop: one more than the length of the text. -/
  fuel : Nat
  /-- How the surrogates that escapes name are kept. -/
  keep : Text.Keep
  deriving Inhabited

/-- Scanning, which may fail with a marked error. -/
abbrev ScanM := StateT Scanner (Except LoadError)

namespace Scanner

/-- A character as an error message quotes it. -/
def quoteChar (c : Char) : String := Text.quote (String.singleton c)

/-- A scanner at the start of a text, with the token that opens the stream. -/
def init (keep : Text.Keep) (cs : List Char) : Scanner :=
  let c := Cursor.start cs
  { cur := c, done := false, flowLevel := 0, tokens := #[⟨.streamStart, c.mark, c.mark⟩],
    tokensTaken := 0, indent := -1, indents := [], allowSimpleKey := true, possibleKeys := [],
    guard := (firstForbidden? cs).map fun (i, ch) => (pieceStart i, i, ch),
    fuel := cs.length + 1, keep := keep }

/-- Notes that reading looks at the character `k` places ahead; once that reaches the piece
of text holding the first forbidden character, reading fails with it. -/
def touch (k : Nat) : ScanM Unit := do
  let s ← get
  if let some (start, i, c) := s.guard then
    if s.cur.index + k ≥ start then throw (.badCharacter i c)

/-- The character `k` places ahead. -/
def peek (k : Nat) : ScanM Char := do
  touch k
  return (← get).cur.peek k

/-- The next `n` characters. -/
def ahead (n : Nat) : ScanM String := do
  if n > 0 then touch (n - 1)
  return (← get).cur.ahead n

/-- Moves past `n` characters. -/
def forward (n : Nat) : ScanM Unit := do
  touch n
  modify fun s => { s with cur := s.cur.forward n }

/-- Moves past the characters that satisfy `p`. -/
def skipWhile (p : Char → Bool) : ScanM Unit := do
  modify fun s => { s with cur := s.cur.skipWhile p }
  touch 0

/-- How many characters from `k` places ahead on satisfy `p`. -/
def runLength (p : Char → Bool) (k : Nat) : ScanM Nat := do
  let n := (← get).cur.runLength p k
  touch (k + n)
  return n

/-- The current mark. -/
def mark : ScanM Mark := return (← get).cur.mark

/-- The current column. -/
def column : ScanM Nat := return (← get).cur.column

/-- A bound on the steps of any loop from here: one more than the length of the text, which
is at least one more than the characters left. -/
def budget : ScanM Nat := return (← get).fuel

/-- Appends a token. -/
def push (t : Token) : ScanM Unit := modify fun s => { s with tokens := s.tokens.push t }

/-- Runs a look ahead only when `cond` holds; false otherwise. -/
def lookIf (cond : Bool) (look : ScanM Bool) : ScanM Bool :=
  if cond then look else pure false

/-- Takes the next `n` characters as a string. -/
def take (n : Nat) : ScanM String := do
  let s ← ahead n
  forward n
  return s

/-- Reads a line break: a carriage return and line feed, either alone, or a next line
character, all read as a line feed; a line or paragraph separator stays itself. Nothing
when no line break is next. -/
def lineBreak : ScanM String := do
  let c ← peek 0
  if c == '\r' || c == '\n' || c == '\x85' then
    if (← ahead 2) == "\r\n" then forward 2 else forward 1
    return "\n"
  else if c == '\u2028' || c == '\u2029' then
    forward 1
    return String.singleton c
  else return ""

/-! ### Indentation and possible keys -/

/-- Closes the block collections indented deeper than `col`. -/
def unwindIndent (col : Int) : ScanM Unit := do
  let s ← get
  if s.flowLevel == 0 then
    let m := s.cur.mark
    let rec go : Nat → Int → List Int → Array Token → Int × List Int × Array Token
      | 0, i, is, ts => (i, is, ts)
      | n + 1, i, is, ts =>
        if i > col then
          match is with
          | j :: rest => go n j rest (ts.push ⟨.blockEnd, m, m⟩)
          | [] => (i, is, ts)
        else (i, is, ts)
    let (i, is, ts) := go (s.indents.length + 1) s.indent s.indents s.tokens
    set { s with indent := i, indents := is, tokens := ts }

/-- Opens a block collection at `col` if it lies deeper than the current one. -/
def addIndent (col : Int) : ScanM Bool := do
  let s ← get
  if s.indent < col then
    set { s with indents := s.indent :: s.indents, indent := col }
    return true
  else return false

/-- The error of a key that a block line requires but that no `:` follows. -/
def missingColon (k : SimpleKey) (m : Mark) : LoadError :=
  .within "while scanning a simple key" k.mark "could not find expected ':'" m

/-- The possible keys without the one of level `lvl`. -/
def dropLevel (ks : List (Int × SimpleKey)) (lvl : Int) : List (Int × SimpleKey) :=
  ks.filter fun e => e.1 != lvl

/-- Forgets the possible keys that can no longer be keys: those on an earlier line, or more
than 1024 characters back. -/
def staleKeys : ScanM Unit := do
  let s ← get
  let isStale (k : SimpleKey) : Bool := k.line != s.cur.line || s.cur.index - k.index > 1024
  match s.possibleKeys.find? fun e => isStale e.2 && e.2.required with
  | some (_, k) => throw (missingColon k s.cur.mark)
  | none => set { s with possibleKeys := s.possibleKeys.filter fun e => !isStale e.2 }

/-- Forgets the possible key of the current flow level. -/
def removeKey : ScanM Unit := do
  let s ← get
  match s.possibleKeys.lookup s.flowLevel with
  | some k =>
    if k.required then throw (missingColon k s.cur.mark)
    set { s with possibleKeys := dropLevel s.possibleKeys s.flowLevel }
  | none => pure ()

/-- Notes that the next token may begin a key. -/
def saveKey : ScanM Unit := do
  let s ← get
  let required := s.flowLevel == 0 && s.indent == (s.cur.column : Int)
  if s.allowSimpleKey then
    removeKey
    let s ← get
    let k : SimpleKey := ⟨s.tokensTaken + s.tokens.size, required, s.cur.index, s.cur.line,
      s.cur.mark⟩
    set { s with possibleKeys := dropLevel s.possibleKeys s.flowLevel ++ [(s.flowLevel, k)] }

/-- The number of the first token that may yet begin a key. -/
def nextKeyNumber (s : Scanner) : Option Nat :=
  s.possibleKeys.foldl (fun acc (_, k) => match acc with
    | some n => some (min n k.tokenNumber)
    | none => some k.tokenNumber) none

/-- Moves on to the next token: past spaces, comments and line breaks. -/
def toNextToken : ScanM Unit := do
  if ← lookIf ((← get).cur.index == 0) ((· == '\uFEFF') <$> peek 0) then forward 1
  let rec go : Nat → ScanM Unit
    | 0 => pure ()
    | n + 1 => do
      skipWhile (· == ' ')
      if (← peek 0) == '#' then skipWhile (fun c => !isBreakZ c)
      if (← lineBreak) != "" then
        if (← get).flowLevel == 0 then modify fun s => { s with allowSimpleKey := true }
        go n
  go (← budget)

/-! ### Directives, anchors and tags -/

/-- A directive error, in the context of the directive at `start`. -/
def directiveError (start : Mark) (problem : String) : ScanM α := do
  throw (.within "while scanning a directive" start problem (← mark))

/-- Reads the digits of a version number; more than `Decimal.digitLimit` of them are a fault,
as for every decimal integer read. -/
def versionNumber (start : Mark) : ScanM Nat := do
  let c ← peek 0
  if !c.isDigit then directiveError start ("expected a digit, but found " ++ quoteChar c)
  let n ← runLength Char.isDigit 0
  if Decimal.digitLimit < n then throw (.fault ⟨"ValueError", Decimal.overlongMessage n⟩)
  let ds ← take n
  return ds.toNat!

/-- Reads a tag handle such as `!`, `!!` or `!name!`. -/
def tagHandle (what : String) (start : Mark) : ScanM String := do
  let c ← peek 0
  if c != '!' then
    throw (.within ("while scanning a " ++ what) start ("expected '!', but found " ++ quoteChar c)
      (← mark))
  let c1 ← peek 1
  if c1 != ' ' then
    let n ← runLength isWordChar 1
    let c ← peek (n + 1)
    if c != '!' then
      forward (n + 1)
      throw (.within ("while scanning a " ++ what) start ("expected '!', but found " ++ quoteChar c)
        (← mark))
    take (n + 2)
  else take 1

/-- The characters a tag may hold besides letters and digits. -/
def isUriChar (c : Char) : Bool :=
  ('0' ≤ c && c ≤ '9') || ('A' ≤ c && c ≤ 'Z') || ('a' ≤ c && c ≤ 'z') ||
    "-;/?:@&=+$,_.!~*'()[]%".contains c

/-- Reads `%` escapes of a tag as the characters their bytes encode. -/
def uriEscapes (what : String) (start : Mark) : ScanM String := do
  let m ← mark
  let rec go : Nat → List Nat → ScanM (List Nat)
    | 0, acc => pure acc.reverse
    | n + 1, acc => do
      if (← peek 0) != '%' then return acc.reverse
      forward 1
      for k in [0, 1] do
        let c ← peek k
        if !c.isHexDigit then
          throw (.within ("while scanning a " ++ what) start
            ("expected URI escape sequence of 2 hexadecimal numbers, but found " ++ quoteChar c)
            (← mark))
      let h ← take 2
      let v := h.toList.foldl (fun acc c =>
        acc * 16 + (if c.isDigit then c.toNat - 48 else (c.toLower.toNat - 87))) 0
      go n (v :: acc)
  let bytes ← go (← budget) []
  match Text.decodeUtf8 bytes with
  | .ok cs => return String.ofList cs
  | .error e => throw (.within ("while scanning a " ++ what) start e.message m)

/-- Reads the characters of a tag. -/
def tagUri (what : String) (start : Mark) : ScanM String := do
  let rec go : Nat → String → Bool → ScanM (String × Bool)
    | 0, acc, any => pure (acc, any)
    | n + 1, acc, any => do
      let c ← peek 0
      if c == '%' then
        let e ← uriEscapes what start
        go n (acc ++ e) true
      else if isUriChar c then
        let k ← runLength (fun c => isUriChar c && c != '%') 0
        let s ← take k
        go n (acc ++ s) true
      else pure (acc, any)
  let (s, any) ← go (← budget) "" false
  if !any then
    throw (.within ("while parsing a " ++ what) start
      ("expected URI, but found " ++ quoteChar (← peek 0)) (← mark))
  return s

/-- Reads the value of a `%YAML` directive. -/
def versionValue (start : Mark) : ScanM DirectiveValue := do
  skipWhile (· == ' ')
  let major ← versionNumber start
  let c ← peek 0
  if c != '.' then directiveError start ("expected a digit or '.', but found " ++ quoteChar c)
  forward 1
  let minor ← versionNumber start
  let c ← peek 0
  if !isSpaceZ c then directiveError start ("expected a digit or ' ', but found " ++ quoteChar c)
  return .version major minor

/-- Reads the value of a `%TAG` directive. -/
def tagDirectiveValue (start : Mark) : ScanM DirectiveValue := do
  skipWhile (· == ' ')
  let handle ← tagHandle "directive" start
  let c ← peek 0
  if c != ' ' then directiveError start ("expected ' ', but found " ++ quoteChar c)
  skipWhile (· == ' ')
  let pre ← tagUri "directive" start
  let c ← peek 0
  if !isSpaceZ c then directiveError start ("expected ' ', but found " ++ quoteChar c)
  return .tagPrefix handle pre

/-- Reads a directive line. -/
def directive : ScanM Token := do
  let start ← mark
  forward 1
  let n ← runLength isWordChar 0
  if n == 0 then
    directiveError start
      ("expected alphabetic or numeric character, but found " ++ quoteChar (← peek 0))
  let name ← take n
  let c ← peek 0
  if !isSpaceZ c then
    directiveError start ("expected alphabetic or numeric character, but found " ++ quoteChar c)
  let (value, stop) ←
    if name == "YAML" then do
      let v ← versionValue start
      pure (v, ← mark)
    else if name == "TAG" then do
      let v ← tagDirectiveValue start
      pure (v, ← mark)
    else do
      let m ← mark
      skipWhile (fun c => !isBreakZ c)
      pure (DirectiveValue.other, m)
  skipWhile (· == ' ')
  if (← peek 0) == '#' then skipWhile (fun c => !isBreakZ c)
  let c ← peek 0
  if !isBreakZ c then
    directiveError start ("expected a comment or a line break, but found " ++ quoteChar c)
  let _ ← lineBreak
  return ⟨.directive name value, start, stop⟩

/-- Reads an anchor `&name` or an alias `*name`. -/
def anchorOrAlias (isAlias : Bool) : ScanM Token := do
  let start ← mark
  let what := if isAlias then "alias" else "anchor"
  forward 1
  let n ← runLength isWordChar 0
  let c ← peek n
  if n == 0 then
    throw (.within ("while scanning an " ++ what) start
      ("expected alphabetic or numeric character, but found " ++ quoteChar c) (← mark))
  let name ← take n
  if !(isBlankZ c || "?:,]\x7d%@`".contains c) then
    throw (.within ("while scanning an " ++ what) start
      ("expected alphabetic or numeric character, but found " ++ quoteChar c) (← mark))
  let stop ← mark
  return ⟨if isAlias then .reference name else .anchor name, start, stop⟩

/-- Reads a tag: `!<uri>`, a lone `!`, or a handle and a suffix. -/
def tag : ScanM Token := do
  let start ← mark
  let c1 ← peek 1
  let (handle, suffix) ←
    if c1 == '<' then do
      forward 2
      let suffix ← tagUri "tag" start
      let c ← peek 0
      if c != '>' then
        throw (.within "while parsing a tag" start ("expected '>', but found " ++ quoteChar c)
          (← mark))
      forward 1
      pure (none, suffix)
    else if isBlankZ c1 then do
      forward 1
      pure (none, "!")
    else do
      let n ← runLength (fun c => !isSpaceZ c && c != '!') 1
      let useHandle := (← peek (n + 1)) == '!'
      let handle ← if useHandle then tagHandle "tag" start else do
        forward 1
        pure "!"
      let suffix ← tagUri "tag" start
      pure (some handle, suffix)
  let c ← peek 0
  if !isSpaceZ c then
    throw (.within "while scanning a tag" start ("expected ' ', but found " ++ quoteChar c)
      (← mark))
  return ⟨.tag handle suffix, start, ← mark⟩

/-! ### Block scalars -/

/-- Reads the chomping and indentation indicators of a block scalar header. -/
def blockIndicators (start : Mark) : ScanM (Option Bool × Option Nat) := do
  let err (c : Char) : ScanM Unit := do
    throw (.within "while scanning a block scalar" start
      ("expected chomping or indentation indicators, but found " ++ quoteChar c) (← mark))
  let zero : ScanM Unit := do
    throw (.within "while scanning a block scalar" start
      "expected indentation indicator in the range 1-9, but found 0" (← mark))
  let c ← peek 0
  let (chomping, increment) ←
    if c == '+' || c == '-' then do
      forward 1
      let d ← peek 0
      if d.isDigit then
        if d == '0' then zero
        forward 1
        pure (some (c == '+'), some (d.toNat - 48))
      else pure (some (c == '+'), none)
    else if c.isDigit then do
      if c == '0' then zero
      forward 1
      let d ← peek 0
      if d == '+' || d == '-' then
        forward 1
        pure (some (d == '+'), some (c.toNat - 48))
      else pure (none, some (c.toNat - 48))
    else pure (none, none)
  let c ← peek 0
  if !isSpaceZ c then err c
  return (chomping, increment)

/-- Reads the rest of a block scalar header line: spaces and a comment. -/
def blockIgnoredLine (start : Mark) : ScanM Unit := do
  skipWhile (· == ' ')
  if (← peek 0) == '#' then skipWhile (fun c => !isBreakZ c)
  let c ← peek 0
  if !isBreakZ c then
    throw (.within "while scanning a block scalar" start
      ("expected a comment or a line break, but found " ++ quoteChar c) (← mark))
  let _ ← lineBreak

/-- Reads the blank lines before the first line of a block scalar without an indentation
indicator: their breaks, the deepest indentation among them, and the mark after them. -/
def blockIndentation : ScanM (List String × Nat × Mark) := do
  let rec go : Nat → List String → Nat → Mark → ScanM (List String × Nat × Mark)
    | 0, bs, mx, m => pure (bs.reverse, mx, m)
    | n + 1, bs, mx, m => do
      let c ← peek 0
      if c == ' ' then
        forward 1
        go n bs (max mx (← column)) m
      else if isBreak c then
        let b ← lineBreak
        go n (b :: bs) mx (← mark)
      else pure (bs.reverse, mx, m)
  go (← budget) [] 0 (← mark)

/-- Moves past up to `indent` columns of spaces. -/
def indentSpaces (indent : Int) : ScanM Unit := do
  let c ← column
  let n ← runLength (· == ' ') 0
  if (c : Int) < indent then forward (min n (indent - c).toNat)

/-- Reads the line breaks between lines of a block scalar, with the indentation after each. -/
def blockBreaks (indent : Int) : ScanM (List String × Mark) := do
  indentSpaces indent
  let rec go : Nat → List String → Mark → ScanM (List String × Mark)
    | 0, bs, m => pure (bs.reverse, m)
    | n + 1, bs, m => do
      if isBreak (← peek 0) then
        let b ← lineBreak
        let m ← mark
        indentSpaces indent
        go n (b :: bs) m
      else pure (bs.reverse, m)
  go (← budget) [] (← mark)

/-- Reads a literal (`|`) or folded (`>`) block scalar. -/
def blockScalar (style : Char) : ScanM Token := do
  let folded := style == '>'
  let start ← mark
  forward 1
  let (chomping, increment) ← blockIndicators start
  blockIgnoredLine start
  let minIndent : Int := max ((← get).indent + 1) 1
  let (breaks, indent, stop) ← match increment with
    | none => do
      let (bs, mx, m) ← blockIndentation
      pure (bs, max minIndent (mx : Int), m)
    | some inc => do
      let indent := minIndent + inc - 1
      let (bs, m) ← blockBreaks indent
      pure (bs, indent, m)
  -- The pieces are gathered latest first and put in order at the end.
  let rec go : Nat → List String → List String → String → Mark →
      ScanM (List String × List String × String × Mark)
    | 0, chunks, breaks, lb, m => pure (chunks, breaks, lb, m)
    | n + 1, chunks, breaks, lb, m => do
      if ← lookIf (((← column) : Int) == indent) ((· != endChar) <$> peek 0) then
        let chunks := breaks.reverse ++ chunks
        let c0 ← peek 0
        let leadingNonSpace := c0 != ' ' && c0 != '\t'
        let k ← runLength (fun c => !isBreakZ c) 0
        let line ← take k
        let chunks := line :: chunks
        let lb ← lineBreak
        let (breaks, m) ← blockBreaks indent
        if ← lookIf (((← column) : Int) == indent) ((· != endChar) <$> peek 0) then
          let c ← peek 0
          let chunks :=
            if folded && lb == "\n" && leadingNonSpace && c != ' ' && c != '\t' then
              if breaks.isEmpty then " " :: chunks else chunks
            else lb :: chunks
          go n chunks breaks lb m
        else pure (chunks, breaks, lb, m)
      else pure (chunks, breaks, lb, m)
  let (chunks, breaks, lb, stop) ← go (← budget) [] breaks "" stop
  let chunks := if chomping != some false then lb :: chunks else chunks
  let chunks := if chomping == some true then breaks.reverse ++ chunks else chunks
  return ⟨.scalar (String.join chunks.reverse) false (some style), start, stop⟩

/-! ### Quoted scalars -/

/-- What an escape letter of a double-quoted scalar stands for. -/
def escapeReplacement (c : Char) : Option Char :=
  match c with
  | '0' => some '\x00'
  | 'a' => some '\x07'
  | 'b' => some '\x08'
  | 't' | '\t' => some '\t'
  | 'n' => some '\n'
  | 'v' => some '\x0b'
  | 'f' => some '\x0c'
  | 'r' => some '\r'
  | 'e' => some '\x1b'
  | ' ' => some ' '
  | '"' => some '"'
  | '/' => some '/'
  | '\\' => some '\\'
  | 'N' => some '\x85'
  | '_' => some '\xa0'
  | 'L' => some '\u2028'
  | 'P' => some '\u2029'
  | _ => none

/-- How many hexadecimal digits follow an escape letter that takes a code. -/
def escapeDigits (c : Char) : Option Nat :=
  match c with
  | 'x' => some 2
  | 'u' => some 4
  | 'U' => some 8
  | _ => none

/-- Reads the line breaks inside a quoted scalar; a document marker there is an error. -/
def quotedBreaks (start : Mark) : ScanM (List String) := do
  let rec go : Nat → List String → ScanM (List String)
    | 0, bs => pure bs.reverse
    | n + 1, bs => do
      let p ← ahead 3
      if ← lookIf (p == "---" || p == "...") (isBlankZ <$> peek 3) then
        throw (.within "while scanning a quoted scalar" start "found unexpected document separator"
          (← mark))
      skipWhile (fun c => c == ' ' || c == '\t')
      if isBreak (← peek 0) then
        let b ← lineBreak
        go n (b :: bs)
      else pure bs.reverse
  go (← budget) []

/-- Reads the characters of a quoted scalar up to a blank, a line break or its end. The pieces
are gathered latest first and put in order at the end. -/
def quotedNonSpaces (double : Bool) (start : Mark) : ScanM (List String) := do
  let rec go : Nat → List String → ScanM (List String)
    | 0, acc => pure acc
    | n + 1, acc => do
      let k ← runLength (fun c => !(c == '\'' || c == '"' || c == '\\' || isBlankZ c)) 0
      let acc ← if k > 0 then do
          let t ← take k
          pure (t :: acc)
        else pure acc
      let c ← peek 0
      if ← lookIf (!double && c == '\'') ((· == '\'') <$> peek 1) then
        forward 2
        go n ("'" :: acc)
      else if (double && c == '\'') || (!double && (c == '"' || c == '\\')) then
        forward 1
        go n (String.singleton c :: acc)
      else if double && c == '\\' then
        forward 1
        let e ← peek 0
        match escapeReplacement e, escapeDigits e with
        | some r, _ =>
          forward 1
          go n (String.singleton r :: acc)
        | none, some len =>
          forward 1
          for i in List.range len do
            let h ← peek i
            if !h.isHexDigit then
              throw (.within "while scanning a double-quoted scalar" start
                ("expected escape sequence of " ++ toString len ++
                  " hexadecimal numbers, but found " ++ quoteChar h) (← mark))
          let hs ← ahead len
          let v := hs.toList.foldl (fun acc c =>
            acc * 16 + (if c.isDigit then c.toNat - 48 else (c.toLower.toNat - 87))) 0
          if v ≥ Nat.pow 2 31 then
            throw (.fault ⟨"OverflowError", "Python int too large to convert to C int"⟩)
          if v > 0x10FFFF then throw (.fault ⟨"ValueError", "chr() arg not in range(0x110000)"⟩)
          forward len
          go n (String.singleton ((← get).keep.codeChar v) :: acc)
        | none, none =>
          if isBreak e then
            let _ ← lineBreak
            let bs ← quotedBreaks start
            go n (bs.reverse ++ acc)
          else
            throw (.within "while scanning a double-quoted scalar" start
              ("found unknown escape character " ++ quoteChar e) (← mark))
      else pure acc
  return (← go (← budget) []).reverse

/-- Reads blanks and line breaks inside a quoted scalar, folding a single line break into a
space. -/
def quotedSpaces (start : Mark) : ScanM (List String) := do
  let k ← runLength (fun c => c == ' ' || c == '\t') 0
  let ws ← take k
  let c ← peek 0
  if c == endChar then
    throw (.within "while scanning a quoted scalar" start "found unexpected end of stream"
      (← mark))
  else if isBreak c then
    let lb ← lineBreak
    let bs ← quotedBreaks start
    let first := if lb != "\n" then [lb] else if bs.isEmpty then [" "] else []
    return first ++ bs
  else return [ws]

/-- Reads a single- or double-quoted scalar. -/
def quotedScalar (style : Char) : ScanM Token := do
  let double := style == '"'
  let start ← mark
  let q ← peek 0
  forward 1
  let first ← quotedNonSpaces double start
  let rec go : Nat → List String → ScanM (List String)
    | 0, acc => pure acc
    | n + 1, acc => do
      if (← peek 0) == q then pure acc
      else
        let sp ← quotedSpaces start
        let ns ← quotedNonSpaces double start
        go n (ns.reverse ++ sp.reverse ++ acc)
  let chunks ← go (← budget) first.reverse
  forward 1
  return ⟨.scalar (String.join chunks.reverse) false (some style), start, ← mark⟩

/-! ### Plain scalars -/

/-- Reads the spaces and line breaks after a piece of a plain scalar; `none` when a document
marker follows a line break. -/
def plainSpaces : ScanM (Option (List String)) := do
  let k ← runLength (· == ' ') 0
  let ws ← take k
  let c ← peek 0
  if isBreak c then
    let lb ← lineBreak
    modify fun s => { s with allowSimpleKey := true }
    let atMarker : ScanM Bool := do
      let p ← ahead 3
      lookIf (p == "---" || p == "...") (isBlankZ <$> peek 3)
    if ← atMarker then return none
    let rec go : Nat → List String → ScanM (Option (List String))
      | 0, bs => pure (some bs.reverse)
      | n + 1, bs => do
        let c ← peek 0
        if c == ' ' then
          forward 1
          go n bs
        else if isBreak c then
          let b ← lineBreak
          if ← atMarker then return none
          go n (b :: bs)
        else pure (some bs.reverse)
    match ← go (← budget) [] with
    | none => return none
    | some bs =>
      let first := if lb != "\n" then [lb] else if bs.isEmpty then [" "] else []
      return some (first ++ bs)
  else if ws.isEmpty then return some []
  else return some [ws]

/-- Reads a plain scalar, which may run over several lines indented deeper than the
enclosing block. Its pieces are gathered latest first and put in order at the end. -/
def plainScalar : ScanM Token := do
  let start ← mark
  let indent := (← get).indent + 1
  let rec go : Nat → List String → List String → Mark → ScanM (List String × Mark)
    | 0, chunks, _, m => pure (chunks, m)
    | n + 1, chunks, spaces, m => do
      if (← peek 0) == '#' then return (chunks, m)
      let s ← get
      let flow := s.flowLevel != 0
      let rec len : Nat → Nat → Nat
        | 0, k => k
        | f + 1, k =>
          let c := s.cur.peek k
          if isBlankZ c ||
              (c == ':' && (isBlankZ (s.cur.peek (k + 1)) ||
                (flow && ",[]\x7b\x7d".contains (s.cur.peek (k + 1))))) ||
              (flow && ",?[]\x7b\x7d".contains c) then k
          else len f (k + 1)
      let k := len s.fuel 0
      touch k
      if s.cur.peek k == ':' then touch (k + 1)
      if k == 0 then return (chunks, m)
      modify fun s => { s with allowSimpleKey := false }
      let piece ← take k
      let chunks := piece :: spaces.reverse ++ chunks
      let m ← mark
      match ← plainSpaces with
      | none => return (chunks, m)
      | some sp =>
        let stop ← if sp.isEmpty then pure true
          else do pure ((← peek 0) == '#' || (!flow && ((← column) : Int) < indent))
        if stop then return (chunks, m)
        go n chunks sp m
  let (chunks, stop) ← go (← budget) [] [] start
  return ⟨.scalar (String.join chunks.reverse) true none, start, stop⟩

/-! ### Fetching tokens -/

/-- Appends an indicator token of one or three characters. -/
def indicator (k : Token.Kind) (n : Nat) : ScanM Unit := do
  let start ← mark
  forward n
  push ⟨k, start, ← mark⟩

/-- The end of the text: closes every block and ends the stream. -/
def fetchStreamEnd : ScanM Unit := do
  unwindIndent (-1)
  removeKey
  modify fun s => { s with allowSimpleKey := false, possibleKeys := [] }
  let m ← mark
  push ⟨.streamEnd, m, m⟩
  modify fun s => { s with done := true }

/-- A document marker `---` or `...`, or a directive: closes every block first. -/
def fetchAtDocumentLevel (scan : ScanM Unit) : ScanM Unit := do
  unwindIndent (-1)
  removeKey
  modify fun s => { s with allowSimpleKey := false }
  scan

/-- `[` or `{`. -/
def fetchFlowStart (k : Token.Kind) : ScanM Unit := do
  saveKey
  modify fun s => { s with flowLevel := s.flowLevel + 1, allowSimpleKey := true }
  indicator k 1

/-- `]` or `}`. -/
def fetchFlowEnd (k : Token.Kind) : ScanM Unit := do
  removeKey
  modify fun s => { s with flowLevel := s.flowLevel - 1, allowSimpleKey := false }
  indicator k 1

/-- `,` in a flow collection. -/
def fetchFlowEntry : ScanM Unit := do
  modify fun s => { s with allowSimpleKey := true }
  removeKey
  indicator .flowEntry 1

/-- `-` before a block sequence entry. -/
def fetchBlockEntry : ScanM Unit := do
  let s ← get
  if s.flowLevel == 0 then
    if !s.allowSimpleKey then throw (.at_ "sequence entries are not allowed here" s.cur.mark)
    if ← addIndent s.cur.column then
      let m ← mark
      push ⟨.blockSequenceStart, m, m⟩
  modify fun s => { s with allowSimpleKey := true }
  removeKey
  indicator .blockEntry 1

/-- `?` before an explicit key. -/
def fetchKey : ScanM Unit := do
  let s ← get
  if s.flowLevel == 0 then
    if !s.allowSimpleKey then throw (.at_ "mapping keys are not allowed here" s.cur.mark)
    if ← addIndent s.cur.column then
      let m ← mark
      push ⟨.blockMappingStart, m, m⟩
  modify fun s => { s with allowSimpleKey := s.flowLevel == 0 }
  removeKey
  indicator .key 1

/-- `:` before a value; when a possible key waits on this level, the key token (and in block
context the start of a mapping) goes in front of it. -/
def fetchValue : ScanM Unit := do
  let s ← get
  match s.possibleKeys.lookup s.flowLevel with
  | some k =>
    let at_ := k.tokenNumber - s.tokensTaken
    let tokens := s.tokens.insertIdxIfInBounds at_ ⟨.key, k.mark, k.mark⟩
    set { s with possibleKeys := dropLevel s.possibleKeys s.flowLevel, tokens := tokens }
    if s.flowLevel == 0 then
      if ← addIndent k.mark.column then
        modify fun s => { s with
          tokens := s.tokens.insertIdxIfInBounds at_ ⟨.blockMappingStart, k.mark, k.mark⟩ }
    modify fun s => { s with allowSimpleKey := false }
  | none =>
    if s.flowLevel == 0 then
      if !s.allowSimpleKey then throw (.at_ "mapping values are not allowed here" s.cur.mark)
      if ← addIndent s.cur.column then
        let m ← mark
        push ⟨.blockMappingStart, m, m⟩
    modify fun s => { s with allowSimpleKey := s.flowLevel == 0 }
    removeKey
  indicator .value 1

/-- A token that may begin a key: an alias, an anchor, a tag, a quoted or plain scalar. -/
def fetchKeyable (scan : ScanM Token) : ScanM Unit := do
  saveKey
  modify fun s => { s with allowSimpleKey := false }
  push (← scan)

/-- A block scalar. -/
def fetchBlockScalar (style : Char) : ScanM Unit := do
  modify fun s => { s with allowSimpleKey := true }
  removeKey
  push (← blockScalar style)

/-- Whether a plain scalar may start here, where the next character is `c`; the character
after it is looked at only when `c` alone does not decide. -/
def startsPlain (c : Char) : ScanM Bool := do
  if !(isBlankZ c || "-?:,[]\x7b\x7d#&*!|>'\"%@`".contains c) then return true
  let flow := (← get).flowLevel != 0
  return !isBlankZ (← peek 1) && (c == '-' || (!flow && (c == '?' || c == ':')))

/-- Whether a document marker `m` (`---` or `...`) starts the line here. -/
def atMarker (m : String) : ScanM Bool := do
  if (← column) != 0 then return false
  if (← ahead 3) != m then return false
  return isBlankZ (← peek 3)

/-- Whether the character after an indicator ends it: a blank, or in flow context anything. -/
def indicatorEnds : ScanM Bool := do
  if (← get).flowLevel != 0 then return true
  return isBlankZ (← peek 1)

/-- Reads the next token or tokens. -/
def fetchMore : ScanM Unit := do
  toNextToken
  staleKeys
  unwindIndent (← column)
  let c ← peek 0
  let flow := (← get).flowLevel != 0
  if c == endChar then fetchStreamEnd
  else if c == '%' && (← column) == 0 then fetchAtDocumentLevel (do push (← directive))
  else if ← lookIf (c == '-') (atMarker "---") then
    fetchAtDocumentLevel (indicator .documentStart 3)
  else if ← lookIf (c == '.') (atMarker "...") then
    fetchAtDocumentLevel (indicator .documentEnd 3)
  else if c == '[' then fetchFlowStart .flowSequenceStart
  else if c == '{' then fetchFlowStart .flowMappingStart
  else if c == ']' then fetchFlowEnd .flowSequenceEnd
  else if c == '}' then fetchFlowEnd .flowMappingEnd
  else if c == ',' then fetchFlowEntry
  else if ← lookIf (c == '-') (isBlankZ <$> peek 1) then fetchBlockEntry
  else if ← lookIf (c == '?') indicatorEnds then fetchKey
  else if ← lookIf (c == ':') indicatorEnds then fetchValue
  else if c == '*' then fetchKeyable (anchorOrAlias true)
  else if c == '&' then fetchKeyable (anchorOrAlias false)
  else if c == '!' then fetchKeyable tag
  else if c == '|' && !flow then fetchBlockScalar '|'
  else if c == '>' && !flow then fetchBlockScalar '>'
  else if c == '\'' then fetchKeyable (quotedScalar '\'')
  else if c == '"' then fetchKeyable (quotedScalar '"')
  else if ← startsPlain c then fetchKeyable plainScalar
  else
    let m ← mark
    throw (.marked
      { context := some "while scanning for the next token",
        problem := some ("found character " ++ quoteChar c ++ " that cannot start any token"),
        problemMark := some m })

/-- Whether the head token is not yet final: there is none, or a key may still be put in
front of it. -/
def needMore : ScanM Bool := do
  let s ← get
  if s.done then return false
  if s.tokens.isEmpty then return true
  staleKeys
  return nextKeyNumber (← get) == some (← get).tokensTaken

/-- Reads until the head token is final. -/
def settle : ScanM Unit := do
  let rec go : Nat → ScanM Unit
    | 0 => pure ()
    | n + 1 => do
      if ← needMore then
        fetchMore
        go n
  go ((← budget) + 2)

/-- The next token, without taking it. -/
def peekToken : ScanM Token := do
  settle
  let s ← get
  return s.tokens[0]?.getD ⟨.streamEnd, s.cur.mark, s.cur.mark⟩

/-- Takes the next token. -/
def nextToken : ScanM Token := do
  settle
  let s ← get
  match s.tokens[0]? with
  | some t =>
    set { s with tokens := s.tokens.eraseIdxIfInBounds 0, tokensTaken := s.tokensTaken + 1 }
    return t
  | none => return ⟨.streamEnd, s.cur.mark, s.cur.mark⟩

end Scanner

end CiteForm.Yaml
