import CiteForm.Yaml.Mark
/-!
# Cursors over YAML text

A cursor is the rest of the text with the mark of its first character. Looking past the end
gives the character `U+0000`, which a document cannot contain. A line ends after a line feed,
a next line character, a line or paragraph separator, or a carriage return not followed by a
line feed; a byte order mark takes no column.

A document may not contain control characters other than tab and line ends, nor the two
non-characters `U+FFFE` and `U+FFFF`. A reader takes the text in pieces, the first of 8192
characters and then 4096 at a time, and checks each piece when it first looks into it, so a
forbidden character is found only once reading comes near it; an error met before that is
reported instead.

* `Cursor.peek`, `Cursor.forward` — looking ahead and moving on.
* `Cursor.skipWhile`, `Cursor.runLength` — runs of characters.
* `firstForbidden?`, `pieceStart` — the first forbidden character, and where reading finds it.
-/

namespace CiteForm.Yaml

/-- The end of the text, as looking ahead sees it. -/
def endChar : Char := '\x00'

/-- Characters that end a line. -/
def isBreak (c : Char) : Bool :=
  c == '\r' || c == '\n' || c == '\x85' || c == '\u2028' || c == '\u2029'

/-- Characters that end a line, or the end of the text. -/
def isBreakZ (c : Char) : Bool :=
  c == endChar || isBreak c

/-- Space, tab, a line end or the end of the text. -/
def isBlankZ (c : Char) : Bool :=
  c == ' ' || c == '\t' || isBreakZ c

/-- Space, a line end or the end of the text (no tab). -/
def isSpaceZ (c : Char) : Bool :=
  c == ' ' || isBreakZ c

/-- Letters, digits, `-` and `_`: the characters of anchor names and tag handles. -/
def isWordChar (c : Char) : Bool :=
  ('0' ≤ c && c ≤ '9') || ('A' ≤ c && c ≤ 'Z') || ('a' ≤ c && c ≤ 'z') ||
    c == '-' || c == '_'

/-- Whether a document may contain a character. -/
def isAllowed (c : Char) : Bool :=
  let n := c.toNat
  n == 0x09 || n == 0x0A || n == 0x0D || (0x20 ≤ n && n ≤ 0x7E) || n == 0x85 ||
    (0xA0 ≤ n && n ≤ 0xD7FF) || (0xE000 ≤ n && n ≤ 0xFFFD) || 0x10000 ≤ n

/-- The first character a document may not contain, with its index. -/
def firstForbidden? (cs : List Char) : Option (Nat × Char) :=
  (cs.zipIdx.find? fun (c, _) => !isAllowed c).map fun (c, i) => (i, c)

/-- Where the piece of text that a reader checks together with index `i` starts. -/
def pieceStart (i : Nat) : Nat :=
  if i < 8192 then 0 else 8192 + (i - 8192) / 4096 * 4096

/-- The rest of a text and the mark of its first character. -/
structure Cursor where
  rest : List Char
  index : Nat
  line : Nat
  column : Nat
  deriving Inhabited

namespace Cursor

/-- A cursor at the start of a text. -/
def start (cs : List Char) : Cursor := ⟨cs, 0, 0, 0⟩

/-- The mark of the cursor. -/
def mark (c : Cursor) : Mark := ⟨c.index, c.line, c.column⟩

/-- The character `k` places ahead. -/
def peek (c : Cursor) (k : Nat) : Char :=
  c.rest.getD k endChar

/-- The next `n` characters, as far as the text goes. -/
def ahead (c : Cursor) (n : Nat) : String :=
  String.ofList (c.rest.take n)

/-- The counters after reading `ch`, followed by `next`. -/
def count (m : Cursor) (ch : Char) (next : Option Char) : Cursor :=
  if ch == '\n' || ch == '\x85' || ch == '\u2028' || ch == '\u2029' ||
      (ch == '\r' && next != some '\n') then
    { m with index := m.index + 1, line := m.line + 1, column := 0 }
  else if ch == '\uFEFF' then { m with index := m.index + 1 }
  else { m with index := m.index + 1, column := m.column + 1 }

/-- Moves past one character. -/
def advance (c : Cursor) : Cursor :=
  match c.rest with
  | ch :: more => { count c ch more.head? with rest := more }
  | [] => c

/-- Moves past `n` characters. -/
def forward (c : Cursor) : Nat → Cursor
  | 0 => c
  | n + 1 => c.advance.forward n

/-- Moves past the characters that satisfy `p`. -/
def skipWhile (p : Char → Bool) (c : Cursor) : Cursor :=
  match h : c.rest with
  | ch :: _ =>
    if p ch then
      have : c.advance.rest.length < c.rest.length := by simp [advance, h]
      skipWhile p c.advance
    else c
  | [] => c
termination_by c.rest.length

/-- How many characters from `k` places ahead on satisfy `p`. -/
def runLength (p : Char → Bool) (c : Cursor) (k : Nat) : Nat :=
  ((c.rest.drop k).takeWhile p).length

end Cursor

end CiteForm.Yaml
