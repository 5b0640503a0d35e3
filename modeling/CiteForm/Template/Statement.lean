import CiteForm.Template.Token
/-!
# Statements

A template body is a run of statements; a statement is a run of addends joined by `+`; an
addend is a group, `[...]` or `{...}`. `statements` cuts a body into its statements and
each statement into the texts of its addends.

The cut keeps two counters for the whole body, one for brackets and one for braces, and
never resets them between addends. A brace always counts; a bracket counts only while no
brace is open. The first character of an addend says which counter closes it: `[` closes at
bracket depth zero, `{` at brace depth zero, any other character never. After an addend
closes, a `+` continues the statement and any other character begins the next one. An
addend or statement still open when the text ends is dropped.

Escape pairs count for nothing. Inside an addend that began with `{` an escape pair is kept
as its character alone, elsewhere as both characters.

* `Depth.count`, `Depth.closes` — the counters and the closing test.
* `Cut.step` — one token of the cut; `statements` — the cut of a whole text.
-/

namespace CiteForm.Template

/-- Bracket and brace depth, as counted over a whole body. -/
structure Depth where
  brackets : Int := 0
  braces : Int := 0
  deriving DecidableEq, Repr

namespace Depth

/-- The depth after one more character: a brace always counts, a bracket only while no
brace is open. -/
def count (k : Depth) (c : Char) : Depth :=
  if c = '{' then { k with braces := k.braces + 1 }
  else if c = '}' then { k with braces := k.braces - 1 }
  else if k.braces ≤ 0 then
    if c = '[' then { k with brackets := k.brackets + 1 }
    else if c = ']' then { k with brackets := k.brackets - 1 }
    else k
  else k

/-- Whether an addend that began with `opener` is closed at depth `k`. -/
def closes (k : Depth) : Option Char → Bool
  | some '[' => k.brackets == 0
  | some '{' => k.braces == 0
  | _ => false

end Depth

/-- What a token adds to an addend that began with `opener`: inside a literal an escape
pair gives only its character. -/
def Token.addendText (opener : Option Char) : Token → List Char
  | .char c => [c]
  | .escaped c => if opener = some '{' then [c] else ['\\', c]

/-- Where the cut stands between two tokens. -/
inductive Phase where
  /-- The next token opens an addend: at the start, and after a `+`. -/
  | await
  /-- An addend that began with `opener` is open. -/
  | inside (opener : Char)
  /-- An addend has just closed. -/
  | closed
  deriving DecidableEq, Repr

/-- The state of a cut: the phase, the depth so far, the open addend's text reversed, the
closed addends of the open statement, and the statements already finished, these two latest
first. -/
structure Cut where
  phase : Phase := .await
  depth : Depth := {}
  acc : List Char := []
  st : List (List Char) := []
  done : List (List (List Char)) := []
  deriving Repr

namespace Cut

/-- Reads token `t` into the addend that began with `opener`. A character that brings the
depth to the opener's close ends the addend. -/
def feed (s : Cut) (opener : Char) : Token → Cut
  | .escaped c =>
    { s with phase := .inside opener,
             acc := ((Token.escaped c).addendText (some opener)).reverse ++ s.acc }
  | .char c =>
    let k := s.depth.count c
    if k.closes (some opener) then
      { s with phase := .closed, depth := k, acc := [], st := (c :: s.acc).reverse :: s.st }
    else
      { s with phase := .inside opener, depth := k, acc := c :: s.acc }

/-- Reads one token. After a closed addend a `+` continues the statement and any other token
finishes it and opens the next one. -/
def step (s : Cut) (t : Token) : Cut :=
  match s.phase with
  | .await => s.feed t.lead t
  | .inside o => s.feed o t
  | .closed =>
    if t = .char '+' then { s with phase := .await }
    else { s with done := s.st.reverse :: s.done, st := [] }.feed t.lead t

/-- The statements once the text has ended: a statement whose last addend closed is kept,
an open one is dropped. -/
def finish (s : Cut) : List (List (List Char)) :=
  match s.phase with
  | .closed => (s.st.reverse :: s.done).reverse
  | _ => s.done.reverse

end Cut

/-- The statements of a text, each the list of its addends' texts. -/
def statements (cs : List Char) : List (List (List Char)) :=
  ((Token.ofChars cs).foldl Cut.step {}).finish

example : statements "[a]+\x7bb\x7d[c]".toList =
    [["[a]".toList, "\x7bb\x7d".toList], ["[c]".toList]] := by
  decide

example : statements "\x7ba\\\x7d\x7d".toList = [["\x7ba\x7d\x7d".toList]] := by decide

end CiteForm.Template
