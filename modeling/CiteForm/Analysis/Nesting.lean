/-!
# Nesting of brackets and braces

The structural checks of a template read only its four group characters. An opener, `[`
or `{`, goes on a stack; a closer takes the top of the stack, and is unmatched when the
stack is empty or the opener it takes is of the other kind. Whatever is left on the stack
at the end is unclosed. Backslashes are not special here.

* `Nesting.scan` — the unmatched closers, in text order, and the unclosed openers, from the
  bottom of the stack up, each with its index in code points.
-/

namespace CiteForm.Analysis

/-- Whether `c` opens a group. -/
def isOpener (c : Char) : Bool := c == '[' || c == '{'

/-- Whether `c` closes a group. -/
def isCloser (c : Char) : Bool := c == ']' || c == '}'

/-- The closer that matches an opener. -/
def closerOf (o : Char) : Char := if o = '[' then ']' else '}'

/-- What a scan finds: the closers that matched nothing, and the openers never closed. -/
structure Nesting where
  unmatched : List (Char × Nat)
  unclosed : List (Char × Nat)
  deriving DecidableEq, Repr

namespace Nesting

/-- The scan from index `i` on, with `stack` holding the open openers, top first. -/
def scanFrom : List Char → Nat → List (Char × Nat) → Nesting
  | [], _, stack => ⟨[], stack.reverse⟩
  | c :: rest, i, stack =>
    if isOpener c then scanFrom rest (i + 1) ((c, i) :: stack)
    else if isCloser c then
      match stack with
      | (o, _) :: below =>
        let r := scanFrom rest (i + 1) below
        if closerOf o = c then r else { r with unmatched := (c, i) :: r.unmatched }
      | [] =>
        let r := scanFrom rest (i + 1) []
        { r with unmatched := (c, i) :: r.unmatched }
    else scanFrom rest (i + 1) stack

/-- The nesting of a whole text. -/
def scan (cs : List Char) : Nesting :=
  scanFrom cs 0 []

/-- Whether the scan found nothing wrong. -/
def isClean (n : Nesting) : Bool :=
  n.unmatched.isEmpty && n.unclosed.isEmpty

end Nesting

example : Nesting.scan "\x7b[\x7d]".toList = ⟨[('\x7d', 2), (']', 3)], []⟩ := by decide

end CiteForm.Analysis
