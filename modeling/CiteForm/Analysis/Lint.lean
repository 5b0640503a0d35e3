import CiteForm.Analysis.Nesting
import CiteForm.Text.Blank
/-!
# Lint

The lint of a template lists what is wrong with its nesting and then two matters of style.
An issue whose message begins with `Warning:` is a matter of style; the others make a
template unfit for a suite.

1. Each closer that matches nothing, in text order.
2. One note that some opener is left unclosed.
3. A warning if some literal is empty or blank, such as `{}` or `{ }`.
4. A warning if two `+` stand with only blanks between them.

* `lint` — the issues of a text, in that order.
-/

namespace CiteForm.Analysis

open CiteForm.Text

/-- One finding of the lint. -/
inductive Issue where
  /-- The closer `c` at index `index` matched nothing. -/
  | unmatched (c : Char) (index : Nat)
  /-- Some opener is never closed. -/
  | unclosed
  /-- A literal holds only blanks. -/
  | emptyLiteral
  /-- Two `+` with only blanks between them. -/
  | doubledPlus
  deriving DecidableEq, Repr

namespace Issue

/-- The message of an issue. -/
def message : Issue → String
  | unmatched c i => "Unmatched '" ++ String.singleton c ++ "' at " ++ toString i
  | unclosed => "Unclosed bracket/brace detected"
  | emptyLiteral => "Warning: empty \x7b\x7d literal"
  | doubledPlus => "Warning: doubled '+' between addends"

/-- Whether an issue is only a matter of style. -/
def isWarning : Issue → Bool
  | emptyLiteral | doubledPlus => true
  | _ => false

end Issue

/-- Whether `a`, then only blanks, then `b` occur somewhere in the text. -/
def hasBlankPair (a b : Char) : List Char → Bool
  | [] => false
  | c :: rest => (c == a && (rest.dropWhile isBlank).head? == some b) || hasBlankPair a b rest

/-- The lint of a text. -/
def lint (cs : List Char) : List Issue :=
  let n := Nesting.scan cs
  n.unmatched.map (fun (c, i) => Issue.unmatched c i)
    ++ (if n.unclosed.isEmpty then [] else [Issue.unclosed])
    ++ (if hasBlankPair '{' '}' cs then [Issue.emptyLiteral] else [])
    ++ (if hasBlankPair '+' '+' cs then [Issue.doubledPlus] else [])

end CiteForm.Analysis
