import CiteForm.Text.Blank
/-!
# Argument labels

A spec names a template's arguments in bracket shorthand, such as `[Author]. [Title].`.
Each span `[x]` with `x` non-empty and free of brackets gives the label `x` without its
blank ends; spans are found left to right without overlap, and a label seen before is
dropped.

* `labelSpans` — the insides of the spans, in order.
* `extractLabels` — the labels of a spec.
-/

namespace CiteForm.Analysis

open CiteForm.Text

/-- The insides of the spans `[x]` from here on; `open?` holds, reversed, the inside of a
span begun but not yet closed. -/
def spansFrom : List Char → Option (List Char) → List (List Char)
  | [], _ => []
  | c :: rest, none => spansFrom rest (if c = '[' then some [] else none)
  | c :: rest, some acc =>
    if c = ']' then
      if acc.isEmpty then spansFrom rest none else acc.reverse :: spansFrom rest none
    else if c = '[' then spansFrom rest (some [])
    else spansFrom rest (some (c :: acc))

/-- The insides of the spans `[x]` of a text, in order. -/
def labelSpans (cs : List Char) : List (List Char) :=
  spansFrom cs none

/-- Keeps the first occurrence of each element. -/
def firstOccurrences {α : Type} [BEq α] : List α → List α
  | [] => []
  | x :: xs => x :: (firstOccurrences xs).filter (fun y => !(y == x))

/-- The labels of a spec: the trimmed span insides, each once, in first-seen order. -/
def extractLabels (spec : String) : List String :=
  firstOccurrences ((labelSpans spec.toList).map fun l => String.ofList (trimChars l))

example : extractLabels "[Author]. [ Title ]. [Author] [] [a[b]" = ["Author", "Title", "b"] := by
  decide

end CiteForm.Analysis
