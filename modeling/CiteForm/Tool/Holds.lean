import CiteForm.CommandLine.Parse
/-!
# Options held empty

An option written with the marker `--` as its word, such as `--value=--` or `--fold=--`,
holds an empty list where a text belongs (see `CommandLine.Held`). Nothing refuses it when
it is parsed; it fails only where it is used as a text, an integer or a log level:

* joined into a text: a `%s` or `[*]` replaced by it, or a label of a subset, fails with
  the place of the first such piece among the pieces joined;
* compared with an integer, as a `--null` index, a `--select` index or the row limit;
* read as a log level, which every command does before its work.

A substitution joins the stretches of text between its marks that are not empty and the
replacements, in order; so a replacement's place counts the replacements before it and the
non-empty stretches up to it.

* `placeholderGaps`, `foldGaps` — for each mark, whether text stands before it.
* `firstEmptyPiece` — where the first replacement held empty is joined, if one is.
* `joinFault`, `compareFault`, `levelFault` — what each failure says.
-/

namespace CiteForm.Tool

open CommandLine

/-- For each `%s`, left to right without overlap, whether text stands between it and the
mark before it (or the start); `gap` says whether text stands before the first character. -/
def placeholderGaps : List Char → Bool → List Bool
  | [], _ => []
  | '%' :: 's' :: rest, gap => gap :: placeholderGaps rest false
  | _ :: rest, _ => placeholderGaps rest true

/-- For each `[*]`, left to right without overlap, whether text stands between it and the
token before it (or the start). -/
def foldGaps : List Char → Bool → List Bool
  | [], _ => []
  | '[' :: '*' :: ']' :: rest, gap => gap :: foldGaps rest false
  | _ :: rest, _ => foldGaps rest true

/-- The place among the joined pieces of the first replacement held empty, if any, where
the marks have the given gaps and take the replacements in order; marks past the last
replacement take the empty text. `n` counts the pieces before the next mark's text. -/
def firstEmptyPiece {α : Type} : List Bool → List (Held α) → Nat → Option Nat
  | [], _, _ => none
  | _, [], _ => none
  | g :: gs, h :: hs, n =>
    let n := if g then n + 1 else n
    match h with
    | .empty => some n
    | .value _ => firstEmptyPiece gs hs (n + 1)

/-- The place of the first item held empty in a list joined as it is. -/
def firstEmptyItem {α : Type} (hs : List (Held α)) : Option Nat :=
  firstEmptyPiece (hs.map fun _ => false) hs 0

/-- The failure of joining an empty list at place `i`. -/
def joinFault (i : Nat) : String :=
  "sequence item " ++ toString i ++ ": expected str instance, list found"

/-- The failure of comparing with `op` an integer (on the left when `intFirst`) and an empty
list. -/
def compareFault (op : String) (intFirst : Bool) : String :=
  let sides := if intFirst then "'int' and 'list'" else "'list' and 'int'"
  "'" ++ op ++ "' not supported between instances of " ++ sides

/-- The failure of reading an empty list as a log level. -/
def levelFault : String := "'list' object has no attribute 'upper'"

example : firstEmptyPiece (placeholderGaps "[%s]".toList false) [(.empty : Held String)] 0 =
    some 1 := by decide
example : firstEmptyPiece (foldGaps "[*][*]".toList false) [.value "a", (.empty : Held String)] 0 =
    some 1 := by decide

end CiteForm.Tool
