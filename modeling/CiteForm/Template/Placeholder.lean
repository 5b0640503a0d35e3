/-!
# Placeholders and fold tokens

A template names its fields by position: each `%s` stands for the next field value. A fold
token `[*]` stands for the next piece of a list given beside the template. Both are found
left to right without overlap, and what replaces them is inserted as it is, never read
again.

* `fillPlaceholders`, `fillFolds` — replace each `%s`, or each `[*]`, by the next
  replacement, and by nothing once the replacements run out.
* `substitute`, `expandFolds`, `countPlaceholders` — the same on `String`s.
-/

namespace CiteForm.Template

/-- Replaces, left to right, each `%s` by the next value, and by nothing once the values
run out. -/
def fillPlaceholders : List Char → List (List Char) → List Char
  | [], _ => []
  | '%' :: 's' :: rest, vs => vs.headD [] ++ fillPlaceholders rest vs.tail
  | c :: rest, vs => c :: fillPlaceholders rest vs

/-- Replaces, left to right, each `[*]` by the next piece, and by nothing once the pieces
run out. -/
def fillFolds : List Char → List (List Char) → List Char
  | [], _ => []
  | '[' :: '*' :: ']' :: rest, ps => ps.headD [] ++ fillFolds rest ps.tail
  | c :: rest, ps => c :: fillFolds rest ps

/-- The number of `%s` marks, counted left to right without overlap. -/
def placeholderCount : List Char → Nat
  | [] => 0
  | '%' :: 's' :: rest => placeholderCount rest + 1
  | _ :: rest => placeholderCount rest

/-- A template with each `%s` replaced by the next field value; a missing value (`none`)
and a value past the end both give the empty text. -/
def substitute (template : String) (values : List (Option String)) : String :=
  String.ofList (fillPlaceholders template.toList (values.map fun v => (v.getD "").toList))

/-- A text with each fold token `[*]` replaced by the next piece. -/
def expandFolds (text : String) (pieces : List String) : String :=
  String.ofList (fillFolds text.toList (pieces.map String.toList))

/-- The number of `%s` marks in a text. -/
def countPlaceholders (text : String) : Nat :=
  placeholderCount text.toList

example : substitute "%s and %s, %%s" [some "A", none] = "A and , %" := by decide
example : expandFolds "[*]x[*]" ["a[*]"] = "a[*]x" := by decide
example : countPlaceholders "%%s%s" = 2 := by decide

end CiteForm.Template
