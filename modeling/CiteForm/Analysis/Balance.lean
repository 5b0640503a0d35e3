/-!
# Single balanced expressions

Whether a selection of template text is exactly one expression, so that it can be folded
into a `[*]` token. The text must begin with `[` and end with `]`, and counting brackets and
braces separately from the left, neither count may drop below zero and both must end at
zero. A backslash hides the character after it.

* `isBalancedExpression` — the test.
-/

namespace CiteForm.Analysis

/-- Counts brackets `b` and braces `r` over the rest of the text; false once a count would
drop below zero. -/
def balancedFrom : List Char → Nat → Nat → Bool
  | [], b, r => b == 0 && r == 0
  | ['\\'], b, r => b == 0 && r == 0
  | '\\' :: _ :: rest, b, r => balancedFrom rest b r
  | c :: rest, b, r =>
    if c = '[' then balancedFrom rest (b + 1) r
    else if c = ']' then (if b = 0 then false else balancedFrom rest (b - 1) r)
    else if c = '{' then balancedFrom rest b (r + 1)
    else if c = '}' then (if r = 0 then false else balancedFrom rest b (r - 1))
    else balancedFrom rest b r

/-- Whether a text is one expression `[...]` with its brackets and braces balanced. -/
def isBalancedExpression (cs : List Char) : Bool :=
  cs.head? == some '[' && cs.getLast? == some ']' && balancedFrom cs 0 0

example : isBalancedExpression "[a][b]".toList = true := by decide
example : isBalancedExpression "[a]]".toList = false := by decide

end CiteForm.Analysis
