/-!
# Surrogate code points

An escape in a document may name a code point from `U+D800` to `U+DFFF`. These are the
surrogates of UTF-16: no characters, so a `Char` cannot hold one, yet a text keeps each one
that an escape names, on its own; two of them side by side stay two, and are never joined
into the character they would encode together.

A text therefore carries a surrogate by a stand-in: a private-use character of planes 15 and
16 that no text of the run uses or can make. A `Keep` lists the private-use code points a run's
texts use or may make, the taken ones; the surrogates stand in, in order, for the code points
of the planes that are not taken. Since nothing else in the run can be one of those
characters, a stand-in is read back as the surrogate it stands for without doubt. Quoting and
encoding write a stand-in as its surrogate.

A text may make a character by an escape `\U` of eight hexadecimal digits, or by `%` escapes
that spell it in UTF-8; the code points so written are taken too, whether or not they are ever
read as escapes.

* `Keep` — which characters stand in for surrogates in a run.
* `Keep.avoiding` — the keep of a run whose texts are given.
* `Keep.codeChar` — the character a code point is kept as.
* `Keep.surrogateOf?` — the surrogate a character stands in for, if it stands in for one.
-/

namespace CiteForm.Text

/-- The first surrogate code point. -/
def surrogateFirst : Nat := 0xD800

/-- How many surrogate code points there are. -/
def surrogateCount : Nat := 0x800

/-- Whether a code point is a surrogate. -/
def isSurrogate (n : Nat) : Bool :=
  surrogateFirst ≤ n && n < surrogateFirst + surrogateCount

/-- The first code point of plane 15, where the private-use planes begin. -/
def privateFirst : Nat := 0xF0000

/-- Which characters stand in for surrogates: surrogate `surrogateFirst + i` is kept as the
`i`-th code point from `privateFirst` on that is not taken. -/
structure Keep where
  /-- The taken code points, each from `privateFirst` on, increasing and without repeats. -/
  taken : Array Nat
  deriving DecidableEq, Repr, Inhabited

namespace Keep

/-- The value of a hexadecimal digit. -/
def hexValue? (c : Char) : Option Nat :=
  if '0' ≤ c && c ≤ '9' then some (c.toNat - 48)
  else if 'a' ≤ c && c ≤ 'f' then some (c.toNat - 87)
  else if 'A' ≤ c && c ≤ 'F' then some (c.toNat - 55)
  else none

/-- The number that hexadecimal digits spell, if they all are digits. -/
def hexNumber? (cs : List Char) : Option Nat :=
  cs.foldlM (fun acc c => (hexValue? c).map (acc * 16 + ·)) 0

/-- The code point that the escape `\U` of eight hexadecimal digits at the start of a text
names, if it is one. -/
def escapeCode? : List Char → Option Nat
  | '\\' :: 'U' :: digits =>
    if (digits.take 8).length == 8 then hexNumber? (digits.take 8) else none
  | _ => none

/-- The code points that the escapes `\U` of eight hexadecimal digits in a text name. -/
def escapeCodes : List Char → List Nat
  | [] => []
  | c :: rest => (escapeCode? (c :: rest)).toList ++ escapeCodes rest

/-- The byte that the escape `%` of two hexadecimal digits at the start of a text spells, if
it is one. -/
def percentByte? : List Char → Option Nat
  | '%' :: a :: b :: _ =>
    match hexValue? a, hexValue? b with
    | some x, some y => some (x * 16 + y)
    | _, _ => none
  | _ => none

/-- The bytes that the `%` escapes of a text spell, in order. -/
def percentBytes : List Char → List Nat
  | [] => []
  | c :: rest => (percentByte? (c :: rest)).toList ++ percentBytes rest

/-- The code points that every four bytes in a row would spell as a UTF-8 sequence of four
bytes, whatever their marks. -/
def quadCodes : List Nat → List Nat
  | [] => []
  | b0 :: rest =>
    match rest with
    | b1 :: b2 :: b3 :: _ =>
      (b0 % 8 * 0x40000 + b1 % 64 * 0x1000 + b2 % 64 * 0x40 + b3 % 64) :: quadCodes rest
    | _ => []

/-- The private-use code points of planes 15 and 16 that a text uses or may make. -/
def privateCodes (cs : List Char) : List Nat :=
  ((cs.map Char.toNat) ++ escapeCodes cs ++ quadCodes (percentBytes cs)).filter
    (privateFirst ≤ ·)

/-- A sorted list without its repeats. -/
def distinctSorted : List Nat → List Nat
  | [] => []
  | [a] => [a]
  | a :: rest =>
    match rest with
    | b :: _ => if a == b then distinctSorted rest else a :: distinctSorted rest
    | [] => [a]

/-- The keep of a run whose texts are these: it takes every private-use code point they use or
may make. -/
def avoiding (texts : List String) : Keep :=
  ⟨(distinctSorted ((texts.flatMap fun t => privateCodes t.toList).mergeSort
    fun a b => decide (a ≤ b))).toArray⟩

/-- The first place in `xs` from `lo` to `hi` whose number is not below `n`, for `xs` sorted
there, found by halving the span; `fuel` bounds the halvings, and the span's length is
enough. -/
def lowerBound (xs : Array Nat) (n lo hi : Nat) : Nat → Nat
  | 0 => lo
  | fuel + 1 =>
    if lo < hi then
      let mid := (lo + hi) / 2
      if xs.getD mid 0 < n then lowerBound xs n (mid + 1) hi fuel
      else lowerBound xs n lo mid fuel
    else lo

/-- The code point that stands in for surrogate `surrogateFirst + i`: the `i`-th code point
from `privateFirst` on that is not taken. Each taken code point at or below the candidate moves
it one on; since they come in increasing order, the candidate ends past exactly those below
it. -/
def standIn (k : Keep) (i : Nat) : Nat :=
  k.taken.foldl (fun c t => if t ≤ c then c + 1 else c) (privateFirst + i)

/-- The character a code point below `0x110000` is kept as: itself, or for a surrogate its
stand-in. -/
def codeChar (k : Keep) (n : Nat) : Char :=
  if isSurrogate n then Char.ofNat (k.standIn (n - surrogateFirst)) else Char.ofNat n

/-- The surrogate a character stands in for, if it is a stand-in: a code point from
`privateFirst` on that is not taken, counted among those that are not taken. -/
def surrogateOf? (k : Keep) (c : Char) : Option Nat :=
  let n := c.toNat
  if n < privateFirst then none
  else
    let below := lowerBound k.taken n 0 k.taken.size (k.taken.size + 1)
    if k.taken[below]? == some n then none
    else
      let i := n - privateFirst - below
      if i < surrogateCount then some (surrogateFirst + i) else none

end Keep

/-- The keep of a run whose texts take nothing. -/
def Keep.empty : Keep := ⟨#[]⟩

example : Keep.empty.surrogateOf? 'a' = none ∧
    Keep.empty.surrogateOf? (Keep.empty.codeChar 0xDC00) = some 0xDC00 ∧
    Keep.empty.surrogateOf? (Keep.empty.codeChar 0x10FFFF) = none := by decide

example : Keep.privateCodes "\\U000F0000 %F3%B0%80%82".toList = [0xF0000, 0xF0002] := by
  decide

example : (Keep.mk #[0xF0000, 0xF0002]).surrogateOf? (Char.ofNat 0xF0003) = some 0xD801 ∧
    (Keep.mk #[0xF0000, 0xF0002]).standIn 1 = 0xF0003 := by decide

end CiteForm.Text
