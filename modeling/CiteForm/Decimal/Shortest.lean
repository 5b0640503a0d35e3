/-!
# Shortest decimals

The decimal a binary floating point value is written as: the one with the fewest digits
that reads back as the same value, and of two such, the one nearer to it; an exact tie goes
to the even digit.

A finite value is `m * 2^q`. The reals that round to it form an interval, from halfway to
the value below to halfway to the value above, with both ends included exactly when `m` is
even. The search tries one digit, then two, and so on up to seventeen: on each decimal grid
it tests the value's two neighbours against the interval with exact arithmetic on naturals.

* `Binary.ofBits` — the value of a bit pattern.
* `Binary.readsBack` — whether a decimal lies in the value's interval.
* `Binary.shortest` — the selected decimal, without trailing zeros.
-/

namespace CiteForm.Decimal

/-- A finite non-negative binary value `m * 2^q`. -/
structure Binary where
  m : Nat
  q : Int
  /-- The gap to the value below is half the gap to the value above. -/
  narrowBelow : Bool
  deriving DecidableEq, Repr

/-- A decimal `digits * 10^exp`. -/
structure Dec where
  digits : Nat
  exp : Int
  deriving DecidableEq, Repr

/-- The magnitude of a finite 64-bit pattern. NaN and the infinities are no such value. -/
def Binary.ofBits (b : UInt64) : Binary :=
  let e := ((b >>> 52) &&& 0x7FF).toNat
  let f := (b &&& 0xFFFFFFFFFFFFF).toNat
  if e == 0 then ⟨f, -1074, false⟩
  else ⟨Nat.pow 2 52 + f, (e : Int) - 1075, f == 0 && e > 1⟩

/-- Compares `a * 10^i` with `n * 2^j`, exactly. -/
def cmpScaled (a : Nat) (i : Int) (n : Nat) (j : Int) : Ordering :=
  compare (a * Nat.pow 10 i.toNat * Nat.pow 2 (-j).toNat)
    (n * Nat.pow 2 j.toNat * Nat.pow 10 (-i).toNat)

namespace Binary

/-- Whether `d` lies among the reals that round to `x`. -/
def readsBack (x : Binary) (d : Dec) : Bool :=
  let lo := if x.narrowBelow then 4 * x.m - 1 else 4 * x.m - 2
  let hi := 4 * x.m + 2
  let incl := x.m % 2 == 0
  let cl := cmpScaled d.digits d.exp lo (x.q - 2)
  let ch := cmpScaled d.digits d.exp hi (x.q - 2)
  (cl == .gt || (incl && cl == .eq)) && (ch == .lt || (incl && ch == .eq))

/-- Whether `x` is below `10^k`. -/
def below (x : Binary) (k : Int) : Bool :=
  cmpScaled 1 k x.m x.q == .gt

/-- The least `k` with `x < 10^k`, for `x` not zero: estimated from the binary logarithm and
corrected by exact comparisons. -/
def scale (x : Binary) : Int :=
  let e2 : Int := (Nat.log2 x.m : Int) + x.q
  let k0 : Int := (e2 * 30103).fdiv 100000 + 1
  (([k0 - 2, k0 - 1, k0, k0 + 1, k0 + 2].find? x.below).getD (k0 + 3))

/-- `⌊x / 10^g⌋`. -/
def floorOnGrid (x : Binary) (g : Int) : Nat :=
  (x.m * Nat.pow 2 x.q.toNat * Nat.pow 10 (-g).toNat) /
    (Nat.pow 2 (-x.q).toNat * Nat.pow 10 g.toNat)

/-- Whether `x` is nearer to `d * 10^g` than to `(d + 1) * 10^g`, or exactly between. -/
def cmpMid (x : Binary) (d : Nat) (g : Int) : Ordering :=
  -- twice x against (2d + 1) * 10^g
  cmpScaled (2 * d + 1) g (2 * x.m) x.q |>.swap

/-- The decimal chosen on the grid `10^g`, if one of the value's two neighbours on it reads
back: the nearer of two, the even one on a tie. -/
def onGrid (x : Binary) (g : Int) : Option Dec :=
  let d := x.floorOnGrid g
  let lo : Dec := ⟨d, g⟩
  let hi : Dec := ⟨d + 1, g⟩
  match x.readsBack lo, x.readsBack hi with
  | true, true =>
    match x.cmpMid d g with
    | .lt => some lo
    | .gt => some hi
    | .eq => if d % 2 == 0 then some lo else some hi
  | true, false => some lo
  | false, true => some hi
  | false, false => none

/-- Moves trailing zeros of the digits into the exponent. -/
def strip (d : Dec) : Dec :=
  if h : d.digits ≠ 0 ∧ d.digits % 10 = 0 then strip ⟨d.digits / 10, d.exp + 1⟩ else d
termination_by d.digits
decreasing_by exact Nat.div_lt_self (Nat.pos_of_ne_zero h.1) (by decide)

/-- The exact decimal value of `x`. -/
def exact (x : Binary) : Dec :=
  if 0 ≤ x.q then ⟨x.m * Nat.pow 2 x.q.toNat, 0⟩ else ⟨x.m * Nat.pow 5 (-x.q).toNat, x.q⟩

/-- The shortest decimal that reads back as `x`, for `x` not zero. -/
def shortest (x : Binary) : Dec :=
  let k := x.scale
  let found := (List.range 17).findSome? fun i => x.onGrid (k - (i + 1 : Nat))
  strip (found.getD x.exact)

end Binary

example : (Binary.ofBits (0.1 : Float).toBits).shortest = ⟨1, -1⟩ := by decide +kernel
example : (Binary.ofBits (1e23 : Float).toBits).shortest = ⟨1, 23⟩ := by decide +kernel

end CiteForm.Decimal
