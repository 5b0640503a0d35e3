import CiteForm.Decimal.Shortest
/-!
# Laying out a decimal

How a selected decimal is written: positionally when the exponent of its leading digit lies
in a range, and otherwise in scientific form. A `Layout` holds the decisions of one output
format; `Layout.render` writes a floating point value with them, zero, the infinities and
NaN included.
-/

namespace CiteForm.Decimal

/-- The decisions of one written form of floating point values. -/
structure Layout where
  /-- The least exponent of the leading digit written positionally. -/
  plainFrom : Int
  /-- Exponents of the leading digit from here on are written in scientific form. -/
  plainBelow : Int
  /-- A whole number keeps a `.0`. -/
  pointZero : Bool
  /-- A one digit mantissa keeps a `.0` in scientific form. -/
  sciPointZero : Bool
  /-- The letter before the exponent. -/
  expMark : Char
  /-- A non-negative exponent is written with `+`. -/
  expPlus : Bool
  /-- The least number of exponent digits. -/
  expWidth : Nat
  /-- Negative zero keeps its sign. -/
  signedZero : Bool
  /-- The text of NaN. -/
  nan : String
  /-- The text of positive infinity. -/
  inf : String

/-- The decimal digits of a natural number. -/
def digitChars (n : Nat) : List Char :=
  Nat.toDigits 10 n

namespace Layout

/-- Writes a positive decimal whose digits have no trailing zero. -/
def place (l : Layout) (d : Dec) : List Char :=
  let ds := digitChars d.digits
  let n := ds.length
  let e : Int := d.exp + n - 1
  if l.plainFrom ≤ e ∧ e < l.plainBelow then
    if e < 0 then '0' :: '.' :: (List.replicate (-e - 1).toNat '0' ++ ds)
    else if n ≤ e.toNat + 1 then
      ds ++ List.replicate (e.toNat + 1 - n) '0' ++ (if l.pointZero then ['.', '0'] else [])
    else ds.take (e.toNat + 1) ++ '.' :: ds.drop (e.toNat + 1)
  else
    let mant := match ds with
      | c :: [] => c :: (if l.sciPointZero then ['.', '0'] else [])
      | c :: rest => c :: '.' :: rest
      | [] => []
    let ed := digitChars e.natAbs
    let sign := if e < 0 then ['-'] else if l.expPlus then ['+'] else []
    mant ++ l.expMark :: sign ++ List.replicate (l.expWidth - ed.length) '0' ++ ed

/-- Writes a floating point value: its sign, then the shortest decimal laid out, or the text
of zero, infinity or NaN. -/
def render (l : Layout) (x : Float) : String :=
  let b := x.toBits
  let neg := b >>> 63 == 1
  let sign := if neg then "-" else ""
  if x.isNaN then l.nan
  else if x.isInf then sign ++ l.inf
  else
    let v := Binary.ofBits b
    if v.m == 0 then
      (if neg && l.signedZero then "-" else "") ++ (if l.pointZero then "0.0" else "0")
    else sign ++ String.ofList (l.place v.shortest)

end Layout

end CiteForm.Decimal
