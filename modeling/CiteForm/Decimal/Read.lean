import CiteForm.Text.Blank
import CiteForm.Text.Digits
/-!
# Reading numerals

The numbers a data file or a command line may hold. A numeral is first brought to ASCII: a
Unicode decimal digit becomes the ASCII digit of its value, a blank beyond ASCII a space, and
any other character beyond ASCII ends the numeral with a character no numeral holds. Blanks
around it are then ignored: the ASCII space, tab, line feed, vertical tab, form feed and
carriage return (the ASCII information separators are not blanks here).

A decimal is an optional sign, digits with an optional point and fraction, and an optional
exponent; or `inf`, `infinity` or `nan` in any case. Its value is the float nearest to it, an
exact tie going to the even float.

An integer is an optional sign and digits in a base up to 36; in base 2, 8 and 16 the digits may
follow the base's prefix `0b`, `0o` or `0x`. A decimal integer may have at most `digitLimit`
digits, more being refused before the rest is looked at.

In both, single underscores may stand between digits.

* `readFloat?` — the float a text spells, if it spells one.
* `readIntIn` — the integer a text spells in a base, or why it spells none.
* `readInteger?` — the decimal integer a text spells, if it spells one.
-/

namespace CiteForm.Decimal

/-- A numeral brought to ASCII: decimal digits beyond ASCII become ASCII digits, blanks beyond
ASCII become spaces, and the first other character beyond ASCII ends it as `?`. -/
def asciiForm : List Char → List Char
  | [] => []
  | c :: rest =>
    if c.toNat < 0x7F then c :: asciiForm rest
    else if Text.isBlank c then ' ' :: asciiForm rest
    else
      match Text.digitValue? c with
      | some d => Char.ofNat (48 + d) :: asciiForm rest
      | none => ['?']

/-- The blanks around an ASCII numeral. -/
def isAsciiBlank (c : Char) : Bool :=
  c == ' ' || ('\t' ≤ c && c ≤ '\r')

/-- An ASCII numeral without the blanks at its ends. -/
def trimAscii (cs : List Char) : List Char :=
  ((cs.dropWhile isAsciiBlank).reverse.dropWhile isAsciiBlank).reverse

/-- The digits at the head of a text, where single underscores may stand between two
digits; with the rest of the text. -/
def takeDigits : List Char → List Char × List Char
  | c :: '_' :: d :: more =>
    if Text.isDecimalDigit c && Text.isDecimalDigit d then
      let (ds, r) := takeDigits (d :: more)
      (c :: ds, r)
    else if Text.isDecimalDigit c then ([c], '_' :: d :: more)
    else ([], c :: '_' :: d :: more)
  | c :: rest =>
    if Text.isDecimalDigit c then
      let (ds, r) := takeDigits rest
      (c :: ds, r)
    else ([], c :: rest)
  | [] => ([], [])

/-- The value of a string of decimal digits. -/
def digitsValue (ds : List Char) : Nat :=
  ds.foldl (fun n c => 10 * n + (Text.digitValue? c).getD 0) 0

/-- The float nearest to `m * 10^e`. Exponents far beyond the range of floats give infinity
or zero at once. -/
def nearest (m : Nat) (e : Int) : Float :=
  let size : Int := (Nat.toDigits 10 m).length + e
  if m == 0 then 0
  else if size > 400 then Float.ofScientific 1 false 400
  else if size < -400 then 0
  else Float.ofScientific m (e < 0) e.natAbs

/-- The value of an unsigned decimal: digits, an optional point and fraction, an optional
exponent; at least one digit before or after the point. -/
def readUnsigned? (cs : List Char) : Option Float :=
  let (whole, r) := takeDigits cs
  let (frac, r) := match r with
    | '.' :: more => takeDigits more
    | _ => ([], r)
  let dotted := match cs.drop whole.length with
    | '.' :: _ => true
    | _ => false
  if whole.isEmpty && frac.isEmpty then none
  else if !dotted && !frac.isEmpty then none
  else
    let exp? : Option Int := match r with
      | [] => some 0
      | c :: more =>
        if c == 'e' || c == 'E' then
          let (neg, ds) := match more with
            | '-' :: ds => (true, ds)
            | '+' :: ds => (false, ds)
            | ds => (false, ds)
          let (dig, rest) := takeDigits ds
          if dig.isEmpty || !rest.isEmpty then none
          else some (if neg then -(digitsValue dig : Int) else digitsValue dig)
        else none
    (exp?).map fun e => nearest (digitsValue (whole ++ frac)) (e - frac.length)

/-- The float a text spells, if it spells one. -/
def readFloat? (text : List Char) : Option Float :=
  let cs := trimAscii (asciiForm text)
  let (neg, body) := match cs with
    | '-' :: r => (true, r)
    | '+' :: r => (false, r)
    | r => (false, r)
  let lower := String.ofList (body.map Char.toLower)
  let mag : Option Float :=
    if lower == "inf" || lower == "infinity" then some (Float.ofScientific 1 false 400)
    else if lower == "nan" then some (0.0 / 0.0)
    else readUnsigned? body
  mag.map fun x => if neg then -x else x

/-- The most digits a decimal integer may be read from or written with. -/
def digitLimit : Nat := 4300

/-- Why a text spells no integer. -/
inductive NumeralError where
  /-- It is no numeral of the base. -/
  | invalid
  /-- It is a decimal numeral of more than `digitLimit` digits, `digits` of them. -/
  | overlong (digits : Nat)
  deriving DecidableEq, Repr

/-- The value of an ASCII digit or letter as a digit of any base up to 36. -/
def digitOf? (c : Char) : Option Nat :=
  if '0' ≤ c && c ≤ '9' then some (c.toNat - 48)
  else if 'a' ≤ c && c ≤ 'z' then some (c.toNat - 87)
  else if 'A' ≤ c && c ≤ 'Z' then some (c.toNat - 55)
  else none

/-- The digits of `base` at the head of an ASCII numeral, where single underscores may stand
between two digits, with the rest of the numeral; none when two underscores meet or one ends
the run. -/
def digitRun (base : Nat) : List Char → Option (List Nat × List Char)
  | [] => some ([], [])
  | '_' :: rest =>
    match rest with
    | c :: more =>
      match digitOf? c with
      | some d =>
        if d < base then (digitRun base more).map fun (ds, r) => (d :: ds, r) else none
      | none => none
    | [] => none
  | c :: rest =>
    match digitOf? c with
    | some d => if d < base then (digitRun base rest).map fun (ds, r) => (d :: ds, r)
      else some ([], c :: rest)
    | none => some ([], c :: rest)

/-- The prefix letter of a base that has one. -/
def prefixLetter (base : Nat) : Option Char :=
  if base == 2 then some 'b' else if base == 8 then some 'o' else if base == 16 then some 'x'
  else none

/-- The integer a text spells in `base`, from 2 to 36: blanks, an optional sign, the base's
prefix with one optional underscore after it, and digits. -/
def readIntIn (base : Nat) (text : List Char) : Except NumeralError Int :=
  let cs := (asciiForm text).dropWhile isAsciiBlank
  let (neg, body) := match cs with
    | '-' :: r => (true, r)
    | '+' :: r => (false, r)
    | r => (false, r)
  let body := match prefixLetter base, body with
    | some p, '0' :: m :: r => if m.toLower == p then (match r with
      | '_' :: more => more
      | _ => r) else body
    | _, _ => body
  match body with
  | '_' :: _ => .error .invalid
  | _ =>
    match digitRun base body with
    | none => .error .invalid
    | some (ds, rest) =>
      if base == 10 && ds.length > digitLimit then .error (.overlong ds.length)
      else if ds.isEmpty || !(rest.all isAsciiBlank) then .error .invalid
      else
        let v := ds.foldl (fun n d => n * base + d) 0
        .ok (if neg then -(v : Int) else v)

/-- The message of a decimal numeral longer than the limit. -/
def overlongMessage (digits : Nat) : String :=
  "Exceeds the limit (" ++ toString digitLimit ++ " digits) for integer string conversion: " ++
    "value has " ++ toString digits ++ " digits; use sys.set_int_max_str_digits() to increase " ++
    "the limit"

/-- The decimal integer a text spells, if it spells one. -/
def readInteger? (text : List Char) : Option Int :=
  (readIntIn 10 text).toOption

example : readInteger? " -1_024 ".toList = some (-1024) := by decide
example : readInteger? "1__0".toList = none := by decide
example : readInteger? "١٢".toList = some 12 := by decide

example : (readIntIn 16 "0x_1F".toList).toOption = some 31 := by decide

example : (readIntIn 10 "0 5".toList).toOption = none := by decide

end CiteForm.Decimal
