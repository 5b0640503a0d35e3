import CiteForm.Yaml.Node
import CiteForm.Document.Value
import CiteForm.Text.Lower
/-!
# The values of YAML scalars

A scalar node stands for a value by its tag: `null`, `bool`, `int`, `float`, `str`,
`timestamp` (a date or a moment) and `binary` (a byte string, from base64).

* A boolean is `yes`, `true`, `on`, `no`, `false` or `off`, in any case.
* An integer is read as written, with underscores dropped and an optional sign: `0` alone, `0b`
  and binary digits, `0x` and hexadecimal digits, a leading `0` and octal digits, numbers
  joined by `:` in base 60, or decimal digits. Each part is read as an integer numeral is.
* A float is read the same way in lower case, with `.inf` and `.nan` and numbers joined by
  `:`; every `.nan` is the same value, and more than 174 joined numbers are too many to weigh.
* A timestamp is a date `YYYY-M-D`, optionally followed (after `T` or blanks) by a time
  `H:MM:SS`, a fraction of a second and an offset `Z` or `±H[:MM]`.

A scalar that does not spell a value of its tag fails with the error that names why.

* `scalarValue` — the value of a scalar of a standard tag.
* `isSharedNaN` — whether a float scalar spells the one shared NaN.
-/

namespace CiteForm.Yaml

/-- A fault of a scalar's value. -/
def valueFault (kind message : String) : LoadError := .fault ⟨kind, message⟩

/-- How many characters of a text's quoted form the message of a bad integer numeral
shows. -/
def quotedLimit : Nat := 200

/-- The fault of a text that is no integer numeral in `base`; the message shows the text
quoted with the keep of its run, cut after `quotedLimit` characters. -/
def badIntFault (keep : Text.Keep) (base : Nat) (text : String) : LoadError :=
  valueFault "ValueError" ("invalid literal for int() with base " ++ toString base ++ ": " ++
    String.ofList ((keep.quote text).toList.take quotedLimit))

/-- Reads an integer numeral in `base`. -/
def readIntFault (keep : Text.Keep) (base : Nat) (text : String) : Except LoadError Int :=
  match Decimal.readIntIn base text.toList with
  | .ok n => pure n
  | .error .invalid => throw (badIntFault keep base text)
  | .error (.overlong d) => throw (valueFault "ValueError" (Decimal.overlongMessage d))

/-- The fault of indexing an empty text. -/
def emptyIndexFault : LoadError := valueFault "IndexError" "string index out of range"

/-- A scalar's text without its underscores, and its sign taken off: the sign, and the rest. -/
def signed (value : String) : Except LoadError (Int × List Char) := do
  let cs := value.toList.filter (· != '_')
  match cs with
  | [] => throw emptyIndexFault
  | '-' :: rest => pure (-1, rest)
  | '+' :: rest => pure (1, rest)
  | _ => pure (1, cs)

/-- The integer a scalar of tag `int` spells. -/
def intValue (keep : Text.Keep) (value : String) : Except LoadError Int := do
  let (sign, cs) ← signed value
  let v := String.ofList cs
  match cs with
  | [] => throw emptyIndexFault
  | ['0'] => return 0
  | '0' :: 'b' :: r => return sign * (← readIntFault keep 2 (String.ofList r))
  | '0' :: 'x' :: r => return sign * (← readIntFault keep 16 (String.ofList r))
  | '0' :: _ => return sign * (← readIntFault keep 8 v)
  | _ =>
    if cs.contains ':' then
      let parts ← (v.splitOn ":").mapM (readIntFault keep 10)
      return sign * parts.foldl (fun total p => total * 60 + p) 0
    else return sign * (← readIntFault keep 10 v)

/-- A float scalar's text as it is weighed: without underscores, in lower case. -/
def floatWord (value : String) : String :=
  Text.lower (String.ofList (value.toList.filter (· != '_')))

/-- Whether a float scalar spells `.nan`, which is one value wherever it is written. -/
def isSharedNaN (value : String) : Bool :=
  match (floatWord value).toList with
  | '-' :: rest | '+' :: rest => String.ofList rest == ".nan"
  | cs => String.ofList cs == ".nan"

/-- How many numbers joined by `:` a float may have: one more and the weight of the first
overflows. -/
def sexagesimalLimit : Nat := 174

/-- The float a scalar of tag `float` spells. -/
def floatValue (keep : Text.Keep) (value : String) : Except LoadError Float := do
  let word := floatWord value
  let cs := word.toList
  let first ← match cs.head? with
    | some c => pure c
    | none => throw emptyIndexFault
  let neg := first == '-'
  let cs := if first == '-' || first == '+' then cs.drop 1 else cs
  let v := String.ofList cs
  let read (t : String) : Except LoadError Float :=
    match Decimal.readFloat? t.toList with
    | some x => pure x
    | none =>
      throw (valueFault "ValueError" ("could not convert string to float: " ++ keep.quote t))
  let signed (x : Float) : Float := if neg then -1.0 * x else 1.0 * x
  if v == ".inf" then return signed (Float.ofScientific 1 false 400)
  if v == ".nan" then return (0.0 / 0.0)
  if cs.contains ':' then
    let parts ← (v.splitOn ":").mapM read
    if parts.length > sexagesimalLimit then
      throw (valueFault "OverflowError" "int too large to convert to float")
    let (total, _) := parts.reverse.foldl (fun (acc : Float × Nat) d =>
      (acc.1 + d * Float.ofNat acc.2, acc.2 * 60)) (0.0, 1)
    return signed total
  return signed (← read v)

/-- The boolean a scalar of tag `bool` spells; a word it does not know is a missing key. -/
def boolValue (value : String) : Except LoadError Bool :=
  match Text.lower value with
  | "yes" | "true" | "on" => pure true
  | "no" | "false" | "off" => pure false
  | k => throw (valueFault "KeyError" k)

/-! ### Timestamps -/

/-- The offset of a timestamp: UTC, or a sign with hours and minutes. -/
inductive Zone where
  | utc
  | offset (negative : Bool) (hours minutes : Nat)

/-- The time of day a timestamp is written with: hour, minute, second, the digits of a
fraction if it has a point, and its offset. -/
structure Clock where
  hour : Nat
  minute : Nat
  second : Nat
  fraction : Option (List Char)
  zone : Option Zone

/-- The fields a timestamp is written with. -/
structure Stamp where
  year : Nat
  month : Nat
  day : Nat
  clock : Option Clock

/-- The value of an ASCII digit. -/
def asciiDigit? (c : Char) : Option Nat :=
  if '0' ≤ c && c ≤ '9' then some (c.toNat - 48) else none

/-- Exactly `n` digits at the head of a text: their value and the rest. -/
def fixedDigits : Nat → List Char → Option (Nat × List Char)
  | 0, cs => some (0, cs)
  | n + 1, c :: rest => do
    let d ← asciiDigit? c
    let (v, r) ← fixedDigits n rest
    pure (d * Nat.pow 10 n + v, r)
  | _ + 1, [] => none

/-- One or two digits at the head of a text: the ways to read them, two first. -/
def shortDigits (cs : List Char) : List (Nat × List Char) :=
  (fixedDigits 2 cs).toList ++ (fixedDigits 1 cs).toList

/-- The offset at the end of a timestamp, after optional blanks: `Z`, or a sign and one or two
digits of hours with optional `:` and two digits of minutes. -/
def zoneOf? (cs : List Char) : Option Zone :=
  match cs.dropWhile (fun c => c == ' ' || c == '\t') with
  | ['Z'] => some .utc
  | s :: rest =>
    if s == '+' || s == '-' then
      (shortDigits rest).findSome? fun (h, r) =>
        match r with
        | [] => some (.offset (s == '-') h 0)
        | ':' :: more =>
          match fixedDigits 2 more with
          | some (m, []) => some (.offset (s == '-') h m)
          | _ => none
        | _ => none
    else none
  | [] => none

/-- The time at the end of a timestamp, after its separator: `H:MM:SS`, an optional fraction,
and an optional offset. -/
def clockOf? (cs : List Char) : Option Clock :=
  (shortDigits cs).findSome? fun (h, r) => do
    let r ← match r with
      | ':' :: more => some more
      | _ => none
    let (mi, r) ← fixedDigits 2 r
    let r ← match r with
      | ':' :: more => some more
      | _ => none
    let (sec, r) ← fixedDigits 2 r
    let (fraction, r) := match r with
      | '.' :: more => (some (more.takeWhile fun c => (asciiDigit? c).isSome),
          more.dropWhile fun c => (asciiDigit? c).isSome)
      | _ => (none, r)
    match r with
    | [] => some ⟨h, mi, sec, fraction, none⟩
    | _ => (zoneOf? r).map fun z => ⟨h, mi, sec, fraction, some z⟩

/-- What may follow the day of a timestamp: nothing, or a separator (`T`, `t` or blanks) and a
time. -/
def afterDay? (cs : List Char) : Option (Option Clock) :=
  match cs with
  | [] => some none
  | c :: rest =>
    if c == 'T' || c == 't' then (clockOf? rest).map some
    else if c == ' ' || c == '\t' then
      (clockOf? (rest.dropWhile fun c => c == ' ' || c == '\t')).map some
    else none

/-- The fields of a timestamp, if its text (less one final line feed) is one. -/
def stampOf? (value : String) : Option Stamp := do
  let cs := (matchedBody value).toList
  let (y, r) ← fixedDigits 4 cs
  let r ← match r with
    | '-' :: more => some more
    | _ => none
  (shortDigits r).findSome? fun (m, r) => do
    let r ← match r with
      | '-' :: more => some more
      | _ => none
    (shortDigits r).findSome? fun (d, r) =>
      (afterDay? r).map fun clock => ⟨y, m, d, clock⟩

/-- The microseconds of a fraction: its first six digits, padded with zeros. -/
def microseconds (fraction : List Char) : Nat :=
  let six := fraction.take 6
  (six ++ List.replicate (6 - six.length) '0').foldl
    (fun n c => n * 10 + (asciiDigit? c).getD 0) 0

/-- The offset of a zone in seconds. -/
def Zone.seconds : Zone → Int
  | .utc => 0
  | .offset negative h m =>
    let s : Int := h * 3600 + m * 60
    if negative then -s else s

/-- The date or moment a scalar of tag `timestamp` spells. -/
def timestampValue (value : String) : Except LoadError Scalar :=
  let calendar {α : Type} (r : Except CalendarError α) : Except LoadError α :=
    r.mapError fun e => valueFault "ValueError" e.message
  match stampOf? value with
  | none => throw (valueFault "AttributeError" "'NoneType' object has no attribute 'groupdict'")
  | some st =>
    match st.clock with
    | none => Scalar.date <$> calendar (Date.make st.year st.month st.day)
    | some c =>
      Scalar.moment <$> calendar (Moment.make st.year st.month st.day c.hour c.minute c.second
        (microseconds (c.fraction.getD [])) (c.zone.map Zone.seconds))

/-- The byte string a scalar of tag `binary` spells in base64. -/
def binaryValue (keep : Text.Keep) (value : String) (start : Mark) : Except LoadError Scalar := do
  let bs ← match asciiBytes keep value.toList with
    | .ok bs => pure bs
    | .error m => throw (.at_ ("failed to convert base64 data into ascii: " ++ m) start)
  match decodeBase64 bs with
  | .ok out => pure (.bytes out)
  | .error e => throw (.at_ ("failed to decode base64 data: " ++ e.message) start)

/-- The value of a scalar node of a standard tag, with its text and start, in a run whose
surrogates `keep` keeps. -/
def scalarValue (keep : Text.Keep) (tag value : String) (start : Mark) :
    Except LoadError Scalar :=
  if tag == stdTag "null" then pure .null
  else if tag == stdTag "bool" then .bool <$> boolValue value
  else if tag == stdTag "int" then .int <$> intValue keep value
  else if tag == stdTag "float" then .float <$> floatValue keep value
  else if tag == stdTag "timestamp" then timestampValue value
  else if tag == stdTag "binary" then binaryValue keep value start
  else pure (.str value)

example : (intValue .empty "0x_1F").toOption = some 31 ∧
    (intValue .empty "-0b101").toOption = some (-5) := by
  decide +kernel

example : (stampOf? "2024-5-1 1:02:03 -5:30").isSome ∧ (stampOf? "2024-05-01T10:00").isNone := by
  decide +kernel

end CiteForm.Yaml
