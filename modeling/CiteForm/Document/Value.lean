import CiteForm.Decimal.Layout
import CiteForm.Decimal.Read
import CiteForm.Document.Calendar
import CiteForm.Document.Bytes
/-!
# Document values

The values a suite document is made of. A scalar is null, a boolean, an integer, a floating
point number, a string, a date, a moment or a byte string. A collection is a sequence, a
mapping (its entries in the order their keys first appeared), a set or a tuple.

A document is seen one level at a time: `Document.level` gives what a part holds at its top,
a scalar or a collection whose members are again parts. A tree of values is a document, and so
is a store of values that refer to each other by number, which may share parts and hold
cycles.

Keys are compared as numbers where they are numbers: `1`, `1.0` and `true` are one key, and so
are `0`, `0.0` and `false`. A NaN equals no float. Dates, moments and byte strings equal only
their own kind. Putting a key that is already present replaces the value and keeps the key
first written.

The text of a scalar is what names and values are written as. An integer has one only up to
`Decimal.digitLimit` digits; writing a longer one is a fault.

* `Scalar.kind`, `Level.kind` — the name of a value's kind, as messages give it.
* `Scalar.text` — the text of a scalar, or the fault of an integer too long to write.
* `Scalar.isEmpty`, `Level.isEmpty` — the values that count as absent.
* `Scalar.sameKey` — equality of keys.
* `Value`, `Value.put` — trees of values.
-/

namespace CiteForm

/-- An error that ends the work at once, by the name of its kind, with its message. -/
structure Fault where
  kind : String
  message : String
  deriving DecidableEq, Repr

/-- A scalar of a document. -/
inductive Scalar where
  | null
  | bool (b : Bool)
  | int (n : Int)
  | float (x : Float)
  | str (s : String)
  | date (d : Date)
  | moment (t : Moment)
  | bytes (bs : List Nat)

/-- What a part of a document holds at its top: a scalar, or a collection whose members are
parts of type `α`. -/
inductive Level (α : Type) where
  | scalar (s : Scalar)
  | seq (items : List α)
  | map (entries : List (α × α))
  | set (keys : List α)
  | tuple (items : List α)

/-- A document: anything whose parts can be looked into one level at a time. -/
class Document (α : Type) where
  level : α → Level α

namespace Scalar

/-- How floats in documents are written: positional from `0.0001` up to `10^16`, a whole
number keeps `.0`, and the exponent has a sign and at least two digits. -/
def floatLayout : Decimal.Layout where
  plainFrom := -4
  plainBelow := 16
  pointZero := true
  sciPointZero := false
  expMark := 'e'
  expPlus := true
  expWidth := 2
  signedZero := true
  nan := "nan"
  inf := "inf"

/-- The name of a scalar's kind. -/
def kind : Scalar → String
  | null => "NoneType"
  | bool _ => "bool"
  | int _ => "int"
  | float _ => "float"
  | str _ => "str"
  | date _ => "date"
  | moment _ => "datetime"
  | bytes _ => "bytes"

/-- The fault of writing an integer of more than `Decimal.digitLimit` digits. -/
def overlong : Fault :=
  ⟨"ValueError", "Exceeds the limit (" ++ toString Decimal.digitLimit ++
    " digits) for integer string conversion; use sys.set_int_max_str_digits() to increase " ++
    "the limit"⟩

/-- The text of a scalar: `None`, `True`, `False`, the digits of an integer, the shortest
decimal of a float, a string itself, a date or moment as the calendar writes it, a byte string
as `b'...'`. An integer of more digits than the limit has none. -/
def text : Scalar → Except Fault String
  | null => .ok "None"
  | bool b => .ok (if b then "True" else "False")
  | int n =>
    if n.natAbs ≥ Nat.pow 10 Decimal.digitLimit then .error overlong else .ok (toString n)
  | float x => .ok (floatLayout.render x)
  | str s => .ok s
  | date d => .ok d.text
  | moment t => .ok t.text
  | bytes bs => .ok (bytesText bs)

/-- Whether a scalar counts as absent: null, false, zero, and the empty string or byte
string. -/
def isEmpty : Scalar → Bool
  | null => true
  | bool b => !b
  | int n => n == 0
  | float x => x == 0
  | str s => s.isEmpty
  | bytes bs => bs.isEmpty
  | date _ | moment _ => false

/-- Whether the float `x` is exactly the integer `n`. -/
def floatIsInt (x : Float) (n : Int) : Bool :=
  if x.isNaN || x.isInf then false
  else
    let b := Decimal.Binary.ofBits x.toBits
    let neg := x.toBits >>> 63 == 1
    let mag : Option Nat :=
      if 0 ≤ b.q then some (b.m * Nat.pow 2 b.q.toNat)
      else if b.m % Nat.pow 2 (-b.q).toNat == 0 then some (b.m / Nat.pow 2 (-b.q).toNat) else none
    match mag with
    | some k => if k == 0 then n == 0 else n == (if neg then -(k : Int) else k)
    | none => false

/-- The integer a boolean counts as. -/
def boolInt (b : Bool) : Int := if b then 1 else 0

/-- Whether two scalars are the same key. -/
def sameKey : Scalar → Scalar → Bool
  | null, null => true
  | str a, str b => a == b
  | bool a, bool b => a == b
  | int a, int b => a == b
  | float x, float y => x == y
  | bool a, int n | int n, bool a => boolInt a == n
  | bool a, float x | float x, bool a => floatIsInt x (boolInt a)
  | int n, float x | float x, int n => floatIsInt x n
  | date a, date b => a == b
  | moment a, moment b => a.same b
  | bytes a, bytes b => a == b
  | _, _ => false

end Scalar

namespace Level

/-- The name of a value's kind. -/
def kind {α : Type} : Level α → String
  | scalar s => s.kind
  | seq _ => "list"
  | map _ => "dict"
  | set _ => "set"
  | tuple _ => "tuple"

/-- Whether a value counts as absent: an absent scalar, or an empty collection. -/
def isEmpty {α : Type} : Level α → Bool
  | scalar s => s.isEmpty
  | seq xs | set xs | tuple xs => xs.isEmpty
  | map es => es.isEmpty

/-- The same level with its members carried over by `f`. -/
def mapParts {α β : Type} (f : α → β) : Level α → Level β
  | scalar s => scalar s
  | seq xs => seq (xs.map f)
  | map es => map (es.map fun e => (f e.1, f e.2))
  | set xs => set (xs.map f)
  | tuple xs => tuple (xs.map f)

/-- Whether a value is the string `k`. -/
def isStr {α : Type} (k : String) : Level α → Bool
  | scalar (.str s) => s == k
  | _ => false

end Level

/-- A document value as a tree. -/
inductive Value where
  | scalar (s : Scalar)
  | seq (items : List Value)
  | map (entries : List (Value × Value))

namespace Value

/-- A tree shows its own top. -/
def level : Value → Level Value
  | scalar s => .scalar s
  | seq xs => .seq xs
  | map es => .map es

instance : Document Value := ⟨level⟩

/-- Whether two values are the same key: scalars by `Scalar.sameKey`; collections are never
keys. -/
def sameKey : Value → Value → Bool
  | scalar a, scalar b => a.sameKey b
  | _, _ => false

/-- Puts a value at a key: an entry with the same key keeps its key and place and takes the
new value; otherwise the entry goes last. -/
def put (es : List (Value × Value)) (k v : Value) : List (Value × Value) :=
  if es.any (fun e => sameKey e.1 k) then
    es.map fun e => if sameKey e.1 k then (e.1, v) else e
  else es ++ [(k, v)]

end Value

end CiteForm
