import CiteForm.Suite.Values
import CiteForm.CommandLine.Parse
/-!
# Field values from the command line

A command's field values come from a values file first, then from each `--value` in order;
last, every `--null` index makes the field there null, padding with empty texts when it lies
past the end. The indices may come in any order and repeat: the result depends only on which
indices are named. A negative index is refused, and so is one whose padding cannot be
allocated: a count of `2^63` items or more does not fit a machine index, and storage for
`2^60` items or more is larger than can be asked for.

An option written `--value=--` holds an empty list instead of a text (see `Held`); such a
field is carried along as it is, and an index held empty cannot be compared with zero.

* `Slot` — a field as gathered.
* `nullAt` — one field made null.
* `paddingFault?` — why a padding of some size cannot be allocated, if it cannot.
* `markNulls` — the fields at a list of indices made null, or the first index refused.
* `gatherFields` — the whole of it.
-/

namespace CiteForm.Tool

open CommandLine

/-- A field as a command gathers it: a value (a text or null), or an empty hold. -/
abbrev Slot := Held (Option String)

/-- The fields with the one at `i` made null; empty texts fill any gap before it. -/
def nullAt (vals : List Slot) (i : Nat) : List Slot :=
  (vals ++ List.replicate (i + 1 - vals.length) (Held.value (some ""))).set i (.value none)

/-- Why field values cannot be gathered. -/
inductive FieldError where
  /-- The values file cannot be used. -/
  | file (e : ValuesError)
  /-- A `--null` index is negative. -/
  | negativeIndex (i : Int)
  /-- A `--null` index is held empty, and cannot be compared with zero. -/
  | emptyIndex
  /-- A `--null` index asks for a padding whose size does not fit a machine index. -/
  | paddingOverflow
  /-- A `--null` index asks for a padding whose storage is larger than can be asked for. -/
  | paddingOutOfMemory
  deriving DecidableEq, Repr

/-- Why `k` empty texts cannot be padded on, if they cannot: `k` must fit a signed 64-bit
index, and the `8 k` bytes that hold them must stay within the largest size that index
allows. -/
def paddingFault? (k : Nat) : Option FieldError :=
  if Nat.pow 2 63 ≤ k then some .paddingOverflow
  else if Nat.pow 2 60 ≤ k then some .paddingOutOfMemory
  else none

/-- The fields with those at the given indices made null, in order; the first index that is
negative, held empty or in need of a padding that cannot be allocated is an error. -/
def markNulls (vals : List Slot) : List (Held Int) → Except FieldError (List Slot)
  | [] => .ok vals
  | .empty :: _ => .error .emptyIndex
  | .value n :: ns =>
    if n < 0 then .error (.negativeIndex n)
    else match paddingFault? (n.toNat + 1 - vals.length) with
      | some e => .error e
      | none => markNulls (nullAt vals n.toNat) ns

/-- The kind of failure a field error is reported as. -/
def FieldError.kind : FieldError → String
  | .file e => e.kind
  | .negativeIndex _ => "ValueError"
  | .emptyIndex => "TypeError"
  | .paddingOverflow => "OverflowError"
  | .paddingOutOfMemory => "MemoryError"

/-- The message of a field error. -/
def FieldError.message : FieldError → String
  | .file e => e.message
  | .negativeIndex i => "Invalid --null index: " ++ toString i
  | .emptyIndex => "'<' not supported between instances of 'list' and 'int'"
  | .paddingOverflow => "cannot fit 'int' into an index-sized integer"
  | .paddingOutOfMemory => ""

/-- The field values: those of the values file, if one is named, then the given texts, then
the named fields made null. -/
def gatherFields (file : Option (Except ValuesError (List (Option String))))
    (given : List (Held String)) (nulls : List (Held Int)) : Except FieldError (List Slot) := do
  let fromFile ← match file with
    | none => pure []
    | some (.ok vs) => pure vs
    | some (.error e) => throw (FieldError.file e)
  let given : List Slot := given.map fun
    | .value s => .value (some s)
    | .empty => .empty
  markNulls (fromFile.map .value ++ given) nulls

example : (markNulls [.value (some "a")] [.value 3, .value 1]).toOption =
    some [.value (some "a"), .value none, .value (some ""), .value none] := by
  decide
example : (markNulls [.value (some "a")] [.value 0, .value (-2)]).toOption = none := by decide
example : markNulls [] [.value (Nat.pow 2 60 - 1)] = .error .paddingOutOfMemory := by rfl

end CiteForm.Tool
