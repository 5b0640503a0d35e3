import CiteForm.Template.Format
import CiteForm.Document.Value
/-!
# Variants of a citation

To see how a template collapses when optional fields are missing, it is rendered once for
every non-empty subset of a selection of its arguments, with the arguments outside the
subset left out.

Subsets are listed in mask order: the subset for mask `m`, from `1` to `2^n - 1`, holds the
elements whose bit is set in `m`, in list order. A selection with more subsets than the
limit renders a single row that says so; that row writes the count and the limit in decimal,
which fails for a number of more than `Decimal.digitLimit` digits.

* `subsets`, `subsetCount` — the subsets of a list and how many there are.
* `variants` — the rows of a selection.
-/

namespace CiteForm

/-- The elements of `xs` whose position is a set bit of `mask`, in list order. -/
def pick {α : Type} (xs : List α) (mask : Nat) : List α :=
  (xs.zipIdx.filter fun (_, b) => mask.testBit b).map Prod.fst

/-- The non-empty subsets of a list's positions, in mask order. -/
def subsets {α : Type} (xs : List α) : List (List α) :=
  (List.range (Nat.pow 2 xs.length - 1)).map fun m => pick xs (m + 1)

/-- How many rows a selection of `n` arguments renders. -/
def subsetCount (n : Nat) : Nat :=
  Nat.pow 2 n - 1

/-- One rendered variant: which arguments it kept, the values it passed, and the text. -/
structure Row where
  label : String
  inputs : List (Option String)
  output : String
  deriving DecidableEq, Repr

/-- What the variants of a template are asked for. `selected` names the arguments to vary,
all of them when absent; `limit` bounds the number of rows. -/
structure VariantRequest where
  template : String
  labels : List String
  values : List (Option String)
  nullMask : List Bool := []
  selected : Option (List Int) := none
  limit : Int

namespace VariantRequest

/-- The label of the row that stands for a selection over the limit. -/
def tooManyLabel : String := "—"

/-- The arguments to vary: the selection's entries that name an argument, in order, with
repeats kept. -/
def selection (r : VariantRequest) : List Nat :=
  match r.selected with
  | none => List.range r.labels.length
  | some idx => idx.filterMap fun (i : Int) =>
    if 0 ≤ i ∧ i < r.labels.length then some i.toNat else none

/-- The value argument `i` takes when it is kept: none where the mask says null, else its
value, else the empty text. -/
def valueAt (r : VariantRequest) (i : Nat) : Option String :=
  if r.nullMask.getD i false then none else (r.values[i]?).getD (some "")

/-- The row for one subset of the selection, in a run whose surrogates `keep` keeps. -/
def row (keep : Text.Keep) (r : VariantRequest) (subset : List Nat) : Row :=
  let inputs := (List.range r.labels.length).map fun i =>
    if subset.contains i then r.valueAt i else none
  { label := ", ".intercalate (subset.map fun i => r.labels.getD i "")
    inputs := inputs
    output := Template.formatSafe keep r.template inputs }

/-- The rows: none for an empty selection, one note when the subsets outnumber the limit,
else one row per subset in mask order. The note fails when the count or the limit has too
many digits to be written. -/
def rows (keep : Text.Keep) (r : VariantRequest) : Except Fault (List Row) := do
  let sel := r.selection
  let total := subsetCount sel.length
  if sel.isEmpty then return []
  else if r.limit < total then
    let totalText ← (Scalar.int total).text
    let limitText ← (Scalar.int r.limit).text
    return [{ label := tooManyLabel, inputs := []
              output := "Too many combinations selected (" ++ totalText ++
                "). Reduce selection to ≤ " ++ limitText ++ "." }]
  else return (subsets sel).map (r.row keep)

end VariantRequest

example : subsets [0, 1, 2] = [[0], [1], [0, 1], [2], [0, 2], [1, 2], [0, 1, 2]] := by decide

end CiteForm
