import CiteForm.Variants
/-!
# The rows of a selection

The variants of a template are rendered for every non-empty subset of the arguments selected.
Here the rows are said without the lists of numbered pairs the subsets are read from:

* the arguments varied are the selection's entries that name an argument, in order and with
  repeats, all arguments when there is no selection (`selection_eq`);
* the subset for a mask is the arguments at the mask's set bits, in order (`pick_eq`);
* with nothing selected there are no rows; with more subsets than the limit there is one row
  that gives their number and the limit in decimal, unless one of the two has more digits than
  can be written, which is a fault; and otherwise there is one row for each mask from `1` to
  `2^k - 1`, in order, keeping exactly the arguments of its subset (`rows_contract`).

The number of subsets is compared with the limit as it is, however many arguments are selected
(a selection may repeat an argument any number of times); only writing it down can fail.
-/

namespace CiteForm

/-! ### Integers written as text -/

theorem Scalar.text_int_of_lt {n : Int} (h : n.natAbs < Nat.pow 10 Decimal.digitLimit) :
    (Scalar.int n).text = .ok (toString n) := by
  simp only [Scalar.text]
  rw [if_neg (Nat.not_le.mpr h)]

theorem Scalar.text_int_of_le {n : Int} (h : Nat.pow 10 Decimal.digitLimit ≤ n.natAbs) :
    (Scalar.int n).text = .error Scalar.overlong := by
  simp only [Scalar.text]
  rw [if_pos h]

/-- The fault of writing an integer of too many digits, as its message reads. -/
theorem Scalar.overlong_eq :
    Scalar.overlong = ⟨"ValueError", "Exceeds the limit (4300 digits) for integer string " ++
      "conversion; use sys.set_int_max_str_digits() to increase the limit"⟩ := by
  decide +kernel

/-! ### Subsets by mask -/

section Subsets

variable {α : Type}

/-- Bit `0` of the mask picks the head; the rest of the mask picks from the tail. -/
theorem pick_cons (x : α) (xs : List α) (mask : Nat) :
    pick (x :: xs) mask = (if mask.testBit 0 then [x] else []) ++ pick xs (mask / 2) := by
  simp only [pick, List.zipIdx_cons, List.zipIdx_succ, List.filter_cons, List.filter_map,
    Function.comp_def, Nat.testBit_add_one]
  split <;> simp [List.map_map, Function.comp_def]

/-- A mask picks the elements at its set bits, in order. -/
theorem pick_eq (xs : List α) (mask : Nat) (d : α) :
    pick xs mask = ((List.range xs.length).filter fun b => mask.testBit b).map (xs.getD · d) := by
  induction xs generalizing mask with
  | nil => simp [pick]
  | cons x xs ih =>
    -- the positions after the head are the tail's, one further on
    rw [pick_cons, ih, List.length_cons, List.range_succ_eq_map, List.filter_cons,
      List.filter_map]
    split <;> simp [List.map_map, Function.comp_def, Nat.testBit_add_one]

theorem length_subsets (xs : List α) : (subsets xs).length = Nat.pow 2 xs.length - 1 := by
  simp [subsets]

theorem getElem_subsets (xs : List α) (m : Nat) (hm : m < (subsets xs).length) :
    (subsets xs)[m] = pick xs (m + 1) := by
  simp [subsets]

end Subsets

/-! ### The rows -/

namespace VariantRequest

variable (keep : Text.Keep) (r : VariantRequest)

/-- The arguments varied: the entries of the selection, or of all argument numbers when there
is none, that name an argument, in order and with repeats. -/
theorem selection_eq :
    r.selection = ((r.selected.getD ((List.range r.labels.length).map Int.ofNat)).filter
      fun i : Int => 0 ≤ i ∧ i < r.labels.length).map Int.toNat := by
  unfold selection
  cases r.selected with
  | none =>
    -- every argument number names an argument
    have hall : ((List.range r.labels.length).map Int.ofNat).filter
        (fun i : Int => 0 ≤ i ∧ i < r.labels.length) =
          (List.range r.labels.length).map Int.ofNat := by
      rw [List.filter_eq_self]
      intro i hi
      obtain ⟨j, hj, rfl⟩ := List.mem_map.mp hi
      simpa using List.mem_range.mp hj
    have hid : (Int.toNat ∘ Int.ofNat) = id := funext fun _ => rfl
    rw [Option.getD_none, hall, List.map_map, hid, List.map_id]
  | some idx =>
    simp only [Option.getD_some]
    induction idx with
    | nil => rfl
    | cons i idx ih =>
      by_cases h : 0 ≤ i ∧ i < r.labels.length <;> simp [h, ih]

theorem rows_of_nil (h : r.selection = []) : r.rows keep = .ok [] := by
  simp only [rows, h, List.isEmpty_nil, ↓reduceIte]
  rfl

/-- Over the limit, the one row is written when both numbers have few enough digits. -/
theorem rows_over_limit (h : r.selection ≠ []) (hl : r.limit < subsetCount r.selection.length)
    (htotal : subsetCount r.selection.length < Nat.pow 10 Decimal.digitLimit)
    (hlimit : r.limit.natAbs < Nat.pow 10 Decimal.digitLimit) :
    r.rows keep =
      .ok [⟨tooManyLabel, [], "Too many combinations selected (" ++
        toString (subsetCount r.selection.length) ++ "). Reduce selection to ≤ " ++
        toString r.limit ++ "."⟩] := by
  have htext := Scalar.text_int_of_lt (n := subsetCount r.selection.length) (by simpa using htotal)
  simp only [rows, List.isEmpty_iff, h, ↓reduceIte, hl, htext, Scalar.text_int_of_lt hlimit]
  rfl

/-- Over the limit, writing a number of too many digits is a fault. -/
theorem rows_overlong (h : r.selection ≠ []) (hl : r.limit < subsetCount r.selection.length)
    (hlong : Nat.pow 10 Decimal.digitLimit ≤ subsetCount r.selection.length ∨
      Nat.pow 10 Decimal.digitLimit ≤ r.limit.natAbs) :
    r.rows keep = .error Scalar.overlong := by
  rcases Nat.lt_or_ge (subsetCount r.selection.length) (Nat.pow 10 Decimal.digitLimit)
    with htotal | htotal
  · -- the count can be written, so it is the limit that cannot
    have hlimit : Nat.pow 10 Decimal.digitLimit ≤ r.limit.natAbs := hlong.resolve_left (by omega)
    have htext := Scalar.text_int_of_lt (n := subsetCount r.selection.length) (by simpa using htotal)
    simp only [rows, List.isEmpty_iff, h, ↓reduceIte, hl, htext, Scalar.text_int_of_le hlimit]
    rfl
  · have htext := Scalar.text_int_of_le (n := subsetCount r.selection.length) (by simpa using htotal)
    simp only [rows, List.isEmpty_iff, h, ↓reduceIte, hl, htext]
    rfl

/-- Within the limit, one row for each subset in mask order. -/
theorem rows_within_limit (hl : (subsetCount r.selection.length : Int) ≤ r.limit) :
    r.rows keep = .ok ((subsets r.selection).map (r.row keep)) := by
  by_cases h : r.selection = []
  · simp only [rows, h, List.isEmpty_nil, ↓reduceIte, subsets, List.length_nil,
      Nat.sub_self, List.range_zero, List.map_nil]
    rfl
  · simp only [rows, List.isEmpty_iff, h, ↓reduceIte, Int.not_lt.mpr hl]
    rfl

/-- The row for a subset, with what an argument of the subset passes spelled out. -/
theorem row_eq (subset : List Nat) :
    r.row keep subset =
      let inputs := (List.range r.labels.length).map fun i =>
        if i ∈ subset then
          (if r.nullMask.getD i false then none else (r.values[i]?).getD (some ""))
        else none
      ⟨", ".intercalate (subset.map (r.labels.getD · "")), inputs,
        Template.formatSafe keep r.template inputs⟩ := by
  simp [row, valueAt]

/-- The rows of a selection. Let `sel` be the arguments varied (the selection's entries that
name an argument, in order and with repeats, or all arguments), `k` their number and
`total = 2^k - 1`. With `k = 0` there are no rows. When `total` exceeds the limit there is one
row, labelled `—` with no inputs, saying `Too many combinations selected (total). Reduce
selection to ≤ limit.`, where both numbers are written in full, as long as each has at most
`Decimal.digitLimit` (4300) digits; otherwise writing it fails with a `ValueError`.
When `total` is within the limit there are `total` rows, the `m`-th for the mask `m + 1`: it
keeps the arguments `sel[b]` at the set bits `b` of the mask, is labelled by their labels in
order, passes each kept argument its value (none where the null mask says so, else the value
given, else the empty text) and none to the others, and shows the template rendered with
those inputs. -/
theorem rows_contract (keep : Text.Keep) (r : VariantRequest) :
    let n := r.labels.length
    let sel := r.selection
    let k := sel.length
    let total := Nat.pow 2 k - 1
    sel = ((r.selected.getD ((List.range n).map Int.ofNat)).filter
      fun i : Int => 0 ≤ i ∧ i < n).map Int.toNat ∧
    (k = 0 → r.rows keep = .ok []) ∧
    (0 < k → r.limit < total → total < Nat.pow 10 Decimal.digitLimit →
      r.limit.natAbs < Nat.pow 10 Decimal.digitLimit →
      r.rows keep = .ok [⟨"—", [], "Too many combinations selected (" ++ toString total ++
        "). Reduce selection to ≤ " ++ toString r.limit ++ "."⟩]) ∧
    (0 < k → r.limit < total →
      (Nat.pow 10 Decimal.digitLimit ≤ total ∨ Nat.pow 10 Decimal.digitLimit ≤ r.limit.natAbs) →
      r.rows keep = .error ⟨"ValueError", "Exceeds the limit (4300 digits) for integer string " ++
        "conversion; use sys.set_int_max_str_digits() to increase the limit"⟩) ∧
    ((total : Int) ≤ r.limit → ∃ rows, r.rows keep = .ok rows ∧ rows.length = total ∧
      total = subsetCount k ∧
      ∀ m (hm : m < rows.length),
        let subset := ((List.range k).filter fun b => (m + 1).testBit b).map (sel.getD · 0)
        let inputs := (List.range n).map fun i =>
          if i ∈ subset then
            (if r.nullMask.getD i false then none else (r.values[i]?).getD (some ""))
          else none
        rows[m] = ⟨", ".intercalate (subset.map (r.labels.getD · "")), inputs,
          Template.formatSafe keep r.template inputs⟩) := by
  intro n sel k total
  have hsel : sel ≠ [] ↔ 0 < k := by simp [k, List.length_pos_iff]
  refine ⟨selection_eq r, fun hk => rows_of_nil keep r (List.length_eq_zero_iff.mp hk), ?_, ?_, ?_⟩
  · intro hk hl htotal hlimit
    exact rows_over_limit keep r (hsel.mpr hk) hl htotal hlimit
  · intro hk hl hlong
    rw [rows_overlong keep r (hsel.mpr hk) hl hlong, Scalar.overlong_eq]
  · intro hl
    refine ⟨_, rows_within_limit keep r hl, by simp [length_subsets, total, k, sel], rfl, ?_⟩
    intro m hm
    simp only [List.getElem_map, getElem_subsets, pick_eq _ _ 0, row_eq]
    rfl

/-- A selection that repeats one argument 14285 times has `2^14285 - 1` subsets, a number of
4301 digits: over the limit, the row that would give it cannot be written. -/
theorem rows_overlong_count :
    rows Text.Keep.empty
        { template := "[%s]", labels := ["A"], values := [], selected := some (List.replicate 14285 0),
          limit := 4096 } =
      .error ⟨"ValueError", "Exceeds the limit (4300 digits) for integer string " ++
        "conversion; use sys.set_int_max_str_digits() to increase the limit"⟩ := by
  have hsel : selection
      { template := "[%s]", labels := ["A"], values := [], selected := some (List.replicate 14285 0),
        limit := 4096 } = List.replicate 14285 0 := by
    rw [selection]
    dsimp only
    rw [List.filterMap_replicate]
    rfl
  -- the count is compared and measured as a number, never spelled out
  have hover : (4096 : Int) < subsetCount (List.replicate 14285 0).length := by
    rw [List.length_replicate]
    have : 4096 < subsetCount 14285 := by decide +kernel
    omega
  have hlong : Nat.pow 10 Decimal.digitLimit ≤ subsetCount (List.replicate 14285 0).length := by
    rw [List.length_replicate]
    decide +kernel
  rw [rows_overlong _ _ (by rw [hsel]; exact List.replicate_succ_ne_nil) (by rw [hsel]; exact hover)
    (.inl (by rw [hsel]; exact hlong)), Scalar.overlong_eq]

end VariantRequest

end CiteForm
