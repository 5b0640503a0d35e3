import CiteForm.Tool.Fields
/-!
# Null indices

A command gathers its field values from a values file and its `--value` texts, then makes null
the field at each `--null` index in turn, padding with empty texts up to an index past the end.
Said at once, the result is `withNulls b ns`: the base fields `b`, as long as `b` and every index,
null at the indices and empty in the gaps. One index turns `withNulls b ns` into
`withNulls b (ns ++ [n])` (`nullAt_withNulls`), so a whole run of indices gives it
(`markNulls_withNulls`), and since it depends only on which indices are named, their order and
repeats do not matter (`withNulls_congr`).

The first index that is refused ends the run: a negative one, or one whose padding cannot be
allocated, a count of `2^60` items or more (`gatherFields_nulls`).
-/

namespace CiteForm.Tool

open CommandLine

/-- A field given on the command line, as a slot. -/
def Slot.ofGiven : Held String → Slot
  | .value s => .value (some s)
  | .empty => .empty

/-- How long the fields are once the indices `ns` are made null: at least `len`, and past every
index. -/
def nullsLength (len : Nat) (ns : List Nat) : Nat :=
  ns.foldr (fun n m => max (n + 1) m) len

/-- The fields `b` with those at the indices `ns` made null, and empty texts in the gaps. -/
def withNulls (b : List Slot) (ns : List Nat) : List Slot :=
  (List.range (nullsLength b.length ns)).map fun i =>
    if i ∈ ns then .value none else b.getD i (.value (some ""))

/-! ### Fields made null, said at once -/

theorem lt_nullsLength_iff {len i : Nat} {ns : List Nat} :
    i < nullsLength len ns ↔ i < len ∨ ∃ n ∈ ns, i ≤ n := by
  induction ns with
  | nil => simp [nullsLength]
  | cons n ns ih =>
    have hmax : i < max (n + 1) (nullsLength len ns) ↔ i ≤ n ∨ i < nullsLength len ns := by omega
    show i < max (n + 1) (nullsLength len ns) ↔ _
    rw [hmax, ih]
    simp only [List.mem_cons, exists_eq_or_imp]
    exact or_left_comm

theorem nullsLength_concat (len : Nat) (ns : List Nat) (n : Nat) :
    nullsLength len (ns ++ [n]) = max (nullsLength len ns) (n + 1) := by
  induction ns with
  | nil => exact Nat.max_comm _ _
  | cons m ns ih =>
    show max (m + 1) (nullsLength len (ns ++ [n])) = max (max (m + 1) (nullsLength len ns)) (n + 1)
    rw [ih, Nat.max_assoc]

/-- Lists of indices with the same members give the same length. -/
theorem nullsLength_congr (len : Nat) {ns ns' : List Nat} (h : ∀ i, i ∈ ns ↔ i ∈ ns') :
    nullsLength len ns = nullsLength len ns' := by
  have hlt : ∀ i, i < nullsLength len ns ↔ i < nullsLength len ns' := by
    intro i
    simp only [lt_nullsLength_iff, h]
  exact Nat.le_antisymm (Nat.le_of_not_lt fun hlt' => Nat.lt_irrefl _ ((hlt _).mp hlt'))
    (Nat.le_of_not_lt fun hlt' => Nat.lt_irrefl _ ((hlt _).mpr hlt'))

theorem length_withNulls (b : List Slot) (ns : List Nat) :
    (withNulls b ns).length = nullsLength b.length ns := by
  simp [withNulls]

/-- Reading past the end of the fields gives the empty text, as the padding does. -/
theorem getD_withNulls (b : List Slot) (ns : List Nat) (i : Nat) :
    (withNulls b ns).getD i (.value (some "")) =
      if i ∈ ns then .value none else b.getD i (.value (some "")) := by
  by_cases hi : i < nullsLength b.length ns
  · simp [withNulls, List.getD_eq_getElem?_getD, hi]
  · -- past every index and past the base fields
    have hout : i ∉ ns ∧ b.length ≤ i := by
      rw [lt_nullsLength_iff, not_or] at hi
      exact ⟨fun hn => hi.2 ⟨i, hn, Nat.le_refl i⟩, Nat.le_of_not_lt hi.1⟩
    simp [withNulls, List.getD_eq_getElem?_getD, hi, hout.1, hout.2]

theorem withNulls_nil (b : List Slot) : withNulls b [] = b := by
  apply List.ext_getElem (by simp [withNulls, nullsLength])
  intro i h₁ h₂
  simp [withNulls, List.getD_eq_getElem?_getD, List.getElem?_eq_getElem h₂]

/-- Which indices are named is all that counts, not their order or repeats. -/
theorem withNulls_congr (b : List Slot) {ns ns' : List Nat} (h : ∀ i, i ∈ ns ↔ i ∈ ns') :
    withNulls b ns = withNulls b ns' := by
  simp only [withNulls, nullsLength_congr b.length h, h]

/-! ### One index at a time -/

theorem length_nullAt (vals : List Slot) (n : Nat) : (nullAt vals n).length = max vals.length (n + 1) := by
  simp only [nullAt, List.length_set, List.length_append, List.length_replicate]
  omega

/-- Making one field null, said at once: the fields, long enough to hold the index, with the one
there null. -/
theorem nullAt_eq_map_range (vals : List Slot) (n : Nat) :
    nullAt vals n = (List.range (max vals.length (n + 1))).map fun i =>
      if i = n then .value none else vals.getD i (.value (some "")) := by
  apply List.ext_getElem (by simp [length_nullAt])
  intro i h₁ h₂
  simp only [nullAt, List.getElem_set, List.getElem_map, List.getElem_range]
  by_cases hn : n = i
  · subst hn
    simp
  · rw [if_neg hn, if_neg (Ne.symm hn), List.getElem_append]
    split
    · next hv => simp [List.getD_eq_getElem?_getD, List.getElem?_eq_getElem hv]
    · next hv => simp [List.getD_eq_getElem?_getD, Nat.le_of_not_lt hv]

/-- One more index: the field there is made null, and empty texts fill any gap before it. -/
theorem nullAt_withNulls (b : List Slot) (ns : List Nat) (n : Nat) :
    nullAt (withNulls b ns) n = withNulls b (ns ++ [n]) := by
  rw [nullAt_eq_map_range, length_withNulls]
  conv => rhs; rw [withNulls, nullsLength_concat]
  refine List.map_congr_left fun i _ => ?_
  rw [getD_withNulls]
  by_cases hn : i = n <;> simp [hn]

/-! ### The run of indices -/

theorem paddingFault?_of_lt {k : Nat} (h : k < Nat.pow 2 60) : paddingFault? k = none := by
  have h63 : ¬ Nat.pow 2 63 ≤ k := fun h' => Nat.lt_irrefl k (Nat.lt_of_lt_of_le h
    (Nat.le_trans (Nat.pow_le_pow_right (by decide) (by decide)) h'))
  simp [paddingFault?, h63, Nat.not_le.mpr h]

theorem markNulls_cons_neg (vals : List Slot) {n : Int} (h : n < 0) (ns : List (Held Int)) :
    markNulls vals (.value n :: ns) = .error (.negativeIndex n) := by
  simp [markNulls, h]

/-- An index that needs no padding beyond what can be allocated makes its field null and the
run goes on. -/
theorem markNulls_cons_of_lt (vals : List Slot) {n : Int} (h0 : 0 ≤ n)
    (hpad : n.toNat + 1 - vals.length < Nat.pow 2 60) (ns : List (Held Int)) :
    markNulls vals (.value n :: ns) = markNulls (nullAt vals n.toNat) ns := by
  simp [markNulls, Int.not_lt.mpr h0, paddingFault?_of_lt hpad]

theorem markNulls_cons_overflow (vals : List Slot) {n : Int} (h0 : 0 ≤ n)
    (hpad : Nat.pow 2 63 ≤ n.toNat + 1 - vals.length) (ns : List (Held Int)) :
    markNulls vals (.value n :: ns) = .error .paddingOverflow := by
  simp [markNulls, Int.not_lt.mpr h0, paddingFault?, hpad]

theorem markNulls_cons_outOfMemory (vals : List Slot) {n : Int} (h0 : 0 ≤ n)
    (hpad : Nat.pow 2 60 ≤ n.toNat + 1 - vals.length) (hfit : n.toNat + 1 - vals.length < Nat.pow 2 63)
    (ns : List (Held Int)) :
    markNulls vals (.value n :: ns) = .error .paddingOutOfMemory := by
  simp [markNulls, Int.not_lt.mpr h0, paddingFault?, hpad, Nat.not_le.mpr hfit]

/-- An index below `2^60 - 1` never needs a padding that cannot be allocated. -/
theorem pad_lt_of_bound (len : Nat) {n : Int} (h0 : 0 ≤ n) (hn : n + 1 < (Nat.pow 2 60 : Int)) :
    n.toNat + 1 - len < Nat.pow 2 60 := by
  have hcast : (n.toNat : Int) = n := Int.toNat_of_nonneg h0
  omega

/-- A run of non-negative indices, each below `2^60 - 1`, makes null the field at each. -/
theorem markNulls_withNulls (b : List Slot) (ns : List Int) :
    ∀ ms : List Nat, (∀ n ∈ ns, 0 ≤ n ∧ n + 1 < (Nat.pow 2 60 : Int)) →
      markNulls (withNulls b ms) (ns.map .value) = .ok (withNulls b (ms ++ ns.map Int.toNat)) := by
  induction ns with
  | nil =>
    intro ms _
    simp [markNulls]
  | cons n ns ih =>
    intro ms h
    obtain ⟨h0, hn⟩ := h n List.mem_cons_self
    rw [List.map_cons, markNulls_cons_of_lt _ h0 (pad_lt_of_bound _ h0 hn), nullAt_withNulls,
      ih _ fun m hm => h m (List.mem_cons_of_mem n hm)]
    simp

/-- With every index below `2^60 - 1`, the first negative one is refused. -/
theorem markNulls_of_exists_neg (ns : List Int) :
    ∀ vals : List Slot, (∀ n ∈ ns, n + 1 < (Nat.pow 2 60 : Int)) → (∃ n ∈ ns, n < 0) →
      ∃ n < 0, markNulls vals (ns.map .value) = .error (.negativeIndex n) := by
  induction ns with
  | nil =>
    intro vals _ hneg
    simp at hneg
  | cons n ns ih =>
    intro vals hbound hneg
    by_cases hn : n < 0
    · exact ⟨n, hn, markNulls_cons_neg vals hn _⟩
    · -- this index is taken, so the negative one comes later
      have h0 : 0 ≤ n := Int.not_lt.mp hn
      have hlater : ∃ m ∈ ns, m < 0 := by
        obtain ⟨m, hm, hm0⟩ := hneg
        rcases List.mem_cons.mp hm with rfl | hm
        · exact absurd hm0 hn
        · exact ⟨m, hm, hm0⟩
      rw [List.map_cons, markNulls_cons_of_lt _ h0 (pad_lt_of_bound _ h0 (hbound n List.mem_cons_self))]
      exact ih _ (fun m hm => hbound m (List.mem_cons_of_mem n hm)) hlater

/-- A run that gets through its first indices goes on from the fields they leave. -/
theorem markNulls_append_of_ok {vals vals' : List Slot} {xs : List (Held Int)}
    (h : markNulls vals xs = .ok vals') (ys : List (Held Int)) :
    markNulls vals (xs ++ ys) = markNulls vals' ys := by
  induction xs generalizing vals with
  | nil =>
    cases h
    rfl
  | cons x xs ih =>
    cases x with
    | empty => cases h
    | value n =>
      by_cases hn : n < 0
      · rw [markNulls_cons_neg vals hn] at h
        cases h
      · -- the index was taken, or its padding refused, as the run of `xs` alone found
        simp only [markNulls, if_neg hn] at h ⊢
        split at h
        · cases h
        · next hfit => rw [List.cons_append, markNulls, if_neg hn, hfit, ih h]

/-- Bounded non-negative indices, from the base fields: the fields said at once. -/
theorem markNulls_eq_withNulls (b : List Slot) {ns : List Int}
    (h : ∀ n ∈ ns, 0 ≤ n ∧ n + 1 < (Nat.pow 2 60 : Int)) :
    markNulls b (ns.map .value) = .ok (withNulls b (ns.map Int.toNat)) := by
  have hrun := markNulls_withNulls b ns [] h
  rwa [withNulls_nil, List.nil_append] at hrun

/-- With every index below `2^60 - 1`, the run fails with a `ValueError` exactly when some index
is negative. -/
theorem markNulls_valueError_iff (b : List Slot) {ns : List Int}
    (hbound : ∀ n ∈ ns, n + 1 < (Nat.pow 2 60 : Int)) :
    (∃ n ∈ ns, n < 0) ↔ ∃ e, markNulls b (ns.map .value) = .error e ∧ e.kind = "ValueError" := by
  constructor
  · intro hneg
    obtain ⟨n, _, hn⟩ := markNulls_of_exists_neg ns b hbound hneg
    exact ⟨_, hn, rfl⟩
  · rintro ⟨e, he, -⟩
    -- with no negative index the run succeeds
    refine Classical.byContradiction fun hneg => ?_
    have hall : ∀ n ∈ ns, 0 ≤ n ∧ n + 1 < (Nat.pow 2 60 : Int) :=
      fun n hn => ⟨Int.not_lt.mp fun h => hneg ⟨n, hn, h⟩, hbound n hn⟩
    rw [markNulls_eq_withNulls b hall] at he
    cases he

theorem getElem_withNulls (b : List Slot) (ns : List Nat) (i : Nat) (hi : i < (withNulls b ns).length) :
    (withNulls b ns)[i] = if i ∈ ns then .value none else b.getD i (.value (some "")) := by
  simp [withNulls]

/-- The fields gathered from a values file that was read and from the given texts: the file's
values, then the texts. -/
theorem gatherFields_eq (fromFile : Option (List (Option String))) (given : List (Held String))
    (nulls : List (Held Int)) :
    gatherFields (fromFile.map .ok) given nulls =
      markNulls ((fromFile.getD []).map Held.value ++ given.map Slot.ofGiven) nulls := by
  cases fromFile <;> rfl

/-- Non-negative indices name the same fields as their natural numbers. -/
theorem mem_map_toNat {ns : List Int} (h : ∀ n ∈ ns, 0 ≤ n) (i : Nat) :
    i ∈ ns.map Int.toNat ↔ (i : Int) ∈ ns := by
  constructor
  · rw [List.mem_map]
    rintro ⟨n, hn, rfl⟩
    rwa [Int.toNat_of_nonneg (h n hn)]
  · intro hi
    exact List.mem_map.mpr ⟨i, hi, rfl⟩

/-- How long the fields are once integer indices are made null: past `b` and every index. -/
theorem length_withNulls_map_toNat (b : List Slot) (ns : List Int) :
    (withNulls b (ns.map Int.toNat)).length = (ns.map fun m => m.toNat + 1).foldr max b.length := by
  simp only [length_withNulls, nullsLength, List.foldr_map]

/-- Non-negative indices with the same members make the same fields null. -/
theorem withNulls_map_toNat_congr (b : List Slot) {ns ns' : List Int} (h0 : ∀ n ∈ ns, 0 ≤ n)
    (hmem : ∀ n, n ∈ ns ↔ n ∈ ns') :
    withNulls b (ns.map Int.toNat) = withNulls b (ns'.map Int.toNat) := by
  have h0' : ∀ n ∈ ns', 0 ≤ n := fun n hn => h0 n ((hmem n).mpr hn)
  refine withNulls_congr b fun i => ?_
  rw [mem_map_toNat h0, mem_map_toNat h0', hmem]

/-- `--null` handling. Let `b` be the fields of a values file that was read (none without one)
followed by the given `--value` texts, and `ns` the `--null` indices. When every index is below
`2^60 - 1`, gathering fails with a `ValueError` exactly when some index is negative; when none is,
the fields are as long as `b` and past every index, null at each index, the base field at every
other position of `b`, and the empty text in the gaps, whatever the order and repeats of `ns`. A
non-negative index that, at its turn, asks for `2^60` or more empty texts of padding is refused
with a `MemoryError`, or an `OverflowError` from `2^63` on. -/
theorem gatherFields_nulls (fromFile : Option (List (Option String))) (given : List (Held String)) :
    let b : List Slot := (fromFile.getD []).map Held.value ++ given.map Slot.ofGiven
    (∀ ns : List Int, (∀ n ∈ ns, n + 1 < (Nat.pow 2 60 : Int)) →
      ((∃ n ∈ ns, n < 0) ↔ ∃ e, gatherFields (fromFile.map .ok) given (ns.map .value) = .error e ∧
        e.kind = "ValueError")) ∧
    (∀ ns : List Int, (∀ n ∈ ns, 0 ≤ n ∧ n + 1 < (Nat.pow 2 60 : Int)) →
      ∃ r, gatherFields (fromFile.map .ok) given (ns.map .value) = .ok r ∧
        r.length = (ns.map fun n => n.toNat + 1).foldr max b.length ∧
        ∀ i (hi : i < r.length), r[i] = if (i : Int) ∈ ns then .value none else b.getD i (.value (some ""))) ∧
    (∀ ns ns' : List Int, (∀ n, n ∈ ns ↔ n ∈ ns') → (∀ n ∈ ns, 0 ≤ n ∧ n + 1 < (Nat.pow 2 60 : Int)) →
      gatherFields (fromFile.map .ok) given (ns.map .value) =
        gatherFields (fromFile.map .ok) given (ns'.map .value)) ∧
    (∀ (ns : List Int) (n : Int) (rest : List (Held Int)),
      (∀ m ∈ ns, 0 ≤ m ∧ m + 1 < (Nat.pow 2 60 : Int)) → 0 ≤ n →
      Nat.pow 2 63 ≤ n.toNat + 1 - (ns.map fun m => m.toNat + 1).foldr max b.length →
      ∃ e, gatherFields (fromFile.map .ok) given (ns.map .value ++ .value n :: rest) = .error e ∧
        e.kind = "OverflowError") ∧
    (∀ (ns : List Int) (n : Int) (rest : List (Held Int)),
      (∀ m ∈ ns, 0 ≤ m ∧ m + 1 < (Nat.pow 2 60 : Int)) → 0 ≤ n →
      Nat.pow 2 60 ≤ n.toNat + 1 - (ns.map fun m => m.toNat + 1).foldr max b.length →
      n.toNat + 1 - (ns.map fun m => m.toNat + 1).foldr max b.length < Nat.pow 2 63 →
      ∃ e, gatherFields (fromFile.map .ok) given (ns.map .value ++ .value n :: rest) = .error e ∧
        e.kind = "MemoryError") := by
  intro b
  simp only [gatherFields_eq]
  refine ⟨fun ns hbound => markNulls_valueError_iff b hbound, ?_, ?_, ?_, ?_⟩
  · intro ns h
    have h0 : ∀ n ∈ ns, 0 ≤ n := fun n hn => (h n hn).1
    refine ⟨_, markNulls_eq_withNulls b h, ?_, fun i hi => ?_⟩
    · exact length_withNulls_map_toNat b ns
    · rw [getElem_withNulls]
      simp only [mem_map_toNat h0]
  · intro ns ns' hmem h
    have h' : ∀ n ∈ ns', 0 ≤ n ∧ n + 1 < (Nat.pow 2 60 : Int) := fun n hn => h n ((hmem n).mpr hn)
    rw [markNulls_eq_withNulls b h, markNulls_eq_withNulls b h',
      withNulls_map_toNat_congr b (fun n hn => (h n hn).1) hmem]
  · intro ns n rest h h0 hpad
    rw [← length_withNulls_map_toNat] at hpad
    rw [markNulls_append_of_ok (markNulls_eq_withNulls b h)]
    exact ⟨_, markNulls_cons_overflow _ h0 hpad rest, rfl⟩
  · intro ns n rest h h0 hpad hfit
    rw [← length_withNulls_map_toNat] at hpad hfit
    rw [markNulls_append_of_ok (markNulls_eq_withNulls b h)]
    exact ⟨_, markNulls_cons_outOfMemory _ h0 hpad hfit rest, rfl⟩

/-- An index of `2^63` asks for more padding than a machine index can count: though no index is
negative, the fields are not returned, and the failure is an `OverflowError`. -/
theorem gatherFields_null_overflow :
    (∀ n ∈ [(Nat.pow 2 63 : Int)], 0 ≤ n) ∧
      gatherFields none [.value "A"] [.value (Nat.pow 2 63 : Int)] = .error .paddingOverflow ∧
      FieldError.paddingOverflow.kind = "OverflowError" :=
  ⟨by decide, by rfl, rfl⟩

end CiteForm.Tool
