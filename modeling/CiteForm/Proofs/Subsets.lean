import Mathlib.Data.List.Sublists
import Mathlib.Data.List.FinRange
import CiteForm.Proofs.Variants
/-!
# Subsets in mask order

`subsets` reads the non-empty subsets of a list off the masks `1, …, 2^n - 1`, bit `b` of a
mask choosing the element at position `b`. A mask is read only through its bits below the
length (`pick_congr`), and an element put at the end is chosen by the bit at the old length
(`pick_concat`). So the masks below `2^(n+1)` are those below `2^n` and then each of them with
bit `n` set, which is the order in which `List.sublists` lists the sublists of a list:

* `map_pick_range` — the masks from `0` to `2^n - 1` choose `xs.sublists`, in order;
* `sublists_eq_nil_cons_subsets` — so the subsets are the sublists after the empty one;
* `subsets_enumerate_nonempty_sublists` — the subsets follow the recursion on the last element,
  there are `2^n - 1` of them, and every non-empty choice of positions is listed exactly once,
  its positions in increasing order.
-/

namespace CiteForm

variable {α β : Type}

/-- A mask is read only through its bits below the list's length. -/
theorem pick_congr (xs : List α) {m m' : Nat} (h : ∀ b < xs.length, m.testBit b = m'.testBit b) :
    pick xs m = pick xs m' := by
  induction xs generalizing m m' with
  | nil => rfl
  | cons x xs ih =>
    -- bit `0` chooses the head, the half of the mask chooses from the tail
    have hhead : m.testBit 0 = m'.testBit 0 := h 0 (Nat.succ_pos _)
    have htail : ∀ b < xs.length, (m / 2).testBit b = (m' / 2).testBit b := by
      intro b hb
      rw [Nat.testBit_div_two, Nat.testBit_div_two]
      exact h (b + 1) (Nat.succ_lt_succ hb)
    rw [pick_cons, pick_cons, hhead, ih htail]

/-- The empty mask chooses nothing. -/
theorem pick_zero (xs : List α) : pick xs 0 = [] := by
  simp [pick]

/-- An element put at the end is chosen by the bit at the old length. -/
theorem pick_concat (xs : List α) (y : α) (m : Nat) :
    pick (xs ++ [y]) m = pick xs m ++ (if m.testBit xs.length then [y] else []) := by
  simp only [pick, List.zipIdx_append, List.filter_append, List.map_append, List.zipIdx_singleton,
    Nat.zero_add]
  split <;> simp_all

/-- Setting bit `n` of a mask changes nothing a list of length `n` reads. -/
theorem pick_two_pow_add (xs : List α) (m : Nat) :
    pick xs (Nat.pow 2 xs.length + m) = pick xs m :=
  pick_congr xs fun _ hb => Nat.testBit_two_pow_add_gt hb m

/-- The masks below `2^n` choose the sublists of a list of length `n`, in the order of
`List.sublists`. -/
theorem map_pick_range (xs : List α) :
    (List.range (Nat.pow 2 xs.length)).map (pick xs) = xs.sublists := by
  induction xs using List.reverseRecOn with
  | nil => rfl
  | append_singleton xs y ih =>
    -- the masks below `2^(n+1)`: those below `2^n`, then the same with bit `n` set
    have hsplit : List.range (Nat.pow 2 (xs ++ [y]).length) =
        List.range (Nat.pow 2 xs.length) ++
          (List.range (Nat.pow 2 xs.length)).map (Nat.pow 2 xs.length + ·) := by
      rw [List.length_append, List.length_singleton]
      simp only [Nat.pow_eq, Nat.pow_succ, Nat.mul_two, List.range_add]
    have hlow : ∀ m ∈ List.range (Nat.pow 2 xs.length), pick (xs ++ [y]) m = pick xs m := by
      intro m hm
      rw [pick_concat, Nat.testBit_lt_two_pow (List.mem_range.mp hm)]
      simp
    have hhigh : ∀ m ∈ List.range (Nat.pow 2 xs.length),
        pick (xs ++ [y]) (Nat.pow 2 xs.length + m) = pick xs m ++ [y] := by
      intro m hm
      have hbit : (Nat.pow 2 xs.length + m).testBit xs.length = true := by
        rw [Nat.pow_eq, Nat.testBit_two_pow_add_eq, Nat.testBit_lt_two_pow (List.mem_range.mp hm)]
        rfl
      rw [pick_concat, pick_two_pow_add, hbit, if_pos rfl]
    rw [hsplit, List.map_append, List.sublists_concat, ← ih, List.map_congr_left hlow,
      List.map_map, List.map_map]
    congr 1
    exact List.map_congr_left hhigh

/-- The sublists of a list are the empty one, then the subsets in mask order. -/
theorem sublists_eq_nil_cons_subsets (xs : List α) : xs.sublists = [] :: subsets xs := by
  obtain ⟨k, hk⟩ : ∃ k, Nat.pow 2 xs.length = k + 1 :=
    Nat.exists_eq_add_one.mpr (Nat.two_pow_pos _)
  rw [← map_pick_range, subsets, hk, List.range_succ_eq_map, List.map_cons, Nat.add_sub_cancel,
    List.map_map, pick_zero]
  rfl

/-- Putting an element at the end: the old subsets, the element alone, then each old subset
with the element after it. -/
theorem subsets_concat (xs : List α) (y : α) :
    subsets (xs ++ [y]) = subsets xs ++ [[y]] ++ (subsets xs).map (· ++ [y]) := by
  have h := List.sublists_concat xs y
  rw [sublists_eq_nil_cons_subsets, sublists_eq_nil_cons_subsets, List.map_cons,
    List.cons_append, List.cons.injEq] at h
  rw [h.2, List.nil_append, List.append_assoc, List.singleton_append]

/-- Renaming the elements renames the subsets. -/
theorem subsets_map (f : α → β) (xs : List α) :
    subsets (xs.map f) = (subsets xs).map (List.map f) := by
  have h := List.sublists_map f xs
  rw [sublists_eq_nil_cons_subsets, sublists_eq_nil_cons_subsets, List.map_cons,
    List.map_nil, List.cons.injEq] at h
  exact h.2

/-- Bitmask subset enumeration follows the list recursion. There are no subsets of the empty
list; putting `y` at the end of `xs` gives the subsets of `xs`, then `[y]`, then each subset of
`xs` followed by `y`. There are `2^n - 1` subsets of a list of length `n`, as many as
`subsetCount` says. The subsets of `xs` are the elements at the positions of the subsets of
its positions `0, …, n - 1`, and those are each non-empty increasing choice of positions,
listed once. -/
theorem subsets_enumerate_nonempty_sublists (xs : List α) (y : α) :
    subsets ([] : List α) = [] ∧
    subsets (xs ++ [y]) = subsets xs ++ [[y]] ++ (subsets xs).map (· ++ [y]) ∧
    (subsets xs).length = Nat.pow 2 xs.length - 1 ∧
    (subsets xs).length = subsetCount xs.length ∧
    subsets xs = (subsets (List.finRange xs.length)).map (List.map xs.get) ∧
    (subsets (List.finRange xs.length)).Nodup ∧
    ∀ ps, ps ∈ subsets (List.finRange xs.length) ↔
      ps ≠ [] ∧ ps.Sublist (List.finRange xs.length) := by
  -- the positions' sublists are all different, the empty one first
  have hnodup : ([] :: subsets (List.finRange xs.length)).Nodup := by
    rw [← sublists_eq_nil_cons_subsets]
    exact List.nodup_sublists.mpr (List.nodup_finRange _)
  obtain ⟨hnil, hdistinct⟩ := List.nodup_cons.mp hnodup
  refine ⟨rfl, subsets_concat xs y, length_subsets xs, length_subsets xs, ?_, hdistinct, ?_⟩
  · rw [← subsets_map, List.map_get_finRange]
  · intro ps
    have hmem : ps ∈ ([] :: subsets (List.finRange xs.length)) ↔
        ps.Sublist (List.finRange xs.length) := by
      rw [← sublists_eq_nil_cons_subsets, List.mem_sublists]
    constructor
    · intro h
      exact ⟨fun hps => hnil (hps ▸ h), hmem.mp (List.mem_cons_of_mem _ h)⟩
    · rintro ⟨hne, hsub⟩
      exact (List.mem_cons.mp (hmem.mpr hsub)).resolve_left hne

end CiteForm
