import CiteForm.Analysis.Lint
/-!
# Well-nested texts

The nesting scan keeps the open openers on a stack. A text it finds nothing wrong with is
exactly a *well-nested* text: one built from characters other than the four group characters
and from groups `o B c`, where `o` opens, `c` is the closer of `o` and the body `B` is again
well nested. `Nested` says so as an inductive relation, and `scan_isClean_iff` shows that it is
what the scan decides.

Half of the equivalence runs the scan over a well-nested text, which comes back to the stack
it started from without noting anything (`Nested.scanFrom_append`). The other half reads the
scan backwards: a text that the scan finishes cleanly from a stack of open openers is
well-nested pieces separated by the closers of those openers, top first (`ClosesStack`).

* `Nested` — the well-nested texts.
* `scan_isClean_iff` — the scan finds nothing exactly on well-nested texts.
* `lint_isWarning_iff` — lint reports only matters of style exactly on well-nested texts.
-/

namespace CiteForm.Analysis

/-- The texts whose group characters are well nested. -/
inductive Nested : List Char → Prop where
  | nil : Nested []
  | char {c : Char} {rest : List Char} :
      isOpener c = false → isCloser c = false → Nested rest → Nested (c :: rest)
  | group {o : Char} {body rest : List Char} :
      isOpener o = true → Nested body → Nested rest → Nested (o :: body ++ closerOf o :: rest)

/-! ### The scan, one character at a time -/

namespace Nesting

section Steps

variable {c : Char} (rest : List Char) (i : Nat) (stack : List (Char × Nat))

/-- An opener goes on the stack. -/
theorem scanFrom_opener (ho : isOpener c = true) :
    scanFrom (c :: rest) i stack = scanFrom rest (i + 1) ((c, i) :: stack) := by
  simp [scanFrom, ho]

/-- A character that neither opens nor closes is passed over. -/
theorem scanFrom_plain (ho : isOpener c = false) (hc : isCloser c = false) :
    scanFrom (c :: rest) i stack = scanFrom rest (i + 1) stack := by
  simp [scanFrom, ho, hc]

/-- A closer that closes the top opener takes it off the stack. -/
theorem scanFrom_closer {o : Char} (j : Nat) (below : List (Char × Nat)) (ho : isOpener c = false)
    (hc : isCloser c = true) (hm : closerOf o = c) :
    scanFrom (c :: rest) i ((o, j) :: below) = scanFrom rest (i + 1) below := by
  simp [scanFrom, ho, hc, hm]

/-- A closer that does not close the top opener, or that finds no opener, is noted. -/
theorem isClean_scanFrom_unmatched (ho : isOpener c = false) (hc : isCloser c = true)
    (hm : ∀ o j below, stack = (o, j) :: below → closerOf o ≠ c) :
    (scanFrom (c :: rest) i stack).isClean = false := by
  cases stack with
  | nil => simp [scanFrom, ho, hc, isClean]
  | cons top below =>
    obtain ⟨o, j⟩ := top
    simp [scanFrom, ho, hc, hm o j below rfl, isClean]

end Steps

end Nesting

/-! ### Well-nested texts under the scan -/

namespace Nested

theorem append {a b : List Char} (ha : Nested a) (hb : Nested b) : Nested (a ++ b) := by
  induction ha with
  | nil => exact hb
  | char ho hc _ ih => exact .char ho hc ih
  | group ho hbody _ _ ih => simpa using Nested.group ho hbody ih

/-- A character that does not open can be taken off the front. -/
theorem of_cons {c : Char} {rest : List Char} (h : Nested (c :: rest)) (ho : isOpener c = false) :
    Nested rest := by
  cases h with
  | char _ _ h => exact h
  | group ho' _ _ => simp [ho] at ho'

/-- A well-nested text does not begin with a closer. -/
theorem not_closer {c : Char} {rest : List Char} (h : Nested (c :: rest)) : isCloser c = false := by
  cases h with
  | char _ hc _ => exact hc
  | group ho _ _ =>
    simp only [isOpener, Bool.or_eq_true, beq_iff_eq] at ho
    rcases ho with rfl | rfl <;> rfl

/-- The closer of an opener closes and does not open. -/
theorem closer_isCloser {o : Char} (ho : isOpener o = true) :
    isOpener (closerOf o) = false ∧ isCloser (closerOf o) = true := by
  simp only [isOpener, Bool.or_eq_true, beq_iff_eq] at ho
  rcases ho with rfl | rfl <;> decide

/-- The scan runs over a well-nested text without noting anything, and comes back to the stack
it started from. -/
theorem scanFrom_append {b : List Char} (hb : Nested b) (x : List Char) (i : Nat)
    (stack : List (Char × Nat)) :
    Nesting.scanFrom (b ++ x) i stack = Nesting.scanFrom x (i + b.length) stack := by
  induction hb generalizing x i stack with
  | nil => rfl
  | char ho hc _ ih =>
    rw [List.cons_append, Nesting.scanFrom_plain _ _ _ ho hc, ih, List.length_cons]
    congr 1
    omega
  | @group o body rest ho _ _ ihb ihr =>
    obtain ⟨hco, hc⟩ := closer_isCloser ho
    simp only [List.cons_append, List.append_assoc]
    rw [Nesting.scanFrom_opener _ _ _ ho, ihb, Nesting.scanFrom_closer _ _ _ _ hco hc rfl, ihr]
    simp only [List.length_cons, List.length_append]
    congr 1
    omega

end Nested

/-! ### Reading the scan backwards -/

/-- `ClosesStack os cs`: `cs` closes the open openers `os`, top first, and leaves nothing open:
it is well-nested pieces with the closer of each opener of `os` after one of them. -/
inductive ClosesStack : List Char → List Char → Prop where
  | nil {cs : List Char} : Nested cs → ClosesStack [] cs
  | cons {b rest : List Char} {o : Char} {os : List Char} :
      Nested b → ClosesStack os rest → ClosesStack (o :: os) (b ++ closerOf o :: rest)

/-- A well-nested piece may go in front of a text that closes a stack. -/
theorem ClosesStack.prepend {g : List Char} (hg : Nested g) {os cs : List Char}
    (h : ClosesStack os cs) : ClosesStack os (g ++ cs) := by
  cases h with
  | nil hcs => exact .nil (hg.append hcs)
  | cons hb hrest => simpa using ClosesStack.cons (hg.append hb) hrest

/-- A text the scan finishes cleanly from a stack closes the stack's openers. -/
theorem closesStack_of_isClean : ∀ (cs : List Char) (i : Nat) (stack : List (Char × Nat)),
    (Nesting.scanFrom cs i stack).isClean = true → ClosesStack (stack.map Prod.fst) cs
  | [], _, stack, h => by
    -- the openers still on the stack would be reported unclosed
    have hs : stack = [] := by simpa [Nesting.scanFrom, Nesting.isClean] using h
    subst hs
    exact .nil .nil
  | c :: rest, i, stack, h => by
    by_cases ho : isOpener c = true
    · rw [Nesting.scanFrom_opener _ _ _ ho] at h
      -- the opener's closer comes after a well-nested body
      cases closesStack_of_isClean rest (i + 1) ((c, i) :: stack) h with
      | cons hb hrest =>
        have hg : Nested (c :: _ ++ [closerOf c]) := Nested.group ho hb .nil
        simpa using hrest.prepend hg
    · have ho : isOpener c = false := by simpa using ho
      by_cases hc : isCloser c = true
      · cases stack with
        | nil => simp [Nesting.isClean_scanFrom_unmatched rest i [] ho hc (by simp)] at h
        | cons top below =>
          obtain ⟨o, j⟩ := top
          by_cases hm : closerOf o = c
          · rw [Nesting.scanFrom_closer _ _ _ _ ho hc hm] at h
            have hrest := closesStack_of_isClean rest (i + 1) below h
            subst hm
            simpa using ClosesStack.cons .nil hrest
          · have hne : ∀ o' j' below', (o, j) :: below = (o', j') :: below' →
                closerOf o' ≠ c := by
              rintro o' j' below' heq
              simp only [List.cons.injEq, Prod.mk.injEq] at heq
              rw [← heq.1.1]
              exact hm
            simp [Nesting.isClean_scanFrom_unmatched rest i _ ho hc hne] at h
      · have hc : isCloser c = false := by simpa using hc
        rw [Nesting.scanFrom_plain _ _ _ ho hc] at h
        simpa using (closesStack_of_isClean rest (i + 1) stack h).prepend (Nested.char ho hc .nil)

/-- The scan finds nothing wrong exactly with well-nested texts. -/
theorem scan_isClean_iff {cs : List Char} : (Nesting.scan cs).isClean = true ↔ Nested cs := by
  constructor
  · intro h
    cases closesStack_of_isClean cs 0 [] h with
    | nil hcs => exact hcs
  · intro h
    have hrun := h.scanFrom_append [] 0 []
    rw [List.append_nil] at hrun
    simp [Nesting.scan, hrun, Nesting.scanFrom, Nesting.isClean]

/-- Lint reports only matters of style exactly when the scan finds nothing wrong. -/
theorem lint_isWarning_iff_isClean {cs : List Char} :
    (∀ i ∈ lint cs, i.isWarning = true) ↔ (Nesting.scan cs).isClean = true := by
  constructor
  · intro h
    simp only [Nesting.isClean, Bool.and_eq_true, List.isEmpty_iff]
    constructor
    · -- an unmatched closer would be reported as such
      cases hu : (Nesting.scan cs).unmatched with
      | nil => rfl
      | cons x xs =>
        have hx := h (.unmatched x.1 x.2) (by simp [lint, hu])
        simp [Issue.isWarning] at hx
    · cases hu : (Nesting.scan cs).unclosed with
      | nil => rfl
      | cons x xs =>
        have hx := h .unclosed (by simp [lint, hu])
        simp [Issue.isWarning] at hx
  · intro h i hi
    simp only [Nesting.isClean, Bool.and_eq_true, List.isEmpty_iff] at h
    simp only [lint, h.1, h.2, List.map_nil, List.isEmpty_nil, if_true, List.nil_append,
      List.mem_append] at hi
    rcases hi with hi | hi <;> split at hi <;> simp_all [Issue.isWarning]

/-- Lint reports only matters of style exactly on well-nested texts. -/
theorem lint_isWarning_iff {cs : List Char} : (∀ i ∈ lint cs, i.isWarning = true) ↔ Nested cs :=
  lint_isWarning_iff_isClean.trans scan_isClean_iff

end CiteForm.Analysis
